import TvApp.StepSystem
import TvApp.StreamOwnership
import TvApp.CallEffects
import TvApp.ChannelWalk

/-! Calls of `startChannel` on several threads, and the callback of the demultiplexer.
The worker calls it for P+ and P-, and every expiry of the key timer has a thread of its
own that may call it too; they share the static variables and nothing keeps them apart.
A statement, the parse of a section and the scan of the PMT are one step each; reads that
overlap a parse come with `RacingReads`.  A wait ends only after a signal that was sent
during it.

What the program does not keep is kept as history: the PMT sections parsed since a
thread last set its PMT filter, and which of them it found at its scan. -/
namespace TvApp

open Routine

variable {D : Type}

inductive Caller
  | worker | keyTimer (expiry : ℕ)
  deriving DecidableEq, Repr

structure CarriedSection where
  pid : UInt16
  bytes : Buffer

/-- The thread of `sectionReceivedCallback`: waiting for a section, about to parse
one, or, after an accepted one, about to signal. -/
inductive Callback
  | idle | arrived (sec : CarriedSection) | signalling

def Callback.inProgress : Callback → Bool
  | .idle => false
  | _ => true

/-- Where a thread is in `pthread_cond_wait(&demuxCond, &demuxMutex)`. -/
inductive CondWait
  | outside | blocked | woken
  deriving DecidableEq, Repr

def CondWait.signal : CondWait → CondWait
  | .blocked => .woken
  | w => w

structure CallerState where
  frame : Frame
  demuxCond : CondWait
  /-- History: PMT sections parsed since this thread's last `Demux_Set_Filter` for a
  PMT, in order. -/
  parsedSince : List CarriedSection
  /-- History: the last of them when the thread scanned `pmtTable`. -/
  source : Option CarriedSection

structure Tuning (D : Type) where
  controller : Controller D
  callback : Callback
  caller : Caller → CallerState
  /-- Expiries of the key timer so far; the threads from there on do not exist yet. -/
  expiries : ℕ

inductive TuningEvent
  /-- The next statement of a thread, or the entry of a wait. -/
  | advance (t : Caller)
  | workerCalls
  | press (key : ProgrammeKey)
  /-- An expiry, with the number that `changeChannelKey` is called with. -/
  | dial (channelNumber : Int32)
  | begins (sec : CarriedSection)
  | parses
  | signals

def Label.waits : Label → Bool
  | .waitPat | .waitPmt | .waitTdt | .waitTot => true
  | _ => false

def Label.active (l : Label) : Bool := l.inCall && !l.idle

/-- What a thread finds in the tables when it goes on. -/
def SectionTables.arrival (tables : SectionTables) : Arrival :=
  ⟨tables.patTable,tables.pmtTable,tables.tdtTable,tables.totTable⟩

namespace Tuning

def label (s : Tuning D) (t : Caller) : Label := (s.caller t).frame.label

def config (s : Tuning D) (t : Caller) : Config D := ⟨s.controller,(s.caller t).frame⟩

def withCaller (s : Tuning D) (t : Caller) (th : CallerState) : Tuning D :=
  { s with caller := Function.update s.caller t th }

@[simp] theorem withCaller_caller_self (s : Tuning D) (t : Caller) (th : CallerState) :
    (s.withCaller t th).caller t = th := by
  simp only [withCaller,Function.update_self]

theorem withCaller_caller_of_ne (s : Tuning D) {t t' : Caller} (th : CallerState) (h : t' ≠ t) :
    (s.withCaller t th).caller t' = s.caller t' := by
  simp only [withCaller,Function.update_of_ne h]

def statement (api : TdpApi D) (s : Tuning D) (t : Caller) : Tuning D :=
  let c := TvApp.step api (s.config t) s.controller.tables.arrival
  let th : CallerState := s.caller t
  { s with controller := c.controller }.withCaller t
    { frame := c.frame
      demuxCond := .outside
      parsedSince := if th.frame.label = Label.setPmtFilter then [] else th.parsedSince
      source := if th.frame.label = Label.scan then th.parsedSince.getLast? else th.source }

def advance (api : TdpApi D) (s : Tuning D) (t : Caller) : Option (Tuning D) :=
  if (s.label t).waits then
    match (s.caller t).demuxCond with
    | .outside => some (s.withCaller t { s.caller t with demuxCond := .blocked })
    | .blocked => none
    | .woken => some (s.statement api t)
  else if (s.label t).idle then none
  else some (s.statement api t)

def calls (s : Tuning D) (t : Caller) (channelNumber : Int32) : Tuning D :=
  s.withCaller t { s.caller t with frame := (startChannel s.controller channelNumber).frame }

/-- The first call after set-up, and those of the loop of `streamControllerTask`. -/
def workerCalls (s : Tuning D) : Option (Tuning D) :=
  match s.label .worker with
  | .ready => some (s.calls .worker s.controller.programNumber.toInt32)
  | .returned | .filterFailed =>
    if s.controller.changeChannel then
      some ({ s with controller := { s.controller with changeChannel := false } }.calls .worker
        s.controller.programNumber.toInt32)
    else none
  | _ => none

def press (s : Tuning D) (key : ProgrammeKey) : Tuning D :=
  { s with controller := { s.controller with
      programNumber := key.press s.controller.tables.patTable.serviceInfoCount
        s.controller.programNumber
      changeChannel := true } }

def dial (s : Tuning D) (channelNumber : Int32) : Tuning D :=
  let s' := { s with expiries := s.expiries+1 }
  if changeChannelKeyAccepts s.controller.tables.patTable.serviceInfoCount channelNumber then
    s'.calls (.keyTimer s.expiries) channelNumber
  else s'

def record (caller : Caller → CallerState) (sec : CarriedSection) : Caller → CallerState :=
  if sec.bytes 0 = 0x02 then
    fun t => { caller t with parsedSince := (caller t).parsedSince ++ [sec] }
  else caller

/-- The parse; a subscript out of range ends the run. -/
def parses (s : Tuning D) (sec : CarriedSection) : Option (Tuning D) :=
  match run sec.bytes (sectionReceivedCallback s.controller.tables) with
  | .error _ => none
  | .ok r =>
    some { s with
      controller := { s.controller with tables := r.2 }
      callback := if r.1 then .signalling else .idle
      caller := record s.caller sec }

def step (api : TdpApi D) (s : Tuning D) : TuningEvent → Option (Tuning D)
  | .advance t => s.advance api t
  | .workerCalls => s.workerCalls
  | .press key => some (s.press key)
  | .dial channelNumber => some (s.dial channelNumber)
  | .begins sec =>
    match s.callback with
    | .idle => some { s with callback := .arrived sec }
    | _ => none
  | .parses =>
    match s.callback with
    | .arrived sec => s.parses sec
    | _ => none
  | .signals =>
    match s.callback with
    | .signalling =>
      some { s with
        callback := .idle
        caller := fun t => { s.caller t with demuxCond := (s.caller t).demuxCond.signal } }
    | _ => none

/-- The worker has just set the filter for the PAT. -/
def initial (api : TdpApi D) (s : Controller D) : Tuning D :=
  let c := TvApp.step api (boot s) s.tables.arrival
  { controller := c.controller
    callback := .idle
    caller := fun t => match t with
      | .worker => ⟨c.frame,.outside,[],none⟩
      | .keyTimer _ => ⟨⟨.returned,0,-1,-1⟩,.outside,[],none⟩
    expiries := 0 }

/-- Assumption on the demultiplexer: a callback begins only for a section that matches
a filter installed at that moment. -/
def Delivers (api : TdpApi D) (s : Tuning D) : TuningEvent → Prop
  | .begins sec => ∃ fl ∈ api.filters s.controller.device, sec.pid = fl.pid ∧ sec.bytes 0 = fl.tableId
  | _ => True

def NoCall (s : Tuning D) : Prop :=
  (s.label .worker).active = false ∧ ∀ n < s.expiries, (s.label (.keyTimer n)).active = false

/-- Calls do not overlap, and no callback is in progress when a call sets its filter. -/
def Apart (s : Tuning D) : TuningEvent → Prop
  | .advance t => s.label t = .setPmtFilter → s.callback.inProgress = false
  | .workerCalls => s.NoCall
  | .dial channelNumber =>
    changeChannelKeyAccepts s.controller.tables.patTable.serviceInfoCount channelNumber → s.NoCall
  | _ => True

end Tuning
end TvApp

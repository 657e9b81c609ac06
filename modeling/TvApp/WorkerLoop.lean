import TvApp.CallEffects
import TvApp.ChannelWalk
import TvApp.SectionEncoding
import TvApp.ReferenceDevice

/-! The loop of `streamControllerTask` and the key thread, statement by statement and
in any order.
The key thread writes `programNumber` and then sets `changeChannel`; the worker clears
the flag and then reads the number.  Memory is sequentially consistent and nobody
dials.  Presses can fall anywhere, also before the first call and during any call. -/
namespace TvApp

open CyclicWalk

variable {D : Type}

/-- Where the worker is: before its first read of `programNumber`, in a call of
`startChannel`, or at one of the statements of its loop. -/
inductive WorkerPc
  | bootRead | running | test | clear | read
  deriving DecidableEq, Repr

inductive KeyPc
  | idle | written
  deriving DecidableEq, Repr

/-- The frame in `config` is that of the worker's last call, also after its end, so
that its `channelNumber` is the channel last started. -/
structure System (D : Type) where
  config : Config D
  worker : WorkerPc
  key : KeyPc

inductive Event
  | worker (a : Arrival)
  | press (key : ProgrammeKey)
  | raise

namespace System

def controller (s : System D) : Controller D := s.config.controller

def withController (s : System D) (controller : Controller D) : System D :=
  { s with config := { s.config with controller := controller } }

def beginCall (s : System D) : System D :=
  { s with config := startChannel s.controller s.controller.programNumber.toInt32, worker := .running }

def workerStep (api : TdpApi D) (s : System D) (a : Arrival) : System D :=
  match s.worker with
  | .bootRead => s.beginCall
  | .running =>
    if s.config.frame.label.idle then { s with worker := .test }
    else { s with config := step api s.config a }
  | .test => if s.controller.changeChannel then { s with worker := .clear } else s
  | .clear => { s.withController { s.controller with changeChannel := false } with worker := .read }
  | .read => s.beginCall

def pressStep (s : System D) (key : ProgrammeKey) : System D :=
  match s.key with
  | .idle =>
    let p := key.press s.controller.tables.patTable.serviceInfoCount s.controller.programNumber
    { s.withController { s.controller with programNumber := p } with key := .written }
  | .written => s

def raiseStep (s : System D) : System D :=
  match s.key with
  | .idle => s
  | .written => { s.withController { s.controller with changeChannel := true } with key := .idle }

def next (api : TdpApi D) (s : System D) : Event → System D
  | .worker a => s.workerStep api a
  | .press key => s.pressStep key
  | .raise => s.raiseStep

def run (api : TdpApi D) (s : System D) (events : List Event) : System D :=
  events.foldl (next api) s

def booted (s : Controller D) : System D := ⟨⟨s,⟨.ready,0,-1,-1⟩⟩,.bootRead,.idle⟩

/-- The invariant.  After the first read, outside the two statements between the test
and the next read, the last call is for the current number unless a request is on its
way: half written, or announced by the flag. -/
structure Current (s : System D) : Prop where
  inCall : s.worker = .running → s.config.frame.label.inCall
  channelStored : ChannelStored s.config
  current : s.worker = .running ∨ s.worker = .test →
    s.controller.changeChannel = true ∨ s.key = .written ∨
      s.config.frame.channelNumber = s.controller.programNumber.toInt32

theorem booted_current (s : Controller D) : (booted s).Current where
  inCall := nofun
  channelStored := fun h => absurd h Bool.false_ne_true
  current := by rintro (h | h) <;> cases h

theorem beginCall_current (s : System D) : s.beginCall.Current where
  inCall := fun _ => rfl
  channelStored := fun h => absurd h Bool.false_ne_true
  current := fun _ => Or.inr (Or.inr rfl)

theorem Current.workerStep {s : System D} (h : s.Current) (api : TdpApi D) (a : Arrival) :
    (s.workerStep api a).Current := by
  cases hw : s.worker with
  | bootRead | read =>
    simp only [System.workerStep,hw]
    exact s.beginCall_current
  | running =>
    simp only [System.workerStep,hw]
    split
    · exact ⟨nofun,h.channelStored,fun _ => h.current (Or.inl hw)⟩
    · have hstep := step_callStep api s.config a (h.inCall hw)
      refine ⟨fun _ => hstep.inCall,hstep.channelStored h.channelStored,fun _ => ?_⟩
      -- the call writes neither the flag nor the number
      simp only [System.controller,hstep.changeChannel,hstep.programNumber,hstep.channelNumber]
      exact h.current (Or.inl hw)
  | test =>
    simp only [System.workerStep,hw]
    split
    · exact ⟨nofun,h.channelStored,by rintro (h | h) <;> cases h⟩
    · exact h
  | clear =>
    simp only [System.workerStep,hw]
    exact ⟨nofun,h.channelStored,by rintro (h | h) <;> cases h⟩

theorem Current.pressStep {s : System D} (h : s.Current) (key : ProgrammeKey) :
    (s.pressStep key).Current := by
  simp only [System.pressStep]
  split
  · exact ⟨h.inCall,h.channelStored,fun _ => Or.inr (Or.inl rfl)⟩
  · exact h

theorem Current.raiseStep {s : System D} (h : s.Current) : s.raiseStep.Current := by
  simp only [System.raiseStep]
  split
  · exact h
  · exact ⟨h.inCall,h.channelStored,fun _ => Or.inl rfl⟩

theorem Current.next {s : System D} (h : s.Current) (api : TdpApi D) (e : Event) :
    (s.next api e).Current := by
  cases e with
  | worker a => exact h.workerStep api a
  | press key => exact h.pressStep key
  | raise => exact h.raiseStep

theorem run_current (api : TdpApi D) (s : Controller D) (events : List Event) :
    (run api (booted s) events).Current :=
  List.foldlRecOn events _ (booted_current s) fun _ h e _ => h.next api e

end System

/-- When the worker is back at its test with no request announced or half written, the
channel last started is the current one; and if that call ran to its end, it is the one
in `currentChannel`. -/
theorem no_request_lost (api : TdpApi D) (s : Controller D) (events : List Event) :
    let sys := System.run api (System.booted s) events
    sys.worker = .test → sys.controller.changeChannel = false → sys.key = .idle →
      sys.config.frame.channelNumber = sys.controller.programNumber.toInt32 ∧
      (sys.config.frame.label = .returned → sys.controller.currentChannel.programNumber =
        Int16.ofInt (sys.controller.programNumber.toInt+1)) := by
  intro sys htest hflag hidle
  have h : sys.Current := System.run_current api s events
  have hcurrent : sys.config.frame.channelNumber = sys.controller.programNumber.toInt32 := by
    rcases h.current (Or.inr htest) with hset | hwritten | hstarted
    · rw [hflag] at hset
      cases hset
    · rw [hidle] at hwritten
      cases hwritten
    · exact hstarted
  refine ⟨hcurrent,fun hreturned => ?_⟩
  have hstored := h.channelStored (by rw [hreturned]; rfl)
  rwa [hcurrent,Int16.toInt_toInt32] at hstored

def sampleEvents : List Event :=
  let services : List PatServiceInfo := [⟨0,0x10⟩,⟨1,0x100⟩,⟨2,0x200⟩,⟨3,0x300⟩]
  let a := Arrival.ofLists services [⟨0x02,0x101,0⟩,⟨0x03,0x102,0⟩]
  .worker a::.press .channelUp::.worker a::.raise::List.replicate 60 (.worker a) ++
    .press .channelUp::.raise::List.replicate 60 (.worker a)

def sampleReceived : Controller ReferenceDevice :=
  { Controller.initial (.new []) 0 with tables := { SectionTables.zeroed with
    patTable := (Arrival.ofLists [⟨0,0x10⟩,⟨1,0x100⟩,⟨2,0x200⟩,⟨3,0x300⟩] []).patTable } }

theorem sampleEvents_lose_nothing :
    let sys := System.run referenceApi (System.booted sampleReceived) sampleEvents
    sys.controller.programNumber = 2 ∧
      sys.config.frame.channelNumber = sys.controller.programNumber.toInt32 ∧
      sys.controller.currentChannel.programNumber = Int16.ofInt (sys.controller.programNumber.toInt+1) := by
  have h := no_request_lost referenceApi sampleReceived sampleEvents
  generalize hsys : System.run referenceApi (System.booted sampleReceived) sampleEvents = sys at h
  have hnumber : sys.controller.programNumber = 2 := by
    rw [← hsys]
    decide +kernel
  obtain ⟨hstarted,hchannel⟩ := h (by rw [← hsys]; decide +kernel) (by rw [← hsys]; decide +kernel)
    (by rw [← hsys]; decide +kernel)
  exact ⟨hnumber,hstarted,hchannel (by rw [← hsys]; decide +kernel)⟩

structure Tunes (m : UInt8) (s : System D) : Prop where
  serviceInfoCount : s.controller.tables.patTable.serviceInfoCount = m
  selects : Selects m s.controller.programNumber
  started : s.worker = .running → ∃ p, Selects m p ∧ s.config.frame.channelNumber = p.toInt32

namespace Tunes

variable {m : UInt8} {s : System D}

theorem beginCall (h : Tunes m s) : Tunes m s.beginCall :=
  ⟨h.serviceInfoCount,h.selects,fun _ => ⟨_,h.selects,rfl⟩⟩

theorem workerStep (h : Tunes m s) (hc : s.Current) (api : TdpApi D) (a : Arrival) :
    Tunes m (s.workerStep api a) := by
  cases hw : s.worker with
  | bootRead | read =>
    simp only [System.workerStep,hw]
    exact h.beginCall
  | running =>
    simp only [System.workerStep,hw]
    split
    · exact ⟨h.serviceInfoCount,h.selects,nofun⟩
    · have hstep := step_callStep api s.config a (hc.inCall hw)
      obtain ⟨p,hp,hnumber⟩ := h.started hw
      refine ⟨?_,?_,fun _ => ⟨p,hp,hstep.channelNumber.trans hnumber⟩⟩
      · simp only [System.controller,hstep.patTable]
        exact h.serviceInfoCount
      · simp only [System.controller,hstep.programNumber]
        exact h.selects
  | test =>
    simp only [System.workerStep,hw]
    split
    · exact ⟨h.serviceInfoCount,h.selects,nofun⟩
    · exact h
  | clear =>
    simp only [System.workerStep,hw]
    exact ⟨h.serviceInfoCount,h.selects,nofun⟩

theorem pressStep (h : Tunes m s) (key : ProgrammeKey) : Tunes m (s.pressStep key) := by
  simp only [System.pressStep]
  split
  · refine ⟨h.serviceInfoCount,?_,h.started⟩
    rw [h.serviceInfoCount]
    exact h.selects.press key
  · exact h

theorem raiseStep (h : Tunes m s) : Tunes m s.raiseStep := by
  simp only [System.raiseStep]
  split
  · exact h
  · exact ⟨h.serviceInfoCount,h.selects,h.started⟩

theorem next (h : Tunes m s) (hc : s.Current) (api : TdpApi D) (e : Event) :
    Tunes m (s.next api e) := by
  cases e with
  | worker a => exact h.workerStep hc api a
  | press key => exact h.pressStep key
  | raise => exact h.raiseStep

theorem run (h : Tunes m s) (hc : s.Current) (api : TdpApi D) (events : List Event) :
    Tunes m (System.run api s events) := by
  induction events generalizing s with
  | nil => exact h
  | cons e events ih => exact ih (h.next hc api e) (hc.next api e)

end Tunes

theorem selects_configured_iff (m : UInt8) (configured : UInt32) :
    Selects m (configuredProgramNumber configured) ↔ configured.toNat%65536+2 ≤ m.toNat := by
  have hlow : configured.toUInt16.toNat = configured.toNat%65536 := by simp
  have hm := m.toNat_lt
  by_cases hsmall : configured.toUInt16.toNat < 2^15
  · have hint : (configuredProgramNumber configured).toInt = configured.toUInt16.toNat :=
      toInt_toInt16 _ hsmall
    simp only [Selects,Within,hint,hlow]
    omega
  · have hint : (configuredProgramNumber configured).toInt < 0 :=
      toInt_toInt16_neg _ (Nat.le_of_not_lt hsmall)
    simp only [Selects,Within]
    omega

def Controller.loadInitialInfo (s : Controller D) (configured : UInt32) : Controller D :=
  { s with programNumber := configuredProgramNumber configured }

/-- Every call of the worker, at boot or after any keys in any order with it, reads a PAT
slot of a service if and only if the configured number, in sixteen bits, names one. -/
theorem worker_tunes_services_iff (api : TdpApi D) (s : Controller D) (configured : UInt32) :
    (∀ events, let sys := System.run api (System.booted (s.loadInitialInfo configured)) events
      sys.worker = .running → sys.config.frame.label = .setPmtFilter →
        1 ≤ tunedSlot sys.config.frame.channelNumber ∧
        tunedSlot sys.config.frame.channelNumber <
          sys.controller.tables.patTable.serviceInfoCount.toNat) ↔
    configured.toNat%65536+2 ≤ s.tables.patTable.serviceInfoCount.toNat := by
  rw [← selects_configured_iff]
  constructor
  · intro h
    -- the boot call alone, up to its read of the PAT
    have hboot := h [.worker ⟨.zeroed,.zeroed,.zeroed,.zeroed⟩,.worker ⟨.zeroed,.zeroed,.zeroed,.zeroed⟩]
      rfl rfl
    have hslot : tunedSlot (configuredProgramNumber configured).toInt32 =
        (configuredProgramNumber configured).toInt+1 := by
      rw [tunedSlot,Int16.toInt_toInt32]
    change 1 ≤ tunedSlot (configuredProgramNumber configured).toInt32 ∧
      tunedSlot (configuredProgramNumber configured).toInt32 <
        (s.tables.patTable.serviceInfoCount.toNat : ℤ) at hboot
    rw [hslot] at hboot
    exact ⟨by omega,by omega⟩
  · intro hselects events sys hrunning _
    have hstart : Tunes s.tables.patTable.serviceInfoCount
        (System.booted (s.loadInitialInfo configured)) := ⟨rfl,hselects,by rintro ⟨⟩⟩
    have htunes : Tunes s.tables.patTable.serviceInfoCount sys :=
      hstart.run (System.booted_current _) api events
    obtain ⟨p,hp,hnumber⟩ := htunes.started hrunning
    rw [hnumber,tunedSlot,Int16.toInt_toInt32,htunes.serviceInfoCount]
    obtain ⟨hlow,hhigh⟩ := hp
    exact ⟨by omega,by omega⟩

def samplePat : PatTable :=
  match Routine.run (fun i => PatSection.sample.encode.getD i 0) (parsePatTable .zeroed) with
  | .ok r => r.2
  | .error _ => .zeroed

theorem configured_thirty_leaves_pat :
    let s := { Controller.initial (ReferenceDevice.new []) 0 with
      tables := { SectionTables.zeroed with patTable := samplePat } }
    let sys := System.run referenceApi (System.booted (s.loadInitialInfo 30))
      (List.replicate 2 (.worker ⟨.zeroed,.zeroed,.zeroed,.zeroed⟩))
    Routine.run (fun i => PatSection.sample.encode.getD i 0) (parsePatTable .zeroed) =
        .ok (.tablesParseOk,samplePat) ∧
      sys.worker = .running ∧ sys.config.frame.label = .setPmtFilter ∧
      tunedSlot sys.config.frame.channelNumber = 31 ∧
      ¬ tunedSlot sys.config.frame.channelNumber <
        sys.controller.tables.patTable.serviceInfoCount.toNat := by
  refine ⟨by decide +kernel,rfl,rfl,by decide +kernel,by decide +kernel⟩

end TvApp

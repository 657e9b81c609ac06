import TvApp.ConcurrentCalls

/-! Reads that race with the parse of a section.
The callback parses into the tables that the threads read, and no lock keeps them apart.
From the beginning of a callback to the end of its parse the table that the section goes
into may hold anything: the section before, a count of zero, some of the new entries.  A
thread that reads the table meanwhile reads what it finds there, and a scan that overlaps a
parse at all is taken at a moment when that parse is under way.  Runs without such reads are
the runs of `Tuning.step`. -/
namespace TvApp

variable {D : Type}

/-- The tables as a thread reads them while a section of the given id is being parsed. -/
def SectionTables.torn (tables seen : SectionTables) (tableId : UInt8) : SectionTables :=
  if tableId = 0x00 then { tables with patTable := seen.patTable }
  else if tableId = 0x02 then { tables with pmtTable := seen.pmtTable }
  else if tableId = 0x70 then { tables with tdtTable := seen.tdtTable }
  else if tableId = 0x73 then { tables with totTable := seen.totTable }
  else tables

/-- A step, and what is read of the table that is being written; `none` is for its contents
before the section. -/
structure RacingEvent where
  event : TuningEvent
  seen : Option SectionTables

def TuningEvent.plain (e : TuningEvent) : RacingEvent := ⟨e,none⟩

/-- The other events are those of the callback, which reads its own section. -/
def TuningEvent.byThread : TuningEvent → Bool
  | .advance _ | .workerCalls | .press _ | .dial _ => true
  | .begins _ | .parses | .signals => false

def Callback.parsing : Callback → Option UInt8
  | .arrived sec => some (sec.bytes 0)
  | .idle | .signalling => none

def Label.reads : Label → Option UInt8
  | .setPmtFilter => some 0x00
  | .scan => some 0x02
  | .storeDate => some 0x70
  | _ => none

def Config.withTables (c : Config D) (tables : SectionTables) : Config D :=
  { c with controller := { c.controller with tables := tables } }

namespace Tuning

variable {api : TdpApi D} {s s' : Tuning D} {e : RacingEvent}

def withTables (s : Tuning D) (tables : SectionTables) : Tuning D :=
  { s with controller := { s.controller with tables := tables } }

def asRead (s : Tuning D) (e : RacingEvent) : Tuning D :=
  match s.callback,e.seen with
  | .arrived sec,some seen => s.withTables (s.controller.tables.torn seen (sec.bytes 0))
  | _,_ => s

def racingStep (api : TdpApi D) (s : Tuning D) (e : RacingEvent) : Option (Tuning D) :=
  if e.event.byThread then
    ((s.asRead e).step api e.event).map fun s' => s'.withTables s.controller.tables
  else s.step api e.event

def reads (s : Tuning D) : TuningEvent → Option UInt8
  | .advance t => (s.label t).reads
  | .press _ | .dial _ => some 0x00
  | .workerCalls | .begins _ | .parses | .signals => none

/-- No section is being parsed into the table that the step reads. -/
def RaceFree (s : Tuning D) (e : TuningEvent) : Prop :=
  ∀ id ∈ s.reads e, s.callback.parsing ≠ some id

instance (s : Tuning D) (e : TuningEvent) : Decidable (s.RaceFree e) :=
  inferInstanceAs (Decidable (∀ id ∈ s.reads e,s.callback.parsing ≠ some id))

theorem asRead_eq (s : Tuning D) (e : RacingEvent) :
    s.asRead e = s.withTables (s.asRead e).controller.tables := by
  rw [asRead]
  split
  · rfl
  · rfl

structure Agree (s : Tuning D) (e : TuningEvent) (tables : SectionTables) : Prop where
  patTable : s.reads e = some 0x00 → tables.patTable = s.controller.tables.patTable
  pmtTable : s.reads e = some 0x02 → tables.pmtTable = s.controller.tables.pmtTable
  tdtTable : s.reads e = some 0x70 → tables.tdtTable = s.controller.tables.tdtTable

theorem asRead_agree (hfree : s.RaceFree e.event) :
    s.Agree e.event (s.asRead e).controller.tables := by
  rw [asRead]
  split
  case h_1 sec seen harrived _ =>
    have hother : s.reads e.event ≠ some (sec.bytes 0) := fun hreads =>
      hfree _ hreads (by rw [harrived]; rfl)
    simp only [withTables,SectionTables.torn]
    split
    · rename_i hid
      rw [hid] at hother
      exact ⟨fun h => absurd h hother,fun _ => rfl,fun _ => rfl⟩
    split
    · rename_i hid
      rw [hid] at hother
      exact ⟨fun _ => rfl,fun h => absurd h hother,fun _ => rfl⟩
    split
    · rename_i hid
      rw [hid] at hother
      exact ⟨fun _ => rfl,fun _ => rfl,fun h => absurd h hother⟩
    split
    · exact ⟨fun _ => rfl,fun _ => rfl,fun _ => rfl⟩
    · exact ⟨fun _ => rfl,fun _ => rfl,fun _ => rfl⟩
  case h_2 => exact ⟨fun _ => rfl,fun _ => rfl,fun _ => rfl⟩

end Tuning

theorem step_withTables (api : TdpApi D) (c : Config D) (tables : SectionTables)
    (hpat : c.frame.label.reads = some 0x00 → tables.patTable = c.controller.tables.patTable)
    (hpmt : c.frame.label.reads = some 0x02 → tables.pmtTable = c.controller.tables.pmtTable)
    (htdt : c.frame.label.reads = some 0x70 → tables.tdtTable = c.controller.tables.tdtTable) :
    (step api (c.withTables tables) tables.arrival).withTables c.controller.tables =
      step api c c.controller.tables.arrival := by
  have hlabel : (c.withTables tables).frame.label = c.frame.label := rfl
  cases hl : c.frame.label with
  | setPmtFilter =>
    rw [hl] at hpat
    simp only [step,hl,Config.withTables,hpat rfl]
    split
    · rw [Config.setFilter,Config.setFilter]
      simp only
      split <;> rfl
    · rfl
  | scan =>
    rw [hl] at hpmt
    simp only [step,hl,Config.withTables,hpmt rfl]
    split <;> rfl
  | storeDate =>
    rw [hl] at htdt
    simp only [step,hl,Config.withTables,htdt rfl]
  | setPatFilter | setTdtFilter | setTotFilter =>
    simp only [step,hl,Config.withTables,Config.setFilter]
    split <;> rfl
  | createVideo | createAudio =>
    simp only [step,hl,Config.withTables]
    split <;> rfl
  | _ =>
    rw [hl] at hlabel
    simp only [step,hl,hlabel]
    rfl

namespace Tuning

variable {api : TdpApi D} {s s' : Tuning D} {e : RacingEvent} {t : Caller}

variable {tables : SectionTables}

theorem statement_withTables (h : s.Agree (.advance t) tables) :
    ((s.withTables tables).statement api t).withTables s.controller.tables = s.statement api t := by
  have hstep := step_withTables api (s.config t) tables h.patTable h.pmtTable h.tdtTable
  rw [statement,statement]
  change Tuning.withCaller { s with controller := (Config.withTables (TvApp.step api
    ((s.config t).withTables tables) tables.arrival) (s.config t).controller.tables).controller } t
      ⟨(Config.withTables (TvApp.step api ((s.config t).withTables tables) tables.arrival)
        (s.config t).controller.tables).frame,_,_,_⟩ = _
  rw [hstep]
  rfl

theorem advance_withTables (h : s.Agree (.advance t) tables) :
    ((s.withTables tables).advance api t).map (fun s' => s'.withTables s.controller.tables) =
      s.advance api t := by
  have hstatement : ((s.withTables tables).statement api t).withTables s.controller.tables =
      s.statement api t := statement_withTables h
  have hlabel : (s.withTables tables).label t = s.label t := rfl
  have hcond : ((s.withTables tables).caller t).demuxCond = (s.caller t).demuxCond := rfl
  rw [advance,advance]
  by_cases hwaits : (s.label t).waits
  · rw [if_pos (hlabel ▸ hwaits),if_pos hwaits,hcond]
    cases (s.caller t).demuxCond with
    | outside => rfl
    | blocked => rfl
    | woken => exact congrArg some hstatement
  · rw [if_neg (hlabel ▸ hwaits),if_neg hwaits]
    by_cases hidle : (s.label t).idle
    · rw [if_pos (hlabel ▸ hidle),if_pos hidle]
      rfl
    · rw [if_neg (hlabel ▸ hidle),if_neg hidle]
      exact congrArg some hstatement

theorem workerCalls_withTables (s : Tuning D) (tables : SectionTables) :
    (s.withTables tables).workerCalls.map (fun s' => s'.withTables s.controller.tables) =
      s.workerCalls := by
  have hlabel : (s.withTables tables).label .worker = s.label .worker := rfl
  have hflag : (s.withTables tables).controller.changeChannel = s.controller.changeChannel := rfl
  rw [workerCalls,workerCalls,hlabel,hflag]
  cases s.label .worker with
  | returned | filterFailed => cases s.controller.changeChannel <;> rfl
  | _ => rfl

theorem dial_withTables {channelNumber : Int32} (h : s.Agree (.dial channelNumber) tables) :
    ((s.withTables tables).dial channelNumber).withTables s.controller.tables =
      s.dial channelNumber := by
  have hpat : (s.withTables tables).controller.tables.patTable = s.controller.tables.patTable :=
    h.patTable rfl
  rw [dial,dial,hpat]
  split
  · rfl
  · rfl

theorem press_withTables {key : ProgrammeKey} (h : s.Agree (.press key) tables) :
    ((s.withTables tables).press key).withTables s.controller.tables = s.press key := by
  have hpat : (s.withTables tables).controller.tables.patTable = s.controller.tables.patTable :=
    h.patTable rfl
  rw [press,press,hpat]
  rfl

/-- A step that reads no table under parse is one of `Tuning.step`. -/
theorem racingStep_of_raceFree (hfree : s.RaceFree e.event) :
    s.racingStep api e = s.step api e.event := by
  have hagree := asRead_agree hfree
  rw [racingStep,asRead_eq]
  split
  case isFalse => rfl
  case isTrue hthread =>
    cases he : e.event with
    | advance t => exact advance_withTables (he ▸ hagree)
    | workerCalls => exact workerCalls_withTables s _
    | press key =>
      simp only [step,Option.map_some]
      rw [press_withTables (he ▸ hagree)]
    | dial channelNumber =>
      simp only [step,Option.map_some]
      rw [dial_withTables (he ▸ hagree)]
    | begins sec | parses | signals => rw [he] at hthread; cases hthread

theorem apart_of_asRead (hfree : s.RaceFree e.event) (h : (s.asRead e).Apart e.event) :
    s.Apart e.event := by
  have hagree := asRead_agree hfree
  rw [asRead_eq] at h
  cases he : e.event with
  | dial channelNumber =>
    rw [he] at h hagree
    rw [Apart,← hagree.patTable rfl]
    exact h
  | advance t | workerCalls | press key | begins sec | parses | signals =>
    rw [he] at h
    exact h

/-- Calls do not overlap, no callback is in progress when a call sets its filter, and no PMT
is being parsed while a call scans the table. -/
def Undisturbed (s : Tuning D) (e : TuningEvent) : Prop :=
  s.Apart e ∧ (s.reads e = some 0x02 → s.callback.parsing ≠ some 0x02)

end Tuning
end TvApp

import TvApp.Broadcast
import TvApp.DateOrigin
import TvApp.TotOutcome

/-! No call hangs, and one boot does.
While calls come one at a time, a call that waits has its filter alive, so a section can
still come and end the wait; by a rank on the statements every call can come to its end from
wherever it is.  The wait for the PAT is different: the task goes on to it although its
`Demux_Set_Filter` has failed, and then nothing ever happens. -/
namespace TvApp

open Routine ParseErrorCode

variable {D : Type} {api : TdpApi D}

/-- The table that a wait of a call is for. -/
def Label.awaits : Label → Option UInt8
  | .waitPmt => some 0x02
  | .waitTdt => some 0x70
  | .waitTot => some 0x73
  | _ => none

def Label.rank : Label → ℕ
  | .freeFilter => 24
  | .setPmtFilter => 23
  | .waitPmt => 22
  | .scan => 21
  | .testVideo => 20
  | .testHandleV | .dropVideo => 19
  | .removeVideo | .zeroDroppedVideo => 18
  | .zeroVideo | .clearScreen => 17
  | .createVideo => 16
  | .testAudio => 15
  | .testHandleA => 14
  | .removeAudio => 13
  | .zeroAudio => 12
  | .createAudio => 11
  | .storeChannel => 10
  | .testTimeTables => 9
  | .freeForTdt => 8
  | .setTdtFilter => 7
  | .waitTdt => 6
  | .freeForTot => 5
  | .setTotFilter => 4
  | .waitTot => 3
  | .storeDate => 2
  | .setTimeTablesRecieved => 1
  | .setPatFilter | .waitPat | .ready | .returned | .filterFailed | .fault | .deinit => 0

theorem Label.rank_successors (l : Label) (hactive : l.active = true) (hfault : l ≠ .fault)
    (hdeinit : l ≠ .deinit) : ∀ l' ∈ l.successors, l'.rank < l.rank := by
  revert hactive hfault hdeinit
  cases l <;> decide

theorem Label.active_successors (l : Label) (hactive : l.active = true) :
    ∀ l' ∈ l.successors, l'.idle = true ∨ l'.active = true := by
  revert hactive
  cases l <;> decide

theorem Label.awaits_of_waits {l : Label} (hactive : l.active = true) (hwaits : l.waits = true) :
    ∃ id, l.awaits = some id := by
  cases l with
  | waitPmt | waitTdt | waitTot => exact ⟨_,rfl⟩
  | waitPat => cases hactive
  | _ => cases hwaits

theorem Label.fault_successor (l : Label) (h : .fault ∈ l.successors) :
    l = .setPmtFilter ∨ l = .scan ∨ l = .fault := by
  revert h
  cases l <;> decide

theorem step_channelNumber (api : TdpApi D) (c : Config D) (a : Arrival) :
    (step api c a).frame.channelNumber = c.frame.channelNumber := by
  cases hin : c.frame.label.inCall with
  | true => exact (step_callStep api c a hin).channelNumber
  | false =>
    cases hl : c.frame.label with
    | setPatFilter =>
      simp only [step,hl,Config.setFilter]
      split <;> rfl
    | waitPat =>
      simp only [step,hl]
      rfl
    | ready => simp only [step,hl]
    | _ =>
      rw [hl] at hin
      cases hin

/-- A call that waits has a filter for what it waits for; and it has not been given up. -/
structure Listening (api : TdpApi D) (c : Config D) : Prop where
  filter : ∀ id, c.frame.label.awaits = some id →
    ∃ fl ∈ api.filters c.controller.device, fl.tableId = id
  alive : c.frame.label ≠ .deinit

theorem Listening.of_label {c : Config D} (hawaits : c.frame.label.awaits = none)
    (halive : c.frame.label ≠ .deinit) : Listening api c :=
  ⟨(fun _ h => by rw [hawaits] at h; cases h),halive⟩

theorem listening_setFilter (ha : api.Lawful) (c : Config D) (pid : UInt16) (tableId : UInt8)
    {ok failed : Label} (hok : ok.awaits = some tableId) (hfailed : failed.awaits = none)
    (halive : ok ≠ .deinit ∧ failed ≠ .deinit) :
    Listening api (c.setFilter api pid tableId ok failed) := by
  cases hset : (api.demuxSetFilter c.controller.device pid tableId).1 with
  | none =>
    rw [Config.setFilter_none hset]
    exact .of_label hfailed halive.2
  | some h =>
    rw [Config.setFilter_some hset]
    obtain ⟨-,-,hfilters⟩ := ha.set _ _ _ _ hset
    refine ⟨fun id hid => ⟨⟨h,pid,tableId⟩,?_,?_⟩,halive.1⟩
    · change _ ∈ api.filters (api.demuxSetFilter c.controller.device pid tableId).2
      rw [hfilters]
      exact Set.mem_insert _ _
    · exact Option.some.inj (hok.symm.trans hid)

theorem step_listening (ha : api.Lawful) {c : Config D} (h : Listening api c) (a : Arrival) :
    Listening api (step api c a) := by
  have hmem := step_successors api c a
  cases hc : c.frame.label with
  | setPmtFilter =>
    simp only [step,hc]
    split
    · exact listening_setFilter ha c _ _ rfl rfl ⟨Label.noConfusion,Label.noConfusion⟩
    · exact .of_label rfl Label.noConfusion
  | setTdtFilter =>
    simp only [step,hc]
    exact listening_setFilter ha c _ _ rfl rfl ⟨Label.noConfusion,Label.noConfusion⟩
  | setTotFilter =>
    simp only [step,hc]
    exact listening_setFilter ha c _ _ rfl rfl ⟨Label.noConfusion,Label.noConfusion⟩
  | createVideo | createAudio =>
    simp only [step,hc]
    split
    · exact .of_label rfl Label.noConfusion
    · rename_i hnone
      exact absurd hnone (ha.create_ne_none _ _ _)
  | deinit => exact absurd hc h.alive
  | _ =>
    rw [hc] at hmem
    refine .of_label ?_ ?_
    · revert hmem
      generalize (step api c a).frame.label = l
      revert l
      decide
    · revert hmem
      generalize (step api c a).frame.label = l
      revert l
      decide

theorem runActions_listening (ha : api.Lawful) (actions : List Action) {c : Config D}
    (h : Listening api c) : Listening api (runActions api c actions) := by
  induction actions generalizing c with
  | nil => exact h
  | cons x actions ih =>
    refine ih ?_
    cases x with
    | advance a => exact step_listening ha h a
    | call n =>
      simp only [act]
      split
      · exact .of_label rfl Label.noConfusion
      · exact h

def Accepted (bytes : Buffer) : Prop :=
  ∀ tables, ∃ tables', run bytes (sectionReceivedCallback tables) = .ok (true,tables')

theorem accepted_pmt : Accepted (Tuning.pmtArrives 0).bytes := by
  intro tables
  have hid : (Tuning.pmtArrives 0).bytes 0 = 0x02 := by decide
  have hcode := pmtResult_code hid tables.pmtTable
  rw [if_pos (by decide +kernel)] at hcode
  rw [sectionReceivedCallback,run_bind,run_byte]
  change ∃ tables', run (Tuning.pmtArrives 0).bytes
    (parsePmtTable tables.pmtTable >>= fun r => _) = _
  rw [run_bind,run_parsePmtTable_eq]
  refine ⟨{ tables with pmtTable := (pmtResult (Tuning.pmtArrives 0).bytes tables.pmtTable).2 },?_⟩
  change Except.ok (decide (_ = tablesParseOk),_) = _
  rw [hcode]
  rfl

theorem accepted_pat : Accepted Tuning.patArrives.bytes := by
  intro tables
  have hid : Tuning.patArrives.bytes 0 = 0x00 := by decide
  have hcode := patResult_code hid tables.patTable
  rw [if_pos (by decide +kernel)] at hcode
  rw [sectionReceivedCallback,run_bind,run_byte]
  change ∃ tables', run Tuning.patArrives.bytes (parsePatTable tables.patTable >>= fun r => _) = _
  rw [run_bind,run_parsePatTable_eq]
  refine ⟨{ tables with patTable := (patResult Tuning.patArrives.bytes tables.patTable).2 },?_⟩
  change Except.ok (decide (_ = tablesParseOk),_) = _
  rw [hcode]
  rfl

theorem accepted_tdt : Accepted (tdtSection 55097) := fun _ => ⟨_,rfl⟩

theorem accepted_tot : Accepted Tuning.totArrives.bytes := by
  intro tables
  have hloop : word (Tuning.totArrives.bytes 8) (Tuning.totArrives.bytes 9) &&& 0x0FFF = 0 := by decide
  have hparse := run_parseTotTable Tuning.totArrives.bytes tables.totTable
  rw [hloop,parseTotDescriptors,if_neg (by decide)] at hparse
  rw [sectionReceivedCallback,run_bind,run_byte]
  change ∃ tables', run Tuning.totArrives.bytes (parseTotTable tables.totTable >>= fun r => _) = _
  rw [run_bind,hparse]
  exact ⟨_,rfl⟩

theorem accepted_of_awaits {l : Label} {id : UInt8} (h : l.awaits = some id) :
    ∃ bytes, bytes 0 = id ∧ Accepted bytes := by
  cases l with
  | waitPmt =>
    cases h
    exact ⟨_,by decide,accepted_pmt⟩
  | waitTdt =>
    cases h
    exact ⟨_,by decide,accepted_tdt⟩
  | waitTot =>
    cases h
    exact ⟨_,by decide,accepted_tot⟩
  | _ => cases h

namespace Tuning

variable {c₀ : Controller D} {s s' : Tuning D} {t : Caller} {log : List ChannelInfo}

/-- Interleavings of the threads and of a demultiplexer as assumed, with one call at a time. -/
abbrev OneCall (api : TdpApi D) (s : Tuning D) (e : TuningEvent) : Prop :=
  s.Delivers api e ∧ s.OneAtATime e

theorem Serial.listening (ha : api.Lawful) (hs : s.Serial api c₀ log) (hactive : (s.label t).active) :
    Listening api (s.config t) := by
  obtain ⟨actions,hm,-⟩ := hs.mirrored s.controller.tables fun _ => rfl
  have hboot : Listening api (boot c₀) := .of_label rfl Label.noConfusion
  have hl := runActions_listening ha actions hboot
  have hframe := hm.frame t hactive
  refine ⟨fun id hid => ?_,?_⟩
  · have hid' : (runActions api (boot c₀) actions).frame.label.awaits = some id := by
      rw [hframe]
      exact hid
    have hfilter := hl.filter id hid'
    rw [hm.course.device] at hfilter
    exact hfilter
  · have halive := hl.alive
    rw [hframe] at halive
    exact halive

def InTable (th : CallerState) : Prop :=
  ∃ i : Fin 20, tunedSlot th.frame.channelNumber = (i.val : ℤ)

theorem statement_ne_fault (hl : s.label t ≠ .fault) (htable : InTable (s.caller t))
    (hcount : s.controller.tables.pmtTable.elementaryInfoCount.toNat ≤ 20) :
    (s.statement api t).label t ≠ .fault := by
  intro hfault
  have hmem := step_successors api (s.config t) s.controller.tables.arrival
  rw [← statement_label,hfault] at hmem
  obtain hset | hscan | hsame := Label.fault_successor _ hmem
  · obtain ⟨i,hi⟩ := htable
    rw [statement_label] at hfault
    simp only [TvApp.step,hset] at hfault
    cases hslot : run (fun _ => 0)
        (slot tablesMaxNumberOfPidsInPat (tunedSlot (s.caller t).frame.channelNumber)) with
    | error e =>
      rw [hi,run_slot _ i.isLt] at hslot
      cases hslot
    | ok k =>
      rw [config,hslot] at hfault
      simp only [Config.setFilter] at hfault
      split at hfault
      · cases hfault
      · cases hfault
  · rw [statement_label] at hfault
    simp only [TvApp.step,hscan] at hfault
    rw [config,channelPids_run _ _ hcount] at hfault
    cases hfault
  · exact hl hsame

/-- What the interleavings keep. -/
structure Sustained (api : TdpApi D) (c₀ : Controller D) (s : Tuning D) : Prop where
  serial : ∃ log, s.Serial api c₀ log
  count : s.controller.tables.pmtTable.elementaryInfoCount.toNat ≤ 20
  inside : ∀ t, InTable (s.caller t) → s.label t ≠ .fault

theorem count_next (hcount : s.controller.tables.pmtTable.elementaryInfoCount.toNat ≤ 20)
    {e : TuningEvent} (hstep : s.step api e = some s') :
    s'.controller.tables.pmtTable.elementaryInfoCount.toNat ≤ 20 := by
  obtain he | ⟨t,-,rfl⟩ := step_statement hstep
  · obtain htables | ⟨sec,r,-,hrun,htables⟩ := (aside_controller hstep he).2
    · rw [htables]
      exact hcount
    · obtain ⟨-,hpmt⟩ := sectionReceivedCallback_tables hrun
      rw [htables,hpmt]
      split
      · rename_i hid
        rw [(pmtResult_shows hid _).count]
        exact pmtPositions_length_le sec.bytes
      · exact hcount
  · have htables : (s.statement api t).controller.tables = s.controller.tables :=
      step_arrival_tables api (s.config t)
    rw [htables]
    exact hcount

theorem statement_channelNumber (api : TdpApi D) (s : Tuning D) (t : Caller) :
    ((s.statement api t).caller t).frame.channelNumber = (s.caller t).frame.channelNumber := by
  have hframe := congrArg Config.frame (statement_config api s t)
  exact (congrArg Frame.channelNumber hframe).trans (step_channelNumber api (s.config t) _)

theorem inside_next (hinside : ∀ t, InTable (s.caller t) → s.label t ≠ .fault)
    (hcount : s.controller.tables.pmtTable.elementaryInfoCount.toNat ≤ 20) {e : TuningEvent}
    (hstep : s.step api e = some s') (t : Caller) (htable : InTable (s'.caller t)) :
    s'.label t ≠ .fault := by
  obtain he | ⟨t',-,rfl⟩ := step_statement hstep
  · obtain hframe | hlabel := (step_aside hstep he).frame t
    · rw [InTable,hframe] at htable
      rw [label,hframe]
      exact hinside t htable
    · rw [hlabel]
      decide
  · by_cases ht : t = t'
    · subst ht
      rw [InTable,statement_channelNumber] at htable
      exact statement_ne_fault (hinside t htable) htable hcount
    · rw [statement_caller_of_ne api s ht] at htable
      rw [label,statement_caller_of_ne api s ht]
      exact hinside t htable

theorem Sustained.step (ha : api.Lawful) (hc₀ : c₀.Fresh api) (h : s.Sustained api c₀) {e : TuningEvent}
    (hallowed : OneCall api s e) (hstep : s.step api e = some s') : s'.Sustained api c₀ := by
  obtain ⟨⟨log,hs⟩,hcount,hinside⟩ := h
  exact ⟨⟨_,hs.step ha hc₀ hallowed.1 hallowed.2 hstep⟩,count_next hcount hstep,
    inside_next hinside hcount hstep⟩

theorem Sustained.reach (ha : api.Lawful) (hc₀ : c₀.Fresh api) (h : s.Sustained api c₀)
    (hreach : Reach (Tuning.step api) (OneCall api) s s') : s'.Sustained api c₀ :=
  hreach.invariant h fun _ hs hallowed hstep => hs.step ha hc₀ hallowed hstep

def Signalled (s s' : Tuning D) : Prop :=
  ∀ t, (s'.caller t).frame = (s.caller t).frame ∧
    (s'.caller t).demuxCond = (s.caller t).demuxCond.signal

theorem signals_reach (api : TdpApi D) (hsignalling : s.callback = .signalling) :
    ∃ s', Reach (Tuning.step api) (OneCall api) s s' ∧ s'.callback = .idle ∧ Signalled s s' := by
  have hstep : s.step api .signals = some { s with
      callback := .idle
      caller := fun t => { s.caller t with demuxCond := (s.caller t).demuxCond.signal } } := by
    simp only [Tuning.step,hsignalling]
  exact ⟨_,Reach.start.next .signals ⟨trivial,trivial⟩ hstep,rfl,fun _ => ⟨rfl,rfl⟩⟩

theorem record_caller (caller : Caller → CallerState) (sec : CarriedSection) (t : Caller) :
    (record caller sec t).frame = (caller t).frame ∧
      (record caller sec t).demuxCond = (caller t).demuxCond := by
  rw [record]
  split
  · exact ⟨rfl,rfl⟩
  · exact ⟨rfl,rfl⟩

theorem parses_reach (api : TdpApi D) {sec : CarriedSection} (harrived : s.callback = .arrived sec)
    {r : Bool × SectionTables}
    (hrun : run sec.bytes (sectionReceivedCallback s.controller.tables) = .ok r) :
    ∃ s', Reach (Tuning.step api) (OneCall api) s s' ∧
      s'.callback = (if r.1 then .signalling else .idle) ∧
      ∀ t, (s'.caller t).frame = (s.caller t).frame ∧
        (s'.caller t).demuxCond = (s.caller t).demuxCond := by
  have hstep : s.step api .parses = some { s with
      controller := { s.controller with tables := r.2 }
      callback := if r.1 then .signalling else .idle
      caller := record s.caller sec } := by
    simp only [Tuning.step,harrived,parses,hrun]
  exact ⟨_,Reach.start.next .parses ⟨trivial,trivial⟩ hstep,rfl,record_caller s.caller sec⟩

theorem receives (hidle : s.callback = .idle) {fl : SectionFilter}
    (hfl : fl ∈ api.filters s.controller.device) {bytes : Buffer} (hid : bytes 0 = fl.tableId)
    (haccepted : Accepted bytes) :
    ∃ s', Reach (Tuning.step api) (OneCall api) s s' ∧ s'.callback = .idle ∧ Signalled s s' := by
  obtain ⟨tables,hrun⟩ := haccepted s.controller.tables
  have hstep : s.step api (.begins ⟨fl.pid,bytes⟩) =
      some { s with callback := .arrived ⟨fl.pid,bytes⟩ } := by
    simp only [Tuning.step,hidle]
  have hbegun : Reach (Tuning.step api) (OneCall api) s
      { s with callback := .arrived ⟨fl.pid,bytes⟩ } :=
    Reach.start.next (.begins ⟨fl.pid,bytes⟩) ⟨⟨fl,hfl,rfl,hid⟩,trivial⟩ hstep
  obtain ⟨s₁,hparsed,hsignalling,hsame⟩ := parses_reach api
    (s := { s with callback := .arrived ⟨fl.pid,bytes⟩ }) rfl hrun
  obtain ⟨s',hsignals,hcallback,hsignalled⟩ := signals_reach api hsignalling
  refine ⟨s',(hbegun.trans hparsed).trans hsignals,hcallback,fun t => ?_⟩
  obtain ⟨hframe,hcond⟩ := hsame t
  obtain ⟨hframe',hcond'⟩ := hsignalled t
  exact ⟨hframe'.trans hframe,by rw [hcond',hcond]⟩

theorem drains (api : TdpApi D) (hparses : ∀ sec, s.callback = .arrived sec →
      ∃ r, run sec.bytes (sectionReceivedCallback s.controller.tables) = .ok r) :
    ∃ s', Reach (Tuning.step api) (OneCall api) s s' ∧ s'.callback = .idle ∧
      ∀ t, (s'.caller t).frame = (s.caller t).frame := by
  cases hcallback : s.callback with
  | idle => exact ⟨s,.start,hcallback,fun _ => rfl⟩
  | signalling =>
    obtain ⟨s',hreach,hidle,hsignalled⟩ := signals_reach api hcallback
    exact ⟨s',hreach,hidle,fun t => (hsignalled t).1⟩
  | arrived sec =>
    obtain ⟨r,hrun⟩ := hparses sec hcallback
    obtain ⟨s₁,hparsed,hnext,hsame⟩ := parses_reach api hcallback hrun
    by_cases hr : r.1 = true
    · rw [if_pos hr] at hnext
      obtain ⟨s',hsignals,hidle,hsignalled⟩ := signals_reach api hnext
      exact ⟨s',hparsed.trans hsignals,hidle,fun t => (hsignalled t).1.trans (hsame t).1⟩
    · rw [if_neg hr] at hnext
      exact ⟨s₁,hparsed,hnext,fun t => (hsame t).1⟩

theorem wakes_for (hidle : s.callback = .idle) (hwaits : (s.label t).waits) {fl : SectionFilter}
    (hfl : fl ∈ api.filters s.controller.device) {bytes : Buffer} (hid : bytes 0 = fl.tableId)
    (haccepted : Accepted bytes) :
    ∃ s', Reach (Tuning.step api) (OneCall api) s s' ∧ s'.callback = .idle ∧
      (s'.caller t).frame = (s.caller t).frame ∧ (s'.caller t).demuxCond = .woken := by
  cases hcond : (s.caller t).demuxCond with
  | woken => exact ⟨s,.start,hidle,rfl,hcond⟩
  | blocked =>
    obtain ⟨s',hreach,hcallback,hsignalled⟩ := receives hidle hfl hid haccepted
    obtain ⟨hframe,hwoken⟩ := hsignalled t
    rw [hcond] at hwoken
    exact ⟨s',hreach,hcallback,hframe,hwoken⟩
  | outside =>
    have hstep : s.step api (.advance t) =
        some (s.withCaller t { s.caller t with demuxCond := .blocked }) := by
      simp only [Tuning.step,advance,hwaits,hcond,if_true]
    have hset : s.label t ≠ .setPmtFilter := by
      rintro hl
      rw [hl] at hwaits
      cases hwaits
    have hblocks : Reach (Tuning.step api) (OneCall api) s
        (s.withCaller t { s.caller t with demuxCond := .blocked }) :=
      Reach.start.next (.advance t) ⟨trivial,fun hl => absurd hl hset⟩ hstep
    obtain ⟨s',hreach,hcallback,hsignalled⟩ := receives
      (s := s.withCaller t { s.caller t with demuxCond := .blocked }) hidle hfl hid haccepted
    obtain ⟨hframe,hwoken⟩ := hsignalled t
    rw [withCaller_caller_self] at hframe hwoken
    exact ⟨s',hblocks.trans hreach,hcallback,hframe,hwoken⟩

theorem wakes (ha : api.Lawful) (hs : s.Serial api c₀ log) (hidle : s.callback = .idle)
    (hactive : (s.label t).active) (hwaits : (s.label t).waits) :
    ∃ s', Reach (Tuning.step api) (OneCall api) s s' ∧ s'.callback = .idle ∧
      (s'.caller t).frame = (s.caller t).frame ∧ (s'.caller t).demuxCond = .woken := by
  obtain ⟨id,hid⟩ := Label.awaits_of_waits hactive hwaits
  obtain ⟨fl,hfl,htableId⟩ := (hs.listening ha hactive).filter id hid
  obtain ⟨bytes,hbytes,haccepted⟩ := accepted_of_awaits hid
  exact wakes_for hidle hwaits hfl (hbytes.trans htableId.symm) haccepted

theorem statement_reach (hidle : s.callback = .idle) (hgoes : (s.label t).idle = false)
    (hwoken : (s.label t).waits → (s.caller t).demuxCond = .woken) :
    Reach (Tuning.step api) (OneCall api) s (s.statement api t) := by
  have hstep : s.step api (.advance t) = some (s.statement api t) := by
    by_cases hwaits : (s.label t).waits = true
    · simp only [Tuning.step,advance,hwaits,hwoken hwaits,if_true]
    · simp [Tuning.step,advance,hwaits,hgoes]
  refine Reach.start.next (.advance t) ⟨trivial,fun _ sec hsec => ?_⟩ hstep
  rw [hidle] at hsec
  cases hsec

theorem moves (ha : api.Lawful) (hs : s.Sustained api c₀) (hidle : s.callback = .idle)
    (hactive : (s.label t).active) :
    ∃ s', Reach (Tuning.step api) (OneCall api) s s' ∧ s'.callback = .idle ∧
      s'.label t ∈ (s.label t).successors ∧
      (s'.caller t).frame.channelNumber = (s.caller t).frame.channelNumber := by
  -- first the wait, if there is one
  obtain ⟨s₁,hreach,hidle₁,hframe,hwoken⟩ : ∃ s₁, Reach (Tuning.step api) (OneCall api) s s₁ ∧
      s₁.callback = .idle ∧ (s₁.caller t).frame = (s.caller t).frame ∧
      ((s₁.label t).waits → (s₁.caller t).demuxCond = .woken) := by
    by_cases hwaits : (s.label t).waits = true
    · obtain ⟨log,hserial⟩ := hs.serial
      obtain ⟨s₁,hreach,hidle₁,hframe,hwoken⟩ := wakes ha hserial hidle hactive hwaits
      exact ⟨s₁,hreach,hidle₁,hframe,fun _ => hwoken⟩
    · exact ⟨s,.start,hidle,rfl,fun hw => absurd hw hwaits⟩
  have hlabel : s₁.label t = s.label t := congrArg Frame.label hframe
  rw [← hlabel] at hactive ⊢
  have hgoes : (s₁.label t).idle = false := by simpa using (Bool.and_eq_true_iff.1 hactive).2
  refine ⟨_,hreach.trans (statement_reach hidle₁ hgoes hwoken),hidle₁,?_,?_⟩
  · rw [statement_label]
    exact step_successors api (s₁.config t) s₁.controller.tables.arrival
  · rw [statement_channelNumber,hframe]

theorem ends (ha : api.Lawful) (hc₀ : c₀.Fresh api) (hs : s.Sustained api c₀)
    (hidle : s.callback = .idle) (hactive : (s.label t).active) (htable : InTable (s.caller t)) :
    ∃ s', Reach (Tuning.step api) (OneCall api) s s' ∧ (s'.label t).idle := by
  refine Reach.of_progress (I := fun s => s.Sustained api c₀ ∧ s.callback = .idle ∧
    (s.label t).active ∧ InTable (s.caller t)) (fun s => (s.label t).rank) ?_
    ⟨hs,hidle,hactive,htable⟩
  rintro s ⟨hs,hidle,hactive,htable⟩
  have hdeinit : s.label t ≠ .deinit := by
    obtain ⟨log,hserial⟩ := hs.serial
    exact (hserial.listening ha hactive).alive
  obtain ⟨s₁,hreach,hidle₁,hmem,hnumber⟩ := moves ha hs hidle hactive
  have hless := Label.rank_successors (s.label t) hactive (hs.inside t htable) hdeinit _ hmem
  obtain hend | hactive₁ := Label.active_successors (s.label t) hactive _ hmem
  · exact ⟨s₁,hreach,.inl hend⟩
  · have htable₁ : InTable (s₁.caller t) := by
      rw [InTable,hnumber]
      exact htable
    exact ⟨s₁,hreach,.inr ⟨⟨hs.reach ha hc₀ hreach,hidle₁,hactive₁,htable₁⟩,hless⟩⟩

/-- No call hangs: from every state of every interleaving with one call at a time, a call in
progress that waits has a filter alive for the table it waits for, and each call in progress
whose position is one of the PAT's twenty can still come to its end, whatever the threads did
before, unless the callback is about to leave its arrays. -/
theorem call_can_end (ha : api.Lawful) (hc₀ : c₀.Fresh api) (hzeroed : c₀.tables = .zeroed)
    (h : Reach (Tuning.step api) (OneCall api) (initial api c₀) s) (hactive : (s.label t).active) :
    (∀ id, (s.label t).awaits = some id →
      ∃ fl ∈ api.filters s.controller.device, fl.tableId = id) ∧
    (InTable (s.caller t) →
      (∀ sec, s.callback = .arrived sec →
        ∃ r, run sec.bytes (sectionReceivedCallback s.controller.tables) = .ok r) →
      ∃ s', Reach (Tuning.step api) (OneCall api) s s' ∧ (s'.label t).idle) := by
  have hstart : (initial api c₀).Sustained api c₀ := by
    refine ⟨⟨[],Serial.initial api c₀⟩,?_,fun t _ => ?_⟩
    · have htables : (initial api c₀).controller.tables = c₀.tables :=
        step_arrival_tables api (boot c₀)
      rw [htables,hzeroed]
      decide
    · have hunstarted := Unstarted.initial ha hc₀ hzeroed
      cases t with
      | worker => rw [hunstarted.worker]; decide
      | keyTimer n => rw [hunstarted.keyTimer n]; decide
  have hs := hstart.reach ha hc₀ h
  constructor
  · obtain ⟨log,hserial⟩ := hs.serial
    exact (hserial.listening ha hactive).filter
  · intro htable hparses
    obtain ⟨s₁,hreach,hidle,hframe⟩ := drains api hparses
    have hlabel : s₁.label t = s.label t := congrArg Frame.label (hframe t)
    obtain ⟨s',hreach',hend⟩ := ends ha hc₀ (hs.reach ha hc₀ hreach) hidle (hlabel ▸ hactive)
      (by rw [InTable,hframe]; exact htable)
    exact ⟨s',hreach.trans hreach',hend⟩

theorem first_call_can_end :
    ∃ s s' : Tuning ReferenceDevice, follow (Tuning.step referenceApi) start firstCall = some s ∧
      s.label .worker = .waitPmt ∧ (∃ fl ∈ s.controller.device.filters, fl.tableId = 0x02) ∧
      Reach (Tuning.step referenceApi) (OneCall referenceApi) s s' ∧ (s'.label .worker).idle := by
  have hend : (follow (Tuning.step referenceApi) start firstCall).map (fun s => (s.label .worker,
      tunedSlot (s.caller .worker).frame.channelNumber,s.callback.inProgress)) =
        some (.waitPmt,1,false) := by decide +kernel
  have heach : Each (OneCall referenceApi) (Tuning.step referenceApi) start firstCall := by
    decide +kernel
  obtain ⟨s,hs,hthree⟩ := Option.map_eq_some_iff.1 hend
  obtain ⟨hlabel,htwo⟩ := Prod.mk.inj hthree
  obtain ⟨hslot,hidle⟩ := Prod.mk.inj htwo
  obtain ⟨hlistens,hends⟩ := call_can_end (t := .worker) referenceApi_lawful
    (Controller.initial_fresh [] 0) rfl (Reach.start.of_each firstCall heach hs)
    (by rw [hlabel]; rfl)
  obtain ⟨s',hreach,hreturned⟩ := hends ⟨⟨1,by decide⟩,hslot⟩
    fun sec hsec => by rw [hsec] at hidle; cases hidle
  exact ⟨s,s',hs,hlabel,hlistens 0x02 (by rw [hlabel]; rfl),hreach,hreturned⟩

/-- Nothing can come any more, and nobody but a section could end the wait. -/
structure Hung (api : TdpApi D) (s : Tuning D) : Prop where
  unstarted : s.Unstarted api
  silent : api.filters s.controller.device = ∅
  idle : s.callback = .idle

theorem Unstarted.aside (hu : s.Unstarted api) {e : TuningEvent} (hstep : s.step api e = some s') :
    ∀ t, e = .advance t → (s.label t).waits ∧ (s.caller t).demuxCond = .outside := by
  rintro t rfl
  cases t with
  | worker =>
    have hwaits : (s.label .worker).waits := by
      rw [hu.worker]
      rfl
    refine ⟨hwaits,?_⟩
    simp only [Tuning.step,Tuning.advance,hwaits,if_true] at hstep
    split at hstep
    case h_1 houtside => exact houtside
    case h_2 => cases hstep
    case h_3 hwoken => exact absurd hwoken hu.woken
  | keyTimer n => simp [Tuning.step,Tuning.advance,hu.keyTimer n,Label.waits,Label.idle] at hstep

theorem Hung.step (h : s.Hung api) {e : TuningEvent} (hdelivers : s.Delivers api e)
    (hstep : s.step api e = some s') : s'.Hung api := by
  obtain ⟨hu,hsilent,hidle⟩ := h
  have he : e ≠ .parses := by
    rintro rfl
    simp only [Tuning.step,hidle] at hstep
    cases hstep
  have hu' := hu.waits_on he hdelivers hstep
  have haside := step_aside hstep (hu.aside hstep)
  refine ⟨hu',by rw [haside.device]; exact hsilent,?_⟩
  cases hcallback : s'.callback with
  | idle => rfl
  | signalling => exact absurd hcallback hu'.signalling
  | arrived sec =>
    obtain rfl | harrived := haside.arrived sec hcallback
    · obtain ⟨fl,hfl,-⟩ := hdelivers
      rw [hsilent] at hfl
      exact absurd hfl (Set.notMem_empty fl)
    · cases hidle.symm.trans harrived

theorem boot_can_end (hu : s.Unstarted api) (hidle : s.callback = .idle) {fl : SectionFilter}
    (hfl : fl ∈ api.filters s.controller.device) :
    ∃ s', Reach (Tuning.step api) (OneCall api) s s' ∧ s'.label .worker = .ready := by
  have hwaits : (s.label .worker).waits := by
    rw [hu.worker]
    rfl
  have hid : patArrives.bytes 0 = fl.tableId := by
    rw [hu.filters fl hfl]
    decide
  obtain ⟨s₁,hreach,hidle₁,hframe,hwoken⟩ := wakes_for hidle hwaits hfl hid accepted_pat
  have hlabel : s₁.label .worker = .waitPat := (congrArg Frame.label hframe).trans hu.worker
  have hl : (s₁.config .worker).frame.label = .waitPat := hlabel
  refine ⟨s₁.statement api .worker,hreach.trans (statement_reach hidle₁ ?_ fun _ => hwoken),?_⟩
  · rw [hlabel]
    rfl
  · rw [statement_label]
    simp only [TvApp.step,hl]
    rfl

/-- The worker stays in its wait for the PAT for good, and with it every thread out of
`startChannel`, in all interleavings, exactly if its first `Demux_Set_Filter` fails. -/
theorem boot_hangs_iff (ha : api.Lawful) (hc₀ : c₀.Fresh api) (hzeroed : c₀.tables = .zeroed) :
    (∀ s, Reach (Tuning.step api) (Delivers api) (initial api c₀) s →
      s.label .worker = .waitPat ∧ ∀ n, s.label (.keyTimer n) = .returned) ↔
      (api.demuxSetFilter c₀.device 0x00 0x00).1 = none := by
  have hunstarted := Unstarted.initial ha hc₀ hzeroed
  have hfilters := initial_filters ha hc₀
  constructor
  · intro hall
    by_contra hset
    obtain ⟨h,hh⟩ := Option.ne_none_iff_exists'.1 hset
    rw [hh] at hfilters
    have hfl : ⟨h,0x00,0x00⟩ ∈ api.filters (initial api c₀).controller.device := by
      rw [hfilters]
      rfl
    obtain ⟨s,hreach,hready⟩ := boot_can_end hunstarted rfl hfl
    have hwait := (hall s (hreach.mono fun _ _ hallowed => hallowed.1)).1
    cases hready.symm.trans hwait
  · intro hfailed s hreach
    rw [hfailed] at hfilters
    have hhung : s.Hung api := hreach.invariant ⟨hunstarted,hfilters,rfl⟩
      fun _ hs hdelivers hstep => hs.step hdelivers hstep
    exact ⟨hhung.unstarted.worker,hhung.unstarted.keyTimer⟩

theorem refused_pat_filter_hangs :
    ¬ ∃ s : Tuning ReferenceDevice, Reach (Tuning.step referenceApi) (Delivers referenceApi)
        (initial referenceApi (Controller.initial (.new [true]) 0)) s ∧
      s.label .worker ≠ .waitPat := by
  rintro ⟨s,hreach,hleft⟩
  have hhangs := (boot_hangs_iff referenceApi_lawful (Controller.initial_fresh [true] 0) rfl).2 rfl
  exact hleft (hhangs s hreach).1

end Tuning
end TvApp

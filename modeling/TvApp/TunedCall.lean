import TvApp.ConcurrentCalls
import TvApp.ProgrammeReach
import TvApp.PidSelection

/-! One call of `startChannel` between its `Demux_Set_Filter` and the store of the
current channel.
As long as the filter lets through PMT sections on the pid of the channel only, and the
callback is not busy with another section, the call waits for, scans and stores a PMT of
its own. -/
namespace TvApp

open Routine

variable {D : Type}

def pmtEntriesAt (buf : Buffer) : List PmtElementaryInfo := (pmtPositions buf).map (pmtElementaryInfoAt buf)

theorem PmtTable.Shows.entries_eq {pmtTable : PmtTable} {buf : Buffer} (h : pmtTable.Shows buf) :
    pmtTable.entries = pmtEntriesAt buf := by
  have hle := pmtPositions_length_le buf
  have hlength : pmtTable.entries.length = (pmtPositions buf).length := by
    rw [PmtTable.entries,List.length_take,PmtTable.slots,List.length_ofFn,h.count]
    exact min_eq_left hle
  refine List.ext_getElem (by rw [hlength,pmtEntriesAt,List.length_map]) fun i hi _ => ?_
  rw [hlength] at hi
  simp only [PmtTable.entries,PmtTable.slots,pmtEntriesAt,List.getElem_take,List.getElem_ofFn,
    List.getElem_map]
  exact h.entries ⟨i,by omega⟩ hi

def CarriedSection.IsPmtOn (sec : CarriedSection) (pid : UInt16) : Prop :=
  sec.pid = pid ∧ sec.bytes 0 = 0x02

def Label.selected : Label → Bool
  | .testVideo | .testHandleV | .removeVideo | .zeroVideo | .createVideo => true
  | .dropVideo | .zeroDroppedVideo | .clearScreen => true
  | .testAudio | .testHandleA | .removeAudio | .zeroAudio | .createAudio | .storeChannel => true
  | _ => false

/-- From the call's own `Demux_Set_Filter` up to the store of the current channel. -/
def Label.tuned (l : Label) : Bool := l == .waitPmt || l == .scan || l.selected

theorem Label.active_of_tuned {l : Label} (h : l.tuned) : l.active := by
  cases l <;> first | rfl | cases h

/-- The statements between the scan and the store leave alone what the call depends on. -/
structure SelectedStep (api : TdpApi D) (c c' : Config D) : Prop where
  tables : c'.controller.tables = c.controller.tables
  filters : api.filters c'.controller.device = api.filters c.controller.device
  channelNumber : c'.frame.channelNumber = c.frame.channelNumber
  audioPid : c'.frame.audioPid = c.frame.audioPid
  videoPid : c'.frame.videoPid = c.frame.videoPid
  selected : c'.frame.label.tuned → c'.frame.label.selected

theorem step_selected {api : TdpApi D} (ha : api.Lawful) {c : Config D} (a : Arrival)
    (hl : c.frame.label.selected) : SelectedStep api c (step api c a) := by
  cases hc : c.frame.label <;> rw [hc] at hl <;> try cases hl
  all_goals simp only [step,hc]
  case testVideo | testHandleV | testAudio | testHandleA =>
    split <;> exact ⟨rfl,rfl,rfl,rfl,rfl,fun _ => rfl⟩
  case removeVideo | dropVideo | removeAudio =>
    exact ⟨rfl,ha.remove_filters _ _,rfl,rfl,rfl,fun _ => rfl⟩
  case zeroVideo | zeroDroppedVideo | zeroAudio => exact ⟨rfl,rfl,rfl,rfl,rfl,fun _ => rfl⟩
  case createVideo | createAudio =>
    split
    · exact ⟨rfl,ha.create_filters _ _ _,rfl,rfl,rfl,fun _ => rfl⟩
    · exact ⟨rfl,ha.create_filters _ _ _,rfl,rfl,rfl,fun h => h⟩
  case clearScreen => exact ⟨rfl,ha.clear_filters _,rfl,rfl,rfl,fun _ => rfl⟩
  case storeChannel => exact ⟨rfl,rfl,rfl,rfl,rfl,fun h => h⟩

theorem step_tuned (api : TdpApi D) {c : Config D} (a : Arrival) (h : (step api c a).frame.label.tuned) :
    c.frame.label = .setPmtFilter ∨ c.frame.label.tuned := by
  cases hc : c.frame.label
  case setPmtFilter => exact Or.inl rfl
  case waitPmt | scan | testVideo | testHandleV | removeVideo | zeroVideo | createVideo | dropVideo
    | zeroDroppedVideo | clearScreen | testAudio | testHandleA | removeAudio | zeroAudio | createAudio
    | storeChannel => exact Or.inr rfl
  case setPatFilter | setTdtFilter | setTotFilter =>
    simp only [step,hc,Config.setFilter] at h
    split at h <;> cases h
  case testTimeTables =>
    simp only [step,hc,Config.goto] at h
    split at h <;> cases h
  case waitPat | freeFilter | freeForTdt | waitTdt | freeForTot | waitTot | storeDate
    | setTimeTablesRecieved =>
    simp only [step,hc] at h
    cases h
  case ready | returned | filterFailed | fault | deinit =>
    simp only [step,hc] at h
    cases h

theorem Label.waitPmt_of_tuned {l : Label} (h : l.tuned) (hwaits : l.waits) : l = .waitPmt := by
  cases l <;> first | rfl | exact absurd h Bool.false_ne_true | exact absurd hwaits Bool.false_ne_true

namespace Tuning

variable {api : TdpApi D} {s s' : Tuning D} {t : Caller} {pid : UInt16}

def TakenFrom (th : CallerState) (sec : CarriedSection) : Prop :=
  th.source = some sec ∧ th.frame.audioPid = firstPid isAudio (pmtEntriesAt sec.bytes) ∧
    th.frame.videoPid = firstPid isVideo (pmtEntriesAt sec.bytes)

/-- Between its `Demux_Set_Filter` and its store a call sees PMT sections on its own pid
only: they are what the filter lets through, what a callback is about to parse, and what
has been parsed.  A signal means that there was one. -/
structure TunedTo (api : TdpApi D) (s : Tuning D) (t : Caller) (pid : UInt16) : Prop where
  pmtPid : pmtPid s.controller.tables.patTable (s.caller t).frame.channelNumber = some pid
  filters : ∀ fl ∈ api.filters s.controller.device, fl.pid = pid ∧ fl.tableId = 0x02
  arrived : ∀ sec, s.callback = .arrived sec → sec.IsPmtOn pid
  signalling : s.callback = .signalling → (s.caller t).parsedSince ≠ []
  parsed : ∀ sec ∈ (s.caller t).parsedSince, sec.IsPmtOn pid
  shown : ∀ sec, (s.caller t).parsedSince.getLast? = some sec →
    s.controller.tables.pmtTable.Shows sec.bytes
  woken : (s.label t = .waitPmt → (s.caller t).demuxCond = .woken) → (s.caller t).parsedSince ≠ []
  selected : (s.label t).selected → ∃ sec, TakenFrom (s.caller t) sec ∧ sec.IsPmtOn pid

theorem TunedTo.of_same (h : s.TunedTo api t pid) (hcontroller : s'.controller = s.controller)
    (hcallback : s'.callback = s.callback) (hcaller : s'.caller t = s.caller t) :
    s'.TunedTo api t pid := by
  obtain ⟨hpid,hfilters,harrived,hsignalling,hparsed,hshown,hwoken,hselected⟩ := h
  rw [label,← hcaller] at hwoken hselected
  rw [← hcontroller] at hpid hfilters hshown
  rw [← hcallback] at hsignalling
  simp only [← hcallback] at harrived
  rw [← hcaller] at hpid hsignalling hparsed hshown
  exact ⟨hpid,hfilters,harrived,hsignalling,hparsed,hshown,hwoken,hselected⟩

theorem statement_config (api : TdpApi D) (s : Tuning D) (t : Caller) :
    (s.statement api t).config t = TvApp.step api (s.config t) s.controller.tables.arrival := by
  simp only [config,statement,withCaller_caller_self]
  rfl

theorem statement_label (api : TdpApi D) (s : Tuning D) (t : Caller) :
    (s.statement api t).label t =
      (TvApp.step api (s.config t) s.controller.tables.arrival).frame.label := by
  rw [← statement_config]
  rfl

theorem statement_caller_of_ne (api : TdpApi D) (s : Tuning D) {t t' : Caller} (h : t' ≠ t) :
    (s.statement api t).caller t' = s.caller t' := by
  rw [statement,withCaller_caller_of_ne _ _ h]

theorem statement_caller (api : TdpApi D) (s : Tuning D) {t : Caller} (h : s.label t ≠ .setPmtFilter) :
    (s.statement api t).caller t =
      ⟨(TvApp.step api (s.config t) s.controller.tables.arrival).frame,.outside,
        (s.caller t).parsedSince,
        if s.label t = .scan then (s.caller t).parsedSince.getLast? else (s.caller t).source⟩ := by
  rw [label] at h
  simp only [statement,withCaller_caller_self,if_neg h]
  rfl

theorem statement_caller_set (api : TdpApi D) (s : Tuning D) {t : Caller} (h : s.label t = .setPmtFilter) :
    (s.statement api t).caller t =
      ⟨(TvApp.step api (s.config t) s.controller.tables.arrival).frame,.outside,[],
        (s.caller t).source⟩ := by
  have hscan : (s.caller t).frame.label ≠ .scan := fun he => absurd (h.symm.trans he) (by decide)
  simp only [statement,withCaller_caller_self,if_neg hscan]
  rw [if_pos (show (s.caller t).frame.label = .setPmtFilter from h)]

theorem TunedTo.statement (h : s.TunedTo api t pid) (hset : s.label t ≠ .setPmtFilter) {c : Config D}
    (hc : TvApp.step api (s.config t) s.controller.tables.arrival = c)
    (htables : c.controller.tables = s.controller.tables)
    (hfilters : api.filters c.controller.device = api.filters s.controller.device)
    (hchannel : c.frame.channelNumber = (s.caller t).frame.channelNumber)
    (hparsed : (s.caller t).parsedSince ≠ [])
    (hselected : c.frame.label.selected →
      ∃ sec, TakenFrom ((s.statement api t).caller t) sec ∧ sec.IsPmtOn pid) :
    (s.statement api t).TunedTo api t pid := by
  have hcontroller : (s.statement api t).controller = c.controller := by
    rw [← hc]
    rfl
  have hcaller := statement_caller api s hset
  rw [hc] at hcaller
  refine ⟨?_,?_,h.arrived,?_,?_,?_,?_,?_⟩
  · rw [hcontroller,htables,hcaller,hchannel]
    exact h.pmtPid
  · rw [hcontroller,hfilters]
    exact h.filters
  · rw [hcaller]
    exact fun _ => hparsed
  · rw [hcaller]
    exact h.parsed
  · rw [hcontroller,htables,hcaller]
    exact h.shown
  · rw [hcaller]
    exact fun _ => hparsed
  · rw [statement_label,hc]
    exact hselected

theorem TunedTo.waited (h : s.TunedTo api t pid) (hl : s.label t = .waitPmt)
    (hwoken : (s.caller t).demuxCond = .woken) : (s.statement api t).TunedTo api t pid := by
  have hl' : (s.config t).frame.label = .waitPmt := hl
  have hc : TvApp.step api (s.config t) s.controller.tables.arrival = (s.config t).goto .scan := by
    simp only [TvApp.step,hl']
    rfl
  refine h.statement (by rw [hl]; decide) hc rfl rfl rfl (h.woken fun _ => hwoken) ?_
  rintro ⟨⟩

theorem TunedTo.scanned (h : s.TunedTo api t pid) (hl : s.label t = .scan)
    (htuned : ((s.statement api t).label t).tuned) : (s.statement api t).TunedTo api t pid := by
  have hl' : (s.config t).frame.label = .scan := hl
  have hparsed : (s.caller t).parsedSince ≠ [] := h.woken fun hwait => absurd (hwait.symm.trans hl) (by decide)
  cases hrun : run (fun _ => 0) (channelPids s.controller.tables.pmtTable) with
  | error e =>
    have hc : TvApp.step api (s.config t) s.controller.tables.arrival = (s.config t).goto .fault := by
      simp only [TvApp.step,hl']
      rw [config,hrun]
    rw [statement_label,hc] at htuned
    cases htuned
  | ok pids =>
    have hc : TvApp.step api (s.config t) s.controller.tables.arrival =
        ⟨s.controller,{ (s.caller t).frame with
          label := .testVideo, audioPid := pids.1, videoPid := pids.2 }⟩ := by
      simp only [TvApp.step,hl']
      rw [config,hrun]
    refine h.statement (by rw [hl]; decide) hc rfl rfl rfl hparsed fun _ => ?_
    obtain ⟨sec,hsec⟩ := Option.ne_none_iff_exists'.1 (mt List.getLast?_eq_none_iff.1 hparsed)
    refine ⟨sec,⟨?_,?_,?_⟩,h.parsed sec (List.mem_of_getLast? hsec)⟩
    · rw [statement_caller api s (by rw [hl]; decide),if_pos hl]
      exact hsec
    all_goals
      rw [statement_caller api s (by rw [hl]; decide),hc,← (h.shown sec hsec).entries_eq,
        channelPids_eq_ok hrun]

theorem TunedTo.kept (ha : api.Lawful) (h : s.TunedTo api t pid) (hl : (s.label t).selected) :
    (s.statement api t).TunedTo api t pid := by
  have hset : s.label t ≠ .setPmtFilter := fun he => by rw [he] at hl; cases hl
  have hscan : s.label t ≠ .scan := fun he => by rw [he] at hl; cases hl
  have hwait : s.label t ≠ .waitPmt := fun he => by rw [he] at hl; cases hl
  have hkept := step_selected ha s.controller.tables.arrival (c := s.config t) hl
  refine h.statement hset rfl hkept.tables hkept.filters hkept.channelNumber
    (h.woken fun he => absurd he hwait) fun _ => ?_
  obtain ⟨sec,⟨hsource,haudio,hvideo⟩,hon⟩ := h.selected hl
  refine ⟨sec,⟨?_,?_,?_⟩,hon⟩
  · rw [statement_caller api s hset,if_neg hscan]
    exact hsource
  · rw [statement_caller api s hset]
    exact hkept.audioPid.trans haudio
  · rw [statement_caller api s hset]
    exact hkept.videoPid.trans hvideo

theorem opened (ha : api.Lawful) (hl : s.label t = .setPmtFilter)
    (hempty : api.filters s.controller.device = ∅) (hidle : s.callback.inProgress = false)
    (htuned : ((s.statement api t).label t).tuned) : ∃ pid, (s.statement api t).TunedTo api t pid := by
  have hl' : (s.config t).frame.label = .setPmtFilter := hl
  have hcallback : s.callback = .idle := by
    cases hcb : s.callback with
    | idle => rfl
    | arrived sec => rw [hcb] at hidle; cases hidle
    | signalling => rw [hcb] at hidle; cases hidle
  cases hslot : run (fun _ => 0)
      (slot tablesMaxNumberOfPidsInPat (tunedSlot (s.caller t).frame.channelNumber)) with
  | error e =>
    have hc : TvApp.step api (s.config t) s.controller.tables.arrival = (s.config t).goto .fault := by
      simp only [TvApp.step,hl']
      rw [config,hslot]
    rw [statement_label,hc] at htuned
    cases htuned
  | ok k =>
    have hc : TvApp.step api (s.config t) s.controller.tables.arrival =
        (s.config t).setFilter api (s.controller.tables.patTable.patServiceInfoArray k.1).pid 0x02
          .waitPmt .filterFailed := by
      simp only [TvApp.step,hl']
      rw [config,hslot]
    cases hset : (api.demuxSetFilter s.controller.device
        (s.controller.tables.patTable.patServiceInfoArray k.1).pid 0x02).1 with
    | none =>
      rw [statement_label,hc,Config.setFilter_none hset] at htuned
      cases htuned
    | some h =>
      rw [Config.setFilter_some hset] at hc
      obtain ⟨-,-,hfilters⟩ := ha.set _ _ _ _ hset
      have hcontroller : (s.statement api t).controller =
          (TvApp.step api (s.config t) s.controller.tables.arrival).controller := rfl
      have hcaller := statement_caller_set api s hl
      rw [hc] at hcontroller hcaller
      refine ⟨(s.controller.tables.patTable.patServiceInfoArray k.1).pid,?_,?_,?_,?_,?_,?_,?_,?_⟩
      · rw [hcontroller,hcaller]
        change servicePid _ (tunedSlot (s.caller t).frame.channelNumber) = _
        rw [servicePid,hslot]
        rfl
      · intro fl hfl
        rw [hcontroller] at hfl
        change fl ∈ api.filters (api.demuxSetFilter s.controller.device _ _).2 at hfl
        rw [hfilters,hempty,insert_empty_eq,Set.mem_singleton_iff] at hfl
        subst hfl
        exact ⟨rfl,rfl⟩
      · intro sec hsec
        cases hcallback.symm.trans hsec
      · intro hsignalling
        cases hcallback.symm.trans hsignalling
      · rw [hcaller]
        exact fun sec hsec => absurd hsec List.not_mem_nil
      · rw [hcaller]
        rintro sec ⟨⟩
      · rw [hcaller]
        intro hwoken
        rw [statement_label,hc] at hwoken
        cases hwoken rfl
      · rw [statement_label,hc]
        rintro ⟨⟩

end Tuning
end TvApp

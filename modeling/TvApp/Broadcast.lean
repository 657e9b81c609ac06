import TvApp.PatLifetime

/-! From the bytes on air to the streams in the player.
A multiplex carries one PAT, and a PMT on each pid.  If its sections, encoded by the
reference encoder, are all that the demultiplexer delivers, then a channel that is started
gets the pids that the multiplex lists for it, and these are what the player then plays, in
every interleaving whose calls are kept apart and in which no thread reads a table that is
being written. -/
namespace TvApp

open Routine StreamKind ParseErrorCode

variable {D : Type}

theorem PatSection.patResult_of_holds (s : PatSection) {buf : Buffer} (h : Holds buf 0 s.encode)
    (prior : PatTable) (i : Fin 20) (hi : i.val < s.entries.length) :
    (patResult buf prior).2.patServiceInfoArray i = (s.entries[i.val]).info := by
  have hheader := s.header_of_holds h.append_left
  have hid : buf 0 = 0x00 := congrArg PatHeader.tableId hheader
  have hloop := s.entries_of_holds h prior.patServiceInfoArray
  have hrun := run_parsePatTable prior hid (by rw [hheader]; exact hloop)
  rw [run_parsePatTable_eq] at hrun
  rw [congrArg Prod.snd (Except.ok.inj hrun)]
  exact s.stored_entries prior.patServiceInfoArray i hi

theorem PmtSection.entriesAt_of_holds (s : PmtSection) {buf : Buffer} (h : Holds buf 0 s.encode) :
    pmtEntriesAt buf = (s.streams.map PmtStream.info).take 20 := by
  have hheader := s.header_of_holds h.append_left
  have hid : buf 0 = 0x02 := congrArg PmtTableHeader.tableId hheader
  have hloop := s.entries_of_holds h PmtTable.zeroed.pmtElementaryInfoArray
  have hrun := run_parsePmtTable .zeroed hid (by rw [hheader]; exact hloop)
  rw [run_parsePmtTable_eq] at hrun
  have htable := congrArg Prod.snd (Except.ok.inj hrun)
  rw [← (pmtResult_shows hid .zeroed).entries_eq,htable]
  have hcount : (UInt8.ofNat (min 20 s.streams.length)).toNat = min 20 s.streams.length := by
    rw [UInt8.toNat_ofNat']
    omega
  simp only [PmtTable.entries,PmtTable.slots,Walk.pushAll_count,List.length_take,List.length_map,
    Nat.zero_add,hcount]
  refine List.ext_getElem (by simp) fun i hi hi' => ?_
  simp only [List.length_take,List.length_map] at hi'
  rw [List.getElem_take,List.getElem_ofFn,Walk.pushAll_entries _ _ _ i (by simpa using hi') _ (by simp)]

/-- One PAT, and a PMT for every pid. -/
structure Multiplex where
  pat : PatSection
  pmt : UInt16 → PmtSection

namespace Multiplex

/-- A PAT or PMT section is the encoding of the one that the multiplex has. -/
def Carries (m : Multiplex) (sec : CarriedSection) : Prop :=
  (sec.bytes 0 = 0x00 → Holds sec.bytes 0 m.pat.encode) ∧
    (sec.bytes 0 = 0x02 → Holds sec.bytes 0 (m.pmt sec.pid).encode)

def Listed (m : Multiplex) (patTable : PatTable) : Prop :=
  ∀ (i : Fin 20) (h : i.val < m.pat.entries.length),
    patTable.patServiceInfoArray i = (m.pat.entries[i.val]).info

/-- The streams that a PMT of the multiplex lists, as far as they are taken in. -/
def streams (m : Multiplex) (pid : UInt16) : List PmtElementaryInfo :=
  ((m.pmt pid).streams.map PmtStream.info).take 20

def channel (m : Multiplex) (programNumber : Int16) (e : PatEntry) : ChannelInfo :=
  let streams := m.streams e.info.pid
  { programNumber := programNumber
    audioPid := firstPid isAudio streams
    videoPid := firstPid isVideo streams }

theorem Listed.pmtPid {m : Multiplex} {patTable : PatTable} (h : m.Listed patTable)
    {channelNumber : Int32} {i : Fin 20} (hi : tunedSlot channelNumber = (i.val : ℤ))
    (hlisted : i.val < m.pat.entries.length) :
    pmtPid patTable channelNumber = some (m.pat.entries[i.val]).info.pid := by
  rw [TvApp.pmtPid,hi,servicePid,run_slot _ i.isLt]
  simp only [h i hlisted]

theorem Listed.of_received {m : Multiplex} {sec : CarriedSection} (hcarries : m.Carries sec)
    (hid : sec.bytes 0 = 0x00) (prior : PatTable) : m.Listed (patResult sec.bytes prior).2 :=
  fun i hi => m.pat.patResult_of_holds (hcarries.1 hid) prior i hi

end Multiplex

namespace Tuning

variable {api : TdpApi D} {c₀ : Controller D} {s s' : Tuning D} {t : Caller} {m : Multiplex}
  {log : List ChannelInfo}

def Broadcasts (m : Multiplex) : TuningEvent → Prop
  | .begins sec => m.Carries sec
  | _ => True

/-- No PAT has been parsed yet, and so no call can begin. -/
structure Unstarted (api : TdpApi D) (s : Tuning D) : Prop where
  count : s.controller.tables.patTable.serviceInfoCount = 0
  filters : ∀ fl ∈ api.filters s.controller.device, fl.tableId = 0x00
  arrived : ∀ sec, s.callback = .arrived sec → sec.bytes 0 = 0x00
  signalling : s.callback ≠ .signalling
  worker : s.label .worker = .waitPat
  woken : (s.caller .worker).demuxCond ≠ .woken
  keyTimer : ∀ n, s.label (.keyTimer n) = .returned

/-- The invariant: whatever a thread has seen came from the multiplex. -/
structure FromAir (api : TdpApi D) (m : Multiplex) (s : Tuning D) : Prop where
  arrived : ∀ sec, s.callback = .arrived sec → m.Carries sec
  parsed : ∀ t, ∀ sec ∈ (s.caller t).parsedSince, m.Carries sec
  source : ∀ t sec, (s.caller t).source = some sec → m.Carries sec
  pat : m.Listed s.controller.tables.patTable ∨ s.Unstarted api

theorem not_changeChannelKeyAccepts_zero (channelNumber : Int32) :
    changeChannelKeyAccepts 0 channelNumber = false := by
  rw [changeChannelKeyAccepts,decide_eq_false_iff_not]
  change ¬ (channelNumber.toInt > -1 ∧ channelNumber.toInt < 0)
  omega

theorem Unstarted.waits_on (hu : s.Unstarted api) {e : TuningEvent} (he : e ≠ .parses)
    (hdelivers : s.Delivers api e) (hstep : s.step api e = some s') : s'.Unstarted api := by
  cases e with
  | advance t =>
    cases t with
    | worker =>
      have hwaits : (s.label .worker).waits := by
        rw [hu.worker]
        rfl
      simp only [Tuning.step,Tuning.advance,hwaits,if_true] at hstep
      split at hstep
      case h_1 =>
        cases hstep
        exact { hu with
          worker := by
            rw [label,withCaller_caller_self]
            exact hu.worker
          woken := by
            rw [withCaller_caller_self]
            exact CondWait.noConfusion
          keyTimer := fun n => by
            rw [label,withCaller_caller_of_ne s _ Caller.noConfusion]
            exact hu.keyTimer n }
      case h_2 => cases hstep
      case h_3 hwoken => exact absurd hwoken hu.woken
    | keyTimer n =>
      simp [Tuning.step,Tuning.advance,hu.keyTimer n,Label.waits,Label.idle] at hstep
  | workerCalls =>
    simp only [Tuning.step,Tuning.workerCalls,hu.worker] at hstep
    cases hstep
  | press key =>
    cases hstep
    exact { hu with }
  | dial channelNumber =>
    cases hstep
    rw [Tuning.dial,hu.count,not_changeChannelKeyAccepts_zero,if_neg Bool.false_ne_true]
    exact { hu with }
  | begins sec =>
    simp only [Tuning.step] at hstep
    split at hstep <;> cases hstep
    obtain ⟨fl,hfl,-,hid⟩ := hdelivers
    refine { hu with arrived := ?_,signalling := Callback.noConfusion }
    rintro sec' ⟨⟩
    rw [hid]
    exact hu.filters fl hfl
  | parses => exact absurd rfl he
  | signals =>
    simp only [Tuning.step] at hstep
    split at hstep
    case h_1 hsignalling => exact absurd hsignalling hu.signalling
    case h_2 => cases hstep

theorem Unstarted.step (hu : s.Unstarted api) (harrived : ∀ sec, s.callback = .arrived sec → m.Carries sec)
    {e : TuningEvent} (hdelivers : s.Delivers api e) (hstep : s.step api e = some s') :
    m.Listed s'.controller.tables.patTable ∨ s'.Unstarted api := by
  by_cases he : e = .parses
  · left
    subst he
    simp only [Tuning.step] at hstep
    split at hstep
    case h_2 => cases hstep
    case h_1 sec hsec =>
      rw [Tuning.parses] at hstep
      split at hstep
      case h_1 => cases hstep
      case h_2 r hrun =>
        cases hstep
        have hid := hu.arrived sec hsec
        obtain ⟨hpat,-⟩ := sectionReceivedCallback_tables hrun
        rw [if_pos hid] at hpat
        change m.Listed r.2.patTable
        rw [hpat]
        exact .of_received (harrived sec hsec) hid _
  · exact .inr (hu.waits_on he hdelivers hstep)

theorem FromAir.step_pat (hs : s.FromAir api m) (hbooted : ∀ t, s.label t ≠ .setPatFilter)
    {e : TuningEvent} (hdelivers : s.Delivers api e) (hstep : s.step api e = some s') :
    m.Listed s'.controller.tables.patTable ∨ s'.Unstarted api := by
  rcases hs.pat with hlisted | hu
  · left
    rcases step_statement hstep with he | ⟨t,-,rfl⟩
    · rcases (step_aside hstep he).patTable with hsame | ⟨-,sec,harrived,hid,hpat⟩
      · rw [hsame]
        exact hlisted
      · rw [hpat]
        exact .of_received (hs.arrived sec harrived) hid _
    · rw [statement_pat hbooted t]
      exact hlisted
  · exact hu.step hs.arrived hdelivers hstep

/-- The history of a thread grows by the section in the callback, and what the thread says
it found at its scan is part of it. -/
structure HistoryStep (s s' : Tuning D) (t : Caller) : Prop where
  parsedSince : ∀ sec ∈ (s'.caller t).parsedSince,
    sec ∈ (s.caller t).parsedSince ∨ s.callback = .arrived sec
  source : ∀ sec, (s'.caller t).source = some sec →
    (s.caller t).source = some sec ∨ sec ∈ (s.caller t).parsedSince

theorem HistoryStep.of_same (hparsed : (s'.caller t).parsedSince = (s.caller t).parsedSince)
    (hsource : (s'.caller t).source = (s.caller t).source) : HistoryStep s s' t := by
  refine ⟨fun sec hsec => Or.inl ?_,fun sec hsec => Or.inl ?_⟩
  · rw [← hparsed]
    exact hsec
  · rw [← hsource]
    exact hsec

theorem calls_history (s : Tuning D) (t t' : Caller) (channelNumber : Int32) :
    HistoryStep s (s.calls t channelNumber) t' := by
  by_cases ht : t' = t
  · subst ht
    refine .of_same ?_ ?_
    all_goals rw [Tuning.calls,withCaller_caller_self]
  · refine .of_same ?_ ?_
    all_goals rw [Tuning.calls,withCaller_caller_of_ne s _ ht]

theorem statement_history (api : TdpApi D) (s : Tuning D) (t t' : Caller) :
    HistoryStep s (s.statement api t) t' := by
  by_cases ht : t' = t
  · subst ht
    by_cases hset : s.label t' = .setPmtFilter
    · have hcaller := statement_caller_set api s hset
      refine ⟨?_,?_⟩
      · rw [hcaller]
        exact fun sec hsec => absurd hsec List.not_mem_nil
      · rw [hcaller]
        exact fun sec hsec => Or.inl hsec
    · have hcaller := statement_caller api s hset
      refine ⟨?_,?_⟩
      · rw [hcaller]
        exact fun sec hsec => Or.inl hsec
      · rw [hcaller]
        intro sec hsec
        simp only at hsec
        split at hsec
        · exact Or.inr (List.mem_of_getLast? hsec)
        · exact Or.inl hsec
  · have hcaller := statement_caller_of_ne api s ht
    exact .of_same (by rw [hcaller]) (by rw [hcaller])

theorem step_history {e : TuningEvent} (hstep : s.step api e = some s') (t : Caller) :
    HistoryStep s s' t := by
  cases e with
  | advance t' =>
    simp only [Tuning.step,Tuning.advance] at hstep
    split at hstep
    · split at hstep
      · cases hstep
        by_cases ht : t = t'
        · subst ht
          refine .of_same ?_ ?_
          all_goals rw [withCaller_caller_self]
        · refine .of_same ?_ ?_
          all_goals rw [withCaller_caller_of_ne s _ ht]
      · cases hstep
      · cases hstep
        exact statement_history api s t' t
    · split at hstep
      · cases hstep
      · cases hstep
        exact statement_history api s t' t
  | workerCalls =>
    simp only [Tuning.step,Tuning.workerCalls] at hstep
    split at hstep
    case h_1 =>
      cases hstep
      exact calls_history s .worker t _
    case h_4 => cases hstep
    all_goals
      split at hstep
      · cases hstep
        have h := calls_history { s with controller := { s.controller with changeChannel := false } }
          .worker t s.controller.programNumber.toInt32
        exact ⟨h.parsedSince,h.source⟩
      · cases hstep
  | press key =>
    cases hstep
    exact .of_same rfl rfl
  | dial channelNumber =>
    cases hstep
    rw [Tuning.dial]
    split
    · have h := calls_history { s with expiries := s.expiries+1 } (.keyTimer s.expiries) t channelNumber
      exact ⟨h.parsedSince,h.source⟩
    · exact .of_same rfl rfl
  | begins sec =>
    simp only [Tuning.step] at hstep
    split at hstep <;> cases hstep
    exact .of_same rfl rfl
  | parses =>
    simp only [Tuning.step] at hstep
    split at hstep
    case h_2 => cases hstep
    case h_1 sec harrived =>
      rw [Tuning.parses] at hstep
      split at hstep
      · cases hstep
      · cases hstep
        by_cases hid : sec.bytes 0 = 0x02
        · have hrecord : record s.caller sec t =
              { s.caller t with parsedSince := (s.caller t).parsedSince ++ [sec] } := by
            rw [record,if_pos hid]
          refine ⟨fun sec' hsec' => ?_,fun sec' hsec' => Or.inl ?_⟩
          · change sec' ∈ (record s.caller sec t).parsedSince at hsec'
            rw [hrecord] at hsec'
            rcases List.mem_append.1 hsec' with hold | hnew
            · exact Or.inl hold
            · rw [List.mem_singleton.1 hnew]
              exact Or.inr harrived
          · change (record s.caller sec t).source = some sec' at hsec'
            rw [hrecord] at hsec'
            exact hsec'
        · have hrecord : record s.caller sec t = s.caller t := by
            rw [record,if_neg hid]
          exact .of_same (congrArg CallerState.parsedSince hrecord)
            (congrArg CallerState.source hrecord)
  | signals =>
    simp only [Tuning.step] at hstep
    split at hstep <;> cases hstep
    exact .of_same rfl rfl

theorem FromAir.step (hs : s.FromAir api m) (hbooted : ∀ t, s.label t ≠ .setPatFilter)
    {e : TuningEvent} (hdelivers : s.Delivers api e) (hbroadcasts : Broadcasts m e)
    (hstep : s.step api e = some s') : s'.FromAir api m where
  arrived sec hsec := by
    rcases step_statement hstep with he | ⟨t,-,rfl⟩
    · rcases (step_aside hstep he).arrived sec hsec with rfl | hold
      · exact hbroadcasts
      · exact hs.arrived sec hold
    · exact hs.arrived sec hsec
  parsed t sec hsec := by
    rcases (step_history hstep t).parsedSince sec hsec with hold | harrived
    · exact hs.parsed t sec hold
    · exact hs.arrived sec harrived
  source t sec hsec := by
    rcases (step_history hstep t).source sec hsec with hold | hparsed
    · exact hs.source t sec hold
    · exact hs.parsed t sec hparsed
  pat := hs.step_pat hbooted hdelivers hstep

theorem initial_filters (ha : api.Lawful) (hc₀ : c₀.Fresh api) :
    api.filters (initial api c₀).controller.device =
      match (api.demuxSetFilter c₀.device 0x00 0x00).1 with
      | some h => {⟨h,0x00,0x00⟩}
      | none => ∅ := by
  have hset : (initial api c₀).controller =
      ((boot c₀).setFilter api 0x00 0x00 .waitPat .waitPat).controller := rfl
  rw [hset]
  cases hr : (api.demuxSetFilter c₀.device 0x00 0x00).1 with
  | none =>
    rw [Config.setFilter_none hr]
    change api.filters (api.demuxSetFilter c₀.device 0x00 0x00).2 = _
    rw [ha.set_failed _ _ _ hr,hc₀.filters]
  | some g =>
    rw [Config.setFilter_some hr]
    change api.filters (api.demuxSetFilter c₀.device 0x00 0x00).2 = _
    rw [(ha.set _ _ _ _ hr).2.2,hc₀.filters,insert_empty_eq]

theorem Unstarted.initial (ha : api.Lawful) (hc₀ : c₀.Fresh api) (hzeroed : c₀.tables = .zeroed) :
    (initial api c₀).Unstarted api := by
  have hset : TvApp.step api (boot c₀) c₀.tables.arrival =
      (boot c₀).setFilter api 0x00 0x00 .waitPat .waitPat := rfl
  have htables : (TvApp.step api (boot c₀) c₀.tables.arrival).controller.tables = .zeroed := by
    rw [hset,Config.setFilter]
    split
    · exact hzeroed
    · exact hzeroed
  have hlabel : (TvApp.step api (boot c₀) c₀.tables.arrival).frame.label = .waitPat := by
    rw [hset,Config.setFilter]
    split <;> rfl
  constructor
  case count =>
    change (TvApp.step api (boot c₀) c₀.tables.arrival).controller.tables.patTable.serviceInfoCount = 0
    rw [htables]
    rfl
  case filters =>
    rw [initial_filters ha hc₀]
    split
    · rintro fl rfl
      rfl
    · exact fun fl hfl => absurd hfl (Set.notMem_empty fl)
  case arrived => rintro sec ⟨⟩
  case signalling => exact Callback.noConfusion
  case worker => exact hlabel
  case woken => exact CondWait.noConfusion
  case keyTimer => exact fun n => rfl

theorem FromAir.initial (ha : api.Lawful) (hc₀ : c₀.Fresh api) (hzeroed : c₀.tables = .zeroed) :
    (initial api c₀).FromAir api m where
  arrived := by rintro sec ⟨⟩
  parsed t := by cases t <;> exact fun sec hsec => absurd hsec List.not_mem_nil
  source t := by cases t <;> rintro sec ⟨⟩
  pat := .inr (.initial ha hc₀ hzeroed)

/-- Interleavings whose calls are kept apart, with a demultiplexer that hands over sections of
the multiplex for the filters that are set. -/
abbrev OnAirApart (api : TdpApi D) (m : Multiplex) (s : Tuning D) (e : TuningEvent) : Prop :=
  (s.Delivers api e ∧ s.Apart e) ∧ Broadcasts m e

theorem reach_fromAir (ha : api.Lawful) (hc₀ : c₀.Fresh api) (hzeroed : c₀.tables = .zeroed)
    (h : Reach (step api) (OnAirApart api m) (initial api c₀) s) : s.Separate api ∧ s.FromAir api m :=
  h.invariant (I := fun s => s.Separate api ∧ s.FromAir api m)
    ⟨Separate.initial ha hc₀,FromAir.initial ha hc₀ hzeroed⟩
    fun _ hs hallowed hstep => ⟨hs.1.step ha hallowed.1.1 hallowed.1.2 hstep,
      hs.2.step hs.1.booted hallowed.1.1 hallowed.2 hstep⟩

theorem oneAtATime_of_apart {e : TuningEvent} (h : s.Apart e) : s.OneAtATime e := by
  cases e with
  | advance t =>
    intro hl sec hsec
    have hidle := h hl
    rw [hsec] at hidle
    cases hidle
  | workerCalls => exact h
  | dial n => exact h
  | press _ | begins _ | parses | signals => trivial

theorem stored_of_fromAir (hs : s.Separate api) (hair : s.FromAir api m)
    (hstore : s.label t = .storeChannel) {i : Fin 20}
    (hi : tunedSlot (s.caller t).frame.channelNumber = (i.val : ℤ))
    (hlisted : i.val < m.pat.entries.length) :
    (s.caller t).frame.audioPid = firstPid isAudio (m.streams (m.pat.entries[i.val]).info.pid) ∧
      (s.caller t).frame.videoPid = firstPid isVideo (m.streams (m.pat.entries[i.val]).info.pid) := by
  have hpat : m.Listed s.controller.tables.patTable := by
    refine hair.pat.resolve_right fun hu => ?_
    cases t with
    | worker => cases hu.worker.symm.trans hstore
    | keyTimer n => cases (hu.keyTimer n).symm.trans hstore
  obtain ⟨pid,htuned⟩ := hs.tuned t (by rw [hstore]; rfl)
  obtain ⟨sec,⟨hsource,haudio,hvideo⟩,hpid,hid⟩ := htuned.selected (by rw [hstore]; rfl)
  have hsec : sec.pid = (m.pat.entries[i.val]).info.pid := by
    rw [hpid]
    exact Option.some.inj (htuned.pmtPid.symm.trans (hpat.pmtPid hi hlisted))
  have hholds := (hair.source t sec hsource).2 hid
  rw [hsec] at hholds
  rw [haudio,hvideo,(m.pmt _).entriesAt_of_holds hholds]
  exact ⟨rfl,rfl⟩

theorem stored_plays (ha : api.Lawful) (hc₀ : c₀.Fresh api) (hzeroed : c₀.tables = .zeroed)
    (h : Reach (step api) (OnAirApart api m) (initial api c₀) s) (hstore : s.label t = .storeChannel)
    {channel : ChannelInfo}
    (hnumber : Int16.ofInt ((s.caller t).frame.channelNumber.toInt+1) = channel.programNumber)
    (haudio : (s.caller t).frame.audioPid = channel.audioPid)
    (hvideo : (s.caller t).frame.videoPid = channel.videoPid) :
    let s' := s.statement api t
    s'.controller.currentChannel = channel ∧
      LiveIs api s'.controller videoTypeMpeg2 (pidOption channel.videoPid) ∧
      (channel.audioPid ≠ -1 → LiveIs api s'.controller audioTypeMpegAudio (some channel.audioPid)) := by
  intro s'
  obtain ⟨hs,-⟩ := reach_fromAir ha hc₀ hzeroed h
  have hl' : (s.config t).frame.label = .storeChannel := hstore
  have hstep : s.step api (.advance t) = some s' := by
    simp [Tuning.step,Tuning.advance,hstore,Label.waits,Label.idle,s']
  have hchannel : s'.controller.currentChannel = channel := by
    change (TvApp.step api (s.config t) s.controller.tables.arrival).controller.currentChannel = _
    simp only [TvApp.step,hl']
    change ChannelInfo.mk _ (s.caller t).frame.audioPid (s.caller t).frame.videoPid = channel
    rw [haudio,hvideo]
    change ChannelInfo.mk (Int16.ofInt ((s.caller t).frame.channelNumber.toInt+1)) _ _ = channel
    rw [hnumber]
  -- the same run, one call at a time, with the stores on record
  obtain ⟨log,hlogged⟩ := Reach.logged (stores api) (h.mono fun s e h =>
    (⟨h.1.1,oneAtATime_of_apart h.1.2⟩ : s.Delivers api e ∧ s.OneAtATime e))
  have hserial := (reach_serial ha hc₀ hlogged).step ha hc₀ (e := .advance t) trivial
    (fun hset => absurd (hset.symm.trans hstore) (by decide)) hstep
  have hselected (t' : Caller) : (s'.label t').selected = false := by
    by_cases ht : t' = t
    · rw [ht,statement_label]
      simp only [TvApp.step,hl']
      rfl
    · rw [label,statement_caller_of_ne api s ht]
      have hinactive : (s.label t').active = false := by
        by_contra hactive
        exact ht (hs.single t' t (eq_true_of_ne_false hactive) (by rw [hstore]; rfl))
      change (s.label t').selected = false
      revert hinactive
      cases s.label t' <;> decide
  have hplays := hserial.plays ha hc₀ hselected
  rw [stores,if_pos hstore,hchannel,List.foldl_append] at hplays
  refine ⟨hchannel,hplays videoTypeMpeg2,fun hne => ?_⟩
  have hsound := hplays audioTypeMpegAudio
  simp only [List.foldl_cons,List.foldl_nil,Watched.tune,Watched.pid,pidOption_of_ne hne,
    Option.some_or] at hsound
  exact hsound

/-- The same interleavings with racing reads, but none of a table that is being written. -/
abbrev OnAirRaceFree (api : TdpApi D) (m : Multiplex) (s : Tuning D) (e : RacingEvent) : Prop :=
  OnAirApart api m s e.event ∧ s.RaceFree e.event

theorem reach_of_raceFree {s₀ : Tuning D} (h : Reach (racingStep api) (OnAirRaceFree api m) s₀ s) :
    Reach (step api) (OnAirApart api m) s₀ s :=
  h.translate RacingEvent.event fun hallowed hstep =>
    ⟨hallowed.1,(racingStep_of_raceFree hallowed.2).symm.trans hstep⟩

/-- In every interleaving whose calls are kept apart, in which no thread reads a table that is
being written, on a demultiplexer that delivers the sections of a multiplex, a call that stores
a channel at a position listed in the PAT stores the first audio and video pid of the PMT on
the pid listed there; and right after the store the one video stream in the player is on that
pid (none without one), and so is the one audio stream if there is an audio pid. -/
theorem started_channel_is_that_on_air (ha : api.Lawful) (hc₀ : c₀.Fresh api)
    (hzeroed : c₀.tables = .zeroed)
    (h : Reach (racingStep api) (OnAirRaceFree api m) (initial api c₀) s)
    (hstore : s.label t = .storeChannel) {e : RacingEvent} (he : e.event = .advance t)
    (hstep : s.racingStep api e = some s') {i : Fin 20}
    (hi : tunedSlot (s.caller t).frame.channelNumber = (i.val : ℤ))
    (hlisted : i.val < m.pat.entries.length) :
    let channel := m.channel (Int16.ofInt ((s.caller t).frame.channelNumber.toInt+1))
      m.pat.entries[i.val]
    s'.controller.currentChannel = channel ∧
      LiveIs api s'.controller videoTypeMpeg2 (pidOption channel.videoPid) ∧
      (channel.audioPid ≠ -1 → LiveIs api s'.controller audioTypeMpegAudio (some channel.audioPid)) := by
  intro channel
  have hplain := reach_of_raceFree h
  obtain ⟨hs,hair⟩ := reach_fromAir ha hc₀ hzeroed hplain
  obtain ⟨haudio,hvideo⟩ := stored_of_fromAir hs hair hstore hi hlisted
  rw [racingStep_store api hstore he,Option.some.injEq] at hstep
  exact hstep ▸ stored_plays ha hc₀ hzeroed hplain hstore rfl haudio hvideo

def sampleMultiplex : Multiplex := ⟨PatSection.twoProgrammes,fun _ => PmtSection.sample⟩

theorem sampleMultiplex_carries_pat : sampleMultiplex.Carries patArrives := by
  refine ⟨fun _ => holds_getD _,fun hid => ?_⟩
  have hne : patArrives.bytes 0 ≠ 0x02 := by decide
  exact absurd hid hne

theorem sampleMultiplex_carries_pmt (pid : UInt16) : sampleMultiplex.Carries (pmtArrives pid) := by
  refine ⟨fun hid => ?_,fun _ => holds_getD _⟩
  have hid' : (pmtArrives 0).bytes 0 = 0x00 := hid
  exact absurd hid' (by decide)

theorem first_programme_is_that_on_air :
    ∃ s s' : Tuning ReferenceDevice, s.label .worker = .storeChannel ∧
      s.racingStep referenceApi (TuningEvent.advance .worker).plain = some s' ∧
      s'.controller.currentChannel = ⟨1,0x101,0x100⟩ ∧
      LiveIs referenceApi s'.controller videoTypeMpeg2 (some 0x100) ∧
      LiveIs referenceApi s'.controller audioTypeMpegAudio (some 0x101) := by
  let es := plainRun (List.flatten [firstCall,received (pmtArrives 0x100),statements .worker 8])
  have hend : (follow (racingStep referenceApi) start es).map (fun s => (s.label .worker,
      tunedSlot (s.caller .worker).frame.channelNumber,
      (s.caller .worker).frame.channelNumber.toInt)) = some (.storeChannel,1,0) := by decide +kernel
  have heach : Each (fun s e => (Delivers referenceApi s e.event ∧ s.Apart e.event) ∧
      s.RaceFree e.event) (racingStep referenceApi) start es := by
    decide +kernel
  have hair : ∀ e ∈ es, Broadcasts sampleMultiplex e.event := by
    simp [es,plainRun,TuningEvent.plain,firstCall,received,statements,Broadcasts,
      sampleMultiplex_carries_pat,sampleMultiplex_carries_pmt]
  obtain ⟨s,hs,hthree⟩ := Option.map_eq_some_iff.1 hend
  obtain ⟨hlabel,htwo⟩ := Prod.mk.inj hthree
  obtain ⟨hslot,hnumber⟩ := Prod.mk.inj htwo
  have hreach : Reach (racingStep referenceApi) (OnAirRaceFree referenceApi sampleMultiplex) start s :=
    (Reach.start.of_each es (heach.and (each_of_forall start es fun e he _ => hair e he)) hs).mono
      fun _ _ h => ⟨⟨h.1.1,h.2⟩,h.1.2⟩
  have hs' := racingStep_store referenceApi hlabel (e := (TuningEvent.advance .worker).plain) rfl
  have h := started_channel_is_that_on_air (i := ⟨1,by decide⟩) referenceApi_lawful
    (Controller.initial_fresh [] 0) rfl hreach hlabel rfl hs' hslot (by decide)
  rw [hnumber] at h
  obtain ⟨hchannel,hvideo,haudio⟩ := h
  exact ⟨s,_,hlabel,hs',hchannel,hvideo,haudio (by decide +kernel)⟩

end Tuning
end TvApp

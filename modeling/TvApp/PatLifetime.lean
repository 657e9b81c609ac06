import TvApp.Serialisation

/-! The life of the PAT.
Its filter is set once, before anything else, and freed by the first statement of the
first call of `startChannel`, on whichever thread that is.  Nothing sets it again: from
then on the list of programmes is what it is, apart from a section whose callback was
under way.  None of this needs the calls to be kept apart. -/
namespace TvApp

open Routine

variable {D : Type}

/-- Labels of a thread that has not come past its first `Demux_Free_Filter`. -/
def Label.early : Label → Bool
  | .waitPat | .ready | .freeFilter | .returned => true
  | _ => false

namespace Tuning

variable {api : TdpApi D} {c₀ : Controller D} {s s' s₁ : Tuning D} {t : Caller}

/-- As long as a filter for the PAT is alive no call has freed a filter, and what is alive
is what the variable names. -/
structure PatFilter (api : TdpApi D) (s : Tuning D) : Prop where
  booted : ∀ t, s.label t ≠ .setPatFilter
  alone : ∀ fl ∈ api.filters s.controller.device, fl.tableId = 0x00 →
    (∀ t, (s.label t).early) ∧
      ∀ fl' ∈ api.filters s.controller.device, fl'.handle = s.controller.filterHandle

theorem calls_frame (s : Tuning D) (t t' : Caller) (channelNumber : Int32) :
    ((s.calls t channelNumber).caller t').frame = (s.caller t').frame ∨
      (s.calls t channelNumber).label t' = .freeFilter := by
  by_cases ht : t' = t
  · right
    rw [label,Tuning.calls,ht,withCaller_caller_self]
    rfl
  · left
    rw [Tuning.calls,withCaller_caller_of_ne s _ ht]

/-- The effect of a step that is not a statement of a thread: no filter is touched, threads
are moved to the beginning of a call at most, and only the parse of a PAT section writes
the PAT. -/
structure Aside (s s' : Tuning D) (e : TuningEvent) : Prop where
  device : s'.controller.device = s.controller.device
  filterHandle : s'.controller.filterHandle = s.controller.filterHandle
  frame : ∀ t, (s'.caller t).frame = (s.caller t).frame ∨ s'.label t = .freeFilter
  patTable : s'.controller.tables.patTable = s.controller.tables.patTable ∨
    (∀ sec, s'.callback ≠ .arrived sec) ∧ ∃ sec, s.callback = .arrived sec ∧ sec.bytes 0 = 0x00 ∧
      s'.controller.tables.patTable = (patResult sec.bytes s.controller.tables.patTable).2
  arrived : ∀ sec, s'.callback = .arrived sec → e = .begins sec ∨ s.callback = .arrived sec

theorem Aside.label {e : TuningEvent} (h : Aside s s' e) (t : Caller) :
    s'.label t = s.label t ∨ s'.label t = .freeFilter :=
  (h.frame t).imp_left (congrArg Frame.label)

theorem step_aside {e : TuningEvent} (h : s.step api e = some s')
    (he : ∀ t, e = .advance t → (s.label t).waits ∧ (s.caller t).demuxCond = .outside) :
    Aside s s' e := by
  cases e with
  | advance t =>
    obtain ⟨hwaits,houtside⟩ := he t rfl
    simp only [step,advance,hwaits,houtside,if_true] at h
    cases h
    refine ⟨rfl,rfl,fun t' => Or.inl ?_,Or.inl rfl,fun _ => Or.inr⟩
    by_cases ht : t' = t
    · rw [ht,withCaller_caller_self]
    · rw [withCaller_caller_of_ne s _ ht]
  | workerCalls =>
    simp only [step,workerCalls] at h
    split at h
    case h_1 =>
      cases h
      exact ⟨rfl,rfl,fun t => calls_frame s .worker t _,Or.inl rfl,fun _ => Or.inr⟩
    case h_4 => cases h
    all_goals
      split at h
      · cases h
        exact ⟨rfl,rfl,fun t => calls_frame { s with controller := { s.controller with
          changeChannel := false } } .worker t _,Or.inl rfl,fun _ => Or.inr⟩
      · cases h
  | press key =>
    cases h
    exact ⟨rfl,rfl,fun _ => Or.inl rfl,Or.inl rfl,fun _ => Or.inr⟩
  | dial channelNumber =>
    cases h
    rw [dial]
    split
    · exact ⟨rfl,rfl,fun t => calls_frame { s with expiries := s.expiries+1 } _ t _,Or.inl rfl,
        fun _ => Or.inr⟩
    · exact ⟨rfl,rfl,fun _ => Or.inl rfl,Or.inl rfl,fun _ => Or.inr⟩
  | begins sec =>
    simp only [step] at h
    split at h <;> cases h
    refine ⟨rfl,rfl,fun _ => Or.inl rfl,Or.inl rfl,?_⟩
    rintro sec' ⟨⟩
    exact Or.inl rfl
  | parses =>
    simp only [step] at h
    split at h
    case h_1 sec harrived =>
      rw [Tuning.parses] at h
      split at h
      case h_1 => cases h
      case h_2 r hrun =>
        cases h
        obtain ⟨hpat,-⟩ := sectionReceivedCallback_tables hrun
        have hdone (sec' : CarriedSection) :
            (if r.1 then Callback.signalling else .idle) ≠ .arrived sec' := by
          split
          · exact Callback.noConfusion
          · exact Callback.noConfusion
        refine ⟨rfl,rfl,fun t => Or.inl ?_,?_,fun sec' hsec' => absurd hsec' (hdone sec')⟩
        · change (record s.caller sec t).frame = _
          rw [record]
          split <;> rfl
        · by_cases hid : sec.bytes 0 = 0x00
          · rw [if_pos hid] at hpat
            exact Or.inr ⟨hdone,sec,harrived,hid,hpat⟩
          · rw [if_neg hid] at hpat
            exact Or.inl hpat
    case h_2 => cases h
  | signals =>
    simp only [step] at h
    split at h <;> cases h
    refine ⟨rfl,rfl,fun _ => Or.inl rfl,Or.inl rfl,?_⟩
    rintro sec ⟨⟩

theorem step_statement {e : TuningEvent} (h : s.step api e = some s') :
    (∀ t, e = .advance t → (s.label t).waits ∧ (s.caller t).demuxCond = .outside) ∨
      ∃ t, e = .advance t ∧ s' = s.statement api t := by
  cases e
  case advance t =>
    simp only [step,advance] at h
    split at h
    case isTrue hwaits =>
      split at h
      case h_1 houtside =>
        left
        rintro t' ⟨⟩
        exact ⟨hwaits,houtside⟩
      case h_2 => cases h
      case h_3 =>
        cases h
        exact Or.inr ⟨t,rfl,rfl⟩
    case isFalse =>
      split at h
      · cases h
      · cases h
        exact Or.inr ⟨t,rfl,rfl⟩
  all_goals
    left
    rintro t ⟨⟩

theorem statement_booted (hbooted : ∀ t, s.label t ≠ .setPatFilter) (t t' : Caller) :
    (s.statement api t).label t' ≠ .setPatFilter := by
  by_cases ht : t' = t
  · rw [ht,statement_label]
    intro hset
    have hmem := step_successors api (s.config t) s.controller.tables.arrival
    have hl : (s.config t).frame.label ≠ .setPatFilter := hbooted t
    rw [hset] at hmem
    revert hmem hl
    cases (s.config t).frame.label <;> decide
  · rw [label,statement_caller_of_ne api s ht]
    exact hbooted t'

theorem PatFilter.statement (ha : api.Lawful) (h : s.PatFilter api) (t : Caller) :
    (s.statement api t).PatFilter api := by
  refine ⟨statement_booted h.booted t,fun fl hfl hid => ?_⟩
  have hold : fl ∈ api.filters s.controller.device :=
    (step_filters_tableId ha s.controller.tables.arrival (c := s.config t) (h.booted t) hfl).resolve_right
      (not_not.2 hid)
  obtain ⟨hearly,hhandle⟩ := h.alone fl hold hid
  have hl := hearly t
  have hl' : (s.config t).frame.label = s.label t := rfl
  have hstatement : (s.statement api t).controller =
      (TvApp.step api (s.config t) s.controller.tables.arrival).controller := rfl
  have hkept (l : Label) (hlabel : (s.statement api t).label t = l) (hl : l.early)
      (hdevice : (s.statement api t).controller.device = s.controller.device)
      (hfilterHandle : (s.statement api t).controller.filterHandle = s.controller.filterHandle) :
      (∀ t', ((s.statement api t).label t').early) ∧
        ∀ fl' ∈ api.filters (s.statement api t).controller.device,
          fl'.handle = (s.statement api t).controller.filterHandle := by
    refine ⟨fun t' => ?_,?_⟩
    · by_cases ht : t' = t
      · rw [ht,hlabel]
        exact hl
      · rw [label,statement_caller_of_ne api s ht]
        exact hearly t'
    · rw [hdevice,hfilterHandle]
      exact hhandle
  cases hc : s.label t <;> rw [hc] at hl <;> try cases hl
  case waitPat =>
    rw [hc] at hl'
    refine hkept .ready ?_ rfl ?_ ?_
    · rw [statement_label]
      simp only [TvApp.step,hl']
      rfl
    all_goals
      rw [hstatement]
      simp only [TvApp.step,hl']
      rfl
  case ready | returned =>
    rw [hc] at hl'
    refine hkept (s.label t) ?_ (hearly t) ?_ ?_
    · rw [statement_label]
      simp only [TvApp.step,hl']
      exact hc.symm
    all_goals
      rw [hstatement]
      simp only [TvApp.step,hl']
      rfl
  case freeFilter =>
    -- the first statement of a call frees it
    rw [hc] at hl'
    rw [hstatement] at hfl
    simp only [TvApp.step,hl'] at hfl
    change fl ∈ api.filters (api.demuxFreeFilter _ _) at hfl
    rw [ha.free] at hfl
    exact absurd (hhandle fl hold) hfl.2

theorem PatFilter.step (ha : api.Lawful) (h : s.PatFilter api) {e : TuningEvent}
    (hstep : s.step api e = some s') : s'.PatFilter api := by
  rcases step_statement hstep with he | ⟨t,-,rfl⟩
  · have haside := step_aside hstep he
    refine ⟨fun t => ?_,?_⟩
    · rcases haside.label t with hl | hl <;> rw [hl]
      · exact h.booted t
      · decide
    · rw [haside.device,haside.filterHandle]
      intro fl hfl hid
      obtain ⟨hearly,hhandle⟩ := h.alone fl hfl hid
      refine ⟨fun t => ?_,hhandle⟩
      rcases haside.label t with hl | hl <;> rw [hl]
      · exact hearly t
      · rfl
  · exact h.statement ha t

theorem PatFilter.initial (ha : api.Lawful) (hc₀ : c₀.Fresh api) : (initial api c₀).PatFilter api := by
  have hworker : (Tuning.initial api c₀).label .worker = .waitPat := by
    change (Config.setFilter api (boot c₀) 0x00 0x00 .waitPat .waitPat).frame.label = .waitPat
    rw [Config.setFilter]
    split <;> rfl
  have howns := step_owns ha (boot_owns hc₀) c₀.tables.arrival
  refine ⟨fun t => ?_,fun _ _ _ => ⟨fun t => ?_,howns.filter.handle_eq⟩⟩
  · cases t with
    | worker =>
      rw [hworker]
      decide
    | keyTimer n => exact Label.noConfusion
  · cases t with
    | worker =>
      rw [hworker]
      rfl
    | keyTimer n => rfl

/-- After a `Demux_Free_Filter` of a call, seen from the state `s₁` right after it: the
programmes are still those, or those of the section whose callback was under way. -/
structure PatSpent (api : TdpApi D) (s s₁ : Tuning D) : Prop where
  booted : ∀ t, s.label t ≠ .setPatFilter
  filters : ∀ fl ∈ api.filters s.controller.device, fl.tableId ≠ 0x00
  under_way : ∀ sec, s.callback = .arrived sec → sec.bytes 0 = 0x00 →
    s₁.callback = .arrived sec ∧ s.controller.tables.patTable = s₁.controller.tables.patTable
  patTable : s.controller.tables.patTable = s₁.controller.tables.patTable ∨
    ∃ sec, s₁.callback = .arrived sec ∧ sec.bytes 0 = 0x00 ∧
      s.controller.tables.patTable = (patResult sec.bytes s₁.controller.tables.patTable).2

theorem statement_pat (hbooted : ∀ t, s.label t ≠ .setPatFilter) (t : Caller) :
    (s.statement api t).controller.tables.patTable = s.controller.tables.patTable := by
  cases hin : (s.label t).inCall with
  | true => exact Serial.statement_patTable api s t hin
  | false =>
    have hl' : (s.config t).frame.label = s.label t := rfl
    have hbooted := hbooted t
    change (TvApp.step api (s.config t) s.controller.tables.arrival).controller.tables.patTable = _
    cases hc : s.label t <;> rw [hc] at hin hbooted hl'
    case setPatFilter => exact absurd rfl hbooted
    case waitPat | ready =>
      simp only [TvApp.step,hl']
      rfl
    all_goals cases hin

theorem PatSpent.step (ha : api.Lawful) (h : s.PatSpent api s₁) {e : TuningEvent}
    (hdelivers : s.Delivers api e) (hstep : s.step api e = some s') : s'.PatSpent api s₁ := by
  rcases step_statement hstep with he | ⟨t,-,rfl⟩
  · have haside := step_aside hstep he
    have hbooted (t : Caller) : s'.label t ≠ .setPatFilter := by
      rcases haside.label t with hl | hl <;> rw [hl]
      · exact h.booted t
      · decide
    have hfilters : ∀ fl ∈ api.filters s'.controller.device, fl.tableId ≠ 0x00 := by
      rw [haside.device]
      exact h.filters
    have hfresh {sec : CarriedSection} (he : e = .begins sec) : sec.bytes 0 ≠ 0x00 := by
      subst he
      obtain ⟨fl,hfl,-,hid⟩ := hdelivers
      rw [hid]
      exact h.filters fl hfl
    rcases haside.patTable with hsame | ⟨hdone,sec,harrived,hid,hpat⟩
    · refine ⟨hbooted,hfilters,fun sec hsec hid => ?_,?_⟩
      · rw [hsame]
        rcases haside.arrived sec hsec with hbegins | hold
        · exact absurd hid (hfresh hbegins)
        · exact h.under_way sec hold hid
      · rw [hsame]
        exact h.patTable
    · -- the section that was under way
      obtain ⟨hcallback,hsame⟩ := h.under_way sec harrived hid
      rw [hsame] at hpat
      exact ⟨hbooted,hfilters,fun sec' hsec' => absurd hsec' (hdone sec'),
        Or.inr ⟨sec,hcallback,hid,hpat⟩⟩
  · have hpat : (s.statement api t).controller.tables.patTable = s.controller.tables.patTable :=
      statement_pat h.booted t
    refine ⟨statement_booted h.booted t,fun fl hfl => ?_,fun sec hsec hid => ?_,?_⟩
    · rcases step_filters_tableId ha s.controller.tables.arrival (c := s.config t) (h.booted t) hfl with
        hold | hid
      · exact h.filters fl hold
      · exact hid
    · rw [hpat]
      exact h.under_way sec hsec hid
    · rw [hpat]
      exact h.patTable

/-- In every interleaving, calls overlapping or not, the PAT is what it was when a call freed
its first filter, or what the section made of it that was in its callback at that moment.
No later section is parsed into it. -/
theorem patTable_final_after_first_free (ha : api.Lawful) (hc₀ : c₀.Fresh api) {s₂ : Tuning D}
    (h : Reach (step api) (Delivers api) (initial api c₀) s) (hl : s.label t = .freeFilter)
    (hstep : s.step api (.advance t) = some s₁) (h₂ : Reach (step api) (Delivers api) s₁ s₂) :
    s₂.controller.tables.patTable = s₁.controller.tables.patTable ∨
      ∃ sec, s₁.callback = .arrived sec ∧ sec.bytes 0 = 0x00 ∧
        s₂.controller.tables.patTable = (patResult sec.bytes s₁.controller.tables.patTable).2 := by
  have hbefore : s.PatFilter api :=
    h.invariant (PatFilter.initial ha hc₀) fun _ hs _ hstep => hs.step ha hstep
  have hafter := hbefore.step ha hstep
  -- right after the call of `Demux_Free_Filter` the thread is past the early labels
  have hs₁ : s₁ = s.statement api t := by
    simpa [Tuning.step,Tuning.advance,hl,Label.waits,Label.idle] using hstep.symm
  have hpast : (s₁.label t).early = false := by
    have hl' : (s.config t).frame.label = .freeFilter := hl
    rw [hs₁,statement_label]
    simp only [TvApp.step,hl']
    rfl
  have hfilters : ∀ fl ∈ api.filters s₁.controller.device, fl.tableId ≠ 0x00 := by
    intro fl hfl hid
    have hearly := (hafter.alone fl hfl hid).1 t
    rw [hpast] at hearly
    cases hearly
  have hspent : s₁.PatSpent api s₁ :=
    ⟨hafter.booted,hfilters,fun sec hsec _ => ⟨hsec,rfl⟩,Or.inl rfl⟩
  have hend : s₂.PatSpent api s₁ :=
    h₂.invariant (I := fun s => s.PatSpent api s₁) hspent fun _ hs hallowed hstep =>
      hs.step ha hallowed hstep
  exact hend.patTable

/-- The PAT is received, the worker's first call frees its filter while a second PAT section
is in its callback, and this is parsed afterwards. -/
theorem second_pat_is_last :
    ∃ s s₁ s₂ : Tuning ReferenceDevice, s.label .worker = .freeFilter ∧
      s.step referenceApi (.advance .worker) = some s₁ ∧
      s₂.controller.tables.patTable.serviceInfoCount = 3 ∧
      (s₂.controller.tables.patTable = s₁.controller.tables.patTable ∨
        ∃ sec, s₁.callback = .arrived sec ∧ sec.bytes 0 = 0x00 ∧
          s₂.controller.tables.patTable = (patResult sec.bytes s₁.controller.tables.patTable).2) := by
  let before := List.flatten [statements .worker 1,received patArrives,[.begins patArrives],
    statements .worker 1,[.workerCalls]]
  let after := List.flatten [[.parses,.signals],statements .worker 2]
  have hends : (follow (step referenceApi) start before).map (fun s => (s.label .worker,
      (s.step referenceApi (.advance .worker)).map fun s₁ =>
        (decide (Each (Delivers referenceApi) (step referenceApi) s₁ after),
          (follow (step referenceApi) s₁ after).map fun s₂ =>
            s₂.controller.tables.patTable.serviceInfoCount))) =
        some (.freeFilter,some (true,some 3)) := by decide +kernel
  have hbefore : Each (Delivers referenceApi) (step referenceApi) start before := by decide +kernel
  obtain ⟨s,hs,hboth⟩ := Option.map_eq_some_iff.1 hends
  obtain ⟨hlabel,hnext⟩ := Prod.mk.inj hboth
  obtain ⟨s₁,hs₁,hlast⟩ := Option.map_eq_some_iff.1 hnext
  obtain ⟨hafter,hmap⟩ := Prod.mk.inj hlast
  obtain ⟨s₂,hs₂,hcount⟩ := Option.map_eq_some_iff.1 hmap
  exact ⟨s,s₁,s₂,hlabel,hs₁,hcount,patTable_final_after_first_free referenceApi_lawful
    (Controller.initial_fresh [] 0) (Reach.start.of_each before hbefore hs) hlabel hs₁
    (Reach.start.of_each after (of_decide_eq_true hafter) hs₂)⟩

end Tuning
end TvApp

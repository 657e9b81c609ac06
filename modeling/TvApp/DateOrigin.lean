import TvApp.PatLifetime
import TvApp.TdtDate

/-! The date that is shown, from the bytes on air.
`parseTimeTables` waits for a TDT and then for a TOT, with the same condition variable as
everything else, and stores the date of `tdtTable`.  If no callback is in progress when the
call sets its TDT filter, what ends the wait is a TDT, and once `tdtTable` shows a section it
always shows the last one. -/
namespace TvApp

open Routine ParseErrorCode

variable {D : Type}

theorem sectionReceivedCallback_tdtTable {buf : Buffer} {tables : SectionTables}
    {r : Bool × SectionTables} (h : run buf (sectionReceivedCallback tables) = .ok r) :
    (buf 0 = 0x70 → run buf (parseTdtTable tables.tdtTable) = .ok (tablesParseOk,r.2.tdtTable)) ∧
      (buf 0 ≠ 0x70 → r.2.tdtTable = tables.tdtTable) := by
  rw [sectionReceivedCallback,run_bind,run_byte] at h
  change run buf (if buf 0 = 0x00 then _ else _) = _ at h
  by_cases hpat : buf 0 = 0x00
  · rw [if_pos hpat,run_bind,run_parsePatTable_eq] at h
    cases h
    exact ⟨fun htdt => absurd (hpat.symm.trans htdt) (by decide),fun _ => rfl⟩
  · rw [if_neg hpat] at h
    by_cases hpmt : buf 0 = 0x02
    · rw [if_pos hpmt,run_bind,run_parsePmtTable_eq] at h
      cases h
      exact ⟨fun htdt => absurd (hpmt.symm.trans htdt) (by decide),fun _ => rfl⟩
    · rw [if_neg hpmt] at h
      by_cases htdt : buf 0 = 0x70
      · rw [if_pos htdt] at h
        cases h
        exact ⟨fun _ => rfl,fun hne => absurd htdt hne⟩
      · rw [if_neg htdt] at h
        refine ⟨fun htdt' => absurd htdt' htdt,fun _ => ?_⟩
        by_cases htot : buf 0 = 0x73
        · rw [if_pos htot,run_bind] at h
          cases hparse : run buf (parseTotTable tables.totTable) with
          | error e =>
            rw [hparse] at h
            cases h
          | ok q =>
            rw [hparse] at h
            change run buf (printTotTable q.2 q.2.descriptorsCount.toNat 0 >>= _) = _ at h
            rw [run_bind] at h
            cases hprint : run buf (printTotTable q.2 q.2.descriptorsCount.toNat 0) with
            | error e =>
              rw [hprint] at h
              cases h
            | ok u =>
              rw [hprint] at h
              cases h
              rfl
        · rw [if_neg htot] at h
          cases h
          rfl

/-- The statements between the wait for the TDT and the end of the store. -/
def Label.dates : Label → Bool
  | .freeForTot | .setTotFilter | .waitTot | .storeDate => true
  | _ => false

theorem Label.dates_of_successor (l : Label) :
    ∀ l' ∈ l.successors, l'.dates = true → l = .waitTdt ∨ l.dates = true := by
  cases l <;> decide

theorem step_arrival_tables (api : TdpApi D) (c : Config D) :
    (step api c c.controller.tables.arrival).controller.tables = c.controller.tables := by
  cases hl : c.frame.label with
  | setPatFilter | setTdtFilter | setTotFilter =>
    simp only [step,hl,Config.setFilter]
    split
    · rfl
    · rfl
  | setPmtFilter =>
    simp only [step,hl]
    split
    · simp only [Config.setFilter]
      split
      · rfl
      · rfl
    · rfl
  | scan | createVideo | createAudio =>
    simp only [step,hl]
    split
    · rfl
    · rfl
  | storeChannel | storeDate | setTimeTablesRecieved | ready | returned | filterFailed | fault
  | deinit => simp only [step,hl]
  | _ =>
    simp only [step,hl]
    rfl

theorem step_currentDate (api : TdpApi D) {c : Config D} (a : Arrival) (h : c.frame.label ≠ .storeDate) :
    (step api c a).controller.currentDate = c.controller.currentDate := by
  cases hl : c.frame.label with
  | storeDate => exact absurd hl h
  | setPatFilter | setTdtFilter | setTotFilter =>
    simp only [step,hl,Config.setFilter]
    split
    · rfl
    · rfl
  | setPmtFilter =>
    simp only [step,hl]
    split
    · simp only [Config.setFilter]
      split
      · rfl
      · rfl
    · rfl
  | scan | createVideo | createAudio =>
    simp only [step,hl]
    split
    · rfl
    · rfl
  | storeChannel | setTimeTablesRecieved | ready | returned | filterFailed | fault | deinit =>
    simp only [step,hl]
  | _ =>
    simp only [step,hl]
    rfl

theorem MarchDate.day_lt {d : CalendarDate} {y : ℕ} {mjd16 : UInt16} (h : MarchDate d y)
    (hd : d.mjd = mjd16.toNat) : (tdtDay mjd16).toNat < 256 := by
  obtain ⟨extra,hextra,hstored⟩ := h.day_eq hd
  have hpos := d.day_mem.1
  have hday := d.day_mem.2.trans (monthLength_le d.year d.month)
  obtain ⟨hm,hm'⟩ := d.month_mem
  rw [hstored]
  clear hstored
  generalize d.day = day at *
  generalize d.month = month at *
  interval_cases month
  all_goals simp only [marchOffset,List.getD_cons_succ,List.getD_cons_zero,Nat.reduceLeDiff,if_true,
    if_false] at hextra ⊢
  all_goals omega

/-- The stored date is this calendar date, but for the day in half of the months. -/
structure CurrentDate.Tells (currentDate : CurrentDate) (d : CalendarDate) : Prop where
  year : currentDate.Year.toNat = d.year
  month : currentDate.tmpMonth.toNat = d.month
  day : currentDate.day.toNat = d.day ↔ d.month ∈ [3,4,6,8,9,11]

theorem tells_of_mjd {d : CalendarDate} {mjd16 : UInt16} (hlow : 15079 ≤ d.mjd)
    (hd : d.mjd = mjd16.toNat) :
    CurrentDate.Tells ⟨tdtYear mjd16+1900,(tdtMonth mjd16).toUInt8,(tdtDay mjd16).toUInt8⟩ d := by
  have hlt := mjd16.toNat_lt
  obtain ⟨y,hmarch⟩ := d.marchDate hlow (by omega)
  have hmonth := hmarch.month hd
  have hle := d.month_mem.2
  refine ⟨hmarch.calendarYear hd,?_,?_⟩
  · change (tdtMonth mjd16).toUInt8.toNat = d.month
    rw [UInt16.toNat_toUInt8,hmonth]
    exact Nat.mod_eq_of_lt (by omega)
  · change (tdtDay mjd16).toUInt8.toNat = d.day ↔ _
    rw [UInt16.toNat_toUInt8,Nat.mod_eq_of_lt (hmarch.day_lt hd)]
    exact hmarch.day_iff hd

namespace Tuning

variable {api : TdpApi D} {c₀ : Controller D} {s s' : Tuning D} {t : Caller}
  {aired : CarriedSection → Prop}

/-- No callback is in progress when a call sets its filter for the TDT. -/
def TdtApart (s : Tuning D) : TuningEvent → Prop
  | .advance t => s.label t = .setTdtFilter → s.callback.inProgress = false
  | .workerCalls | .press _ | .dial _ | .begins _ | .parses | .signals => True

def Airs (aired : CarriedSection → Prop) : TuningEvent → Prop
  | .begins sec => aired sec
  | .advance _ | .workerCalls | .press _ | .dial _ | .parses | .signals => True

def Dated (aired : CarriedSection → Prop) (s : Tuning D) : Prop :=
  ∃ sec, aired sec ∧ sec.bytes 0 = 0x70 ∧
    s.controller.tables.tdtTable.Year = tdtYear (mjdAt sec.bytes)+1900 ∧
    s.controller.tables.tdtTable.tmpMonth = tdtMonth (mjdAt sec.bytes) ∧
    s.controller.tables.tdtTable.day = tdtDay (mjdAt sec.bytes)

theorem Dated.congr (h : s.Dated aired)
    (htable : s'.controller.tables.tdtTable = s.controller.tables.tdtTable) : s'.Dated aired := by
  obtain ⟨sec,hair,hid,hdate⟩ := h
  exact ⟨sec,hair,hid,by rwa [htable]⟩

/-- A call that waits for the TDT: only TDT sections get through, and a signal means that
one has been parsed. -/
structure AwaitsTdt (api : TdpApi D) (aired : CarriedSection → Prop) (s : Tuning D) (t : Caller) :
    Prop where
  filters : ∀ fl ∈ api.filters s.controller.device, fl.tableId = 0x70
  arrived : ∀ sec, s.callback = .arrived sec → sec.bytes 0 = 0x70
  signalling : s.callback = .signalling → s.Dated aired
  woken : (s.caller t).demuxCond = .woken → s.Dated aired

structure Dating (api : TdpApi D) (aired : CarriedSection → Prop) (s : Tuning D) : Prop where
  arrived : ∀ sec, s.callback = .arrived sec → aired sec
  waiting : ∀ t, s.label t = .waitTdt → s.AwaitsTdt api aired t
  dates : ∀ t, (s.label t).dates → s.Dated aired

namespace Dating

theorem frame (h : s.Dating api aired) (hdevice : s'.controller.device = s.controller.device)
    (htable : s'.controller.tables.tdtTable = s.controller.tables.tdtTable)
    (hcallback : s'.callback = s.callback)
    (hlabel : ∀ t, s'.label t = s.label t ∨ s'.label t = .freeFilter ∨ s'.label t = .ready)
    (hwoken : ∀ t, (s'.caller t).demuxCond = .woken → (s.caller t).demuxCond = .woken) :
    s'.Dating api aired where
  arrived := by
    rw [hcallback]
    exact h.arrived
  waiting t hwait := by
    obtain hsame | hcall | hready := hlabel t
    · obtain ⟨hfilters,harrived,hsignalling,hwoken'⟩ := h.waiting t (hsame ▸ hwait)
      refine ⟨?_,?_,?_,fun hw => (hwoken' (hwoken t hw)).congr htable⟩
      · rw [hdevice]
        exact hfilters
      · rw [hcallback]
        exact harrived
      · rw [hcallback]
        exact fun hs => (hsignalling hs).congr htable
    · cases hcall.symm.trans hwait
    · cases hready.symm.trans hwait
  dates t hdates := by
    obtain hsame | hcall | hready := hlabel t
    · exact (h.dates t (hsame ▸ hdates)).congr htable
    · rw [hcall] at hdates
      cases hdates
    · rw [hready] at hdates
      cases hdates

theorem calls (h : s.Dating api aired) (t : Caller) (channelNumber : Int32) :
    (s.calls t channelNumber).Dating api aired := by
  refine h.frame rfl rfl rfl (fun t' => (calls_frame s t t' channelNumber).imp (congrArg Frame.label) .inl)
    fun t' hwoken => ?_
  rw [Tuning.calls] at hwoken
  by_cases ht : t' = t
  · rw [ht,withCaller_caller_self] at hwoken
    rw [ht]
    exact hwoken
  · rwa [withCaller_caller_of_ne s _ ht] at hwoken

theorem blocks (h : s.Dating api aired) (t : Caller) :
    (s.withCaller t { s.caller t with demuxCond := .blocked }).Dating api aired := by
  refine h.frame rfl rfl rfl (fun t' => Or.inl ?_) fun t' hwoken => ?_
  · by_cases ht : t' = t
    · rw [ht,label,withCaller_caller_self,label]
    · rw [label,withCaller_caller_of_ne s _ ht,label]
  · by_cases ht : t' = t
    · rw [ht,withCaller_caller_self] at hwoken
      cases hwoken
    · rwa [withCaller_caller_of_ne s _ ht] at hwoken

theorem begins (h : s.Dating api aired) {sec : CarriedSection} (hair : aired sec)
    (hdelivers : s.Delivers api (.begins sec)) :
    { s with callback := .arrived sec }.Dating api aired where
  arrived := by
    rintro _ ⟨⟩
    exact hair
  waiting t hwait := by
    have hw := h.waiting t hwait
    refine ⟨hw.filters,?_,(by rintro ⟨⟩),hw.woken⟩
    rintro _ ⟨⟩
    obtain ⟨fl,hfl,-,hid⟩ := hdelivers
    exact hid.trans (hw.filters fl hfl)
  dates t := h.dates t

theorem parsed (hair : ∀ sec, s.callback = .arrived sec → aired sec) {sec : CarriedSection}
    (harrived : s.callback = .arrived sec) {r : Bool × SectionTables}
    (hrun : run sec.bytes (sectionReceivedCallback s.controller.tables) = .ok r)
    (htables : s'.controller.tables = r.2) : (sec.bytes 0 = 0x70 ∨ s.Dated aired) → s'.Dated aired := by
  obtain ⟨htdt,hother⟩ := sectionReceivedCallback_tdtTable hrun
  intro h
  by_cases hid : sec.bytes 0 = 0x70
  · have hresult := htdt hid
    rw [run_parseTdtTable] at hresult
    have htable := (Prod.mk.inj (Except.ok.inj hresult)).2
    refine ⟨sec,hair sec harrived,hid,?_⟩
    rw [htables]
    rw [← htable]
    exact ⟨rfl,rfl,rfl⟩
  · refine (h.resolve_left hid).congr ?_
    rw [htables]
    exact hother hid

theorem parses (h : s.Dating api aired) {sec : CarriedSection} (harrived : s.callback = .arrived sec)
    (hstep : s.parses sec = some s') : s'.Dating api aired := by
  rw [Tuning.parses] at hstep
  cases hrun : run sec.bytes (sectionReceivedCallback s.controller.tables) with
  | error e =>
    rw [hrun] at hstep
    cases hstep
  | ok r =>
    rw [hrun] at hstep
    have hdated : (sec.bytes 0 = 0x70 ∨ s.Dated aired) → s'.Dated aired :=
      parsed h.arrived harrived hrun (by rw [← Option.some.inj hstep])
    cases hstep
    have hrecord (t : Caller) : (record s.caller sec t).frame = (s.caller t).frame := by
      rw [record]
      split <;> rfl
    have hdone (sec' : CarriedSection) :
        (if r.1 then Callback.signalling else .idle) ≠ .arrived sec' := by
      split
      · exact Callback.noConfusion
      · exact Callback.noConfusion
    refine ⟨fun sec' hsec' => absurd hsec' (hdone sec'),fun t hwait => ?_,fun t hdates => ?_⟩
    · change (record s.caller sec t).frame.label = _ at hwait
      rw [hrecord] at hwait
      have hw := h.waiting t hwait
      have hshown := hdated (.inl (hw.arrived sec harrived))
      exact ⟨hw.filters,fun sec' hsec' => absurd hsec' (hdone sec'),fun _ => hshown,fun _ => hshown⟩
    · change (record s.caller sec t).frame.label.dates at hdates
      rw [hrecord] at hdates
      exact hdated (.inr (h.dates t hdates))

theorem signals (h : s.Dating api aired) (hsignalling : s.callback = .signalling) :
    { s with
      callback := .idle
      caller := fun t => { s.caller t with demuxCond := (s.caller t).demuxCond.signal } }.Dating
      api aired where
  arrived _ h := by cases h
  waiting t hwait := by
    have hw := h.waiting t hwait
    exact ⟨hw.filters,(fun _ h => by cases h),(by rintro ⟨⟩),fun _ => hw.signalling hsignalling⟩
  dates t := h.dates t

theorem boots (h : s.Dating api aired) (hl : s.label t = .waitPat) :
    (s.statement api t).Dating api aired := by
  have hl' : (s.config t).frame.label = .waitPat := hl
  have hc : TvApp.step api (s.config t) s.controller.tables.arrival = (s.config t).goto .ready := by
    simp only [TvApp.step,hl']
    rfl
  have hcontroller : (s.statement api t).controller = s.controller := by
    change (TvApp.step api (s.config t) s.controller.tables.arrival).controller = _
    rw [hc]
    rfl
  refine h.frame (by rw [hcontroller]) (by rw [hcontroller]) rfl (fun t' => ?_) fun t' hwoken => ?_
  · by_cases ht : t' = t
    · rw [ht,statement_label,hc]
      exact .inr (.inr rfl)
    · rw [label,statement_caller_of_ne api s ht]
      exact .inl rfl
  · by_cases ht : t' = t
    · rw [ht,statement_caller api s (by rw [hl]; decide)] at hwoken
      cases hwoken
    · rwa [statement_caller_of_ne api s ht] at hwoken

theorem opens (ha : api.Lawful) (hl : s.label t = .setTdtFilter)
    (hempty : api.filters s.controller.device = ∅) (hidle : s.callback.inProgress = false)
    (hwait : (s.statement api t).label t = .waitTdt) :
    (s.statement api t).AwaitsTdt api aired t := by
  have hl' : (s.config t).frame.label = .setTdtFilter := hl
  have hcallback : s.callback = .idle := by
    cases hcb : s.callback with
    | idle => rfl
    | arrived sec => rw [hcb] at hidle; cases hidle
    | signalling => rw [hcb] at hidle; cases hidle
  have hcaller := statement_caller api s (t := t) (by rw [hl]; decide)
  have hc : TvApp.step api (s.config t) s.controller.tables.arrival =
      (s.config t).setFilter api 0x0014 0x70 .waitTdt .returned := by
    simp only [TvApp.step,hl']
  cases hset : (api.demuxSetFilter s.controller.device 0x0014 0x70).1 with
  | none =>
    rw [statement_label,hc,Config.setFilter_none hset] at hwait
    cases hwait
  | some handle =>
    obtain ⟨-,-,hfilters⟩ := ha.set _ _ _ _ hset
    refine ⟨?_,?_,?_,?_⟩
    · change ∀ fl ∈ api.filters
        (TvApp.step api (s.config t) s.controller.tables.arrival).controller.device, _
      rw [hc,Config.setFilter_some hset]
      change ∀ fl ∈ api.filters (api.demuxSetFilter s.controller.device 0x0014 0x70).2, _
      rw [hfilters,hempty,insert_empty_eq]
      rintro fl rfl
      rfl
    · intro sec hsec
      cases hcallback.symm.trans hsec
    · intro hsignalling
      cases hcallback.symm.trans hsignalling
    · rw [hcaller]
      rintro ⟨⟩

theorem statement (ha : api.Lawful) (hs : s.Separate api) (h : s.Dating api aired)
    (hactive : (s.label t).active) (hwoken : (s.label t).waits → (s.caller t).demuxCond = .woken)
    (hapart : s.label t = .setTdtFilter → s.callback.inProgress = false) :
    (s.statement api t).Dating api aired := by
  have htables : (s.statement api t).controller.tables = s.controller.tables :=
    step_arrival_tables api (s.config t)
  have hsuccessor := step_successors api (s.config t) s.controller.tables.arrival
  rw [← statement_label] at hsuccessor
  change (s.statement api t).label t ∈ (s.label t).successors at hsuccessor
  -- the labels of the wait and after it belong to calls in progress, and there is one
  have hone {t' : Caller} (ht : t' ≠ t) : ((s.statement api t).label t').active = false := by
    rw [label,statement_caller_of_ne api s ht]
    by_contra hother
    exact ht (hs.single t' t (eq_true_of_ne_false hother) hactive)
  refine ⟨h.arrived,fun t' hwait => ?_,fun t' hdates => ?_⟩
  · have ht : t' = t := by
      by_contra ht
      have hinactive := hone ht
      rw [hwait] at hinactive
      cases hinactive
    subst ht
    have hl : s.label t' = .setTdtFilter := by
      rw [hwait] at hsuccessor
      revert hsuccessor
      cases s.label t' <;> decide
    have hgone : (s.config t').frame.label.filterGone := by
      change (s.label t').filterGone
      rw [hl]
      rfl
    exact opens ha hl ((hs.owns t' hactive).filters_empty hgone) (hapart hl) hwait
  · have ht : t' = t := by
      by_contra ht
      have hinactive := hone ht
      revert hdates hinactive
      cases (s.statement api t).label t' <;> decide
    subst ht
    have hl := Label.dates_of_successor (s.label t') _ hsuccessor hdates
    refine Dated.congr ?_ (congrArg SectionTables.tdtTable htables)
    obtain hwait | hdates := hl
    · exact (h.waiting t' hwait).woken (hwoken (by rw [hwait]; rfl))
    · exact h.dates t' hdates

theorem advance (ha : api.Lawful) (hs : s.Separate api) (h : s.Dating api aired)
    (hapart : s.label t = .setTdtFilter → s.callback.inProgress = false)
    (hstep : s.advance api t = some s') : s'.Dating api aired := by
  rw [Tuning.advance] at hstep
  have hgoes (hidle : (s.label t).idle = false)
      (hwait : (s.label t).waits → (s.caller t).demuxCond = .woken) :
      (s.statement api t).Dating api aired := by
    cases hactive : (s.label t).active with
    | true => exact h.statement ha hs hactive hwait hapart
    | false =>
      refine h.boots ?_
      have hboot := hs.booted t
      revert hidle hactive hboot
      cases s.label t <;> decide
  split at hstep
  case isTrue hwaits =>
    split at hstep
    case h_1 =>
      cases hstep
      exact h.blocks t
    case h_2 => cases hstep
    case h_3 hwoken =>
      cases hstep
      refine hgoes ?_ fun _ => hwoken
      revert hwaits
      cases s.label t <;> decide
  case isFalse hwaits =>
    split at hstep
    case isTrue => cases hstep
    case isFalse hidle =>
      cases hstep
      exact hgoes (eq_false_of_ne_true hidle) fun hw => absurd hw hwaits

theorem workerCalls (h : s.Dating api aired) (hstep : s.workerCalls = some s') :
    s'.Dating api aired := by
  rw [Tuning.workerCalls] at hstep
  split at hstep
  case h_1 =>
    cases hstep
    exact h.calls .worker _
  case h_4 => cases hstep
  all_goals
    split at hstep
    · cases hstep
      have hflag : { s with controller := { s.controller with changeChannel := false } }.Dating
          api aired := h.frame rfl rfl rfl (fun _ => .inl rfl) fun _ => id
      exact hflag.calls .worker _
    · cases hstep

theorem dial (h : s.Dating api aired) (channelNumber : Int32) :
    (s.dial channelNumber).Dating api aired := by
  have hexpiry : { s with expiries := s.expiries+1 }.Dating api aired :=
    h.frame rfl rfl rfl (fun _ => .inl rfl) fun _ => id
  rw [Tuning.dial]
  split
  · exact hexpiry.calls _ channelNumber
  · exact hexpiry

theorem step (ha : api.Lawful) (hs : s.Separate api) (h : s.Dating api aired) {e : TuningEvent}
    (hdelivers : s.Delivers api e) (hapart : s.TdtApart e) (hairs : Airs aired e)
    (hstep : s.step api e = some s') : s'.Dating api aired := by
  cases e with
  | advance t => exact h.advance ha hs hapart hstep
  | workerCalls => exact h.workerCalls hstep
  | press key =>
    cases hstep
    exact h.frame rfl rfl rfl (fun _ => .inl rfl) fun _ => id
  | dial channelNumber =>
    cases hstep
    exact h.dial channelNumber
  | begins sec =>
    simp only [Tuning.step] at hstep
    split at hstep <;> cases hstep
    exact h.begins hairs hdelivers
  | parses =>
    simp only [Tuning.step] at hstep
    split at hstep
    case h_1 harrived => exact h.parses harrived hstep
    case h_2 => cases hstep
  | signals =>
    simp only [Tuning.step] at hstep
    split at hstep
    case h_1 hsignalling =>
      cases hstep
      exact h.signals hsignalling
    case h_2 => cases hstep

theorem initial (aired : CarriedSection → Prop) (c₀ : Controller D) :
    (Tuning.initial api c₀).Dating api aired := by
  have hlabel (t : Caller) : (Tuning.initial api c₀).label t = .waitPat ∨
      (Tuning.initial api c₀).label t = .returned := by
    cases t with
    | worker =>
      left
      change (Config.setFilter api (boot c₀) 0x00 0x00 .waitPat .waitPat).frame.label = .waitPat
      rw [Config.setFilter]
      split <;> rfl
    | keyTimer n => exact Or.inr rfl
  refine ⟨(fun _ h => by cases h),fun t hwait => ?_,fun t hdates => ?_⟩
  · obtain hl | hl := hlabel t
    · cases hl.symm.trans hwait
    · cases hl.symm.trans hwait
  · obtain hl | hl := hlabel t
    · rw [hl] at hdates
      cases hdates
    · rw [hl] at hdates
      cases hdates

end Dating

/-- Interleavings whose calls are kept apart, down to the TDT filter, and what is on air. -/
abbrev DatedApart (api : TdpApi D) (aired : CarriedSection → Prop) (s : Tuning D)
    (e : TuningEvent) : Prop :=
  (s.Delivers api e ∧ s.Apart e) ∧ s.TdtApart e ∧ Airs aired e

theorem aside_controller {e : TuningEvent} (h : s.step api e = some s')
    (he : ∀ t, e = .advance t → (s.label t).waits ∧ (s.caller t).demuxCond = .outside) :
    s'.controller.currentDate = s.controller.currentDate ∧
      (s'.controller.tables = s.controller.tables ∨
        ∃ sec r, s.callback = .arrived sec ∧
          run sec.bytes (sectionReceivedCallback s.controller.tables) = .ok r ∧
          s'.controller.tables = r.2) := by
  cases e with
  | advance t =>
    obtain ⟨hwaits,houtside⟩ := he t rfl
    simp only [step,advance,hwaits,houtside,if_true] at h
    cases h
    exact ⟨rfl,.inl rfl⟩
  | workerCalls =>
    simp only [step,workerCalls] at h
    split at h
    case h_1 =>
      cases h
      exact ⟨rfl,.inl rfl⟩
    case h_4 => cases h
    all_goals
      split at h
      · cases h
        exact ⟨rfl,.inl rfl⟩
      · cases h
  | press key =>
    cases h
    exact ⟨rfl,.inl rfl⟩
  | dial channelNumber =>
    cases h
    rw [dial]
    split
    · exact ⟨rfl,.inl rfl⟩
    · exact ⟨rfl,.inl rfl⟩
  | begins sec =>
    simp only [step] at h
    split at h <;> cases h
    exact ⟨rfl,.inl rfl⟩
  | parses =>
    simp only [step] at h
    split at h
    case h_1 sec harrived =>
      rw [parses] at h
      split at h
      case h_1 => cases h
      case h_2 r hrun =>
        cases h
        exact ⟨rfl,.inr ⟨sec,r,harrived,hrun,rfl⟩⟩
    case h_2 => cases h
  | signals =>
    simp only [step] at h
    split at h <;> cases h
    exact ⟨rfl,.inl rfl⟩

def AiredOn (d : CalendarDate) (sec : CarriedSection) : Prop :=
  sec.bytes 0 = 0x70 → (mjdAt sec.bytes).toNat = d.mjd

theorem statement_tells {d : CalendarDate} (hd : 15079 ≤ d.mjd) (h : s.Dating api (AiredOn d))
    (hl : s.label t = .storeDate) : (s.statement api t).controller.currentDate.Tells d := by
  obtain ⟨sec,hair,hid,hyear,hmonth,hday⟩ := h.dates t (by rw [hl]; rfl)
  have hl' : (s.config t).frame.label = .storeDate := hl
  have hstored : (s.statement api t).controller.currentDate =
      ⟨tdtYear (mjdAt sec.bytes)+1900,(tdtMonth (mjdAt sec.bytes)).toUInt8,
        (tdtDay (mjdAt sec.bytes)).toUInt8⟩ := by
    change (TvApp.step api (s.config t) s.controller.tables.arrival).controller.currentDate = _
    simp only [TvApp.step,hl']
    rw [← hyear,← hmonth,← hday]
    rfl
  rw [hstored]
  exact tells_of_mjd hd (hair hid).symm

/-- In every interleaving whose calls are kept apart, and in which no callback is in progress
when the TDT filter is set, while all TDTs on air are of one day from 1 March 1900 on: the
date of the program is as it was at the start, or its year and month are those of the day, and
its day is right exactly in March, April, June, August, September and November. -/
theorem current_date_is_that_on_air (ha : api.Lawful) (hc₀ : c₀.Fresh api) {d : CalendarDate}
    (hd : 15079 ≤ d.mjd)
    (h : Reach (step api) (DatedApart api (AiredOn d)) (initial api c₀) s) :
    s.controller.currentDate = c₀.currentDate ∨ s.controller.currentDate.Tells d := by
  have hinvariant := h.invariant
    (I := fun s => (s.Separate api ∧ s.Dating api (AiredOn d)) ∧
      (s.controller.currentDate = c₀.currentDate ∨ s.controller.currentDate.Tells d))
    ⟨⟨Separate.initial ha hc₀,Dating.initial _ c₀⟩,?_⟩ ?_
  · exact hinvariant.2
  · exact .inl (step_currentDate api c₀.tables.arrival (c := boot c₀) Label.noConfusion)
  · intro s s' e ⟨⟨hs,hdating⟩,hdate⟩ hallowed hstep
    refine ⟨⟨hs.step ha hallowed.1.1 hallowed.1.2 hstep,
      hdating.step ha hs hallowed.1.1 hallowed.2.1 hallowed.2.2 hstep⟩,?_⟩
    obtain he | ⟨t,-,rfl⟩ := step_statement hstep
    · rw [(aside_controller hstep he).1]
      exact hdate
    · by_cases hl : s.label t = .storeDate
      · exact .inr (statement_tells hd hdating hl)
      · have hsame : (s.statement api t).controller.currentDate = s.controller.currentDate :=
          step_currentDate api s.controller.tables.arrival (c := s.config t) hl
        rw [hsame]
        exact hdate

instance (s : Tuning D) : DecidablePred s.TdtApart
  | .advance t => inferInstanceAs (Decidable (s.label t = .setTdtFilter → s.callback.inProgress = false))
  | .workerCalls | .press _ | .dial _ | .begins _ | .parses | .signals => isTrue trivial

def tdtArrives : CarriedSection := ⟨0x0014,tdtSection 55097⟩

def totArrives : CarriedSection :=
  ⟨0x0014,fun i => [0x73,0x70,0x0b,0xd7,0x39,0x12,0x45,0x00,0xf0,0x00].getD i 0⟩

/-- The first programme with both time tables. -/
def dateRun : List TuningEvent :=
  List.flatten [firstCall,received (pmtArrives 0x100),statements .worker 13,received tdtArrives,
    statements .worker 4,received totArrives,statements .worker 2]

theorem dateRun_tells_sampleDate :
    ∃ s, follow (step referenceApi) start dateRun = some s ∧
      s.controller.currentDate.Tells sampleDate := by
  have hend : (follow (step referenceApi) start dateRun).map (fun s =>
      (s.label .worker,s.controller.currentDate.Year)) = some (.setTimeTablesRecieved,2009) := by
    decide +kernel
  have heach : Each (fun s e => (Delivers referenceApi s e ∧ s.Apart e) ∧ s.TdtApart e)
      (step referenceApi) start dateRun := by decide +kernel
  have hother (sec : CarriedSection) (hid : sec.bytes 0 ≠ 0x70) : AiredOn sampleDate sec :=
    fun htdt => absurd htdt hid
  have hpat : AiredOn sampleDate patArrives := hother _ (by decide)
  have hpmt : AiredOn sampleDate (pmtArrives 0x100) := hother _ (by decide)
  have htdt : AiredOn sampleDate tdtArrives := fun _ => by decide +kernel
  have htot : AiredOn sampleDate totArrives := hother _ (by decide)
  have hair : ∀ e ∈ dateRun, Airs (AiredOn sampleDate) e := by
    simp [dateRun,firstCall,received,statements,Airs,hpat,hpmt,htdt,htot]
  obtain ⟨s,hs,htwo⟩ := Option.map_eq_some_iff.1 hend
  have hyear := (Prod.mk.inj htwo).2
  have hreach : Reach (step referenceApi) (DatedApart referenceApi (AiredOn sampleDate)) start s :=
    (Reach.start.of_each dateRun (heach.and (each_of_forall start dateRun fun e he _ => hair e he)) hs).mono
      fun _ _ h => ⟨h.1.1,h.1.2,h.2⟩
  have h := current_date_is_that_on_air referenceApi_lawful (Controller.initial_fresh [] 0)
    (by decide +kernel) hreach
  refine ⟨s,hs,h.resolve_left fun hinitial => ?_⟩
  rw [hinitial] at hyear
  cases hyear

end Tuning
end TvApp

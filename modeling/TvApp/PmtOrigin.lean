import TvApp.TunedCall
import TvApp.RacingReads

/-! The PMT that a started channel is taken from.
Calls that do not overlap, that find no callback in progress when they set their filter and
no PMT being parsed when they scan the table, store the pids of their own PMT in every
interleaving.  The wait has no predicate and is ended by the signal of any table, and the
scan takes no lock, so none of the provisos can be left out. -/
namespace TvApp

open Routine

variable {D : Type}

namespace Tuning

variable {api : TdpApi D} {s s' : Tuning D} {t : Caller} {pid : UInt16}

/-- The invariant of runs whose calls are kept apart. -/
structure Separate (api : TdpApi D) (s : Tuning D) : Prop where
  booted : ∀ t, s.label t ≠ .setPatFilter
  unborn : ∀ n, s.expiries ≤ n → (s.label (.keyTimer n)).active = false
  single : ∀ t t', (s.label t).active → (s.label t').active → t = t'
  owns : ∀ t, (s.label t).active → Owns api (s.config t)
  ownsIdle : (∀ t, (s.label t).active = false) → Owns api ⟨s.controller,⟨.ready,0,-1,-1⟩⟩
  tuned : ∀ t, (s.label t).tuned → ∃ pid, s.TunedTo api t pid

namespace Separate

theorem inactive (hs : s.Separate api) (h : s.NoCall) (t : Caller) : (s.label t).active = false := by
  cases t with
  | worker => exact h.1
  | keyTimer n =>
    by_cases hn : n < s.expiries
    · exact h.2 n hn
    · exact hs.unborn n (Nat.le_of_not_lt hn)

theorem of_same (hs : s.Separate api) (hlabel : ∀ t, s'.label t = s.label t)
    (hexpiries : s'.expiries = s.expiries)
    (hdevice : s'.controller.device = s.controller.device)
    (hhandle : ∀ kind, s'.controller.streamHandle kind = s.controller.streamHandle kind)
    (hfilterHandle : s'.controller.filterHandle = s.controller.filterHandle)
    (htuned : ∀ t pid, (s.label t).tuned → s.TunedTo api t pid → s'.TunedTo api t pid) :
    s'.Separate api where
  booted t := by
    rw [hlabel]
    exact hs.booted t
  unborn n := by
    rw [hlabel,hexpiries]
    exact hs.unborn n
  single t t' := by
    rw [hlabel,hlabel]
    exact hs.single t t'
  owns t h := by
    rw [hlabel] at h
    exact (hs.owns t h).of_same hdevice hhandle hfilterHandle (hlabel t)
  ownsIdle h := by
    simp only [hlabel] at h
    exact (hs.ownsIdle h).of_same hdevice hhandle hfilterHandle rfl
  tuned t h := by
    rw [hlabel] at h
    obtain ⟨pid,hpid⟩ := hs.tuned t h
    exact ⟨pid,htuned t pid h hpid⟩

theorem request (hs : s.Separate api) (programNumber : Int16) (changeChannel : Bool) :
    { s with controller := { s.controller with
        programNumber := programNumber
        changeChannel := changeChannel } }.Separate api :=
  hs.of_same (fun _ => rfl) rfl rfl (fun kind => by cases kind <;> rfl) rfl
    fun _ _ _ h => { h with }

theorem date (hs : s.Separate api) (currentDate : CurrentDate) :
    { s with controller := { s.controller with currentDate := currentDate } }.Separate api :=
  hs.of_same (fun _ => rfl) rfl rfl (fun kind => by cases kind <;> rfl) rfl
    fun _ _ _ h => { h with }

theorem begins (hs : s.Separate api) {sec : CarriedSection} (hdelivers : s.Delivers api (.begins sec)) :
    { s with callback := .arrived sec }.Separate api := by
  refine hs.of_same (fun _ => rfl) rfl rfl (fun _ => rfl) rfl fun t pid _ h => ?_
  refine { h with arrived := ?_,signalling := by rintro ⟨⟩ }
  rintro sec' ⟨⟩
  obtain ⟨fl,hfl,hpid,htableId⟩ := hdelivers
  obtain ⟨hpid',htableId'⟩ := h.filters fl hfl
  exact ⟨hpid.trans hpid',htableId.trans htableId'⟩

theorem signals (hs : s.Separate api) (hsignalling : s.callback = .signalling) :
    { s with
      callback := .idle
      caller := fun t => { s.caller t with demuxCond := (s.caller t).demuxCond.signal } }.Separate
      api := by
  refine hs.of_same (fun _ => rfl) rfl rfl (fun _ => rfl) rfl fun t pid _ h => ?_
  exact { h with
    arrived := by rintro sec ⟨⟩
    signalling := by rintro ⟨⟩
    woken := fun _ => h.signalling hsignalling }

/-- A parsed section is one on the pid of the call that is tuned, so the PAT stays and
`pmtTable` shows that section. -/
theorem parses (hs : s.Separate api) {sec : CarriedSection} (harrived : s.callback = .arrived sec)
    (h : s.parses sec = some s') : s'.Separate api := by
  rw [Tuning.parses] at h
  cases hrun : run sec.bytes (sectionReceivedCallback s.controller.tables) with
  | error e =>
    rw [hrun] at h
    cases h
  | ok r =>
    rw [hrun] at h
    cases h
    obtain ⟨hpat,hpmt⟩ := sectionReceivedCallback_tables hrun
    have hlabel (t : Caller) : (record s.caller sec t).frame = (s.caller t).frame := by
      rw [record]
      split <;> rfl
    refine hs.of_same (fun t => congrArg Frame.label (hlabel t)) rfl rfl (fun kind => by cases kind <;> rfl)
      rfl fun t pid _ h => ?_
    obtain ⟨hpid,hid⟩ := h.arrived sec harrived
    have hpat' : r.2.patTable = s.controller.tables.patTable := by
      rw [hpat,hid]
      rfl
    have hshows : r.2.pmtTable.Shows sec.bytes := by
      rw [hpmt,if_pos hid]
      exact pmtResult_shows hid _
    have hrecord : record s.caller sec t =
        { s.caller t with parsedSince := (s.caller t).parsedSince ++ [sec] } := by
      rw [record,if_pos hid]
    have hparsed : (record s.caller sec t).parsedSince ≠ [] := by
      rw [hrecord]
      exact List.concat_ne_nil _ _
    refine ⟨?_,h.filters,?_,fun _ => hparsed,?_,?_,fun _ => hparsed,?_⟩
    · change pmtPid r.2.patTable (record s.caller sec t).frame.channelNumber = some pid
      rw [hlabel,hpat']
      exact h.pmtPid
    · intro sec' hsec'
      change (if r.1 then Callback.signalling else .idle) = .arrived sec' at hsec'
      split at hsec' <;> cases hsec'
    · intro sec' hsec'
      change sec' ∈ (record s.caller sec t).parsedSince at hsec'
      rw [hrecord] at hsec'
      rcases List.mem_append.1 hsec' with hmem | hmem
      · exact h.parsed sec' hmem
      · rw [List.mem_singleton.1 hmem]
        exact ⟨hpid,hid⟩
    · intro sec' hsec'
      change (record s.caller sec t).parsedSince.getLast? = some sec' at hsec'
      rw [hrecord,List.getLast?_concat] at hsec'
      cases hsec'
      exact hshows
    · intro hselected
      change (record s.caller sec t).frame.label.selected at hselected
      rw [hlabel] at hselected
      change ∃ sec', TakenFrom (record s.caller sec t) sec' ∧ _
      rw [hrecord]
      exact h.selected hselected

theorem blocks (hs : s.Separate api) (hwaits : (s.label t).waits) :
    (s.withCaller t { s.caller t with demuxCond := .blocked }).Separate api := by
  have hlabel (t' : Caller) :
      (s.withCaller t { s.caller t with demuxCond := .blocked }).label t' = s.label t' := by
    by_cases ht : t' = t
    · subst ht
      rw [label,withCaller_caller_self,label]
    · rw [label,withCaller_caller_of_ne s _ ht,label]
  refine hs.of_same hlabel rfl rfl (fun _ => rfl) rfl fun t' pid htuned h => ?_
  by_cases ht : t' = t
  · subst ht
    have hwait := Label.waitPmt_of_tuned htuned hwaits
    refine ⟨?_,h.filters,h.arrived,?_,?_,?_,fun hwoken => ?_,fun hselected => ?_⟩
    · rw [withCaller_caller_self]
      exact h.pmtPid
    · rw [withCaller_caller_self]
      exact h.signalling
    · rw [withCaller_caller_self]
      exact h.parsed
    · rw [withCaller_caller_self]
      exact h.shown
    · rw [withCaller_caller_self] at hwoken
      cases hwoken ((hlabel t').trans hwait)
    · rw [hlabel,hwait] at hselected
      cases hselected
  · exact h.of_same rfl rfl (withCaller_caller_of_ne s _ ht)

theorem expires (hs : s.Separate api) : { s with expiries := s.expiries+1 }.Separate api :=
  { hs with
    unborn := fun n hn => hs.unborn n (Nat.le_of_succ_le hn)
    tuned := fun t ht => by
      obtain ⟨pid,h⟩ := hs.tuned t ht
      exact ⟨pid,{ h with }⟩ }

theorem of_moved (hs : s.Separate api) (halone : ∀ t', t' ≠ t → (s.label t').active = false)
    (hother : ∀ t', t' ≠ t → s'.label t' = s.label t') (hexpiries : s'.expiries = s.expiries)
    (hborn : ∀ n, t = .keyTimer n → n < s.expiries) (hbooted : s'.label t ≠ .setPatFilter)
    (howns : (s'.label t).active → Owns api (s'.config t))
    (hidle : (s'.label t).active = false → Owns api ⟨s'.controller,⟨.ready,0,-1,-1⟩⟩)
    (htuned : (s'.label t).tuned → ∃ pid, s'.TunedTo api t pid) : s'.Separate api := by
  have hone {t' : Caller} (h : (s'.label t').active) : t' = t := by
    by_contra ht
    rw [hother t' ht,halone t' ht] at h
    cases h
  constructor
  case booted =>
    intro t'
    by_cases ht : t' = t
    · rw [ht]
      exact hbooted
    · rw [hother t' ht]
      exact hs.booted t'
  case unborn =>
    intro n hn
    rw [hexpiries] at hn
    have ht : Caller.keyTimer n ≠ t := fun ht => absurd (hborn n ht.symm) (Nat.not_lt.2 hn)
    rw [hother _ ht]
    exact halone _ ht
  case single =>
    intro t₁ t₂ h₁ h₂
    rw [hone h₁,hone h₂]
  case owns =>
    intro t' ht'
    obtain rfl := hone ht'
    exact howns ht'
  case ownsIdle => exact fun h => hidle (h t)
  case tuned =>
    intro t' ht'
    obtain rfl := hone (Label.active_of_tuned ht')
    exact htuned ht'

theorem calls (hs : s.Separate api) (hinactive : ∀ t, (s.label t).active = false)
    (hborn : ∀ n, t = .keyTimer n → n < s.expiries) (channelNumber : Int32) :
    (s.calls t channelNumber).Separate api := by
  have hself : (s.calls t channelNumber).label t = .freeFilter := by
    rw [label,Tuning.calls,withCaller_caller_self]
    rfl
  have hother (t' : Caller) (ht : t' ≠ t) : (s.calls t channelNumber).label t' = s.label t' := by
    rw [label,Tuning.calls,withCaller_caller_of_ne s _ ht,label]
  refine hs.of_moved (fun t' _ => hinactive t') hother rfl hborn ?_ (fun _ => ?_) ?_ ?_
  · rw [hself]
    decide
  · have hplain : ((s.calls t channelNumber).label t).plain := by
      rw [hself]
      rfl
    exact (hs.ownsIdle hinactive).move rfl rfl (fun _ => rfl) rfl rfl hplain
  · rw [hself]
    rintro ⟨⟩
  · rw [hself]
    rintro ⟨⟩

theorem tuned_statement (ha : api.Lawful) (hs : s.Separate api) (hactive : (s.label t).active)
    (hwait : (s.label t).waits → (s.caller t).demuxCond = .woken)
    (hapart : s.label t = .setPmtFilter → s.callback.inProgress = false)
    (htuned : ((s.statement api t).label t).tuned) : ∃ pid, (s.statement api t).TunedTo api t pid := by
  rw [statement_label] at htuned
  rcases step_tuned api _ htuned with hl | hl
  · rw [← statement_label] at htuned
    have hgone : (s.config t).frame.label.filterGone := by
      rw [hl]
      rfl
    exact opened ha hl ((hs.owns t hactive).filters_empty hgone) (hapart hl) htuned
  · rw [← statement_label] at htuned
    obtain ⟨pid,h⟩ := hs.tuned t hl
    refine ⟨pid,?_⟩
    by_cases hwaits : s.label t = .waitPmt
    · exact h.waited hwaits (hwait (by rw [hwaits]; rfl))
    · by_cases hscan : s.label t = .scan
      · exact h.scanned hscan htuned
      · refine h.kept ha ?_
        change (s.label t).tuned at hl
        simpa [Label.tuned,hwaits,hscan] using hl

theorem statement (ha : api.Lawful) (hs : s.Separate api) (hactive : (s.label t).active)
    (hwait : (s.label t).waits → (s.caller t).demuxCond = .woken)
    (hapart : s.label t = .setPmtFilter → s.callback.inProgress = false) :
    (s.statement api t).Separate api := by
  have hin : (s.config t).frame.label.inCall := (Bool.and_eq_true_iff.1 hactive).1
  have hstep := step_callStep api (s.config t) s.controller.tables.arrival hin
  have howns := step_owns ha (hs.owns t hactive) s.controller.tables.arrival
  have hother (t' : Caller) (ht : t' ≠ t) : (s.statement api t).label t' = s.label t' := by
    rw [label,statement_caller_of_ne api s ht,label]
  have halone (t' : Caller) (ht : t' ≠ t) : (s.label t').active = false := by
    by_contra h
    exact ht (hs.single t' t (eq_true_of_ne_false h) hactive)
  have hborn (n : ℕ) (ht : t = .keyTimer n) : n < s.expiries := by
    by_contra hn
    have hinactive := hs.unborn n (Nat.le_of_not_lt hn)
    rw [← ht,hactive] at hinactive
    cases hinactive
  refine hs.of_moved halone hother rfl hborn ?_ (fun _ => ?_) (fun hidle => ?_)
    (hs.tuned_statement ha hactive hwait hapart)
  · intro hset
    have hin' := hstep.inCall
    rw [← statement_label,hset] at hin'
    cases hin'
  · rw [statement_config]
    exact howns
  · rw [statement_label,Label.active,hstep.inCall] at hidle
    have hsettled : (TvApp.step api (s.config t) s.controller.tables.arrival).frame.label.settled := by
      revert hidle
      cases (TvApp.step api (s.config t) s.controller.tables.arrival).frame.label <;> decide
    exact howns.move rfl rfl (fun _ => rfl) rfl hsettled rfl

theorem boots (hs : s.Separate api) (hl : s.label t = .waitPat) : (s.statement api t).Separate api := by
  have hl' : (s.config t).frame.label = .waitPat := hl
  have hc : TvApp.step api (s.config t) s.controller.tables.arrival = (s.config t).goto .ready := by
    simp only [TvApp.step,hl']
    rfl
  have hself : (s.statement api t).label t = .ready := by
    rw [statement_label,hc]
    rfl
  have hcontroller : (s.statement api t).controller = s.controller := by
    change (TvApp.step api (s.config t) s.controller.tables.arrival).controller = _
    rw [hc]
    rfl
  have hother {t' : Caller} (ht : t' ≠ t) : (s.statement api t).label t' = s.label t' := by
    rw [label,statement_caller_of_ne api s ht,label]
  have hactive (t' : Caller) : ((s.statement api t).label t').active = (s.label t').active := by
    by_cases ht : t' = t
    · rw [ht,hself,hl]
      rfl
    · rw [hother ht]
  have hne {t' : Caller} (h : (s.label t').active) : t' ≠ t := by
    rintro rfl
    rw [hl] at h
    cases h
  constructor
  case booted =>
    intro t'
    by_cases ht : t' = t
    · rw [ht,hself]
      decide
    · rw [hother ht]
      exact hs.booted t'
  case unborn =>
    intro n hn
    rw [hactive]
    exact hs.unborn n hn
  case single =>
    intro t₁ t₂
    rw [hactive,hactive]
    exact hs.single t₁ t₂
  case owns =>
    intro t' ht'
    rw [hactive] at ht'
    rw [config,hcontroller,statement_caller_of_ne api s (hne ht')]
    exact hs.owns t' ht'
  case ownsIdle =>
    intro h
    simp only [hactive] at h
    rw [hcontroller]
    exact hs.ownsIdle h
  case tuned =>
    intro t' ht'
    have hactive' := Label.active_of_tuned ht'
    rw [hactive] at hactive'
    have hcaller := statement_caller_of_ne api s (hne hactive')
    rw [hother (hne hactive')] at ht'
    obtain ⟨pid,h⟩ := hs.tuned t' ht'
    exact ⟨pid,h.of_same hcontroller rfl hcaller⟩

theorem advance (ha : api.Lawful) (hs : s.Separate api)
    (hapart : s.label t = .setPmtFilter → s.callback.inProgress = false)
    (h : s.advance api t = some s') : s'.Separate api := by
  rw [Tuning.advance] at h
  have hgoes (hidle : (s.label t).idle = false)
      (hwait : (s.label t).waits → (s.caller t).demuxCond = .woken) : (s.statement api t).Separate api := by
    cases hactive : (s.label t).active with
    | true => exact hs.statement ha hactive hwait hapart
    | false =>
      refine hs.boots ?_
      have hboot := hs.booted t
      revert hidle hactive hboot
      cases s.label t <;> decide
  split at h
  case isTrue hwaits =>
    split at h
    case h_1 =>
      cases h
      exact hs.blocks hwaits
    case h_2 => cases h
    case h_3 hwoken =>
      cases h
      refine hgoes ?_ fun _ => hwoken
      revert hwaits
      cases s.label t <;> decide
  case isFalse hwaits =>
    split at h
    case isTrue => cases h
    case isFalse hidle =>
      cases h
      exact hgoes (eq_false_of_ne_true hidle) fun hw => absurd hw hwaits

theorem workerCalls (hs : s.Separate api) (hnone : s.NoCall) (h : s.workerCalls = some s') :
    s'.Separate api := by
  have hinactive := hs.inactive hnone
  rw [Tuning.workerCalls] at h
  split at h
  case h_1 =>
    cases h
    exact hs.calls hinactive (by rintro n ⟨⟩) _
  case h_4 => cases h
  all_goals
    split at h
    · cases h
      exact (hs.request _ false).calls hinactive (by rintro n ⟨⟩) _
    · cases h

theorem dials (hs : s.Separate api) (channelNumber : Int32) {accepts : Prop} [Decidable accepts]
    (hnone : accepts → s.NoCall) :
    (if accepts then { s with expiries := s.expiries+1 }.calls (.keyTimer s.expiries) channelNumber
      else { s with expiries := s.expiries+1 }).Separate api := by
  split
  case isTrue haccepts =>
    refine hs.expires.calls (hs.inactive (hnone haccepts)) ?_ channelNumber
    rintro n ⟨⟩
    exact Nat.lt_succ_self _
  case isFalse => exact hs.expires

theorem step (ha : api.Lawful) (hs : s.Separate api) {e : TuningEvent} (hdelivers : s.Delivers api e)
    (hapart : s.Apart e) (h : s.step api e = some s') : s'.Separate api := by
  cases e with
  | advance t => exact hs.advance ha hapart h
  | workerCalls => exact hs.workerCalls hapart h
  | press key =>
    cases h
    exact hs.request _ true
  | dial channelNumber =>
    cases h
    exact hs.dials channelNumber hapart
  | begins sec =>
    simp only [Tuning.step] at h
    split at h <;> cases h
    exact hs.begins hdelivers
  | parses =>
    simp only [Tuning.step] at h
    split at h
    case h_1 harrived => exact hs.parses harrived h
    case h_2 => cases h
  | signals =>
    simp only [Tuning.step] at h
    split at h
    case h_1 hsignalling =>
      cases h
      exact hs.signals hsignalling
    case h_2 => cases h

theorem storesDate (ha : api.Lawful) (hs : s.Separate api) (hl : s.label t = .storeDate)
    {tables : SectionTables} (h : (s.withTables tables).advance api t = some s') :
    (s'.withTables s.controller.tables).Separate api := by
  have hplain : s.advance api t = some (s.statement api t) := by
    simp [Tuning.advance,hl,Label.waits,Label.idle]
  have hstatement : (s.statement api t).Separate api :=
    hs.advance ha (fun hset => absurd (hl.symm.trans hset) (by decide)) hplain
  have hl₁ : (s.config t).frame.label = .storeDate := hl
  have hl₂ : ((s.withTables tables).config t).frame.label = .storeDate := hl
  have hl₃ : (s.withTables tables).label t = .storeDate := hl
  simp only [Tuning.advance,hl₃,Label.waits,Label.idle] at h
  cases h
  have hdate := hstatement.date ((s.withTables tables).statement api t).controller.currentDate
  simp only [Tuning.statement,TvApp.step,hl₁,hl₂] at hdate ⊢
  exact hdate

/-- One step of a run with racing reads, in which no scan races. -/
theorem racingStep (ha : api.Lawful) (hs : s.Separate api) {e : RacingEvent}
    (hdelivers : s.Delivers api e.event) (hundisturbed : (s.asRead e).Undisturbed e.event)
    (h : s.racingStep api e = some s') : s'.Separate api := by
  obtain ⟨hapart,hscan⟩ := hundisturbed
  by_cases hfree : s.RaceFree e.event
  · rw [racingStep_of_raceFree hfree] at h
    exact hs.step ha hdelivers (apart_of_asRead hfree hapart) h
  obtain ⟨id,hreads,hparsing⟩ : ∃ id, s.reads e.event = some id ∧ s.callback.parsing = some id := by
    simpa [RaceFree] using hfree
  rw [asRead_eq] at hapart hscan
  rw [Tuning.racingStep,asRead_eq] at h
  cases he : e.event with
  | advance t =>
    rw [he] at h hapart hreads
    obtain ⟨s₁,hadvance,rfl⟩ := Option.map_eq_some_iff.1 h
    cases hl : s.label t with
    | setPmtFilter =>
      have hidle := hapart hl
      change s.callback.inProgress = false at hidle
      cases hcallback : s.callback with
      | idle => rw [hcallback] at hparsing; cases hparsing
      | arrived sec => rw [hcallback] at hidle; cases hidle
      | signalling => rw [hcallback] at hidle; cases hidle
    | scan =>
      have hpmt : s.reads e.event = some 0x02 := by
        rw [he,reads,hl]
        rfl
      rw [reads,hl] at hreads
      cases hreads
      exact absurd hparsing (hscan hpmt)
    | storeDate => exact hs.storesDate ha hl hadvance
    | _ =>
      rw [reads,hl] at hreads
      cases hreads
  | press key =>
    rw [he] at h
    cases h
    exact hs.request _ true
  | dial channelNumber =>
    rw [he] at h hapart
    cases h
    have hdials := hs.dials channelNumber hapart
    rw [Tuning.dial]
    split
    · rename_i haccepts
      rw [if_pos haccepts] at hdials
      exact hdials
    · rename_i hrefuses
      rw [if_neg hrefuses] at hdials
      exact hdials
  | workerCalls | begins sec | parses | signals =>
    rw [he] at hreads
    cases hreads

theorem initial (ha : api.Lawful) {c : Controller D} (hc : c.Fresh api) : (initial api c).Separate api := by
  have howns := step_owns ha (boot_owns hc) c.tables.arrival
  have hworker : (Tuning.initial api c).label .worker = .waitPat := by
    change (Config.setFilter api (boot c) 0x00 0x00 .waitPat .waitPat).frame.label = .waitPat
    rw [Config.setFilter]
    split <;> rfl
  have hlabel (t : Caller) : (Tuning.initial api c).label t = .waitPat ∨
      (Tuning.initial api c).label t = .returned := by
    cases t with
    | worker => exact Or.inl hworker
    | keyTimer n => exact Or.inr rfl
  have hinactive (t : Caller) : ((Tuning.initial api c).label t).active = false := by
    rcases hlabel t with h | h <;> rw [h] <;> rfl
  constructor
  case booted =>
    intro t
    rcases hlabel t with h | h <;> rw [h] <;> decide
  case unborn => exact fun n _ => hinactive _
  case single =>
    intro t t' ht
    rw [hinactive] at ht
    cases ht
  case owns =>
    intro t ht
    rw [hinactive] at ht
    cases ht
  case ownsIdle =>
    intro _
    refine howns.move rfl rfl (fun _ => rfl) rfl ?_ rfl
    change ((Tuning.initial api c).label .worker).settled
    rw [hworker]
    rfl
  case tuned =>
    intro t ht
    have := Label.active_of_tuned ht
    rw [hinactive] at this
    cases this

end Separate

theorem reach_separate (ha : api.Lawful) {c : Controller D} (hc : c.Fresh api)
    (h : Reach (racingStep api) (fun s e => s.Delivers api e.event ∧ (s.asRead e).Undisturbed e.event)
      (initial api c) s) : s.Separate api :=
  h.invariant (Separate.initial ha hc) fun _ hs hallowed hstep =>
    hs.racingStep ha hallowed.1 hallowed.2 hstep

theorem racingStep_store (api : TdpApi D) {e : RacingEvent} (hstore : s.label t = .storeChannel)
    (he : e.event = .advance t) : s.racingStep api e = some (s.statement api t) := by
  have hfree : s.RaceFree e.event := by
    intro id hreads
    rw [he,reads,hstore] at hreads
    cases hreads
  rw [racingStep_of_raceFree hfree,he]
  simp [step,advance,hstore,Label.waits,Label.idle]

/-- The pids that the statement of `t` from `s` to `s'` stores were taken from a PMT section
of the channel, parsed after the call had set its own filter. -/
def StoresOwnPmt (s s' : Tuning D) (t : Caller) : Prop :=
  let th := s.caller t
  ∃ sec, th.source = some sec ∧ sec.bytes 0 = 0x02 ∧
    pmtPid s.controller.tables.patTable th.frame.channelNumber = some sec.pid ∧
    s'.controller.currentChannel =
      { programNumber := Int16.ofInt (th.frame.channelNumber.toInt+1)
        audioPid := firstPid isAudio (pmtEntriesAt sec.bytes)
        videoPid := firstPid isVideo (pmtEntriesAt sec.bytes) }

/-- In every interleaving of the worker, the threads of the key timer and the callback in
which calls do not overlap, no callback is in progress when a call sets its filter, and no
PMT is being parsed while a call scans the table, every stored channel is that of the call's
own PMT. -/
theorem started_channel_uses_own_pmt {api : TdpApi D} (ha : api.Lawful) {c : Controller D}
    (hc : c.Fresh api) (s s' : Tuning D) (t : Caller) (e : RacingEvent)
    (h : Reach (racingStep api) (fun s e => s.Delivers api e.event ∧ (s.asRead e).Undisturbed e.event)
      (initial api c) s)
    (hstore : s.label t = .storeChannel) (he : e.event = .advance t)
    (hstep : s.racingStep api e = some s') : s.StoresOwnPmt s' t := by
  have hs := reach_separate ha hc h
  have htuned : (s.label t).tuned := by
    rw [hstore]
    rfl
  obtain ⟨pid,htuned⟩ := hs.tuned t htuned
  obtain ⟨sec,⟨hsource,haudio,hvideo⟩,hpid,hid⟩ := htuned.selected (by rw [hstore]; rfl)
  refine ⟨sec,hsource,hid,?_,?_⟩
  · rw [hpid]
    exact htuned.pmtPid
  · have hl' : (s.config t).frame.label = .storeChannel := hstore
    rw [racingStep_store api hstore he,Option.some.injEq] at hstep
    rw [← hstep,← haudio,← hvideo]
    change (TvApp.step api (s.config t) s.controller.tables.arrival).controller.currentChannel = _
    simp only [TvApp.step,hl']
    rfl

instance (s : Tuning ReferenceDevice) : DecidablePred (s.Delivers referenceApi)
  | .begins sec => inferInstanceAs
      (Decidable (∃ fl ∈ s.controller.device.filters, sec.pid = fl.pid ∧ sec.bytes 0 = fl.tableId))
  | .advance _ | .workerCalls | .press _ | .dial _ | .parses | .signals => isTrue trivial

instance (s : Tuning D) : Decidable s.NoCall := inferInstanceAs (Decidable (_ ∧ _))

instance (s : Tuning D) : DecidablePred s.Apart
  | .advance t => inferInstanceAs (Decidable (s.label t = .setPmtFilter → s.callback.inProgress = false))
  | .workerCalls => inferInstanceAs (Decidable s.NoCall)
  | .dial n => inferInstanceAs (Decidable (changeChannelKeyAccepts _ n → s.NoCall))
  | .press _ | .begins _ | .parses | .signals => isTrue trivial

instance (s : Tuning D) (e : TuningEvent) : Decidable (s.Undisturbed e) :=
  inferInstanceAs (Decidable (_ ∧ (_ → _)))

instance (s s' : Tuning D) (t : Caller) : Decidable (s.StoresOwnPmt s' t) :=
  match hsource : (s.caller t).source with
  | none => isFalse (by
      rintro ⟨sec,hsec,-⟩
      cases hsource.symm.trans hsec)
  | some sec =>
    decidable_of_iff (sec.bytes 0 = 0x02 ∧
        pmtPid s.controller.tables.patTable (s.caller t).frame.channelNumber = some sec.pid ∧
        s'.controller.currentChannel =
          { programNumber := Int16.ofInt ((s.caller t).frame.channelNumber.toInt+1)
            audioPid := firstPid isAudio (pmtEntriesAt sec.bytes)
            videoPid := firstPid isVideo (pmtEntriesAt sec.bytes) })
      ⟨fun hstored => ⟨sec,hsource,hstored⟩,by
        rintro ⟨sec',hsec,hstored⟩
        cases hsource.symm.trans hsec
        exact hstored⟩

def start : Tuning ReferenceDevice :=
  initial referenceApi (Controller.initial (ReferenceDevice.new []) 0)

def patArrives : CarriedSection := ⟨0x0000,fun i => PatSection.twoProgrammes.encode.getD i 0⟩

def pmtArrives (pid : UInt16) : CarriedSection := ⟨pid,fun i => PmtSection.sample.encode.getD i 0⟩

def received (sec : CarriedSection) : List TuningEvent := [.begins sec,.parses,.signals]

def statements (t : Caller) (n : ℕ) : List TuningEvent := List.replicate n (.advance t)

def firstCall : List TuningEvent :=
  List.flatten [statements .worker 1,received patArrives,statements .worker 1,[.workerCalls],
    statements .worker 3]

def plainRun (es : List TuningEvent) : List RacingEvent := es.map TuningEvent.plain

theorem first_programme_uses_own_pmt :
    ∃ s s' : Tuning ReferenceDevice, s.label .worker = .storeChannel ∧
      s.racingStep referenceApi (TuningEvent.advance .worker).plain = some s' ∧
      s'.controller.currentChannel = ⟨1,0x101,0x100⟩ ∧ s.StoresOwnPmt s' .worker := by
  let es := plainRun (List.flatten [firstCall,received (pmtArrives 0x100),statements .worker 8])
  have hend : (follow (racingStep referenceApi) start es).map (fun s => (s.label .worker,
      (s.racingStep referenceApi (TuningEvent.advance .worker).plain).map
        fun s' => s'.controller.currentChannel)) =
          some (.storeChannel,some ⟨1,0x101,0x100⟩) := by decide +kernel
  have heach : Each (fun s e => Delivers referenceApi s e.event ∧ (s.asRead e).Undisturbed e.event)
      (racingStep referenceApi) start es := by
    decide +kernel
  obtain ⟨s,hs,hboth⟩ := Option.map_eq_some_iff.1 hend
  obtain ⟨hlabel,hstored⟩ := Prod.mk.inj hboth
  obtain ⟨s',hs',hchannel⟩ := Option.map_eq_some_iff.1 hstored
  exact ⟨s,s',hlabel,hs',hchannel,started_channel_uses_own_pmt referenceApi_lawful
    (Controller.initial_fresh [] 0) s s' .worker _ (Reach.start.of_each es heach hs) hlabel rfl hs'⟩

/-- The demultiplexer of the run is as assumed, and the run comes to a store of the worker
that is not of its own PMT. -/
def Breaks (es : List RacingEvent) : Prop :=
  Each (fun s e => Delivers referenceApi s e.event) (racingStep referenceApi) start es ∧
    ∃ s s' : Tuning ReferenceDevice, follow (racingStep referenceApi) start es = some s ∧
      s.label .worker = .storeChannel ∧
      s.racingStep referenceApi (TuningEvent.advance .worker).plain = some s' ∧
      ¬ s.StoresOwnPmt s' .worker

theorem Breaks.of_end {es : List RacingEvent}
    (heach : Each (fun s e => Delivers referenceApi s e.event) (racingStep referenceApi) start es)
    (hend : (follow (racingStep referenceApi) start es).map (fun s => (s.label .worker,
      decide (s.StoresOwnPmt (s.statement referenceApi .worker) .worker))) =
        some (.storeChannel,false)) : Breaks es := by
  obtain ⟨s,hs,hboth⟩ := Option.map_eq_some_iff.1 hend
  obtain ⟨hlabel,hforeign⟩ := Prod.mk.inj hboth
  exact ⟨heach,s,_,hs,hlabel,racingStep_store referenceApi hlabel rfl,of_decide_eq_false hforeign⟩

/-- A second PAT is in its callback while the first call sets its filter. -/
def patStillParsed : List TuningEvent :=
  List.flatten [statements .worker 1,received patArrives,[.begins patArrives],statements .worker 1,
    [.workerCalls],statements .worker 3,[.parses,.signals],statements .worker 7]

/-- The second programme is dialled while the worker waits for the PMT of the first. -/
def dialledMeanwhile : List TuningEvent :=
  List.flatten [firstCall,[.dial 1],statements (.keyTimer 0) 2,received (pmtArrives 0x200),
    statements .worker 8]

/-- The PMT comes again while the worker scans the table, and its parse has just set the count
of streams to zero. -/
def scannedMeanwhile : List RacingEvent :=
  List.flatten [plainRun firstCall,plainRun (received (pmtArrives 0x100)),
    plainRun (statements .worker 1),plainRun [.begins (pmtArrives 0x100)],
    [⟨.advance .worker,some .zeroed⟩],plainRun [.parses,.signals],plainRun (statements .worker 5)]

/-- In the first run the signal of the PAT ends the wait and no PMT has been parsed, in the
second one the worker stores the pids of the other programme, and in the third one it finds no
stream in the table. -/
theorem foreign_pids_are_stored :
    Breaks (plainRun patStillParsed) ∧ Breaks (plainRun dialledMeanwhile) ∧
      Breaks scannedMeanwhile :=
  ⟨.of_end (by decide +kernel) (by decide +kernel),.of_end (by decide +kernel) (by decide +kernel),
    .of_end (by decide +kernel) (by decide +kernel)⟩

end Tuning
end TvApp

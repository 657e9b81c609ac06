import TvApp.PmtOrigin
import TvApp.WatchedStreams

/-! Interleavings as single-threaded runs.
When calls of `startChannel` do not overlap, and no PAT section is being parsed when a
call sets its filter, the threads and the callback together do what one thread could have
done alone.  A callback may still replace a table between the wait of a call and the
statement that reads it; the wait of the single thread is then taken to end with the later
contents.  Hence the invariant speaks of all contents the tables may have by then. -/
namespace TvApp

open Routine StreamKind

variable {D : Type}

/-- Equal but for the tables and the variables of the key thread. -/
structure SameCourse (s s' : Controller D) : Prop where
  device : s.device = s'.device
  streamHandleA : s.streamHandleA = s'.streamHandleA
  streamHandleV : s.streamHandleV = s'.streamHandleV
  filterHandle : s.filterHandle = s'.filterHandle
  currentChannel : s.currentChannel = s'.currentChannel
  timeTablesRecieved : s.timeTablesRecieved = s'.timeTablesRecieved
  currentDate : s.currentDate = s'.currentDate

theorem SameCourse.streamHandle {s s' : Controller D} (h : SameCourse s s') (kind : StreamKind) :
    s.streamHandle kind = s'.streamHandle kind := by
  cases kind with
  | videoTypeMpeg2 => exact h.streamHandleV
  | audioTypeMpegAudio => exact h.streamHandleA

/-- What the statement at a label reads of the tables. -/
structure ReadsSame (l : Label) (tables tables' : SectionTables) : Prop where
  pat : l = .setPmtFilter → tables.patTable = tables'.patTable
  pmt : l = .scan → tables.pmtTable = tables'.pmtTable
  tdt : l = .storeDate → tables.tdtTable = tables'.tdtTable

theorem SameCourse.setFilter {c c' : Config D} (h : SameCourse c.controller c'.controller)
    (hframe : c.frame = c'.frame) (api : TdpApi D) (pid : UInt16) (tableId : UInt8)
    (ok failed : Label) :
    SameCourse (c.setFilter api pid tableId ok failed).controller
        (c'.setFilter api pid tableId ok failed).controller ∧
      (c.setFilter api pid tableId ok failed).frame =
        (c'.setFilter api pid tableId ok failed).frame := by
  simp only [Config.setFilter,h.device]
  split
  · exact ⟨{ h with device := rfl, filterHandle := rfl },by simp only [Config.goto,Config.withDevice,Config.withFilterHandle,hframe]⟩
  · exact ⟨{ h with device := rfl },by simp only [Config.goto,Config.withDevice,hframe]⟩

theorem step_sameCourse (api : TdpApi D) {c c' : Config D}
    (h : SameCourse c.controller c'.controller) (hframe : c.frame = c'.frame)
    (hreads : ReadsSame c.frame.label c.controller.tables c'.controller.tables) (a a' : Arrival) :
    SameCourse (step api c a).controller (step api c' a').controller ∧
      (step api c a).frame = (step api c' a').frame := by
  obtain ⟨s,f⟩ := c
  obtain ⟨s',f'⟩ := c'
  obtain rfl : f = f' := hframe
  have hdevice : s.device = s'.device := h.device
  have hV : s.streamHandleV = s'.streamHandleV := h.streamHandleV
  have hA : s.streamHandleA = s'.streamHandleA := h.streamHandleA
  have hF : s.filterHandle = s'.filterHandle := h.filterHandle
  cases hl : f.label
  case setPatFilter | setTdtFilter | setTotFilter =>
    simp only [step,hl]
    exact h.setFilter rfl api _ _ _ _
  case setPmtFilter =>
    have hpat : s.tables.patTable = s'.tables.patTable := hreads.pat hl
    simp only [step,hl,hpat]
    split
    · exact h.setFilter rfl api _ _ _ _
    · exact ⟨h,rfl⟩
  case scan =>
    have hpmt : s.tables.pmtTable = s'.tables.pmtTable := hreads.pmt hl
    simp only [step,hl,hpmt]
    split
    · exact ⟨h,rfl⟩
    · exact ⟨h,rfl⟩
  case storeDate =>
    have htdt : s.tables.tdtTable = s'.tables.tdtTable := hreads.tdt hl
    simp only [step,hl,htdt]
    exact ⟨{ h with currentDate := rfl },trivial⟩
  case freeFilter | freeForTdt | freeForTot =>
    simp only [step,hl,Config.freeFilter,hdevice,hF]
    exact ⟨{ h with device := rfl },rfl⟩
  case testHandleV =>
    simp only [step,hl,hV]
    exact ⟨h,rfl⟩
  case testHandleA =>
    simp only [step,hl,hA]
    exact ⟨h,rfl⟩
  case removeVideo | dropVideo =>
    simp only [step,hl,hdevice,hV]
    exact ⟨{ h with device := rfl },rfl⟩
  case removeAudio =>
    simp only [step,hl,hdevice,hA]
    exact ⟨{ h with device := rfl },rfl⟩
  case zeroVideo | zeroDroppedVideo =>
    simp only [step,hl]
    exact ⟨{ h with streamHandleV := rfl },rfl⟩
  case zeroAudio =>
    simp only [step,hl]
    exact ⟨{ h with streamHandleA := rfl },rfl⟩
  case createVideo =>
    simp only [step,hl,hdevice]
    split
    · exact ⟨{ h with device := rfl, streamHandleV := rfl },rfl⟩
    · exact ⟨{ h with device := rfl },rfl⟩
  case createAudio =>
    simp only [step,hl,hdevice]
    split
    · exact ⟨{ h with device := rfl, streamHandleA := rfl },rfl⟩
    · exact ⟨{ h with device := rfl },rfl⟩
  case clearScreen =>
    simp only [step,hl,hdevice]
    exact ⟨{ h with device := rfl },rfl⟩
  case storeChannel =>
    simp only [step,hl]
    exact ⟨{ h with currentChannel := rfl },trivial⟩
  case testTimeTables =>
    have hreceived : s.timeTablesRecieved = s'.timeTablesRecieved := h.timeTablesRecieved
    simp only [step,hl,hreceived]
    exact ⟨h,rfl⟩
  case setTimeTablesRecieved =>
    simp only [step,hl]
    exact ⟨{ h with timeTablesRecieved := rfl },trivial⟩
  case waitPat | waitPmt | waitTdt | waitTot =>
    simp only [step,hl]
    exact ⟨{ h with },rfl⟩
  case testVideo | testAudio =>
    simp only [step,hl]
    exact ⟨h,rfl⟩
  case ready | returned | filterFailed | fault | deinit =>
    simp only [step,hl]
    exact ⟨h,trivial⟩

theorem step_filters_tableId {api : TdpApi D} (ha : api.Lawful) {c : Config D} (a : Arrival)
    (hl : c.frame.label ≠ .setPatFilter) {fl : SectionFilter}
    (hfl : fl ∈ api.filters (step api c a).controller.device) :
    fl ∈ api.filters c.controller.device ∨ fl.tableId ≠ 0x00 := by
  have hset (pid : UInt16) (tableId : UInt8) (ok failed : Label) (hid : tableId ≠ 0x00)
      (hfl : fl ∈ api.filters (c.setFilter api pid tableId ok failed).controller.device) :
      fl ∈ api.filters c.controller.device ∨ fl.tableId ≠ 0x00 := by
    cases hr : (api.demuxSetFilter c.controller.device pid tableId).1 with
    | none =>
      rw [Config.setFilter_none hr] at hfl
      change fl ∈ api.filters (api.demuxSetFilter c.controller.device pid tableId).2 at hfl
      rw [ha.set_failed _ _ _ hr] at hfl
      exact Or.inl hfl
    | some g =>
      rw [Config.setFilter_some hr] at hfl
      change fl ∈ api.filters (api.demuxSetFilter c.controller.device pid tableId).2 at hfl
      rw [(ha.set _ _ _ _ hr).2.2] at hfl
      rcases hfl with rfl | hfl
      · exact Or.inr hid
      · exact Or.inl hfl
  by_cases hq : c.frame.label.quiet
  · rw [(step_quiet api c a hq).device] at hfl
    exact Or.inl hfl
  cases hc : c.frame.label
  case setPatFilter => exact absurd hc hl
  case setTdtFilter | setTotFilter =>
    simp only [step,hc] at hfl
    exact hset _ _ _ _ (by decide) hfl
  case setPmtFilter =>
    simp only [step,hc] at hfl
    split at hfl
    · exact hset _ _ _ _ (by decide) hfl
    · exact Or.inl hfl
  case freeFilter | freeForTdt | freeForTot =>
    simp only [step,hc] at hfl
    change fl ∈ api.filters (api.demuxFreeFilter _ _) at hfl
    rw [ha.free] at hfl
    exact Or.inl hfl.1
  case removeVideo | dropVideo | removeAudio =>
    simp only [step,hc] at hfl
    change fl ∈ api.filters (api.playerStreamRemove _ _) at hfl
    rw [ha.remove_filters] at hfl
    exact Or.inl hfl
  case createVideo | createAudio =>
    simp only [step,hc] at hfl
    split at hfl
    all_goals
      change fl ∈ api.filters (api.playerStreamCreate _ _ _).2 at hfl
      rw [ha.create_filters] at hfl
      exact Or.inl hfl
  case clearScreen =>
    simp only [step,hc] at hfl
    change fl ∈ api.filters (api.peClearScreen _) at hfl
    rw [ha.clear_filters] at hfl
    exact Or.inl hfl
  case testHandleV | testHandleA | zeroVideo | zeroDroppedVideo | zeroAudio =>
    simp only [step,hc] at hfl
    exact Or.inl hfl
  all_goals exact absurd (by rw [hc]; rfl) hq

/-- The control flow: where a statement may lead. -/
def Label.successors : Label → List Label
  | .setPatFilter => [.waitPat]
  | .waitPat => [.ready]
  | .freeFilter => [.setPmtFilter]
  | .setPmtFilter => [.waitPmt,.filterFailed,.fault]
  | .waitPmt => [.scan]
  | .scan => [.testVideo,.fault]
  | .testVideo => [.testHandleV,.dropVideo]
  | .testHandleV => [.removeVideo,.createVideo]
  | .removeVideo => [.zeroVideo]
  | .zeroVideo => [.createVideo]
  | .createVideo => [.testAudio,.deinit]
  | .dropVideo => [.zeroDroppedVideo]
  | .zeroDroppedVideo => [.clearScreen]
  | .clearScreen => [.testAudio]
  | .testAudio => [.testHandleA,.storeChannel]
  | .testHandleA => [.removeAudio,.createAudio]
  | .removeAudio => [.zeroAudio]
  | .zeroAudio => [.createAudio]
  | .createAudio => [.storeChannel,.deinit]
  | .storeChannel => [.testTimeTables]
  | .testTimeTables => [.freeForTdt,.returned]
  | .freeForTdt => [.setTdtFilter]
  | .setTdtFilter => [.waitTdt,.returned]
  | .waitTdt => [.freeForTot]
  | .freeForTot => [.setTotFilter]
  | .setTotFilter => [.waitTot,.returned]
  | .waitTot => [.storeDate]
  | .storeDate => [.setTimeTablesRecieved]
  | .setTimeTablesRecieved => [.returned]
  | l => [l]

theorem step_successors (api : TdpApi D) (c : Config D) (a : Arrival) :
    (step api c a).frame.label ∈ c.frame.label.successors := by
  cases hc : c.frame.label <;> simp only [step,hc]
  case setPatFilter | setTdtFilter | setTotFilter =>
    simp only [Config.setFilter]
    split <;> simp [Config.goto,Label.successors]
  case setPmtFilter =>
    split
    · simp only [Config.setFilter]
      split <;> simp [Config.goto,Label.successors]
    · simp [Config.goto,Label.successors]
  case scan | testVideo | testHandleV | createVideo | testAudio | testHandleA | createAudio
    | testTimeTables =>
    split <;> simp [Config.goto,Label.successors]
  all_goals simp [Config.goto,Label.successors]

theorem step_label_reading (api : TdpApi D) {c : Config D} (a : Arrival) :
    ((step api c a).frame.label = .scan → c.frame.label = .waitPmt) ∧
      ((step api c a).frame.label = .storeDate → c.frame.label = .waitTot) := by
  have hmem := step_successors api c a
  refine ⟨fun h => ?_,fun h => ?_⟩
  all_goals
    rw [h] at hmem
    revert hmem
    cases c.frame.label <;> decide

theorem storedChannels_concat (api : TdpApi D) (c : Config D) (actions : List Action) (x : Action) :
    storedChannels api c (actions ++ [x]) =
      storedChannels api c actions ++ storedBy api (runActions api c actions) x := by
  rw [storedChannels,emitted_append,emitted,emitted,List.append_nil]
  rfl

namespace Tuning

variable {api : TdpApi D} {c₀ : Controller D} {s s' : Tuning D} {t : Caller}
  {tables : SectionTables} {log : List ChannelInfo}

def PatSettled (api : TdpApi D) (s : Tuning D) : Prop :=
  (∀ fl ∈ api.filters s.controller.device, fl.tableId ≠ 0x00) ∧
    ∀ sec, s.callback = .arrived sec → sec.bytes 0 ≠ 0x00

/-- Calls do not overlap, and no PAT section is about to be parsed when a call sets its
filter. -/
def OneAtATime (s : Tuning D) : TuningEvent → Prop
  | .advance t =>
    s.label t = .setPmtFilter → ∀ sec, s.callback = .arrived sec → sec.bytes 0 ≠ 0x00
  | .workerCalls => s.NoCall
  | .dial channelNumber =>
    changeChannelKeyAccepts s.controller.tables.patTable.serviceInfoCount channelNumber → s.NoCall
  | _ => True

def stores (api : TdpApi D) (s : Tuning D) : TuningEvent → List ChannelInfo
  | .advance t =>
    if s.label t = .storeChannel then [(s.statement api t).controller.currentChannel] else []
  | .workerCalls | .press _ | .dial _ | .begins _ | .parses | .signals => []

/-- A single thread is where the threads together are; what it will read next of the
tables is as given. -/
structure Mirrors (c : Config D) (s : Tuning D) (tables : SectionTables) : Prop where
  course : SameCourse c.controller s.controller
  frame : ∀ t, (s.label t).active → c.frame = (s.caller t).frame
  idle : (∀ t, (s.label t).active = false) → c.frame.label.idle
  pat : c.controller.tables.patTable = tables.patTable
  pmt : c.frame.label = .scan → c.controller.tables.pmtTable = tables.pmtTable
  tdt : c.frame.label = .storeDate → c.controller.tables.tdtTable = tables.tdtTable

/-- The invariant.  A single thread can have come here with any contents of the tables that
are still to be read, only the PAT is fixed once it is settled. -/
structure Serial (api : TdpApi D) (c₀ : Controller D) (s : Tuning D) (log : List ChannelInfo) :
    Prop where
  booted : ∀ t, s.label t ≠ .setPatFilter
  unborn : ∀ n, s.expiries ≤ n → (s.label (.keyTimer n)).active = false
  single : ∀ t t', (s.label t).active → (s.label t').active → t = t'
  mirrored : ∀ tables : SectionTables,
    (s.PatSettled api → tables.patTable = s.controller.tables.patTable) →
    ∃ actions, Mirrors (runActions api (boot c₀) actions) s tables ∧
      storedChannels api (boot c₀) actions = log

namespace Serial

theorem inactive (hs : s.Serial api c₀ log) (h : s.NoCall) (t : Caller) :
    (s.label t).active = false := by
  cases t with
  | worker => exact h.1
  | keyTimer n =>
    by_cases hn : n < s.expiries
    · exact h.2 n hn
    · exact hs.unborn n (Nat.le_of_not_lt hn)

theorem of_same (hs : s.Serial api c₀ log) (hframe : ∀ t, (s'.caller t).frame = (s.caller t).frame)
    (hexpiries : s.expiries ≤ s'.expiries) (hcourse : SameCourse s.controller s'.controller)
    (hpat : s.PatSettled api →
      s'.PatSettled api ∧ s'.controller.tables.patTable = s.controller.tables.patTable) :
    s'.Serial api c₀ log := by
  have hlabel (t : Caller) : s'.label t = s.label t := congrArg Frame.label (hframe t)
  constructor
  case booted =>
    intro t
    rw [hlabel]
    exact hs.booted t
  case unborn =>
    intro n hn
    rw [hlabel]
    exact hs.unborn n (hexpiries.trans hn)
  case single =>
    intro t t'
    rw [hlabel,hlabel]
    exact hs.single t t'
  case mirrored =>
    intro tables htables
    obtain ⟨actions,hm,hlog⟩ := hs.mirrored tables fun hsettled => by
      rw [htables (hpat hsettled).1,(hpat hsettled).2]
    refine ⟨actions,?_,hlog⟩
    have h := hm.course
    exact { hm with
      course := ⟨h.device.trans hcourse.device,h.streamHandleA.trans hcourse.streamHandleA,
        h.streamHandleV.trans hcourse.streamHandleV,h.filterHandle.trans hcourse.filterHandle,
        h.currentChannel.trans hcourse.currentChannel,
        h.timeTablesRecieved.trans hcourse.timeTablesRecieved,
        h.currentDate.trans hcourse.currentDate⟩
      frame := fun t ht => by
        rw [hlabel] at ht
        rw [hframe]
        exact hm.frame t ht
      idle := fun hidle => hm.idle fun t => by
        rw [← hlabel]
        exact hidle t }

theorem press (hs : s.Serial api c₀ log) (key : ProgrammeKey) : (s.press key).Serial api c₀ log :=
  hs.of_same (fun _ => rfl) le_rfl ⟨rfl,rfl,rfl,rfl,rfl,rfl,rfl⟩ fun h => ⟨h,rfl⟩

theorem begins (hs : s.Serial api c₀ log) {sec : CarriedSection}
    (hdelivers : s.Delivers api (.begins sec)) :
    { s with callback := .arrived sec }.Serial api c₀ log := by
  refine hs.of_same (fun _ => rfl) le_rfl ⟨rfl,rfl,rfl,rfl,rfl,rfl,rfl⟩ fun h => ⟨⟨h.1,?_⟩,rfl⟩
  rintro sec' ⟨⟩
  obtain ⟨fl,hfl,-,htableId⟩ := hdelivers
  rw [htableId]
  exact h.1 fl hfl

theorem signals (hs : s.Serial api c₀ log) :
    { s with
      callback := .idle
      caller := fun t => { s.caller t with demuxCond := (s.caller t).demuxCond.signal } }.Serial
      api c₀ log := by
  refine hs.of_same (fun _ => rfl) le_rfl ⟨rfl,rfl,rfl,rfl,rfl,rfl,rfl⟩ fun h => ⟨⟨h.1,?_⟩,rfl⟩
  rintro sec ⟨⟩

theorem blocks (hs : s.Serial api c₀ log) (t : Caller) :
    (s.withCaller t { s.caller t with demuxCond := .blocked }).Serial api c₀ log := by
  refine hs.of_same (fun t' => ?_) le_rfl ⟨rfl,rfl,rfl,rfl,rfl,rfl,rfl⟩ fun h => ⟨h,rfl⟩
  by_cases ht : t' = t
  · rw [ht,withCaller_caller_self]
  · rw [withCaller_caller_of_ne s _ ht]

theorem parses (hs : s.Serial api c₀ log) {sec : CarriedSection} (harrived : s.callback = .arrived sec)
    (h : s.parses sec = some s') : s'.Serial api c₀ log := by
  rw [Tuning.parses] at h
  cases hrun : run sec.bytes (sectionReceivedCallback s.controller.tables) with
  | error e =>
    rw [hrun] at h
    cases h
  | ok r =>
    rw [hrun] at h
    cases h
    obtain ⟨hpat,-⟩ := sectionReceivedCallback_tables hrun
    refine hs.of_same (fun t => ?_) le_rfl ⟨rfl,rfl,rfl,rfl,rfl,rfl,rfl⟩ fun hsettled => ⟨⟨hsettled.1,?_⟩,?_⟩
    · change (record s.caller sec t).frame = _
      rw [record]
      split <;> rfl
    · intro sec' hsec'
      change (if r.1 then Callback.signalling else .idle) = .arrived sec' at hsec'
      split at hsec' <;> cases hsec'
    · exact hpat.trans (if_neg (hsettled.2 sec harrived))

theorem of_moved (hs : s.Serial api c₀ log) {log' : List ChannelInfo}
    (halone : ∀ t', t' ≠ t → (s.label t').active = false)
    (hother : ∀ t', t' ≠ t → s'.label t' = s.label t') (hexpiries : s'.expiries = s.expiries)
    (hborn : ∀ n, t = .keyTimer n → n < s.expiries) (hbooted : s'.label t ≠ .setPatFilter)
    (hmirrored : ∀ tables : SectionTables,
      (s'.PatSettled api → tables.patTable = s'.controller.tables.patTable) →
      ∃ actions,
        let c := runActions api (boot c₀) actions
        SameCourse c.controller s'.controller ∧ c.frame = (s'.caller t).frame ∧
          c.controller.tables.patTable = tables.patTable ∧
          (c.frame.label = .scan → c.controller.tables.pmtTable = tables.pmtTable) ∧
          (c.frame.label = .storeDate → c.controller.tables.tdtTable = tables.tdtTable) ∧
          storedChannels api (boot c₀) actions = log')
    (hincall : (s'.label t).inCall) : s'.Serial api c₀ log' := by
  have hone {t' : Caller} (h : (s'.label t').active) : t' = t := by
    by_contra ht
    rw [hother t' ht,halone t' ht] at h
    cases h
  constructor
  case booted =>
    intro t'
    by_cases ht : t' = t
    · rw [ht]
      exact hbooted
    · rw [hother t' ht]
      exact hs.booted t'
  case unborn =>
    intro n hn
    rw [hexpiries] at hn
    have ht : Caller.keyTimer n ≠ t := fun ht => absurd (hborn n ht.symm) (Nat.not_lt.2 hn)
    rw [hother _ ht]
    exact halone _ ht
  case single =>
    intro t₁ t₂ h₁ h₂
    rw [hone h₁,hone h₂]
  case mirrored =>
    intro tables htables
    obtain ⟨actions,hcourse,hframe,hpat,hpmt,htdt,hlog⟩ := hmirrored tables htables
    refine ⟨actions,⟨hcourse,fun t' ht' => ?_,fun hidle => ?_,hpat,hpmt,htdt⟩,hlog⟩
    · rw [hone ht']
      exact hframe
    · have hinactive := hidle t
      rw [Label.active,hincall] at hinactive
      rw [hframe]
      change (s'.label t).idle
      simpa using hinactive

theorem calls (hs : s.Serial api c₀ log) (hinactive : ∀ t, (s.label t).active = false)
    (hborn : ∀ n, t = .keyTimer n → n < s.expiries) (channelNumber : Int32) :
    (s.calls t channelNumber).Serial api c₀ log := by
  have hself : (s.calls t channelNumber).label t = .freeFilter := by
    rw [label,Tuning.calls,withCaller_caller_self]
    rfl
  have hother (t' : Caller) (ht : t' ≠ t) : (s.calls t channelNumber).label t' = s.label t' := by
    rw [label,Tuning.calls,withCaller_caller_of_ne s _ ht,label]
  refine hs.of_moved (fun t' _ => hinactive t') hother rfl hborn ?_ (fun tables htables => ?_) ?_
  · rw [hself]
    decide
  · obtain ⟨actions,hm,hlog⟩ := hs.mirrored tables htables
    have hcalled : runActions api (boot c₀) (actions ++ [.call channelNumber]) =
        startChannel (runActions api (boot c₀) actions).controller channelNumber := by
      rw [runActions_append]
      exact if_pos (hm.idle hinactive)
    refine ⟨actions ++ [.call channelNumber],?_⟩
    rw [storedChannels_concat,hcalled]
    refine ⟨hm.course,?_,hm.pat,?_,?_,?_⟩
    · rw [Tuning.calls,withCaller_caller_self]
      rfl
    · rintro ⟨⟩
    · rintro ⟨⟩
    · exact (List.append_nil _).trans hlog
  · rw [hself]
    rfl

theorem patSettled_statement (ha : api.Lawful) (hbooted : s.label t ≠ .setPatFilter)
    (h : s.PatSettled api) : (s.statement api t).PatSettled api := by
  refine ⟨fun fl hfl => ?_,h.2⟩
  rcases step_filters_tableId ha s.controller.tables.arrival (c := s.config t) hbooted hfl with
    hfl | hid
  · exact h.1 fl hfl
  · exact hid

theorem patSettled_set (ha : api.Lawful) (hs : s.Serial api c₀ log) (hc₀ : c₀.Fresh api)
    (hactive : (s.label t).active) (hl : s.label t = .setPmtFilter)
    (hcallback : ∀ sec, s.callback = .arrived sec → sec.bytes 0 ≠ 0x00) : s.PatSettled api := by
  refine ⟨fun fl hfl => ?_,hcallback⟩
  obtain ⟨actions,hm,-⟩ := hs.mirrored s.controller.tables fun _ => rfl
  -- what the single thread owns at this label
  have howns := runActions_owns ha actions (boot_owns hc₀)
  have hgone : (runActions api (boot c₀) actions).frame.label.filterGone := by
    rw [hm.frame t hactive]
    change (s.label t).filterGone
    rw [hl]
    rfl
  have hempty := howns.filters_empty hgone
  rw [hm.course.device] at hempty
  rw [hempty] at hfl
  exact absurd hfl (Set.notMem_empty fl)

theorem statement_patTable (api : TdpApi D) (s : Tuning D) (t : Caller) (hin : (s.label t).inCall) :
    (s.statement api t).controller.tables.patTable = s.controller.tables.patTable :=
  (step_callStep api (s.config t) s.controller.tables.arrival hin).patTable

/-- A statement of the one call in progress, mirrored by the same statement of the single
thread.  What the statement reads has been chosen to be what is there now. -/
theorem statement (ha : api.Lawful) (hs : s.Serial api c₀ log) (hc₀ : c₀.Fresh api)
    (hactive : (s.label t).active)
    (hone : s.label t = .setPmtFilter → ∀ sec, s.callback = .arrived sec → sec.bytes 0 ≠ 0x00) :
    (s.statement api t).Serial api c₀ (log ++ s.stores api (.advance t)) := by
  have hin : (s.config t).frame.label.inCall := (Bool.and_eq_true_iff.1 hactive).1
  have hstep := step_callStep api (s.config t) s.controller.tables.arrival hin
  have hpat := statement_patTable api s t hin
  have hother (t' : Caller) (ht : t' ≠ t) : (s.statement api t).label t' = s.label t' := by
    rw [label,statement_caller_of_ne api s ht,label]
  have halone (t' : Caller) (ht : t' ≠ t) : (s.label t').active = false := by
    by_contra h
    exact ht (hs.single t' t (eq_true_of_ne_false h) hactive)
  have hborn (n : ℕ) (ht : t = .keyTimer n) : n < s.expiries := by
    by_contra hn
    have hinactive := hs.unborn n (Nat.le_of_not_lt hn)
    rw [← ht,hactive] at hinactive
    cases hinactive
  have hin' : ((s.statement api t).label t).inCall := by
    rw [statement_label]
    exact hstep.inCall
  refine hs.of_moved halone hother rfl hborn ?_ (fun tables htables => ?_) hin'
  · intro hset
    rw [hset] at hin'
    cases hin'
  rw [hpat] at htables
  have hkept : s.PatSettled api → tables.patTable = s.controller.tables.patTable :=
    fun h => htables (patSettled_statement ha (hs.booted t) h)
  let now : SectionTables :=
    ⟨tables.patTable,s.controller.tables.pmtTable,s.controller.tables.tdtTable,tables.totTable⟩
  obtain ⟨actions,hm,hlog⟩ := hs.mirrored now hkept
  have hframe : (runActions api (boot c₀) actions).frame = (s.config t).frame := hm.frame t hactive
  have hreads : ReadsSame (runActions api (boot c₀) actions).frame.label
      (runActions api (boot c₀) actions).controller.tables (s.config t).controller.tables := by
    refine ⟨fun hl => ?_,hm.pmt,hm.tdt⟩
    rw [hframe] at hl
    exact hm.pat.trans (hkept (hs.patSettled_set ha hc₀ hactive hl (hone hl)))
  obtain ⟨hcourse,hframe'⟩ := step_sameCourse api hm.course hframe hreads tables.arrival
    s.controller.tables.arrival
  have hin₁ : (runActions api (boot c₀) actions).frame.label.inCall := by
    rw [hframe]
    exact hin
  obtain ⟨hscan,hdate⟩ := step_label_reading api (c := runActions api (boot c₀) actions) tables.arrival
  have hnext : runActions api (boot c₀) (actions ++ [.advance tables.arrival]) =
      TvApp.step api (runActions api (boot c₀) actions) tables.arrival := by
    rw [runActions_append]
    rfl
  refine ⟨actions ++ [.advance tables.arrival],?_⟩
  rw [storedChannels_concat,hnext]
  refine ⟨hcourse,?_,?_,fun hl => ?_,fun hl => ?_,?_⟩
  · rw [hframe']
    exact (congrArg Config.frame (statement_config api s t)).symm
  · exact (step_callStep api _ tables.arrival hin₁).patTable.trans hm.pat
  · simp only [TvApp.step,hscan hl]
    rfl
  · simp only [TvApp.step,hdate hl]
    rfl
  · rw [hlog]
    congr 1
    have hlabel : (runActions api (boot c₀) actions).frame.label = s.label t :=
      congrArg Frame.label hframe
    by_cases hstore : s.label t = .storeChannel
    · rw [stores,if_pos hstore]
      rw [hstore] at hlabel
      simp only [storedBy,hlabel]
      exact congrArg (fun channel => [channel]) hcourse.currentChannel
    · rw [stores,if_neg hstore]
      rw [← hlabel] at hstore
      exact storedBy_of_ne api hstore _

theorem boots (ha : api.Lawful) (hs : s.Serial api c₀ log) (hl : s.label t = .waitPat) :
    (s.statement api t).Serial api c₀ log := by
  have hl' : (s.config t).frame.label = .waitPat := hl
  have hc : TvApp.step api (s.config t) s.controller.tables.arrival = (s.config t).goto .ready := by
    simp only [TvApp.step,hl']
    rfl
  have hself : (s.statement api t).label t = .ready := by
    rw [statement_label,hc]
    rfl
  have hcontroller : (s.statement api t).controller = s.controller := by
    change (TvApp.step api (s.config t) s.controller.tables.arrival).controller = _
    rw [hc]
    rfl
  have hother {t' : Caller} (ht : t' ≠ t) : (s.statement api t).label t' = s.label t' := by
    rw [label,statement_caller_of_ne api s ht,label]
  have hactive (t' : Caller) : ((s.statement api t).label t').active = (s.label t').active := by
    by_cases ht : t' = t
    · rw [ht,hself,hl]
      rfl
    · rw [hother ht]
  have hne {t' : Caller} (h : (s.label t').active) : t' ≠ t := by
    rintro rfl
    rw [hl] at h
    cases h
  constructor
  case booted =>
    intro t'
    by_cases ht : t' = t
    · rw [ht,hself]
      decide
    · rw [hother ht]
      exact hs.booted t'
  case unborn =>
    intro n hn
    rw [hactive]
    exact hs.unborn n hn
  case single =>
    intro t₁ t₂
    rw [hactive,hactive]
    exact hs.single t₁ t₂
  case mirrored =>
    intro tables htables
    rw [hcontroller] at htables
    obtain ⟨actions,hm,hlog⟩ := hs.mirrored tables fun h =>
      htables (patSettled_statement ha (hs.booted t) h)
    refine ⟨actions,?_,hlog⟩
    exact { hm with
      course := hcontroller.symm ▸ hm.course
      frame := fun t' ht' => by
        rw [hactive] at ht'
        rw [statement_caller_of_ne api s (hne ht')]
        exact hm.frame t' ht'
      idle := fun hidle => hm.idle fun t' => by
        rw [← hactive]
        exact hidle t' }

theorem advance (ha : api.Lawful) (hs : s.Serial api c₀ log) (hc₀ : c₀.Fresh api)
    (hone : s.label t = .setPmtFilter → ∀ sec, s.callback = .arrived sec → sec.bytes 0 ≠ 0x00)
    (h : s.advance api t = some s') : s'.Serial api c₀ (log ++ s.stores api (.advance t)) := by
  have hgoes (hidle : (s.label t).idle = false) :
      (s.statement api t).Serial api c₀ (log ++ s.stores api (.advance t)) := by
    cases hactive : (s.label t).active with
    | true => exact hs.statement ha hc₀ hactive hone
    | false =>
      have hl : s.label t = .waitPat := by
        have hboot := hs.booted t
        revert hidle hactive hboot
        cases s.label t <;> decide
      have hnone : s.stores api (.advance t) = [] := if_neg (by rw [hl]; decide)
      rw [hnone,List.append_nil]
      exact hs.boots ha hl
  rw [Tuning.advance] at h
  split at h
  case isTrue hwaits =>
    have hnone : s.stores api (.advance t) = [] := by
      refine if_neg fun hstore => ?_
      rw [hstore] at hwaits
      cases hwaits
    split at h
    case h_1 =>
      cases h
      rw [hnone,List.append_nil]
      exact hs.blocks t
    case h_2 => cases h
    case h_3 =>
      cases h
      refine hgoes ?_
      revert hwaits
      cases s.label t <;> decide
  case isFalse =>
    split at h
    case isTrue => cases h
    case isFalse hidle =>
      cases h
      exact hgoes (eq_false_of_ne_true hidle)

theorem workerCalls (hs : s.Serial api c₀ log) (hnone : s.NoCall) (h : s.workerCalls = some s') :
    s'.Serial api c₀ log := by
  have hinactive := hs.inactive hnone
  rw [Tuning.workerCalls] at h
  split at h
  case h_1 =>
    cases h
    exact hs.calls hinactive (by rintro n ⟨⟩) _
  case h_4 => cases h
  all_goals
    split at h
    · cases h
      have hs' : { s with controller := { s.controller with changeChannel := false } }.Serial api c₀ log :=
        hs.of_same (fun _ => rfl) le_rfl ⟨rfl,rfl,rfl,rfl,rfl,rfl,rfl⟩ fun h => ⟨h,rfl⟩
      exact hs'.calls hinactive (by rintro n ⟨⟩) _
    · cases h

theorem dial (hs : s.Serial api c₀ log) {channelNumber : Int32}
    (hnone : changeChannelKeyAccepts s.controller.tables.patTable.serviceInfoCount channelNumber → s.NoCall) :
    (s.dial channelNumber).Serial api c₀ log := by
  have hs' : { s with expiries := s.expiries+1 }.Serial api c₀ log :=
    hs.of_same (fun _ => rfl) (Nat.le_succ _) ⟨rfl,rfl,rfl,rfl,rfl,rfl,rfl⟩ fun h => ⟨h,rfl⟩
  rw [Tuning.dial]
  split
  case isTrue haccepts =>
    refine hs'.calls (hs.inactive (hnone haccepts)) ?_ channelNumber
    rintro n ⟨⟩
    exact Nat.lt_succ_self _
  case isFalse => exact hs'

theorem step (ha : api.Lawful) (hs : s.Serial api c₀ log) (hc₀ : c₀.Fresh api) {e : TuningEvent}
    (hdelivers : s.Delivers api e) (hone : s.OneAtATime e) (h : s.step api e = some s') :
    s'.Serial api c₀ (log ++ s.stores api e) := by
  cases e with
  | advance t => exact hs.advance ha hc₀ hone h
  | workerCalls =>
    rw [stores,List.append_nil]
    exact hs.workerCalls hone h
  | press key =>
    cases h
    rw [stores,List.append_nil]
    exact hs.press key
  | dial channelNumber =>
    cases h
    rw [stores,List.append_nil]
    exact hs.dial hone
  | begins sec =>
    rw [stores,List.append_nil]
    simp only [Tuning.step] at h
    split at h <;> cases h
    exact hs.begins hdelivers
  | parses =>
    rw [stores,List.append_nil]
    simp only [Tuning.step] at h
    split at h
    case h_1 harrived => exact hs.parses harrived h
    case h_2 => cases h
  | signals =>
    rw [stores,List.append_nil]
    simp only [Tuning.step] at h
    split at h
    case h_1 =>
      cases h
      exact hs.signals
    case h_2 => cases h

theorem initial (api : TdpApi D) (c₀ : Controller D) : (initial api c₀).Serial api c₀ [] := by
  have hworker : (Tuning.initial api c₀).label .worker = .waitPat := by
    change (Config.setFilter api (boot c₀) 0x00 0x00 .waitPat .waitPat).frame.label = .waitPat
    rw [Config.setFilter]
    split <;> rfl
  have hlabel (t : Caller) : (Tuning.initial api c₀).label t = .waitPat ∨
      (Tuning.initial api c₀).label t = .returned := by
    cases t with
    | worker => exact Or.inl hworker
    | keyTimer n => exact Or.inr rfl
  have hinactive (t : Caller) : ((Tuning.initial api c₀).label t).active = false := by
    rcases hlabel t with h | h <;> rw [h] <;> rfl
  constructor
  case booted =>
    intro t
    rcases hlabel t with h | h <;> rw [h] <;> decide
  case unborn => exact fun n _ => hinactive _
  case single =>
    intro t t' ht
    rw [hinactive] at ht
    cases ht
  case mirrored =>
    -- the single thread leaves its wait at once, with the tables asked for
    intro tables _
    have hwait : (TvApp.step api (boot c₀) c₀.tables.arrival).frame.label = .waitPat := hworker
    have hrun : runActions api (boot c₀) [.advance c₀.tables.arrival,.advance tables.arrival] =
        (((TvApp.step api (boot c₀) c₀.tables.arrival).wake tables.arrival).withPatTable
          tables.patTable).goto .ready := by
      change TvApp.step api (TvApp.step api (boot c₀) c₀.tables.arrival) tables.arrival = _
      rw [TvApp.step.eq_def api (TvApp.step api (boot c₀) c₀.tables.arrival)]
      simp only [hwait]
      rfl
    have hstored : storedChannels api (boot c₀)
        [.advance c₀.tables.arrival,.advance tables.arrival] = [] := by
      have hfirst : (boot c₀).frame.label ≠ .storeChannel := Label.noConfusion
      have hsecond : (act api (boot c₀) (.advance c₀.tables.arrival)).frame.label ≠ .storeChannel := by
        rw [act,hwait]
        decide
      rw [storedChannels,emitted,emitted,emitted,storedBy_of_ne api hfirst,storedBy_of_ne api hsecond]
      rfl
    refine ⟨[.advance c₀.tables.arrival,.advance tables.arrival],?_,hstored⟩
    rw [hrun]
    refine ⟨⟨rfl,rfl,rfl,rfl,rfl,rfl,rfl⟩,fun t ht => ?_,fun _ => rfl,rfl,?_,?_⟩
    · rw [hinactive] at ht
      cases ht
    · rintro ⟨⟩
    · rintro ⟨⟩

end Serial
/-- Interleavings of the threads and of a demultiplexer as assumed, in which calls come one
at a time, with the channels stored on the way. -/
theorem reach_serial (ha : api.Lawful) (hc₀ : c₀.Fresh api)
    (h : Reach (logged (step api) (stores api)) (fun p e => p.1.Delivers api e ∧ p.1.OneAtATime e)
      (initial api c₀,[]) (s,log)) : s.Serial api c₀ log := by
  refine h.invariant (I := fun p => p.1.Serial api c₀ p.2) (Serial.initial api c₀) ?_
  intro p p' e hs hallowed hstep
  obtain ⟨hnext,hlog⟩ := logged_eq_some.1 hstep
  rw [hlog]
  exact hs.step ha hc₀ hallowed.1 hallowed.2 hnext

/-- In every interleaving of the worker, the threads of the key timer and the callback in
which calls do not overlap and no PAT section is being parsed when one sets its filter,
there is a run of a single thread that stores the same channels in the same order, has the
same device, handles, current channel and date, and stands at the same statement of the
same call with the same local variables, or is free for the next call. -/
theorem interleaving_is_single_threaded (ha : api.Lawful) (hc₀ : c₀.Fresh api)
    (h : Reach (logged (step api) (stores api)) (fun p e => p.1.Delivers api e ∧ p.1.OneAtATime e)
      (initial api c₀,[]) (s,log)) :
    ∃ actions,
      let c := runActions api (boot c₀) actions
      storedChannels api (boot c₀) actions = log ∧ SameCourse c.controller s.controller ∧
        (∀ t, (s.label t).active → c.frame = (s.caller t).frame) ∧
        ((∀ t, (s.label t).active = false) → c.frame.label.idle) := by
  obtain ⟨actions,hm,hlog⟩ := (reach_serial ha hc₀ h).mirrored s.controller.tables fun _ => rfl
  exact ⟨actions,hlog,hm.course,hm.frame,hm.idle⟩

theorem Serial.owns (ha : api.Lawful) (hc₀ : c₀.Fresh api) (hs : s.Serial api c₀ log) :
    (∀ kind, Owned PlayerStream.handle (api.live kind s.controller.device)
      (s.controller.streamHandle kind)) ∧
    Owned SectionFilter.handle (api.filters s.controller.device) s.controller.filterHandle := by
  obtain ⟨actions,hm,-⟩ := hs.mirrored s.controller.tables fun _ => rfl
  have howns := runActions_owns ha actions (boot_owns hc₀)
  refine ⟨fun kind => ?_,?_⟩
  · rw [← hm.course.device,← hm.course.streamHandle]
    exact howns.stream kind
  · rw [← hm.course.device,← hm.course.filterHandle]
    exact howns.filter

theorem Serial.plays (ha : api.Lawful) (hc₀ : c₀.Fresh api) (hs : s.Serial api c₀ log)
    (hselected : ∀ t, (s.label t).selected = false) :
    Plays api s.controller (log.foldl Watched.tune .nothing) := by
  obtain ⟨actions,hm,hlog⟩ := hs.mirrored s.controller.tables fun _ => rfl
  have hl : (runActions api (boot c₀) actions).frame.label.selected = false := by
    by_cases hactive : ∃ t, (s.label t).active
    · obtain ⟨t,ht⟩ := hactive
      rw [hm.frame t ht]
      exact hselected t
    · have hidle := hm.idle fun t => eq_false_of_ne_true fun ht => hactive ⟨t,ht⟩
      revert hidle
      cases (runActions api (boot c₀) actions).frame.label <;> decide
  have hplays := (runActions_onAir ha hc₀ actions).plays hl
  rw [hlog] at hplays
  exact hplays.congr (congrArg api.streams hm.course.device.symm) fun kind =>
    (hm.course.streamHandle kind).symm

/-- In these interleavings at most one stream of each kind and one filter are alive at every
point, with their handles in the variables; and while no call is between its scan and its
store, the streams are those of the channels stored so far, in the order of the stores on
all threads. -/
theorem interleaved_streams_are_those_watched (ha : api.Lawful) (hc₀ : c₀.Fresh api)
    (h : Reach (logged (step api) (stores api)) (fun p e => p.1.Delivers api e ∧ p.1.OneAtATime e)
      (initial api c₀,[]) (s,log)) :
    (∀ kind, Owned PlayerStream.handle (api.live kind s.controller.device)
      (s.controller.streamHandle kind)) ∧
    Owned SectionFilter.handle (api.filters s.controller.device) s.controller.filterHandle ∧
    ((∀ t, (s.label t).selected = false) →
      LiveIs api s.controller videoTypeMpeg2
        (log.getLast?.bind fun channel => pidOption channel.videoPid) ∧
      LiveIs api s.controller audioTypeMpegAudio
        (log.filterMap fun channel => pidOption channel.audioPid).getLast?) := by
  have hs := reach_serial ha hc₀ h
  obtain ⟨hstream,hfilter⟩ := hs.owns ha hc₀
  refine ⟨hstream,hfilter,fun hselected => ?_⟩
  have hplays := hs.plays ha hc₀ hselected
  rw [← Watched.foldl_tune_video,← Watched.foldl_tune_audio]
  exact ⟨hplays videoTypeMpeg2,hplays audioTypeMpegAudio⟩

instance (s : Tuning D) : DecidablePred s.OneAtATime
  | .advance t =>
    match hcallback : s.callback with
    | .arrived sec => decidable_of_iff (s.label t = .setPmtFilter → sec.bytes 0 ≠ 0x00)
        ⟨fun h hl sec' hsec' => by cases hcallback.symm.trans hsec'; exact h hl,
          fun h hl => h hl sec hcallback⟩
    | .idle => isTrue fun _ sec hsec => by cases hcallback.symm.trans hsec
    | .signalling => isTrue fun _ sec hsec => by cases hcallback.symm.trans hsec
  | .workerCalls => inferInstanceAs (Decidable s.NoCall)
  | .dial n => inferInstanceAs (Decidable (changeChannelKeyAccepts _ n → s.NoCall))
  | .press _ | .begins _ | .parses | .signals => isTrue trivial

/-- The first programme is started, and the PMT is replaced between the wait and the scan of
the call. -/
def replacedMeanwhile : List TuningEvent :=
  List.flatten [firstCall,received (pmtArrives 0x100),statements .worker 1,
    [.begins (pmtArrives 0x100),.press .channelUp,.parses],statements .worker 8]

theorem replacedMeanwhile_reach :
    ∃ s : Tuning ReferenceDevice, s.label .worker = .testTimeTables ∧ s.expiries = 0 ∧
      Reach (logged (step referenceApi) (stores referenceApi))
        (fun p e => p.1.Delivers referenceApi e ∧ p.1.OneAtATime e) (start,[])
        (s,[⟨1,0x101,0x100⟩]) := by
  have hend : (follow (logged (step referenceApi) (stores referenceApi)) (start,[])
      replacedMeanwhile).map (fun p => (p.1.label .worker,p.1.expiries,p.2)) =
        some (.testTimeTables,0,[⟨1,0x101,0x100⟩]) := by decide +kernel
  have heach : Each (fun p e => p.1.Delivers referenceApi e ∧ p.1.OneAtATime e)
      (logged (step referenceApi) (stores referenceApi)) (start,[]) replacedMeanwhile := by
    decide +kernel
  obtain ⟨⟨s,log⟩,hs,hthree⟩ := Option.map_eq_some_iff.1 hend
  obtain ⟨hlabel,htwo⟩ := Prod.mk.inj hthree
  obtain ⟨hexpiries,rfl⟩ := Prod.mk.inj htwo
  exact ⟨s,hlabel,hexpiries,Reach.start.of_each replacedMeanwhile heach hs⟩

theorem replacedMeanwhile_single_threaded :
    ∃ (s : Tuning ReferenceDevice) (actions : List Action),
      let c := runActions referenceApi (boot (Controller.initial (ReferenceDevice.new []) 0)) actions
      s.label .worker = .testTimeTables ∧ c.frame = (s.caller .worker).frame ∧
        SameCourse c.controller s.controller := by
  obtain ⟨s,hlabel,-,h⟩ := replacedMeanwhile_reach
  obtain ⟨actions,-,hcourse,hframe,-⟩ := interleaving_is_single_threaded referenceApi_lawful
    (Controller.initial_fresh [] 0) h
  exact ⟨s,actions,hlabel,hframe .worker (by rw [hlabel]; rfl),hcourse⟩

theorem replacedMeanwhile_streams_watched :
    ∃ s : Tuning ReferenceDevice, s.label .worker = .testTimeTables ∧
      LiveIs referenceApi s.controller videoTypeMpeg2 (some 0x100) ∧
      LiveIs referenceApi s.controller audioTypeMpegAudio (some 0x101) := by
  obtain ⟨s,hlabel,hexpiries,h⟩ := replacedMeanwhile_reach
  have hserial := reach_serial referenceApi_lawful (Controller.initial_fresh [] 0) h
  have hselected (t : Caller) : (s.label t).selected = false := by
    cases t with
    | worker =>
      rw [hlabel]
      rfl
    | keyTimer n =>
      have hinactive := hserial.unborn n (by rw [hexpiries]; exact Nat.zero_le n)
      revert hinactive
      cases s.label (.keyTimer n) <;> decide
  obtain ⟨-,-,hstreams⟩ := interleaved_streams_are_those_watched referenceApi_lawful
    (Controller.initial_fresh [] 0) h
  exact ⟨s,hlabel,hstreams hselected⟩

end Tuning
end TvApp

import TvApp.HandleOwner
import TvApp.ReferenceDevice

/-! Which handle variable owns what, at every statement of a run.
The invariant is an instance of `Owned` for each handle variable, and says in
addition at which statements nothing can be alive behind a variable: those
between a remove or free call and the next create or set call.  The video and the
audio variable are treated together, by the kind of their streams. -/
namespace TvApp

open Routine StreamKind

variable {D : Type}

namespace TdpApi

variable {api : TdpApi D}

def live (api : TdpApi D) (kind : StreamKind) (d : D) : Set PlayerStream :=
  {st ∈ api.streams d | st.kind = kind}

theorem live_congr {d d' : D} (h : api.streams d' = api.streams d) (kind : StreamKind) :
    api.live kind d' = api.live kind d := by
  simp only [live,h]

theorem Lawful.live_remove (ha : api.Lawful) (kind : StreamKind) (d : D) (h : ℕ) :
    api.live kind (api.playerStreamRemove d h) = {st ∈ api.live kind d | st.handle ≠ h} := by
  ext st
  simp only [live,ha.remove,Set.mem_ofPred_eq]
  tauto

theorem Lawful.create_some (ha : api.Lawful) {kind : StreamKind} {d : D} {pid : Int16} {h : ℕ}
    (hh : (api.playerStreamCreate d pid kind).1 = some h) :
    h ≠ 0 ∧ (∀ st ∈ api.streams d, st.handle ≠ h) ∧
      api.streams (api.playerStreamCreate d pid kind).2 = insert ⟨h,pid,kind⟩ (api.streams d) := by
  obtain ⟨g,hg,hcreated⟩ := ha.create d pid kind
  have hgh : g = h := Option.some.inj (hg.symm.trans hh)
  exact hgh ▸ hcreated

theorem live_insert {st : PlayerStream} {d d' : D}
    (h : api.streams d' = insert st (api.streams d)) (kind : StreamKind) :
    api.live kind d' = if st.kind = kind then insert st (api.live kind d) else api.live kind d := by
  split
  · rename_i hk
    ext r
    simp only [live,h,Set.mem_ofPred_eq,Set.mem_insert_iff]
    constructor
    · rintro ⟨rfl | hr,hrk⟩
      · exact Or.inl rfl
      · exact Or.inr ⟨hr,hrk⟩
    · rintro (rfl | ⟨hr,hrk⟩)
      · exact ⟨Or.inl rfl,hk⟩
      · exact ⟨Or.inr hr,hrk⟩
  · rename_i hk
    ext r
    simp only [live,h,Set.mem_ofPred_eq,Set.mem_insert_iff]
    constructor
    · rintro ⟨rfl | hr,hrk⟩
      · exact absurd hrk hk
      · exact ⟨hr,hrk⟩
    · rintro ⟨hr,hrk⟩
      exact ⟨Or.inr hr,hrk⟩

theorem Lawful.create_ne_none (ha : api.Lawful) (d : D) (pid : Int16) (kind : StreamKind) :
    (api.playerStreamCreate d pid kind).1 ≠ none := by
  obtain ⟨h,hh,-⟩ := ha.create d pid kind
  simp [hh]

end TdpApi

def Controller.streamHandle (s : Controller D) : StreamKind → ℕ
  | videoTypeMpeg2 => s.streamHandleV
  | audioTypeMpegAudio => s.streamHandleA

def Config.withStreamHandle (c : Config D) (kind : StreamKind) (h : ℕ) : Config D :=
  match kind with
  | videoTypeMpeg2 => c.withStreamHandleV h
  | audioTypeMpegAudio => c.withStreamHandleA h

namespace Config

variable (c : Config D) (kind : StreamKind) (h : ℕ) (l : Label)

@[simp] theorem withStreamHandle_device :
    (c.withStreamHandle kind h).controller.device = c.controller.device := by
  cases kind <;> rfl

@[simp] theorem withStreamHandle_filterHandle :
    (c.withStreamHandle kind h).controller.filterHandle = c.controller.filterHandle := by
  cases kind <;> rfl

@[simp] theorem withStreamHandle_self :
    (c.withStreamHandle kind h).controller.streamHandle kind = h := by
  cases kind <;> rfl

theorem withStreamHandle_other {other : StreamKind} (hne : other ≠ kind) :
    (c.withStreamHandle kind h).controller.streamHandle other = c.controller.streamHandle other := by
  cases kind <;> cases other <;> first | rfl | exact absurd rfl hne

theorem withStreamHandle_same (hh : c.controller.streamHandle kind = h) :
    c.withStreamHandle kind h = c := by
  subst hh
  cases kind <;> rfl

@[simp] theorem withDevice_device (d : D) : (c.withDevice d).controller.device = d := rfl

@[simp] theorem withDevice_streamHandle (d : D) :
    (c.withDevice d).controller.streamHandle kind = c.controller.streamHandle kind := by
  cases kind <;> rfl

@[simp] theorem withDevice_filterHandle (d : D) :
    (c.withDevice d).controller.filterHandle = c.controller.filterHandle := rfl

@[simp] theorem goto_controller : (c.goto l).controller = c.controller := rfl

@[simp] theorem goto_label : (c.goto l).frame.label = l := rfl

end Config

def Label.gone : StreamKind → Label → Bool
  | videoTypeMpeg2,.zeroVideo | videoTypeMpeg2,.createVideo => true
  | videoTypeMpeg2,.zeroDroppedVideo | videoTypeMpeg2,.clearScreen => true
  | audioTypeMpegAudio,.zeroAudio | audioTypeMpegAudio,.createAudio => true
  | _,_ => false

def Label.filterGone : Label → Bool
  | .setPatFilter | .setPmtFilter | .setTdtFilter | .setTotFilter => true
  | _ => false

def Label.stale : StreamKind → Label → Bool
  | videoTypeMpeg2,.zeroVideo | videoTypeMpeg2,.zeroDroppedVideo => true
  | audioTypeMpegAudio,.zeroAudio => true
  | _,_ => false

/-- No variable is about to be overwritten. -/
def Label.plain (l : Label) : Bool :=
  !(l.gone videoTypeMpeg2 || l.gone audioTypeMpegAudio || l.filterGone)

/-- No removal has just been made. -/
def Label.settled (l : Label) : Bool := !(l.stale videoTypeMpeg2 || l.stale audioTypeMpegAudio)

namespace Label

theorem gone_of_plain {l : Label} (h : l.plain) (kind : StreamKind) : l.gone kind = false := by
  simp only [plain,Bool.not_eq_true',Bool.or_eq_false_iff] at h
  cases kind with
  | videoTypeMpeg2 => exact h.1.1
  | audioTypeMpegAudio => exact h.1.2

theorem filterGone_of_plain {l : Label} (h : l.plain) : l.filterGone = false := by
  simp only [plain,Bool.not_eq_true',Bool.or_eq_false_iff] at h
  exact h.2

theorem stale_of_settled {l : Label} (h : l.settled) (kind : StreamKind) : l.stale kind = false := by
  simp only [settled,Bool.not_eq_true',Bool.or_eq_false_iff] at h
  cases kind with
  | videoTypeMpeg2 => exact h.1
  | audioTypeMpegAudio => exact h.2

end Label

/-- The invariant.  A variable is overwritten only at a label where nothing alive has
the handle it holds; and outside the labels right after a removal a nonzero variable
has its stream alive. -/
structure Owns (api : TdpApi D) (c : Config D) : Prop where
  stream : ∀ kind, Owned PlayerStream.handle (api.live kind c.controller.device)
    (c.controller.streamHandle kind)
  /-- Removing a stream leaves the stream of the other kind alone. -/
  distinct : ∀ st ∈ api.streams c.controller.device, ∀ st' ∈ api.streams c.controller.device,
    st.kind ≠ st'.kind → st.handle ≠ st'.handle
  filter : Owned SectionFilter.handle (api.filters c.controller.device) c.controller.filterHandle
  gone : ∀ kind, c.frame.label.gone kind →
    ∀ st ∈ api.streams c.controller.device, st.handle ≠ c.controller.streamHandle kind
  filterGone : c.frame.label.filterGone →
    ∀ fl ∈ api.filters c.controller.device, fl.handle ≠ c.controller.filterHandle
  held : ∀ kind, c.frame.label.stale kind = false → c.controller.streamHandle kind = 0 ∨
    (api.live kind c.controller.device).Nonempty

namespace Owns

variable {api : TdpApi D} {c : Config D}

theorem live_empty (h : Owns api c) {kind : StreamKind} (hl : c.frame.label.gone kind) :
    api.live kind c.controller.device = ∅ :=
  (h.stream kind).eq_empty fun st hst => h.gone kind hl st hst.1

theorem filters_empty (h : Owns api c) (hl : c.frame.label.filterGone) :
    api.filters c.controller.device = ∅ :=
  h.filter.eq_empty (h.filterGone hl)

theorem handle_ne_zero (h : Owns api c) : ∀ st ∈ api.streams c.controller.device, st.handle ≠ 0 :=
  fun st hst => (h.stream st.kind).handle_ne_zero st ⟨hst,rfl⟩

theorem other_kept (h : Owns api c) {kind other : StreamKind} (hne : other ≠ kind)
    (hheld : c.controller.streamHandle kind = 0 ∨ (api.live kind c.controller.device).Nonempty) :
    {st ∈ api.live other c.controller.device | st.handle ≠ c.controller.streamHandle kind} =
      api.live other c.controller.device := by
  apply Set.sep_eq_self_iff_mem_true.mpr
  intro st hst
  rcases hheld with hz | ⟨st',hst'⟩
  · rw [hz]
    exact h.handle_ne_zero st hst.1
  · rw [← (h.stream kind).handle_eq st' hst']
    apply h.distinct st hst.1 st' hst'.1
    rw [hst.2,hst'.2]
    exact hne

theorem move (h : Owns api c) {c' : Config D}
    (hstreams : api.streams c'.controller.device = api.streams c.controller.device)
    (hfilters : api.filters c'.controller.device = api.filters c.controller.device)
    (hhandle : ∀ kind, c'.controller.streamHandle kind = c.controller.streamHandle kind)
    (hF : c'.controller.filterHandle = c.controller.filterHandle)
    (hsettled : c.frame.label.settled) (hplain : c'.frame.label.plain) : Owns api c' := by
  have hlive := TdpApi.live_congr hstreams
  refine ⟨fun kind => ?_,?_,?_,fun kind => ?_,?_,fun kind _ => ?_⟩
  · rw [hhandle,hlive]
    exact h.stream kind
  · rw [hstreams]
    exact h.distinct
  · rw [hF,hfilters]
    exact h.filter
  · simp [Label.gone_of_plain hplain]
  · simp [Label.filterGone_of_plain hplain]
  · rw [hhandle,hlive]
    exact h.held kind (Label.stale_of_settled hsettled kind)

theorem of_same (h : Owns api c) {c' : Config D}
    (hdevice : c'.controller.device = c.controller.device)
    (hhandle : ∀ kind, c'.controller.streamHandle kind = c.controller.streamHandle kind)
    (hfilterHandle : c'.controller.filterHandle = c.controller.filterHandle)
    (hlabel : c'.frame.label = c.frame.label) : Owns api c' where
  stream kind := by
    rw [hdevice,hhandle]
    exact h.stream kind
  distinct := by
    rw [hdevice]
    exact h.distinct
  filter := by
    rw [hdevice,hfilterHandle]
    exact h.filter
  gone kind := by
    rw [hdevice,hhandle,hlabel]
    exact h.gone kind
  filterGone := by
    rw [hdevice,hfilterHandle,hlabel]
    exact h.filterGone
  held kind := by
    rw [hdevice,hhandle,hlabel]
    exact h.held kind

theorem goto (h : Owns api c) {l : Label} (hsettled : c.frame.label.settled) (hplain : l.plain) :
    Owns api (c.goto l) :=
  h.move rfl rfl (fun _ => rfl) rfl hsettled hplain

theorem freeFilter (ha : api.Lawful) (h : Owns api c) {l : Label}
    (hsettled : c.frame.label.settled) (hl : ∀ kind, l.gone kind = false) :
    Owns api ((c.freeFilter api).goto l) := by
  have hstreams := ha.free_streams c.controller.device c.controller.filterHandle
  have hlive := TdpApi.live_congr hstreams
  have hempty : api.filters (api.demuxFreeFilter c.controller.device c.controller.filterHandle) = ∅ :=
    (ha.free _ _).trans h.filter.release
  refine ⟨fun kind => (hlive kind).symm ▸ h.stream kind,hstreams.symm ▸ h.distinct,
    .of_eq_empty hempty _,fun kind => ?_,?_,
    fun kind _ => (hlive kind).symm ▸ h.held kind (Label.stale_of_settled hsettled kind)⟩
  · simp [hl kind]
  · intro _ fl hfl
    have hfl' : fl ∈ (∅ : Set SectionFilter) := hempty ▸ hfl
    exact absurd hfl' (Set.notMem_empty fl)

theorem setFilter (ha : api.Lawful) (h : Owns api c) (pid : UInt16) (tableId : UInt8)
    {ok failed : Label} (hgone : c.frame.label.filterGone) (hsettled : c.frame.label.settled)
    (hok : ok.plain) (hfailed : failed.plain) :
    Owns api (c.setFilter api pid tableId ok failed) := by
  have hempty := h.filters_empty hgone
  have hstreams := ha.set_streams c.controller.device pid tableId
  have hlive := TdpApi.live_congr hstreams
  cases hr : (api.demuxSetFilter c.controller.device pid tableId).1 with
  | some g =>
    obtain ⟨hne,-,hfilters⟩ := ha.set _ _ _ _ hr
    rw [hempty,LawfulSingleton.insert_empty_eq] at hfilters
    have hone : Owned SectionFilter.handle {⟨g,pid,tableId⟩} g := .acquire hne
    rw [Config.setFilter_some hr]
    refine ⟨fun kind => (hlive kind).symm ▸ h.stream kind,hstreams.symm ▸ h.distinct,
      hfilters.symm ▸ hone,fun kind => ?_,?_,
      fun kind _ => (hlive kind).symm ▸ h.held kind (Label.stale_of_settled hsettled kind)⟩
    · simp [Label.gone_of_plain hok]
    · simp [Label.filterGone_of_plain hok]
  | none =>
    rw [Config.setFilter_none hr]
    exact h.move hstreams (ha.set_failed _ _ _ hr) (fun _ => rfl) rfl hsettled hfailed

theorem live_remove (ha : api.Lawful) (h : Owns api c) (kind : StreamKind)
    (hsettled : c.frame.label.settled) :
    let d := api.playerStreamRemove c.controller.device (c.controller.streamHandle kind)
    api.live kind d = ∅ ∧
      ∀ other, other ≠ kind → api.live other d = api.live other c.controller.device := by
  refine ⟨(ha.live_remove kind _ _).trans (h.stream kind).release,fun other hne => ?_⟩
  have hheld := h.held kind (Label.stale_of_settled hsettled kind)
  exact (ha.live_remove other _ _).trans (h.other_kept hne hheld)

theorem live_create (ha : api.Lawful) (h : Owns api c) {kind : StreamKind} {pid : Int16} {g : ℕ}
    (hg : (api.playerStreamCreate c.controller.device pid kind).1 = some g)
    (hgone : c.frame.label.gone kind) :
    let d := (api.playerStreamCreate c.controller.device pid kind).2
    api.live kind d = {⟨g,pid,kind⟩} ∧
      ∀ other, other ≠ kind → api.live other d = api.live other c.controller.device := by
  obtain ⟨-,-,hstreams⟩ := ha.create_some hg
  have hlive := TdpApi.live_insert hstreams
  refine ⟨?_,fun other hne => (hlive other).trans (if_neg hne.symm)⟩
  rw [hlive kind,if_pos rfl,h.live_empty hgone,LawfulSingleton.insert_empty_eq]

theorem removeStream (ha : api.Lawful) (h : Owns api c) (kind : StreamKind) {l : Label}
    (hsettled : c.frame.label.settled) (hstale : l.stale kind)
    (hl : (∀ other, other ≠ kind → l.gone other = false) ∧ l.filterGone = false) :
    Owns api ((c.withDevice
      (api.playerStreamRemove c.controller.device (c.controller.streamHandle kind))).goto l) := by
  have hstreams := ha.remove c.controller.device (c.controller.streamHandle kind)
  obtain ⟨hsame,hother⟩ := h.live_remove ha kind hsettled
  refine ⟨fun k => ?_,?_,(ha.remove_filters _ _).symm ▸ h.filter,fun k hk => ?_,?_,fun k hk => ?_⟩
  · by_cases hne : k = kind
    · subst hne
      exact .of_eq_empty hsame _
    · exact (hother k hne).symm ▸ h.stream k
  · simp only [Config.goto_controller,Config.withDevice_device,hstreams]
    intro st hst st' hst'
    exact h.distinct st hst.1 st' hst'.1
  · by_cases hne : k = kind
    · subst hne
      simp only [Config.goto_controller,Config.withDevice_device,hstreams]
      exact fun st hst => hst.2
    · exact absurd hk (by simp [hl.1 k hne])
  · simp [hl.2]
  · have hne : k ≠ kind := by
      rintro rfl
      exact absurd hstale (by simpa using hk)
    exact (hother k hne).symm ▸ h.held k (Label.stale_of_settled hsettled k)

theorem zeroStream (h : Owns api c) (kind : StreamKind) {l : Label}
    (hempty : api.live kind c.controller.device = ∅)
    (hsettled : ∀ other, other ≠ kind → c.frame.label.stale other = false)
    (hl : (∀ other, other ≠ kind → l.gone other = false) ∧ l.filterGone = false) :
    Owns api ((c.withStreamHandle kind 0).goto l) := by
  refine ⟨fun k => ?_,?_,?_,fun k hk => ?_,?_,fun k _ => ?_⟩
  · by_cases hne : k = kind
    · subst hne
      simpa using .of_eq_empty hempty 0
    · simpa [Config.withStreamHandle_other _ _ _ hne] using h.stream k
  · simpa using h.distinct
  · simpa using h.filter
  · by_cases hne : k = kind
    · subst hne
      simpa using h.handle_ne_zero
    · exact absurd hk (by simp [hl.1 k hne])
  · simp [hl.2]
  · by_cases hne : k = kind
    · subst hne
      exact Or.inl (by simp)
    · simpa [Config.withStreamHandle_other _ _ _ hne] using h.held k (hsettled k hne)

theorem gotoCreate (h : Owns api c) (kind : StreamKind) {l : Label}
    (hzero : c.controller.streamHandle kind = 0) (hsettled : c.frame.label.settled)
    (hl : (∀ other, other ≠ kind → l.gone other = false) ∧ l.filterGone = false) :
    Owns api (c.goto l) := by
  have hempty := (h.stream kind).eq_empty ((h.stream kind).free_of_zero hzero)
  have hz := h.zeroStream kind hempty (fun other _ => Label.stale_of_settled hsettled other) hl
  rwa [Config.withStreamHandle_same c kind 0 hzero] at hz

theorem createStream (ha : api.Lawful) (h : Owns api c) {kind : StreamKind} {l : Label} {pid : Int16}
    {g : ℕ} (hg : (api.playerStreamCreate c.controller.device pid kind).1 = some g)
    (hgone : c.frame.label.gone kind)
    (hsettled : ∀ other, other ≠ kind → c.frame.label.stale other = false) (hl : l.plain) :
    Owns api (((c.withDevice (api.playerStreamCreate c.controller.device pid kind).2
      ).withStreamHandle kind g).goto l) := by
  obtain ⟨hne,hfresh,hstreams⟩ := ha.create_some hg
  obtain ⟨hsame,hother⟩ := h.live_create ha hg hgone
  have hone : Owned PlayerStream.handle {⟨g,pid,kind⟩} g := .acquire hne
  refine ⟨fun k => ?_,?_,?_,fun k => ?_,?_,fun k _ => ?_⟩
  · by_cases hk : k = kind
    · subst hk
      simpa [hsame] using hone
    · simpa [Config.withStreamHandle_other _ _ _ hk,hother k hk] using h.stream k
  · simp only [Config.goto_controller,Config.withStreamHandle_device,Config.withDevice_device,hstreams]
    -- the new stream is fresh, and between the old ones nothing has changed
    rintro st (rfl | hst) st' (rfl | hst') hk
    · exact absurd rfl hk
    · exact (hfresh st' hst').symm
    · exact hfresh st hst
    · exact h.distinct st hst st' hst' hk
  · simpa [ha.create_filters] using h.filter
  · simp [Label.gone_of_plain hl]
  · simp [Label.filterGone_of_plain hl]
  · by_cases hk : k = kind
    · subst hk
      exact Or.inr (by simp [hsame])
    · simpa [Config.withStreamHandle_other _ _ _ hk,hother k hk] using h.held k (hsettled k hk)

end Owns

/-- Statements that call nothing of the device and assign no handle variable. -/
def Label.quiet : Label → Bool
  | .waitPat | .ready | .waitPmt | .scan | .testVideo | .testAudio | .storeChannel => true
  | .testTimeTables | .waitTdt | .waitTot | .storeDate | .setTimeTablesRecieved => true
  | .returned | .filterFailed | .fault | .deinit => true
  | _ => false

theorem Label.settled_of_quiet {l : Label} (h : l.quiet) : l.settled := by
  cases l <;> first | rfl | exact absurd h Bool.false_ne_true

structure Untouched (c c' : Config D) : Prop where
  device : c'.controller.device = c.controller.device
  streamHandle : ∀ kind, c'.controller.streamHandle kind = c.controller.streamHandle kind
  filterHandle : c'.controller.filterHandle = c.controller.filterHandle
  plain : c'.frame.label.plain

theorem step_quiet (api : TdpApi D) (c : Config D) (a : Arrival) (hq : c.frame.label.quiet) :
    Untouched c (step api c a) := by
  cases hl : c.frame.label with
  | scan | testVideo | testAudio | testTimeTables =>
    simp only [step,hl]
    split
    · exact ⟨rfl,fun kind => by cases kind <;> rfl,rfl,rfl⟩
    · exact ⟨rfl,fun kind => by cases kind <;> rfl,rfl,rfl⟩
  | waitPat | waitPmt | storeChannel | waitTdt | waitTot | storeDate | setTimeTablesRecieved =>
    simp only [step,hl]
    exact ⟨rfl,fun kind => by cases kind <;> rfl,rfl,rfl⟩
  | ready | returned | filterFailed | fault | deinit =>
    simp only [step,hl]
    exact ⟨rfl,fun _ => rfl,rfl,by rw [hl]; rfl⟩
  | _ => exact absurd hq (by rw [hl]; decide)

theorem step_owns {api : TdpApi D} (ha : api.Lawful) {c : Config D} (h : Owns api c) (a : Arrival) :
    Owns api (step api c a) := by
  by_cases hq : c.frame.label.quiet
  · have hu := step_quiet api c a hq
    exact h.move (by rw [hu.device]) (by rw [hu.device]) hu.streamHandle hu.filterHandle
      (Label.settled_of_quiet hq) hu.plain
  cases hl : c.frame.label with
  | setPatFilter | setTdtFilter | setTotFilter =>
    simp only [step,hl]
    exact h.setFilter ha _ _ (by rw [hl]; rfl) (by rw [hl]; rfl) rfl rfl
  | setPmtFilter =>
    simp only [step,hl]
    split
    · exact h.setFilter ha _ _ (by rw [hl]; rfl) (by rw [hl]; rfl) rfl rfl
    · exact h.goto (by rw [hl]; rfl) rfl
  | freeFilter | freeForTdt | freeForTot =>
    simp only [step,hl]
    exact h.freeFilter ha (by rw [hl]; rfl) (by decide)
  | testHandleV =>
    simp only [step,hl]
    split
    · exact h.goto (by rw [hl]; rfl) rfl
    · rename_i hzero
      exact h.gotoCreate videoTypeMpeg2 (not_not.mp hzero) (by rw [hl]; rfl) (by decide)
  | removeVideo | dropVideo =>
    simp only [step,hl]
    exact h.removeStream ha videoTypeMpeg2 (by rw [hl]; rfl) rfl (by decide)
  | zeroVideo | zeroDroppedVideo =>
    simp only [step,hl]
    exact h.zeroStream videoTypeMpeg2 (h.live_empty (by rw [hl]; rfl)) (by rw [hl]; decide) (by decide)
  | createVideo =>
    simp only [step,hl]
    cases hr : (api.playerStreamCreate c.controller.device c.frame.videoPid videoTypeMpeg2).1 with
    | none => exact absurd hr (ha.create_ne_none _ _ _)
    | some g => exact h.createStream ha hr (by rw [hl]; rfl) (by rw [hl]; decide) rfl
  | clearScreen =>
    simp only [step,hl]
    exact h.move (ha.clear_streams _) (ha.clear_filters _) (fun kind => by simp) rfl
      (by rw [hl]; rfl) rfl
  | testHandleA =>
    simp only [step,hl]
    split
    · exact h.goto (by rw [hl]; rfl) rfl
    · rename_i hzero
      exact h.gotoCreate audioTypeMpegAudio (not_not.mp hzero) (by rw [hl]; rfl) (by decide)
  | removeAudio =>
    simp only [step,hl]
    exact h.removeStream ha audioTypeMpegAudio (by rw [hl]; rfl) rfl (by decide)
  | zeroAudio =>
    simp only [step,hl]
    exact h.zeroStream audioTypeMpegAudio (h.live_empty (by rw [hl]; rfl)) (by rw [hl]; decide)
      (by decide)
  | createAudio =>
    simp only [step,hl]
    cases hr : (api.playerStreamCreate c.controller.device c.frame.audioPid audioTypeMpegAudio).1 with
    | none => exact absurd hr (ha.create_ne_none _ _ _)
    | some g => exact h.createStream ha hr (by rw [hl]; rfl) (by rw [hl]; decide) rfl
  | _ => exact absurd (by rw [hl]; rfl) hq

theorem Config.setFilter_streamHandle (api : TdpApi D) (c : Config D) (pid : UInt16) (tableId : UInt8)
    (ok failed : Label) (kind : StreamKind) :
    (c.setFilter api pid tableId ok failed).controller.streamHandle kind =
      c.controller.streamHandle kind := by
  simp only [setFilter]
  split
  · cases kind <;> rfl
  · cases kind <;> rfl

theorem step_streamHandle (api : TdpApi D) (c : Config D) (a : Arrival) {kind : StreamKind}
    (hgone : c.frame.label.gone kind = false) :
    (step api c a).controller.streamHandle kind = c.controller.streamHandle kind := by
  by_cases hq : c.frame.label.quiet
  · exact (step_quiet api c a hq).streamHandle kind
  cases hl : c.frame.label with
  | setPatFilter | setTdtFilter | setTotFilter =>
    simp only [step,hl]
    exact Config.setFilter_streamHandle api c _ _ _ _ kind
  | setPmtFilter =>
    simp only [step,hl]
    split
    · exact Config.setFilter_streamHandle api c _ _ _ _ kind
    · rfl
  | zeroVideo | createVideo | zeroDroppedVideo | clearScreen =>
    rw [hl] at hgone
    cases kind with
    | videoTypeMpeg2 => exact absurd hgone (by decide)
    | audioTypeMpegAudio =>
      simp only [step,hl]
      first | rfl | (split <;> rfl)
  | zeroAudio | createAudio =>
    rw [hl] at hgone
    cases kind with
    | videoTypeMpeg2 =>
      simp only [step,hl]
      first | rfl | (split <;> rfl)
    | audioTypeMpegAudio => exact absurd hgone (by decide)
  | freeFilter | freeForTdt | freeForTot | testHandleV | removeVideo | dropVideo | testHandleA
  | removeAudio =>
    simp only [step,hl]
    cases kind <;> rfl
  | _ => exact absurd (by rw [hl]; rfl) hq

theorem step_filterHandle (api : TdpApi D) (c : Config D) (a : Arrival)
    (hgone : c.frame.label.filterGone = false) :
    (step api c a).controller.filterHandle = c.controller.filterHandle := by
  by_cases hq : c.frame.label.quiet
  · exact (step_quiet api c a hq).filterHandle
  cases hl : c.frame.label with
  | setPatFilter | setTdtFilter | setTotFilter | setPmtFilter =>
    rw [hl] at hgone
    exact absurd hgone (by decide)
  | createVideo | createAudio =>
    simp only [step,hl]
    split <;> rfl
  | freeFilter | freeForTdt | freeForTot | testHandleV | removeVideo | zeroVideo | dropVideo
  | zeroDroppedVideo | clearScreen | testHandleA | removeAudio | zeroAudio =>
    simp only [step,hl]
    rfl
  | _ => exact absurd (by rw [hl]; rfl) hq

/-- The static variables and the device before the PAT filter is set: nothing is alive
yet and both stream variables are zero.  The other variables may hold anything. -/
structure Controller.Fresh (api : TdpApi D) (s : Controller D) : Prop where
  streamHandle : ∀ kind, s.streamHandle kind = 0
  streams : api.streams s.device = ∅
  filters : api.filters s.device = ∅

/-- `streamControllerTask` at its `Demux_Set_Filter` for the PAT. -/
def boot (s : Controller D) : Config D := ⟨s,⟨.setPatFilter,0,-1,-1⟩⟩

theorem boot_owns {api : TdpApi D} {s : Controller D} (hs : s.Fresh api) : Owns api (boot s) := by
  have hlive (kind : StreamKind) : api.live kind s.device = ∅ := by
    simp [TdpApi.live,hs.streams]
  refine ⟨fun kind => .of_eq_empty (hlive kind) _,?_,.of_eq_empty hs.filters _,?_,?_,
    fun kind _ => Or.inl (hs.streamHandle kind)⟩
  · simp [boot,hs.streams]
  · simp [boot,hs.streams]
  · simp [boot,hs.filters]

theorem act_owns {api : TdpApi D} (ha : api.Lawful) {c : Config D} (h : Owns api c) (x : Action) :
    Owns api (act api c x) := by
  cases x with
  | advance a => exact step_owns ha h a
  | call n =>
    simp only [act]
    split
    · rename_i hidle
      have hsettled : c.frame.label.settled := by
        cases hl : c.frame.label <;> first | rfl | simp [hl,Label.idle] at hidle
      exact h.move rfl rfl (fun _ => rfl) rfl hsettled rfl
    · exact h

theorem runActions_owns {api : TdpApi D} (ha : api.Lawful) (actions : List Action) {c : Config D}
    (h : Owns api c) : Owns api (runActions api c actions) := by
  induction actions generalizing c with
  | nil => exact h
  | cons x actions ih => exact ih (act_owns ha h x)

theorem act_overwrites {api : TdpApi D} {c : Config D} (h : Owns api c) (x : Action) :
    (∀ kind, (act api c x).controller.streamHandle kind ≠ c.controller.streamHandle kind →
      ∀ st ∈ api.streams c.controller.device, st.handle ≠ c.controller.streamHandle kind) ∧
    ((act api c x).controller.filterHandle ≠ c.controller.filterHandle →
      ∀ fl ∈ api.filters c.controller.device, fl.handle ≠ c.controller.filterHandle) := by
  cases x with
  | advance a =>
    refine ⟨fun kind hne => h.gone kind ?_,fun hne => h.filterGone ?_⟩
    · by_contra hgone
      exact hne (step_streamHandle api c a (by simpa using hgone))
    · by_contra hgone
      exact hne (step_filterHandle api c a (by simpa using hgone))
  | call n =>
    simp only [act]
    split
    · exact ⟨fun kind hne => absurd rfl hne,fun hne => absurd rfl hne⟩
    · exact ⟨fun kind hne => absurd rfl hne,fun hne => absurd rfl hne⟩

/-- At every point of every run from boot at most one stream of each kind and one filter
are alive, their handles are in the variables, and no assignment to a variable loses a
live handle. -/
theorem no_stream_or_filter_leaked {api : TdpApi D} (ha : api.Lawful) {s : Controller D}
    (hs : s.Fresh api) (actions : List Action) :
    let c := runActions api (boot s) actions
    (api.live videoTypeMpeg2 c.controller.device).Subsingleton ∧
    (api.live audioTypeMpegAudio c.controller.device).Subsingleton ∧
    (api.filters c.controller.device).Subsingleton ∧
    (∀ st ∈ api.live videoTypeMpeg2 c.controller.device, st.handle = c.controller.streamHandleV) ∧
    (∀ st ∈ api.live audioTypeMpegAudio c.controller.device, st.handle = c.controller.streamHandleA) ∧
    (∀ fl ∈ api.filters c.controller.device, fl.handle = c.controller.filterHandle) ∧
    ∀ x, let c' := act api c x
      (c'.controller.streamHandleV ≠ c.controller.streamHandleV →
        ∀ st ∈ api.streams c.controller.device, st.handle ≠ c.controller.streamHandleV) ∧
      (c'.controller.streamHandleA ≠ c.controller.streamHandleA →
        ∀ st ∈ api.streams c.controller.device, st.handle ≠ c.controller.streamHandleA) ∧
      (c'.controller.filterHandle ≠ c.controller.filterHandle →
        ∀ fl ∈ api.filters c.controller.device, fl.handle ≠ c.controller.filterHandle) := by
  intro c
  have h : Owns api c := runActions_owns ha actions (boot_owns hs)
  refine ⟨(h.stream videoTypeMpeg2).subsingleton,(h.stream audioTypeMpegAudio).subsingleton,
    h.filter.subsingleton,(h.stream videoTypeMpeg2).handle_eq,(h.stream audioTypeMpegAudio).handle_eq,
    h.filter.handle_eq,fun x => ?_⟩
  obtain ⟨hstream,hfilter⟩ := act_overwrites h x
  exact ⟨hstream videoTypeMpeg2,hstream audioTypeMpegAudio,hfilter⟩

theorem Controller.initial_fresh (failures : List Bool) (programNumber : Int16) :
    (Controller.initial (ReferenceDevice.new failures) programNumber).Fresh referenceApi where
  streamHandle := fun kind => by cases kind <;> rfl
  streams := Set.eq_empty_of_forall_notMem fun st hst => List.not_mem_nil hst
  filters := Set.eq_empty_of_forall_notMem fun fl hfl => List.not_mem_nil hfl

/-- A first call that cannot set its filter, then a service with video and audio whose
TOT filter cannot be set, then one with audio only. -/
def sampleZaps : List Action :=
  let services : List PatServiceInfo := [⟨0,0x10⟩,⟨1,0x100⟩,⟨2,0x200⟩]
  let both := Arrival.ofLists services [⟨0x02,0x101,0⟩,⟨0x03,0x102,0⟩]
  let audio := Arrival.ofLists services [⟨0x04,0x201,0⟩]
  List.replicate 2 (.advance both) ++ .call 0 :: List.replicate 2 (.advance both) ++
    .call 0 :: List.replicate 20 (.advance both) ++ .call 1 :: List.replicate 25 (.advance audio)

theorem sampleZaps_leak_nothing :
    let c := runActions referenceApi
      (boot (Controller.initial (.new [false,true,false,false,true]) 0)) sampleZaps
    c.frame.label = .returned ∧ c.controller.currentChannel = ⟨2,0x201,-1⟩ ∧
      (referenceApi.live audioTypeMpegAudio c.controller.device).Subsingleton ∧
      (referenceApi.filters c.controller.device).Subsingleton := by
  have h := no_stream_or_filter_leaked referenceApi_lawful
    (Controller.initial_fresh [false,true,false,false,true] 0) sampleZaps
  exact ⟨by decide +kernel,by decide +kernel,h.2.1,h.2.2.1⟩

end TvApp

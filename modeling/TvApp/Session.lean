import TvApp.Ledger
import TvApp.StepSystem
import TvApp.StreamOwnership

/-! A session of the stream controller, from the first `malloc` of `streamControllerTask` to
the end of `streamControllerDeinit`.
Every call of the set-up may fail, with an error path of its own; in between is a
single-threaded run of `startChannel`s; main may call `streamControllerDeinit` at any time,
and finds the module initialized or not.  What is held at the end is what was leaked. -/
namespace TvApp

variable {D : Type}

/-- What `streamControllerTask` acquires before the PAT filter. -/
inductive Resource
  | patTable | pmtTable | tdtTable | totTable | statusMutex | tuner | player | source
  deriving DecidableEq, Repr

/-- The calls of the set-up that matter for the ledger, in order. -/
inductive SetUpPc
  | mallocPatTable | mallocPmtTable | mallocTdtTable | mallocTotTable
  | tunerInit | tunerLockToFrequency | statusMutexLock | waitForLock
  | playerInit | playerSourceOpen
  deriving DecidableEq, Repr

inductive SessionPc
  | settingUp (pc : SetUpPc)
  /-- From the PAT filter to the end of the worker loop. -/
  | serving
  /-- The task has returned `SC_ERROR`. -/
  | failed
  /-- `streamControllerDeinit` has returned to main. -/
  | closed
  deriving DecidableEq, Repr

structure Session (D : Type) where
  place : SessionPc
  ledger : Ledger Resource
  isInitialized : Bool
  config : Config D

inductive SessionEvent
  | succeeds
  | fails
  | act (x : Action)
  /-- `isInitialized = true`, after the first channel. -/
  | initialized
  | deinit

def freeTables : List Resource := [.patTable,.pmtTable,.tdtTable,.totTable]

/-- `Player_Source_Close`, `Player_Deinit`, `Tuner_Deinit` and the calls of `free`. -/
def deinitCalls : List Resource := [.source,.player,.tuner] ++ freeTables

namespace SetUpPc

def success (l : Ledger Resource) : SetUpPc → Ledger Resource
  | mallocPatTable => l.acquire .patTable
  | mallocPmtTable => l.acquire .pmtTable
  | mallocTdtTable => l.acquire .tdtTable
  | mallocTotTable => l.acquire .totTable
  | tunerInit => l.acquire .tuner
  | tunerLockToFrequency => l
  | statusMutexLock => l.acquire .statusMutex
  -- with `pthread_mutex_unlock` right after it
  | waitForLock => l.release .statusMutex
  | playerInit => l.acquire .player
  | playerSourceOpen => l.acquire .source

def next : SetUpPc → SessionPc
  | mallocPatTable => .settingUp mallocPmtTable
  | mallocPmtTable => .settingUp mallocTdtTable
  | mallocTdtTable => .settingUp mallocTotTable
  | mallocTotTable => .settingUp tunerInit
  | tunerInit => .settingUp tunerLockToFrequency
  | tunerLockToFrequency => .settingUp statusMutexLock
  | statusMutexLock => .settingUp waitForLock
  | waitForLock => .settingUp playerInit
  | playerInit => .settingUp playerSourceOpen
  | playerSourceOpen => .serving

/-- What the error path releases before it returns; the lock has no error path. -/
def failure : SetUpPc → Option (List Resource)
  | mallocPatTable | mallocPmtTable | mallocTdtTable | mallocTotTable => some []
  | tunerInit => some freeTables
  | tunerLockToFrequency | waitForLock | playerInit => some (freeTables ++ [.tuner])
  | statusMutexLock => none
  | playerSourceOpen => some (freeTables ++ [.player,.tuner])

end SetUpPc

def Controller.deinitDevice (api : TdpApi D) (s : Controller D) : D :=
  api.playerStreamRemove
    (api.playerStreamRemove (api.demuxFreeFilter s.device s.filterHandle) s.streamHandleA)
    s.streamHandleV

namespace Session

/-- `streamControllerDeinit`, which waits for the worker in `pthread_join`. -/
def streamControllerDeinit (api : TdpApi D) (s : Session D) : Option (Session D) :=
  if s.isInitialized then
    if s.config.frame.label.idle then
      some { place := .closed
             ledger := s.ledger.releaseAll deinitCalls
             isInitialized := false
             config := s.config.withDevice (s.config.controller.deinitDevice api) }
    else none
  -- `SC_ERROR`, on which main returns
  else some { s with place := .closed }

def step (api : TdpApi D) (s : Session D) (e : SessionEvent) : Option (Session D) :=
  match s.place with
  | .settingUp pc =>
    match e with
    | .succeeds => some { s with place := pc.next, ledger := pc.success s.ledger }
    | .fails => pc.failure.map fun rs => { s with place := .failed, ledger := s.ledger.releaseAll rs }
    | .deinit => s.streamControllerDeinit api
    | .act _ | .initialized => none
  | .serving =>
    match e with
    | .act x => some { s with config := TvApp.act api s.config x }
    | .initialized =>
      match s.config.frame.label with
      | .returned | .filterFailed => some { s with isInitialized := true }
      | _ => none
    | .deinit => s.streamControllerDeinit api
    | .succeeds | .fails => none
  | .failed =>
    match e with
    | .deinit => s.streamControllerDeinit api
    | .succeeds | .fails | .act _ | .initialized => none
  | .closed => none

def initial (s : Controller D) : Session D := ⟨.settingUp .mallocPatTable,.empty,false,boot s⟩

variable {api : TdpApi D} {s s' : Session D}

theorem deinit_cases (h : s.streamControllerDeinit api = some s') :
    (s.isInitialized = true ∧
      s' = { place := .closed
             ledger := s.ledger.releaseAll deinitCalls
             isInitialized := false
             config := s.config.withDevice (s.config.controller.deinitDevice api) }) ∨
      (s.isInitialized = false ∧ s' = { s with place := .closed }) := by
  rw [streamControllerDeinit] at h
  split at h
  · rename_i hinitialized
    split at h
    · cases h
      exact .inl ⟨hinitialized,rfl⟩
    · cases h
  · rename_i hnot
    cases h
    exact .inr ⟨by simpa using hnot,rfl⟩

theorem step_cases {e : SessionEvent} (h : s.step api e = some s') :
    (∃ pc, e = .succeeds ∧ s.place = .settingUp pc ∧
      s' = { s with place := pc.next, ledger := pc.success s.ledger }) ∨
    (∃ pc rs, e = .fails ∧ s.place = .settingUp pc ∧ pc.failure = some rs ∧
      s' = { s with place := .failed, ledger := s.ledger.releaseAll rs }) ∨
    (∃ x, e = .act x ∧ s.place = .serving ∧ s' = { s with config := TvApp.act api s.config x }) ∨
    (e = .initialized ∧ s.place = .serving ∧ s' = { s with isInitialized := true }) ∨
    (e = .deinit ∧ s.place ≠ .closed ∧ s.streamControllerDeinit api = some s') := by
  cases hplace : s.place with
  | settingUp pc =>
    cases e with
    | succeeds =>
      simp only [step,hplace,Option.some.injEq] at h
      exact .inl ⟨pc,rfl,rfl,h.symm⟩
    | fails =>
      simp only [step,hplace,Option.map_eq_some_iff] at h
      obtain ⟨rs,hrs,rfl⟩ := h
      exact .inr (.inl ⟨pc,rs,rfl,rfl,hrs,rfl⟩)
    | deinit =>
      simp only [step,hplace] at h
      exact .inr (.inr (.inr (.inr ⟨rfl,(by rintro ⟨⟩),h⟩)))
    | act x | initialized =>
      simp only [step,hplace] at h
      cases h
  | serving =>
    cases e with
    | act x =>
      simp only [step,hplace,Option.some.injEq] at h
      exact .inr (.inr (.inl ⟨x,rfl,rfl,h.symm⟩))
    | initialized =>
      simp only [step,hplace] at h
      split at h
      · cases h
        exact .inr (.inr (.inr (.inl ⟨rfl,rfl,rfl⟩)))
      · cases h
        exact .inr (.inr (.inr (.inl ⟨rfl,rfl,rfl⟩)))
      · cases h
    | deinit =>
      simp only [step,hplace] at h
      exact .inr (.inr (.inr (.inr ⟨rfl,(by rintro ⟨⟩),h⟩)))
    | succeeds | fails =>
      simp only [step,hplace] at h
      cases h
  | failed =>
    cases e with
    | deinit =>
      simp only [step,hplace] at h
      exact .inr (.inr (.inr (.inr ⟨rfl,(by rintro ⟨⟩),h⟩)))
    | succeeds | fails | act x | initialized =>
      simp only [step,hplace] at h
      cases h
  | closed =>
    simp only [step,hplace] at h
    cases h

end Session

def SetUpPc.held : SetUpPc → Finset Resource
  | mallocPatTable => ∅
  | mallocPmtTable => {.patTable}
  | mallocTdtTable => {.patTable,.pmtTable}
  | mallocTotTable => {.patTable,.pmtTable,.tdtTable}
  | tunerInit => {.patTable,.pmtTable,.tdtTable,.totTable}
  | tunerLockToFrequency | statusMutexLock | playerInit =>
    {.patTable,.pmtTable,.tdtTable,.totTable,.tuner}
  | waitForLock => {.patTable,.pmtTable,.tdtTable,.totTable,.tuner,.statusMutex}
  | playerSourceOpen => {.patTable,.pmtTable,.tdtTable,.totTable,.tuner,.player}

def SessionPc.held : SessionPc → Finset Resource
  | settingUp pc => pc.held
  | serving => {.patTable,.pmtTable,.tdtTable,.totTable,.tuner,.player,.source}
  | failed | closed => ∅

def SetUpPc.cleansUp : SetUpPc → Bool
  | mallocPmtTable | mallocTdtTable | mallocTotTable | waitForLock => false
  | _ => true

theorem SetUpPc.success_held (pc : SetUpPc) {l : Ledger Resource} (hused : l.misused = false)
    (hheld : l.held = pc.held) :
    (pc.success l).misused = false ∧ (pc.success l).held = pc.next.held := by
  obtain ⟨held,misused⟩ := l
  subst hused hheld
  cases pc <;> exact ⟨by decide,by decide⟩

theorem SetUpPc.failure_nodup {pc : SetUpPc} {rs : List Resource} (h : pc.failure = some rs) :
    rs.Nodup ∧ (∀ r ∈ rs, r ∈ pc.held) ∧ (pc.held \ rs.toFinset = ∅ ↔ pc.cleansUp = true) := by
  cases pc <;> cases h <;> decide

def SessionPc.cleansUp : SessionPc → Bool
  | settingUp pc => pc.cleansUp
  | serving | failed | closed => true

theorem deinitDevice_empty {api : TdpApi D} (ha : api.Lawful) {c : Config D} (h : Owns api c) :
    api.filters (c.controller.deinitDevice api) = ∅ ∧
      api.streams (c.controller.deinitDevice api) = ∅ := by
  constructor
  · rw [Controller.deinitDevice,ha.remove_filters,ha.remove_filters,ha.free]
    exact h.filter.release
  · rw [Controller.deinitDevice,ha.remove,ha.remove,ha.free_streams]
    refine Set.eq_empty_of_forall_notMem fun st hst => ?_
    obtain ⟨⟨hlive,haudio⟩,hvideo⟩ := hst
    have howned := (h.stream st.kind).handle_eq st ⟨hlive,rfl⟩
    cases hkind : st.kind with
    | videoTypeMpeg2 =>
      rw [hkind] at howned
      exact hvideo howned
    | audioTypeMpegAudio =>
      rw [hkind] at howned
      exact haudio howned

namespace Session

variable {api : TdpApi D} {s s' : Session D}

def Clean (api : TdpApi D) (s : Session D) : Prop :=
  s.ledger.held = ∅ ∧ api.filters s.config.controller.device = ∅ ∧
    api.streams s.config.controller.device = ∅

/-- A session that has come to its end has left nothing behind. -/
def Settled (api : TdpApi D) (s : Session D) : Prop :=
  s.place = .failed ∨ s.place = .closed → s.Clean api

structure Accounted (api : TdpApi D) (s : Session D) : Prop where
  used : s.ledger.misused = false
  held : s.place ≠ .failed → s.place ≠ .closed → s.ledger.held = s.place.held
  owns : s.place ≠ .closed → Owns api s.config
  untouched : s.place ≠ .serving → s.place ≠ .closed →
    api.filters s.config.controller.device = ∅ ∧ api.streams s.config.controller.device = ∅
  initialized : s.isInitialized = true → s.place = .serving

/-- No table but the first is refused by `malloc`, the tuner locks in time, and main calls
`streamControllerDeinit` when the module is initialized, or when there is nothing to do. -/
def Orderly (s : Session D) : SessionEvent → Prop
  | .fails => s.place.cleansUp = true
  | .deinit => s.isInitialized = true ∨ s.place = .failed ∨ s.place = .settingUp .mallocPatTable
  | .succeeds | .act _ | .initialized => True

instance decidableOrderly (s : Session D) : ∀ e, Decidable (Orderly s e)
  | .fails => inferInstanceAs (Decidable (s.place.cleansUp = true))
  | .deinit => inferInstanceAs (Decidable (s.isInitialized = true ∨ s.place = .failed ∨
      s.place = .settingUp .mallocPatTable))
  | .succeeds | .act _ | .initialized => isTrue trivial

theorem initial_accounted {c : Controller D} (hc : c.Fresh api) : Accounted api (initial c) where
  used := rfl
  held _ _ := rfl
  owns _ := boot_owns hc
  untouched _ _ := ⟨hc.filters,hc.streams⟩
  initialized := by rintro ⟨⟩

theorem settled_of_place (hfailed : s.place ≠ .failed) (hclosed : s.place ≠ .closed) :
    s.Settled api := fun h => h.elim (absurd · hfailed) (absurd · hclosed)

theorem settled_of_settingUp {pc : SetUpPc} (h : s.place = .settingUp pc) : s.Settled api :=
  settled_of_place (by rw [h]; rintro ⟨⟩) (by rw [h]; rintro ⟨⟩)

theorem settled_of_serving (h : s.place = .serving) : s.Settled api :=
  settled_of_place (by rw [h]; rintro ⟨⟩) (by rw [h]; rintro ⟨⟩)

theorem Accounted.clean_iff (h : Accounted api s) (hserving : s.place ≠ .serving)
    (hclosed : s.place ≠ .closed) : s.Clean api ↔ s.ledger.held = ∅ :=
  and_iff_left (h.untouched hserving hclosed)

theorem next_ne (pc : SetUpPc) : pc.next ≠ .failed ∧ pc.next ≠ .closed := by
  cases pc <;> exact ⟨(by rintro ⟨⟩),(by rintro ⟨⟩)⟩

theorem Accounted.settingUp (h : Accounted api s) {pc : SetUpPc} (hplace : s.place = .settingUp pc) :
    s.ledger.held = pc.held ∧ s.isInitialized = false ∧ Owns api s.config ∧
      api.filters s.config.controller.device = ∅ ∧ api.streams s.config.controller.device = ∅ := by
  have hheld := h.held
  have howns := h.owns
  have huntouched := h.untouched
  have hinitialized := h.initialized
  rw [hplace] at hheld howns huntouched hinitialized
  refine ⟨hheld (by rintro ⟨⟩) (by rintro ⟨⟩),?_,howns (by rintro ⟨⟩),huntouched (by rintro ⟨⟩) (by rintro ⟨⟩)⟩
  by_contra hinit
  have hserving := hinitialized (by simpa using hinit)
  cases hserving

theorem Accounted.succeeds (h : Accounted api s) {pc : SetUpPc} (hplace : s.place = .settingUp pc) :
    Accounted api { s with place := pc.next, ledger := pc.success s.ledger } := by
  obtain ⟨hheld,hinit,howns,hdevice⟩ := h.settingUp hplace
  obtain ⟨hused,hnext⟩ := pc.success_held h.used hheld
  exact ⟨hused,fun _ _ => hnext,fun _ => howns,fun _ _ => hdevice,
    fun hinit' => absurd (hinit.symm.trans hinit') Bool.false_ne_true⟩

theorem Accounted.fails (h : Accounted api s) {pc : SetUpPc} {rs : List Resource}
    (hplace : s.place = .settingUp pc) (hrs : pc.failure = some rs) :
    Accounted api { s with place := .failed, ledger := s.ledger.releaseAll rs } ∧
      ((s.ledger.releaseAll rs).held = ∅ ↔ pc.cleansUp = true) := by
  obtain ⟨hheld,hinit,howns,hdevice⟩ := h.settingUp hplace
  obtain ⟨hnodup,hsub,hempty⟩ := SetUpPc.failure_nodup hrs
  have hreleased := Ledger.releaseAll_of_nodup (l := s.ledger) hnodup (by rw [hheld]; exact hsub)
  rw [hreleased,hheld]
  refine ⟨⟨h.used,fun hfailed => absurd rfl hfailed,fun _ => howns,fun _ _ => hdevice,?_⟩,hempty⟩
  exact fun hinit' => absurd (hinit.symm.trans hinit') Bool.false_ne_true

theorem Accounted.deinit (ha : api.Lawful) (h : Accounted api s) (hinit : s.isInitialized = true) :
    (s.ledger.releaseAll deinitCalls).misused = false ∧
      (s.ledger.releaseAll deinitCalls).held = ∅ ∧
      api.filters (s.config.controller.deinitDevice api) = ∅ ∧
      api.streams (s.config.controller.deinitDevice api) = ∅ := by
  have hplace := h.initialized hinit
  have hheld := h.held
  have howns := h.owns
  rw [hplace] at hheld howns
  have hserving := hheld (by rintro ⟨⟩) (by rintro ⟨⟩)
  have hnodup : deinitCalls.Nodup := by decide
  have hall : SessionPc.serving.held \ deinitCalls.toFinset = ∅ := by
    decide
  rw [Ledger.releaseAll_of_nodup hnodup (by rw [hserving]; decide),hserving]
  exact ⟨h.used,hall,deinitDevice_empty ha (howns (by rintro ⟨⟩))⟩

theorem held_eq_empty_iff (pc : SetUpPc) : pc.held = ∅ ↔ pc = .mallocPatTable := by
  cases pc <;> decide

theorem Accounted.refused (h : Accounted api s) (hsettled : s.Settled api)
    (hinit : s.isInitialized = false) (hclosed : s.place ≠ .closed) :
    s.Clean api ↔ Orderly s .deinit := by
  rw [Orderly,hinit]
  cases hplace : s.place with
  | settingUp pc =>
    have hclean := h.clean_iff (by rw [hplace]; rintro ⟨⟩) hclosed
    rw [hclean,(h.settingUp hplace).1,held_eq_empty_iff]
    simp
  | serving =>
    have hheld := h.held (by rw [hplace]; rintro ⟨⟩) hclosed
    rw [hplace] at hheld
    refine iff_of_false (fun hclean => ?_) (by simp)
    exact absurd (hheld.symm.trans hclean.1) (by decide)
  | failed => exact iff_of_true (hsettled (.inl hplace)) (.inr (.inl rfl))
  | closed => exact absurd hplace hclosed

theorem Accounted.next (ha : api.Lawful) {e : SessionEvent} (h : Accounted api s)
    (hstep : s.step api e = some s') :
    Accounted api s' ∧ (s.Settled api → (s'.Settled api ↔ Orderly s e)) ∧
      (s'.Settled api → s.Settled api) := by
  obtain ⟨pc,rfl,hplace,rfl⟩ | ⟨pc,rs,rfl,hplace,hrs,rfl⟩ | ⟨x,rfl,hplace,rfl⟩ |
    ⟨rfl,hplace,rfl⟩ | ⟨rfl,hclosed,hdeinit⟩ := step_cases hstep
  · have hbefore : s.Settled api := settled_of_settingUp hplace
    refine ⟨h.succeeds hplace,fun _ => iff_of_true ?_ trivial,fun _ => hbefore⟩
    exact settled_of_place (next_ne pc).1 (next_ne pc).2
  · have hbefore : s.Settled api := settled_of_settingUp hplace
    obtain ⟨haccounted,hempty⟩ := h.fails hplace hrs
    refine ⟨haccounted,fun _ => ?_,fun _ => hbefore⟩
    have hclean := haccounted.clean_iff (by rintro ⟨⟩) (by rintro ⟨⟩)
    rw [Settled,hclean,Orderly,hplace]
    exact (forall_prop_of_true (.inl rfl)).trans hempty
  · have hbefore : s.Settled api := settled_of_serving hplace
    refine ⟨⟨h.used,h.held,fun hne => act_owns ha (h.owns hne) x,fun hserving => ?_,h.initialized⟩,
      fun _ => iff_of_true ?_ trivial,fun _ => hbefore⟩
    · exact absurd hplace hserving
    · exact settled_of_serving hplace
  · have hbefore : s.Settled api := settled_of_serving hplace
    exact ⟨⟨h.used,h.held,h.owns,h.untouched,fun _ => hplace⟩,
      fun _ => iff_of_true hbefore trivial,fun _ => hbefore⟩
  · obtain ⟨hinit,rfl⟩ | ⟨hinit,rfl⟩ := deinit_cases hdeinit
    · obtain ⟨hused,hheld,hdevice⟩ := h.deinit ha hinit
      refine ⟨⟨hused,fun _ hne => absurd rfl hne,fun hne => absurd rfl hne,
        fun _ hne => absurd rfl hne,(by rintro ⟨⟩)⟩,fun _ => iff_of_true ?_ (.inl hinit),fun _ => ?_⟩
      · exact fun _ => ⟨hheld,hdevice⟩
      · exact settled_of_serving (h.initialized hinit)
    · refine ⟨⟨h.used,fun _ hne => absurd rfl hne,fun hne => absurd rfl hne,
        fun _ hne => absurd rfl hne,fun hinit' => ?_⟩,fun hsettled => ?_,fun hsettled => ?_⟩
      · exact absurd (hinit.symm.trans hinit') Bool.false_ne_true
      · refine Iff.trans ⟨fun hs => hs (.inr rfl),fun hs _ => hs⟩ (h.refused hsettled hinit hclosed)
      · exact fun _ => hsettled (.inr rfl)

end Session

/-- A session never releases one of its eight resources twice and never loses one to a second
acquisition.  At its end they have been released, and neither a filter nor a stream is alive in
the device, exactly if it was orderly.  The calls that free the filter are not in the ledger: a
handle that `Demux_Set_Filter` has refused to replace is freed again. -/
theorem session_clean_iff {api : TdpApi D} (ha : api.Lawful) {c : Controller D} (hc : c.Fresh api)
    {s : Session D} (es : List SessionEvent)
    (h : follow (Session.step api) (Session.initial c) es = some s) :
    s.ledger.misused = false ∧
      (s.place = .closed →
        (s.Clean api ↔ Each Session.Orderly (Session.step api) (Session.initial c) es)) := by
  have hstart := Session.initial_accounted hc
  have haccounted : Session.Accounted api s :=
    (Reach.of_follow es .start h).invariant hstart fun _ hs _ hstep => (hs.next ha hstep).1
  refine ⟨haccounted.used,fun hclosed => ?_⟩
  have hiff := persistent_good_iff_each (Session.Accounted api) (Session.Settled api)
    (fun hs hstep => (hs.next ha hstep).1) (fun hs hgood hstep => (hs.next ha hstep).2.1 hgood)
    (fun hs hstep => (hs.next ha hstep).2.2) es hstart
    (Session.settled_of_settingUp rfl) h
  rw [← hiff]
  exact ⟨fun hclean _ => hclean,fun hsettled => hsettled (.inr hclosed)⟩

def sampleSession : List SessionEvent :=
  List.replicate 10 .succeeds ++ sampleZaps.map .act ++ [.initialized,.deinit]

theorem sampleSession_leaves_nothing :
    ∃ s, follow (Session.step referenceApi)
        (Session.initial (Controller.initial (.new [false,true,false,false,true]) 0)) sampleSession =
          some s ∧
      s.place = .closed ∧ s.Clean referenceApi := by
  have hend : (follow (Session.step referenceApi)
      (Session.initial (Controller.initial (.new [false,true,false,false,true]) 0)) sampleSession).map
        Session.place = some .closed := by
    decide +kernel
  obtain ⟨s,hs,hclosed⟩ := Option.map_eq_some_iff.1 hend
  refine ⟨s,hs,hclosed,?_⟩
  have h := session_clean_iff referenceApi_lawful
    (Controller.initial_fresh [false,true,false,false,true] 0) sampleSession hs
  exact (h.2 hclosed).2 (by decide +kernel)

end TvApp

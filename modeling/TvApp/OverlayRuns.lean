import TvApp.VolumeKeys

/-! What can go wrong while the overlays are drawn, over whole interleavings.
`primary` and `provider` are safe: the threads are joined before the surface is released,
and there is an image for every volume.  Not safe are the array of the info overlay, which
no text fits, and the timers, which main deletes while keys are still handled.  An overlay
goes off by its timer alone, and the timer is started before the flag is set. -/
namespace TvApp

def RenderPc.needsProvider : RenderPc → Bool
  | .getSurfaceDescription | .renderTo | .releaseProvider => true
  | _ => false

def RenderPc.afterVideoPid : RenderPc → Bool
  | .drawVideoPid | .formatAudioPid | .drawAudioPid | .formatDate | .drawDate => true
  | _ => false

namespace Graphics

variable {s s' : Graphics}

structure RenderInvariant (s : Graphics) : Prop where
  provider : s.render.needsProvider = true → s.provider = .live
  joined : s.main.afterTimers = true → s.render = .ended
  early : s.render.afterVideoPid = false
  faults : s.fault ≠ some .deadProvider ∧ s.fault ≠ some .primaryReleased

/-- The step neither formats a text of the info overlay nor arms a deleted timer. -/
def Harmless (s : Graphics) : GraphicsEvent → Prop
  | .render => s.render ≠ .formatVideoPid
  | .keyStatement => s.main.afterTimers = true → ∀ o, s.keyThread.head? ≠ some (.settime o)
  | .key _ _ | .expires _ | .remove _ | .main => True

theorem renderInvariant_initial (volume : ℕ) : RenderInvariant (initial volume) :=
  ⟨(by rintro ⟨⟩),(by rintro ⟨⟩),rfl,(by rintro ⟨⟩),(by rintro ⟨⟩)⟩

theorem RenderInvariant.frame (h : RenderInvariant s) (hrender : s'.render = s.render)
    (hprovider : s'.provider = s.provider) (hmain : s'.main = s.main) (hfault : s'.fault = s.fault) :
    RenderInvariant s' where
  provider := by rw [hrender,hprovider]; exact h.provider
  joined := by rw [hrender,hmain]; exact h.joined
  early := by rw [hrender]; exact h.early
  faults := by rw [hfault]; exact h.faults

theorem usesPrimary_of_invariant (h : RenderInvariant s) (hrunning : s.render ≠ .ended)
    (next : RenderPc) : s.usesPrimary next = { s with render := next } := by
  refine if_neg fun hreleased => hrunning (h.joined ?_)
  rw [hreleased]
  rfl

theorem usesProvider_of_live (h : s.provider = .live) (provider : ImageProvider) (next : RenderPc) :
    s.usesProvider provider next = { s with provider := provider, render := next } := if_pos h

theorem sprintf_videoPid (s : Graphics) (pid : Int16) (next : RenderPc) :
    s.sprintf (videoPidText pid) next = s.fail .tempStringOverrun := by
  have hlength := (InfoText.videoPid pid).length.1
  exact if_neg (Nat.not_lt.2 (Nat.le_of_succ_le hlength))

theorem RenderInvariant.goto (h : RenderInvariant s) (hrunning : s.render ≠ .ended)
    {next : RenderPc} (hprovider : next.needsProvider = false) (hearly : next.afterVideoPid = false)
    (provider : ImageProvider) : RenderInvariant { s with provider := provider, render := next } where
  provider hneeds := absurd (hprovider.symm.trans hneeds) Bool.false_ne_true
  joined hjoined := absurd (h.joined hjoined) hrunning
  early := hearly
  faults := h.faults

theorem RenderInvariant.goto_live (h : RenderInvariant s) (hrunning : s.render ≠ .ended)
    {next : RenderPc} (hearly : next.afterVideoPid = false) :
    RenderInvariant { s with provider := .live, render := next } where
  provider _ := rfl
  joined hjoined := absurd (h.joined hjoined) hrunning
  early := hearly
  faults := h.faults

theorem renderStep_spec (h : RenderInvariant s) (hdrawable : s.volumes.Drawable)
    (hfault : s.fault = none) (hstep : s.renderStep = some s') :
    RenderInvariant s' ∧ (s'.fault = none ↔ s.render ≠ .formatVideoPid) := by
  have hearly := h.early
  cases hpc : s.render with
  | formatVideoPid =>
    simp only [renderStep,hpc,sprintf_videoPid,Option.some.injEq] at hstep
    subst hstep
    refine ⟨⟨h.provider,h.joined,h.early,(by rintro ⟨⟩),(by rintro ⟨⟩)⟩,?_⟩
    exact iff_of_false (by rintro ⟨⟩) fun hne => hne rfl
  | drawVideoPid | formatAudioPid | drawAudioPid | formatDate | drawDate =>
    rw [hpc] at hearly
    cases hearly
  | ended =>
    simp only [renderStep,hpc] at hstep
    cases hstep
  | testStop | testVolume | testInfo =>
    have hrunning : s.render ≠ .ended := by rw [hpc]; decide
    simp only [renderStep,hpc,Option.some.injEq] at hstep
    subst hstep
    refine ⟨h.goto hrunning ?_ ?_ s.provider,iff_of_true hfault (by decide)⟩
    · split <;> rfl
    · split <;> rfl
  | signal =>
    have hrunning : s.render ≠ .ended := by rw [hpc]; decide
    simp only [renderStep,hpc,Option.some.injEq] at hstep
    subst hstep
    exact ⟨h.goto hrunning rfl rfl s.provider,iff_of_true hfault (by decide)⟩
  | wipeScreen | blit | fillRectangle | flip =>
    have hrunning : s.render ≠ .ended := by rw [hpc]; decide
    simp only [renderStep,hpc,usesPrimary_of_invariant h hrunning,Option.some.injEq] at hstep
    subst hstep
    exact ⟨h.goto hrunning rfl rfl s.provider,iff_of_true hfault (by decide)⟩
  | createImageProvider =>
    have hrunning : s.render ≠ .ended := by rw [hpc]; decide
    have hcreated : (if 0 ≤ s.volumes.volumeToDraw ∧ s.volumes.volumeToDraw ≤ 10 then
        ImageProvider.live else s.provider) = .live := if_pos hdrawable
    simp only [renderStep,hpc,hcreated,Option.some.injEq] at hstep
    subst hstep
    exact ⟨h.goto_live hrunning rfl,iff_of_true hfault (by decide)⟩
  | getSurfaceDescription | renderTo =>
    have hrunning : s.render ≠ .ended := by rw [hpc]; decide
    have hlive := h.provider (by rw [hpc]; rfl)
    simp only [renderStep,hpc,usesProvider_of_live hlive,Option.some.injEq] at hstep
    subst hstep
    exact ⟨h.goto_live hrunning rfl,iff_of_true hfault (by decide)⟩
  | releaseProvider =>
    have hrunning : s.render ≠ .ended := by rw [hpc]; decide
    have hlive := h.provider (by rw [hpc]; rfl)
    simp only [renderStep,hpc,usesProvider_of_live hlive,Option.some.injEq] at hstep
    subst hstep
    exact ⟨h.goto hrunning rfl rfl .released,iff_of_true hfault (by decide)⟩

theorem mainStep_spec (h : RenderInvariant s) (hstep : s.mainStep = some s') :
    RenderInvariant s' := by
  have hframe := mainStep_mainOnly hstep
  refine ⟨?_,?_,?_,?_⟩
  · rw [hframe.render,hframe.provider]
    exact h.provider
  · rw [hframe.render]
    have hjoined := h.joined
    rw [mainStep] at hstep
    split at hstep
    · cases hstep
      rintro ⟨⟩
    · cases hstep
      rintro ⟨⟩
    · split at hstep
      · rename_i hended
        exact fun _ => hended
      · cases hstep
    · rename_i hmain
      rw [hmain] at hjoined
      exact fun _ => hjoined rfl
    · cases hstep
  · rw [hframe.render]
    exact h.early
  · rw [hframe.fault]
    exact h.faults

theorem execute_spec (h : RenderInvariant s) (st : KeyStatement) : RenderInvariant (s.execute st) := by
  cases st with
  | settime o =>
    rw [execute]
    split
    · exact ⟨h.provider,h.joined,h.early,(by rintro ⟨⟩),(by rintro ⟨⟩)⟩
    · exact h.frame rfl rfl rfl rfl
  | _ => exact h.frame rfl rfl rfl rfl

theorem execute_fault (hfault : s.fault = none) (st : KeyStatement) :
    (s.execute st).fault = none ↔ (s.main.afterTimers = true → ∀ o, st ≠ .settime o) := by
  cases st with
  | settime o =>
    rw [execute]
    split
    · rename_i hafter
      exact iff_of_false (by rintro ⟨⟩) fun hnone => hnone hafter o rfl
    · rename_i hbefore
      exact iff_of_true hfault fun hafter => absurd hafter hbefore
  | _ => exact iff_of_true hfault fun _ _ => by rintro ⟨⟩

def Safe (volume : ℕ) (s : Graphics) : Prop :=
  RenderInvariant s ∧ ∃ keys, VolumeInvariant volume s keys

theorem Safe.next {volume : ℕ} (hvolume : volume ≤ 10) {e : GraphicsEvent} (h : Safe volume s)
    (hstep : s.step e = some s') : Safe volume s' ∧ (s'.fault = none ↔ Harmless s e) := by
  obtain ⟨hrender,keys,hkeys⟩ := h
  have hvolumes := hkeys.next hvolume hstep
  have hdrawable := hkeys.drawable.head
  obtain ⟨hfault,⟨code,i,rfl,-,rfl⟩ | ⟨st,rest,rfl,hthread,rfl⟩ | ⟨o,rfl,-,rfl⟩ | ⟨o,rfl,-,rfl⟩ |
    ⟨rfl,hnext⟩ | ⟨rfl,hnext⟩⟩ := step_cases hstep
  · exact ⟨⟨hrender.frame rfl rfl rfl rfl,_,hvolumes⟩,iff_of_true hfault trivial⟩
  · have hframe : RenderInvariant { s with keyThread := rest } := hrender.frame rfl rfl rfl rfl
    refine ⟨⟨execute_spec hframe st,_,hvolumes⟩,?_⟩
    refine (execute_fault (s := { s with keyThread := rest }) hfault st).trans ?_
    rw [Harmless,hthread]
    simp only [List.head?_cons,ne_eq,Option.some.injEq]
  · exact ⟨⟨hrender.frame rfl rfl rfl rfl,_,hvolumes⟩,iff_of_true hfault trivial⟩
  · exact ⟨⟨hrender.frame rfl rfl rfl rfl,_,hvolumes⟩,iff_of_true hfault trivial⟩
  · have hspec := renderStep_spec hrender hdrawable hfault hnext
    exact ⟨⟨hspec.1,_,hvolumes⟩,hspec.2⟩
  · refine ⟨⟨mainStep_spec hrender hnext,_,hvolumes⟩,iff_of_true ?_ trivial⟩
    rw [(mainStep_mainOnly hnext).fault]
    exact hfault

theorem safe_initial {volume : ℕ} (hvolume : volume ≤ 10) : Safe volume (initial volume) :=
  ⟨renderInvariant_initial volume,[],.of_initial hvolume⟩

end Graphics

/-- An interleaving never uses a dead provider or a released surface, and it is free of the
four faults exactly if the render thread never gets to the first text of the info overlay and
no handler arms a timer that main has deleted. -/
theorem overlays_faultless_iff {volume : ℕ} (hvolume : volume ≤ 10) {s : Graphics}
    (es : List GraphicsEvent) (h : follow Graphics.step (Graphics.initial volume) es = some s) :
    (s.fault = none ↔ Each Graphics.Harmless Graphics.step (Graphics.initial volume) es) ∧
      s.fault ≠ some .deadProvider ∧ s.fault ≠ some .primaryReleased := by
  have hstart := Graphics.safe_initial hvolume
  constructor
  · exact follow_good_iff_each (Graphics.Safe volume) (fun s => s.fault = none)
      (fun hs hstep => (hs.next hvolume hstep).1) (fun hs hstep => (hs.next hvolume hstep).2)
      (fun hstep => (Graphics.step_cases hstep).1) es hstart rfl h
  · have hsafe : Graphics.Safe volume s :=
      (Reach.of_follow es .start h).invariant hstart fun _ hs _ hstep => (hs.next hvolume hstep).1
    exact hsafe.1.faults

/-- Main has deleted the timers, and P+ is pressed. -/
def lateKeyRun : List GraphicsEvent :=
  [.main,.render,.render,.main,.main,.key .pPlus ⟨0,0,0,0,0⟩,.keyStatement]

theorem lateKeyRun_arms_deleted_timer :
    ∃ s, follow Graphics.step (Graphics.initial 5) lateKeyRun = some s ∧
      s.fault = some .timerDeleted ∧
      ¬ Each Graphics.Harmless Graphics.step (Graphics.initial 5) lateKeyRun := by
  refine ⟨_,rfl,rfl,fun hharmless => ?_⟩
  have hnone := (overlays_faultless_iff (by decide) lateKeyRun rfl).1.2 hharmless
  cases hnone

namespace Graphics

variable {s s' : Graphics} {o : Overlay}

/-- The timer of the overlay and the thread of its expiry take it away, whatever the other
threads do. -/
def GoesOff (s : Graphics) (o : Overlay) : Prop :=
  ∃ es s', (∀ e ∈ es, e = .expires o ∨ e = .remove o) ∧ follow step s es = some s' ∧
    s'.shown o = false

/-- While main has not deleted the timers, no overlay stays for good. -/
def Transient (s : Graphics) : Prop :=
  s.fault = none → s.main.afterTimers = false → ∀ o, s.shown o = true → s.GoesOff o

def Due (s : Graphics) (o : Overlay) : Prop := (s.timer o).armed = true ∨ 0 < (s.timer o).pending

def Timely (s : Graphics) : GraphicsEvent → Prop
  | .keyStatement => s.main.afterTimers = false →
      ∀ o, s.keyThread.head? = some (.show o) → s.Due o
  | .key _ _ | .expires _ | .remove _ | .render | .main => True

theorem follow_remove (hfault : s.fault = none) (h : 0 < (s.timer o).pending) :
    ∃ s', follow step s [.remove o] = some s' ∧ s'.shown o = false := by
  have hremove : s.step (.remove o) = some ((s.setTimer o
      { s.timer o with pending := (s.timer o).pending-1 }).setShown o false) := by
    simp [step,hfault,h]
  exact ⟨_,follow_cons.2 ⟨_,hremove,rfl⟩,by simp [setShown]⟩

theorem goesOff_iff (hfault : s.fault = none) (hshown : s.shown o = true) :
    s.GoesOff o ↔ s.Due o := by
  constructor
  · rintro ⟨es,s',hes,hfollow,hoff⟩
    cases es with
    | nil =>
      cases hfollow
      rw [hshown] at hoff
      cases hoff
    | cons e es =>
      obtain ⟨t,hstep,-⟩ := follow_cons.1 hfollow
      obtain rfl | rfl := hes e List.mem_cons_self
      · left
        by_contra hidle
        simp [step,hfault,hidle] at hstep
      · right
        by_contra hidle
        simp [step,hfault,hidle] at hstep
  · rintro (harmed | hpending)
    · have hexpires : s.step (.expires o) = some (s.setTimer o ⟨false,(s.timer o).pending+1⟩) := by
        simp [step,hfault,harmed]
      obtain ⟨s',hremove,hoff⟩ := follow_remove (s := s.setTimer o ⟨false,(s.timer o).pending+1⟩)
        (o := o) hfault (by simp [setTimer])
      exact ⟨[.expires o,.remove o],s',by simp,follow_cons.2 ⟨_,hexpires,hremove⟩,hoff⟩
    · obtain ⟨s',hremove,hoff⟩ := follow_remove hfault hpending
      exact ⟨[.remove o],s',by simp,hremove,hoff⟩

theorem transient_iff :
    Transient s ↔ (s.fault = none → s.main.afterTimers = false → ∀ o, s.shown o = true → s.Due o) := by
  constructor
  · exact fun h hfault hbefore o hshown => (goesOff_iff hfault hshown).1 (h hfault hbefore o hshown)
  · exact fun h hfault hbefore o hshown => (goesOff_iff hfault hshown).2 (h hfault hbefore o hshown)

theorem Transient.frame (h : Transient s) (hfault : s.fault = none)
    (hmain : s'.main.afterTimers = false → s.main.afterTimers = false)
    (hshown : ∀ o, s'.shown o = true → s.shown o = true)
    (hdue : s'.main.afterTimers = false → ∀ o, s.Due o → s'.Due o) : Transient s' := by
  rw [transient_iff] at h ⊢
  exact fun _ hbefore o ho => hdue hbefore o (h hfault (hmain hbefore) o (hshown o ho))

theorem due_setTimer {t : OverlayTimer} (ht : t.armed = true ∨ 0 < t.pending) (o' : Overlay)
    (h : s.Due o') : (s.setTimer o t).Due o' := by
  by_cases ho : o' = o
  · subst ho
    simpa [Due,setTimer] using ht
  · simpa [Due,setTimer,ho] using h

theorem transient_execute (h : Transient s) (hfault : s.fault = none) (st : KeyStatement) :
    Transient (s.execute st) ↔ (s.main.afterTimers = false → ∀ o, st = .show o → s.Due o) := by
  cases st with
  | settime o =>
    refine iff_of_true ?_ fun _ _ => by rintro ⟨⟩
    rw [execute]
    split
    · rintro ⟨⟩
    · exact h.frame hfault id (fun _ => id) fun _ o' => due_setTimer (.inl rfl) o'
  | «show» o =>
    constructor
    · rintro hafter hbefore _ ⟨⟩
      exact transient_iff.1 hafter hfault hbefore o (by simp [execute,setShown])
    · intro hdue
      refine transient_iff.2 fun _ hbefore o' hshown => ?_
      obtain hearlier | hsame := execute_shown hshown
      · exact transient_iff.1 h hfault hbefore o' hearlier
      · exact hdue hbefore o' hsame
  | _ =>
    refine iff_of_true ?_ fun _ _ => by rintro ⟨⟩
    exact h.frame hfault id (fun _ => id) fun _ _ => id

theorem mainStep_timer (h : s.mainStep = some s') (hbefore : s'.main.afterTimers = false) :
    s.main.afterTimers = false ∧ s'.timer = s.timer := by
  rw [mainStep] at h
  split at h
  · rename_i hmain
    cases h
    exact ⟨by rw [hmain]; rfl,rfl⟩
  · rename_i hmain
    cases h
    exact ⟨by rw [hmain]; rfl,rfl⟩
  · split at h
    · cases h
      cases hbefore
    · cases h
  · cases h
    cases hbefore
  · cases h

theorem transient_next {e : GraphicsEvent} (h : Transient s) (hstep : s.step e = some s') :
    Transient s' ↔ Timely s e := by
  obtain ⟨hfault,⟨code,i,rfl,-,rfl⟩ | ⟨st,rest,rfl,hthread,rfl⟩ | ⟨o,rfl,-,rfl⟩ | ⟨o,rfl,-,rfl⟩ |
    ⟨rfl,hnext⟩ | ⟨rfl,hnext⟩⟩ := step_cases hstep
  · exact iff_of_true (h.frame hfault id (fun _ => id) fun _ _ => id) trivial
  · have hframe : Transient { s with keyThread := rest } := h.frame hfault id (fun _ => id) fun _ _ => id
    refine (transient_execute hframe hfault st).trans ?_
    rw [Timely,hthread]
    simp only [List.head?_cons,Option.some.injEq]
    rfl
  · refine iff_of_true (h.frame hfault id (fun _ => id) fun _ o' => ?_) trivial
    exact due_setTimer (.inr (Nat.succ_pos _)) o'
  · refine iff_of_true (transient_iff.2 fun _ hbefore o' hshown => ?_) trivial
    -- only the overlay that is gone may have lost its timer
    by_cases ho : o' = o
    · simp [setShown,ho] at hshown
    · have hdue := transient_iff.1 h hfault hbefore o' (by simpa [setShown,setTimer,ho] using hshown)
      simpa [Due,setShown,setTimer,ho] using hdue
  · have hframe := renderStep_renderOnly hnext
    refine iff_of_true (h.frame hfault (hframe.main ▸ id) (fun o => hframe.shown ▸ id) ?_) trivial
    intro _ o
    rw [Due,Due,hframe.timer]
    exact id
  · have hshown := (mainStep_mainOnly hnext).shown
    have hmain := mainStep_timer hnext
    refine iff_of_true (h.frame hfault (fun hbefore => (hmain hbefore).1) (fun o => hshown ▸ id) ?_)
      trivial
    intro hbefore o
    rw [Due,Due,(hmain hbefore).2]
    exact id

theorem transient_initial (volume : ℕ) : Transient (initial volume) := fun _ _ _ => by rintro ⟨⟩

end Graphics

/-- In an interleaving every overlay on the screen goes off by its timer alone, in every state
until main deletes the timers, exactly if each handler sets its flag while its timer is armed
or a removal is pending: `timer_settime` comes first, and nothing holds the handler to its
time. -/
theorem overlays_transient_iff (volume : ℕ) {s : Graphics} (es : List GraphicsEvent)
    (h : follow Graphics.step (Graphics.initial volume) es = some s) :
    Always Graphics.Transient Graphics.step (Graphics.initial volume) es ↔
      Each Graphics.Timely Graphics.step (Graphics.initial volume) es :=
  always_iff_each (fun _ => True) Graphics.Transient (fun _ _ => trivial)
    (fun _ hgood hstep => Graphics.transient_next hgood hstep) es trivial
    (Graphics.transient_initial volume) h

/-- P+ with a handler that is held up for four seconds between its two statements. -/
def slowHandlerRun : List GraphicsEvent :=
  [.key .pPlus ⟨0,0,0,0,0⟩,.keyStatement,.expires .programNumber,.remove .programNumber,.keyStatement]

theorem slowHandlerRun_overlay_stays :
    (follow Graphics.step (Graphics.initial 5) slowHandlerRun).isSome = true ∧
      ¬ Always Graphics.Transient Graphics.step (Graphics.initial 5) slowHandlerRun := by
  refine ⟨rfl,fun halways => ?_⟩
  have htimely := (overlays_transient_iff 5 slowHandlerRun rfl).1 halways
  have hdue := ((((htimely.2 _ rfl).2 _ rfl).2 _ rfl).2 _ rfl).1 rfl .programNumber rfl
  obtain harmed | hpending := hdue
  · cases harmed
  · exact absurd hpending (by decide)

end TvApp

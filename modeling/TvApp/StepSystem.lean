import Mathlib.Tactic

/-! Interleavings.  A system is a partial step function: events name what may
happen next, and a step that is not enabled has no result.  `Reach` collects the
states of all interleavings whose steps are allowed by a side condition. -/
namespace TvApp

variable {σ ε : Type} {step : σ → ε → Option σ} {allowed : σ → ε → Prop} {s₀ : σ}

/-- States reached from `s₀` when each step is allowed in the state before it. -/
inductive Reach (step : σ → ε → Option σ) (allowed : σ → ε → Prop) (s₀ : σ) : σ → Prop
  | start : Reach step allowed s₀ s₀
  | next {s s' : σ} (e : ε) : Reach step allowed s₀ s → allowed s e → step s e = some s' →
      Reach step allowed s₀ s'

abbrev Anything (_ : σ) (_ : ε) : Prop := True

namespace Reach

/-- Invariant rule: what holds at the start and survives each allowed step holds
in every state reached. -/
theorem invariant {I : σ → Prop} (hstart : I s₀)
    (hstep : ∀ {s s' : σ} (e : ε), I s → allowed s e → step s e = some s' → I s') {s : σ}
    (h : Reach step allowed s₀ s) : I s := by
  induction h with
  | start => exact hstart
  | next e _ hallowed hnext ih => exact hstep e ih hallowed hnext

theorem trans {s s' : σ} (h : Reach step allowed s₀ s) (h' : Reach step allowed s s') :
    Reach step allowed s₀ s' := by
  induction h' with
  | start => exact h
  | next e _ hallowed hnext ih => exact ih.next e hallowed hnext

theorem mono {allowed' : σ → ε → Prop} (himp : ∀ s e, allowed s e → allowed' s e) {s : σ}
    (h : Reach step allowed s₀ s) : Reach step allowed' s₀ s := by
  induction h with
  | start => exact .start
  | next e _ hallowed hnext ih => exact ih.next e (himp _ e hallowed) hnext

/-- Refinement rule: a run whose steps are steps of another system is a run of that system. -/
theorem translate {ε' : Type} {step' : σ → ε' → Option σ} {allowed' : σ → ε' → Prop} (f : ε → ε')
    (hstep : ∀ {s s' : σ} {e : ε}, allowed s e → step s e = some s' →
      allowed' s (f e) ∧ step' s (f e) = some s') {s : σ} (h : Reach step allowed s₀ s) :
    Reach step' allowed' s₀ s := by
  induction h with
  | start => exact .start
  | next e _ hallowed hnext ih =>
    obtain ⟨hallowed',hnext'⟩ := hstep hallowed hnext
    exact ih.next (f e) hallowed' hnext'

/-- Progress rule: what can be reached from every state with a property, unless a state with
the property and a smaller measure can, is reached in the end. -/
theorem of_progress {I goal : σ → Prop} (measure : σ → ℕ)
    (hprogress : ∀ s, I s → ∃ s', Reach step allowed s s' ∧ (goal s' ∨ I s' ∧ measure s' < measure s))
    {s : σ} (hs : I s) : ∃ s', Reach step allowed s s' ∧ goal s' := by
  induction hn : measure s using Nat.strong_induction_on generalizing s with
  | h n ih =>
    obtain ⟨t,hreach,hgoal | ⟨ht,hless⟩⟩ := hprogress s hs
    · exact ⟨t,hreach,hgoal⟩
    · obtain ⟨u,hlater,hgoal⟩ := ih (measure t) (hn ▸ hless) ht rfl
      exact ⟨u,hreach.trans hlater,hgoal⟩

end Reach

/-- Follow a list of events; `none` if one of them is not enabled. -/
def follow (step : σ → ε → Option σ) (s : σ) : List ε → Option σ
  | [] => some s
  | e :: es =>
    match step s e with
    | none => none
    | some s' => follow step s' es

theorem follow_cons {s s' : σ} {e : ε} {es : List ε} :
    follow step s (e :: es) = some s' ↔ ∃ t, step s e = some t ∧ follow step t es = some s' := by
  rw [follow]
  cases step s e with
  | none => simp
  | some t => simp

/-- Each step of the run from `s` along the events is allowed in the state before it. -/
def Each (allowed : σ → ε → Prop) (step : σ → ε → Option σ) (s : σ) : List ε → Prop
  | [] => True
  | e :: es => allowed s e ∧ ∀ s', step s e = some s' → Each allowed step s' es

theorem each_cons {s t : σ} {e : ε} {es : List ε} (hstep : step s e = some t) :
    Each allowed step s (e :: es) ↔ allowed s e ∧ Each allowed step t es := by
  rw [Each]
  simp only [hstep,Option.some.injEq,forall_eq']

instance decidableEach [∀ s e, Decidable (allowed s e)] :
    ∀ (s : σ) (es : List ε), Decidable (Each allowed step s es)
  | _,[] => isTrue trivial
  | s,e :: es =>
    match hstep : step s e with
    | none => decidable_of_iff (allowed s e) ⟨fun h => ⟨h,by simp [hstep]⟩,And.left⟩
    | some t =>
      have := decidableEach t es
      decidable_of_iff (allowed s e ∧ Each allowed step t es) (each_cons hstep).symm

theorem Reach.of_each {s s' : σ} (es : List ε) (h : Reach step allowed s₀ s)
    (hallowed : Each allowed step s es) (hes : follow step s es = some s') :
    Reach step allowed s₀ s' := by
  induction es generalizing s with
  | nil =>
    cases hes
    exact h
  | cons e es ih =>
    obtain ⟨t,hstep,hrest⟩ := follow_cons.1 hes
    obtain ⟨hfirst,hlater⟩ := (each_cons hstep).1 hallowed
    exact ih (h.next e hfirst hstep) hlater hrest

theorem each_anything (s : σ) (es : List ε) : Each Anything step s es := by
  induction es generalizing s with
  | nil => trivial
  | cons e es ih => exact ⟨trivial,fun t _ => ih t⟩

theorem each_of_forall (s : σ) (es : List ε) (h : ∀ e ∈ es, ∀ s, allowed s e) :
    Each allowed step s es := by
  induction es generalizing s with
  | nil => trivial
  | cons e es ih =>
    exact ⟨h e List.mem_cons_self s,
      fun t _ => ih t fun e' he' => h e' (List.mem_cons_of_mem e he')⟩

theorem Each.and {allowed' : σ → ε → Prop} {s : σ} {es : List ε} (h : Each allowed step s es)
    (h' : Each allowed' step s es) : Each (fun s e => allowed s e ∧ allowed' s e) step s es := by
  induction es generalizing s with
  | nil => trivial
  | cons e es ih => exact ⟨⟨h.1,h'.1⟩,fun t ht => ih (h.2 t ht) (h'.2 t ht)⟩

/-- Every state of the run from `s` along the events is good, its last one included. -/
def Always (good : σ → Prop) (step : σ → ε → Option σ) (s : σ) : List ε → Prop
  | [] => good s
  | e :: es => good s ∧ ∀ s', step s e = some s' → Always good step s' es

theorem always_cons {good : σ → Prop} {s t : σ} {e : ε} {es : List ε} (hstep : step s e = some t) :
    Always good step s (e :: es) ↔ good s ∧ Always good step t es := by
  rw [Always]
  simp only [hstep,Option.some.injEq,forall_eq']

theorem Always.head {good : σ → Prop} {s : σ} {es : List ε} (h : Always good step s es) : good s := by
  cases es with
  | nil => exact h
  | cons e es => exact h.1

/-- Rule for runs that go on through bad states: if under an invariant a step from a good
state leads to a good one exactly when it is allowed, then a run stays good exactly when
each of its steps is allowed up to the first that is not. -/
theorem always_iff_each (I good : σ → Prop)
    (hinvariant : ∀ {s s' : σ} {e : ε}, I s → step s e = some s' → I s')
    (hgood : ∀ {s s' : σ} {e : ε}, I s → good s → step s e = some s' → (good s' ↔ allowed s e))
    {s s' : σ} (es : List ε) (hs : I s) (hstart : good s) (h : follow step s es = some s') :
    Always good step s es ↔ Each allowed step s es := by
  induction es generalizing s with
  | nil => exact iff_of_true hstart trivial
  | cons e es ih =>
    obtain ⟨t,hstep,hrest⟩ := follow_cons.1 h
    rw [always_cons hstep,each_cons hstep,← hgood hs hstart hstep]
    constructor
    · rintro ⟨-,hlater⟩
      exact ⟨hlater.head,(ih (hinvariant hs hstep) hlater.head hrest).1 hlater⟩
    · rintro ⟨ht,hlater⟩
      exact ⟨hstart,(ih (hinvariant hs hstep) ht hrest).2 hlater⟩

theorem Reach.of_follow {s s' : σ} (es : List ε) (h : Reach step Anything s₀ s)
    (hes : follow step s es = some s') : Reach step Anything s₀ s' :=
  h.of_each es (each_anything s es) hes

/-- Rule for runs that stop at the first bad state: if under an invariant a step
leads to a good state exactly when it is allowed, then a run ends well exactly when
each of its steps is allowed. -/
theorem follow_good_iff_each (I good : σ → Prop)
    (hinvariant : ∀ {s s' : σ} {e : ε}, I s → step s e = some s' → I s')
    (hgood : ∀ {s s' : σ} {e : ε}, I s → step s e = some s' → (good s' ↔ allowed s e))
    (hstop : ∀ {s s' : σ} {e : ε}, step s e = some s' → good s)
    {s s' : σ} (es : List ε) (hs : I s) (hstart : good s) (h : follow step s es = some s') :
    good s' ↔ Each allowed step s es := by
  induction es generalizing s with
  | nil =>
    cases h
    exact iff_of_true hstart trivial
  | cons e es ih =>
    obtain ⟨t,hstep,hrest⟩ := follow_cons.1 h
    rw [each_cons hstep,← hgood hs hstep]
    by_cases ht : good t
    · rw [ih (hinvariant hs hstep) ht hrest]
      exact (and_iff_right ht).symm
    · refine iff_of_false ?_ (fun hboth => ht hboth.1)
      -- nothing follows a bad state, so it is the last one
      cases es with
      | nil =>
        cases hrest
        exact ht
      | cons e' es =>
        obtain ⟨u,hnext,-⟩ := follow_cons.1 hrest
        exact absurd (hstop hnext) ht

/-- The same rule for systems that go on after a bad state but never recover. -/
theorem persistent_good_iff_each (I good : σ → Prop)
    (hinvariant : ∀ {s s' : σ} {e : ε}, I s → step s e = some s' → I s')
    (hgood : ∀ {s s' : σ} {e : ε}, I s → good s → step s e = some s' → (good s' ↔ allowed s e))
    (hbad : ∀ {s s' : σ} {e : ε}, I s → step s e = some s' → good s' → good s)
    {s s' : σ} (es : List ε) (hs : I s) (hstart : good s) (h : follow step s es = some s') :
    good s' ↔ Each allowed step s es := by
  have hback {s s' : σ} (es : List ε) (hs : I s) (h : follow step s es = some s') (hend : good s') :
      good s := by
    induction es generalizing s with
    | nil =>
      cases h
      exact hend
    | cons e es ih =>
      obtain ⟨t,hstep,hrest⟩ := follow_cons.1 h
      exact hbad hs hstep (ih (hinvariant hs hstep) hrest)
  induction es generalizing s with
  | nil =>
    cases h
    exact iff_of_true hstart trivial
  | cons e es ih =>
    obtain ⟨t,hstep,hrest⟩ := follow_cons.1 h
    have ht := hinvariant hs hstep
    rw [each_cons hstep,← hgood hs hstart hstep]
    constructor
    · intro hend
      have hgoodt := hback es ht hrest hend
      exact ⟨hgoodt,(ih ht hgoodt hrest).1 hend⟩
    · rintro ⟨hgoodt,heach⟩
      exact (ih ht hgoodt hrest).2 heach

end TvApp

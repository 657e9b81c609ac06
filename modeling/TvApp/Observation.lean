import TvApp.StepSystem

/-! What a run lets an observer see.
The steps of a machine emit observations, and an abstract machine that knows nothing of
the steps moves on by the observations alone.  A relation between the two that every
single step keeps is kept by every run.  For interleavings the observations made so far
are kept beside the state. -/
namespace TvApp

variable {σ ε ω τ : Type} {next : σ → ε → σ} {emit : σ → ε → List ω} {observe : τ → ω → τ}

def emitted (next : σ → ε → σ) (emit : σ → ε → List ω) (s : σ) : List ε → List ω
  | [] => []
  | e :: es => emit s e ++ emitted next emit (next s e) es

theorem emitted_append (s : σ) (es es' : List ε) :
    emitted next emit s (es ++ es') =
      emitted next emit s es ++ emitted next emit (es.foldl next s) es' := by
  induction es generalizing s with
  | nil => rfl
  | cons e es ih =>
    rw [List.cons_append,emitted,emitted,ih,List.foldl_cons,List.append_assoc]

/-- Simulation rule: the abstract state that has seen the observations of a run is
related to the state at its end. -/
theorem related_of_emitted (R : σ → τ → Prop)
    (hstep : ∀ {s : σ} {t : τ} (e : ε), R s t → R (next s e) ((emit s e).foldl observe t))
    {s : σ} {t : τ} (h : R s t) (es : List ε) :
    R (es.foldl next s) ((emitted next emit s es).foldl observe t) := by
  induction es generalizing s t with
  | nil => exact h
  | cons e es ih =>
    rw [List.foldl_cons,emitted,List.foldl_append]
    exact ih (hstep e h)

/-- Steps that keep the observations made so far. -/
def logged (step : σ → ε → Option σ) (emit : σ → ε → List ω) (p : σ × List ω) (e : ε) :
    Option (σ × List ω) :=
  (step p.1 e).map fun s => (s,p.2 ++ emit p.1 e)

theorem logged_eq_some {step : σ → ε → Option σ} {p p' : σ × List ω} {e : ε} :
    logged step emit p e = some p' ↔ step p.1 e = some p'.1 ∧ p'.2 = p.2 ++ emit p.1 e := by
  rw [logged,Option.map_eq_some_iff]
  constructor
  · rintro ⟨s,hs,rfl⟩
    exact ⟨hs,rfl⟩
  · rintro ⟨hs,hlog⟩
    exact ⟨p'.1,hs,Prod.ext rfl hlog.symm⟩

theorem Reach.logged {step : σ → ε → Option σ} {allowed : σ → ε → Prop} {s₀ s : σ}
    (emit : σ → ε → List ω) (h : Reach step allowed s₀ s) :
    ∃ log, Reach (logged step emit) (fun p => allowed p.1) (s₀,[]) (s,log) := by
  induction h with
  | start => exact ⟨[],.start⟩
  | next e _ hallowed hstep ih =>
    obtain ⟨log,hlog⟩ := ih
    exact ⟨_,hlog.next e hallowed (logged_eq_some.2 ⟨hstep,rfl⟩)⟩

end TvApp

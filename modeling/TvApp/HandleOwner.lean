import Mathlib.Tactic

/-! One variable that owns the handle of at most one live resource.
The discipline is the usual one of device code: the resource behind the variable
is released before the variable is overwritten.  Nothing here depends on what
the resources are. -/
namespace TvApp

variable {ρ : Type}

/-- Every live resource has the handle held in the variable, no live handle is
zero, and at most one resource is live. -/
structure Owned (handle : ρ → ℕ) (live : Set ρ) (current : ℕ) : Prop where
  handle_eq : ∀ r ∈ live, handle r = current
  handle_ne_zero : ∀ r ∈ live, handle r ≠ 0
  subsingleton : live.Subsingleton

namespace Owned

variable {handle : ρ → ℕ} {live : Set ρ} {current : ℕ}

theorem empty (handle : ρ → ℕ) (current : ℕ) : Owned handle ∅ current :=
  ⟨by simp,by simp,Set.subsingleton_empty⟩

theorem of_eq_empty (h : live = ∅) (current : ℕ) : Owned handle live current :=
  h ▸ empty handle current

theorem acquire {r : ρ} (hr : handle r ≠ 0) : Owned handle {r} (handle r) where
  handle_eq := by simp
  handle_ne_zero := by simpa using hr
  subsingleton := Set.subsingleton_singleton

theorem release (h : Owned handle live current) : {r ∈ live | handle r ≠ current} = ∅ := by
  ext r
  simpa using h.handle_eq r

theorem eq_empty (h : Owned handle live current) (hfree : ∀ r ∈ live, handle r ≠ current) :
    live = ∅ := by
  ext r
  simp only [Set.mem_empty_iff_false,iff_false]
  intro hr
  exact hfree r hr (h.handle_eq r hr)

theorem free_of_zero (h : Owned handle live current) (hzero : current = 0) :
    ∀ r ∈ live, handle r ≠ current := by
  rw [hzero]
  exact h.handle_ne_zero

end Owned
end TvApp

import Mathlib.Tactic
import Mathlib.Data.Int.ModEq

/-! Steps up and down in the range 0..n-1 with a wrap at each end.
The two rules are written with a comparison against the last position; both are
addition modulo n, so a sequence of steps is determined by how many there are of
each kind, and n steps in one direction visit every position once. -/
namespace TvApp
namespace CyclicWalk

def next (n p : ℤ) : ℤ := if p ≥ n-1 then 0 else p+1

def prev (n p : ℤ) : ℤ := if p ≤ 0 then n-1 else p-1

def Within (n p : ℤ) : Prop := 0 ≤ p ∧ p < n

theorem within_emod {n : ℤ} (hn : 0 < n) (p : ℤ) : Within n (p%n) :=
  ⟨Int.emod_nonneg p hn.ne',Int.emod_lt_of_pos p hn⟩

theorem next_eq_emod {n p : ℤ} (hp : Within n p) : next n p = (p+1)%n := by
  obtain ⟨h0,hn⟩ := hp
  simp only [next]
  split
  · have hlast : p+1 = n := by omega
    rw [hlast,Int.emod_self]
  · exact (Int.emod_eq_of_lt (by omega) (by omega)).symm

theorem prev_eq_emod {n p : ℤ} (hp : Within n p) : prev n p = (p-1)%n := by
  obtain ⟨h0,hn⟩ := hp
  simp only [prev]
  split
  · have hfirst : p = 0 := by omega
    -- one below the first position is the last one
    rw [hfirst,← Int.add_emod_right,Int.emod_eq_of_lt (by omega) (by omega)]
    omega
  · exact (Int.emod_eq_of_lt (by omega) (by omega)).symm

theorem Within.eq_of_emod_eq {n p q : ℤ} (hp : Within n p) (hq : Within n q) (h : p%n = q%n) :
    p = q := by
  rwa [Int.emod_eq_of_lt hp.1 hp.2,Int.emod_eq_of_lt hq.1 hq.2] at h

theorem Within.eq_of_add_emod_eq {n p q k : ℤ} (hp : Within n p) (hq : Within n q)
    (h : (p+k)%n = (q+k)%n) : p = q :=
  hp.eq_of_emod_eq hq (Int.ModEq.add_right_cancel' k h)

/-- Among n consecutive values every position occurs exactly once. -/
theorem existsUnique_emod_eq {n : ℕ} (hn : 0 < n) (p : ℤ) {s : ℤ} (hs : Within n s) :
    ∃! i : ℕ, i < n ∧ (p+i)%n = s := by
  have hpos : (0 : ℤ) < n := by exact_mod_cast hn
  have hi := within_emod hpos (s-p)
  refine ⟨((s-p)%n).toNat,⟨?_,?_⟩,?_⟩
  · have := hi.1
    have := hi.2
    omega
  · have hcast : (((s-p)%n).toNat : ℤ) = (s-p)%n := Int.toNat_of_nonneg hi.1
    rw [hcast,Int.add_emod_emod,add_sub_cancel,Int.emod_eq_of_lt hs.1 hs.2]
  · rintro j ⟨hj,hjs⟩
    have hjn : Within n (j : ℤ) := ⟨Int.natCast_nonneg j,by exact_mod_cast hj⟩
    have hmod : (j : ℤ)%n = (s-p)%n := by
      rw [← hjs,Int.emod_sub_emod,add_sub_cancel_left]
    rw [Int.emod_eq_of_lt hjn.1 hjn.2] at hmod
    omega

end CyclicWalk
end TvApp

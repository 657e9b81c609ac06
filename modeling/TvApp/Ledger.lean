import Mathlib.Data.Finset.SDiff
import Mathlib.Tactic

/-! What a program holds, and whether it ever lost or returned something twice.
Acquiring a resource that is held loses the first one; releasing one that is not held
returns it twice.  Either is recorded for good. -/
namespace TvApp

structure Ledger (ρ : Type) where
  held : Finset ρ
  misused : Bool

namespace Ledger

variable {ρ : Type} [DecidableEq ρ]

def empty : Ledger ρ := ⟨∅,false⟩

def acquire (l : Ledger ρ) (r : ρ) : Ledger ρ :=
  if r ∈ l.held then { l with misused := true } else { l with held := insert r l.held }

def release (l : Ledger ρ) (r : ρ) : Ledger ρ :=
  if r ∈ l.held then { l with held := l.held.erase r } else { l with misused := true }

def releaseAll (l : Ledger ρ) (rs : List ρ) : Ledger ρ := rs.foldl release l

theorem release_of_mem {l : Ledger ρ} {r : ρ} (h : r ∈ l.held) :
    l.release r = ⟨l.held.erase r,l.misused⟩ := if_pos h

/-- Resources that are held, each once, may be released in any order. -/
theorem releaseAll_of_nodup {l : Ledger ρ} {rs : List ρ} (hnodup : rs.Nodup)
    (hheld : ∀ r ∈ rs, r ∈ l.held) : l.releaseAll rs = ⟨l.held \ rs.toFinset,l.misused⟩ := by
  induction rs generalizing l with
  | nil => rw [List.toFinset_nil,Finset.sdiff_empty]; rfl
  | cons r rs ih =>
    obtain ⟨hr,hrest⟩ := List.nodup_cons.1 hnodup
    have hlater : ∀ r' ∈ rs, r' ∈ (l.release r).held := by
      intro r' hr'
      rw [release_of_mem (hheld r List.mem_cons_self)]
      refine Finset.mem_erase.2 ⟨?_,hheld r' (List.mem_cons_of_mem r hr')⟩
      rintro rfl
      exact hr hr'
    have hstep : l.releaseAll (r :: rs) = (l.release r).releaseAll rs := rfl
    rw [hstep,ih hrest hlater,release_of_mem (hheld r List.mem_cons_self),List.toFinset_cons,
      Finset.sdiff_insert,Finset.erase_sdiff_comm]

end Ledger
end TvApp

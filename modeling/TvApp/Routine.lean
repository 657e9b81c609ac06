import Mathlib.Tactic

/-! Memory-access routines.
A routine is C code that reads bytes of a buffer through a pointer and indexes
fixed-size arrays.  It is kept as the tree of the accesses it makes, so that one
definition gives its value, the positions it reads and the subscripts it forms.
The pointer carries no length: a buffer is a total function on positions, and
what lies beyond the real buffer is an arbitrary byte.  Whether a routine stays
inside is a statement about `reads`. -/
namespace TvApp

/-- A subscript outside an array of `cap` elements; the C program is undefined there. -/
structure Fault where
  cap : ℕ
  index : ℤ
  deriving DecidableEq, Repr

/-- The element that a subscript in range names. -/
abbrev Slot (cap : ℕ) (i : ℤ) := {k : Fin cap // (k.val : ℤ) = i}

inductive Routine (α : Type) : Type
  | done (a : α)
  | load (i : ℕ) (next : UInt8 → Routine α)
  | subscript (cap : ℕ) (i : ℤ) (next : Slot cap i → Routine α)

abbrev Buffer := ℕ → UInt8

namespace Routine

variable {α β : Type}

def bind : Routine α → (α → Routine β) → Routine β
  | .done a, f => f a
  | .load i next, f => .load i fun b => bind (next b) f
  | .subscript cap i next, f => .subscript cap i fun k => bind (next k) f

instance : Monad Routine where
  pure := .done
  bind := bind

def byte (i : ℕ) : Routine UInt8 := .load i .done

def slot (cap : ℕ) (i : ℤ) : Routine (Slot cap i) := .subscript cap i .done

def run (buf : Buffer) : Routine α → Except Fault α
  | .done a => .ok a
  | .load i next => run buf (next (buf i))
  | .subscript cap i next =>
    if h : 0 ≤ i ∧ i < cap then run buf (next ⟨⟨i.toNat,by omega⟩,by simp [h.1]⟩) else .error ⟨cap,i⟩

/-- Positions of the buffer read before the routine returns or faults, in order. -/
def reads (buf : Buffer) : Routine α → List ℕ
  | .done _ => []
  | .load i next => i :: reads buf (next (buf i))
  | .subscript cap i next =>
    if h : 0 ≤ i ∧ i < cap then reads buf (next ⟨⟨i.toNat,by omega⟩,by simp [h.1]⟩) else []

/-- Array subscripts formed by the routine, the faulting one included. -/
def subscripts (buf : Buffer) : Routine α → List ℤ
  | .done _ => []
  | .load i next => subscripts buf (next (buf i))
  | .subscript cap i next =>
    i :: if h : 0 ≤ i ∧ i < cap then subscripts buf (next ⟨⟨i.toNat,by omega⟩,by simp [h.1]⟩) else []

@[simp] theorem run_pure (buf : Buffer) (a : α) : run buf (pure a : Routine α) = .ok a := rfl
@[simp] theorem reads_pure (buf : Buffer) (a : α) : reads buf (pure a : Routine α) = [] := rfl
@[simp] theorem subscripts_pure (buf : Buffer) (a : α) :
    subscripts buf (pure a : Routine α) = [] := rfl

@[simp] theorem run_byte (buf : Buffer) (i : ℕ) : run buf (byte i) = .ok (buf i) := rfl
@[simp] theorem reads_byte (buf : Buffer) (i : ℕ) : reads buf (byte i) = [i] := rfl
@[simp] theorem subscripts_byte (buf : Buffer) (i : ℕ) : subscripts buf (byte i) = [] := rfl

theorem run_slot (buf : Buffer) {cap n : ℕ} (h : n < cap) :
    run buf (slot cap (n : ℤ)) = .ok ⟨⟨n,h⟩,rfl⟩ := by
  simp [slot,run,h]

theorem run_slot_fault (buf : Buffer) {cap n : ℕ} (h : cap ≤ n) :
    run buf (slot cap (n : ℤ)) = .error ⟨cap,n⟩ := by
  simp [slot,run,h]

@[simp] theorem reads_slot (buf : Buffer) (cap : ℕ) (i : ℤ) : reads buf (slot cap i) = [] := by
  simp [slot,reads]

@[simp] theorem subscripts_slot (buf : Buffer) (cap : ℕ) (i : ℤ) :
    subscripts buf (slot cap i) = [i] := by
  simp [slot,subscripts]

@[simp] theorem run_bind (buf : Buffer) (m : Routine α) (f : α → Routine β) :
    run buf (m >>= f) = run buf m >>= fun a => run buf (f a) := by
  change run buf (bind m f) = _
  induction m with
  | done a => rfl
  | load i next ih => exact ih (buf i)
  | subscript cap i next ih =>
    simp only [bind,run]
    split
    · exact ih _
    · rfl

theorem reads_bind (buf : Buffer) (m : Routine α) (f : α → Routine β) :
    reads buf (m >>= f) = reads buf m ++ (run buf m).toOption.elim [] fun a => reads buf (f a) := by
  change reads buf (bind m f) = _
  induction m with
  | done a => rfl
  | load i next ih => simp only [bind,reads,run,ih,List.cons_append]
  | subscript cap i next ih =>
    simp only [bind,reads,run]
    split
    · exact ih _
    · rfl

theorem subscripts_bind (buf : Buffer) (m : Routine α) (f : α → Routine β) :
    subscripts buf (m >>= f) =
      subscripts buf m ++ (run buf m).toOption.elim [] fun a => subscripts buf (f a) := by
  change subscripts buf (bind m f) = _
  induction m with
  | done a => rfl
  | load i next ih => simp only [bind,subscripts,run,ih]
  | subscript cap i next ih =>
    simp only [bind,subscripts,run]
    split
    · simp only [ih,List.cons_append]
    · rfl

/-- Total correctness with a footprint: the routine returns without a fault, the
value satisfies `Q`, every byte read lies below `limit` and every subscript
formed lies below `cap`. -/
structure Safe (buf : Buffer) (limit cap : ℕ) (m : Routine α) (Q : α → Prop) : Prop where
  returns : ∃ a, run buf m = .ok a ∧ Q a
  reads_lt : ∀ i ∈ reads buf m, i < limit
  subscripts_mem : ∀ i ∈ subscripts buf m, 0 ≤ i ∧ i < cap

namespace Safe

variable {buf : Buffer} {limit cap : ℕ}

theorem pure {Q : α → Prop} {a : α} (ha : Q a) :
    Safe buf limit cap (Pure.pure a : Routine α) Q :=
  ⟨⟨a,rfl,ha⟩,by simp,by simp⟩

theorem byte {i : ℕ} (hi : i < limit) :
    Safe buf limit cap (Routine.byte i) fun b => b = buf i :=
  ⟨⟨buf i,rfl,rfl⟩,by simpa using hi,by simp⟩

theorem slot {n : ℕ} (hn : n < cap) :
    Safe buf limit cap (Routine.slot cap (n : ℤ)) fun k => k = ⟨⟨n,hn⟩,rfl⟩ :=
  ⟨⟨⟨⟨n,hn⟩,rfl⟩,run_slot buf hn,rfl⟩,by simp,by simpa using hn⟩

theorem bind {m : Routine α} {f : α → Routine β} {P : α → Prop} {Q : β → Prop}
    (hm : Safe buf limit cap m P) (hf : ∀ a, P a → Safe buf limit cap (f a) Q) :
    Safe buf limit cap (m >>= f) Q := by
  obtain ⟨a,hrun,ha⟩ := hm.returns
  have hs := hf a ha
  refine ⟨?_,?_,?_⟩
  · obtain ⟨b,hb,hq⟩ := hs.returns
    exact ⟨b,by rw [run_bind,hrun]; exact hb,hq⟩
  · intro i hi
    rw [reads_bind,hrun] at hi
    rcases List.mem_append.mp hi with hi | hi
    · exact hm.reads_lt i hi
    · exact hs.reads_lt i hi
  · intro i hi
    rw [subscripts_bind,hrun] at hi
    rcases List.mem_append.mp hi with hi | hi
    · exact hm.subscripts_mem i hi
    · exact hs.subscripts_mem i hi

theorem mono {m : Routine α} {P Q : α → Prop} (hm : Safe buf limit cap m P)
    (hPQ : ∀ a, P a → Q a) : Safe buf limit cap m Q := by
  obtain ⟨a,hrun,ha⟩ := hm.returns
  exact ⟨⟨a,hrun,hPQ a ha⟩,hm.reads_lt,hm.subscripts_mem⟩

theorem run_eq {m : Routine α} {x : α} (hm : Safe buf limit cap m fun a => a = x) :
    run buf m = .ok x := by
  obtain ⟨a,hrun,rfl⟩ := hm.returns
  exact hrun

end Safe

/-- Every subscript that the routine forms lies below `cap`, whether it returns or not. -/
def Inside (buf : Buffer) (cap : ℕ) (m : Routine α) : Prop :=
  ∀ i ∈ subscripts buf m, 0 ≤ i ∧ i < cap

theorem Safe.peel {buf : Buffer} {limit cap : ℕ} {m : Routine α} {P : α → Prop}
    (hm : Safe buf limit cap m P) (f : α → Routine β) :
    ∃ a, P a ∧ run buf (m >>= f) = run buf (f a) ∧
      (Inside buf cap (m >>= f) ↔ Inside buf cap (f a)) := by
  obtain ⟨a,hrun,ha⟩ := hm.returns
  have hsubs : subscripts buf (m >>= f) = subscripts buf m ++ subscripts buf (f a) := by
    rw [subscripts_bind,hrun]
    rfl
  refine ⟨a,ha,?_,?_⟩
  · rw [run_bind,hrun]
    rfl
  · rw [Inside,Inside,hsubs]
    constructor
    · intro h i hi
      exact h i (List.mem_append_right _ hi)
    · intro h i hi
      rcases List.mem_append.mp hi with hi | hi
      · exact hm.subscripts_mem i hi
      · exact h i hi

end Routine

/-- The bytes of `word` stand in the buffer from position `pos` on. -/
def Holds (buf : Buffer) (pos : ℕ) (word : List UInt8) : Prop :=
  ∀ i, (h : i < word.length) → buf (pos+i) = word[i]

theorem holds_getD (word : List UInt8) : Holds (fun i => word.getD i 0) 0 word := by
  intro i hi
  simp [hi]

theorem Holds.append_left {buf : Buffer} {pos : ℕ} {u v : List UInt8}
    (h : Holds buf pos (u++v)) : Holds buf pos u := by
  intro i hi
  rw [h i (by rw [List.length_append]; omega),List.getElem_append_left hi]

theorem Holds.append_right {buf : Buffer} {pos : ℕ} {u v : List UInt8}
    (h : Holds buf pos (u++v)) : Holds buf (pos+u.length) v := by
  intro i hi
  have hb := h (u.length+i) (by rw [List.length_append]; omega)
  rw [← Nat.add_assoc] at hb
  rw [hb,List.getElem_append_right (by omega)]
  simp

end TvApp

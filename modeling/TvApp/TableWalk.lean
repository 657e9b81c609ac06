import TvApp.Routine

/-! The length-driven walk over a list of variable-size entries.
Two accumulators advance together: the position in the buffer and the length
parsed so far.  The loop test looks at the length only, the capacity of the
destination array is tested before every entry, and each entry is stored in the
next free slot. -/
namespace TvApp

/-- The variables of the loop. -/
structure Walk (cap : ℕ) (ε : Type) where
  parsedLength : ℕ
  position : ℕ
  entries : Fin cap → ε
  count : ℕ

namespace Walk

variable {cap : ℕ} {ε : Type}

/-- Store one entry of `n` bytes in the next slot and advance both accumulators. -/
def push (s : Walk cap ε) (n : ℕ) (e : ε) : Walk cap ε where
  parsedLength := s.parsedLength+n
  position := s.position+n
  entries := fun i => if i.val = s.count then e else s.entries i
  count := s.count+1

@[simp] theorem push_parsedLength (s : Walk cap ε) (n : ℕ) (e : ε) :
    (s.push n e).parsedLength = s.parsedLength+n := rfl
@[simp] theorem push_position (s : Walk cap ε) (n : ℕ) (e : ε) :
    (s.push n e).position = s.position+n := rfl
@[simp] theorem push_count (s : Walk cap ε) (n : ℕ) (e : ε) : (s.push n e).count = s.count+1 := rfl

def pushAll (size : ε → ℕ) (s : Walk cap ε) (es : List ε) : Walk cap ε :=
  es.foldl (fun s e => s.push (size e) e) s

@[simp] theorem pushAll_count (size : ε → ℕ) (s : Walk cap ε) (es : List ε) :
    (s.pushAll size es).count = s.count+es.length := by
  induction es generalizing s with
  | nil => rfl
  | cons e es ih =>
    change ((s.push (size e) e).pushAll size es).count = _
    rw [ih,push_count,List.length_cons]
    omega

theorem pushAll_parsedLength (size : ε → ℕ) (s : Walk cap ε) (es : List ε) :
    (s.pushAll size es).parsedLength = s.parsedLength+(es.map size).sum := by
  induction es generalizing s with
  | nil => rfl
  | cons e es ih =>
    change ((s.push (size e) e).pushAll size es).parsedLength = _
    rw [ih,push_parsedLength,List.map_cons,List.sum_cons]
    omega

theorem pushAll_position (size : ε → ℕ) (s : Walk cap ε) (es : List ε) :
    (s.pushAll size es).position = s.position+(es.map size).sum := by
  induction es generalizing s with
  | nil => rfl
  | cons e es ih =>
    change ((s.push (size e) e).pushAll size es).position = _
    rw [ih,push_position,List.map_cons,List.sum_cons]
    omega

theorem pushAll_entries_of_lt (size : ε → ℕ) (s : Walk cap ε) (es : List ε) (i : Fin cap)
    (hi : i.val < s.count) : (s.pushAll size es).entries i = s.entries i := by
  induction es generalizing s with
  | nil => rfl
  | cons e es ih =>
    change ((s.push (size e) e).pushAll size es).entries i = _
    rw [ih _ (by rw [push_count]; omega)]
    exact if_neg (by omega)

theorem pushAll_entries (size : ε → ℕ) (s : Walk cap ε) (es : List ε) (j : ℕ)
    (hj : j < es.length) (i : Fin cap) (hi : i.val = s.count+j) :
    (s.pushAll size es).entries i = es[j] := by
  induction es generalizing s j with
  | nil => simp at hj
  | cons e es ih =>
    change ((s.push (size e) e).pushAll size es).entries i = _
    cases j with
    | zero =>
      rw [pushAll_entries_of_lt _ _ _ _ (by rw [push_count]; omega)]
      exact if_pos (by omega)
    | succ j =>
      rw [List.getElem_cons_succ]
      exact ih _ j (by simpa using hj) (by rw [push_count]; omega)

/-- The loop.  It returns `false` when a further entry is due and the array is full. -/
def loop (entry : ℕ → Routine ε) (size : ε → ℕ) (sectionLength : ℕ) (s : Walk cap ε) :
    Routine (Bool × Walk cap ε) :=
  if s.parsedLength < sectionLength then
    if cap ≤ s.count then pure (false,s)
    else do
      let k ← Routine.slot cap s.count
      let e ← entry s.position
      loop entry size sectionLength
        { parsedLength := s.parsedLength+size e
          position := s.position+size e
          entries := Function.update s.entries k.1 e
          count := s.count+1 }
  else pure (true,s)
termination_by cap-s.count

variable {entry : ℕ → Routine ε} {size : ε → ℕ} {sectionLength : ℕ}

theorem update_eq_push (s : Walk cap ε) (h : s.count < cap) (e : ε) :
    (⟨s.parsedLength+size e,s.position+size e,Function.update s.entries ⟨s.count,h⟩ e,s.count+1⟩ :
      Walk cap ε) = s.push (size e) e := by
  simp only [push,Walk.mk.injEq,true_and,and_true]
  funext i
  simp [Function.update_apply,Fin.ext_iff]

theorem loop_end {s : Walk cap ε} (h : sectionLength ≤ s.parsedLength) :
    loop entry size sectionLength s = pure (true,s) := by
  rw [loop,if_neg (by omega)]

theorem loop_full {s : Walk cap ε} (h : s.parsedLength < sectionLength) (hc : cap ≤ s.count) :
    loop entry size sectionLength s = pure (false,s) := by
  rw [loop,if_pos h,if_pos hc]

theorem run_loop_step {buf : Buffer} {s : Walk cap ε} {e : ε} (h : s.parsedLength < sectionLength)
    (hc : s.count < cap) (he : Routine.run buf (entry s.position) = .ok e) :
    Routine.run buf (loop entry size sectionLength s) =
      Routine.run buf (loop entry size sectionLength (s.push (size e) e)) := by
  rw [loop,if_pos h,if_neg (by omega),Routine.run_bind,Routine.run_slot buf hc]
  change Routine.run buf (entry s.position >>= _) = _
  rw [Routine.run_bind,he,← update_eq_push s hc e]
  rfl

/-- Invariant rule.  If each entry read from a state of the invariant is safe and
its push keeps the invariant, then the whole loop is safe and ends in the invariant. -/
theorem loop_safe {buf : Buffer} {limit : ℕ} {I : Walk cap ε → Prop}
    (hstep : ∀ s, I s → s.parsedLength < sectionLength → s.count < cap →
      Routine.Safe buf limit cap (entry s.position) fun e => I (s.push (size e) e))
    (s : Walk cap ε) (hs : I s) :
    Routine.Safe buf limit cap (loop entry size sectionLength s) fun r => I r.2 := by
  rw [loop]
  split
  · rename_i hlen
    split
    · exact .pure hs
    · rename_i hroom
      have hc : s.count < cap := by omega
      refine (Routine.Safe.slot hc).bind fun k hk => (hstep s hs hlen hc).bind fun e he => ?_
      subst hk
      rw [update_eq_push s hc e]
      exact loop_safe hstep _ he
  · exact .pure hs
termination_by cap-s.count

/-- Round trip.  On a buffer that holds the encodings of `xs` one after another,
the loop stores what each of them decodes to, as long as there is room. -/
theorem run_loop_encoded {ξ : Type} {buf : Buffer} (enc : ξ → List UInt8) (dec : ξ → ε)
    (xs : List ξ) (s : Walk cap ε)
    (hdec : ∀ x ∈ xs, ∀ pos, Holds buf pos (enc x) → Routine.run buf (entry pos) = .ok (dec x))
    (hsize : ∀ x ∈ xs, size (dec x) = (enc x).length) (hpos : ∀ x ∈ xs, 0 < (enc x).length)
    (hcount : s.count ≤ cap) (hbuf : Holds buf s.position (xs.flatMap enc))
    (hlen : sectionLength = s.parsedLength+(xs.flatMap enc).length) :
    Routine.run buf (loop entry size sectionLength s) =
      .ok (decide (s.count+xs.length ≤ cap),
        s.pushAll size ((xs.map dec).take (cap-s.count))) := by
  induction xs generalizing s with
  | nil =>
    rw [loop_end (by simp [hlen])]
    simp [pushAll,hcount]
  | cons x xs ih =>
    have hx : 0 < (enc x).length := hpos x (by simp)
    have hsz : size (dec x) = (enc x).length := hsize x (by simp)
    rw [List.flatMap_cons] at hbuf
    rw [List.flatMap_cons,List.length_append] at hlen
    have hlt : s.parsedLength < sectionLength := by omega
    by_cases hroom : s.count < cap
    · obtain ⟨room,hr⟩ : ∃ room, cap-s.count = room+1 := ⟨cap-s.count-1,by omega⟩
      have hrun := hdec x (by simp) s.position hbuf.append_left
      have hrest : Holds buf (s.push (size (dec x)) (dec x)).position (xs.flatMap enc) := by
        rw [push_position,hsz]
        exact hbuf.append_right
      rw [run_loop_step hlt hroom hrun,
        ih _ (fun y hy => hdec y (by simp [hy])) (fun y hy => hsize y (by simp [hy]))
          (fun y hy => hpos y (by simp [hy])) (by rw [push_count]; omega) hrest
          (by rw [push_parsedLength,hsz]; omega)]
      have hroom' : cap-(s.push (size (dec x)) (dec x)).count = room := by
        rw [push_count]; omega
      rw [hroom',hr,List.map_cons,List.take_succ_cons,push_count,List.length_cons]
      simp only [pushAll,List.foldl_cons,Nat.add_assoc,Nat.add_comm 1]
    · have hfull : cap-s.count = 0 := by omega
      rw [loop_full hlt (by omega),hfull]
      simp [pushAll]
      omega

/-- Positions of the entries that the loop reads when the bytes at `p` decode to
`entryAt p` and `room` slots are left.  The next position depends on the entry. -/
def visited (entryAt : ℕ → ε) (size : ε → ℕ) (sectionLength : ℕ) : ℕ → ℕ → ℕ → List ℕ
  | 0, _, _ => []
  | room+1, parsedLength, position =>
    if parsedLength < sectionLength then
      position :: visited entryAt size sectionLength room (parsedLength+size (entryAt position))
        (position+size (entryAt position))
    else []

variable {entryAt entryAt' : ℕ → ε}

theorem visited_end {room parsedLength position : ℕ} (h : sectionLength ≤ parsedLength) :
    visited entryAt size sectionLength room parsedLength position = [] := by
  cases room with
  | zero => rfl
  | succ room => rw [visited,if_neg (by omega)]

theorem visited_step {room parsedLength position : ℕ} (h : parsedLength < sectionLength) :
    visited entryAt size sectionLength (room+1) parsedLength position =
      position :: visited entryAt size sectionLength room (parsedLength+size (entryAt position))
        (position+size (entryAt position)) := by
  rw [visited,if_pos h]

theorem visited_length_le (room parsedLength position : ℕ) :
    (visited entryAt size sectionLength room parsedLength position).length ≤ room := by
  induction room generalizing parsedLength position with
  | zero => exact le_rfl
  | succ room ih =>
    rw [visited]
    split
    · rw [List.length_cons]
      exact Nat.succ_le_succ (ih _ _)
    · exact Nat.zero_le _

theorem visited_congr {room parsedLength position : ℕ}
    (h : ∀ p ∈ visited entryAt size sectionLength room parsedLength position,
      entryAt p = entryAt' p) :
    visited entryAt' size sectionLength room parsedLength position =
      visited entryAt size sectionLength room parsedLength position := by
  induction room generalizing parsedLength position with
  | zero => rfl
  | succ room ih =>
    by_cases hlen : parsedLength < sectionLength
    · rw [visited_step hlen] at h
      have hhead : entryAt position = entryAt' position := h position List.mem_cons_self
      rw [visited_step hlen,visited_step hlen,← hhead,
        ih fun p hp => h p (List.mem_cons_of_mem position hp)]
    · rw [visited_end (by omega),visited_end (by omega)]

/-- The state in which the loop ends, as a function of the decoding alone. -/
def final (entryAt : ℕ → ε) (size : ε → ℕ) (sectionLength : ℕ) (s : Walk cap ε) : Walk cap ε :=
  s.pushAll size ((visited entryAt size sectionLength (cap-s.count) s.parsedLength
    s.position).map entryAt)

theorem final_end {s : Walk cap ε} (h : sectionLength ≤ s.parsedLength) :
    s.final entryAt size sectionLength = s := by
  rw [final,visited_end h]
  rfl

theorem final_full {s : Walk cap ε} (h : cap ≤ s.count) :
    s.final entryAt size sectionLength = s := by
  rw [final,Nat.sub_eq_zero_of_le h]
  rfl

theorem final_step {s : Walk cap ε} (h : s.parsedLength < sectionLength) (hc : s.count < cap) :
    s.final entryAt size sectionLength =
      (s.push (size (entryAt s.position)) (entryAt s.position)).final entryAt size
        sectionLength := by
  obtain ⟨room,hroom⟩ : ∃ room, cap-s.count = room+1 := ⟨cap-s.count-1,by omega⟩
  have hrest : cap-(s.push (size (entryAt s.position)) (entryAt s.position)).count = room := by
    rw [push_count]
    omega
  rw [final,final,hroom,hrest,visited_step h]
  rfl

theorem final_count_of_short (s : Walk cap ε)
    (h : (s.final entryAt size sectionLength).parsedLength < sectionLength) :
    cap ≤ (s.final entryAt size sectionLength).count := by
  by_cases hlen : s.parsedLength < sectionLength
  · by_cases hc : s.count < cap
    · rw [final_step hlen hc] at h ⊢
      exact final_count_of_short _ h
    · rw [final_full (by omega)]
      omega
  · rw [final_end (by omega)] at h
    omega
termination_by cap-s.count
decreasing_by
  rw [push_count]
  omega

/-- What the loop returns when every entry routine returns: it is full exactly if
the final state still falls short of the section length. -/
theorem run_loop_visited {buf : Buffer}
    (hentry : ∀ p, Routine.run buf (entry p) = .ok (entryAt p)) (s : Walk cap ε) :
    Routine.run buf (loop entry size sectionLength s) =
      .ok (decide (sectionLength ≤ (s.final entryAt size sectionLength).parsedLength),
        s.final entryAt size sectionLength) := by
  by_cases hlen : s.parsedLength < sectionLength
  · by_cases hc : s.count < cap
    · rw [run_loop_step hlen hc (hentry s.position),final_step hlen hc]
      exact run_loop_visited hentry _
    · rw [loop_full hlen (by omega),final_full (by omega)]
      simp [hlen]
  · rw [loop_end (by omega),final_end (by omega)]
    simp [Nat.le_of_not_lt hlen]
termination_by cap-s.count
decreasing_by
  rw [push_count]
  omega

theorem reads_loop_visited {buf : Buffer}
    (hentry : ∀ p, Routine.run buf (entry p) = .ok (entryAt p)) (s : Walk cap ε) :
    Routine.reads buf (loop entry size sectionLength s) =
      (visited entryAt size sectionLength (cap-s.count) s.parsedLength s.position).flatMap
        fun p => Routine.reads buf (entry p) := by
  by_cases hlen : s.parsedLength < sectionLength
  · by_cases hc : s.count < cap
    · have ih := reads_loop_visited hentry
        (s.push (size (entryAt s.position)) (entryAt s.position))
      obtain ⟨room,hroom⟩ : ∃ room, cap-s.count = room+1 := ⟨cap-s.count-1,by omega⟩
      rw [push_count,show cap-(s.count+1) = room by omega,push_parsedLength,push_position] at ih
      rw [loop,if_pos hlen,if_neg (by omega),Routine.reads_bind,Routine.run_slot buf hc,
        Routine.reads_slot,hroom,visited_step hlen,List.flatMap_cons]
      change [] ++ Routine.reads buf (entry s.position >>= _) = _
      rw [Routine.reads_bind,hentry s.position,List.nil_append]
      exact congrArg (Routine.reads buf (entry s.position) ++ ·)
        (by rw [← ih,← update_eq_push s hc]; rfl)
    · rw [loop_full hlen (by omega),Nat.sub_eq_zero_of_le (by omega)]
      rfl
  · rw [loop_end (by omega),visited_end (by omega)]
    rfl
termination_by cap-s.count
decreasing_by
  rw [push_count]
  omega

/-- Bytes taken up by the next `n` entries from `position` on. -/
def span (entryAt : ℕ → ε) (size : ε → ℕ) : ℕ → ℕ → ℕ
  | _, 0 => 0
  | position, n+1 => size (entryAt position)+span entryAt size (position+size (entryAt position)) n

def visitedLength (entryAt : ℕ → ε) (size : ε → ℕ) (sectionLength room parsedLength position : ℕ) :
    ℕ :=
  ((visited entryAt size sectionLength room parsedLength position).map
    fun p => size (entryAt p)).sum

theorem visitedLength_end {room parsedLength position : ℕ} (h : sectionLength ≤ parsedLength) :
    visitedLength entryAt size sectionLength room parsedLength position = 0 := by
  rw [visitedLength,visited_end h]
  rfl

theorem visitedLength_step {room parsedLength position : ℕ} (h : parsedLength < sectionLength) :
    visitedLength entryAt size sectionLength (room+1) parsedLength position =
      size (entryAt position)+visitedLength entryAt size sectionLength room
        (parsedLength+size (entryAt position)) (position+size (entryAt position)) := by
  rw [visitedLength,visited_step h,List.map_cons,List.sum_cons]
  rfl

theorem visited_before_end {room parsedLength position p : ℕ}
    (hp : p ∈ visited entryAt size sectionLength room parsedLength position) :
    p+size (entryAt p) ≤
      position+visitedLength entryAt size sectionLength room parsedLength position := by
  induction room generalizing parsedLength position with
  | zero => exact absurd hp List.not_mem_nil
  | succ room ih =>
    by_cases hlen : parsedLength < sectionLength
    · rw [visited_step hlen] at hp
      rw [visitedLength_step hlen]
      rcases List.mem_cons.mp hp with rfl | hp
      · omega
      · have := ih hp
        omega
    · rw [visited_end (by omega)] at hp
      exact absurd hp List.not_mem_nil

theorem visitedLength_le_span (room parsedLength position : ℕ) :
    visitedLength entryAt size sectionLength room parsedLength position ≤
      span entryAt size position room := by
  induction room generalizing parsedLength position with
  | zero => exact le_rfl
  | succ room ih =>
    by_cases hlen : parsedLength < sectionLength
    · rw [visitedLength_step hlen,span]
      exact Nat.add_le_add_left (ih _ _) _
    · rw [visitedLength_end (by omega)]
      exact Nat.zero_le _

/-- The loop test is an inequality, so a walk that is not cut short ends at or past the
section length.  It ends exactly there if some number of entries does, and it is cut
short if all the slots together fall short. -/
theorem exact_iff (room parsedLength position : ℕ) :
    (sectionLength ≤ parsedLength+visitedLength entryAt size sectionLength room parsedLength position →
        parsedLength+visitedLength entryAt size sectionLength room parsedLength position =
          sectionLength) ↔
      parsedLength+span entryAt size position room < sectionLength ∨
        ∃ n ≤ room, parsedLength+span entryAt size position n = sectionLength := by
  induction room generalizing parsedLength position with
  | zero =>
    have hzero : visitedLength entryAt size sectionLength 0 parsedLength position = 0 := rfl
    simp only [hzero,span,Nat.le_zero,exists_eq_left]
    omega
  | succ room ih =>
    by_cases hlen : parsedLength < sectionLength
    · have hrest := ih (parsedLength+size (entryAt position)) (position+size (entryAt position))
      rw [Nat.add_assoc,Nat.add_assoc] at hrest
      rw [visitedLength_step hlen,hrest,span]
      -- no entry at all does not reach the length
      refine or_congr Iff.rfl ⟨?_,?_⟩
      · rintro ⟨n,hn,heq⟩
        exact ⟨n+1,by omega,by rw [span]; omega⟩
      · rintro ⟨n,hn,heq⟩
        cases n with
        | zero =>
          rw [span] at heq
          omega
        | succ n => exact ⟨n,by omega,by rw [span] at heq; omega⟩
    · rw [visitedLength_end (by omega)]
      constructor
      · intro h
        exact .inr ⟨0,Nat.zero_le _,by rw [span]; omega⟩
      · rintro (h | ⟨n,-,h⟩)
        · omega
        · omega

end Walk
end TvApp

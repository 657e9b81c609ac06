import Mathlib.Data.List.GetD
import TvApp.Routine

/-! NUL-terminated strings in character arrays, and the C library functions on them.
An array is a function on its subscripts and a pointer into it a position; every
element that is read or written is one `slot`, so a run past either end is a fault.
A character is the `Char` of its code. -/
namespace TvApp

open Routine

abbrev nul : Char := Char.ofNat 0
abbrev newline : Char := Char.ofNat 10
abbrev space : Char := Char.ofNat 32
abbrev plus : Char := Char.ofNat 43
abbrev dash : Char := Char.ofNat 45

namespace Routine

variable {α β : Type} {buf : Buffer} {lo hi : ℤ}

/-- The routine returns `a`, and forms no subscript outside `lo..hi`. -/
structure Yields (buf : Buffer) (lo hi : ℤ) (m : Routine α) (a : α) : Prop where
  returns : run buf m = .ok a
  inside : ∀ k ∈ subscripts buf m, lo ≤ k ∧ k ≤ hi

theorem Yields.pure (a : α) : Yields buf lo hi (Pure.pure a : Routine α) a :=
  ⟨rfl,by simp⟩

theorem Yields.slot {cap n : ℕ} (hn : n < cap) (hlo : lo ≤ n) (hhi : n ≤ hi) :
    Yields buf lo hi (Routine.slot cap n) ⟨⟨n,hn⟩,rfl⟩ :=
  ⟨run_slot buf hn,by simpa using ⟨hlo,hhi⟩⟩

theorem Yields.bind {m : Routine α} {f : α → Routine β} {a : α} {b : β}
    (hm : Yields buf lo hi m a) (hf : Yields buf lo hi (f a) b) :
    Yields buf lo hi (m >>= f) b := by
  refine ⟨?_,?_⟩
  · rw [run_bind,hm.returns]
    exact hf.returns
  · intro k hk
    rw [subscripts_bind,hm.returns] at hk
    rcases List.mem_append.mp hk with hk | hk
    · exact hm.inside k hk
    · exact hf.inside k hk

theorem Yields.mono {m : Routine α} {a : α} {lo' hi' : ℤ} (hm : Yields buf lo hi m a)
    (hlo : lo' ≤ lo) (hhi : hi ≤ hi') : Yields buf lo' hi' m a :=
  ⟨hm.returns,fun k hk => ⟨hlo.trans (hm.inside k hk).1,(hm.inside k hk).2.trans hhi⟩⟩

theorem run_bind_of_ok {m : Routine α} {f : α → Routine β} {a : α} (hm : run buf m = .ok a) :
    run buf (m >>= f) = run buf (f a) := by
  rw [run_bind,hm]
  rfl

end Routine

section

variable {cap : ℕ}

def peek (line : Fin cap → Char) (i : ℕ) : Char := if h : i < cap then line ⟨i,h⟩ else nul

theorem peek_of_lt (line : Fin cap → Char) {i : ℕ} (h : i < cap) : peek line i = line ⟨i,h⟩ :=
  dif_pos h

theorem peek_update (line : Fin cap → Char) {p : ℕ} (hp : p < cap) (c : Char) (i : ℕ) :
    peek (Function.update line ⟨p,hp⟩ c) i = if i = p then c else peek line i := by
  by_cases hi : i < cap
  · rw [peek_of_lt _ hi,peek_of_lt _ hi,Function.update_apply]
    simp only [Fin.mk.injEq]
  · rw [peek,peek,dif_neg hi,dif_neg hi,if_neg (by omega)]

theorem line_ext {line line' : Fin cap → Char} (h : ∀ i, peek line i = peek line' i) :
    line = line' := by
  funext k
  have hk := h k.val
  rwa [peek_of_lt _ k.isLt,peek_of_lt _ k.isLt] at hk

/-- The string `s`, without its terminator, stands at `p`. -/
structure IsString (line : Fin cap → Char) (p : ℕ) (s : List Char) : Prop where
  fits : p+s.length < cap
  chars : ∀ j ≤ s.length, peek line (p+j) = s.getD j nul
  plain : nul ∉ s

/-- First position from `p` upward whose character satisfies `stop`. -/
def scan (stop : Char → Bool) (line : Fin cap → Char) (p : ℕ) : Routine ℕ := do
  let k ← slot cap p
  if stop (line k.1) then pure p else scan stop line (p+1)
termination_by cap-p
decreasing_by
  have := k.1.isLt
  have := k.2
  omega

def scanBack (stop : Char → Bool) (line : Fin cap → Char) (p : ℤ) : Routine ℤ := do
  let k ← slot cap p
  if stop (line k.1) then pure p else scanBack stop line (p-1)
termination_by (p+1).toNat
decreasing_by
  have := k.2
  omega

variable {buf : Buffer} {line : Fin cap → Char} {stop : Char → Bool}

theorem scan_yields {p n : ℕ} (hn : p+n < cap) (hbefore : ∀ j < n, stop (peek line (p+j)) = false)
    (hstop : stop (peek line (p+n)) = true) :
    Yields buf p (p+n : ℕ) (scan stop line p) (p+n) := by
  induction n generalizing p with
  | zero =>
    have hp : p < cap := hn
    rw [scan]
    refine (Yields.slot hp le_rfl (by simp)).bind ?_
    have hchar : stop (line ⟨p,hp⟩) = true := by
      rw [← peek_of_lt line hp]
      exact hstop
    simp only [hchar,if_true]
    exact .pure _
  | succ n ih =>
    have hp : p < cap := by omega
    have hchar : stop (line ⟨p,hp⟩) = false := by
      rw [← peek_of_lt line hp]
      exact hbefore 0 (by omega)
    have hrest := ih (show p+1+n < cap by omega) (fun j hj => by
      have := hbefore (j+1) (by omega)
      rwa [show p+1+j = p+(j+1) by omega]) (by rwa [show p+1+n = p+(n+1) by omega])
    rw [show p+1+n = p+(n+1) by omega] at hrest
    rw [scan]
    refine (Yields.slot hp le_rfl (by push_cast; omega)).bind ?_
    simp only [hchar,Bool.false_eq_true,if_false]
    exact hrest.mono (by push_cast; omega) le_rfl

theorem scanBack_yields {q n : ℕ} (hn : q+n < cap)
    (hafter : ∀ j < n, stop (peek line (q+1+j)) = false) (hstop : stop (peek line q) = true) :
    Yields buf q (q+n : ℕ) (scanBack stop line (q+n : ℕ)) q := by
  induction n with
  | zero =>
    have hq : q < cap := hn
    have hchar : stop (line ⟨q,hq⟩) = true := by
      rw [← peek_of_lt line hq]
      exact hstop
    rw [scanBack]
    refine (Yields.slot hq le_rfl le_rfl).bind ?_
    simp only [hchar,if_true]
    exact .pure _
  | succ n ih =>
    have hchar : stop (line ⟨q+(n+1),hn⟩) = false := by
      rw [← peek_of_lt line hn,show q+(n+1) = q+1+n by omega]
      exact hafter n (by omega)
    have hrest := ih (by omega) (fun j hj => hafter j (by omega))
    rw [scanBack]
    refine (Yields.slot hn (by push_cast; omega) le_rfl).bind ?_
    simp only [hchar,Bool.false_eq_true,if_false]
    rw [show ((q+(n+1) : ℕ) : ℤ)-1 = ((q+n : ℕ) : ℤ) by push_cast; omega]
    exact hrest.mono le_rfl (by push_cast; omega)

def strlen (line : Fin cap → Char) (p : ℕ) : Routine ℕ := do
  let e ← scan (· == nul) line p
  return e-p

/-- The characters of the string at `p`; comparing it with a constant is `strcmp`. -/
def stringAt (line : Fin cap → Char) (p : ℕ) : Routine (List Char) := do
  let e ← scan (· == nul) line p
  return (List.range (e-p)).map fun j => peek line (p+j)

/-- `strtok` with one separator, from `p` on.  It returns the token, or `none` for
`NULL`, the array with the separator behind the token overwritten, and where the next
call begins. -/
def strtok (separator : Char) (line : Fin cap → Char) (p : ℕ) :
    Routine (Option ℕ × (Fin cap → Char) × ℕ) := do
  let start ← scan (· != separator) line p
  let k ← slot cap start
  if line k.1 = nul then return (none,line,start)
  else do
    let e ← scan (fun c => c == nul || c == separator) line start
    let l ← slot cap e
    if line l.1 = nul then return (some start,line,e)
    else return (some start,Function.update line l.1 nul,e+1)

/-- What a dereferenced `NULL` is here: the subscript of an array without elements. -/
def nullAccess {α : Type} : Routine α := do
  let k ← slot 0 0
  k.1.elim0

/-- At most `n` characters of the file, up to and with the first newline, and the rest. -/
def splitLine : ℕ → List Char → List Char × List Char
  | 0, file => ([],file)
  | _+1, [] => ([],[])
  | n+1, c :: file =>
    if c = newline then ([c],file) else (c :: (splitLine n file).1,(splitLine n file).2)

/-- `fgets`: the characters read, with a terminator, in the array, and the rest of the
file; `none` at its end. -/
def fgets (line : Fin cap → Char) (file : List Char) : Option ((Fin cap → Char) × List Char) :=
  if file = [] then none
  else
    let r := splitLine (cap-1) file
    some (fun k => if k.val ≤ r.1.length then r.1.getD k nul else line k,r.2)

def isSpace (c : Char) : Bool := c == space || (9 ≤ c.toNat && c.toNat ≤ 13)

def isDigit (c : Char) : Bool := 48 ≤ c.toNat && c.toNat ≤ 57

def decimal (ds : List Char) : ℕ := ds.foldl (fun v c => 10*v+(c.toNat-48)) 0

/-- `atoi`, as a number; where that is not an `int` the C function is undefined. -/
def atoi (s : List Char) : ℤ :=
  match s.dropWhile isSpace with
  | c :: cs =>
    if c = dash then -(decimal (cs.takeWhile isDigit) : ℤ)
    else if c = plus then decimal (cs.takeWhile isDigit)
    else decimal ((c :: cs).takeWhile isDigit)
  | [] => 0

namespace IsString

variable {p : ℕ} {s : List Char}

theorem getElem (h : IsString line p s) {j : ℕ} (hj : j < s.length) : peek line (p+j) = s[j] := by
  rw [h.chars j hj.le,List.getD_eq_getElem _ _ hj]

theorem terminated (h : IsString line p s) : peek line (p+s.length) = nul := by
  rw [h.chars s.length le_rfl,List.getD_eq_default _ _ le_rfl]

theorem ne_nul (h : IsString line p s) {j : ℕ} (hj : j < s.length) : peek line (p+j) ≠ nul := by
  rw [h.getElem hj]
  intro hnul
  exact h.plain (hnul ▸ List.getElem_mem hj)

theorem scan_nul (h : IsString line p s) :
    Yields buf p (p+s.length : ℕ) (scan (· == nul) line p) (p+s.length) := by
  refine scan_yields h.fits (fun j hj => ?_) ?_
  · rw [beq_eq_false_iff_ne]
    exact h.ne_nul hj
  · rw [beq_iff_eq]
    exact h.terminated

theorem strlen_yields (h : IsString line p s) :
    Yields buf p (p+s.length : ℕ) (strlen line p) s.length := by
  have hlength : p+s.length-p = s.length := Nat.add_sub_cancel_left p s.length
  rw [strlen]
  refine h.scan_nul.bind ?_
  rw [hlength]
  exact .pure _

theorem stringAt_yields (h : IsString line p s) :
    Yields buf p (p+s.length : ℕ) (stringAt line p) s := by
  have hchars : ((List.range (p+s.length-p)).map fun j => peek line (p+j)) = s := by
    rw [Nat.add_sub_cancel_left]
    refine List.ext_getElem (by simp) fun j hj hj' => ?_
    rw [List.getElem_map,List.getElem_range,h.getElem hj']
  rw [stringAt]
  refine h.scan_nul.bind ?_
  rw [hchars]
  exact .pure _

theorem unique {t : List Char} (h : IsString line p s) (h' : IsString line p t) : s = t := by
  have hrun : run (fun _ => 0) (stringAt line p) = .ok s := h.stringAt_yields.returns
  rw [h'.stringAt_yields.returns] at hrun
  exact (Except.ok.inj hrun).symm

theorem of_peek {line' : Fin cap → Char} (h : IsString line p s)
    (hsame : ∀ j ≤ s.length, peek line' (p+j) = peek line (p+j)) : IsString line' p s := by
  refine ⟨h.fits,fun j hj => ?_,h.plain⟩
  rw [hsame j hj]
  exact h.chars j hj

theorem cut {u v : List Char} {c : Char} (h : IsString line p (u++c::v)) (hu : p+u.length < cap) :
    IsString (Function.update line ⟨p+u.length,hu⟩ nul) p u ∧
    IsString (Function.update line ⟨p+u.length,hu⟩ nul) (p+u.length+1) v := by
  have hfits := h.fits
  have hplain := h.plain
  rw [List.length_append,List.length_cons] at hfits
  rw [List.mem_append,List.mem_cons] at hplain
  have hchars (j : ℕ) (hj : j ≤ u.length+(v.length+1)) :
      peek line (p+j) = (u++c::v).getD j nul :=
    h.chars j (by rw [List.length_append,List.length_cons]; exact hj)
  refine ⟨⟨hu,?_,fun hmem => hplain (.inl hmem)⟩,by omega,?_,fun hmem => hplain (.inr (.inr hmem))⟩
  · intro j hj
    rw [peek_update]
    split
    · rw [List.getD_eq_default _ _ (by omega)]
    · rw [hchars j (by omega),List.getD_append _ _ _ _ (by omega)]
  · intro j hj
    rw [peek_update,if_neg (by omega),show p+u.length+1+j = p+(u.length+(j+1)) by omega,
      hchars _ (by omega),List.getD_append_right _ _ _ _ (by omega),Nat.add_sub_cancel_left]
    rfl

end IsString

theorem strtok_separated {separator : Char} {p : ℕ} {u v : List Char}
    (h : IsString line p (u++separator::v)) (hu : u ≠ []) (hsep : separator ∉ u)
    (hnul : separator ≠ nul) :
    Yields buf p (p+u.length : ℕ) (strtok separator line p)
      (some p,Function.update line ⟨p+u.length,by have := h.fits; simp at this; omega⟩ nul,
        p+u.length+1) := by
  have hfits := h.fits
  simp only [List.length_append,List.length_cons] at hfits
  have hpos : 0 < u.length := List.length_pos_iff.mpr hu
  have hchar (j : ℕ) (hj : j < u.length) : peek line (p+j) = u[j] := by
    rw [h.getElem (by rw [List.length_append]; omega),List.getElem_append_left hj]
  have hseparator : peek line (p+u.length) = separator := by
    rw [h.getElem (by simp)]
    simp
  have hfirst : peek line p ≠ separator := by
    rw [← Nat.add_zero p,hchar 0 hpos]
    exact fun heq => hsep (heq ▸ List.getElem_mem hpos)
  have hfirst' : peek line p ≠ nul := h.ne_nul (j := 0) (by rw [List.length_append]; omega)
  have hp : p < cap := by omega
  rw [strtok]
  refine ((scan_yields (n := 0) hp (by simp) (by simpa using hfirst)).mono le_rfl (by simp)).bind ?_
  refine (Yields.slot hp le_rfl (by simp)).bind ?_
  rw [← peek_of_lt line hp]
  simp only [Nat.add_zero,hfirst',if_false]
  have hend : p+u.length < cap := by omega
  refine (scan_yields hend (fun j hj => ?_) (by simp [hseparator])).bind ?_
  · have hne : u[j] ≠ separator := fun heq => hsep (heq ▸ List.getElem_mem hj)
    have hne' := h.ne_nul (j := j) (by rw [List.length_append]; omega)
    rw [Bool.or_eq_false_iff,beq_eq_false_iff_ne,beq_eq_false_iff_ne]
    refine ⟨hne',?_⟩
    rw [hchar j hj]
    exact hne
  · refine (Yields.slot hend (by simp) le_rfl).bind ?_
    rw [← peek_of_lt line hend,hseparator,if_neg hnul]
    exact .pure _

theorem strtok_last {separator : Char} {p : ℕ} {u : List Char} (h : IsString line p u) (hu : u ≠ [])
    (hsep : separator ∉ u) :
    Yields buf p (p+u.length : ℕ) (strtok separator line p) (some p,line,p+u.length) := by
  have hpos : 0 < u.length := List.length_pos_iff.mpr hu
  have hend := h.fits
  have hp : p < cap := by omega
  have hne (j : ℕ) (hj : j < u.length) : peek line (p+j) ≠ separator := by
    rw [h.getElem hj]
    exact fun heq => hsep (heq ▸ List.getElem_mem hj)
  have hfirst : peek line p ≠ separator := hne 0 hpos
  have hfirst' : peek line p ≠ nul := h.ne_nul hpos
  rw [strtok]
  refine ((scan_yields (n := 0) hp (by simp) (by simpa using hfirst)).mono le_rfl (by simp)).bind ?_
  refine (Yields.slot hp le_rfl (by simp)).bind ?_
  rw [← peek_of_lt line hp]
  simp only [Nat.add_zero,hfirst',if_false]
  refine (scan_yields hend (fun j hj => ?_) (by simp [h.terminated])).bind ?_
  · rw [Bool.or_eq_false_iff,beq_eq_false_iff_ne,beq_eq_false_iff_ne]
    exact ⟨h.ne_nul hj,hne j hj⟩
  · refine (Yields.slot hend (by simp) le_rfl).bind ?_
    rw [← peek_of_lt line hend,h.terminated,if_pos rfl]
    exact .pure _

theorem splitLine_line {n : ℕ} (u rest : List Char) (hu : newline ∉ u) (hn : u.length+1 ≤ n) :
    splitLine n (u++newline::rest) = (u++[newline],rest) := by
  induction u generalizing n with
  | nil =>
    obtain ⟨n,rfl⟩ : ∃ m, n = m+1 := ⟨n-1,by simp at hn; omega⟩
    rw [List.nil_append,splitLine,if_pos rfl]
    rfl
  | cons c u ih =>
    obtain ⟨n,rfl⟩ : ∃ m, n = m+1 := ⟨n-1,by simp at hn; omega⟩
    have hc : c ≠ newline := fun heq => hu (heq ▸ List.mem_cons_self)
    rw [List.cons_append,splitLine,if_neg hc,
      ih (fun h => hu (List.mem_cons_of_mem c h)) (by simpa using hn)]
    rfl

theorem splitLine_shorter (n : ℕ) {file : List Char} (hne : file ≠ []) :
    (splitLine (n+1) file).2.length < file.length := by
  induction file generalizing n with
  | nil => exact absurd rfl hne
  | cons c file ih =>
    rw [splitLine]
    split
    · exact Nat.lt_succ_self _
    · cases n with
      | zero => exact Nat.lt_succ_self _
      | succ n =>
        by_cases hfile : file = []
        · subst hfile
          exact Nat.lt_succ_self _
        · exact (ih n hfile).trans (Nat.lt_succ_self _)

theorem fgets_shorter {line' : Fin cap → Char} {file rest : List Char} (hcap : 2 ≤ cap)
    (h : fgets line file = some (line',rest)) : rest.length < file.length := by
  rw [fgets] at h
  split at h
  · exact absurd h (by simp)
  · rename_i hne
    have hrest : (splitLine (cap-1) file).2 = rest := congrArg Prod.snd (Option.some.inj h)
    obtain ⟨n,hn⟩ : ∃ n, cap-1 = n+1 := ⟨cap-2,by omega⟩
    rw [← hrest,hn]
    exact splitLine_shorter n hne

theorem fgets_line (u rest : List Char) (hu : newline ∉ u) (hplain : nul ∉ u)
    (hfits : u.length+2 ≤ cap) :
    ∃ line', fgets line (u++newline::rest) = some (line',rest) ∧ IsString line' 0 (u++[newline]) := by
  have hne : u++newline::rest ≠ [] := by simp
  rw [fgets,if_neg hne]
  simp only [splitLine_line u rest hu (show u.length+1 ≤ cap-1 by omega)]
  refine ⟨_,rfl,?_,?_,?_⟩
  · simp only [List.length_append,List.length_singleton]
    omega
  · intro j hj
    have hlength : (u++[newline]).length = u.length+1 := by simp
    rw [Nat.zero_add,peek_of_lt _ (by omega)]
    exact if_pos hj
  · rw [List.mem_append,List.mem_singleton]
    rintro (h | h)
    · exact hplain h
    · exact absurd h (by decide)

theorem takeWhile_digits {ds rest : List Char} {c : Char} (hds : ∀ d ∈ ds, isDigit d = true)
    (hc : isDigit c = false) : (ds++c::rest).takeWhile isDigit = ds := by
  rw [List.takeWhile_append_of_pos hds,List.takeWhile_cons_of_neg (by simp [hc]),List.append_nil]

theorem atoi_digits {ds rest : List Char} {c : Char} (hne : ds ≠ [])
    (hds : ∀ d ∈ ds, isDigit d = true) (hc : isDigit c = false) :
    atoi (ds++c::rest) = decimal ds := by
  obtain ⟨d,es,rfl⟩ := List.exists_cons_of_ne_nil hne
  have hd : 48 ≤ d.toNat ∧ d.toNat ≤ 57 := by simpa [isDigit] using hds d List.mem_cons_self
  have hspace : isSpace d = false := by
    have hne : d ≠ space := by
      rintro rfl
      exact absurd hd.1 (by decide)
    simp [isSpace,hne]
    omega
  have hdash : d ≠ dash := by
    rintro rfl
    exact absurd hd.1 (by decide)
  have hplus : d ≠ plus := by
    rintro rfl
    exact absurd hd.1 (by decide)
  rw [atoi,List.cons_append,List.dropWhile_cons_of_neg (by simp [hspace])]
  simp only [hdash,hplus,if_false]
  rw [← List.cons_append,takeWhile_digits hds hc]

end

end TvApp

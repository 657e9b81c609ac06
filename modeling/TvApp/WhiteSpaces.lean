import Mathlib.Data.List.DropRight
import Mathlib.Data.List.TakeWhile
import TvApp.CString

/-! `removeWhiteSpaces` of `stream_controller.c`, which trims a word in place.
Two scans find the first and the last character to keep.  The copy loop stops one
character short, so that the last position keeps the character that stood there
before. -/
namespace TvApp

open Routine

section

variable {cap : ℕ}

/-- The `for` loop over `j`, with `left` characters still to come. -/
def shiftWord (word i left j : ℕ) (line : Fin cap → Char) : Routine (Fin cap → Char) :=
  match left with
  | 0 => pure line
  | left+1 => do
    let source ← slot cap (word+(j+i) : ℕ)
    let target ← slot cap (word+j : ℕ)
    shiftWord word i left (j+1) (Function.update line target.1 (line source.1))

/-- `first` and `last` are the addresses `startString+i` and `startString+k` at which
the two `while` loops end; `last` is an integer because `k` may fall below zero. -/
def removeWhiteSpaces (line : Fin cap → Char) (word : ℕ) : Routine (Fin cap → Char) := do
  let stringLen ← strlen line word
  let first ← scan (fun c => !(c == space)) line word
  let last ← scanBack (fun c => !(c == space && c != nul)) line ((word : ℤ)+(stringLen-1))
  let i := first-word
  let k := last-word
  let line ← shiftWord word i (k-i).toNat 0 line
  let e ← slot cap (word+(k-i+1))
  return Function.update line e.1 nul

/-- What trimming means: the leading and the trailing spaces are gone. -/
def trim (s : List Char) : List Char := (s.dropWhile (· == space)).rdropWhile (· == space)

/-- `s` is the word `t` with spaces around it. -/
structure Padded (s t : List Char) (i c : ℕ) : Prop where
  eq : s = List.replicate i space++(t++List.replicate c space)
  ne_nil : t ≠ []
  first : t.head ne_nil ≠ space
  last : t.getLast ne_nil ≠ space

theorem eq_replicate_space {u : List Char} (h : ∀ x ∈ u, (x == space) = true) :
    u = List.replicate u.length space :=
  List.eq_replicate_of_mem fun x hx => beq_iff_eq.mp (h x hx)

theorem padded_trim {s : List Char} (h : ∃ x ∈ s, x ≠ space) : ∃ i c, Padded s (trim s) i c := by
  obtain ⟨x,hx,hne⟩ := h
  have hlead := eq_replicate_space fun y hy => List.mem_takeWhile_imp (p := (· == space)) (l := s) hy
  have htrail := eq_replicate_space fun y hy =>
    List.mem_rtakeWhile_imp (p := (· == space)) (l := s.dropWhile (· == space)) hy
  have hsplit := List.takeWhile_append_dropWhile (p := (· == space)) (l := s)
  have hsplit' := List.rdropWhile_append_rtakeWhile (p := (· == space))
    (l := s.dropWhile (· == space))
  have hdrop : s.dropWhile (· == space) ≠ [] := by
    intro hnil
    exact hne (beq_iff_eq.mp (List.dropWhile_eq_nil_iff.mp hnil x hx))
  have hfirst : (s.dropWhile (· == space)).head hdrop ≠ space := by
    have hhead := List.head_dropWhile_not (· == space) hdrop
    rwa [beq_eq_false_iff_ne] at hhead
  have htrim : trim s ≠ [] := by
    intro hnil
    have hall := List.rdropWhile_eq_nil_iff.mp hnil _ (List.head_mem hdrop)
    exact hfirst (beq_iff_eq.mp hall)
  refine ⟨(s.takeWhile (· == space)).length,((s.dropWhile (· == space)).rtakeWhile
    (· == space)).length,?_,htrim,?_,?_⟩
  · rw [← hlead,← htrail]
    exact hsplit.symm.trans (congrArg _ hsplit'.symm)
  · have hhead : (trim s).head htrim = (s.dropWhile (· == space)).head hdrop :=
      (List.rdropWhile_prefix (· == space) _).head htrim
    rw [hhead]
    exact hfirst
  · have hlast := List.rdropWhile_last_not (· == space) _ htrim
    rwa [beq_iff_eq] at hlast

theorem Padded.trim_eq {s t : List Char} {i c : ℕ} (h : Padded s t i c) : trim s = t := by
  have hlead : ∀ x ∈ List.replicate i space, (x == space) = true := by simp
  have htrail : ∀ x ∈ (List.replicate c space).reverse, (x == space) = true := by simp
  have hfirst : (t++List.replicate c space).dropWhile (· == space) = t++List.replicate c space := by
    obtain ⟨x,u,hx⟩ := List.exists_cons_of_ne_nil h.ne_nil
    have hne : x ≠ space := by
      have hhead := h.first
      simp only [hx,List.head_cons] at hhead
      exact hhead
    rw [hx,List.cons_append,List.dropWhile_cons_of_neg (by simpa using hne)]
  have hlast : t.rdropWhile (· == space) = t := by
    rw [List.rdropWhile_eq_self_iff]
    intro hl hspace
    exact h.last (beq_iff_eq.mp hspace)
  rw [trim,h.eq,List.dropWhile_append_of_pos hlead,hfirst,List.rdropWhile,List.reverse_append,
    List.dropWhile_append_of_pos htrail]
  exact hlast

variable {buf : Buffer} {line : Fin cap → Char}

/-- The source lies ahead of the target, so each character is read before it is
overwritten. -/
theorem shiftWord_yields (word i left j : ℕ) (line : Fin cap → Char)
    (hfits : word+(j+left+i) ≤ cap) :
    Yields buf (word+j) (word+(j+left+i)) (shiftWord word i left j line) fun k =>
      if word+j ≤ k.val ∧ k.val < word+(j+left) then peek line (k.val+i) else line k := by
  induction left generalizing j line with
  | zero =>
    have hline : (fun k : Fin cap => if word+j ≤ k.val ∧ k.val < word+(j+0) then
        peek line (k.val+i) else line k) = line := by
      funext k
      exact if_neg (by omega)
    rw [hline]
    exact .pure _
  | succ left ih =>
    have hsource : word+(j+i) < cap := by omega
    have htarget : word+j < cap := by omega
    refine (Yields.slot hsource (by push_cast; omega) (by push_cast; omega)).bind ?_
    refine (Yields.slot htarget (by push_cast; omega) (by push_cast; omega)).bind ?_
    have hrest := ih (j+1) (Function.update line ⟨word+j,htarget⟩ (line ⟨word+(j+i),hsource⟩))
      (by omega)
    have hline : (fun k : Fin cap => if word+(j+1) ≤ k.val ∧ k.val < word+(j+1+left) then
          peek (Function.update line ⟨word+j,htarget⟩ (line ⟨word+(j+i),hsource⟩)) (k.val+i)
        else Function.update line ⟨word+j,htarget⟩ (line ⟨word+(j+i),hsource⟩) k) =
        fun k => if word+j ≤ k.val ∧ k.val < word+(j+(left+1)) then peek line (k.val+i)
          else line k := by
      funext k
      rw [peek_update,Function.update_apply]
      by_cases hk : k.val = word+j
      · have hfin : k = ⟨word+j,htarget⟩ := Fin.ext hk
        rw [if_neg (by omega),if_pos hfin,if_pos (by omega),hk,Nat.add_assoc,peek_of_lt _ hsource]
      · have hfin : k ≠ ⟨word+j,htarget⟩ := fun he => hk (congrArg Fin.val he)
        have hcond : (word+(j+1) ≤ k.val ∧ k.val < word+(j+1+left)) ↔
            (word+j ≤ k.val ∧ k.val < word+(j+(left+1))) := by omega
        simp only [hcond,hfin,if_false]
        split
        · rw [if_neg (by omega)]
        · rfl
    rw [hline] at hrest
    exact hrest.mono (by push_cast; omega) (by push_cast; omega)

/-- The array afterwards: `n` is the length of the trimmed word. -/
def trimmedLine (line : Fin cap → Char) (word i n : ℕ) : Fin cap → Char := fun k =>
  if k.val = word+n then nul
  else if word ≤ k.val ∧ k.val+1 < word+n then peek line (k.val+i)
  else line k

namespace Padded

variable {s t : List Char} {i c word : ℕ}

theorem length_eq (h : Padded s t i c) : s.length = i+(t.length+c) := by
  rw [h.eq]
  simp

theorem length_pos (h : Padded s t i c) : 0 < t.length := List.length_pos_iff.mpr h.ne_nil

theorem peek_lead (h : Padded s t i c) (hs : IsString line word s) {j : ℕ} (hj : j < i) :
    peek line (word+j) = space := by
  have hlen := h.length_eq
  rw [hs.getElem (by omega)]
  simp only [h.eq]
  rw [List.getElem_append_left (by simpa using hj),List.getElem_replicate]

theorem peek_word (h : Padded s t i c) (hs : IsString line word s) {j : ℕ} (hj : j < t.length) :
    peek line (word+(i+j)) = t[j] := by
  have hlen := h.length_eq
  rw [hs.getElem (by omega)]
  simp only [h.eq]
  rw [List.getElem_append_right (by simp)]
  simp only [List.length_replicate,Nat.add_sub_cancel_left]
  rw [List.getElem_append_left hj]

theorem peek_trail (h : Padded s t i c) (hs : IsString line word s) {j : ℕ} (hj : j < c) :
    peek line (word+(i+t.length+j)) = space := by
  have hlen := h.length_eq
  rw [hs.getElem (by omega)]
  simp only [h.eq]
  rw [List.getElem_append_right (by simp; omega),List.getElem_append_right (by simp; omega),
    List.getElem_replicate]

theorem peek_first (h : Padded s t i c) (hs : IsString line word s) :
    peek line (word+i) ≠ space := by
  have hfirst := h.peek_word hs h.length_pos
  rw [Nat.add_zero] at hfirst
  rw [hfirst,← List.head_eq_getElem]
  exact h.first

theorem peek_last (h : Padded s t i c) (hs : IsString line word s) :
    peek line (word+(i+(t.length-1))) ≠ space := by
  have hpos := h.length_pos
  rw [h.peek_word hs (by omega),← List.getLast_eq_getElem h.ne_nil]
  exact h.last

theorem scan_first (h : Padded s t i c) (hs : IsString line word s) :
    Yields buf word (word+i : ℕ) (scan (fun c => !(c == space)) line word) (word+i) := by
  have hlen := h.length_eq
  have hfits := hs.fits
  have hfirst := h.peek_first hs
  refine scan_yields (by omega) (fun j hj => ?_) (by simp [hfirst])
  rw [h.peek_lead hs hj]
  decide

theorem scanBack_last (h : Padded s t i c) (hs : IsString line word s) :
    Yields buf (word+(i+(t.length-1)) : ℕ) (word+(i+(t.length-1))+c : ℕ)
      (scanBack (fun c => !(c == space && c != nul)) line (word+(i+(t.length-1))+c : ℕ))
      (word+(i+(t.length-1)) : ℕ) := by
  have hlen := h.length_eq
  have hpos := h.length_pos
  have hfits := hs.fits
  have hlast := h.peek_last hs
  refine scanBack_yields (by omega) (fun j hj => ?_) (by simp [hlast])
  rw [show word+(i+(t.length-1))+1+j = word+(i+t.length+j) by omega,h.peek_trail hs hj]
  decide

theorem removeWhiteSpaces_yields (h : Padded s t i c) (hs : IsString line word s) :
    Yields buf word (word+s.length) (removeWhiteSpaces line word)
      (trimmedLine line word i t.length) := by
  have hlen := h.length_eq
  have hpos := h.length_pos
  have hfits := hs.fits
  rw [removeWhiteSpaces]
  refine (hs.strlen_yields.mono le_rfl (by push_cast; omega)).bind ?_
  refine ((h.scan_first hs).mono le_rfl (by push_cast; omega)).bind ?_
  rw [show (word : ℤ)+((s.length : ℤ)-1) = ((word+(i+(t.length-1))+c : ℕ) : ℤ) by omega]
  refine ((h.scanBack_last hs).mono (by push_cast; omega) (by push_cast; omega)).bind ?_
  have hi : word+i-word = i := Nat.add_sub_cancel_left word i
  have hleft : (((word+(i+(t.length-1)) : ℕ) : ℤ)-word-(word+i-word : ℕ)).toNat = t.length-1 := by
    omega
  have hterminator : (word : ℤ)+(((word+(i+(t.length-1)) : ℕ) : ℤ)-word-(word+i-word : ℕ)+1) =
      ((word+t.length : ℕ) : ℤ) := by omega
  have hshift : Yields buf _ _ (shiftWord word i (t.length-1) 0 line) _ :=
    shiftWord_yields word i (t.length-1) 0 line (by omega)
  simp only
  rw [hleft,hterminator,hi]
  refine (hshift.mono (by push_cast; omega) (by push_cast; omega)).bind ?_
  have hend : word+t.length < cap := by omega
  refine (Yields.slot hend (by push_cast; omega) (by push_cast; omega)).bind ?_
  have hline : Function.update (fun k : Fin cap => if word+0 ≤ k.val ∧
      k.val < word+(0+(t.length-1)) then peek line (k.val+i) else line k) ⟨word+t.length,hend⟩ nul =
      trimmedLine line word i t.length := by
    funext k
    rw [Function.update_apply,trimmedLine]
    by_cases hk : k.val = word+t.length
    · rw [if_pos (Fin.ext hk),if_pos hk]
    · rw [if_neg fun he => hk (congrArg Fin.val he),if_neg hk]
      have hcond : (word+0 ≤ k.val ∧ k.val < word+(0+(t.length-1))) ↔
          (word ≤ k.val ∧ k.val+1 < word+t.length) := by omega
      simp only [hcond]
  rw [hline]
  exact .pure _

end Padded

theorem peek_trimmedLine (line : Fin cap → Char) (word i n q : ℕ) :
    peek (trimmedLine line word i n) q =
      if q = word+n then nul else if word ≤ q ∧ q+1 < word+n then peek line (q+i)
      else peek line q := by
  by_cases hq : q < cap
  · rw [peek_of_lt _ hq,peek_of_lt line hq]
    rfl
  · have hout (k : ℕ) (hk : cap ≤ k) : peek line k = nul := dif_neg (by omega)
    rw [peek,dif_neg hq,hout q (by omega),hout (q+i) (by omega),ite_self,ite_self]

namespace Padded

variable {s t : List Char} {i c word : ℕ}

theorem isString_trimmedLine (h : Padded s t i c) (hs : IsString line word s) :
    IsString (trimmedLine line word i t.length) word
      (t.dropLast++[s.getD (t.length-1) nul]) := by
  have hlen := h.length_eq
  have hpos := h.length_pos
  have hfits := hs.fits
  have hlength : (t.dropLast++[s.getD (t.length-1) nul]).length = t.length := by
    rw [List.length_append,List.length_dropLast,List.length_singleton]
    omega
  have hsub : ∀ x ∈ t, x ∈ s := by
    intro x hx
    rw [h.eq]
    simp [hx]
  refine ⟨by omega,?_,?_⟩
  · intro j hj
    rw [peek_trimmedLine]
    rw [hlength] at hj
    rcases hj.eq_or_lt with rfl | hj
    · rw [if_pos rfl,List.getD_eq_default _ _ hlength.le]
    · rw [if_neg (by omega)]
      by_cases hlast : j+1 < t.length
      · have hj' : j < t.dropLast.length := by
          rw [List.length_dropLast]
          omega
        rw [if_pos (by omega),Nat.add_assoc,Nat.add_comm j,h.peek_word hs hj,
          List.getD_append _ _ _ _ hj',List.getD_eq_getElem _ _ hj',List.getElem_dropLast]
      · obtain rfl : j = t.length-1 := by omega
        rw [if_neg (by omega),hs.chars _ (by omega),List.getD_append_right _ _ _ _ (by simp)]
        simp
  · rw [List.mem_append,List.mem_singleton]
    rintro (hmem | hlast)
    · exact hs.plain (hsub _ (List.dropLast_subset t hmem))
    · rw [List.getD_eq_getElem _ _ (by omega)] at hlast
      exact hs.plain (hlast ▸ List.getElem_mem _)

theorem peek_frame (line : Fin cap → Char) {n q : ℕ} (hq : q < word ∨ word+n < q) :
    peek (trimmedLine line word i n) q = peek line q := by
  rw [peek_trimmedLine,if_neg (by omega),if_neg (by omega)]

end Padded

/-- What `removeWhiteSpaces` is for: the string at `word` is trimmed, no access falls
outside it and its terminator, and a second call changes nothing. -/
def Trims (buf : Buffer) (line : Fin cap → Char) (word : ℕ) (s : List Char) : Prop :=
  ∃ line', run buf (removeWhiteSpaces line word) = .ok line' ∧ IsString line' word (trim s) ∧
    (∀ k ∈ subscripts buf (removeWhiteSpaces line word), (word : ℤ) ≤ k ∧ k ≤ word+s.length) ∧
    run buf (removeWhiteSpaces line' word) = .ok line'

theorem removeWhiteSpaces_trimmed {t : List Char} {word : ℕ} (ht : Padded t t 0 0)
    (h : IsString line word t) : run buf (removeWhiteSpaces line word) = .ok line := by
  have hline : trimmedLine line word 0 t.length = line := by
    refine line_ext fun q => ?_
    rw [peek_trimmedLine]
    split
    · rename_i hq
      rw [hq,h.terminated]
    · simp
  have hyields : Yields buf word (word+t.length) (removeWhiteSpaces line word) _ :=
    ht.removeWhiteSpaces_yields h
  rw [hyields.returns,hline]

/-- The word is trimmed exactly if the position of its last character, when it has been
moved, already held that character. -/
theorem removeWhiteSpaces_trims_iff (buf : Buffer) (line : Fin cap → Char) (word : ℕ)
    (s : List Char) (hs : IsString line word s) (hne : ∃ x ∈ s, x ≠ space) :
    Trims buf line word s ↔ s[(trim s).length-1]? = (trim s).getLast? := by
  obtain ⟨i,c,hpadded⟩ := padded_trim hne
  have hyields : Yields buf word (word+s.length) (removeWhiteSpaces line word) _ :=
    hpadded.removeWhiteSpaces_yields hs
  have hleft := hpadded.isString_trimmedLine hs
  have hlen := hpadded.length_eq
  have hpos := hpadded.length_pos
  have hchar : s[(trim s).length-1]? = some (s.getD ((trim s).length-1) nul) := by
    rw [List.getD_eq_getElem _ _ (by omega),List.getElem?_eq_getElem]
  constructor
  · rintro ⟨line',hrun,hstring,-⟩
    rw [hyields.returns] at hrun
    cases hrun
    have htext := hleft.unique hstring
    rw [hchar,← htext,List.getLast?_concat]
    rw [htext]
  · intro hlast
    have htext : (trim s).dropLast++[s.getD ((trim s).length-1) nul] = trim s := by
      rw [hchar] at hlast
      exact List.dropLast_append_getLast? _ hlast.symm
    rw [htext] at hleft
    refine ⟨_,hyields.returns,hleft,hyields.inside,removeWhiteSpaces_trimmed ?_ hleft⟩
    exact ⟨by simp,hpadded.ne_nil,hpadded.first,hpadded.last⟩

end

def wordLine (s : List Char) : Fin 8 → Char := fun k => s.getD k nul

theorem trailing_spaces_trimmed : Trims (fun _ => 0) (wordLine "DVB_T  ".toList) 0 "DVB_T  ".toList :=
  (removeWhiteSpaces_trims_iff (fun _ => 0) (wordLine "DVB_T  ".toList) 0 "DVB_T  ".toList
    ⟨by decide,by decide,by decide⟩ ⟨Char.ofNat 68,by decide,by decide⟩).mpr (by decide)

theorem leading_space_spoils_last :
    IsString (wordLine " 12".toList) 0 " 12".toList ∧
    (∃ line', run (fun _ => 0) (removeWhiteSpaces (wordLine " 12".toList) 0) = .ok line' ∧
      IsString line' 0 "11".toList) ∧
    trim " 12".toList = "12".toList ∧ ¬ Trims (fun _ => 0) (wordLine " 12".toList) 0 " 12".toList := by
  have hs : IsString (wordLine " 12".toList) 0 " 12".toList := ⟨by decide,by decide,by decide⟩
  have hpadded : Padded " 12".toList "12".toList 1 0 :=
    ⟨by decide,by decide,by decide,by decide⟩
  have htrim : trim " 12".toList = "12".toList := by decide
  have hyields : Yields (fun _ => 0) _ _ (removeWhiteSpaces (wordLine " 12".toList) 0) _ :=
    hpadded.removeWhiteSpaces_yields hs
  have hleft : IsString (trimmedLine (wordLine " 12".toList) 0 1 "12".toList.length) 0 "11".toList :=
    hpadded.isString_trimmedLine hs
  refine ⟨hs,⟨_,hyields.returns,hleft⟩,htrim,?_⟩
  rintro ⟨line',hrun,hstring,-⟩
  rw [hyields.returns] at hrun
  cases hrun
  have htext := hleft.unique hstring
  rw [htrim] at htext
  exact absurd htext (by decide)

end TvApp

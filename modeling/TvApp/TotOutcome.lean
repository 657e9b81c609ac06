import TvApp.StepSystem
import TvApp.TotSafety

/-! The outcome of a TOT parse as a function of the buffer and of the table that was
there before, and the progress of its loop.
The places that the parser looks at are fixed: slot `j` takes its tag and length from
bytes 10+15j and 11+15j, and entry `i` of every slot is read from byte 12+13i on. -/
namespace TvApp

open Routine ParseErrorCode

variable {buf : Buffer}

/-- The entry that the loop over `ltoInfo` reads as number `i`, in every descriptor. -/
def ltoInfoAt (buf : Buffer) (i : ℕ) : LTODescriptorInfo where
  countryCH1 := buf (12+i*13)
  countryCH2 := buf (13+i*13)
  countryCH3 := buf (14+i*13)
  countryRegionId := buf (15+i*13) >>> 2
  localTimeOffsetPolarity := buf (15+i*13) &&& 0x01
  localTimeOffsetHours := bcd (buf (16+i*13))
  localTimeOffsetMinutes := bcd (buf (17+i*13))

theorem run_parseLtoInfo (buf : Buffer) (i : ℕ) :
    run buf (parseLtoInfo i) = .ok (ltoInfoAt buf i) := rfl

theorem run_parseLtoInfos (buf : Buffer) (left i : ℕ) (h : i+left ≤ 20)
    (ltoInfo : Fin tablesMaxNumberOfLtoDescriptors → LTODescriptorInfo) :
    run buf (parseLtoInfos left i ltoInfo) = .ok fun k =>
      if i ≤ k.val ∧ k.val < i+left then ltoInfoAt buf k else ltoInfo k := by
  induction left generalizing i ltoInfo with
  | zero =>
    refine congrArg Except.ok (funext fun k => ?_)
    rw [if_neg (by omega)]
  | succ left ih =>
    have hi : i < 20 := by omega
    rw [parseLtoInfos,run_bind,run_slot buf hi]
    change run buf (parseLtoInfo i >>= _) = _
    rw [run_bind,run_parseLtoInfo]
    change run buf (parseLtoInfos left (i+1) (Function.update ltoInfo ⟨i,hi⟩ (ltoInfoAt buf i))) = _
    rw [ih (i+1) (by omega)]
    refine congrArg Except.ok (funext fun k => ?_)
    by_cases hk : k.val = i
    · obtain rfl : k = ⟨i,hi⟩ := Fin.ext hk
      rw [if_neg (by simp only; omega),if_pos (by simp only; omega),Function.update_self]
    · have hcond : (i+1 ≤ k.val ∧ k.val < i+1+left) ↔ (i ≤ k.val ∧ k.val < i+(left+1)) := by omega
      have hne : k ≠ ⟨i,hi⟩ := fun he => hk (congrArg Fin.val he)
      rw [Function.update_of_ne hne]
      simp only [hcond]

def totDescriptorAt (buf : Buffer) (j : ℕ) (stale : LocalTimeOffsetDescriptor) :
    LocalTimeOffsetDescriptor :=
  if buf (10+15*j) = 0x58 then
    { descriptorTag := buf (10+15*j)
      descriptorLength := buf (11+15*j)
      ltoInfo := fun k =>
        if k.val < (buf (11+15*j)/13).toNat then ltoInfoAt buf k else stale.ltoInfo k
      numberOfInfos := buf (11+15*j)/13 }
  else stale

theorem run_parseTotDescriptor (buf : Buffer) (currentDesc : UInt8)
    (descriptor : LocalTimeOffsetDescriptor) :
    run buf (parseTotDescriptor currentDesc (buf (10+15*currentDesc.toNat)) descriptor) =
      .ok (totDescriptorAt buf currentDesc.toNat descriptor) := by
  rw [parseTotDescriptor,totDescriptorAt]
  split
  · have hlt := div13_lt (buf (11+15*currentDesc.toNat))
    change run buf (parseLtoInfos (buf (11+15*currentDesc.toNat)/13).toNat 0 _ >>= _) = _
    rw [run_bind,run_parseLtoInfos buf _ 0 (by omega)]
    simp only [Nat.zero_le,true_and,Nat.zero_add]
    rfl
  · rfl

theorem totDescriptorAt_length (buf : Buffer) (totTable : TotTable) {j : ℕ} (hj : j < 20) :
    (totDescriptorAt buf j (totTable.descriptors ⟨j,hj⟩)).descriptorLength.toNat =
      totDescriptorLength buf totTable j := by
  rw [totDescriptorAt,totDescriptorLength,dif_pos hj]
  split
  · rfl
  · rfl

/-- The loop body, from the value of `descriptorLoopLength` and the table before it to
those after it. -/
def totIteration (s : UInt16 × TotTable) : Routine (UInt16 × TotTable) := do
  let currentTag ← byte (10+15*s.2.descriptorsCount.toNat)
  let k ← slot tablesMaxNumberOfTotDescriptors s.2.descriptorsCount.toNat
  let descriptor ← parseTotDescriptor s.2.descriptorsCount currentTag (s.2.descriptors k.1)
  return (s.1-(descriptor.descriptorLength.toUInt16+2),
    { s.2 with
      descriptors := Function.update s.2.descriptors k.1 descriptor
      descriptorsCount := s.2.descriptorsCount+1 })

theorem run_parseTotDescriptors (buf : Buffer) (r : UInt16) (totTable : TotTable) :
    run buf (parseTotDescriptors r totTable) =
      if 4 < r then run buf (totIteration (r,totTable)) >>= fun s =>
        run buf (parseTotDescriptors s.1 s.2)
      else .ok totTable := by
  rw [parseTotDescriptors]
  split
  · rw [totIteration]
    simp only [run_bind,bind_assoc,run_pure]
    rfl
  · rfl

theorem run_totIteration (buf : Buffer) (r : UInt16) (totTable : TotTable) {i : ℕ} (hi : i < 20)
    (hc : totTable.descriptorsCount.toNat = i) :
    run buf (totIteration (r,totTable)) =
      .ok (r-((totDescriptorAt buf i (totTable.descriptors ⟨i,hi⟩)).descriptorLength.toUInt16+2),
        totTable.store i hi (totDescriptorAt buf i (totTable.descriptors ⟨i,hi⟩))) := by
  subst hc
  rw [totIteration,run_bind,run_byte]
  change run buf (slot 20 totTable.descriptorsCount.toNat >>= _) = _
  rw [run_bind,run_slot buf hi]
  change run buf (parseTotDescriptor _ _ _ >>= _) = _
  rw [run_bind,run_parseTotDescriptor]
  rfl

theorem run_totIteration_fault (buf : Buffer) (r : UInt16) (totTable : TotTable)
    (hc : totTable.descriptorsCount.toNat = 20) :
    run buf (totIteration (r,totTable)) = .error ⟨20,20⟩ := by
  rw [totIteration,run_bind,run_byte]
  change run buf (slot 20 totTable.descriptorsCount.toNat >>= _) = _
  rw [run_bind,hc,run_slot_fault buf (le_refl 20)]
  rfl

def totStart (buf : Buffer) (prior : TotTable) : TotTable :=
  { prior with
    tableId := buf 0
    sectionLength := word (buf 1) (buf 2) &&& 0x0FFF
    MJD := word (buf 3) (buf 4)
    descriptorsLoopLength := word (buf 8) (buf 9) &&& 0x0FFF
    descriptorsCount := 0 }

def totAfter (buf : Buffer) (prior : TotTable) (n : ℕ) : TotTable :=
  { totStart buf prior with
    descriptors := fun j =>
      if j.val < n then totDescriptorAt buf j (prior.descriptors j) else prior.descriptors j
    descriptorsCount := UInt8.ofNat n }

theorem run_parseTotTable (buf : Buffer) (prior : TotTable) :
    run buf (parseTotTable prior) =
      run buf (parseTotDescriptors (word (buf 8) (buf 9) &&& 0x0FFF) (totStart buf prior)) >>=
        fun table => .ok (tablesParseOk,table) := by
  rw [parseTotTable]
  simp only [run_bind,run_pure]
  rfl

theorem totAfter_zero (buf : Buffer) (prior : TotTable) :
    totAfter buf prior 0 = totStart buf prior := rfl

theorem totAfter_count (buf : Buffer) (prior : TotTable) {n : ℕ} (hn : n ≤ 20) :
    (totAfter buf prior n).descriptorsCount.toNat = n :=
  UInt8.toNat_ofNat_of_lt' (by change n < 256; omega)

theorem totAfter_store (buf : Buffer) (prior : TotTable) {n : ℕ} (hn : n < 20) :
    (totAfter buf prior n).store n hn (totDescriptorAt buf n ((totAfter buf prior n).descriptors ⟨n,hn⟩)) =
      totAfter buf prior (n+1) := by
  have hstale : (totAfter buf prior n).descriptors ⟨n,hn⟩ = prior.descriptors ⟨n,hn⟩ :=
    if_neg (lt_irrefl n)
  have hcount : UInt8.ofNat n+1 = UInt8.ofNat (n+1) := by
    apply UInt8.toNat_inj.mp
    rw [UInt8.toNat_ofNat_of_lt' (show n+1 < 256 by omega),toNat_succ,
      UInt8.toNat_ofNat_of_lt' (show n < 256 by omega)]
    rw [UInt8.toNat_ofNat_of_lt' (show n < 256 by omega)]
    omega
  have hdescriptors : Function.update (totAfter buf prior n).descriptors ⟨n,hn⟩
      (totDescriptorAt buf n (prior.descriptors ⟨n,hn⟩)) = (totAfter buf prior (n+1)).descriptors := by
    funext j
    by_cases hj : j.val = n
    · obtain rfl : j = ⟨n,hn⟩ := Fin.ext hj
      rw [Function.update_self]
      exact (if_pos (Nat.lt_succ_self n)).symm
    · rw [Function.update_of_ne fun he => hj (congrArg Fin.val he)]
      have hcond : j.val < n ↔ j.val < n+1 := by omega
      simp only [totAfter,hcond]
  have hcount' : (totAfter buf prior n).descriptorsCount+1 =
      (totAfter buf prior (n+1)).descriptorsCount := hcount
  rw [TotTable.store,hstale,hdescriptors,hcount']
  rfl

/-- The loop ends after `n` slots: more than four bytes remained before, and no more
than four, none of them borrowed, remain now. -/
structure TotEndsAt (buf : Buffer) (prior : TotTable) (n : ℕ) : Prop where
  le : n ≤ 20
  before : ∀ m < n, totOffset buf prior m+4 < totLoopLength buf
  offset_le : totOffset buf prior n ≤ totLoopLength buf
  rest_le : totLoopLength buf ≤ totOffset buf prior n+4

theorem totOffset_mono (buf : Buffer) (prior : TotTable) {m n : ℕ} (h : m ≤ n) :
    totOffset buf prior m ≤ totOffset buf prior n := by
  induction n, h using Nat.le_induction with
  | base => exact le_rfl
  | succ n _ ih =>
    rw [totOffset]
    omega

theorem totFits_iff_endsAt (buf : Buffer) (prior : TotTable) :
    TotFits buf prior ↔ ∃ n, TotEndsAt buf prior n := by
  constructor
  · intro h
    refine ⟨Nat.find h,(Nat.find_spec h).1,?_,(Nat.find_spec h).2.1,(Nat.find_spec h).2.2⟩
    intro m hm
    have hmin := Nat.find_min h hm
    have hmono := totOffset_mono buf prior hm.le
    have hle := (Nat.find_spec h).1
    have hend := (Nat.find_spec h).2.1
    by_contra hnot
    exact hmin ⟨by omega,by omega,by omega⟩
  · rintro ⟨n,h⟩
    exact ⟨n,h.le,h.offset_le,h.rest_le⟩

/-- Remaining length before slot `i`, as long as nothing has been borrowed. -/
def totRemaining (buf : Buffer) (prior : TotTable) (i : ℕ) : UInt16 :=
  UInt16.ofNat (totLoopLength buf-totOffset buf prior i)

theorem totRemaining_toNat (buf : Buffer) (prior : TotTable) (i : ℕ) :
    (totRemaining buf prior i).toNat = totLoopLength buf-totOffset buf prior i := by
  have := totLoopLength_lt buf
  exact UInt16.toNat_ofNat_of_lt' (by change _ < 65536; omega)

theorem totRemaining_zero (buf : Buffer) (prior : TotTable) :
    totRemaining buf prior 0 = word (buf 8) (buf 9) &&& 0x0FFF := by
  apply UInt16.toNat_inj.mp
  rw [totRemaining_toNat]
  rfl

theorem totIteration_exact (buf : Buffer) (prior : TotTable) {i : ℕ} (hi : i < 20)
    (hle : totOffset buf prior (i+1) ≤ totLoopLength buf) :
    run buf (totIteration (totRemaining buf prior i,totAfter buf prior i)) =
      .ok (totRemaining buf prior (i+1),totAfter buf prior (i+1)) := by
  have hstale : (totAfter buf prior i).descriptors ⟨i,hi⟩ = prior.descriptors ⟨i,hi⟩ :=
    if_neg (lt_irrefl i)
  have hlength := totDescriptorAt_length buf prior hi
  rw [run_totIteration buf _ _ hi (totAfter_count buf prior hi.le),totAfter_store buf prior hi,hstale]
  congr 2
  apply UInt16.toNat_inj.mp
  have hd := totDescriptorLength_le buf prior i
  have hL := totLoopLength_lt buf
  have hsize : ((totDescriptorAt buf i (prior.descriptors ⟨i,hi⟩)).descriptorLength.toUInt16+2).toNat =
      totDescriptorLength buf prior i+2 := by
    rw [UInt16.toNat_add,UInt8.toNat_toUInt16,hlength]
    exact Nat.mod_eq_of_lt (by change totDescriptorLength buf prior i+2 < 65536; omega)
  rw [UInt16.toNat_sub,hsize,totRemaining_toNat,totRemaining_toNat]
  rw [totOffset] at hle ⊢
  omega

theorem four_lt_totRemaining {prior : TotTable} {i : ℕ} :
    4 < totRemaining buf prior i ↔ totOffset buf prior i+4 < totLoopLength buf := by
  rw [UInt16.lt_iff_toNat_lt,totRemaining_toNat]
  change 4 < _ ↔ _
  omega

theorem run_parseTotDescriptors_endsAt {prior : TotTable} {n : ℕ} (h : TotEndsAt buf prior n)
    {i : ℕ} (hi : i ≤ n) :
    run buf (parseTotDescriptors (totRemaining buf prior i) (totAfter buf prior i)) =
      .ok (totAfter buf prior n) := by
  -- on the number of slots still to be visited
  induction hn : n-i generalizing i with
  | zero =>
    obtain rfl : i = n := by omega
    have hend := h.rest_le
    rw [run_parseTotDescriptors,if_neg (by rw [four_lt_totRemaining]; omega)]
  | succ left ih =>
    have hlt : i < n := by omega
    have hle := h.le
    have hnext : totOffset buf prior (i+1) ≤ totLoopLength buf :=
      (totOffset_mono buf prior hlt).trans h.offset_le
    rw [run_parseTotDescriptors,if_pos (four_lt_totRemaining.mpr (h.before i hlt)),
      totIteration_exact buf prior (by omega) hnext]
    exact ih hlt (by omega)

theorem run_parseTotTable_endsAt {prior : TotTable} {n : ℕ} (h : TotEndsAt buf prior n) :
    run buf (parseTotTable prior) = .ok (tablesParseOk,totAfter buf prior n) := by
  rw [run_parseTotTable,← totRemaining_zero buf prior,← totAfter_zero,
    run_parseTotDescriptors_endsAt h (Nat.zero_le n)]
  rfl

theorem endsAt_of_run {prior table : TotTable}
    (hrun : run buf (parseTotTable prior) = .ok (tablesParseOk,table)) :
    ∃ n, TotEndsAt buf prior n ∧ table = totAfter buf prior n := by
  rcases parseTotTable_outcome buf prior with ⟨hfit,-⟩ | ⟨-,-,fault,hfault⟩
  · obtain ⟨n,hends⟩ := (totFits_iff_endsAt buf prior).mp hfit
    rw [run_parseTotTable_endsAt hends] at hrun
    cases hrun
    exact ⟨n,hends,rfl⟩
  · rw [hrun] at hfault
    cases hfault

/-- The next state, if the loop test holds and the iteration does not fault. -/
def totStep (buf : Buffer) (s : UInt16 × TotTable) (_ : Unit) : Option (UInt16 × TotTable) :=
  if 4 < s.1 then (run buf (totIteration s)).toOption else none

def TotReached (buf : Buffer) (prior : TotTable) (s : UInt16 × TotTable) : Prop :=
  Reach (totStep buf) Anything (word (buf 8) (buf 9) &&& 0x0FFF,totStart buf prior) s

/-- What the iteration from `s` to `s'` subtracts: two and the length in the slot that
it has visited. -/
def totTaken (s s' : UInt16 × TotTable) : ℕ :=
  if h : s.2.descriptorsCount.toNat < 20 then
    (s'.2.descriptors ⟨s.2.descriptorsCount.toNat,h⟩).descriptorLength.toNat+2
  else 0

/-- Every iteration takes off at most what remains, so that less remains after it. -/
def TotProgress (buf : Buffer) (prior : TotTable) : Prop :=
  ∀ s s', TotReached buf prior s → totStep buf s () = some s' →
    totTaken s s' ≤ s.1.toNat ∧ s'.1.toNat < s.1.toNat

/-- Each of the twenty slots that is due while more than four bytes remain has a length
that the remaining bytes cover. -/
def TotCovered (buf : Buffer) (prior : TotTable) : Prop :=
  ∀ i < 20, (∀ m ≤ i, totOffset buf prior m+4 < totLoopLength buf) →
    totOffset buf prior (i+1) ≤ totLoopLength buf

theorem totTaken_totAfter (prior : TotTable) {i : ℕ} (hi : i < 20) (r r' : UInt16) :
    totTaken (r,totAfter buf prior i) (r',totAfter buf prior (i+1)) =
      totDescriptorLength buf prior i+2 := by
  have hcount := totAfter_count buf prior hi.le
  have hslot : (totAfter buf prior (i+1)).descriptors ⟨i,hi⟩ =
      totDescriptorAt buf i (prior.descriptors ⟨i,hi⟩) := if_pos (Nat.lt_succ_self i)
  rw [totTaken,dif_pos (hcount.trans_lt hi)]
  simp only [hcount,hslot,totDescriptorAt_length]

theorem totStep_totAfter {prior : TotTable} {i : ℕ} (hi : i < 20) {r : UInt16} (hr : 4 < r) :
    ∃ r', totStep buf (r,totAfter buf prior i) () = some (r',totAfter buf prior (i+1)) := by
  rw [totStep,if_pos hr,run_totIteration buf _ _ hi (totAfter_count buf prior hi.le),
    totAfter_store buf prior hi]
  exact ⟨_,rfl⟩

theorem totStep_exact {prior : TotTable} {i : ℕ} (hi : i < 20)
    (hlt : totOffset buf prior i+4 < totLoopLength buf)
    (hle : totOffset buf prior (i+1) ≤ totLoopLength buf) :
    totStep buf (totRemaining buf prior i,totAfter buf prior i) () =
      some (totRemaining buf prior (i+1),totAfter buf prior (i+1)) := by
  rw [totStep,if_pos (four_lt_totRemaining.mpr hlt),totIteration_exact buf prior hi hle]
  rfl

theorem totStep_guard {prior : TotTable} {i : ℕ} (hi : i ≤ 20) {s' : UInt16 × TotTable}
    (h : totStep buf (totRemaining buf prior i,totAfter buf prior i) () = some s') :
    i < 20 ∧ totOffset buf prior i+4 < totLoopLength buf := by
  by_cases hlt : totOffset buf prior i+4 < totLoopLength buf
  · refine ⟨hi.lt_of_ne ?_,hlt⟩
    rintro rfl
    rw [totStep,if_pos (four_lt_totRemaining.mpr hlt),
      run_totIteration_fault buf _ _ (totAfter_count buf prior le_rfl)] at h
    cases h
  · rw [totStep,if_neg (mt four_lt_totRemaining.mp hlt)] at h
    cases h

theorem TotCovered.reached {prior : TotTable} (h : TotCovered buf prior) {s : UInt16 × TotTable}
    (hs : TotReached buf prior s) :
    ∃ i ≤ 20, s = (totRemaining buf prior i,totAfter buf prior i) ∧
      ∀ m < i, totOffset buf prior m+4 < totLoopLength buf := by
  refine hs.invariant (I := fun s => ∃ i ≤ 20, s = (totRemaining buf prior i,totAfter buf prior i) ∧
    ∀ m < i, totOffset buf prior m+4 < totLoopLength buf) ?_ ?_
  · exact ⟨0,Nat.zero_le 20,by rw [totRemaining_zero,totAfter_zero],by simp⟩
  · rintro s s' e ⟨i,hi,rfl,hbefore⟩ - hstep
    obtain ⟨hi,hlt⟩ := totStep_guard hi hstep
    have hbefore' : ∀ m ≤ i, totOffset buf prior m+4 < totLoopLength buf := by
      intro m hm
      rcases hm.eq_or_lt with rfl | hm
      · exact hlt
      · exact hbefore m hm
    rw [totStep_exact hi hlt (h i hi hbefore')] at hstep
    cases hstep
    exact ⟨i+1,hi,rfl,fun m hm => hbefore' m (Nat.le_of_lt_succ hm)⟩

theorem totProgress_of_covered {prior : TotTable} (h : TotCovered buf prior) :
    TotProgress buf prior := by
  intro s s' hs hstep
  obtain ⟨i,hi,rfl,hbefore⟩ := h.reached hs
  obtain ⟨hi,hlt⟩ := totStep_guard hi hstep
  have hle := h i hi fun m hm => hm.eq_or_lt.elim (fun h => h ▸ hlt) (hbefore m)
  rw [totStep_exact hi hlt hle,Option.some.injEq] at hstep
  rw [← hstep,totTaken_totAfter prior hi]
  simp only [totRemaining_toNat]
  rw [totOffset] at hle ⊢
  omega

theorem TotProgress.covered {prior : TotTable} (h : TotProgress buf prior) :
    TotCovered buf prior := by
  intro i hi hbefore
  -- the exact run as far as slot `i`
  have hreached (j : ℕ) (hj : j ≤ i) :
      TotReached buf prior (totRemaining buf prior j,totAfter buf prior j) := by
    induction j with
    | zero =>
      rw [totRemaining_zero,totAfter_zero]
      exact .start
    | succ j ih =>
      have hnext := hbefore (j+1) hj
      exact (ih (by omega)).next () trivial
        (totStep_exact (by omega) (hbefore j (by omega)) (by omega))
  obtain ⟨r',hstep⟩ : ∃ r', totStep buf (totRemaining buf prior i,totAfter buf prior i) () =
      some (r',totAfter buf prior (i+1)) :=
    totStep_totAfter hi (four_lt_totRemaining.mpr (hbefore i le_rfl))
  have htaken := (h _ _ (hreached i le_rfl) hstep).1
  have hlt := hbefore i le_rfl
  rw [totTaken_totAfter prior hi,totRemaining_toNat] at htaken
  rw [totOffset]
  omega

theorem TotFits.covered {prior : TotTable} (h : TotFits buf prior) : TotCovered buf prior := by
  obtain ⟨n,hn,hle,hend⟩ := h
  intro i _ hbefore
  have hlt : i < n := by
    by_contra hnot
    have := hbefore n (by omega)
    omega
  exact (totOffset_mono buf prior hlt).trans hle

/-- The loop never takes off more than remains exactly if each length that it uses is
covered.  It makes progress and ends, with every slot inside the array, exactly if the
section fits. -/
theorem tot_loop_progress_iff (buf : Buffer) (prior : TotTable) :
    (TotProgress buf prior ↔ TotCovered buf prior) ∧
    ((TotProgress buf prior ∧ ∃ table, run buf (parseTotTable prior) = .ok (tablesParseOk,table)) ↔
      TotFits buf prior) := by
  refine ⟨⟨TotProgress.covered,totProgress_of_covered⟩,?_,?_⟩
  · rintro ⟨-,table,hrun⟩
    obtain ⟨n,hends,-⟩ := endsAt_of_run hrun
    exact (totFits_iff_endsAt buf prior).mpr ⟨n,hends⟩
  · intro hfit
    obtain ⟨n,hends⟩ := (totFits_iff_endsAt buf prior).mp hfit
    exact ⟨totProgress_of_covered hfit.covered,_,run_parseTotTable_endsAt hends⟩

/-- A TOT whose descriptor is longer than the loop that it stands in. -/
def shortLoopTot : Buffer := fun i =>
  [0x73,0x70,21,0xC0,0x79,0x12,0x45,0x00,0xF0,10,0x58,13].getD i 0

theorem shortLoopTot_wraps :
    (∃ s s', TotReached shortLoopTot .zeroed s ∧ totStep shortLoopTot s () = some s' ∧
      s.1 = 10 ∧ s'.1 = 65531 ∧ s.1.toNat < totTaken s s') ∧
    ¬ ∃ table, run shortLoopTot (parseTotTable .zeroed) = .ok (tablesParseOk,table) := by
  constructor
  · have hstep : (totStep shortLoopTot (word (shortLoopTot 8) (shortLoopTot 9) &&& 0x0FFF,
        totStart shortLoopTot .zeroed) ()).map (fun s' => (s'.1,totTaken (10,totStart shortLoopTot
          .zeroed) s')) = some (65531,15) := by decide +kernel
    obtain ⟨s',hs',heq⟩ := Option.map_eq_some_iff.mp hstep
    obtain ⟨hlength,htaken⟩ := Prod.mk.inj heq
    refine ⟨_,s',Reach.start,hs',by decide,hlength,?_⟩
    change (10 : UInt16).toNat < totTaken (10,totStart shortLoopTot .zeroed) s'
    rw [htaken]
    decide
  · rintro ⟨table,hrun⟩
    have hnot : ¬ TotFits shortLoopTot .zeroed := by decide +kernel
    obtain ⟨n,hends,-⟩ := endsAt_of_run hrun
    exact hnot ((totFits_iff_endsAt shortLoopTot .zeroed).mpr ⟨n,hends⟩)

end TvApp

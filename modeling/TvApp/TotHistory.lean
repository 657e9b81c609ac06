import TvApp.TotEncoding

/-! What is left of the previous table in the outcome of a TOT parse.
The table is reused for every TOT that arrives.  A slot whose tag is not 0x58 keeps
its old contents, and its old length is taken off the remaining length. -/
namespace TvApp

open Routine ParseErrorCode

/-- The two tables show the same: the count, and below it each slot as far as it is in
use. -/
structure TotTable.Agrees (t t' : TotTable) : Prop where
  count : t.descriptorsCount = t'.descriptorsCount
  tag : ∀ i : Fin 20, i.val < t.descriptorsCount.toNat →
    (t.descriptors i).descriptorTag = (t'.descriptors i).descriptorTag
  length : ∀ i : Fin 20, i.val < t.descriptorsCount.toNat →
    (t.descriptors i).descriptorLength = (t'.descriptors i).descriptorLength
  infos : ∀ i : Fin 20, i.val < t.descriptorsCount.toNat →
    (t.descriptors i).numberOfInfos = (t'.descriptors i).numberOfInfos
  entries : ∀ i : Fin 20, i.val < t.descriptorsCount.toNat →
    ∀ m : Fin 20, m.val < (t.descriptors i).numberOfInfos.toNat →
      (t.descriptors i).ltoInfo m = (t'.descriptors i).ltoInfo m

/-- Length that the first `n` slots account for by the bytes of the section alone. -/
def freshOffset (buf : Buffer) : ℕ → ℕ
  | 0 => 0
  | n+1 => freshOffset buf n+((buf (11+15*n)).toNat+2)

/-- Each slot is written afresh until the loop length is used up. -/
def TotFresh (buf : Buffer) : Prop :=
  ∃ n ≤ 20, (∀ j < n, buf (10+15*j) = 0x58) ∧ freshOffset buf n ≤ totLoopLength buf ∧
    totLoopLength buf ≤ freshOffset buf n+4

instance (buf : Buffer) : Decidable (TotFresh buf) :=
  decidable_of_iff (∃ n : Fin 21, (∀ j < n.val, buf (10+15*j) = 0x58) ∧
    freshOffset buf n ≤ totLoopLength buf ∧ totLoopLength buf ≤ freshOffset buf n+4)
    (by simp only [TotFresh,Fin.exists_iff,Nat.lt_succ_iff,exists_prop])

variable {buf : Buffer}

theorem totOffset_fresh (prior : TotTable) {n : ℕ} (h : ∀ j < n, buf (10+15*j) = 0x58) :
    totOffset buf prior n = freshOffset buf n := by
  induction n with
  | zero => rfl
  | succ n ih =>
    rw [totOffset,freshOffset,ih fun j hj => h j (by omega),totDescriptorLength,
      if_pos (h n (Nat.lt_succ_self n))]

theorem TotEndsAt.of_fresh {prior : TotTable} {n : ℕ} (h : TotEndsAt buf prior n)
    (hfresh : ∀ j < n, buf (10+15*j) = 0x58) (prior' : TotTable) : TotEndsAt buf prior' n := by
  have hsame (m : ℕ) (hm : m ≤ n) : totOffset buf prior' m = totOffset buf prior m := by
    rw [totOffset_fresh prior' fun j hj => hfresh j (by omega),
      totOffset_fresh prior fun j hj => hfresh j (by omega)]
  refine ⟨h.le,fun m hm => ?_,?_,?_⟩
  · rw [hsame m hm.le]
    exact h.before m hm
  · rw [hsame n le_rfl]
    exact h.offset_le
  · rw [hsame n le_rfl]
    exact h.rest_le

theorem totAfter_agrees {n : ℕ} (hn : n ≤ 20) (h : ∀ j < n, buf (10+15*j) = 0x58)
    (prior prior' : TotTable) : (totAfter buf prior n).Agrees (totAfter buf prior' n) := by
  have hslot (p : TotTable) (i : Fin 20) (hi : i.val < (totAfter buf prior n).descriptorsCount.toNat) :
      (totAfter buf p n).descriptors i =
        { descriptorTag := buf (10+15*i.val)
          descriptorLength := buf (11+15*i.val)
          ltoInfo := fun k =>
            if k.val < (buf (11+15*i.val)/13).toNat then ltoInfoAt buf k
            else (p.descriptors i).ltoInfo k
          numberOfInfos := buf (11+15*i.val)/13 } := by
    rw [totAfter_count buf prior hn] at hi
    exact (if_pos hi).trans (if_pos (h i hi))
  refine ⟨rfl,?_,?_,?_,?_⟩
  · intro i hi
    rw [hslot prior i hi,hslot prior' i hi]
  · intro i hi
    rw [hslot prior i hi,hslot prior' i hi]
  · intro i hi
    rw [hslot prior i hi,hslot prior' i hi]
  · intro i hi m hm
    rw [hslot prior i hi] at hm
    rw [hslot prior i hi,hslot prior' i hi]
    exact (if_pos hm).trans (if_pos hm).symm

theorem totAfter_kept (prior : TotTable) (n : ℕ) (i : Fin 20) (h : buf (10+15*i.val) ≠ 0x58) :
    (totAfter buf prior n).descriptors i = prior.descriptors i := by
  have hslot : totDescriptorAt buf i (prior.descriptors i) = prior.descriptors i := if_neg h
  by_cases hi : i.val < n
  · exact (if_pos hi).trans hslot
  · exact if_neg hi

def tagged (tag : UInt8) : TotTable :=
  { TotTable.zeroed with descriptors := fun _ => ⟨tag,0,fun _ => ⟨0,0,0,0,0,0,0⟩,0⟩ }

/-- The outcome of a TOT parse is independent of the table that was there before
exactly if the section makes the parser write each slot that it visits. -/
theorem tot_history_independent_iff (buf : Buffer) :
    (∀ prior prior' : TotTable, ∃ t t', run buf (parseTotTable prior) = .ok (tablesParseOk,t) ∧
      run buf (parseTotTable prior') = .ok (tablesParseOk,t') ∧ t.Agrees t') ↔ TotFresh buf := by
  constructor
  · intro h
    -- two tables that differ in the tag of every slot
    obtain ⟨t,t',hrun,hrun',hagrees⟩ := h (tagged 0) (tagged 1)
    obtain ⟨n,hends,rfl⟩ := endsAt_of_run hrun
    obtain ⟨n',hends',rfl⟩ := endsAt_of_run hrun'
    have hcount := totAfter_count buf (tagged 0) hends.le
    have hfresh : ∀ j < n, buf (10+15*j) = 0x58 := by
      intro j hj
      by_contra hne
      have hj20 : j < 20 := hj.trans_le hends.le
      have htag := hagrees.tag ⟨j,hj20⟩ (by rw [hcount]; exact hj)
      rw [totAfter_kept (tagged 0) n ⟨j,hj20⟩ hne,totAfter_kept (tagged 1) n' ⟨j,hj20⟩ hne] at htag
      have htag : (0 : UInt8) = 1 := htag
      exact absurd htag (by decide)
    have hoffset := totOffset_fresh (tagged 0) hfresh
    refine ⟨n,hends.le,hfresh,?_,?_⟩
    · rw [← hoffset]
      exact hends.offset_le
    · rw [← hoffset]
      exact hends.rest_le
  · rintro ⟨n,hn,hfresh,hle,hrest⟩ prior prior'
    have hfit : TotFits buf prior := ⟨n,hn,by rw [totOffset_fresh prior hfresh]; exact ⟨hle,hrest⟩⟩
    obtain ⟨m,hends⟩ := (totFits_iff_endsAt buf prior).mp hfit
    have hm : m ≤ n := by
      by_contra hnot
      have hbefore := hends.before n (by omega)
      rw [totOffset_fresh prior hfresh] at hbefore
      omega
    have hfresh' : ∀ j < m, buf (10+15*j) = 0x58 := fun j hj => hfresh j (by omega)
    exact ⟨_,_,run_parseTotTable_endsAt hends,
      run_parseTotTable_endsAt (hends.of_fresh hfresh' prior'),
      totAfter_agrees hends.le hfresh' prior prior'⟩

def afterOneCountry : TotTable := totAfter TotSection.oneCountry.buffer .zeroed 1

/-- A private descriptor counts as six slots after start-up, and as one slot, with the
old country in it, after an earlier TOT. -/
theorem private_descriptor_shows_history :
    run TotSection.oneCountry.buffer (parseTotTable .zeroed) = .ok (tablesParseOk,afterOneCountry) ∧
    ∃ t t', run TotSection.privateDescriptor.buffer (parseTotTable .zeroed) =
        .ok (tablesParseOk,t) ∧
      run TotSection.privateDescriptor.buffer (parseTotTable afterOneCountry) =
        .ok (tablesParseOk,t') ∧
      t.descriptorsCount = 6 ∧ t'.descriptorsCount = 1 ∧
      (t'.descriptors 0).ltoInfo 0 = (TotSection.sampleEntry 0x53 0x52 0x42).info := by
  have hfirst : TotEndsAt TotSection.oneCountry.buffer .zeroed 1 :=
    ⟨by decide,by decide +kernel,by decide +kernel,by decide +kernel⟩
  have hzeroed : TotEndsAt TotSection.privateDescriptor.buffer .zeroed 6 :=
    ⟨by decide,by decide +kernel,by decide +kernel,by decide +kernel⟩
  have hlater : TotEndsAt TotSection.privateDescriptor.buffer afterOneCountry 1 :=
    ⟨by decide,by decide +kernel,by decide +kernel,by decide +kernel⟩
  exact ⟨run_parseTotTable_endsAt hfirst,_,_,run_parseTotTable_endsAt hzeroed,
    run_parseTotTable_endsAt hlater,rfl,rfl,by decide +kernel⟩

end TvApp

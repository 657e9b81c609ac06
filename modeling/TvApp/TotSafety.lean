import TvApp.ParserOutcome

/-! Where the TOT parser stores.  Its loop has no capacity test, so what keeps it
inside `descriptors` is arithmetic alone: the remaining length must come down to
four or less, without going below zero, within the first twenty descriptors.  Once
the `uint16_t` has wrapped, twenty descriptors are too few to bring it down again. -/
namespace TvApp

open Routine ParseErrorCode

variable {buf : Buffer}

/-- The length that `descriptorLoopLength` is reduced by for slot `j`, less two.  A
slot with a tag other than 0x58 still has the length of an earlier section. -/
def totDescriptorLength (buf : Buffer) (totTable : TotTable) (j : ℕ) : ℕ :=
  if buf (10+15*j) = 0x58 then (buf (11+15*j)).toNat
  else if h : j < 20 then (totTable.descriptors ⟨j,h⟩).descriptorLength.toNat else 0

/-- Length that the first `n` descriptors account for. -/
def totOffset (buf : Buffer) (totTable : TotTable) : ℕ → ℕ
  | 0 => 0
  | n+1 => totOffset buf totTable n+(totDescriptorLength buf totTable n+2)

/-- The twelve bits of `descriptors_loop_length`. -/
def totLoopLength (buf : Buffer) : ℕ := (word (buf 8) (buf 9) &&& 0x0FFF).toNat

/-- Some number of descriptors, twenty at most, leaves between zero and four bytes. -/
def TotFits (buf : Buffer) (totTable : TotTable) : Prop :=
  ∃ n ≤ 20, totOffset buf totTable n ≤ totLoopLength buf ∧
    totLoopLength buf ≤ totOffset buf totTable n+4

instance (buf : Buffer) (totTable : TotTable) : Decidable (TotFits buf totTable) :=
  decidable_of_iff (∃ n : Fin 21, totOffset buf totTable n ≤ totLoopLength buf ∧
    totLoopLength buf ≤ totOffset buf totTable n+4)
    (by simp only [TotFits,Fin.exists_iff,Nat.lt_succ_iff,exists_prop])

theorem totDescriptorLength_le (buf : Buffer) (totTable : TotTable) (j : ℕ) :
    totDescriptorLength buf totTable j ≤ 255 := by
  rw [totDescriptorLength]
  split
  · have := (buf (11+15*j)).toNat_lt
    omega
  · split
    · rename_i h
      have := (totTable.descriptors ⟨j,h⟩).descriptorLength.toNat_lt
      omega
    · omega

theorem totOffset_le (buf : Buffer) (totTable : TotTable) (n : ℕ) :
    totOffset buf totTable n ≤ 257*n := by
  induction n with
  | zero => exact le_rfl
  | succ n ih =>
    have := totDescriptorLength_le buf totTable n
    rw [totOffset]
    omega

theorem totLoopLength_lt (buf : Buffer) : totLoopLength buf < 4096 := by
  rw [totLoopLength,and_0FFF_toNat]
  exact Nat.mod_lt _ (by omega)

theorem parseLtoInfo_safe (i : ℕ) (hi : i < 20) :
    Safe buf 512 20 (parseLtoInfo i) fun _ => True := by
  refine (Safe.byte (by omega)).bind fun _ _ => (Safe.byte (by omega)).bind fun _ _ =>
    (Safe.byte (by omega)).bind fun _ _ => (Safe.byte (by omega)).bind fun _ _ =>
    (Safe.byte (by omega)).bind fun _ _ => (Safe.byte (by omega)).bind fun _ _ => ?_
  exact .pure trivial

theorem parseLtoInfos_safe (left i : ℕ) (h : i+left ≤ 20)
    (ltoInfo : Fin tablesMaxNumberOfLtoDescriptors → LTODescriptorInfo) :
    Safe buf 512 20 (parseLtoInfos left i ltoInfo) fun _ => True := by
  induction left generalizing i ltoInfo with
  | zero => exact .pure trivial
  | succ left ih =>
    refine (Safe.slot (by omega)).bind fun k _ =>
      (parseLtoInfo_safe i (by omega)).bind fun info _ => ?_
    exact ih (i+1) (by omega) _

theorem div13_lt (b : UInt8) : (b/13).toNat < 20 := by
  have := b.toNat_lt
  rw [UInt8.toNat_div]
  change b.toNat/13 < 20
  omega

theorem parseTotDescriptor_safe (currentDesc : UInt8) (hc : currentDesc.toNat < 20)
    (descriptor : LocalTimeOffsetDescriptor) :
    Safe buf 512 20
      (parseTotDescriptor currentDesc (buf (10+15*currentDesc.toNat)) descriptor) fun d =>
        d.descriptorLength.toNat = (if buf (10+15*currentDesc.toNat) = 0x58 then
          (buf (11+15*currentDesc.toNat)).toNat else descriptor.descriptorLength.toNat) ∧
        (d.numberOfInfos.toNat < 20 ∨ d = descriptor) := by
  rw [parseTotDescriptor]
  split
  · refine (Safe.byte (by omega)).bind fun b hb => (Safe.byte (by omega)).bind fun c hc' => ?_
    subst hb hc'
    have hlt := div13_lt (buf (11+15*currentDesc.toNat))
    refine (parseLtoInfos_safe _ 0 (by omega) _).bind fun info _ => .pure ⟨rfl,.inl hlt⟩
  · exact .pure ⟨rfl,.inr rfl⟩

def TotTable.store (totTable : TotTable) (i : ℕ) (hi : i < 20) (d : LocalTimeOffsetDescriptor) :
    TotTable :=
  { totTable with
    descriptors := Function.update totTable.descriptors ⟨i,hi⟩ d
    descriptorsCount := totTable.descriptorsCount+1 }

theorem TotTable.store_self (totTable : TotTable) {i : ℕ} (hi : i < 20)
    (d : LocalTimeOffsetDescriptor) : (totTable.store i hi d).descriptors ⟨i,hi⟩ = d :=
  Function.update_self _ _ _

theorem TotTable.store_of_ne (totTable : TotTable) {i : ℕ} (hi : i < 20) {j : Fin 20}
    (hj : j.val ≠ i) (d : LocalTimeOffsetDescriptor) :
    (totTable.store i hi d).descriptors j = totTable.descriptors j :=
  Function.update_of_ne (fun h => hj (congrArg Fin.val h)) _ _

theorem TotTable.store_count (totTable : TotTable) {i : ℕ} (hi : i < 20)
    (hc : totTable.descriptorsCount.toNat = i) (d : LocalTimeOffsetDescriptor) :
    (totTable.store i hi d).descriptorsCount.toNat = i+1 := by
  rw [store,toNat_succ _ (by omega),hc]

theorem parseTotDescriptors_end {r : UInt16} (hr : r.toNat ≤ 4) (totTable : TotTable) :
    parseTotDescriptors r totTable = pure totTable := by
  rw [parseTotDescriptors,if_neg]
  rw [UInt16.lt_iff_toNat_lt]
  change ¬ 4 < r.toNat
  omega

theorem parseTotDescriptors_step (buf : Buffer) {r : UInt16} (hr : 4 < r.toNat) (totTable : TotTable) {i : ℕ}
    (hi : i < 20) (hc : totTable.descriptorsCount.toNat = i) :
    ∃ d : LocalTimeOffsetDescriptor,
      d.descriptorLength.toNat = totDescriptorLength buf totTable i ∧
      (d.numberOfInfos.toNat < 20 ∨ d = totTable.descriptors ⟨i,hi⟩) ∧
      run buf (parseTotDescriptors r totTable) =
        run buf (parseTotDescriptors (r-(d.descriptorLength.toUInt16+2)) (totTable.store i hi d)) ∧
      (Inside buf 20 (parseTotDescriptors r totTable) ↔
        Inside buf 20 (parseTotDescriptors (r-(d.descriptorLength.toUInt16+2))
          (totTable.store i hi d))) := by
  subst hc
  have hlt : 4 < r := by
    rw [UInt16.lt_iff_toNat_lt]
    exact hr
  rw [parseTotDescriptors,if_pos hlt]
  have hbyte : Safe buf 512 20 (Routine.byte (10+15*totTable.descriptorsCount.toNat)) _ :=
    Safe.byte (by omega)
  obtain ⟨tag,htag,hrun,hin⟩ := hbyte.peel _
  rw [hrun,hin]
  have hslot : Safe buf 512 20 (Routine.slot 20 (totTable.descriptorsCount.toNat : ℤ)) _ :=
    Safe.slot hi
  obtain ⟨k,hk,hrun,hin⟩ := hslot.peel _
  rw [hrun,hin]
  subst htag hk
  have hdescriptor : Safe buf 512 20 _ _ :=
    parseTotDescriptor_safe _ hi (totTable.descriptors ⟨_,hi⟩)
  obtain ⟨d,⟨hlen,hinfos⟩,hrun,hin⟩ := hdescriptor.peel _
  rw [hrun,hin]
  refine ⟨d,?_,hinfos,rfl,Iff.rfl⟩
  rw [hlen,totDescriptorLength,dif_pos hi]

theorem parseTotDescriptors_fault (buf : Buffer) {r : UInt16} (hr : 4 < r.toNat) (totTable : TotTable)
    (hc : totTable.descriptorsCount.toNat = 20) :
    run buf (parseTotDescriptors r totTable) = .error ⟨20,20⟩ ∧
      ¬ Inside buf 20 (parseTotDescriptors r totTable) := by
  have hlt : 4 < r := by
    rw [UInt16.lt_iff_toNat_lt]
    exact hr
  rw [parseTotDescriptors,if_pos hlt]
  have hbyte : Safe buf 512 20 (Routine.byte (10+15*totTable.descriptorsCount.toNat)) _ :=
    Safe.byte (by omega)
  obtain ⟨tag,-,hrun,hin⟩ := hbyte.peel _
  rw [hrun,hin]
  constructor
  · rw [run_bind,hc,run_slot_fault buf (le_refl 20)]
    rfl
  · intro hinside
    have hmem := hinside totTable.descriptorsCount.toNat
      (by rw [subscripts_bind,subscripts_slot]; exact List.mem_cons_self)
    omega

/-- State of the loop before slot `i`: the slots still to come are those of the
table it started from, and the remaining length is exact or has wrapped once. -/
structure TotLoop (buf : Buffer) (prior : TotTable) (r : UInt16) (totTable : TotTable)
    (i : ℕ) : Prop where
  count : totTable.descriptorsCount.toNat = i
  rest : ∀ j (hj : j < 20), i ≤ j → totTable.descriptors ⟨j,hj⟩ = prior.descriptors ⟨j,hj⟩
  remaining : r.toNat+totOffset buf prior i = totLoopLength buf ∨
    (totLoopLength buf < totOffset buf prior i ∧
      r.toNat+totOffset buf prior i = totLoopLength buf+65536)

namespace TotLoop

variable {prior totTable : TotTable} {r : UInt16} {i : ℕ}

theorem descriptorLength (h : TotLoop buf prior r totTable i) (hi : i < 20) :
    totDescriptorLength buf totTable i = totDescriptorLength buf prior i := by
  rw [totDescriptorLength,totDescriptorLength,dif_pos hi,dif_pos hi,h.rest i hi le_rfl]

theorem le_four_iff (h : TotLoop buf prior r totTable i) (hi : i ≤ 20) :
    r.toNat ≤ 4 ↔ totOffset buf prior i ≤ totLoopLength buf ∧
      totLoopLength buf ≤ totOffset buf prior i+4 := by
  have hoffset := totOffset_le buf prior i
  rcases h.remaining with hr | ⟨hlt,hr⟩
  · omega
  · omega

theorem step (h : TotLoop buf prior r totTable i) (hi : i < 20) {d : LocalTimeOffsetDescriptor}
    (hd : d.descriptorLength.toNat = totDescriptorLength buf prior i) :
    TotLoop buf prior (r-(d.descriptorLength.toUInt16+2)) (totTable.store i hi d) (i+1) where
  count := totTable.store_count hi h.count d
  rest := by
    intro j hj hij
    have hne : (⟨j,hj⟩ : Fin 20).val ≠ i := by
      change j ≠ i
      omega
    rw [totTable.store_of_ne hi hne]
    exact h.rest j hj (by omega)
  remaining := by
    have hoffset := totOffset_le buf prior i
    have hr := r.toNat_lt
    have hd' := d.descriptorLength.toNat_lt
    have hsize : (d.descriptorLength.toUInt16+2).toNat = d.descriptorLength.toNat+2 := by
      rw [UInt16.toNat_add,UInt8.toNat_toUInt16]
      exact Nat.mod_eq_of_lt (by change d.descriptorLength.toNat+2 < 65536; omega)
    rw [UInt16.toNat_sub,hsize,totOffset,← hd]
    have hlength := totLoopLength_lt buf
    rcases h.remaining with hrem | ⟨hlt,hrem⟩
    · omega
    · omega

end TotLoop

def TotTable.InfosBelow (totTable : TotTable) : Prop :=
  ∀ i, (totTable.descriptors i).numberOfInfos.toNat ≤ 20

theorem TotTable.InfosBelow.store {totTable : TotTable} (h : totTable.InfosBelow) {i : ℕ}
    (hi : i < 20) {d : LocalTimeOffsetDescriptor}
    (hd : d.numberOfInfos.toNat < 20 ∨ d = totTable.descriptors ⟨i,hi⟩) :
    (totTable.store i hi d).InfosBelow := by
  intro j
  by_cases hj : j.val = i
  · obtain rfl : j = ⟨i,hi⟩ := Fin.ext hj
    rw [totTable.store_self hi]
    rcases hd with hd | rfl
    · omega
    · exact h _
  · rw [totTable.store_of_ne hi hj]
    exact h j

def TotFitsFrom (buf : Buffer) (prior : TotTable) (i : ℕ) : Prop :=
  ∃ n ≤ 20, i ≤ n ∧ totOffset buf prior n ≤ totLoopLength buf ∧
    totLoopLength buf ≤ totOffset buf prior n+4

/-- The loop either ends inside the array or runs past it, and which of the two
is decided by the offsets. -/
theorem parseTotDescriptors_outcome {prior totTable : TotTable} {r : UInt16} {i : ℕ}
    (hi : i ≤ 20) (h : TotLoop buf prior r totTable i) :
    (TotFitsFrom buf prior i ∧ Inside buf 20 (parseTotDescriptors r totTable) ∧
      ∃ final, run buf (parseTotDescriptors r totTable) = .ok final ∧
        final.descriptorsCount.toNat ≤ 20 ∧ (totTable.InfosBelow → final.InfosBelow)) ∨
    (¬ TotFitsFrom buf prior i ∧ ¬ Inside buf 20 (parseTotDescriptors r totTable) ∧
      ∃ fault, run buf (parseTotDescriptors r totTable) = .error fault) := by
  -- on the number of free slots; the invariant carries the remaining length
  induction hn : 20-i generalizing i r totTable with
  | zero =>
    have hi' : i = 20 := by omega
    subst hi'
    by_cases hr : r.toNat ≤ 4
    · left
      rw [parseTotDescriptors_end hr]
      exact ⟨⟨20,le_rfl,le_rfl,(h.le_four_iff le_rfl).mp hr⟩,by simp [Inside],totTable,rfl,
        h.count.le,id⟩
    · right
      obtain ⟨hrun,hin⟩ := parseTotDescriptors_fault buf (Nat.lt_of_not_le hr) totTable h.count
      refine ⟨?_,hin,_,hrun⟩
      rintro ⟨n,hn20,hn,hfit⟩
      obtain rfl : n = 20 := by omega
      exact hr ((h.le_four_iff le_rfl).mpr hfit)
  | succ n ih =>
    have hlt : i < 20 := by omega
    by_cases hr : r.toNat ≤ 4
    · left
      rw [parseTotDescriptors_end hr]
      exact ⟨⟨i,hi,le_rfl,(h.le_four_iff hi).mp hr⟩,by simp [Inside],totTable,rfl,
        by rw [h.count]; exact hi,id⟩
    · obtain ⟨d,hlen,hinfos,hrun,hin⟩ :=
        parseTotDescriptors_step buf (Nat.lt_of_not_le hr) totTable hlt h.count
      rw [h.descriptorLength hlt] at hlen
      have hfrom : TotFitsFrom buf prior i ↔ TotFitsFrom buf prior (i+1) := by
        constructor
        · rintro ⟨m,hm20,hm,hfit⟩
          have hne : m ≠ i := by
            rintro rfl
            exact hr ((h.le_four_iff hi).mpr hfit)
          exact ⟨m,hm20,by omega,hfit⟩
        · rintro ⟨m,hm20,hm,hfit⟩
          exact ⟨m,hm20,by omega,hfit⟩
      rw [hfrom,hin,hrun]
      rcases ih (by omega) (h.step hlt hlen) (by omega) with
        ⟨hfit,hinside,final,hfinal,hcount,hbelow⟩ | hout
      · exact .inl ⟨hfit,hinside,final,hfinal,hcount,fun hb => hbelow (hb.store hlt hinfos)⟩
      · exact .inr hout

theorem totFitsFrom_zero_iff (prior : TotTable) : TotFitsFrom buf prior 0 ↔ TotFits buf prior := by
  simp [TotFitsFrom,TotFits]

theorem parseTotTable_outcome (buf : Buffer) (prior : TotTable) :
    (TotFits buf prior ∧ Inside buf 20 (parseTotTable prior) ∧
      ∃ final, run buf (parseTotTable prior) = .ok (tablesParseOk,final) ∧
        final.descriptorsCount.toNat ≤ 20 ∧ (prior.InfosBelow → final.InfosBelow)) ∨
    (¬ TotFits buf prior ∧ ¬ Inside buf 20 (parseTotTable prior) ∧
      ∃ fault, run buf (parseTotTable prior) = .error fault) := by
  rw [← totFitsFrom_zero_iff,parseTotTable]
  have hbyte : Safe buf 512 20 (Routine.byte 0) _ := Safe.byte (by omega)
  obtain ⟨tableId,-,hrun,hin⟩ := hbyte.peel _
  rw [hrun,hin]
  have hlength : Safe buf 512 20 (word16 1) _ := word16_safe (by omega)
  obtain ⟨length16,-,hrun,hin⟩ := hlength.peel _
  rw [hrun,hin]
  have hmjd : Safe buf 512 20 (word16 3) _ := word16_safe (by omega)
  obtain ⟨mjd16,-,hrun,hin⟩ := hmjd.peel _
  rw [hrun,hin]
  have hloop : Safe buf 512 20 (word16 8) _ := word16_safe (by omega)
  obtain ⟨loop16,hloop16,hrun,hin⟩ := hloop.peel _
  rw [hrun,hin]
  subst hloop16
  generalize hstart : ({ prior with
      tableId := tableId
      sectionLength := length16 &&& 0x0FFF
      MJD := mjd16
      descriptorsLoopLength := word (buf 8) (buf 9) &&& 0x0FFF
      descriptorsCount := 0 } : TotTable) = start
  have hdescriptors : start.descriptors = prior.descriptors := by
    rw [← hstart]
  have hinv : TotLoop buf prior (word (buf 8) (buf 9) &&& 0x0FFF) start 0 := by
    refine ⟨?_,?_,.inl rfl⟩
    · rw [← hstart]
      rfl
    · intro j hj _
      rw [hdescriptors]
  -- the rest only returns the table that the loop leaves
  have hsubs : Inside buf 20 (parseTotDescriptors (word (buf 8) (buf 9) &&& 0x0FFF) start >>=
      fun final => pure (tablesParseOk,final)) ↔
      Inside buf 20 (parseTotDescriptors (word (buf 8) (buf 9) &&& 0x0FFF) start) := by
    rw [Inside,Inside,subscripts_bind]
    cases run buf (parseTotDescriptors (word (buf 8) (buf 9) &&& 0x0FFF) start) with
    | error e => simp [Except.toOption]
    | ok t => simp [Except.toOption]
  rw [hsubs,run_bind]
  rcases parseTotDescriptors_outcome (Nat.zero_le 20) hinv with
    ⟨hfit,hinside,final,hfinal,hcount,hbelow⟩ | ⟨hfit,hinside,fault,hfault⟩
  · refine .inl ⟨hfit,hinside,final,by rw [hfinal]; rfl,hcount,fun hb => hbelow ?_⟩
    intro i
    rw [hdescriptors]
    exact hb i
  · exact .inr ⟨hfit,hinside,fault,by rw [hfault]; rfl⟩

theorem printLtoInfos_safe (left j : ℕ) (h : j+left ≤ 20) :
    Safe buf 0 20 (printLtoInfos left j) fun _ => True := by
  induction left generalizing j with
  | zero => exact .pure trivial
  | succ left ih => exact (Safe.slot (by omega)).bind fun _ _ => ih (j+1) (by omega)

theorem printTotTable_safe {totTable : TotTable} (hb : totTable.InfosBelow) (left i : ℕ)
    (h : i+left ≤ 20) : Safe buf 0 20 (printTotTable totTable left i) fun _ => True := by
  induction left generalizing i with
  | zero => exact .pure trivial
  | succ left ih =>
    refine (Safe.slot (by omega)).bind fun k _ =>
      (printLtoInfos_safe _ 0 ?_).bind fun _ _ => ih (i+1) (by omega)
    have := hb k.1
    omega

def TotFitsAll (totTable : TotTable) : List Buffer → Prop
  | [] => True
  | b :: buffers =>
    if b 0 = 0x73 then
      TotFits b totTable ∧ ∀ r, run b (parseTotTable totTable) = .ok r → TotFitsAll r.2 buffers
    else TotFitsAll totTable buffers

theorem sectionReceivedCallback_other (tables : SectionTables) (hid : buf 0 ≠ 0x73) :
    ∃ r, run buf (sectionReceivedCallback tables) = .ok r ∧ r.2.totTable = tables.totTable := by
  rw [sectionReceivedCallback,run_bind,run_byte]
  change ∃ r, run buf (if buf 0 = 0x00 then _ else _) = .ok r ∧ _
  split
  · exact ⟨_,by rw [run_bind,run_parsePatTable_eq]; rfl,rfl⟩
  · split
    · exact ⟨_,by rw [run_bind,run_parsePmtTable_eq]; rfl,rfl⟩
    · split
      · exact ⟨_,rfl,rfl⟩
      · exact ⟨_,rfl,rfl⟩

theorem sectionReceivedCallback_tot (tables : SectionTables) (hid : buf 0 = 0x73) :
    run buf (sectionReceivedCallback tables) =
      run buf (parseTotTable tables.totTable) >>= fun q =>
        run buf (printTotTable q.2 q.2.descriptorsCount.toNat 0) >>= fun _ =>
          .ok (decide (q.1 = tablesParseOk),{ tables with totTable := q.2 }) := by
  rw [sectionReceivedCallback,run_bind,run_byte]
  change run buf (if buf 0 = 0x00 then _ else _) = _
  rw [hid]
  change run buf (parseTotTable tables.totTable >>= _) = _
  rw [run_bind]
  simp only [run_bind,run_pure]

/-- Run lemma: the callback survives the sequences that fit and no others, and the
table it leaves can be printed. -/
theorem sectionsReceived_outcome (buffers : List Buffer) (tables : SectionTables)
    (hcount : tables.totTable.descriptorsCount.toNat ≤ 20) (hb : tables.totTable.InfosBelow) :
    (TotFitsAll tables.totTable buffers ∧
      ∃ final, sectionsReceived tables buffers = .ok final ∧
        final.totTable.descriptorsCount.toNat ≤ 20 ∧ final.totTable.InfosBelow) ∨
    (¬ TotFitsAll tables.totTable buffers ∧
      ∃ fault, sectionsReceived tables buffers = .error fault) := by
  induction buffers generalizing tables with
  | nil => exact .inl ⟨trivial,tables,rfl,hcount,hb⟩
  | cons b buffers ih =>
    rw [sectionsReceived,TotFitsAll]
    by_cases hid : b 0 = 0x73
    · rw [if_pos hid,sectionReceivedCallback_tot tables hid]
      rcases parseTotTable_outcome b tables.totTable with
        ⟨hfit,-,next,hrun,hcount',hbelow⟩ | ⟨hfit,-,fault,hrun⟩
      · obtain ⟨u,hprint,-⟩ := (printTotTable_safe (hbelow hb) next.descriptorsCount.toNat 0
          (by omega) : Safe b 0 20 _ _).returns
        have hrest : (TotFits b tables.totTable ∧ ∀ r, run b (parseTotTable tables.totTable) =
            .ok r → TotFitsAll r.2 buffers) ↔ TotFitsAll next buffers := by
          rw [hrun]
          constructor
          · intro h
            exact h.2 _ rfl
          · intro h
            refine ⟨hfit,fun r hr => ?_⟩
            cases hr
            exact h
        rw [hrest,hrun]
        change (_ ∧ ∃ final, ((run b (printTotTable next next.descriptorsCount.toNat 0) >>= _) >>=
          _) = Except.ok final ∧ _) ∨ (_ ∧ ∃ fault, ((run b (printTotTable next
            next.descriptorsCount.toNat 0) >>= _) >>= _) = Except.error fault)
        rw [hprint]
        exact ih { tables with totTable := next } hcount' (hbelow hb)
      · rw [hrun]
        exact .inr ⟨fun h => hfit h.1,fault,rfl⟩
    · rw [if_neg hid]
      obtain ⟨r,hr,htot⟩ := sectionReceivedCallback_other tables hid
      rw [hr,← htot]
      exact ih r.2 (by rw [htot]; exact hcount) (by rw [htot]; exact hb)

/-- The TOT parser stays inside its arrays exactly for the sections that fit.  From
the zeroed table, a sequence of sections leaves a count of at most twenty and a
table that prints inside its arrays exactly if each TOT section fits when it comes. -/
theorem tot_subscripts_inside_iff_fits (buf : Buffer) (prior : TotTable) (buffers : List Buffer) :
    ((∀ k ∈ subscripts buf (parseTotTable prior), 0 ≤ k ∧ k < 20) ↔ TotFits buf prior) ∧
    ((∃ tables, sectionsReceived .zeroed buffers = .ok tables ∧
        tables.totTable.descriptorsCount.toNat ≤ 20 ∧
        ∀ b, ∀ k ∈ subscripts b (printTotTable tables.totTable
          tables.totTable.descriptorsCount.toNat 0), 0 ≤ k ∧ k < 20) ↔
      TotFitsAll .zeroed buffers) := by
  constructor
  · rcases parseTotTable_outcome buf prior with ⟨hfit,hinside,-⟩ | ⟨hfit,hinside,-⟩
    · exact ⟨fun _ => hfit,fun _ => hinside⟩
    · exact ⟨fun h => absurd h hinside,fun h => absurd h hfit⟩
  · rcases sectionsReceived_outcome buffers .zeroed (by decide) (fun _ => by decide +revert) with
      ⟨hall,tables,hrun,hcount,hbelow⟩ | ⟨hnot,fault,hrun⟩
    · refine ⟨fun _ => hall,fun _ => ⟨tables,hrun,hcount,fun b => ?_⟩⟩
      exact (printTotTable_safe hbelow _ 0 (by omega) : Safe b 0 20 _ _).subscripts_mem
    · constructor
      · rintro ⟨tables,hok,-⟩
        rw [hrun] at hok
        cases hok
      · intro h
        exact absurd h hnot

def crowdedTot : Buffer := fun i =>
  [0x73,0x70,57,0xC0,0x79,0x12,0x45,0x00,0xF0,46].getD i (if 56 ≤ i then 0xFF else
    if i % 2 = 0 then 0x80 else 0)

theorem crowdedTot_overruns :
    ¬ (∀ k ∈ subscripts crowdedTot (parseTotTable .zeroed), 0 ≤ k ∧ k < 20) ∧
      ¬ ∃ tables, sectionsReceived .zeroed [crowdedTot] = .ok tables := by
  have hnot : ¬ TotFits crowdedTot .zeroed := by decide +kernel
  constructor
  · intro hinside
    rcases parseTotTable_outcome crowdedTot .zeroed with h | h
    · exact hnot h.1
    · exact h.2.1 hinside
  · rintro ⟨tables,hrun⟩
    have hid : crowdedTot 0 = 0x73 := by decide
    rcases parseTotTable_outcome crowdedTot .zeroed with h | ⟨-,-,fault,hfault⟩
    · exact hnot h.1
    · rw [sectionsReceived,sectionReceivedCallback_tot _ hid] at hrun
      change ((run crowdedTot (parseTotTable .zeroed) >>= _) >>= _) = _ at hrun
      rw [hfault] at hrun
      cases hrun

end TvApp

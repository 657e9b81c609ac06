import TvApp.ParserOutcome

/-! The framing of accepted sections.
Both parsers leave room for the four bytes of the CRC in `parsedLength`, but their
loops end as soon as the section length is reached or passed.  A section whose
entries do not add up is accepted all the same, with bytes of the CRC, or of what
follows it, taken for an entry or jumped over as descriptors. -/
namespace TvApp

open Routine ParseErrorCode

/-- Header, entries and CRC make up the section: the loop ends where the CRC begins
and reads nothing from there on. -/
structure PatTable.Framed (patTable : PatTable) (buf : Buffer) : Prop where
  length : 8+4*patTable.serviceInfoCount.toNat+4 = patTable.patHeader.sectionLength.toNat+3
  loop : ∀ arr walk, run buf (parsePatEntries patTable.patHeader.sectionLength arr) = .ok walk →
    walk.2.parsedLength = patTable.patHeader.sectionLength.toNat ∧
      walk.2.position+4 = patTable.patHeader.sectionLength.toNat+3
  decoded : ∀ arr, ∀ i ∈ reads buf (parsePatEntries patTable.patHeader.sectionLength arr),
    i+4 < patTable.patHeader.sectionLength.toNat+3

def PmtTable.entriesLength (pmtTable : PmtTable) : ℕ :=
  (((List.finRange 20).take pmtTable.elementaryInfoCount.toNat).map fun i =>
    5+(pmtTable.pmtElementaryInfoArray i).esInfoLength.toNat).sum

structure PmtTable.Framed (pmtTable : PmtTable) (buf : Buffer) : Prop where
  length : 12+pmtTable.pmtHeader.programInfoLength.toNat+pmtTable.entriesLength+4 =
    pmtTable.pmtHeader.sectionLength.toNat+3
  loop : ∀ arr walk, run buf (parsePmtEntries pmtTable.pmtHeader.sectionLength
      pmtTable.pmtHeader.programInfoLength arr) = .ok walk →
    walk.2.parsedLength = pmtTable.pmtHeader.sectionLength.toNat ∧
      walk.2.position+4 = pmtTable.pmtHeader.sectionLength.toNat+3
  decoded : ∀ arr, ∀ i ∈ reads buf (parsePmtEntries pmtTable.pmtHeader.sectionLength
      pmtTable.pmtHeader.programInfoLength arr),
    i+4 < pmtTable.pmtHeader.sectionLength.toNat+3

/-- Bytes of the first `n` elementary streams behind the program-info block, each as
long as its own `es_info_length` says. -/
def pmtSpan (buf : Buffer) (n : ℕ) : ℕ :=
  Walk.span (pmtElementaryInfoAt buf) (fun e => 5+e.esInfoLength.toNat)
    (12+(pmtHeaderAt buf).programInfoLength.toNat) n

theorem span_const {ε : Type} (entryAt : ℕ → ε) (k position n : ℕ) :
    Walk.span entryAt (fun _ => k) position n = k*n := by
  induction n generalizing position with
  | zero => rfl
  | succ n ih =>
    rw [Walk.span,ih,Nat.mul_succ]
    omega

theorem patParsedLength_eq (buf : Buffer) :
    patParsedLength buf = 9+Walk.visitedLength (patServiceInfoAt buf) (fun _ => 4)
      (patHeaderAt buf).sectionLength.toNat 20 9 8 := by
  rw [patParsedLength,Walk.visitedLength,List.map_const',List.sum_replicate,smul_eq_mul,
    Nat.mul_comm]
  rfl

theorem pmtParsedLength_eq (buf : Buffer) :
    pmtParsedLength buf = 12+(pmtHeaderAt buf).programInfoLength.toNat+4-3+
      Walk.visitedLength (pmtElementaryInfoAt buf) (fun e => 5+e.esInfoLength.toNat)
        (pmtHeaderAt buf).sectionLength.toNat 20 (12+(pmtHeaderAt buf).programInfoLength.toNat+4-3)
        (12+(pmtHeaderAt buf).programInfoLength.toNat) := rfl

theorem patWalk_position (buf : Buffer) (arr : Fin tablesMaxNumberOfPidsInPat → PatServiceInfo) :
    (patWalk buf arr).position+1 = patParsedLength buf := by
  rw [← patWalk_parsedLength buf arr,patWalk,Walk.pushAll_position,Walk.pushAll_parsedLength]
  simp only
  omega

theorem pmtWalk_position (buf : Buffer)
    (arr : Fin tablesMaxNumberOfElementaryPid → PmtElementaryInfo) :
    (pmtWalk buf arr).position+1 = pmtParsedLength buf := by
  rw [← pmtWalk_parsedLength buf arr,pmtWalk,Walk.pushAll_position,Walk.pushAll_parsedLength]
  simp only
  omega

theorem patPositions_before_end {buf : Buffer} {p : ℕ} (hp : p ∈ patPositions buf) :
    p+4+1 ≤ patParsedLength buf := by
  have hend := Walk.visited_before_end hp
  rw [patParsedLength_eq]
  omega

theorem pmtPositions_before_end {buf : Buffer} {p : ℕ} (hp : p ∈ pmtPositions buf) :
    p+5+1 ≤ pmtParsedLength buf := by
  have hend := Walk.visited_before_end hp
  rw [pmtParsedLength_eq]
  omega

theorem PmtTable.Shows.entriesLength {pmtTable : PmtTable} {buf : Buffer} (h : pmtTable.Shows buf) :
    pmtTable.entriesLength =
      ((pmtPositions buf).map fun p => 5+(pmtElementaryInfoAt buf p).esInfoLength.toNat).sum := by
  have hle := pmtPositions_length_le buf
  rw [PmtTable.entriesLength,h.count]
  congr 1
  refine List.ext_getElem (by simp [hle]) fun i hi hi' => ?_
  rw [List.length_map] at hi'
  rw [List.getElem_map,List.getElem_map,List.getElem_take,List.getElem_finRange,
    h.entries _ (by simpa using hi')]
  rfl

theorem PatTable.Shows.framed_iff {patTable : PatTable} {buf : Buffer} (h : patTable.Shows buf) :
    patTable.Framed buf ↔ patParsedLength buf = (patHeaderAt buf).sectionLength.toNat := by
  have hheader := h.header
  have hcount := h.count
  constructor
  · intro hframed
    have hlength := hframed.length
    rw [hheader,hcount] at hlength
    rw [patParsedLength]
    omega
  · intro hexact
    refine ⟨?_,?_,?_⟩
    · rw [hheader,hcount,← hexact,patParsedLength]
      omega
    · intro arr walk hrun
      rw [hheader,run_parsePatEntries] at hrun
      cases hrun
      have hposition := patWalk_position buf arr
      rw [hheader,patWalk_parsedLength]
      exact ⟨hexact,by simp only; omega⟩
    · intro arr i hi
      rw [hheader,reads_parsePatEntries] at hi
      obtain ⟨p,hp,hi⟩ := List.mem_flatMap.mp hi
      have hend := patPositions_before_end hp
      rw [hheader]
      simp only [List.mem_cons,List.not_mem_nil,or_false] at hi
      omega

theorem PmtTable.Shows.framed_iff {pmtTable : PmtTable} {buf : Buffer} (h : pmtTable.Shows buf) :
    pmtTable.Framed buf ↔ pmtParsedLength buf = (pmtHeaderAt buf).sectionLength.toNat := by
  have hheader := h.header
  have hentries := h.entriesLength
  constructor
  · intro hframed
    have hlength := hframed.length
    rw [hheader,hentries] at hlength
    rw [pmtParsedLength]
    omega
  · intro hexact
    refine ⟨?_,?_,?_⟩
    · rw [hheader,hentries,← hexact,pmtParsedLength]
      omega
    · intro arr walk hrun
      rw [hheader,run_parsePmtEntries] at hrun
      cases hrun
      have hposition := pmtWalk_position buf arr
      rw [hheader,pmtWalk_parsedLength]
      exact ⟨hexact,by simp only; omega⟩
    · intro arr i hi
      rw [hheader,reads_parsePmtEntries] at hi
      obtain ⟨p,hp,hi⟩ := List.mem_flatMap.mp hi
      have hend := pmtPositions_before_end hp
      rw [hheader]
      simp only [List.mem_cons,List.not_mem_nil,or_false] at hi
      omega

/-- What the fields of a PAT section must satisfy: another table, more entries than
there are slots, or a section length that is a whole number of entries. -/
def PatAddsUp (buf : Buffer) : Prop :=
  buf 0 ≠ 0x00 ∨ 9+4*20 < (patHeaderAt buf).sectionLength.toNat ∨
    ∃ n ≤ 20, 9+4*n = (patHeaderAt buf).sectionLength.toNat

def PmtAddsUp (buf : Buffer) : Prop :=
  buf 0 ≠ 0x02 ∨
    13+(pmtHeaderAt buf).programInfoLength.toNat+pmtSpan buf 20 <
      (pmtHeaderAt buf).sectionLength.toNat ∨
    ∃ n ≤ 20, 13+(pmtHeaderAt buf).programInfoLength.toNat+pmtSpan buf n =
      (pmtHeaderAt buf).sectionLength.toNat

theorem forall_accepted_iff {τ : Type} {r : ParseErrorCode × τ} {accepted : Prop}
    [Decidable accepted] (hcode : r.1 = if accepted then tablesParseOk else tablesParseError)
    (F : τ → Prop) :
    (∀ table, (Except.ok r : Except Fault (ParseErrorCode × τ)) = .ok (tablesParseOk,table) →
      F table) ↔ (accepted → F r.2) := by
  obtain ⟨code,table'⟩ := r
  simp only at hcode
  subst hcode
  constructor
  · intro h haccepted
    exact h table' (by rw [if_pos haccepted])
  · intro h table hrun
    split at hrun
    · rename_i haccepted
      cases hrun
      exact h haccepted
    · cases hrun

theorem accepted_pat_framed_iff (buf : Buffer) (prior : PatTable) :
    (∀ table, run buf (parsePatTable prior) = .ok (tablesParseOk,table) → table.Framed buf) ↔
      PatAddsUp buf := by
  by_cases hid : buf 0 = 0x00
  · have hexact := @Walk.exact_iff _ (fun _ => 4) (patHeaderAt buf).sectionLength.toNat
      (patServiceInfoAt buf) 20 9 8
    rw [← patParsedLength_eq] at hexact
    simp only [span_const] at hexact
    rw [PatAddsUp,or_iff_right (not_not_intro hid),← hexact,run_parsePatTable_eq,
      forall_accepted_iff (patResult_code hid prior) (·.Framed buf),
      (patResult_shows hid prior).framed_iff]
  · refine iff_of_true ?_ (.inl hid)
    intro table hrun
    rw [run_parsePatTable_eq,patResult,if_neg hid] at hrun
    cases hrun

theorem accepted_pmt_framed_iff (buf : Buffer) (prior : PmtTable) :
    (∀ table, run buf (parsePmtTable prior) = .ok (tablesParseOk,table) → table.Framed buf) ↔
      PmtAddsUp buf := by
  by_cases hid : buf 0 = 0x02
  · have hexact := @Walk.exact_iff _ (fun e => 5+e.esInfoLength.toNat)
      (pmtHeaderAt buf).sectionLength.toNat (pmtElementaryInfoAt buf) 20
      (12+(pmtHeaderAt buf).programInfoLength.toNat+4-3)
      (12+(pmtHeaderAt buf).programInfoLength.toNat)
    have hstart : 12+(pmtHeaderAt buf).programInfoLength.toNat+4-3 =
        13+(pmtHeaderAt buf).programInfoLength.toNat := by omega
    rw [← pmtParsedLength_eq,hstart] at hexact
    rw [PmtAddsUp,or_iff_right (not_not_intro hid),run_parsePmtTable_eq,
      forall_accepted_iff (pmtResult_code hid prior) (·.Framed buf),
      (pmtResult_shows hid prior).framed_iff]
    exact hexact
  · refine iff_of_true ?_ (.inl hid)
    intro table hrun
    rw [run_parsePmtTable_eq,pmtResult,if_neg hid] at hrun
    cases hrun

/-- An accepted section is framed exactly if its lengths add up. -/
theorem accepted_sections_framed_iff (buf : Buffer) (patPrior : PatTable) (pmtPrior : PmtTable) :
    ((∀ table, run buf (parsePatTable patPrior) = .ok (tablesParseOk,table) → table.Framed buf) ↔
      PatAddsUp buf) ∧
    ((∀ table, run buf (parsePmtTable pmtPrior) = .ok (tablesParseOk,table) → table.Framed buf) ↔
      PmtAddsUp buf) :=
  ⟨accepted_pat_framed_iff buf patPrior,accepted_pmt_framed_iff buf pmtPrior⟩

/-- A PAT of one byte too much: three bytes of its CRC are taken for an entry. -/
def oddPat : Buffer := fun i => [0x00,0xB0,10,0x01,0x01,0xCB,0,0,0xAA,1,2,3,4].getD i 0xFF

/-- A PMT whose one stream claims seven bytes of descriptors; the section ends after
four of them, which are its CRC. -/
def longInfoPmt : Buffer := fun i =>
  [0x02,0xB0,18,0,1,0xCB,0,0,0xE1,0x00,0xF0,0,0x02,0xE1,0x00,0xF0,7,1,2,3,4].getD i 0xFF

theorem unframed_sections_accepted :
    (∃ table, run oddPat (parsePatTable .zeroed) = .ok (tablesParseOk,table) ∧
      ¬ table.Framed oddPat) ∧
    ∃ table, run longInfoPmt (parsePmtTable .zeroed) = .ok (tablesParseOk,table) ∧
      ¬ table.Framed longInfoPmt := by
  constructor
  · have hcode : (patResult oddPat .zeroed).1 = tablesParseOk := by decide +kernel
    refine ⟨(patResult oddPat .zeroed).2,by rw [run_parsePatTable_eq,← hcode],?_⟩
    intro hframed
    exact absurd hframed.length (by decide +kernel)
  · have hcode : (pmtResult longInfoPmt .zeroed).1 = tablesParseOk := by decide +kernel
    refine ⟨(pmtResult longInfoPmt .zeroed).2,by rw [run_parsePmtTable_eq,← hcode],?_⟩
    intro hframed
    exact absurd hframed.length (by decide +kernel)

end TvApp

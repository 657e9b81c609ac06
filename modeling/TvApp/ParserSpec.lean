import TvApp.TablesParser

/-! What the PAT and PMT routines return, and where they read.
Each header and each entry is a function of fixed bytes; one lemma per routine
gives its value together with its footprint, and the loops inherit both from the
invariant that the buffer position is `parsedLength` less one. -/
namespace TvApp

open Routine ParseErrorCode

variable {buf : Buffer} {limit cap : ℕ}

theorem word16_safe {n : ℕ} (hn : n+1 < limit) :
    Safe buf limit cap (word16 n) fun w => w = word (buf n) (buf (n+1)) := by
  refine (Safe.byte (by omega)).bind fun hi hhi => (Safe.byte hn).bind fun lo hlo => ?_
  subst hhi hlo
  exact .pure rfl

def patHeaderAt (buf : Buffer) : PatHeader where
  tableId := buf 0
  sectionSyntaxIndicator := buf 1 >>> 7 &&& 0x01
  sectionLength := word (buf 1) (buf 2) &&& 0x0FFF
  transportStreamId := word (buf 3) (buf 4) &&& 0xFFFF
  versionNumber := buf 5 >>> 1 &&& 0x1F
  currentNextIndicator := buf 5 &&& 0x01
  sectionNumber := buf 6 &&& 0xFF
  lastSectionNumber := buf 7 &&& 0xFF

def patServiceInfoAt (buf : Buffer) (position : ℕ) : PatServiceInfo where
  programNumber := word (buf position) (buf (position+1)) &&& 0xFFFF
  pid := word (buf (position+2)) (buf (position+3)) &&& 0x1FFF

def pmtHeaderAt (buf : Buffer) : PmtTableHeader where
  tableId := buf 0
  sectionSyntaxIndicator := buf 1 >>> 7 &&& 0x01
  sectionLength := word (buf 1) (buf 2) &&& 0x0FFF
  programNumber := word (buf 3) (buf 4) &&& 0xFFFF
  versionNumber := buf 5 >>> 1 &&& 0x1F
  currentNextIndicator := buf 5 &&& 0x01
  sectionNumber := buf 6 &&& 0xFF
  lastSectionNumber := buf 7 &&& 0xFF
  pcrPid := word (buf 8) (buf 9) &&& 0xFFFF
  programInfoLength := word (buf 10) (buf 11) &&& 0x0FFF

def pmtElementaryInfoAt (buf : Buffer) (position : ℕ) : PmtElementaryInfo where
  streamType := buf position
  elementaryPid := word (buf (position+1)) (buf (position+2)) &&& 0x1FFF
  esInfoLength := word (buf (position+3)) (buf (position+4)) &&& 0x0FFF

/-- Outcome of `parsePatHeader`: an accepted header owes nothing to the old one. -/
def patHeaderResult (buf : Buffer) (patHeader : PatHeader) : ParseErrorCode × PatHeader :=
  if buf 0 ≠ 0x00 then (tablesParseError,{ patHeader with tableId := buf 0 })
  else (tablesParseOk,patHeaderAt buf)

def pmtHeaderResult (buf : Buffer) (pmtHeader : PmtTableHeader) : ParseErrorCode × PmtTableHeader :=
  if buf 0 ≠ 0x02 then (tablesParseError,{ pmtHeader with tableId := buf 0 })
  else (tablesParseOk,pmtHeaderAt buf)

theorem parsePatHeader_safe (patHeader : PatHeader) (hl : 8 ≤ limit) :
    Safe buf limit cap (parsePatHeader patHeader) fun r => r = patHeaderResult buf patHeader := by
  refine (Safe.byte (by omega)).bind fun tableId htable => ?_
  subst htable
  by_cases hid : buf 0 ≠ 0x00
  · rw [if_pos hid]
    exact .pure (by rw [patHeaderResult,if_pos hid])
  · rw [if_neg hid]
    refine (Safe.byte (by omega)).bind fun b₁ h₁ => (word16_safe (by omega)).bind fun w₁ hw₁ =>
      (word16_safe (by omega)).bind fun w₃ hw₃ => (Safe.byte (by omega)).bind fun b₅ h₅ =>
      (Safe.byte (by omega)).bind fun c₅ hc₅ => (Safe.byte (by omega)).bind fun b₆ h₆ =>
      (Safe.byte (by omega)).bind fun b₇ h₇ => ?_
    subst h₁ hw₁ hw₃ h₅ hc₅ h₆ h₇
    exact .pure (by rw [patHeaderResult,if_neg hid,patHeaderAt])

theorem parsePatServiceInfo_safe {position : ℕ} (hp : position+3 < limit) :
    Safe buf limit cap (parsePatServiceInfo position)
      fun e => e = patServiceInfoAt buf position := by
  refine (word16_safe (by omega)).bind fun w₀ h₀ => (word16_safe (by omega)).bind fun w₂ h₂ => ?_
  subst h₀ h₂
  exact .pure rfl

theorem parsePmtHeader_safe (pmtHeader : PmtTableHeader) (hl : 12 ≤ limit) :
    Safe buf limit cap (parsePmtHeader pmtHeader) fun r => r = pmtHeaderResult buf pmtHeader := by
  refine (Safe.byte (by omega)).bind fun tableId htable => ?_
  subst htable
  by_cases hid : buf 0 ≠ 0x02
  · rw [if_pos hid]
    exact .pure (by rw [pmtHeaderResult,if_pos hid])
  · rw [if_neg hid]
    refine (Safe.byte (by omega)).bind fun b₁ h₁ => (word16_safe (by omega)).bind fun w₁ hw₁ =>
      (word16_safe (by omega)).bind fun w₃ hw₃ => (Safe.byte (by omega)).bind fun b₅ h₅ =>
      (Safe.byte (by omega)).bind fun c₅ hc₅ => (Safe.byte (by omega)).bind fun b₆ h₆ =>
      (Safe.byte (by omega)).bind fun b₇ h₇ => (word16_safe (by omega)).bind fun w₈ hw₈ =>
      (word16_safe (by omega)).bind fun w₁₀ hw₁₀ => ?_
    subst h₁ hw₁ hw₃ h₅ hc₅ h₆ h₇ hw₈ hw₁₀
    exact .pure (by rw [pmtHeaderResult,if_neg hid,pmtHeaderAt])

theorem parsePmtElementaryInfo_safe {position : ℕ} (hp : position+4 < limit) :
    Safe buf limit cap (parsePmtElementaryInfo position)
      fun e => e = pmtElementaryInfoAt buf position := by
  refine (Safe.byte (by omega)).bind fun b₀ h₀ => (word16_safe (by omega)).bind fun w₁ h₁ =>
    (word16_safe (by omega)).bind fun w₃ h₃ => ?_
  subst h₀ h₁ h₃
  exact .pure rfl

theorem run_parsePatHeader (patHeader : PatHeader) :
    run buf (parsePatHeader patHeader) = .ok (patHeaderResult buf patHeader) :=
  (parsePatHeader_safe patHeader (le_refl 8) : Safe buf 8 0 _ _).run_eq

theorem run_parsePatServiceInfo (position : ℕ) :
    run buf (parsePatServiceInfo position) = .ok (patServiceInfoAt buf position) :=
  (parsePatServiceInfo_safe (by omega) : Safe buf (position+4) 0 _ _).run_eq

theorem run_parsePmtHeader (pmtHeader : PmtTableHeader) :
    run buf (parsePmtHeader pmtHeader) = .ok (pmtHeaderResult buf pmtHeader) :=
  (parsePmtHeader_safe pmtHeader (le_refl 12) : Safe buf 12 0 _ _).run_eq

theorem run_parsePmtElementaryInfo (position : ℕ) :
    run buf (parsePmtElementaryInfo position) = .ok (pmtElementaryInfoAt buf position) :=
  (parsePmtElementaryInfo_safe (by omega) : Safe buf (position+5) 0 _ _).run_eq

theorem run_parsePatTable (patTable : PatTable) (hid : buf 0 = 0x00)
    {walk : Bool × Walk tablesMaxNumberOfPidsInPat PatServiceInfo}
    (hw : run buf (parsePatEntries (patHeaderAt buf).sectionLength patTable.patServiceInfoArray) =
      .ok walk) :
    run buf (parsePatTable patTable) =
      .ok (if walk.1 then tablesParseOk else tablesParseError,
        ⟨patHeaderAt buf,walk.2.entries,UInt8.ofNat walk.2.count⟩) := by
  have hh : patHeaderResult buf patTable.patHeader = (tablesParseOk,patHeaderAt buf) := by
    simp [patHeaderResult,hid]
  rw [parsePatTable,run_bind,run_parsePatHeader,hh]
  change run buf (parsePatEntries _ _ >>= _) = _
  rw [run_bind,hw]
  rfl

theorem run_parsePmtTable (pmtTable : PmtTable) (hid : buf 0 = 0x02)
    {walk : Bool × Walk tablesMaxNumberOfElementaryPid PmtElementaryInfo}
    (hw : run buf (parsePmtEntries (pmtHeaderAt buf).sectionLength
      (pmtHeaderAt buf).programInfoLength pmtTable.pmtElementaryInfoArray) = .ok walk) :
    run buf (parsePmtTable pmtTable) =
      .ok (if walk.1 then tablesParseOk else tablesParseError,
        ⟨pmtHeaderAt buf,walk.2.entries,UInt8.ofNat walk.2.count⟩) := by
  have hh : pmtHeaderResult buf pmtTable.pmtHeader = (tablesParseOk,pmtHeaderAt buf) := by
    simp [pmtHeaderResult,hid]
  rw [parsePmtTable,run_bind,run_parsePmtHeader,hh]
  change run buf (parsePmtEntries _ _ _ >>= _) = _
  rw [run_bind,hw]
  rfl

/-- Loop invariant of both tables.  The position trails `parsedLength` by one, the
walk has stored no more entries than there are slots, and one entry adds at most
5 and a sixteen-bit length, so that the `uint32_t` never wraps. -/
structure Walk.InStep {ε : Type} (s : Walk cap ε) : Prop where
  position_succ : s.position+1 = s.parsedLength
  count_le : s.count ≤ cap
  parsedLength_le : s.parsedLength ≤ 13+65535+s.count*(5+65535)

theorem Walk.InStep.push {ε : Type} {s : Walk cap ε} (hs : s.InStep) (hc : s.count < cap)
    {n : ℕ} (hn : n ≤ 5+65535) (e : ε) : (s.push n e).InStep where
  position_succ := by
    have := hs.position_succ
    simp only [push_position,push_parsedLength]
    omega
  count_le := hc
  parsedLength_le := by
    have := hs.parsedLength_le
    simp only [push_parsedLength,push_count]
    omega

theorem Walk.InStep.parsedLength_lt {ε : Type} {s : Walk 20 ε} (hs : s.InStep) :
    s.parsedLength < 2^32 := by
  have hc := hs.count_le
  have hp := hs.parsedLength_le
  omega

theorem parsePatEntries_safe {sectionLength : UInt16} (hl : sectionLength.toNat+3 ≤ limit)
    (arr : Fin tablesMaxNumberOfPidsInPat → PatServiceInfo) :
    Safe buf limit 20 (parsePatEntries sectionLength arr) fun r => r.2.InStep := by
  refine Walk.loop_safe (fun s hs hlen hc => ?_) _ ⟨rfl,Nat.zero_le _,by simp⟩
  have hp := hs.position_succ
  exact (parsePatServiceInfo_safe (by omega)).mono fun e _ => hs.push hc (by omega) e

def PidsBelow (arr : Fin tablesMaxNumberOfElementaryPid → PmtElementaryInfo) : Prop :=
  ∀ i, (arr i).elementaryPid.toNat < 0x2000

theorem PidsBelow.push {s : Walk tablesMaxNumberOfElementaryPid PmtElementaryInfo}
    (hs : PidsBelow s.entries) (n : ℕ) {e : PmtElementaryInfo}
    (he : e.elementaryPid.toNat < 0x2000) : PidsBelow (s.push n e).entries := by
  intro i
  simp only [Walk.push]
  split
  · exact he
  · exact hs i

theorem pmtElementaryInfoAt_pid_lt (buf : Buffer) (position : ℕ) :
    (pmtElementaryInfoAt buf position).elementaryPid.toNat < 0x2000 := by
  rw [pmtElementaryInfoAt,and_1FFF_toNat]
  exact Nat.mod_lt _ (by omega)

theorem parsePmtEntries_safe {sectionLength programInfoLength : UInt16}
    (hl : sectionLength.toNat+3 ≤ limit)
    (arr : Fin tablesMaxNumberOfElementaryPid → PmtElementaryInfo) :
    Safe buf limit 20 (parsePmtEntries sectionLength programInfoLength arr)
      fun r => r.2.InStep ∧ (PidsBelow arr → PidsBelow r.2.entries) := by
  refine Walk.loop_safe (I := fun s => s.InStep ∧ (PidsBelow arr → PidsBelow s.entries))
    (fun s hs hlen hc => ?_) _ ⟨⟨?_,Nat.zero_le _,?_⟩,id⟩
  · have hp := hs.1.position_succ
    refine (parsePmtElementaryInfo_safe (by omega)).mono fun e he => ⟨hs.1.push hc ?_ e,?_⟩
    · have he' := e.esInfoLength.toNat_lt
      omega
    · intro ha
      exact (hs.2 ha).push _ (he ▸ pmtElementaryInfoAt_pid_lt buf s.position)
  · simp only
    omega
  · have hi := programInfoLength.toNat_lt
    simp only
    omega

/-- The twelve bits of `section_length`, at the same place in every table. -/
def sectionLengthAt (buf : Buffer) : ℕ := (word (buf 1) (buf 2) &&& 0x0FFF).toNat

theorem parsePatTable_safe (patTable : PatTable) :
    Safe buf (max 8 (sectionLengthAt buf+3)) 20 (parsePatTable patTable)
      fun r => r.1 = tablesParseOk → r.2.serviceInfoCount.toNat ≤ 20 := by
  refine (parsePatHeader_safe _ (le_max_left _ _)).bind fun header hh => ?_
  subst hh
  by_cases hid : buf 0 ≠ 0x00
  · rw [patHeaderResult,if_pos hid]
    exact .pure (by simp)
  · rw [patHeaderResult,if_neg hid]
    refine (parsePatEntries_safe (le_max_right _ _) _).bind fun walk hw => .pure fun _ => ?_
    have hc : walk.2.count ≤ 20 := hw.count_le
    rw [UInt8.toNat_ofNat']
    omega

/-- What every PMT table has that only the parser has written: a count that fits
the array and pids of thirteen bits, in all slots. -/
structure PmtTable.Received (pmtTable : PmtTable) : Prop where
  count_le : pmtTable.elementaryInfoCount.toNat ≤ 20
  pids_below : PidsBelow pmtTable.pmtElementaryInfoArray

theorem parsePmtTable_safe (pmtTable : PmtTable) :
    Safe buf (max 12 (sectionLengthAt buf+3)) 20 (parsePmtTable pmtTable)
      fun r => pmtTable.Received → r.2.Received := by
  refine (parsePmtHeader_safe _ (le_max_left _ _)).bind fun header hh => ?_
  subst hh
  by_cases hid : buf 0 ≠ 0x02
  · rw [pmtHeaderResult,if_pos hid]
    exact .pure fun h => ⟨h.count_le,h.pids_below⟩
  · rw [pmtHeaderResult,if_neg hid]
    refine (parsePmtEntries_safe (le_max_right _ _) _).bind fun walk hw => .pure fun h => ?_
    have hc : walk.2.count ≤ 20 := hw.1.count_le
    refine ⟨?_,hw.2 h.pids_below⟩
    rw [UInt8.toNat_ofNat']
    omega

/-- Whatever the length fields claim and whatever the tables held, both parsers
return, read only inside the section or the fixed header, and store only in
existing slots. -/
theorem parse_stays_inside_section (buf : Buffer) (patTable : PatTable) (pmtTable : PmtTable) :
    ((∃ r, run buf (parsePatTable patTable) = .ok r) ∧
      (∀ i ∈ reads buf (parsePatTable patTable), i < max 8 (sectionLengthAt buf+3)) ∧
      ∀ k ∈ subscripts buf (parsePatTable patTable), 0 ≤ k ∧ k < 20) ∧
    ((∃ r, run buf (parsePmtTable pmtTable) = .ok r) ∧
      (∀ i ∈ reads buf (parsePmtTable pmtTable), i < max 12 (sectionLengthAt buf+3)) ∧
      ∀ k ∈ subscripts buf (parsePmtTable pmtTable), 0 ≤ k ∧ k < 20) := by
  have hpat : Safe buf _ 20 (parsePatTable patTable) _ := parsePatTable_safe patTable
  have hpmt : Safe buf _ 20 (parsePmtTable pmtTable) _ := parsePmtTable_safe pmtTable
  obtain ⟨r,hr,-⟩ := hpat.returns
  obtain ⟨q,hq,-⟩ := hpmt.returns
  exact ⟨⟨⟨r,hr⟩,hpat.reads_lt,hpat.subscripts_mem⟩,⟨⟨q,hq⟩,hpmt.reads_lt,hpmt.subscripts_mem⟩⟩

end TvApp

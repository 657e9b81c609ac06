import TvApp.ParserOutcome

/-! Two parses side by side.  The positions that the walk visits are computed from
the data, so two buffers are compared where the first one is read: as long as the
entries agree there, both walks stay in lockstep.  Two comparisons follow, byte by
byte and up to the reserved bits of ISO 13818-1. -/
namespace TvApp

open Routine ParseErrorCode

variable {buf buf' : Buffer}

/-- The two buffers decode to the same entries along the walk over the first. -/
structure SamePat (buf buf' : Buffer) : Prop where
  header : patHeaderAt buf = patHeaderAt buf'
  entries : ∀ p ∈ patPositions buf, patServiceInfoAt buf p = patServiceInfoAt buf' p

/-- As for the PAT; `pcrPid` does not steer the walk and is left aside. -/
structure SamePmt (buf buf' : Buffer) : Prop where
  header : { pmtHeaderAt buf with pcrPid := 0 } = { pmtHeaderAt buf' with pcrPid := 0 }
  entries : ∀ p ∈ pmtPositions buf, pmtElementaryInfoAt buf p = pmtElementaryInfoAt buf' p

namespace SamePat

theorem tableId (h : SamePat buf buf') : buf 0 = buf' 0 := congrArg PatHeader.tableId h.header

theorem positions (h : SamePat buf buf') : patPositions buf' = patPositions buf := by
  rw [patPositions,← h.header]
  exact Walk.visited_congr h.entries

theorem parsedLength (h : SamePat buf buf') : patParsedLength buf' = patParsedLength buf := by
  rw [patParsedLength,h.positions,patParsedLength]

theorem walk (h : SamePat buf buf') (arr : Fin tablesMaxNumberOfPidsInPat → PatServiceInfo) :
    patWalk buf' arr = patWalk buf arr := by
  rw [patWalk,h.positions,← List.map_congr_left h.entries,patWalk]

theorem result (h : SamePat buf buf') (patTable : PatTable) :
    patResult buf' patTable = patResult buf patTable := by
  rw [patResult,patResult,h.walk,h.header,h.tableId]

theorem code (h : SamePat buf buf') (t t' : PatTable) :
    (patResult buf' t').1 = (patResult buf t).1 := by
  by_cases hid : buf 0 = 0x00
  · rw [patResult_code hid,patResult_code (h.tableId ▸ hid),h.parsedLength,h.header]
  · rw [patResult,patResult,if_neg hid,if_neg (h.tableId ▸ hid)]

end SamePat

namespace SamePmt

theorem tableId (h : SamePmt buf buf') : buf 0 = buf' 0 := congrArg PmtTableHeader.tableId h.header

theorem sectionLength (h : SamePmt buf buf') :
    (pmtHeaderAt buf).sectionLength = (pmtHeaderAt buf').sectionLength := by
  have hh := congrArg PmtTableHeader.sectionLength h.header
  exact hh

theorem programInfoLength (h : SamePmt buf buf') :
    (pmtHeaderAt buf).programInfoLength = (pmtHeaderAt buf').programInfoLength := by
  have hh := congrArg PmtTableHeader.programInfoLength h.header
  exact hh

theorem positions (h : SamePmt buf buf') : pmtPositions buf' = pmtPositions buf := by
  rw [pmtPositions,← h.sectionLength,← h.programInfoLength]
  exact Walk.visited_congr h.entries

theorem parsedLength (h : SamePmt buf buf') : pmtParsedLength buf' = pmtParsedLength buf := by
  have hsizes : (pmtPositions buf).map (fun p => 5+(pmtElementaryInfoAt buf p).esInfoLength.toNat) =
      (pmtPositions buf).map fun p => 5+(pmtElementaryInfoAt buf' p).esInfoLength.toNat :=
    List.map_congr_left fun p hp => by rw [h.entries p hp]
  rw [pmtParsedLength,h.positions,← hsizes,← h.programInfoLength,pmtParsedLength]

theorem walk (h : SamePmt buf buf')
    (arr : Fin tablesMaxNumberOfElementaryPid → PmtElementaryInfo) :
    pmtWalk buf' arr = pmtWalk buf arr := by
  rw [pmtWalk,h.positions,← List.map_congr_left h.entries,← h.programInfoLength,pmtWalk]

theorem code (h : SamePmt buf buf') (t t' : PmtTable) :
    (pmtResult buf' t').1 = (pmtResult buf t).1 := by
  by_cases hid : buf 0 = 0x02
  · rw [pmtResult_code hid,pmtResult_code (h.tableId ▸ hid),h.parsedLength,h.sectionLength]
  · rw [pmtResult,pmtResult,if_neg hid,if_neg (h.tableId ▸ hid)]

theorem result_iff (h : SamePmt buf buf') (pmtTable : PmtTable) :
    pmtResult buf pmtTable = pmtResult buf' pmtTable ↔
      (buf 0 = 0x02 → (pmtHeaderAt buf).pcrPid = (pmtHeaderAt buf').pcrPid) := by
  by_cases hid : buf 0 = 0x02
  · have hid' : buf' 0 = 0x02 := h.tableId ▸ hid
    constructor
    · intro heq _
      rw [pmtResult,pmtResult,if_pos hid,if_pos hid'] at heq
      exact congrArg (fun r => r.2.pmtHeader.pcrPid) heq
    · intro hpcr
      have hheader : pmtHeaderAt buf = pmtHeaderAt buf' := by
        have hh := h.header
        rw [PmtTableHeader.mk.injEq] at hh ⊢
        simpa [hpcr hid] using hh
      rw [pmtResult,pmtResult,h.walk,hheader,h.tableId]
  · rw [pmtResult,pmtResult,if_neg hid,if_neg (h.tableId ▸ hid),h.tableId]
    simp only [true_iff]
    intro hbad
    exact absurd (h.tableId.trans hbad) hid

end SamePmt

theorem patHeaderAt_congr (h : ∀ i < 8, buf i = buf' i) : patHeaderAt buf = patHeaderAt buf' := by
  simp only [patHeaderAt,h 0 (by omega),h 1 (by omega),h 2 (by omega),h 3 (by omega),
    h 4 (by omega),h 5 (by omega),h 6 (by omega),h 7 (by omega)]

theorem patServiceInfoAt_congr {p : ℕ} (h : ∀ i < 4, buf (p+i) = buf' (p+i)) :
    patServiceInfoAt buf p = patServiceInfoAt buf' p := by
  simp only [patServiceInfoAt,h 1 (by omega),h 2 (by omega),h 3 (by omega),
    show buf p = buf' p from h 0 (by omega)]

theorem pmtHeaderAt_congr (h : ∀ i < 12, buf i = buf' i) : pmtHeaderAt buf = pmtHeaderAt buf' := by
  simp only [pmtHeaderAt,h 0 (by omega),h 1 (by omega),h 2 (by omega),h 3 (by omega),
    h 4 (by omega),h 5 (by omega),h 6 (by omega),h 7 (by omega),h 8 (by omega),h 9 (by omega),
    h 10 (by omega),h 11 (by omega)]

theorem pmtElementaryInfoAt_congr {p : ℕ} (h : ∀ i < 5, buf (p+i) = buf' (p+i)) :
    pmtElementaryInfoAt buf p = pmtElementaryInfoAt buf' p := by
  simp only [pmtElementaryInfoAt,h 1 (by omega),h 2 (by omega),h 3 (by omega),h 4 (by omega),
    show buf p = buf' p from h 0 (by omega)]

structure PatTable.Matches (t t' : PatTable) : Prop where
  header : t.patHeader = t'.patHeader
  count : t.serviceInfoCount = t'.serviceInfoCount
  entries : ∀ i : Fin 20, i.val < t.serviceInfoCount.toNat →
    t.patServiceInfoArray i = t'.patServiceInfoArray i

structure PmtTable.Matches (t t' : PmtTable) : Prop where
  header : t.pmtHeader = t'.pmtHeader
  count : t.elementaryInfoCount = t'.elementaryInfoCount
  entries : ∀ i : Fin 20, i.val < t.elementaryInfoCount.toNat →
    t.pmtElementaryInfoArray i = t'.pmtElementaryInfoArray i

theorem PatTable.Shows.matches_of_same {t t' : PatTable} (ht : t.Shows buf) (ht' : t'.Shows buf')
    (h : SamePat buf buf') : t.Matches t' where
  header := by rw [ht.header,ht'.header,h.header]
  count := by
    apply UInt8.toNat_inj.mp
    rw [ht.count,ht'.count,h.positions]
  entries := by
    intro i hi
    rw [ht.count] at hi
    have hmem : (patPositions buf)[i.val] ∈ patPositions buf := List.getElem_mem hi
    rw [ht.entries i hi,ht'.entries i (by rw [h.positions]; exact hi),h.entries _ hmem]
    simp only [h.positions]

theorem PmtTable.Shows.matches_of_same {t t' : PmtTable} (ht : t.Shows buf) (ht' : t'.Shows buf')
    (h : SamePmt buf buf') (hheader : pmtHeaderAt buf = pmtHeaderAt buf') : t.Matches t' where
  header := by rw [ht.header,ht'.header,hheader]
  count := by
    apply UInt8.toNat_inj.mp
    rw [ht.count,ht'.count,h.positions]
  entries := by
    intro i hi
    rw [ht.count] at hi
    have hmem : (pmtPositions buf)[i.val] ∈ pmtPositions buf := List.getElem_mem hi
    rw [ht.entries i hi,ht'.entries i (by rw [h.positions]; exact hi),h.entries _ hmem]
    simp only [h.positions]

theorem patResult_shows_of_ok {patTable : PatTable}
    (h : (patResult buf patTable).1 = tablesParseOk) : (patResult buf patTable).2.Shows buf := by
  by_cases hid : buf 0 = 0x00
  · exact patResult_shows hid patTable
  · rw [patResult,if_neg hid] at h
    cases h

theorem pmtResult_shows_of_ok {pmtTable : PmtTable}
    (h : (pmtResult buf pmtTable).1 = tablesParseOk) : (pmtResult buf pmtTable).2.Shows buf := by
  by_cases hid : buf 0 = 0x02
  · exact pmtResult_shows hid pmtTable
  · rw [pmtResult,if_neg hid] at h
    cases h

/-- Descriptors, bytes behind the walk and what the table held before have no
influence: the code and, when it is `tablesParseOk`, the header, the count and the
entries below it depend on the fixed header and the visited entries only. -/
theorem parse_depends_on_visited_bytes (buf buf' : Buffer) :
    ((∀ i < 8, buf i = buf' i) → (∀ p ∈ patPositions buf, ∀ i < 4, buf (p+i) = buf' (p+i)) →
      ∀ prior prior' : PatTable, ∃ code table table',
        run buf (parsePatTable prior) = .ok (code,table) ∧
        run buf' (parsePatTable prior') = .ok (code,table') ∧
        (code = tablesParseOk → table.Matches table')) ∧
    ((∀ i < 12, buf i = buf' i) → (∀ p ∈ pmtPositions buf, ∀ i < 5, buf (p+i) = buf' (p+i)) →
      ∀ prior prior' : PmtTable, ∃ code table table',
        run buf (parsePmtTable prior) = .ok (code,table) ∧
        run buf' (parsePmtTable prior') = .ok (code,table') ∧
        (code = tablesParseOk → table.Matches table')) := by
  constructor
  · intro hheader hentries prior prior'
    have hsame : SamePat buf buf' :=
      ⟨patHeaderAt_congr hheader,fun p hp => patServiceInfoAt_congr (hentries p hp)⟩
    have hcode := hsame.code prior prior'
    refine ⟨(patResult buf prior).1,(patResult buf prior).2,(patResult buf' prior').2,
      run_parsePatTable_eq buf prior,?_,?_⟩
    · rw [run_parsePatTable_eq,← hcode]
    · intro hok
      exact (patResult_shows_of_ok hok).matches_of_same
        (patResult_shows_of_ok (hcode.trans hok)) hsame
  · intro hheader hentries prior prior'
    have hsame : SamePmt buf buf' :=
      ⟨by rw [pmtHeaderAt_congr hheader],fun p hp => pmtElementaryInfoAt_congr (hentries p hp)⟩
    have hcode := hsame.code prior prior'
    refine ⟨(pmtResult buf prior).1,(pmtResult buf prior).2,(pmtResult buf' prior').2,
      run_parsePmtTable_eq buf prior,?_,?_⟩
    · rw [run_parsePmtTable_eq,← hcode]
    · intro hok
      exact (pmtResult_shows_of_ok hok).matches_of_same
        (pmtResult_shows_of_ok (hcode.trans hok)) hsame (pmtHeaderAt_congr hheader)

theorem sample_tail_and_descriptors_ignored :
    (∃ code table table',
      run (fun i => PatSection.sample.encode.getD i 0) (parsePatTable .zeroed) =
        .ok (code,table) ∧
      run (fun i => if 16 ≤ i then 0x55 else PatSection.sample.encode.getD i 0)
        (parsePatTable { PatTable.zeroed with patServiceInfoArray := fun _ => ⟨9,9⟩ }) =
          .ok (code,table') ∧
      (code = tablesParseOk → table.Matches table')) ∧
    ∃ code table table',
      run (fun i => PmtSection.sample.encode.getD i 0) (parsePmtTable .zeroed) =
        .ok (code,table) ∧
      run (fun i => if i = 12 ∨ i = 20 ∨ 27 ≤ i then 0x55 else PmtSection.sample.encode.getD i 0)
        (parsePmtTable { PmtTable.zeroed with elementaryInfoCount := 7 }) = .ok (code,table') ∧
      (code = tablesParseOk → table.Matches table') :=
  ⟨(parse_depends_on_visited_bytes _ _).1 (by decide +kernel) (by decide +kernel) _ _,
    (parse_depends_on_visited_bytes _ _).2 (by decide +kernel) (by decide +kernel) _ _⟩

/-- From `pos` on the buffers agree in every bit outside the masks. -/
def AgreeOutside (reserved : List UInt8) (buf buf' : Buffer) (pos : ℕ) : Prop :=
  ∀ i < reserved.length, buf (pos+i) ||| reserved.getD i 0 = buf' (pos+i) ||| reserved.getD i 0

instance (reserved : List UInt8) (buf buf' : Buffer) (pos : ℕ) :
    Decidable (AgreeOutside reserved buf buf' pos) :=
  inferInstanceAs (Decidable (∀ i < reserved.length, _))

namespace AgreeOutside

variable {reserved : List UInt8} {pos : ℕ}

theorem byte (h : AgreeOutside reserved buf buf' pos) (i : ℕ) (hi : i < reserved.length)
    (hm : reserved.getD i 0 = 0) : buf (pos+i) = buf' (pos+i) := by
  have hor := h i hi
  rwa [hm,UInt8.or_zero,UInt8.or_zero] at hor

theorem low (h : AgreeOutside reserved buf buf' pos) (i k : ℕ) (hi : i < reserved.length)
    (hm : (reserved.getD i 0).toNat % 2^k = 0) :
    (buf (pos+i)).toNat % 2^k = (buf' (pos+i)).toNat % 2^k :=
  mod_eq_of_or_eq k hm (h i hi)

theorem high (h : AgreeOutside reserved buf buf' pos) (i k : ℕ) (hi : i < reserved.length)
    (hm : (reserved.getD i 0).toNat / 2^k = 0) :
    (buf (pos+i)).toNat / 2^k = (buf' (pos+i)).toNat / 2^k :=
  div_eq_of_or_eq k hm (h i hi)

end AgreeOutside

/-- Three bits behind `section_syntax_indicator`, two above the version. -/
def patHeaderReserved : List UInt8 := [0,0x70,0,0,0,0xC0,0,0]

/-- Three bits above the pid. -/
def patEntryReserved : List UInt8 := [0,0,0xE0,0]

/-- Three bits above `PCR_PID` and four above `program_info_length` as well. -/
def pmtHeaderReserved : List UInt8 := [0,0x70,0,0,0,0xC0,0,0,0xE0,0,0xF0,0]

/-- Three bits above the pid, four above `es_info_length`. -/
def pmtEntryReserved : List UInt8 := [0,0xE0,0,0xF0,0]

structure PatReservedOnly (buf buf' : Buffer) : Prop where
  header : AgreeOutside patHeaderReserved buf buf' 0
  entries : ∀ p ∈ patPositions buf, AgreeOutside patEntryReserved buf buf' p

structure PmtReservedOnly (buf buf' : Buffer) : Prop where
  header : AgreeOutside pmtHeaderReserved buf buf' 0
  entries : ∀ p ∈ pmtPositions buf, AgreeOutside pmtEntryReserved buf buf' p

theorem patServiceInfoAt_reserved {p : ℕ} (h : AgreeOutside patEntryReserved buf buf' p) :
    patServiceInfoAt buf p = patServiceInfoAt buf' p := by
  have h₀ : buf p = buf' p := h.byte 0 (by decide) rfl
  have h₁ := h.byte 1 (by decide) rfl
  have h₂ := h.low 2 5 (by decide) rfl
  have h₃ := h.byte 3 (by decide) rfl
  simp only [patServiceInfoAt,h₀,h₁,h₃,word_and_1FFF_congr h₂]

theorem pmtElementaryInfoAt_reserved {p : ℕ} (h : AgreeOutside pmtEntryReserved buf buf' p) :
    pmtElementaryInfoAt buf p = pmtElementaryInfoAt buf' p := by
  have h₀ : buf p = buf' p := h.byte 0 (by decide) rfl
  have h₁ := h.low 1 5 (by decide) rfl
  have h₂ := h.byte 2 (by decide) rfl
  have h₃ := h.low 3 4 (by decide) rfl
  have h₄ := h.byte 4 (by decide) rfl
  simp only [pmtElementaryInfoAt,h₀,h₂,h₄,word_and_1FFF_congr h₁,word_and_0FFF_congr h₃]

theorem patHeaderAt_reserved (h : AgreeOutside patHeaderReserved buf buf' 0) :
    patHeaderAt buf = patHeaderAt buf' := by
  have h₀ : buf 0 = buf' 0 := h.byte 0 (by decide) rfl
  have h₁ : (buf 1).toNat % 2^4 = (buf' 1).toNat % 2^4 := h.low 1 4 (by decide) rfl
  have h₁' : (buf 1).toNat / 2^7 = (buf' 1).toNat / 2^7 := h.high 1 7 (by decide) rfl
  have h₂ : buf 2 = buf' 2 := h.byte 2 (by decide) rfl
  have h₃ : buf 3 = buf' 3 := h.byte 3 (by decide) rfl
  have h₄ : buf 4 = buf' 4 := h.byte 4 (by decide) rfl
  have h₅ : (buf 5).toNat % 2^6 = (buf' 5).toNat % 2^6 := h.low 5 6 (by decide) rfl
  have h₆ : buf 6 = buf' 6 := h.byte 6 (by decide) rfl
  have h₇ : buf 7 = buf' 7 := h.byte 7 (by decide) rfl
  simp only [patHeaderAt,h₀,h₂,h₃,h₄,h₆,h₇,word_and_0FFF_congr h₁,shiftRight7_congr h₁',
    shiftRight1_congr h₅,and_01_congr h₅]

theorem pmtHeaderAt_reserved (h : AgreeOutside pmtHeaderReserved buf buf' 0) :
    { pmtHeaderAt buf with pcrPid := 0 } = { pmtHeaderAt buf' with pcrPid := 0 } := by
  have h₀ : buf 0 = buf' 0 := h.byte 0 (by decide) rfl
  have h₁ : (buf 1).toNat % 2^4 = (buf' 1).toNat % 2^4 := h.low 1 4 (by decide) rfl
  have h₁' : (buf 1).toNat / 2^7 = (buf' 1).toNat / 2^7 := h.high 1 7 (by decide) rfl
  have h₂ : buf 2 = buf' 2 := h.byte 2 (by decide) rfl
  have h₃ : buf 3 = buf' 3 := h.byte 3 (by decide) rfl
  have h₄ : buf 4 = buf' 4 := h.byte 4 (by decide) rfl
  have h₅ : (buf 5).toNat % 2^6 = (buf' 5).toNat % 2^6 := h.low 5 6 (by decide) rfl
  have h₆ : buf 6 = buf' 6 := h.byte 6 (by decide) rfl
  have h₇ : buf 7 = buf' 7 := h.byte 7 (by decide) rfl
  have h₁₀ : (buf 10).toNat % 2^4 = (buf' 10).toNat % 2^4 := h.low 10 4 (by decide) rfl
  have h₁₁ : buf 11 = buf' 11 := h.byte 11 (by decide) rfl
  simp only [pmtHeaderAt,h₀,h₂,h₃,h₄,h₆,h₇,h₁₁,word_and_0FFF_congr h₁,word_and_0FFF_congr h₁₀,
    shiftRight7_congr h₁',shiftRight1_congr h₅,and_01_congr h₅]

theorem PatReservedOnly.same (h : PatReservedOnly buf buf') : SamePat buf buf' :=
  ⟨patHeaderAt_reserved h.header,fun p hp => patServiceInfoAt_reserved (h.entries p hp)⟩

theorem PmtReservedOnly.same (h : PmtReservedOnly buf buf') : SamePmt buf buf' :=
  ⟨pmtHeaderAt_reserved h.header,fun p hp => pmtElementaryInfoAt_reserved (h.entries p hp)⟩

/-- Equal outcomes, and thirteen bits for every pid that the parse stores. -/
structure PatIgnoresReserved (buf buf' : Buffer) (prior : PatTable) : Prop where
  result : run buf (parsePatTable prior) = run buf' (parsePatTable prior)
  pids : ∀ b ∈ [buf,buf'], b 0 = 0x00 → ∀ code table,
    run b (parsePatTable prior) = .ok (code,table) →
    ∀ i : Fin 20, i.val < table.serviceInfoCount.toNat →
      (table.patServiceInfoArray i).pid.toNat < 0x2000

structure PmtIgnoresReserved (buf buf' : Buffer) (prior : PmtTable) : Prop where
  result : run buf (parsePmtTable prior) = run buf' (parsePmtTable prior)
  pids : ∀ b ∈ [buf,buf'], b 0 = 0x02 → ∀ code table,
    run b (parsePmtTable prior) = .ok (code,table) →
    table.pmtHeader.pcrPid.toNat < 0x2000 ∧
    ∀ i : Fin 20, i.val < table.elementaryInfoCount.toNat →
      (table.pmtElementaryInfoArray i).elementaryPid.toNat < 0x2000

theorem patServiceInfoAt_pid_lt (buf : Buffer) (position : ℕ) :
    (patServiceInfoAt buf position).pid.toNat < 0x2000 := by
  rw [patServiceInfoAt,and_1FFF_toNat]
  exact Nat.mod_lt _ (by omega)

theorem PatTable.Shows.pid_lt {t : PatTable} (h : t.Shows buf) (i : Fin 20)
    (hi : i.val < t.serviceInfoCount.toNat) : (t.patServiceInfoArray i).pid.toNat < 0x2000 := by
  rw [h.entries i (h.count ▸ hi)]
  exact patServiceInfoAt_pid_lt buf _

theorem PmtTable.Shows.pid_lt {t : PmtTable} (h : t.Shows buf) (i : Fin 20)
    (hi : i.val < t.elementaryInfoCount.toNat) :
    (t.pmtElementaryInfoArray i).elementaryPid.toNat < 0x2000 := by
  rw [h.entries i (h.count ▸ hi)]
  exact pmtElementaryInfoAt_pid_lt buf _

theorem pcrPid_lt_iff (buf : Buffer) :
    (pmtHeaderAt buf).pcrPid.toNat < 0x2000 ↔ (buf 8).toNat < 0x20 := by
  have hlo := (buf 9).toNat_lt
  have hword : (pmtHeaderAt buf).pcrPid = word (buf 8) (buf 9) := and_FFFF _
  rw [hword,word_toNat]
  omega

theorem patIgnoresReserved (h : PatReservedOnly buf buf') (prior : PatTable) :
    PatIgnoresReserved buf buf' prior where
  result := by rw [run_parsePatTable_eq,run_parsePatTable_eq,h.same.result]
  pids := by
    intro b _ hid code table hrun
    rw [run_parsePatTable_eq,Except.ok.injEq] at hrun
    have hshows := patResult_shows hid prior
    rw [hrun] at hshows
    exact hshows.pid_lt

theorem pmtIgnoresReserved_iff (h : PmtReservedOnly buf buf') (prior : PmtTable) :
    PmtIgnoresReserved buf buf' prior ↔
      (buf 0 = 0x02 → (buf 8).toNat < 0x20 ∧ (buf' 8).toNat < 0x20) := by
  constructor
  · intro hpids hid
    have hid' : buf' 0 = 0x02 := h.same.tableId ▸ hid
    have hpid := hpids.pids buf (by simp) hid (pmtResult buf prior).1 (pmtResult buf prior).2
      (run_parsePmtTable_eq buf prior)
    have hpid' := hpids.pids buf' (by simp) hid' (pmtResult buf' prior).1
      (pmtResult buf' prior).2 (run_parsePmtTable_eq buf' prior)
    rw [(pmtResult_shows hid prior).header] at hpid
    rw [(pmtResult_shows hid' prior).header] at hpid'
    exact ⟨(pcrPid_lt_iff buf).mp hpid.1,(pcrPid_lt_iff buf').mp hpid'.1⟩
  · intro hclear
    refine ⟨?_,?_⟩
    · rw [run_parsePmtTable_eq,run_parsePmtTable_eq,Except.ok.injEq,h.same.result_iff]
      intro hid
      -- under clear top bits the bytes that may differ are equal
      have hlow : (buf 8).toNat % 2^5 = (buf' 8).toNat % 2^5 := h.header.low 8 5 (by decide) rfl
      have h₈ : buf 8 = buf' 8 := by
        apply UInt8.toNat_inj.mp
        obtain ⟨hb,hb'⟩ := hclear hid
        omega
      have h₉ : buf 9 = buf' 9 := h.header.byte 9 (by decide) rfl
      rw [pmtHeaderAt,pmtHeaderAt,h₈,h₉]
    · intro b hb hid code table hrun
      have hbit : (b 8).toNat < 0x20 := by
        rcases List.mem_pair.mp hb with rfl | rfl
        · exact (hclear hid).1
        · exact (hclear (h.same.tableId.trans hid)).2
      rw [run_parsePmtTable_eq,Except.ok.injEq] at hrun
      have hshows := pmtResult_shows hid prior
      rw [hrun] at hshows
      refine ⟨?_,hshows.pid_lt⟩
      rw [hshows.header]
      exact (pcrPid_lt_iff b).mpr hbit

/-- Reserved bits never reach a PAT.  They reach a PMT through `PCR_PID` and
through nothing else: the parse is free of them exactly if the three bits above
`PCR_PID` are clear in both sections. -/
theorem reserved_bits_reach_pcrPid_only (buf buf' : Buffer) :
    (PatReservedOnly buf buf' → ∀ prior, PatIgnoresReserved buf buf' prior) ∧
    (PmtReservedOnly buf buf' → ∀ prior, PmtIgnoresReserved buf buf' prior ↔
      (buf 0 = 0x02 → (buf 8).toNat < 0x20 ∧ (buf' 8).toNat < 0x20)) :=
  ⟨fun h prior => patIgnoresReserved h prior,fun h prior => pmtIgnoresReserved_iff h prior⟩

/-- The sample PMT with its `PCR_PID` bits as ISO 13818-1 sets them, and cleared. -/
def pcrBitsSet : Buffer := fun i => PmtSection.sample.encode.getD i 0

def pcrBitsClear : Buffer := fun i => if i = 8 then 0x01 else pcrBitsSet i

theorem pcrBits_reservedOnly : PmtReservedOnly pcrBitsSet pcrBitsClear :=
  ⟨by decide +kernel,by decide +kernel⟩

theorem pcrBits_reach_header :
    PmtReservedOnly pcrBitsSet pcrBitsClear ∧
      ¬ PmtIgnoresReserved pcrBitsSet pcrBitsClear .zeroed := by
  refine ⟨pcrBits_reservedOnly,?_⟩
  rw [pmtIgnoresReserved_iff pcrBits_reservedOnly]
  intro h
  exact absurd (h (by decide +kernel)).1 (by decide +kernel)

theorem version_bits_ignored :
    PatIgnoresReserved (fun i => PatSection.sample.encode.getD i 0)
      (fun i => if i = 5 then 0x0B else PatSection.sample.encode.getD i 0) .zeroed ∧
    PmtIgnoresReserved pcrBitsClear (fun i => if i = 5 then 0x13 else pcrBitsClear i) .zeroed := by
  constructor
  · exact (reserved_bits_reach_pcrPid_only _ _).1
      ⟨by decide +kernel,by decide +kernel⟩ .zeroed
  · exact ((reserved_bits_reach_pcrPid_only _ _).2
      ⟨by decide +kernel,by decide +kernel⟩ .zeroed).mpr (by decide +kernel)

end TvApp

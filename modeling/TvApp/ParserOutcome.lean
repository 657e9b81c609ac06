import TvApp.SectionEncoding
import TvApp.StreamController

/-! The whole outcome of a PAT or PMT parse, as a function of the buffer and of
the table that was there before: the code, the header, the entries at the
positions the walk visits.  The tables are parsed into in place, so a rejected
section leaves its mark as well; which mark is read off the outcome. -/
namespace TvApp

open Routine ParseErrorCode

/-- Positions of the service entries that the walk over a PAT visits. -/
def patPositions (buf : Buffer) : List ℕ :=
  Walk.visited (patServiceInfoAt buf) (fun _ => 4) (patHeaderAt buf).sectionLength.toNat 20 9 8

def pmtPositions (buf : Buffer) : List ℕ :=
  Walk.visited (pmtElementaryInfoAt buf) (fun e => 5+e.esInfoLength.toNat)
    (pmtHeaderAt buf).sectionLength.toNat 20 (12+(pmtHeaderAt buf).programInfoLength.toNat+4-3)
    (12+(pmtHeaderAt buf).programInfoLength.toNat)

def patWalk (buf : Buffer) (arr : Fin tablesMaxNumberOfPidsInPat → PatServiceInfo) :
    Walk tablesMaxNumberOfPidsInPat PatServiceInfo :=
  Walk.pushAll (fun _ => 4) ⟨9,8,arr,0⟩ ((patPositions buf).map (patServiceInfoAt buf))

def pmtWalk (buf : Buffer) (arr : Fin tablesMaxNumberOfElementaryPid → PmtElementaryInfo) :
    Walk tablesMaxNumberOfElementaryPid PmtElementaryInfo :=
  Walk.pushAll (fun e => 5+e.esInfoLength.toNat)
    ⟨12+(pmtHeaderAt buf).programInfoLength.toNat+4-3,
      12+(pmtHeaderAt buf).programInfoLength.toNat,arr,0⟩
    ((pmtPositions buf).map (pmtElementaryInfoAt buf))

theorem run_parsePatEntries (buf : Buffer) (arr : Fin tablesMaxNumberOfPidsInPat → PatServiceInfo) :
    run buf (parsePatEntries (patHeaderAt buf).sectionLength arr) =
      .ok (decide ((patHeaderAt buf).sectionLength.toNat ≤ (patWalk buf arr).parsedLength),
        patWalk buf arr) :=
  Walk.run_loop_visited run_parsePatServiceInfo _

theorem run_parsePmtEntries (buf : Buffer)
    (arr : Fin tablesMaxNumberOfElementaryPid → PmtElementaryInfo) :
    run buf (parsePmtEntries (pmtHeaderAt buf).sectionLength (pmtHeaderAt buf).programInfoLength
        arr) =
      .ok (decide ((pmtHeaderAt buf).sectionLength.toNat ≤ (pmtWalk buf arr).parsedLength),
        pmtWalk buf arr) :=
  Walk.run_loop_visited run_parsePmtElementaryInfo _

/-- The positions named above are those that the loop reads: four bytes each. -/
theorem reads_parsePatEntries (buf : Buffer)
    (arr : Fin tablesMaxNumberOfPidsInPat → PatServiceInfo) :
    reads buf (parsePatEntries (patHeaderAt buf).sectionLength arr) =
      (patPositions buf).flatMap fun p => [p,p+1,p+2,p+3] :=
  Walk.reads_loop_visited run_parsePatServiceInfo _

theorem reads_parsePmtEntries (buf : Buffer)
    (arr : Fin tablesMaxNumberOfElementaryPid → PmtElementaryInfo) :
    reads buf (parsePmtEntries (pmtHeaderAt buf).sectionLength (pmtHeaderAt buf).programInfoLength
        arr) =
      (pmtPositions buf).flatMap fun p => [p,p+1,p+2,p+3,p+4] :=
  Walk.reads_loop_visited run_parsePmtElementaryInfo _

def patResult (buf : Buffer) (patTable : PatTable) : ParseErrorCode × PatTable :=
  if buf 0 = 0x00 then
    let walk := patWalk buf patTable.patServiceInfoArray
    (if (patHeaderAt buf).sectionLength.toNat ≤ walk.parsedLength then tablesParseOk
      else tablesParseError,
      ⟨patHeaderAt buf,walk.entries,UInt8.ofNat walk.count⟩)
  else (tablesParseError,
    { patTable with patHeader := { patTable.patHeader with tableId := buf 0 } })

def pmtResult (buf : Buffer) (pmtTable : PmtTable) : ParseErrorCode × PmtTable :=
  if buf 0 = 0x02 then
    let walk := pmtWalk buf pmtTable.pmtElementaryInfoArray
    (if (pmtHeaderAt buf).sectionLength.toNat ≤ walk.parsedLength then tablesParseOk
      else tablesParseError,
      ⟨pmtHeaderAt buf,walk.entries,UInt8.ofNat walk.count⟩)
  else (tablesParseError,
    { pmtTable with pmtHeader := { pmtTable.pmtHeader with tableId := buf 0 } })

theorem run_parsePatTable_eq (buf : Buffer) (patTable : PatTable) :
    run buf (parsePatTable patTable) = .ok (patResult buf patTable) := by
  by_cases hid : buf 0 = 0x00
  · rw [run_parsePatTable patTable hid (run_parsePatEntries buf _),patResult,if_pos hid]
    simp only [decide_eq_true_eq]
  · rw [parsePatTable,run_bind,run_parsePatHeader,patHeaderResult,if_pos hid,patResult,if_neg hid]
    rfl

theorem run_parsePmtTable_eq (buf : Buffer) (pmtTable : PmtTable) :
    run buf (parsePmtTable pmtTable) = .ok (pmtResult buf pmtTable) := by
  by_cases hid : buf 0 = 0x02
  · rw [run_parsePmtTable pmtTable hid (run_parsePmtEntries buf _),pmtResult,if_pos hid]
    simp only [decide_eq_true_eq]
  · rw [parsePmtTable,run_bind,run_parsePmtHeader,pmtHeaderResult,if_pos hid,pmtResult,if_neg hid]
    rfl

theorem patPositions_length_le (buf : Buffer) : (patPositions buf).length ≤ 20 :=
  Walk.visited_length_le 20 9 8

theorem pmtPositions_length_le (buf : Buffer) : (pmtPositions buf).length ≤ 20 :=
  Walk.visited_length_le 20 _ _

/-- The table shows the section in `buf`: its header, and entry by entry what the
walk finds.  Slots from the count on are left open. -/
structure PatTable.Shows (patTable : PatTable) (buf : Buffer) : Prop where
  header : patTable.patHeader = patHeaderAt buf
  count : patTable.serviceInfoCount.toNat = (patPositions buf).length
  entries : ∀ (i : Fin 20) (h : i.val < (patPositions buf).length),
    patTable.patServiceInfoArray i = patServiceInfoAt buf ((patPositions buf)[i.val])

structure PmtTable.Shows (pmtTable : PmtTable) (buf : Buffer) : Prop where
  header : pmtTable.pmtHeader = pmtHeaderAt buf
  count : pmtTable.elementaryInfoCount.toNat = (pmtPositions buf).length
  entries : ∀ (i : Fin 20) (h : i.val < (pmtPositions buf).length),
    pmtTable.pmtElementaryInfoArray i = pmtElementaryInfoAt buf ((pmtPositions buf)[i.val])

theorem patResult_shows {buf : Buffer} (hid : buf 0 = 0x00) (patTable : PatTable) :
    (patResult buf patTable).2.Shows buf := by
  have hle := patPositions_length_le buf
  rw [patResult,if_pos hid]
  refine ⟨rfl,?_,?_⟩
  · simp only [patWalk,Walk.pushAll_count,List.length_map,UInt8.toNat_ofNat']
    omega
  · intro i h
    simp only [patWalk]
    rw [Walk.pushAll_entries _ _ _ i.val (by simpa using h) i (by simp),List.getElem_map]

theorem pmtResult_shows {buf : Buffer} (hid : buf 0 = 0x02) (pmtTable : PmtTable) :
    (pmtResult buf pmtTable).2.Shows buf := by
  have hle := pmtPositions_length_le buf
  rw [pmtResult,if_pos hid]
  refine ⟨rfl,?_,?_⟩
  · simp only [pmtWalk,Walk.pushAll_count,List.length_map,UInt8.toNat_ofNat']
    omega
  · intro i h
    simp only [pmtWalk]
    rw [Walk.pushAll_entries _ _ _ i.val (by simpa using h) i (by simp),List.getElem_map]

def patParsedLength (buf : Buffer) : ℕ := 9+4*(patPositions buf).length

def pmtParsedLength (buf : Buffer) : ℕ :=
  12+(pmtHeaderAt buf).programInfoLength.toNat+4-3+
    ((pmtPositions buf).map fun p => 5+(pmtElementaryInfoAt buf p).esInfoLength.toNat).sum

theorem patWalk_parsedLength (buf : Buffer)
    (arr : Fin tablesMaxNumberOfPidsInPat → PatServiceInfo) :
    (patWalk buf arr).parsedLength = patParsedLength buf := by
  have hsum : (((patPositions buf).map (patServiceInfoAt buf)).map fun _ => 4).sum =
      4*(patPositions buf).length := by
    rw [List.map_const',List.sum_replicate,List.length_map,smul_eq_mul,Nat.mul_comm]
  rw [patWalk,Walk.pushAll_parsedLength,hsum,patParsedLength]

theorem pmtWalk_parsedLength (buf : Buffer)
    (arr : Fin tablesMaxNumberOfElementaryPid → PmtElementaryInfo) :
    (pmtWalk buf arr).parsedLength = pmtParsedLength buf := by
  rw [pmtWalk,Walk.pushAll_parsedLength,pmtParsedLength,List.map_map]
  rfl

theorem patResult_code {buf : Buffer} (hid : buf 0 = 0x00) (patTable : PatTable) :
    (patResult buf patTable).1 =
      if (patHeaderAt buf).sectionLength.toNat ≤ patParsedLength buf then tablesParseOk
      else tablesParseError := by
  simp only [patResult,if_pos hid,patWalk_parsedLength]

theorem pmtResult_code {buf : Buffer} (hid : buf 0 = 0x02) (pmtTable : PmtTable) :
    (pmtResult buf pmtTable).1 =
      if (pmtHeaderAt buf).sectionLength.toNat ≤ pmtParsedLength buf then tablesParseOk
      else tablesParseError := by
  simp only [pmtResult,if_pos hid,pmtWalk_parsedLength]

theorem patPositions_full {buf : Buffer}
    (h : patParsedLength buf < (patHeaderAt buf).sectionLength.toNat) :
    (patPositions buf).length = 20 := by
  have hfull : 20 ≤ (patWalk buf fun _ => ⟨0,0⟩).count :=
    Walk.final_count_of_short _ ((patWalk_parsedLength buf _).trans_lt h)
  have hle := patPositions_length_le buf
  simp only [patWalk,Walk.pushAll_count,List.length_map] at hfull
  omega

theorem pmtPositions_full {buf : Buffer}
    (h : pmtParsedLength buf < (pmtHeaderAt buf).sectionLength.toNat) :
    (pmtPositions buf).length = 20 := by
  have hfull : 20 ≤ (pmtWalk buf fun _ => ⟨0,0,0⟩).count :=
    Walk.final_count_of_short _ ((pmtWalk_parsedLength buf _).trans_lt h)
  have hle := pmtPositions_length_le buf
  simp only [pmtWalk,Walk.pushAll_count,List.length_map] at hfull
  omega

theorem sectionReceivedCallback_tables {buf : Buffer} {tables : SectionTables}
    {r : Bool × SectionTables} (h : run buf (sectionReceivedCallback tables) = .ok r) :
    r.2.patTable =
        (if buf 0 = 0x00 then (patResult buf tables.patTable).2 else tables.patTable) ∧
      r.2.pmtTable =
        (if buf 0 = 0x02 then (pmtResult buf tables.pmtTable).2 else tables.pmtTable) := by
  rw [sectionReceivedCallback,run_bind,run_byte] at h
  change run buf (if buf 0 = 0x00 then _ else _) = _ at h
  by_cases hpat : buf 0 = 0x00
  · rw [if_pos hpat,run_bind,run_parsePatTable_eq] at h
    cases h
    simp [hpat]
  · rw [if_neg hpat] at h
    by_cases hpmt : buf 0 = 0x02
    · rw [if_pos hpmt,run_bind,run_parsePmtTable_eq] at h
      cases h
      simp [hpmt]
    · rw [if_neg hpmt] at h
      rw [if_neg hpat,if_neg hpmt]
      by_cases htdt : buf 0 = 0x70
      · rw [if_pos htdt] at h
        cases h
        exact ⟨rfl,rfl⟩
      · rw [if_neg htdt] at h
        by_cases htot : buf 0 = 0x73
        · rw [if_pos htot,run_bind] at h
          cases hparse : run buf (parseTotTable tables.totTable) with
          | error e =>
            rw [hparse] at h
            cases h
          | ok q =>
            rw [hparse] at h
            change run buf (printTotTable q.2 q.2.descriptorsCount.toNat 0 >>= _) = _ at h
            rw [run_bind] at h
            cases hprint : run buf (printTotTable q.2 q.2.descriptorsCount.toNat 0) with
            | error e =>
              rw [hprint] at h
              cases h
            | ok u =>
              rw [hprint] at h
              cases h
              exact ⟨rfl,rfl⟩
        · rw [if_neg htot] at h
          cases h
          exact ⟨rfl,rfl⟩

def lastSection (tableId : UInt8) (buffers : List Buffer) : Option Buffer :=
  (buffers.filter fun b => b 0 == tableId).getLast?

theorem lastSection_concat (tableId : UInt8) (buffers : List Buffer) (b : Buffer) :
    lastSection tableId (buffers++[b]) =
      if b 0 = tableId then some b else lastSection tableId buffers := by
  by_cases h : b 0 = tableId
  · simp [lastSection,h]
  · simp [lastSection,h]

theorem sectionsReceived_concat (tables : SectionTables) (buffers : List Buffer) (b : Buffer) :
    sectionsReceived tables (buffers++[b]) =
      sectionsReceived tables buffers >>= fun t =>
        run b (sectionReceivedCallback t) >>= fun r => .ok r.2 := by
  induction buffers generalizing tables with
  | nil => rfl
  | cons a buffers ih =>
    rw [List.cons_append,sectionsReceived,sectionsReceived]
    cases run a (sectionReceivedCallback tables) with
    | error e => rfl
    | ok r => exact ih r.2

theorem sectionsReceived_shows (buffers : List Buffer) {tables : SectionTables}
    (h : sectionsReceived .zeroed buffers = .ok tables) :
    (lastSection 0x00 buffers).elim (tables.patTable = .zeroed) tables.patTable.Shows ∧
      (lastSection 0x02 buffers).elim (tables.pmtTable = .zeroed) tables.pmtTable.Shows := by
  -- from the right: the last section decides, unless it is of another table
  induction buffers using List.reverseRecOn generalizing tables with
  | nil =>
    cases h
    exact ⟨rfl,rfl⟩
  | append_singleton buffers b ih =>
    rw [sectionsReceived_concat] at h
    cases hprev : sectionsReceived .zeroed buffers with
    | error e =>
      rw [hprev] at h
      cases h
    | ok prev =>
      rw [hprev] at h
      change run b (sectionReceivedCallback prev) >>= _ = _ at h
      cases hrun : run b (sectionReceivedCallback prev) with
      | error e =>
        rw [hrun] at h
        cases h
      | ok r =>
        rw [hrun] at h
        cases h
        obtain ⟨hpat,hpmt⟩ := sectionReceivedCallback_tables hrun
        obtain ⟨ihpat,ihpmt⟩ := ih hprev
        rw [lastSection_concat,lastSection_concat,hpat,hpmt]
        constructor
        · by_cases hid : b 0 = 0x00
          · rw [if_pos hid,if_pos hid]
            exact patResult_shows hid prev.patTable
          · rw [if_neg hid,if_neg hid]
            exact ihpat
        · by_cases hid : b 0 = 0x02
          · rw [if_pos hid,if_pos hid]
            exact pmtResult_shows hid prev.pmtTable
          · rw [if_neg hid,if_neg hid]
            exact ihpmt

theorem rejected_patTable {buf : Buffer} {patTable patTable' : PatTable}
    (h : run buf (parsePatTable patTable) = .ok (tablesParseError,patTable')) :
    (buf 0 ≠ 0x00 ∧
        patTable' = { patTable with patHeader := { patTable.patHeader with tableId := buf 0 } }) ∨
      (buf 0 = 0x00 ∧ (patPositions buf).length = 20 ∧
        patParsedLength buf < (patHeaderAt buf).sectionLength.toNat ∧ patTable'.Shows buf) := by
  rw [run_parsePatTable_eq,Except.ok.injEq] at h
  by_cases hid : buf 0 = 0x00
  · have hcode := patResult_code hid patTable
    have hshows := patResult_shows hid patTable
    rw [h] at hcode hshows
    have hshort : patParsedLength buf < (patHeaderAt buf).sectionLength.toNat := by
      by_contra hnot
      rw [if_pos (Nat.le_of_not_lt hnot)] at hcode
      cases hcode
    exact .inr ⟨hid,patPositions_full hshort,hshort,hshows⟩
  · rw [patResult,if_neg hid] at h
    cases h
    exact .inl ⟨hid,rfl⟩

theorem rejected_pmtTable {buf : Buffer} {pmtTable pmtTable' : PmtTable}
    (h : run buf (parsePmtTable pmtTable) = .ok (tablesParseError,pmtTable')) :
    (buf 0 ≠ 0x02 ∧
        pmtTable' = { pmtTable with pmtHeader := { pmtTable.pmtHeader with tableId := buf 0 } }) ∨
      (buf 0 = 0x02 ∧ (pmtPositions buf).length = 20 ∧
        pmtParsedLength buf < (pmtHeaderAt buf).sectionLength.toNat ∧ pmtTable'.Shows buf) := by
  rw [run_parsePmtTable_eq,Except.ok.injEq] at h
  by_cases hid : buf 0 = 0x02
  · have hcode := pmtResult_code hid pmtTable
    have hshows := pmtResult_shows hid pmtTable
    rw [h] at hcode hshows
    have hshort : pmtParsedLength buf < (pmtHeaderAt buf).sectionLength.toNat := by
      by_contra hnot
      rw [if_pos (Nat.le_of_not_lt hnot)] at hcode
      cases hcode
    exact .inr ⟨hid,pmtPositions_full hshort,hshort,hshows⟩
  · rw [pmtResult,if_neg hid] at h
    cases h
    exact .inl ⟨hid,rfl⟩

/-- What a rejected section leaves behind.  A wrong `table_id` is stored in the
header and nothing else changes; a section with more entries than slots replaces
the table by its header and its first twenty entries.  The callback looks at the
`table_id` before it chooses a parser, so the tables it keeps always show the last
section of their kind, rejected for want of slots or not. -/
theorem rejected_section_leaves_its_entries :
    (∀ (buf : Buffer) (patTable patTable' : PatTable),
      run buf (parsePatTable patTable) = .ok (tablesParseError,patTable') →
      (buf 0 ≠ 0x00 ∧
        patTable' = { patTable with patHeader := { patTable.patHeader with tableId := buf 0 } }) ∨
      (buf 0 = 0x00 ∧ (patPositions buf).length = 20 ∧
        patParsedLength buf < (patHeaderAt buf).sectionLength.toNat ∧ patTable'.Shows buf)) ∧
    (∀ (buf : Buffer) (pmtTable pmtTable' : PmtTable),
      run buf (parsePmtTable pmtTable) = .ok (tablesParseError,pmtTable') →
      (buf 0 ≠ 0x02 ∧
        pmtTable' = { pmtTable with pmtHeader := { pmtTable.pmtHeader with tableId := buf 0 } }) ∨
      (buf 0 = 0x02 ∧ (pmtPositions buf).length = 20 ∧
        pmtParsedLength buf < (pmtHeaderAt buf).sectionLength.toNat ∧ pmtTable'.Shows buf)) ∧
    ∀ (buffers : List Buffer) (tables : SectionTables),
      sectionsReceived .zeroed buffers = .ok tables →
      (lastSection 0x00 buffers).elim (tables.patTable = .zeroed) tables.patTable.Shows ∧
        (lastSection 0x02 buffers).elim (tables.pmtTable = .zeroed) tables.pmtTable.Shows :=
  ⟨fun _ _ _ => rejected_patTable,fun _ _ _ => rejected_pmtTable,
    fun buffers _ => sectionsReceived_shows buffers⟩

def oversizedPat : Buffer := fun i => if i = 2 then 93 else 0

theorem oversizedPat_rejected : (patResult oversizedPat .zeroed).1 = tablesParseError := by
  decide +kernel

theorem oversizedPat_count : (patResult oversizedPat .zeroed).2.serviceInfoCount = 20 := by
  decide +kernel

theorem oversizedPat_changes_table :
    (∃ patTable, run oversizedPat (parsePatTable .zeroed) = .ok (tablesParseError,patTable) ∧
      patTable ≠ .zeroed) ∧
    ∃ tables, sectionsReceived .zeroed [oversizedPat] = .ok tables ∧ tables.patTable ≠ .zeroed := by
  have hne : (patResult oversizedPat .zeroed).2 ≠ .zeroed := by
    intro h
    have hcount := oversizedPat_count
    rw [h] at hcount
    exact absurd hcount (by decide)
  constructor
  · refine ⟨_,?_,hne⟩
    rw [run_parsePatTable_eq,← oversizedPat_rejected]
  · refine ⟨{ SectionTables.zeroed with patTable := (patResult oversizedPat .zeroed).2 },?_,hne⟩
    have hrun : run oversizedPat (sectionReceivedCallback .zeroed) = .ok
        (decide ((patResult oversizedPat .zeroed).1 = tablesParseOk),
          { SectionTables.zeroed with patTable := (patResult oversizedPat .zeroed).2 }) := by
      rw [sectionReceivedCallback,run_bind,run_byte]
      change run oversizedPat (parsePatTable .zeroed >>= _) = _
      rw [run_bind,run_parsePatTable_eq]
      rfl
    rw [sectionsReceived,hrun]
    rfl

theorem oversizedPat_shows :
    ∃ patTable, run oversizedPat (parsePatTable .zeroed) = .ok (tablesParseError,patTable) ∧
      patTable.Shows oversizedPat := by
  have hrun : run oversizedPat (parsePatTable .zeroed) =
      .ok (tablesParseError,(patResult oversizedPat .zeroed).2) := by
    rw [run_parsePatTable_eq,← oversizedPat_rejected]
  rcases rejected_section_leaves_its_entries.1 oversizedPat .zeroed _ hrun with h | h
  · exact absurd (show oversizedPat 0 = 0x00 by decide) h.1
  · exact ⟨_,hrun,h.2.2.2⟩

end TvApp

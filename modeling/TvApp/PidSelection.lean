import TvApp.SectionEncoding
import TvApp.StreamController

/-! The pid scan of `startChannel` on tables that only received sections have
written.  The `else if` chain with two sentinels is two independent first-match
searches; that the sentinel cannot be taken for a pid rests on the thirteen-bit
pids that the parser stores. -/
namespace TvApp

open Routine ParseErrorCode

def PmtTable.slots (pmtTable : PmtTable) : List PmtElementaryInfo :=
  List.ofFn pmtTable.pmtElementaryInfoArray

theorem PmtTable.drop_slots (pmtTable : PmtTable) {i : ℕ} (hi : i < 20) :
    pmtTable.slots.drop i =
      pmtTable.pmtElementaryInfoArray ⟨i,hi⟩ :: pmtTable.slots.drop (i+1) := by
  rw [slots,List.drop_eq_getElem_cons (by rw [List.length_ofFn]; exact hi),List.getElem_ofFn]

def PmtTable.entries (pmtTable : PmtTable) : List PmtElementaryInfo :=
  pmtTable.slots.take pmtTable.elementaryInfoCount.toNat

/-- First pid of a kind of stream, or the sentinel.  A stored 0xFFFF would read as
the sentinel and be passed over. -/
def firstPid (kind : UInt8 → Bool) (infos : List PmtElementaryInfo) : Int16 :=
  (infos.find? fun e => kind e.streamType && e.elementaryPid != 0xFFFF).elim (-1)
    fun e => e.elementaryPid.toInt16

theorem firstPid_cons (kind : UInt8 → Bool) (e : PmtElementaryInfo)
    (infos : List PmtElementaryInfo) :
    firstPid kind (e::infos) = if kind e.streamType ∧ e.elementaryPid ≠ 0xFFFF
      then e.elementaryPid.toInt16 else firstPid kind infos := by
  by_cases hk : kind e.streamType <;> by_cases hp : e.elementaryPid = 0xFFFF <;>
    simp [firstPid,hk,hp]

theorem not_isAudio_of_isVideo {t : UInt8} (h : isVideo t = true) : isAudio t = false := by
  simp only [isVideo,Bool.or_eq_true,beq_iff_eq] at h
  rcases h with (rfl | rfl) | rfl <;> decide

def keepFirst (found next : Int16) : Int16 := if found = -1 then next else found

theorem keepFirst_cons (kind : UInt8 → Bool) (found : Int16) (e : PmtElementaryInfo)
    (infos : List PmtElementaryInfo) :
    keepFirst found (firstPid kind (e::infos)) =
      keepFirst (if kind e.streamType ∧ found = -1 then e.elementaryPid.toInt16 else found)
        (firstPid kind infos) := by
  have hneg := toInt16_eq_neg_one_iff e.elementaryPid
  rw [firstPid_cons]
  by_cases hk : kind e.streamType <;> by_cases hf : found = -1 <;>
    by_cases hp : e.elementaryPid = 0xFFFF <;> simp [keepFirst,hk,hf,hp,hneg]

theorem run_scanPids_succ (buf : Buffer) (pmtTable : PmtTable) (left : ℕ) {i : ℕ} (hi : i < 20)
    (audioPid videoPid : Int16) {info : PmtElementaryInfo}
    (hinfo : pmtTable.pmtElementaryInfoArray ⟨i,hi⟩ = info) :
    run buf (scanPids pmtTable (left+1) i audioPid videoPid) =
      run buf (if isVideo info.streamType = true ∧ videoPid = -1 then
          scanPids pmtTable left (i+1) audioPid info.elementaryPid.toInt16
        else if isAudio info.streamType = true ∧ audioPid = -1 then
          scanPids pmtTable left (i+1) info.elementaryPid.toInt16 videoPid
        else scanPids pmtTable left (i+1) audioPid videoPid) := by
  subst hinfo
  rw [scanPids,run_bind,run_slot buf hi]
  rfl

theorem scanPids_run (buf : Buffer) (pmtTable : PmtTable) (left i : ℕ) (audioPid videoPid : Int16)
    (hi : i+left ≤ 20) :
    run buf (scanPids pmtTable left i audioPid videoPid) =
      .ok (keepFirst audioPid (firstPid isAudio ((pmtTable.slots.drop i).take left)),
        keepFirst videoPid (firstPid isVideo ((pmtTable.slots.drop i).take left))) := by
  induction left generalizing i audioPid videoPid with
  | zero => simp [scanPids,firstPid,keepFirst]
  | succ left ih =>
    have hlt : i < 20 := by omega
    rw [pmtTable.drop_slots hlt,List.take_succ_cons]
    generalize hinfo : pmtTable.pmtElementaryInfoArray ⟨i,hlt⟩ = info
    rw [run_scanPids_succ buf pmtTable left hlt _ _ hinfo,keepFirst_cons isAudio,
      keepFirst_cons isVideo]
    by_cases hv : isVideo info.streamType = true ∧ videoPid = -1
    · have ha := not_isAudio_of_isVideo hv.1
      rw [if_pos hv,ih _ _ _ (by omega),if_pos hv,ha]
      simp
    · rw [if_neg hv,if_neg hv]
      by_cases ha : isAudio info.streamType = true ∧ audioPid = -1
      · rw [if_pos ha,if_pos ha]
        exact ih _ _ _ (by omega)
      · rw [if_neg ha,if_neg ha]
        exact ih _ _ _ (by omega)

theorem channelPids_run (buf : Buffer) (pmtTable : PmtTable)
    (hc : pmtTable.elementaryInfoCount.toNat ≤ 20) :
    run buf (channelPids pmtTable) =
      .ok (firstPid isAudio pmtTable.entries,firstPid isVideo pmtTable.entries) := by
  rw [channelPids,scanPids_run buf pmtTable _ 0 _ _ (by omega),List.drop_zero]
  rfl

theorem scanPids_fault (buf : Buffer) (pmtTable : PmtTable) (left i : ℕ)
    (audioPid videoPid : Int16) (hi : i ≤ 20) (hleft : 20 < i+left) :
    ∃ fault, run buf (scanPids pmtTable left i audioPid videoPid) = .error fault := by
  induction left generalizing i audioPid videoPid with
  | zero => omega
  | succ left ih =>
    by_cases hlt : i < 20
    · rw [run_scanPids_succ buf pmtTable left hlt _ _ rfl]
      split
      · exact ih _ _ _ (by omega) (by omega)
      · split <;> exact ih _ _ _ (by omega) (by omega)
    · rw [scanPids,run_bind,run_slot_fault buf (Nat.le_of_not_lt hlt)]
      exact ⟨_,rfl⟩

theorem channelPids_eq_ok {buf : Buffer} {pmtTable : PmtTable} {pids : Int16 × Int16}
    (h : run buf (channelPids pmtTable) = .ok pids) :
    pids = (firstPid isAudio pmtTable.entries,firstPid isVideo pmtTable.entries) := by
  by_cases hc : pmtTable.elementaryInfoCount.toNat ≤ 20
  · rw [channelPids_run buf pmtTable hc] at h
    exact (Except.ok.inj h).symm
  · obtain ⟨fault,hf⟩ := scanPids_fault buf pmtTable pmtTable.elementaryInfoCount.toNat 0
      (-1) (-1) (by omega) (by omega)
    rw [channelPids,hf] at h
    cases h

theorem scanPids_safe (buf : Buffer) (pmtTable : PmtTable) (left i : ℕ)
    (audioPid videoPid : Int16) (hi : i+left ≤ 20) :
    Safe buf 0 20 (scanPids pmtTable left i audioPid videoPid) fun _ => True := by
  induction left generalizing i audioPid videoPid with
  | zero => exact .pure trivial
  | succ left ih =>
    refine (Safe.slot (by omega)).bind fun k _ => ?_
    dsimp only
    split
    · exact ih _ _ _ (by omega)
    · split <;> exact ih _ _ _ (by omega)

theorem firstPid_eq_of_pids (kind : UInt8 → Bool) (infos : List PmtElementaryInfo)
    (h : ∀ e ∈ infos, e.elementaryPid.toNat < 0x2000) :
    (firstPid kind infos).toInt =
      (infos.find? fun e => kind e.streamType).elim (-1) fun e => (e.elementaryPid.toNat : ℤ) := by
  induction infos with
  | nil => rfl
  | cons e infos ih =>
    have he := h e (by simp)
    have hne : e.elementaryPid ≠ 0xFFFF := by
      intro heq
      rw [heq] at he
      exact absurd he (by decide)
    rw [firstPid_cons]
    by_cases hk : kind e.streamType
    · simpa [hk,hne] using toInt_toInt16 _ (by omega)
    · simpa [hk] using ih fun e he => h e (by simp [he])

theorem firstPid_eq_neg_one_iff (kind : UInt8 → Bool) (infos : List PmtElementaryInfo)
    (h : ∀ e ∈ infos, e.elementaryPid.toNat < 0x2000) :
    firstPid kind infos = -1 ↔ ∀ e ∈ infos, kind e.streamType = false := by
  have hfirst := firstPid_eq_of_pids kind infos h
  rw [← Int16.toInt_inj,hfirst]
  cases hfind : infos.find? fun e => kind e.streamType with
  | none => simpa using hfind
  | some e =>
    have hmem := List.mem_of_find?_eq_some hfind
    have hkind := List.find?_some hfind
    refine iff_of_false ?_ fun hall => ?_
    · change ((e.elementaryPid.toNat : ℤ) = -1) → False
      omega
    · rw [hall e hmem] at hkind
      cases hkind

theorem PmtTable.Received.entries_lt {pmtTable : PmtTable} (h : pmtTable.Received) :
    ∀ e ∈ pmtTable.entries, e.elementaryPid.toNat < 0x2000 := by
  intro e he
  obtain ⟨i,rfl⟩ := List.mem_ofFn.mp (List.mem_of_mem_take he)
  exact h.pids_below i

theorem PmtTable.zeroed_received : PmtTable.zeroed.Received :=
  ⟨by decide,fun _ => by change 0 < 0x2000; omega⟩

theorem sectionReceivedCallback_received {buf : Buffer} {tables : SectionTables}
    (hid : buf 0 ≠ 0x73) (h : tables.pmtTable.Received) :
    ∃ r, run buf (sectionReceivedCallback tables) = .ok r ∧ r.2.pmtTable.Received := by
  rw [sectionReceivedCallback,run_bind,run_byte]
  change ∃ r, run buf (if buf 0 = 0x00 then _ else _) = .ok r ∧ _
  split
  · obtain ⟨r,hr,-⟩ := (parsePatTable_safe tables.patTable : Safe buf _ 20 _ _).returns
    exact ⟨_,by rw [run_bind,hr]; rfl,h⟩
  · split
    · obtain ⟨r,hr,hreceived⟩ := (parsePmtTable_safe tables.pmtTable : Safe buf _ 20 _ _).returns
      exact ⟨_,by rw [run_bind,hr]; rfl,hreceived h⟩
    · split
      · exact ⟨_,rfl,h⟩
      · exact ⟨_,rfl,h⟩

theorem sectionsReceived_received (buffers : List Buffer) (hids : ∀ b ∈ buffers, b 0 ≠ 0x73)
    (tables : SectionTables) (h : tables.pmtTable.Received) :
    ∃ final, sectionsReceived tables buffers = .ok final ∧ final.pmtTable.Received := by
  induction buffers generalizing tables with
  | nil => exact ⟨tables,rfl,h⟩
  | cons b buffers ih =>
    obtain ⟨r,hr,hreceived⟩ := sectionReceivedCallback_received (hids b (by simp)) h
    obtain ⟨final,hf,hfinal⟩ := ih (fun b hb => hids b (by simp [hb])) r.2 hreceived
    refine ⟨final,?_,hfinal⟩
    rw [sectionsReceived,hr]
    exact hf

/-- After any PAT, PMT and TDT sections the scan is exact. -/
theorem pid_selection_exact (buffers : List Buffer) (hids : ∀ b ∈ buffers, b 0 ≠ 0x73) :
    ∃ tables, sectionsReceived .zeroed buffers = .ok tables ∧
      (∀ buf, ∀ k ∈ subscripts buf (channelPids tables.pmtTable), 0 ≤ k ∧ k < 20) ∧
      ∃ audioPid videoPid : Int16,
        (∀ buf, run buf (channelPids tables.pmtTable) = .ok (audioPid,videoPid)) ∧
        (videoPid.toInt = (tables.pmtTable.entries.find? fun e => isVideo e.streamType).elim (-1)
          fun e => (e.elementaryPid.toNat : ℤ)) ∧
        (audioPid.toInt = (tables.pmtTable.entries.find? fun e => isAudio e.streamType).elim (-1)
          fun e => (e.elementaryPid.toNat : ℤ)) ∧
        (videoPid = -1 ↔ ∀ e ∈ tables.pmtTable.entries, isVideo e.streamType = false) ∧
        (audioPid = -1 ↔ ∀ e ∈ tables.pmtTable.entries, isAudio e.streamType = false) ∧
        ∀ e ∈ tables.pmtTable.entries,
          e.elementaryPid.toInt16.toInt = (e.elementaryPid.toNat : ℤ) := by
  obtain ⟨tables,hrun,hreceived⟩ := sectionsReceived_received buffers hids
    .zeroed PmtTable.zeroed_received
  have hlt := hreceived.entries_lt
  refine ⟨tables,hrun,fun buf => ?_,firstPid isAudio tables.pmtTable.entries,
    firstPid isVideo tables.pmtTable.entries,
    fun buf => channelPids_run buf tables.pmtTable hreceived.count_le,
    firstPid_eq_of_pids isVideo _ hlt,firstPid_eq_of_pids isAudio _ hlt,
    firstPid_eq_neg_one_iff isVideo _ hlt,firstPid_eq_neg_one_iff isAudio _ hlt,?_⟩
  · have hsafe := scanPids_safe buf tables.pmtTable tables.pmtTable.elementaryInfoCount.toNat 0
      (-1) (-1) (by have := hreceived.count_le; omega)
    exact hsafe.subscripts_mem
  · intro e he
    have := hlt e he
    exact toInt_toInt16 _ (by omega)

def sampleSections : List Buffer :=
  [fun i => PatSection.sample.encode.getD i 0,fun i => PmtSection.sample.encode.getD i 0,fun _ => 0x70]

theorem sampleSections_selection :
    ∃ tables, sectionsReceived .zeroed sampleSections = .ok tables ∧
      ∃ audioPid videoPid : Int16,
        ∀ buf, run buf (channelPids tables.pmtTable) = .ok (audioPid,videoPid) := by
  have hids : ∀ b ∈ sampleSections, b 0 ≠ 0x73 := by
    intro b hb
    simp only [sampleSections,List.mem_cons,List.not_mem_nil,or_false] at hb
    rcases hb with rfl | rfl | rfl <;> decide
  obtain ⟨tables,hrun,-,audioPid,videoPid,hpids,-⟩ := pid_selection_exact sampleSections hids
  exact ⟨tables,hrun,audioPid,videoPid,hpids⟩

end TvApp

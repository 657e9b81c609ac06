import TvApp.ParserSpec

/-! The reference encoder of PAT and PMT sections, and the round trip through the
parsers.  A section is described by its ISO 13818-1 fields, each with its width in
bits; reserved bits, descriptor blocks and the CRC are arbitrary data of the
description, and that the section length fits in twelve bits is part of it. -/
namespace TvApp

open Routine ParseErrorCode

theorem Holds.word {buf : Buffer} {pos n : ℕ} (h : Holds buf pos (wordBytes n)) :
    word (buf pos) (buf (pos+1)) = UInt16.ofNat n := by
  have h₀ : buf pos = UInt8.ofNat (n/256) := h 0 (by simp)
  have h₁ : buf (pos+1) = UInt8.ofNat n := h 1 (by simp)
  rw [h₀,h₁,word_wordBytes]

theorem ofNat_and_0FFF (r n : ℕ) (hn : n < 4096) :
    UInt16.ofNat (4096*r+n) &&& 0x0FFF = UInt16.ofNat n := by
  apply UInt16.toNat_inj.mp
  rw [and_0FFF_toNat,UInt16.toNat_ofNat',UInt16.toNat_ofNat']
  omega

theorem ofNat_and_1FFF (r n : ℕ) (hn : n < 8192) :
    UInt16.ofNat (8192*r+n) &&& 0x1FFF = UInt16.ofNat n := by
  apply UInt16.toNat_inj.mp
  rw [and_1FFF_toNat,UInt16.toNat_ofNat',UInt16.toNat_ofNat']
  omega

/-- Top bit of `section_syntax_indicator`, three reserved bits and the length. -/
def lengthWord (sectionSyntaxIndicator : Fin 2) (reserved : Fin 8) (sectionLength : ℕ) : ℕ :=
  4096*(8*sectionSyntaxIndicator.val+reserved.val)+sectionLength

/-- Two reserved bits, the version and `current_next_indicator`. -/
def versionByte (reserved : Fin 4) (versionNumber : Fin 32) (currentNextIndicator : Fin 2) : ℕ :=
  64*reserved.val+2*versionNumber.val+currentNextIndicator.val

theorem lengthWord_indicator (ssi : Fin 2) (reserved : Fin 8) (n : ℕ) (hn : n < 4096) :
    UInt8.ofNat (lengthWord ssi reserved n/256) >>> 7 &&& 0x01 = UInt8.ofNat ssi.val := by
  apply UInt8.toNat_inj.mp
  rw [shiftRight7_and_01_toNat,UInt8.toNat_ofNat',UInt8.toNat_ofNat',lengthWord]
  omega

theorem versionByte_version (reserved : Fin 4) (version : Fin 32) (next : Fin 2) :
    UInt8.ofNat (versionByte reserved version next) >>> 1 &&& 0x1F = UInt8.ofNat version.val := by
  apply UInt8.toNat_inj.mp
  rw [shiftRight1_and_1F_toNat,UInt8.toNat_ofNat',UInt8.toNat_ofNat',versionByte]
  omega

theorem versionByte_next (reserved : Fin 4) (version : Fin 32) (next : Fin 2) :
    UInt8.ofNat (versionByte reserved version next) &&& 0x01 = UInt8.ofNat next.val := by
  apply UInt8.toNat_inj.mp
  rw [and_01_toNat,UInt8.toNat_ofNat',UInt8.toNat_ofNat',versionByte]
  omega

/-- One program of a PAT: `program_number`, three reserved bits, the pid. -/
structure PatEntry where
  programNumber : UInt16
  reserved : Fin 8
  pid : Fin 8192

structure PatSection where
  sectionSyntaxIndicator : Fin 2
  lengthReserved : Fin 8
  transportStreamId : UInt16
  versionReserved : Fin 4
  versionNumber : Fin 32
  currentNextIndicator : Fin 2
  sectionNumber : UInt8
  lastSectionNumber : UInt8
  entries : List PatEntry
  crc : Fin 4 → UInt8
  length_le : 9+4*entries.length ≤ 4095

namespace PatEntry

def encode (e : PatEntry) : List UInt8 :=
  wordBytes e.programNumber.toNat ++ wordBytes (8192*e.reserved.val+e.pid.val)

@[simp] theorem encode_length (e : PatEntry) : e.encode.length = 4 := rfl

def info (e : PatEntry) : PatServiceInfo := ⟨e.programNumber,UInt16.ofNat e.pid.val⟩

theorem info_of_holds {buf : Buffer} {pos : ℕ} (e : PatEntry) (h : Holds buf pos e.encode) :
    run buf (parsePatServiceInfo pos) = .ok e.info := by
  have hprogram := h.append_left.word
  have hpid := h.append_right.word
  simp only [wordBytes_length] at hpid
  rw [run_parsePatServiceInfo,patServiceInfoAt,hprogram,hpid,ofNat_and_1FFF _ _ e.pid.isLt,
    and_FFFF,UInt16.ofNat_toNat]
  rfl

end PatEntry

namespace PatSection

def sectionLength (s : PatSection) : ℕ := 9+4*s.entries.length

def headerBytes (s : PatSection) : List UInt8 :=
  [0x00] ++ wordBytes (lengthWord s.sectionSyntaxIndicator s.lengthReserved s.sectionLength) ++
    wordBytes s.transportStreamId.toNat ++
    [UInt8.ofNat (versionByte s.versionReserved s.versionNumber s.currentNextIndicator),
      s.sectionNumber,s.lastSectionNumber]

def encode (s : PatSection) : List UInt8 :=
  s.headerBytes ++ (s.entries.flatMap PatEntry.encode ++ List.ofFn s.crc)

def header (s : PatSection) : PatHeader where
  tableId := 0x00
  sectionSyntaxIndicator := UInt8.ofNat s.sectionSyntaxIndicator.val
  sectionLength := UInt16.ofNat s.sectionLength
  transportStreamId := s.transportStreamId
  versionNumber := UInt8.ofNat s.versionNumber.val
  currentNextIndicator := UInt8.ofNat s.currentNextIndicator.val
  sectionNumber := s.sectionNumber
  lastSectionNumber := s.lastSectionNumber

theorem sectionLength_lt (s : PatSection) : s.sectionLength < 4096 := by
  have := s.length_le
  rw [sectionLength]
  omega

theorem header_of_holds {buf : Buffer} (s : PatSection) (h : Holds buf 0 s.headerBytes) :
    patHeaderAt buf = s.header := by
  have hlen : s.headerBytes.length = 8 := rfl
  have h₀ : buf 0 = 0x00 := h 0 (by omega)
  have h₁ : buf 1 = UInt8.ofNat (lengthWord s.sectionSyntaxIndicator s.lengthReserved
      s.sectionLength/256) := h 1 (by omega)
  have h₂ : buf 2 = UInt8.ofNat (lengthWord s.sectionSyntaxIndicator s.lengthReserved
      s.sectionLength) := h 2 (by omega)
  have h₃ : buf 3 = UInt8.ofNat (s.transportStreamId.toNat/256) := h 3 (by omega)
  have h₄ : buf 4 = UInt8.ofNat s.transportStreamId.toNat := h 4 (by omega)
  have h₅ : buf 5 = UInt8.ofNat (versionByte s.versionReserved s.versionNumber
      s.currentNextIndicator) := h 5 (by omega)
  have h₆ : buf 6 = s.sectionNumber := h 6 (by omega)
  have h₇ : buf 7 = s.lastSectionNumber := h 7 (by omega)
  have hw : UInt16.ofNat (lengthWord s.sectionSyntaxIndicator s.lengthReserved s.sectionLength)
      &&& 0x0FFF = UInt16.ofNat s.sectionLength := ofNat_and_0FFF _ _ s.sectionLength_lt
  simp only [patHeaderAt,header,h₀,h₁,h₂,h₃,h₄,h₅,h₆,h₇,word_wordBytes,hw,and_FFFF,and_FF,
    UInt16.ofNat_toNat,lengthWord_indicator _ _ _ s.sectionLength_lt,versionByte_version,versionByte_next]

theorem entries_of_holds {buf : Buffer} (s : PatSection) (h : Holds buf 0 s.encode)
    (arr : Fin tablesMaxNumberOfPidsInPat → PatServiceInfo) :
    run buf (parsePatEntries (UInt16.ofNat s.sectionLength) arr) =
      .ok (decide (s.entries.length ≤ 20),
        Walk.pushAll (fun _ => 4) ⟨9,8,arr,0⟩ ((s.entries.map PatEntry.info).take 20)) := by
  have hbuf : Holds buf 8 (s.entries.flatMap PatEntry.encode) := h.append_right.append_left
  have hlength : (s.entries.flatMap PatEntry.encode).length = 4*s.entries.length := by
    simp [List.length_flatMap,List.sum_replicate,Nat.mul_comm]
  have hlen : (UInt16.ofNat s.sectionLength).toNat =
      9+(s.entries.flatMap PatEntry.encode).length := by
    have := s.sectionLength_lt
    rw [UInt16.toNat_ofNat_of_lt' (by change _ < 65536; omega),hlength,sectionLength]
  have hloop : run buf (parsePatEntries (UInt16.ofNat s.sectionLength) arr) = _ :=
    Walk.run_loop_encoded PatEntry.encode PatEntry.info s.entries ⟨9,8,arr,0⟩
      (fun e _ pos he => e.info_of_holds he) (fun _ _ => rfl) (by simp) (by simp) hbuf hlen
  simpa only [Nat.zero_add,Nat.sub_zero] using hloop

theorem stored_entries (s : PatSection) (arr : Fin tablesMaxNumberOfPidsInPat → PatServiceInfo)
    (i : Fin 20) (h : i.val < s.entries.length) :
    (Walk.pushAll (fun _ => 4) (⟨9,8,arr,0⟩ : Walk 20 PatServiceInfo)
      ((s.entries.map PatEntry.info).take 20)).entries i = (s.entries[i.val]).info := by
  rw [Walk.pushAll_entries _ _ _ i.val (by simp [h]) i (by simp)]
  simp

/-- Decoding undoes encoding, up to the capacity of the table. -/
theorem parsePatTable_decodes (s : PatSection) (patTable : PatTable) (buf : Buffer)
    (hbuf : Holds buf 0 s.encode) :
    ∃ code table, run buf (parsePatTable patTable) = .ok (code,table) ∧
      (s.entries.length ≤ 20 → code = tablesParseOk ∧ table.patHeader = s.header ∧
        table.serviceInfoCount.toNat = s.entries.length ∧
        ∀ (i : Fin 20) (h : i.val < s.entries.length),
          table.patServiceInfoArray i = (s.entries[i.val]).info) ∧
      (20 < s.entries.length → code = tablesParseError ∧ table.serviceInfoCount.toNat = 20 ∧
        ∀ (i : Fin 20) (h : i.val < s.entries.length),
          table.patServiceInfoArray i = (s.entries[i.val]).info) := by
  have hheader := s.header_of_holds hbuf.append_left
  have hid : buf 0 = 0x00 := congrArg PatHeader.tableId hheader
  have hloop := s.entries_of_holds hbuf patTable.patServiceInfoArray
  have hrun := run_parsePatTable patTable hid (by rw [hheader]; exact hloop)
  have hentries := s.stored_entries patTable.patServiceInfoArray
  refine ⟨_,_,hrun,?_,?_⟩
  · intro hn
    refine ⟨by simp [hn],hheader,?_,hentries⟩
    simp only [Walk.pushAll_count,List.length_take,List.length_map,UInt8.toNat_ofNat']
    omega
  · intro hn
    refine ⟨by simp [hn],?_,hentries⟩
    simp only [Walk.pushAll_count,List.length_take,List.length_map,UInt8.toNat_ofNat']
    omega

theorem accepted_entries (s : PatSection) {prior table : PatTable} {buf : Buffer}
    (hbuf : Holds buf 0 s.encode)
    (hok : run buf (parsePatTable prior) = .ok (tablesParseOk,table)) :
    s.entries.length ≤ 20 ∧ table.serviceInfoCount.toNat = s.entries.length ∧
      ∀ (i : Fin 20) (h : i.val < s.entries.length),
        table.patServiceInfoArray i = (s.entries[i.val]).info := by
  have hheader := s.header_of_holds hbuf.append_left
  have hid : buf 0 = 0x00 := congrArg PatHeader.tableId hheader
  have hloop := s.entries_of_holds hbuf prior.patServiceInfoArray
  have hrun := run_parsePatTable prior hid (by rw [hheader]; exact hloop)
  rw [hrun,Except.ok.injEq,Prod.mk.injEq] at hok
  obtain ⟨hcode,rfl⟩ := hok
  have hle : s.entries.length ≤ 20 := by
    by_contra hnot
    simp [hnot] at hcode
  refine ⟨hle,?_,s.stored_entries prior.patServiceInfoArray⟩
  simp only [Walk.pushAll_count,List.length_take,List.length_map,UInt8.toNat_ofNat']
  omega

def sample : PatSection where
  sectionSyntaxIndicator := 1
  lengthReserved := 3
  transportStreamId := 0x0101
  versionReserved := 3
  versionNumber := 5
  currentNextIndicator := 1
  sectionNumber := 0
  lastSectionNumber := 0
  entries := [⟨0,7,0x10⟩,⟨1,7,0x1FFF⟩]
  crc := fun _ => 0xFF
  length_le := by decide

theorem sample_decodes :
    ∃ code table, run (fun i => sample.encode.getD i 0) (parsePatTable .zeroed) = .ok (code,table) ∧
      code = tablesParseOk ∧ table.serviceInfoCount.toNat = 2 := by
  obtain ⟨code,table,hrun,hok,-⟩ := parsePatTable_decodes sample .zeroed
    (fun i => sample.encode.getD i 0) (holds_getD _)
  have h := hok (by decide)
  exact ⟨code,table,hrun,h.1,h.2.2.1⟩

def withoutNetwork : PatSection :=
  { sample with entries := [⟨1,7,0x100⟩,⟨2,7,0x200⟩], length_le := by decide }

def twoProgrammes : PatSection :=
  { sample with entries := [⟨0,7,0x10⟩,⟨1,7,0x100⟩,⟨2,7,0x200⟩], length_le := by decide }

end PatSection

structure PmtStream where
  streamType : UInt8
  pidReserved : Fin 8
  elementaryPid : Fin 8192
  infoReserved : Fin 16
  descriptors : List UInt8

structure PmtSection where
  sectionSyntaxIndicator : Fin 2
  lengthReserved : Fin 8
  programNumber : UInt16
  versionReserved : Fin 4
  versionNumber : Fin 32
  currentNextIndicator : Fin 2
  sectionNumber : UInt8
  lastSectionNumber : UInt8
  pcrReserved : Fin 8
  pcrPid : Fin 8192
  infoReserved : Fin 16
  programInfo : List UInt8
  streams : List PmtStream
  crc : Fin 4 → UInt8
  length_le : 13+programInfo.length+(streams.map fun e => 5+e.descriptors.length).sum ≤ 4095

namespace PmtStream

def encode (e : PmtStream) : List UInt8 :=
  [e.streamType] ++ (wordBytes (8192*e.pidReserved.val+e.elementaryPid.val) ++
    (wordBytes (4096*e.infoReserved.val+e.descriptors.length) ++ e.descriptors))

@[simp] theorem encode_length (e : PmtStream) : e.encode.length = 5+e.descriptors.length := by
  simp only [encode,List.length_append,List.length_singleton,wordBytes_length]
  omega

def info (e : PmtStream) : PmtElementaryInfo :=
  ⟨e.streamType,UInt16.ofNat e.elementaryPid.val,UInt16.ofNat e.descriptors.length⟩

theorem info_of_holds {buf : Buffer} {pos : ℕ} (e : PmtStream) (hd : e.descriptors.length < 4096)
    (h : Holds buf pos e.encode) : run buf (parsePmtElementaryInfo pos) = .ok e.info := by
  have htype : buf pos = e.streamType := h.append_left 0 (by simp)
  have hpid := h.append_right.append_left.word
  have hinfo := h.append_right.append_right.append_left.word
  simp only [List.length_singleton,wordBytes_length,Nat.add_assoc,Nat.reduceAdd] at hpid hinfo
  rw [run_parsePmtElementaryInfo,pmtElementaryInfoAt,htype,hpid,hinfo,
    ofNat_and_1FFF _ _ e.elementaryPid.isLt,ofNat_and_0FFF _ _ hd]
  rfl

end PmtStream

namespace PmtSection

def sectionLength (s : PmtSection) : ℕ :=
  13+s.programInfo.length+(s.streams.map fun e => 5+e.descriptors.length).sum

def headerBytes (s : PmtSection) : List UInt8 :=
  [0x02] ++ wordBytes (lengthWord s.sectionSyntaxIndicator s.lengthReserved s.sectionLength) ++
    wordBytes s.programNumber.toNat ++
    [UInt8.ofNat (versionByte s.versionReserved s.versionNumber s.currentNextIndicator),
      s.sectionNumber,s.lastSectionNumber] ++
    wordBytes (8192*s.pcrReserved.val+s.pcrPid.val) ++
    wordBytes (4096*s.infoReserved.val+s.programInfo.length)

def encode (s : PmtSection) : List UInt8 :=
  s.headerBytes ++ (s.programInfo ++ (s.streams.flatMap PmtStream.encode ++ List.ofFn s.crc))

/-- The fields as encoded.  For `pcrPid` the parser keeps the reserved bits as
well, so the word stands here whole. -/
def header (s : PmtSection) : PmtTableHeader where
  tableId := 0x02
  sectionSyntaxIndicator := UInt8.ofNat s.sectionSyntaxIndicator.val
  sectionLength := UInt16.ofNat s.sectionLength
  programNumber := s.programNumber
  versionNumber := UInt8.ofNat s.versionNumber.val
  currentNextIndicator := UInt8.ofNat s.currentNextIndicator.val
  sectionNumber := s.sectionNumber
  lastSectionNumber := s.lastSectionNumber
  pcrPid := UInt16.ofNat (8192*s.pcrReserved.val+s.pcrPid.val)
  programInfoLength := UInt16.ofNat s.programInfo.length

theorem sectionLength_lt (s : PmtSection) : s.sectionLength < 4096 := by
  have := s.length_le
  rw [sectionLength]
  omega

theorem programInfo_length_lt (s : PmtSection) : s.programInfo.length < 4096 := by
  have := s.length_le
  omega

theorem descriptors_length_lt (s : PmtSection) {e : PmtStream} (he : e ∈ s.streams) :
    e.descriptors.length < 4096 := by
  have hle : 5+e.descriptors.length ≤ (s.streams.map fun e => 5+e.descriptors.length).sum :=
    List.le_sum_of_mem (List.mem_map.mpr ⟨e,he,rfl⟩)
  have := s.length_le
  omega

theorem header_of_holds {buf : Buffer} (s : PmtSection) (h : Holds buf 0 s.headerBytes) :
    pmtHeaderAt buf = s.header := by
  have hlen : s.headerBytes.length = 12 := rfl
  have h₀ : buf 0 = 0x02 := h 0 (by omega)
  have h₁ : buf 1 = UInt8.ofNat (lengthWord s.sectionSyntaxIndicator s.lengthReserved
      s.sectionLength/256) := h 1 (by omega)
  have h₂ : buf 2 = UInt8.ofNat (lengthWord s.sectionSyntaxIndicator s.lengthReserved
      s.sectionLength) := h 2 (by omega)
  have h₃ : buf 3 = UInt8.ofNat (s.programNumber.toNat/256) := h 3 (by omega)
  have h₄ : buf 4 = UInt8.ofNat s.programNumber.toNat := h 4 (by omega)
  have h₅ : buf 5 = UInt8.ofNat (versionByte s.versionReserved s.versionNumber
      s.currentNextIndicator) := h 5 (by omega)
  have h₆ : buf 6 = s.sectionNumber := h 6 (by omega)
  have h₇ : buf 7 = s.lastSectionNumber := h 7 (by omega)
  have h₈ : buf 8 = UInt8.ofNat ((8192*s.pcrReserved.val+s.pcrPid.val)/256) := h 8 (by omega)
  have h₉ : buf 9 = UInt8.ofNat (8192*s.pcrReserved.val+s.pcrPid.val) := h 9 (by omega)
  have h₁₀ : buf 10 = UInt8.ofNat ((4096*s.infoReserved.val+s.programInfo.length)/256) :=
    h 10 (by omega)
  have h₁₁ : buf 11 = UInt8.ofNat (4096*s.infoReserved.val+s.programInfo.length) := h 11 (by omega)
  have hw : UInt16.ofNat (lengthWord s.sectionSyntaxIndicator s.lengthReserved s.sectionLength)
      &&& 0x0FFF = UInt16.ofNat s.sectionLength := ofNat_and_0FFF _ _ s.sectionLength_lt
  simp only [pmtHeaderAt,header,h₀,h₁,h₂,h₃,h₄,h₅,h₆,h₇,h₈,h₉,h₁₀,h₁₁,word_wordBytes,hw,and_FFFF,
    and_FF,UInt16.ofNat_toNat,lengthWord_indicator _ _ _ s.sectionLength_lt,versionByte_version,
    versionByte_next,ofNat_and_0FFF _ _ s.programInfo_length_lt]

theorem entries_of_holds {buf : Buffer} (s : PmtSection) (h : Holds buf 0 s.encode)
    (arr : Fin tablesMaxNumberOfElementaryPid → PmtElementaryInfo) :
    run buf (parsePmtEntries (UInt16.ofNat s.sectionLength) (UInt16.ofNat s.programInfo.length)
        arr) =
      .ok (decide (s.streams.length ≤ 20),
        Walk.pushAll (fun e => 5+e.esInfoLength.toNat)
          ⟨13+s.programInfo.length,12+s.programInfo.length,arr,0⟩
          ((s.streams.map PmtStream.info).take 20)) := by
  have hinfo : (UInt16.ofNat s.programInfo.length).toNat = s.programInfo.length :=
    UInt16.toNat_ofNat_of_lt' (by have := s.programInfo_length_lt; change _ < 65536; omega)
  have hbuf : Holds buf (12+s.programInfo.length) (s.streams.flatMap PmtStream.encode) := by
    have hb := h.append_right.append_right.append_left
    rwa [Nat.zero_add] at hb
  have hlength : (s.streams.flatMap PmtStream.encode).length =
      (s.streams.map fun e => 5+e.descriptors.length).sum := by
    simp only [List.length_flatMap,PmtStream.encode_length]
  have hlen : (UInt16.ofNat s.sectionLength).toNat =
      13+s.programInfo.length+(s.streams.flatMap PmtStream.encode).length := by
    have := s.sectionLength_lt
    rw [UInt16.toNat_ofNat_of_lt' (by change _ < 65536; omega),hlength,sectionLength]
  have hsize : ∀ e ∈ s.streams, 5+e.info.esInfoLength.toNat = e.encode.length := by
    intro e he
    have := s.descriptors_length_lt he
    rw [PmtStream.encode_length,PmtStream.info,
      UInt16.toNat_ofNat_of_lt' (by change _ < 65536; omega)]
  have hstart : 12+s.programInfo.length+4-3 = 13+s.programInfo.length := by omega
  have hloop : run buf (Walk.loop parsePmtElementaryInfo (fun e => 5+e.esInfoLength.toNat) _ _) = _ :=
    Walk.run_loop_encoded PmtStream.encode PmtStream.info s.streams
      (⟨13+s.programInfo.length,12+s.programInfo.length,arr,0⟩ :
        Walk tablesMaxNumberOfElementaryPid PmtElementaryInfo)
      (fun e he pos hpos => e.info_of_holds (s.descriptors_length_lt he) hpos) hsize
      (by intro e _; rw [PmtStream.encode_length]; omega) (by simp) hbuf hlen
  rw [parsePmtEntries,hinfo,hstart]
  simpa only [Nat.zero_add,Nat.sub_zero] using hloop

/-- Decoding undoes encoding, up to the capacity of the table.  The header is
compared field by field because `pcrPid` is left aside. -/
theorem parsePmtTable_decodes (s : PmtSection) (pmtTable : PmtTable) (buf : Buffer)
    (hbuf : Holds buf 0 s.encode) :
    ∃ code table, run buf (parsePmtTable pmtTable) = .ok (code,table) ∧
      (s.streams.length ≤ 20 → code = tablesParseOk ∧
        { table.pmtHeader with pcrPid := 0 } = { s.header with pcrPid := 0 } ∧
        table.elementaryInfoCount.toNat = s.streams.length ∧
        ∀ (i : Fin 20) (h : i.val < s.streams.length),
          table.pmtElementaryInfoArray i = (s.streams[i.val]).info) ∧
      (20 < s.streams.length → code = tablesParseError ∧
        ∀ (i : Fin 20) (h : i.val < s.streams.length),
          table.pmtElementaryInfoArray i = (s.streams[i.val]).info) := by
  have hheader := s.header_of_holds hbuf.append_left
  have hid : buf 0 = 0x02 := congrArg PmtTableHeader.tableId hheader
  have hloop := s.entries_of_holds hbuf pmtTable.pmtElementaryInfoArray
  have hrun := run_parsePmtTable pmtTable hid (by rw [hheader]; exact hloop)
  have hentries : ∀ (i : Fin 20) (h : i.val < s.streams.length),
      (Walk.pushAll (fun e => 5+e.esInfoLength.toNat)
        (⟨13+s.programInfo.length,12+s.programInfo.length,pmtTable.pmtElementaryInfoArray,0⟩ :
          Walk 20 PmtElementaryInfo)
        ((s.streams.map PmtStream.info).take 20)).entries i = (s.streams[i.val]).info := by
    intro i h
    rw [Walk.pushAll_entries _ _ _ i.val (by simp [h]) i (by simp)]
    simp
  refine ⟨_,_,hrun,?_,?_⟩
  · intro hn
    refine ⟨by simp [hn],by rw [hheader],?_,hentries⟩
    simp only [Walk.pushAll_count,List.length_take,List.length_map,UInt8.toNat_ofNat']
    omega
  · intro hn
    exact ⟨by simp [hn],hentries⟩

def sample : PmtSection where
  sectionSyntaxIndicator := 1
  lengthReserved := 3
  programNumber := 7
  versionReserved := 3
  versionNumber := 9
  currentNextIndicator := 1
  sectionNumber := 0
  lastSectionNumber := 0
  pcrReserved := 7
  pcrPid := 0x100
  infoReserved := 15
  programInfo := [0x09,0x00]
  streams := [⟨0x02,7,0x100,15,[0x52,0x01,0x01]⟩,⟨0x03,7,0x101,15,[]⟩]
  crc := fun _ => 0
  length_le := by decide

theorem sample_decodes_streams :
    ∃ code table, run (fun i => sample.encode.getD i 0) (parsePmtTable .zeroed) = .ok (code,table) ∧
      code = tablesParseOk ∧ table.elementaryInfoCount.toNat = 2 := by
  obtain ⟨code,table,hrun,hok,-⟩ := parsePmtTable_decodes sample .zeroed
    (fun i => sample.encode.getD i 0) (holds_getD _)
  have h := hok (by decide)
  exact ⟨code,table,hrun,h.1,h.2.2.1⟩

end PmtSection
end TvApp

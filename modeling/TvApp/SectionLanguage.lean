import TvApp.SectionFraming

/-! The language of the parsers.
The reference encoder produces sections that are accepted and framed.  Here is the
converse: whatever is accepted with lengths that add up is the encoding of some section
description, which can be read back from the bytes, reserved bits, descriptors and CRC
included. -/
namespace TvApp

open Routine ParseErrorCode

variable {buf : Buffer} {pos : ℕ}

theorem Holds.append {u v : List UInt8} (hu : Holds buf pos u) (hv : Holds buf (pos+u.length) v) :
    Holds buf pos (u++v) := by
  intro i hi
  by_cases h : i < u.length
  · rw [List.getElem_append_left h]
    exact hu i h
  · rw [List.length_append] at hi
    have hb := hv (i-u.length) (by omega)
    rw [List.getElem_append_right (by omega),← hb]
    congr 1
    omega

theorem Holds.singleton {b : UInt8} (h : buf pos = b) : Holds buf pos [b] := by
  intro i hi
  rw [List.length_singleton] at hi
  obtain rfl : i = 0 := by omega
  exact h

theorem holds_wordBytes {n : ℕ} (h : n = (word (buf pos) (buf (pos+1))).toNat) :
    Holds buf pos (wordBytes n) := by
  have hhi := (buf pos).toNat_lt
  have hlo := (buf (pos+1)).toNat_lt
  rw [word_toNat] at h
  have hbytes : wordBytes n = [buf pos] ++ [buf (pos+1)] := by
    have hfirst : UInt8.ofNat (n/256) = buf pos := by
      apply UInt8.toNat_inj.mp
      rw [UInt8.toNat_ofNat']
      omega
    have hsecond : UInt8.ofNat n = buf (pos+1) := by
      apply UInt8.toNat_inj.mp
      rw [UInt8.toNat_ofNat']
      omega
    rw [wordBytes,hfirst,hsecond]
    rfl
  rw [hbytes]
  exact (Holds.singleton rfl).append (.singleton rfl)

theorem holds_ofFn (buf : Buffer) (pos n : ℕ) : Holds buf pos (List.ofFn fun i : Fin n => buf (pos+i)) := by
  intro i hi
  rw [List.getElem_ofFn]

section Chain

variable {ι : Type} {entryAt : ℕ → ι} {encode : ι → List UInt8}

def entryChain (entryAt : ℕ → ι) (encode : ι → List UInt8) : ℕ → ℕ → List ι
  | 0,_ => []
  | n+1,pos => entryAt pos :: entryChain entryAt encode n (pos+(encode (entryAt pos)).length)

theorem entryChain_length (n pos : ℕ) : (entryChain entryAt encode n pos).length = n := by
  induction n generalizing pos with
  | zero => rfl
  | succ n ih => rw [entryChain,List.length_cons,ih]

theorem holds_entryChain (h : ∀ pos, Holds buf pos (encode (entryAt pos))) (n pos : ℕ) :
    Holds buf pos ((entryChain entryAt encode n pos).flatMap encode) := by
  induction n generalizing pos with
  | zero => exact fun i hi => absurd hi (Nat.not_lt_zero i)
  | succ n ih =>
    rw [entryChain,List.flatMap_cons]
    exact (h pos).append (ih _)

theorem entryChain_span {ε : Type} {infoAt : ℕ → ε} {size : ε → ℕ}
    (h : ∀ pos, (encode (entryAt pos)).length = size (infoAt pos)) (n pos : ℕ) :
    ((entryChain entryAt encode n pos).map fun e => (encode e).length).sum =
      Walk.span infoAt size pos n := by
  induction n generalizing pos with
  | zero => rfl
  | succ n ih => rw [entryChain,List.map_cons,List.sum_cons,Walk.span,ih,h]

end Chain

def lowBits (k n : ℕ) : Fin (2^k) := ⟨n%2^k,Nat.mod_lt n (Nat.two_pow_pos k)⟩

def PatEntry.readAt (buf : Buffer) (pos : ℕ) : PatEntry where
  programNumber := word (buf pos) (buf (pos+1))
  reserved := lowBits 3 ((word (buf (pos+2)) (buf (pos+3))).toNat/8192)
  pid := lowBits 13 (word (buf (pos+2)) (buf (pos+3))).toNat

theorem PatEntry.holds_readAt (buf : Buffer) (pos : ℕ) :
    Holds buf pos (PatEntry.readAt buf pos).encode := by
  refine (holds_wordBytes rfl).append (holds_wordBytes ?_)
  have hw := (word (buf (pos+2)) (buf (pos+3))).toNat_lt
  simp only [readAt,lowBits,Nat.reducePow,wordBytes_length,Nat.add_assoc,Nat.reduceAdd]
  omega

def PmtStream.readAt (buf : Buffer) (pos : ℕ) : PmtStream where
  streamType := buf pos
  pidReserved := lowBits 3 ((word (buf (pos+1)) (buf (pos+2))).toNat/8192)
  elementaryPid := lowBits 13 (word (buf (pos+1)) (buf (pos+2))).toNat
  infoReserved := lowBits 4 ((word (buf (pos+3)) (buf (pos+4))).toNat/4096)
  descriptors := List.ofFn fun i : Fin (pmtElementaryInfoAt buf pos).esInfoLength.toNat => buf (pos+5+i)

theorem PmtStream.readAt_descriptors_length (buf : Buffer) (pos : ℕ) :
    (PmtStream.readAt buf pos).descriptors.length = (word (buf (pos+3)) (buf (pos+4))).toNat%4096 := by
  rw [readAt,List.length_ofFn,pmtElementaryInfoAt,and_0FFF_toNat]

theorem PmtStream.holds_readAt (buf : Buffer) (pos : ℕ) :
    Holds buf pos (PmtStream.readAt buf pos).encode := by
  have hpid := (word (buf (pos+1)) (buf (pos+2))).toNat_lt
  have hinfo := (word (buf (pos+3)) (buf (pos+4))).toNat_lt
  refine (Holds.singleton rfl).append ((holds_wordBytes ?_).append ((holds_wordBytes ?_).append ?_))
  · simp only [readAt,lowBits,Nat.reducePow,List.length_singleton,Nat.add_assoc,Nat.reduceAdd]
    omega
  · rw [readAt_descriptors_length]
    simp only [readAt,lowBits,Nat.reducePow,List.length_singleton,wordBytes_length,Nat.add_assoc,Nat.reduceAdd]
    omega
  · exact holds_ofFn buf (pos+5) _

theorem PmtStream.readAt_encode_length (buf : Buffer) (pos : ℕ) :
    (PmtStream.readAt buf pos).encode.length = 5+(pmtElementaryInfoAt buf pos).esInfoLength.toNat := by
  rw [encode_length,readAt,List.length_ofFn]

theorem PmtStream.readAt_chain_length (buf : Buffer) (n : ℕ) :
    ((entryChain (PmtStream.readAt buf) encode n
      (12+(pmtHeaderAt buf).programInfoLength.toNat)).map fun e => e.encode.length).sum =
      pmtSpan buf n := by
  exact @entryChain_span _ (PmtStream.readAt buf) encode _ (pmtElementaryInfoAt buf)
    (fun e => 5+e.esInfoLength.toNat) (readAt_encode_length buf) n _

theorem holds_sectionStart {tableId : UInt8} {n : ℕ} (hid : buf 0 = tableId)
    (hn : (word (buf 1) (buf 2) &&& 0x0FFF).toNat = n) :
    Holds buf 0 ([tableId] ++ wordBytes (lengthWord (lowBits 1 ((word (buf 1) (buf 2)).toNat/32768))
        (lowBits 3 ((word (buf 1) (buf 2)).toNat/4096)) n) ++
      wordBytes (word (buf 3) (buf 4)).toNat ++
      [UInt8.ofNat (versionByte (lowBits 2 ((buf 5).toNat/64)) (lowBits 5 ((buf 5).toNat/2))
        (lowBits 1 (buf 5).toNat)),buf 6,buf 7]) := by
  have hlength := (word (buf 1) (buf 2)).toNat_lt
  have hversion := (buf 5).toNat_lt
  rw [and_0FFF_toNat] at hn
  refine (((Holds.singleton hid).append (holds_wordBytes ?_)).append (holds_wordBytes rfl)).append ?_
  · simp only [lengthWord,lowBits,Nat.reducePow,List.length_singleton,Nat.zero_add,Nat.reduceAdd]
    omega
  · refine (Holds.singleton ?_).append ((Holds.singleton rfl).append (.singleton rfl))
    apply UInt8.toNat_inj.mp
    rw [UInt8.toNat_ofNat']
    simp only [versionByte,lowBits,Nat.reducePow,List.length_append,List.length_singleton,wordBytes_length,
      Nat.zero_add,Nat.reduceAdd]
    omega

/-- The description of a PAT section of `n` entries. -/
def PatSection.read (buf : Buffer) (n : ℕ) (hn : 9+4*n ≤ 4095) : PatSection where
  sectionSyntaxIndicator := lowBits 1 ((word (buf 1) (buf 2)).toNat/32768)
  lengthReserved := lowBits 3 ((word (buf 1) (buf 2)).toNat/4096)
  transportStreamId := word (buf 3) (buf 4)
  versionReserved := lowBits 2 ((buf 5).toNat/64)
  versionNumber := lowBits 5 ((buf 5).toNat/2)
  currentNextIndicator := lowBits 1 (buf 5).toNat
  sectionNumber := buf 6
  lastSectionNumber := buf 7
  entries := entryChain (PatEntry.readAt buf) PatEntry.encode n 8
  crc := fun i => buf (8+4*n+i)
  length_le := by rwa [entryChain_length]

theorem PatSection.holds_read (hid : buf 0 = 0x00) {n : ℕ} (hn : 9+4*n ≤ 4095)
    (hlength : (patHeaderAt buf).sectionLength.toNat = 9+4*n) :
    Holds buf 0 (PatSection.read buf n hn).encode := by
  have hentries : (read buf n hn).entries.length = n := entryChain_length n 8
  have hbytes : ((read buf n hn).entries.flatMap PatEntry.encode).length = 4*n := by
    simp [List.length_flatMap,List.sum_replicate,hentries,Nat.mul_comm]
  refine Holds.append ?_ (Holds.append ?_ ?_)
  · have hsection : (read buf n hn).sectionLength = 9+4*n := by
      rw [sectionLength,hentries]
    rw [headerBytes,hsection]
    exact holds_sectionStart hid hlength
  · exact holds_entryChain (PatEntry.holds_readAt buf) n 8
  · rw [hbytes]
    exact holds_ofFn buf (8+4*n) 4

def PmtSection.read (buf : Buffer) (n : ℕ)
    (hn : 13+(pmtHeaderAt buf).programInfoLength.toNat+pmtSpan buf n ≤ 4095) : PmtSection where
  sectionSyntaxIndicator := lowBits 1 ((word (buf 1) (buf 2)).toNat/32768)
  lengthReserved := lowBits 3 ((word (buf 1) (buf 2)).toNat/4096)
  programNumber := word (buf 3) (buf 4)
  versionReserved := lowBits 2 ((buf 5).toNat/64)
  versionNumber := lowBits 5 ((buf 5).toNat/2)
  currentNextIndicator := lowBits 1 (buf 5).toNat
  sectionNumber := buf 6
  lastSectionNumber := buf 7
  pcrReserved := lowBits 3 ((word (buf 8) (buf 9)).toNat/8192)
  pcrPid := lowBits 13 (word (buf 8) (buf 9)).toNat
  infoReserved := lowBits 4 ((word (buf 10) (buf 11)).toNat/4096)
  programInfo := List.ofFn fun i : Fin (pmtHeaderAt buf).programInfoLength.toNat => buf (12+i)
  streams := entryChain (PmtStream.readAt buf) PmtStream.encode n
    (12+(pmtHeaderAt buf).programInfoLength.toNat)
  crc := fun i => buf (12+(pmtHeaderAt buf).programInfoLength.toNat+pmtSpan buf n+i)
  length_le := by
    simp only [← PmtStream.encode_length]
    rw [List.length_ofFn,PmtStream.readAt_chain_length]
    exact hn

theorem PmtSection.holds_read (hid : buf 0 = 0x02) {n : ℕ}
    (hn : 13+(pmtHeaderAt buf).programInfoLength.toNat+pmtSpan buf n ≤ 4095)
    (hlength : (pmtHeaderAt buf).sectionLength.toNat =
      13+(pmtHeaderAt buf).programInfoLength.toNat+pmtSpan buf n) :
    Holds buf 0 (PmtSection.read buf n hn).encode := by
  have hprogramInfo : (read buf n hn).programInfo.length = (pmtHeaderAt buf).programInfoLength.toNat :=
    List.length_ofFn
  have hspan : ((read buf n hn).streams.map fun e => e.encode.length).sum = pmtSpan buf n :=
    PmtStream.readAt_chain_length buf n
  have hbytes : ((read buf n hn).streams.flatMap PmtStream.encode).length = pmtSpan buf n := by
    rw [List.length_flatMap]
    exact hspan
  have hsection : (read buf n hn).sectionLength =
      13+(pmtHeaderAt buf).programInfoLength.toNat+pmtSpan buf n := by
    simp only [sectionLength,hprogramInfo,← PmtStream.encode_length,hspan]
  have hpcr := (word (buf 8) (buf 9)).toNat_lt
  have hinfo := (word (buf 10) (buf 11)).toNat_lt
  have hfield : (pmtHeaderAt buf).programInfoLength.toNat = (word (buf 10) (buf 11)).toNat%4096 :=
    and_0FFF_toNat _
  refine Holds.append ?_ (Holds.append ?_ (Holds.append ?_ ?_))
  · rw [headerBytes,hsection,hprogramInfo]
    refine ((holds_sectionStart hid hlength).append (holds_wordBytes ?_)).append (holds_wordBytes ?_)
    · simp only [read,lowBits,Nat.reducePow,List.length_append,List.length_cons,List.length_nil,wordBytes_length,
        Nat.zero_add,Nat.reduceAdd]
      omega
    · rw [hfield]
      simp only [read,lowBits,Nat.reducePow,List.length_append,List.length_cons,List.length_nil,wordBytes_length,
        Nat.zero_add,Nat.reduceAdd]
      omega
  · exact holds_ofFn buf 12 _
  · rw [hprogramInfo]
    exact holds_entryChain (PmtStream.holds_readAt buf) n _
  · rw [hprogramInfo,hbytes]
    exact holds_ofFn buf _ 4

theorem PatSection.parsedLength_of_holds (s : PatSection) (h : Holds buf 0 s.encode)
    (hroom : s.entries.length ≤ 20) :
    patParsedLength buf = (patHeaderAt buf).sectionLength.toNat := by
  have hheader := s.header_of_holds h.append_left
  have hwalk := s.entries_of_holds h fun _ => ⟨0,0⟩
  have hfield : (patHeaderAt buf).sectionLength = UInt16.ofNat s.sectionLength := by
    rw [hheader]
    rfl
  rw [← hfield,run_parsePatEntries] at hwalk
  have hend := congrArg (fun r => r.2.parsedLength) (Except.ok.inj hwalk)
  simp only [patWalk_parsedLength,Walk.pushAll_parsedLength] at hend
  have hlt := s.sectionLength_lt
  rw [hend,hfield,UInt16.toNat_ofNat_of_lt' (by change _ < 65536; omega),sectionLength,
    List.take_of_length_le (by simpa using hroom),List.map_const',List.sum_replicate,List.length_map,
    smul_eq_mul,Nat.mul_comm]

theorem PmtSection.parsedLength_of_holds (s : PmtSection) (h : Holds buf 0 s.encode)
    (hroom : s.streams.length ≤ 20) :
    pmtParsedLength buf = (pmtHeaderAt buf).sectionLength.toNat := by
  have hheader := s.header_of_holds h.append_left
  have hwalk := s.entries_of_holds h fun _ => ⟨0,0,0⟩
  have hfield : (pmtHeaderAt buf).sectionLength = UInt16.ofNat s.sectionLength := by
    rw [hheader]
    rfl
  have hinfo : (pmtHeaderAt buf).programInfoLength = UInt16.ofNat s.programInfo.length := by
    rw [hheader]
    rfl
  rw [← hfield,← hinfo,run_parsePmtEntries] at hwalk
  have hend := congrArg (fun r => r.2.parsedLength) (Except.ok.inj hwalk)
  simp only [pmtWalk_parsedLength,Walk.pushAll_parsedLength] at hend
  have hlt := s.sectionLength_lt
  have hsizes : (s.streams.map PmtStream.info).map (fun e => 5+e.esInfoLength.toNat) =
      s.streams.map fun e => 5+e.descriptors.length := by
    rw [List.map_map]
    refine List.map_congr_left fun e he => ?_
    have hd := s.descriptors_length_lt he
    simp only [Function.comp_apply,PmtStream.info]
    rw [UInt16.toNat_ofNat_of_lt' (by change _ < 65536; omega)]
  rw [hend,hfield,UInt16.toNat_ofNat_of_lt' (by change _ < 65536; omega),sectionLength,
    List.take_of_length_le (by simpa using hroom),hsizes]

theorem pmtSpan_of_parsedLength (h : pmtParsedLength buf = (pmtHeaderAt buf).sectionLength.toNat) :
    ∃ n ≤ 20, (pmtHeaderAt buf).sectionLength.toNat =
      13+(pmtHeaderAt buf).programInfoLength.toNat+pmtSpan buf n := by
  have hle := @Walk.visitedLength_le_span _ (fun e => 5+e.esInfoLength.toNat)
    (pmtHeaderAt buf).sectionLength.toNat (pmtElementaryInfoAt buf) 20
    (12+(pmtHeaderAt buf).programInfoLength.toNat+4-3)
    (12+(pmtHeaderAt buf).programInfoLength.toNat)
  rw [pmtParsedLength_eq] at h
  have hexact := (@Walk.exact_iff _ (fun e => 5+e.esInfoLength.toNat)
    (pmtHeaderAt buf).sectionLength.toNat (pmtElementaryInfoAt buf) 20
    (12+(pmtHeaderAt buf).programInfoLength.toNat+4-3)
    (12+(pmtHeaderAt buf).programInfoLength.toNat)).1 fun _ => h
  rcases hexact with hshort | ⟨n,hn,hsum⟩
  · omega
  · refine ⟨n,hn,?_⟩
    rw [← hsum,pmtSpan]
    omega

/-- A PAT section is accepted with all lengths adding up exactly if it is the encoding of a
section description with at most twenty programmes. -/
theorem framed_pat_iff_encoding (buf : Buffer) (prior : PatTable) :
    (∃ table, run buf (parsePatTable prior) = .ok (tablesParseOk,table) ∧ table.Framed buf) ↔
      ∃ s : PatSection, s.entries.length ≤ 20 ∧ Holds buf 0 s.encode := by
  rw [run_parsePatTable_eq]
  constructor
  · rintro ⟨table,hrun,hframed⟩
    have hresult := Except.ok.inj hrun
    have hid : buf 0 = 0x00 := by
      by_contra hid
      rw [patResult,if_neg hid] at hresult
      cases hresult
    have hshows := patResult_shows hid prior
    rw [hresult] at hshows
    have hlength := hshows.framed_iff.1 hframed
    have hcount := patPositions_length_le buf
    rw [patParsedLength] at hlength
    refine ⟨PatSection.read buf (patPositions buf).length (by omega),?_,?_⟩
    · exact (entryChain_length _ _).trans_le hcount
    · exact PatSection.holds_read hid _ hlength.symm
  · rintro ⟨s,hroom,hholds⟩
    have hid : buf 0 = 0x00 := congrArg PatHeader.tableId (s.header_of_holds hholds.append_left)
    have hlength := s.parsedLength_of_holds hholds hroom
    have hcode := patResult_code hid prior
    rw [if_pos hlength.ge] at hcode
    refine ⟨(patResult buf prior).2,?_,(patResult_shows hid prior).framed_iff.2 hlength⟩
    rw [← hcode]

/-- The same for PMT sections with at most twenty streams. -/
theorem framed_pmt_iff_encoding (buf : Buffer) (prior : PmtTable) :
    (∃ table, run buf (parsePmtTable prior) = .ok (tablesParseOk,table) ∧ table.Framed buf) ↔
      ∃ s : PmtSection, s.streams.length ≤ 20 ∧ Holds buf 0 s.encode := by
  rw [run_parsePmtTable_eq]
  constructor
  · rintro ⟨table,hrun,hframed⟩
    have hresult := Except.ok.inj hrun
    have hid : buf 0 = 0x02 := by
      by_contra hid
      rw [pmtResult,if_neg hid] at hresult
      cases hresult
    have hshows := pmtResult_shows hid prior
    rw [hresult] at hshows
    have hlength := hshows.framed_iff.1 hframed
    obtain ⟨n,hn,hsum⟩ := pmtSpan_of_parsedLength hlength
    have hfield : (pmtHeaderAt buf).sectionLength.toNat < 4096 := by
      change (word (buf 1) (buf 2) &&& 0x0FFF).toNat < 4096
      rw [and_0FFF_toNat]
      exact Nat.mod_lt _ (by omega)
    refine ⟨PmtSection.read buf n (by omega),?_,PmtSection.holds_read hid _ hsum⟩
    exact (entryChain_length _ _).trans_le hn
  · rintro ⟨s,hroom,hholds⟩
    have hid : buf 0 = 0x02 := congrArg PmtTableHeader.tableId (s.header_of_holds hholds.append_left)
    have hlength := s.parsedLength_of_holds hholds hroom
    have hcode := pmtResult_code hid prior
    rw [if_pos hlength.ge] at hcode
    refine ⟨(pmtResult buf prior).2,?_,(pmtResult_shows hid prior).framed_iff.2 hlength⟩
    rw [← hcode]

end TvApp

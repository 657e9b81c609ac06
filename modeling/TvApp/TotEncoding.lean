import TvApp.SectionEncoding
import TvApp.TotOutcome

/-! The reference encoder of TOT sections with local time offset descriptors, and the
round trip through the parser.
A single descriptor comes back as it was sent.  Of several, the parser looks for the
headers fifteen bytes apart, which is the size of a descriptor with one entry, and
reads all entries from the first descriptor on. -/
namespace TvApp

open Routine ParseErrorCode

/-- One entry of a local time offset descriptor: the offsets are two decimal digits
each, the time of change and the next offset are carried along unread. -/
structure LtoEntry where
  countryCH1 : UInt8
  countryCH2 : UInt8
  countryCH3 : UInt8
  countryRegionId : Fin 64
  reserved : Fin 2
  polarity : Fin 2
  hoursTens : Fin 10
  hoursUnits : Fin 10
  minutesTens : Fin 10
  minutesUnits : Fin 10
  timeOfChange : Fin 5 → UInt8
  nextOffset : Fin 2 → UInt8

namespace LtoEntry

def encode (e : LtoEntry) : List UInt8 :=
  [e.countryCH1,e.countryCH2,e.countryCH3,
    UInt8.ofNat (4*e.countryRegionId.val+2*e.reserved.val+e.polarity.val),
    UInt8.ofNat (16*e.hoursTens.val+e.hoursUnits.val),
    UInt8.ofNat (16*e.minutesTens.val+e.minutesUnits.val)]++
    (List.ofFn e.timeOfChange++List.ofFn e.nextOffset)

@[simp] theorem encode_length (e : LtoEntry) : e.encode.length = 13 := rfl

def info (e : LtoEntry) : LTODescriptorInfo where
  countryCH1 := e.countryCH1
  countryCH2 := e.countryCH2
  countryCH3 := e.countryCH3
  countryRegionId := UInt8.ofNat e.countryRegionId.val
  localTimeOffsetPolarity := UInt8.ofNat e.polarity.val
  localTimeOffsetHours := UInt8.ofNat (10*e.hoursTens.val+e.hoursUnits.val)
  localTimeOffsetMinutes := UInt8.ofNat (10*e.minutesTens.val+e.minutesUnits.val)

end LtoEntry

theorem bcd_digits : ∀ tens units : Fin 10,
    bcd (UInt8.ofNat (16*tens.val+units.val)) = UInt8.ofNat (10*tens.val+units.val) := by
  decide

theorem regionByte_region (region : Fin 64) (reserved polarity : Fin 2) :
    UInt8.ofNat (4*region.val+2*reserved.val+polarity.val) >>> 2 = UInt8.ofNat region.val := by
  have hs : UInt8.toNat 2 % 8 = 2 := rfl
  apply UInt8.toNat_inj.mp
  rw [UInt8.toNat_shiftRight,Nat.shiftRight_eq_div_pow,hs,UInt8.toNat_ofNat',UInt8.toNat_ofNat']
  omega

theorem regionByte_polarity (region : Fin 64) (reserved polarity : Fin 2) :
    UInt8.ofNat (4*region.val+2*reserved.val+polarity.val) &&& 0x01 = UInt8.ofNat polarity.val := by
  apply UInt8.toNat_inj.mp
  rw [and_01_toNat,UInt8.toNat_ofNat',UInt8.toNat_ofNat']
  omega

theorem LtoEntry.info_of_holds {buf : Buffer} {m : ℕ} (e : LtoEntry)
    (h : Holds buf (12+m*13) e.encode) : ltoInfoAt buf m = e.info := by
  have h₀ : buf (12+m*13) = e.countryCH1 := h 0 (by simp)
  have h₁ : buf (12+m*13+1) = e.countryCH2 := h 1 (by simp)
  have h₂ : buf (12+m*13+2) = e.countryCH3 := h 2 (by simp)
  have h₃ : buf (12+m*13+3) =
      UInt8.ofNat (4*e.countryRegionId.val+2*e.reserved.val+e.polarity.val) := h 3 (by simp)
  have h₄ : buf (12+m*13+4) = UInt8.ofNat (16*e.hoursTens.val+e.hoursUnits.val) := h 4 (by simp)
  have h₅ : buf (12+m*13+5) = UInt8.ofNat (16*e.minutesTens.val+e.minutesUnits.val) :=
    h 5 (by simp)
  simp only [Nat.add_right_comm _ (m*13),Nat.reduceAdd] at h₁ h₂ h₃ h₄ h₅
  simp only [ltoInfoAt,LtoEntry.info,h₀,h₁,h₂,h₃,h₄,h₅,regionByte_region,regionByte_polarity,
    bcd_digits]

structure TotDescriptor where
  tag : UInt8
  body : List UInt8
  length_le : body.length ≤ 255

def TotDescriptor.encode (d : TotDescriptor) : List UInt8 :=
  [d.tag,UInt8.ofNat d.body.length]++d.body

@[simp] theorem TotDescriptor.encode_length (d : TotDescriptor) :
    d.encode.length = 2+d.body.length := by
  rw [encode,List.length_append]
  rfl

/-- A local time offset descriptor; its length is a byte, so there are at most
nineteen entries. -/
structure LtoDescriptor where
  entries : List LtoEntry
  entries_pos : 1 ≤ entries.length
  length_le : 13*entries.length ≤ 255

namespace LtoDescriptor

theorem entriesBytes_length (entries : List LtoEntry) :
    (entries.flatMap LtoEntry.encode).length = 13*entries.length := by
  simp [List.length_flatMap,List.sum_replicate,Nat.mul_comm]

def toDescriptor (d : LtoDescriptor) : TotDescriptor where
  tag := 0x58
  body := d.entries.flatMap LtoEntry.encode
  length_le := by rw [entriesBytes_length]; exact d.length_le

@[simp] theorem body_length (d : LtoDescriptor) :
    d.toDescriptor.body.length = 13*d.entries.length := entriesBytes_length d.entries

end LtoDescriptor

structure TotSection where
  sectionSyntaxIndicator : Fin 2
  lengthReserved : Fin 8
  mjd : UInt16
  time : Fin 3 → UInt8
  loopReserved : Fin 16
  descriptors : List TotDescriptor
  crc : Fin 4 → UInt8
  length_le : 11+(descriptors.map fun d => 2+d.body.length).sum ≤ 4095

namespace TotSection

def loopLength (s : TotSection) : ℕ := (s.descriptors.map fun d => 2+d.body.length).sum

def headerBytes (s : TotSection) : List UInt8 :=
  [0x73]++wordBytes (lengthWord s.sectionSyntaxIndicator s.lengthReserved (11+s.loopLength))++
    wordBytes s.mjd.toNat++List.ofFn s.time++wordBytes (4096*s.loopReserved.val+s.loopLength)

def encode (s : TotSection) : List UInt8 :=
  s.headerBytes++(s.descriptors.flatMap TotDescriptor.encode++List.ofFn s.crc)

variable {buf : Buffer}

theorem headerBytes_length (s : TotSection) : s.headerBytes.length = 10 := rfl

theorem mjd_of_holds (s : TotSection) (h : Holds buf 0 s.encode) : word (buf 3) (buf 4) = s.mjd := by
  have h₃ : buf 3 = UInt8.ofNat (s.mjd.toNat/256) := h.append_left 3 (by rw [headerBytes_length]; omega)
  have h₄ : buf 4 = UInt8.ofNat s.mjd.toNat := h.append_left 4 (by rw [headerBytes_length]; omega)
  rw [h₃,h₄,word_wordBytes,UInt16.ofNat_toNat]

theorem loopLength_of_holds (s : TotSection) (h : Holds buf 0 s.encode) :
    totLoopLength buf = s.loopLength := by
  have hle := s.length_le
  have hlt : s.loopLength < 4096 := by
    rw [loopLength]
    omega
  have h₈ : buf 8 = UInt8.ofNat ((4096*s.loopReserved.val+s.loopLength)/256) :=
    h.append_left 8 (by rw [headerBytes_length]; omega)
  have h₉ : buf 9 = UInt8.ofNat (4096*s.loopReserved.val+s.loopLength) :=
    h.append_left 9 (by rw [headerBytes_length]; omega)
  rw [totLoopLength,h₈,h₉,word_wordBytes,ofNat_and_0FFF _ _ hlt]
  exact UInt16.toNat_ofNat_of_lt' (by change _ < 65536; omega)

theorem descriptors_of_holds (s : TotSection) (h : Holds buf 0 s.encode) :
    Holds buf 10 (s.descriptors.flatMap TotDescriptor.encode) := h.append_right.append_left

end TotSection

structure LocalTimeOffsetDescriptor.Shows (slot : LocalTimeOffsetDescriptor) (d : LtoDescriptor) :
    Prop where
  tag : slot.descriptorTag = 0x58
  length : slot.descriptorLength.toNat = 13*d.entries.length
  count : slot.numberOfInfos.toNat = d.entries.length
  entries : ∀ (m : Fin 20) (h : m.val < d.entries.length), slot.ltoInfo m = (d.entries[m.val]).info

structure TotTable.Shows (totTable : TotTable) (ds : List LtoDescriptor) : Prop where
  count : totTable.descriptorsCount.toNat = ds.length
  slots : ∀ (i : Fin 20) (h : i.val < ds.length), (totTable.descriptors i).Shows ds[i.val]

/-- The bytes at the places where the parser looks for slot `i` are those of `d`. -/
structure LtoDescriptor.At (d : LtoDescriptor) (buf : Buffer) (i : ℕ) : Prop where
  tag : buf (10+15*i) = 0x58
  length : (buf (11+15*i)).toNat = 13*d.entries.length
  entries : ∀ (m : ℕ) (h : m < d.entries.length), ltoInfoAt buf m = (d.entries[m]).info

section

variable {buf : Buffer} {d : LtoDescriptor} {i : ℕ}

theorem LtoDescriptor.At.numberOfInfos (h : d.At buf i) :
    (buf (11+15*i)/13).toNat = d.entries.length := by
  rw [UInt8.toNat_div,h.length]
  exact Nat.mul_div_cancel_left _ (by decide)

theorem LtoDescriptor.At.shows (h : d.At buf i) (stale : LocalTimeOffsetDescriptor) :
    (totDescriptorAt buf i stale).Shows d := by
  rw [totDescriptorAt,if_pos h.tag]
  refine ⟨h.tag,h.length,h.numberOfInfos,?_⟩
  intro m hm
  rw [← h.entries m hm]
  exact if_pos (by rw [h.numberOfInfos]; exact hm)

theorem LtoDescriptor.at_of_shows {stale : LocalTimeOffsetDescriptor}
    (hstale : stale.descriptorTag ≠ 0x58) (h : (totDescriptorAt buf i stale).Shows d) :
    d.At buf i := by
  have htag : buf (10+15*i) = 0x58 := by
    by_contra hne
    rw [totDescriptorAt,if_neg hne] at h
    exact hstale h.tag
  rw [totDescriptorAt,if_pos htag] at h
  refine ⟨htag,h.length,fun m hm => ?_⟩
  have hle := d.length_le
  have hcount : (buf (11+15*i)/13).toNat = d.entries.length := h.count
  rw [← h.entries ⟨m,by omega⟩ hm]
  exact (if_pos (by rw [hcount]; exact hm)).symm

theorem LtoDescriptor.At.length_eq (h : d.At buf i) (prior : TotTable) :
    totDescriptorLength buf prior i = 13*d.entries.length := by
  rw [totDescriptorLength,if_pos h.tag,h.length]

end

section

variable {buf : Buffer} {ds : List LtoDescriptor}

def ltoLength (ds : List LtoDescriptor) : ℕ := (ds.map fun d => 13*d.entries.length+2).sum

theorem ltoLength_append (ds es : List LtoDescriptor) :
    ltoLength (ds++es) = ltoLength ds+ltoLength es := by
  rw [ltoLength,List.map_append,List.sum_append]
  rfl

theorem ltoLength_ge (ds : List LtoDescriptor) : 15*ds.length ≤ ltoLength ds := by
  induction ds with
  | nil => exact le_rfl
  | cons d ds ih =>
    have hpos := d.entries_pos
    rw [ltoLength] at ih ⊢
    rw [List.map_cons,List.sum_cons,List.length_cons]
    omega

theorem totOffset_of_at (prior : TotTable) (h : ∀ (i : ℕ) (hi : i < ds.length), (ds[i]).At buf i)
    {i : ℕ} (hi : i ≤ ds.length) : totOffset buf prior i = ltoLength (ds.take i) := by
  induction i with
  | zero => rfl
  | succ i ih =>
    have hlt : i < ds.length := hi
    rw [totOffset,ih (by omega),(h i hlt).length_eq prior,List.take_succ_eq_append_getElem hlt,
      ltoLength_append]
    rfl

theorem run_parseTotTable_of_at (hcount : ds.length ≤ 20)
    (hlength : totLoopLength buf = ltoLength ds)
    (h : ∀ (i : ℕ) (hi : i < ds.length), (ds[i]).At buf i) (prior : TotTable) :
    run buf (parseTotTable prior) = .ok (tablesParseOk,totAfter buf prior ds.length) ∧
      (totAfter buf prior ds.length).Shows ds := by
  have hoffset : totOffset buf prior ds.length = totLoopLength buf := by
    rw [totOffset_of_at prior h le_rfl,List.take_length,hlength]
  have hends : TotEndsAt buf prior ds.length := by
    refine ⟨hcount,?_,hoffset.le,by omega⟩
    intro m hm
    have hrest := ltoLength_ge (ds.drop m)
    have hsplit := ltoLength_append (ds.take m) (ds.drop m)
    rw [List.take_append_drop] at hsplit
    rw [List.length_drop] at hrest
    rw [totOffset_of_at prior h hm.le,hlength]
    omega
  refine ⟨run_parseTotTable_endsAt hends,totAfter_count buf prior hcount,?_⟩
  intro i hi
  have hslot : (totAfter buf prior ds.length).descriptors i =
      totDescriptorAt buf i (prior.descriptors i) := if_pos hi
  rw [hslot]
  exact (h i hi).shows _

theorem at_of_shows_zeroed {table : TotTable}
    (hrun : run buf (parseTotTable .zeroed) = .ok (tablesParseOk,table)) (h : table.Shows ds)
    (hcount : ds.length ≤ 20) (i : ℕ) (hi : i < ds.length) : (ds[i]).At buf i := by
  obtain ⟨n,hends,rfl⟩ := endsAt_of_run hrun
  have hn : n = ds.length := by
    rw [← totAfter_count buf .zeroed hends.le]
    exact h.count
  have hi20 : i < 20 := by omega
  have hslot : (totAfter buf .zeroed n).descriptors ⟨i,hi20⟩ =
      totDescriptorAt buf i (TotTable.zeroed.descriptors ⟨i,hi20⟩) :=
    if_pos (by change i < n; omega)
  have hshows := h.slots ⟨i,hi20⟩ hi
  rw [hslot] at hshows
  exact LtoDescriptor.at_of_shows (show (0 : UInt8) ≠ 0x58 by decide) hshows

end

theorem holds_entry {buf : Buffer} (entries : List LtoEntry) {pos : ℕ}
    (h : Holds buf pos (entries.flatMap LtoEntry.encode)) {m : ℕ} (hm : m < entries.length) :
    Holds buf (pos+m*13) (entries[m]).encode := by
  induction entries generalizing pos m with
  | nil => exact absurd hm (Nat.not_lt_zero m)
  | cons e entries ih =>
    rw [List.flatMap_cons] at h
    cases m with
    | zero => simpa using h.append_left
    | succ m =>
      have hrest := ih h.append_right (Nat.lt_of_succ_lt_succ hm)
      rw [LtoEntry.encode_length] at hrest
      rw [List.getElem_cons_succ,Nat.succ_mul,Nat.add_comm (m*13),← Nat.add_assoc]
      exact hrest

theorem LtoDescriptor.at_of_holds {buf : Buffer} (d : LtoDescriptor)
    (h : Holds buf 10 d.toDescriptor.encode) : d.At buf 0 := by
  have hle := d.length_le
  have h₀ : buf 10 = 0x58 := h.append_left 0 (by simp)
  have h₁ : buf 11 = UInt8.ofNat d.toDescriptor.body.length := h.append_left 1 (by simp)
  refine ⟨h₀,?_,fun m hm => ?_⟩
  · change (buf 11).toNat = _
    rw [h₁,d.body_length]
    exact UInt8.toNat_ofNat_of_lt' (by change _ < 256; omega)
  · exact LtoEntry.info_of_holds _ (holds_entry d.entries h.append_right hm)

namespace TotSection

theorem loopLength_eq_ltoLength {s : TotSection} {ds : List LtoDescriptor}
    (hs : s.descriptors = ds.map LtoDescriptor.toDescriptor) : s.loopLength = ltoLength ds := by
  rw [loopLength,ltoLength,hs,List.map_map]
  refine congrArg List.sum (List.map_congr_left fun d _ => ?_)
  change 2+d.toDescriptor.body.length = _
  rw [d.body_length,Nat.add_comm]

/-- A section with one local time offset descriptor is decoded exactly. -/
theorem parseTotTable_decodes (s : TotSection) (d : LtoDescriptor)
    (hs : s.descriptors = [d.toDescriptor]) (prior : TotTable) (buf : Buffer)
    (hbuf : Holds buf 0 s.encode) :
    ∃ table, run buf (parseTotTable prior) = .ok (tablesParseOk,table) ∧ table.MJD = s.mjd ∧
      table.descriptorsCount = 1 ∧ (table.descriptors 0).descriptorTag = 0x58 ∧
      (table.descriptors 0).descriptorLength.toNat = 13*d.entries.length ∧
      (table.descriptors 0).numberOfInfos.toNat = d.entries.length ∧
      ∀ (m : Fin 20) (h : m.val < d.entries.length),
        (table.descriptors 0).ltoInfo m = (d.entries[m.val]).info := by
  have hdescriptor : Holds buf 10 d.toDescriptor.encode := by
    have h := s.descriptors_of_holds hbuf
    rw [hs] at h
    exact h.append_left
  have hat : ∀ (i : ℕ) (hi : i < [d].length), ([d][i]).At buf i := by
    intro i hi
    obtain rfl : i = 0 := by simpa using hi
    exact d.at_of_holds hdescriptor
  have hlength : totLoopLength buf = ltoLength [d] := by
    rw [s.loopLength_of_holds hbuf]
    exact loopLength_eq_ltoLength (show s.descriptors = [d].map LtoDescriptor.toDescriptor from hs)
  obtain ⟨hrun,hshows⟩ := run_parseTotTable_of_at (by simp) hlength hat prior
  have hslot := hshows.slots 0 (by simp)
  exact ⟨_,hrun,s.mjd_of_holds hbuf,rfl,hslot.tag,hslot.length,hslot.count,hslot.entries⟩

def bcdDigit (n : ℕ) : Fin 10 := ⟨n%10,Nat.mod_lt n (by decide)⟩

def sampleEntry (countryCH1 countryCH2 countryCH3 : UInt8) : LtoEntry where
  countryCH1 := countryCH1
  countryCH2 := countryCH2
  countryCH3 := countryCH3
  countryRegionId := 0
  reserved := Fin.last 1
  polarity := ⟨0,Nat.two_pos⟩
  hoursTens := bcdDigit 0
  hoursUnits := bcdDigit 1
  minutesTens := bcdDigit 0
  minutesUnits := bcdDigit 0
  timeOfChange := fun _ => 0xC0
  nextOffset := fun _ => 0x02

def twoEntries : LtoDescriptor :=
  ⟨[sampleEntry 0x53 0x52 0x42,sampleEntry 0x48 0x52 0x56],by decide,by decide⟩

def oneEntry (countryCH1 countryCH2 countryCH3 : UInt8) : LtoDescriptor :=
  ⟨[sampleEntry countryCH1 countryCH2 countryCH3],by simp,by simp⟩

def sample : TotSection where
  sectionSyntaxIndicator := ⟨0,Nat.two_pos⟩
  lengthReserved := Fin.last 7
  mjd := 0xC079
  time := fun _ => 0x12
  loopReserved := Fin.last 15
  descriptors := [twoEntries.toDescriptor]
  crc := fun _ => 0xFF
  length_le := by decide

def buffer (s : TotSection) : Buffer := fun i => s.encode.getD i 0

theorem sample_entries_decoded :
    ∃ table, run sample.buffer (parseTotTable .zeroed) = .ok (tablesParseOk,table) ∧
      (table.descriptors 0).ltoInfo 1 = (sampleEntry 0x48 0x52 0x56).info := by
  obtain ⟨table,hrun,-,-,-,-,-,hentries⟩ := sample.parseTotTable_decodes twoEntries rfl .zeroed
    sample.buffer (holds_getD _)
  exact ⟨table,hrun,hentries 1 (by decide)⟩

/-- Several descriptors are decoded, each from its own bytes, exactly if their headers
are found fifteen bytes apart and their entries are the ones read from the first
descriptor on. -/
theorem several_decoded_iff (s : TotSection) (ds : List LtoDescriptor) (hds : ds.length ≤ 20)
    (hs : s.descriptors = ds.map LtoDescriptor.toDescriptor) (buf : Buffer)
    (hbuf : Holds buf 0 s.encode) :
    (∀ prior, ∃ table, run buf (parseTotTable prior) = .ok (tablesParseOk,table) ∧ table.Shows ds) ↔
      ∀ (i : ℕ) (hi : i < ds.length), (ds[i]).At buf i := by
  constructor
  · intro h i hi
    obtain ⟨table,hrun,hshows⟩ := h .zeroed
    exact at_of_shows_zeroed hrun hshows hds i hi
  · intro hat prior
    have hlength : totLoopLength buf = ltoLength ds := by
      rw [s.loopLength_of_holds hbuf,loopLength_eq_ltoLength hs]
    obtain ⟨hrun,hshows⟩ := run_parseTotTable_of_at hds hlength hat prior
    exact ⟨_,hrun,hshows⟩

def sameCountry : TotSection :=
  { sample with
    descriptors := [oneEntry 0x53 0x52 0x42,oneEntry 0x53 0x52 0x42].map LtoDescriptor.toDescriptor
    length_le := by decide }

def twoCountries : TotSection :=
  { sample with
    descriptors := [oneEntry 0x53 0x52 0x42,oneEntry 0x48 0x52 0x56].map LtoDescriptor.toDescriptor
    length_le := by decide }

theorem sameCountry_decoded :
    ∃ table, run sameCountry.buffer (parseTotTable .zeroed) = .ok (tablesParseOk,table) ∧
      table.Shows [oneEntry 0x53 0x52 0x42,oneEntry 0x53 0x52 0x42] := by
  refine (several_decoded_iff sameCountry [oneEntry 0x53 0x52 0x42,oneEntry 0x53 0x52 0x42]
    (by decide) rfl sameCountry.buffer (holds_getD _)).mpr ?_ .zeroed
  intro i hi
  have hi : i < 2 := hi
  interval_cases i
  · change (oneEntry 0x53 0x52 0x42).At sameCountry.buffer 0
    exact ⟨by decide +kernel,by decide +kernel,by decide +kernel⟩
  · change (oneEntry 0x53 0x52 0x42).At sameCountry.buffer 1
    exact ⟨by decide +kernel,by decide +kernel,by decide +kernel⟩

/-- The second descriptor comes back with the country of the first. -/
theorem second_country_lost :
    ∃ table, run twoCountries.buffer (parseTotTable .zeroed) = .ok (tablesParseOk,table) ∧
      (table.descriptors 1).ltoInfo 0 = (sampleEntry 0x53 0x52 0x42).info ∧
      ¬ table.Shows [oneEntry 0x53 0x52 0x42,oneEntry 0x48 0x52 0x56] := by
  have hends : TotEndsAt twoCountries.buffer .zeroed 2 :=
    ⟨by decide,by decide +kernel,by decide +kernel,by decide +kernel⟩
  have hslot : ((totAfter twoCountries.buffer .zeroed 2).descriptors 1).ltoInfo 0 =
      (sampleEntry 0x53 0x52 0x42).info := by decide +kernel
  refine ⟨_,run_parseTotTable_endsAt hends,hslot,?_⟩
  intro hshows
  have hsecond := (hshows.slots 1 (by decide)).entries 0 (by decide)
  rw [hslot] at hsecond
  exact absurd hsecond (by decide)

def oneCountry : TotSection :=
  { sample with descriptors := [(oneEntry 0x53 0x52 0x42).toDescriptor], length_le := by decide }

def privateDescriptor : TotSection :=
  { sample with descriptors := [⟨0x80,List.replicate 13 0,by decide⟩], length_le := by decide }

end TotSection

end TvApp

import TvApp.TableWalk
import TvApp.Word
import TvApp.Tables

/-! The section parsers of `tables_parser.c`.
Every `*(buffer + n)` of the source is one `byte` and every array element one
`slot`.  A table behind an out pointer is passed in and returned, whole, on the
error paths as well.  Buffer and table are never `NULL` here, so the `NULL` tests
are the only branches left out; without them the two entry parsers always
succeed. -/
namespace TvApp

open Routine ParseErrorCode

/-- Two bytes from `n` on, put together in `all16Bits`. -/
def word16 (n : ℕ) : Routine UInt16 := do
  let higher8Bits ← byte n
  let lower8Bits ← byte (n+1)
  return word higher8Bits lower8Bits

/-- A wrong `table_id` is stored before it is rejected. -/
def parsePatHeader (patHeader : PatHeader) : Routine (ParseErrorCode × PatHeader) := do
  let tableId ← byte 0
  if tableId ≠ 0x00 then
    return (tablesParseError,{ patHeader with tableId := tableId })
  else do
    let syntaxByte ← byte 1
    let length16 ← word16 1
    let stream16 ← word16 3
    let versionByte ← byte 5
    let currentNextByte ← byte 5
    let sectionNumber ← byte 6
    let lastSectionNumber ← byte 7
    return (tablesParseOk,
      { tableId := tableId
        sectionSyntaxIndicator := syntaxByte >>> 7 &&& 0x01
        sectionLength := length16 &&& 0x0FFF
        transportStreamId := stream16 &&& 0xFFFF
        versionNumber := versionByte >>> 1 &&& 0x1F
        currentNextIndicator := currentNextByte &&& 0x01
        sectionNumber := sectionNumber &&& 0xFF
        lastSectionNumber := lastSectionNumber &&& 0xFF })

def parsePatServiceInfo (position : ℕ) : Routine PatServiceInfo := do
  let program16 ← word16 position
  let pid16 ← word16 (position+2)
  return { programNumber := program16 &&& 0xFFFF, pid := pid16 &&& 0x1FFF }

/-- The entry loop of the PAT.  `parsedLength` is a `uint32_t` that starts at 9
and grows by four for each of at most twenty entries, so it is kept as a number. -/
def parsePatEntries (sectionLength : UInt16)
    (patServiceInfoArray : Fin tablesMaxNumberOfPidsInPat → PatServiceInfo) :
    Routine (Bool × Walk tablesMaxNumberOfPidsInPat PatServiceInfo) :=
  Walk.loop parsePatServiceInfo (fun _ => 4) sectionLength.toNat
    { parsedLength := 12-3
      position := 8
      entries := patServiceInfoArray
      count := 0 }

def parsePatTable (patTable : PatTable) : Routine (ParseErrorCode × PatTable) := do
  let header ← parsePatHeader patTable.patHeader
  if header.1 ≠ tablesParseOk then
    return (tablesParseError,{ patTable with patHeader := header.2 })
  else do
    let walk ← parsePatEntries header.2.sectionLength patTable.patServiceInfoArray
    return (if walk.1 then tablesParseOk else tablesParseError,
      { patHeader := header.2
        patServiceInfoArray := walk.2.entries
        serviceInfoCount := UInt8.ofNat walk.2.count })

def parsePmtHeader (pmtHeader : PmtTableHeader) : Routine (ParseErrorCode × PmtTableHeader) := do
  let tableId ← byte 0
  if tableId ≠ 0x02 then
    return (tablesParseError,{ pmtHeader with tableId := tableId })
  else do
    let syntaxByte ← byte 1
    let length16 ← word16 1
    let program16 ← word16 3
    let versionByte ← byte 5
    let currentNextByte ← byte 5
    let sectionNumber ← byte 6
    let lastSectionNumber ← byte 7
    let pcr16 ← word16 8
    let info16 ← word16 10
    return (tablesParseOk,
      { tableId := tableId
        sectionSyntaxIndicator := syntaxByte >>> 7 &&& 0x01
        sectionLength := length16 &&& 0x0FFF
        programNumber := program16 &&& 0xFFFF
        versionNumber := versionByte >>> 1 &&& 0x1F
        currentNextIndicator := currentNextByte &&& 0x01
        sectionNumber := sectionNumber &&& 0xFF
        lastSectionNumber := lastSectionNumber &&& 0xFF
        pcrPid := pcr16 &&& 0xFFFF
        programInfoLength := info16 &&& 0x0FFF })

def parsePmtElementaryInfo (position : ℕ) : Routine PmtElementaryInfo := do
  let streamType ← byte position
  let pid16 ← word16 (position+1)
  let info16 ← word16 (position+3)
  pure
    { streamType := streamType
      elementaryPid := pid16 &&& 0x1FFF
      esInfoLength := info16 &&& 0x0FFF }

/-- The entry loop of the PMT.  Both accumulators jump over the descriptor block
of the entry just stored, whatever length it claims. -/
def parsePmtEntries (sectionLength programInfoLength : UInt16)
    (pmtElementaryInfoArray : Fin tablesMaxNumberOfElementaryPid → PmtElementaryInfo) :
    Routine (Bool × Walk tablesMaxNumberOfElementaryPid PmtElementaryInfo) :=
  Walk.loop parsePmtElementaryInfo (fun e => 5+e.esInfoLength.toNat) sectionLength.toNat
    { parsedLength := 12+programInfoLength.toNat+4-3
      position := 12+programInfoLength.toNat
      entries := pmtElementaryInfoArray
      count := 0 }

def parsePmtTable (pmtTable : PmtTable) : Routine (ParseErrorCode × PmtTable) := do
  let header ← parsePmtHeader pmtTable.pmtHeader
  if header.1 ≠ tablesParseOk then
    return (tablesParseError,{ pmtTable with pmtHeader := header.2 })
  else do
    let walk ← parsePmtEntries header.2.sectionLength header.2.programInfoLength
      pmtTable.pmtElementaryInfoArray
    return (if walk.1 then tablesParseOk else tablesParseError,
      { pmtHeader := header.2
        pmtElementaryInfoArray := walk.2.entries
        elementaryInfoCount := UInt8.ofNat walk.2.count })

/-- The conversion `(int)` of a decimal value: truncation toward zero. -/
def truncate (q : ℚ) : ℤ := q.num.tdiv q.den

/-- Decimal constants are read as exact rationals.  `day` is computed in
`uint64_t`; narrowing to sixteen bits makes that the same as integer arithmetic. -/
def parseTdtTable (tdtTable : TdtTable) : Routine (ParseErrorCode × TdtTable) := do
  let tableId ← byte 0
  let length16 ← word16 1
  let mjd16 ← word16 3
  let mjd : ℚ := (mjd16.toNat : ℚ)
  let yearPrime := UInt16.ofInt (truncate ((mjd-15078.2)/365.25))
  let monthPrime := UInt16.ofInt
    (truncate ((mjd-14956.1-truncate (yearPrime.toNat*365.25))/30.6001))
  let K : UInt8 := if monthPrime = 14 ∨ monthPrime = 15 then 1 else 0
  let tmpYear := yearPrime+K.toUInt16
  let tmpMonth := monthPrime-1-K.toUInt16*12
  return (tablesParseOk,
    { tableId := tableId
      sectionSyntaxIndicator := tdtTable.sectionSyntaxIndicator
      sectionLength := length16 &&& 0x0FFF
      MJD := mjd16.toUInt64
      tmpYear := tmpYear
      Year := tmpYear+1900
      tmpMonth := tmpMonth
      day := UInt16.ofInt ((mjd16.toNat : ℤ)-14987-truncate (tmpYear.toNat*365.25)
        -truncate (tmpMonth.toNat*30.6001))
      K := K })

def bcd (b : UInt8) : UInt8 := (b &&& (0x0F : UInt8))+(10 : UInt8)*((b &&& (0xF0 : UInt8)) >>> (4 : UInt8))

/-- One local time offset entry; its place depends on `i` only. -/
def parseLtoInfo (i : ℕ) : Routine LTODescriptorInfo := do
  let countryCH1 ← byte (12+i*13)
  let countryCH2 ← byte (13+i*13)
  let countryCH3 ← byte (14+i*13)
  let region ← byte (15+i*13)
  let higher8Bits ← byte (16+i*13)
  let lower8Bits ← byte (17+i*13)
  pure
    { countryCH1 := countryCH1
      countryCH2 := countryCH2
      countryCH3 := countryCH3
      countryRegionId := region >>> 2
      localTimeOffsetPolarity := region &&& 0x01
      localTimeOffsetHours := bcd higher8Bits
      localTimeOffsetMinutes := bcd lower8Bits }

def parseLtoInfos (left i : ℕ)
    (ltoInfo : Fin tablesMaxNumberOfLtoDescriptors → LTODescriptorInfo) :
    Routine (Fin tablesMaxNumberOfLtoDescriptors → LTODescriptorInfo) :=
  match left with
  | 0 => pure ltoInfo
  | left+1 => do
    let k ← slot tablesMaxNumberOfLtoDescriptors i
    let info ← parseLtoInfo i
    parseLtoInfos left (i+1) (Function.update ltoInfo k.1 info)

/-- A tag other than 0x58 leaves the slot as an earlier section filled it. -/
def parseTotDescriptor (currentDesc : UInt8) (currentTag : UInt8)
    (descriptor : LocalTimeOffsetDescriptor) : Routine LocalTimeOffsetDescriptor :=
  if currentTag = 0x58 then do
    let descriptorLength ← byte (11+15*currentDesc.toNat)
    let lengthByte ← byte (11+15*currentDesc.toNat)
    let numberOfInfos := lengthByte/13
    let ltoInfo ← parseLtoInfos numberOfInfos.toNat 0 descriptor.ltoInfo
    pure
      { descriptorTag := currentTag
        descriptorLength := descriptorLength
        ltoInfo := ltoInfo
        numberOfInfos := numberOfInfos }
  else pure descriptor

/-- The `while` loop over the descriptors.  There is no capacity test: what ends
it besides the remaining length is a subscript outside `descriptors`. -/
def parseTotDescriptors (descriptorLoopLength : UInt16) (totTable : TotTable) : Routine TotTable :=
  if 4 < descriptorLoopLength then do
    let currentTag ← byte (10+15*totTable.descriptorsCount.toNat)
    let k ← slot tablesMaxNumberOfTotDescriptors totTable.descriptorsCount.toNat
    let descriptor ← parseTotDescriptor totTable.descriptorsCount currentTag
      (totTable.descriptors k.1)
    parseTotDescriptors (descriptorLoopLength-(descriptor.descriptorLength.toUInt16+2))
      { totTable with
        descriptors := Function.update totTable.descriptors k.1 descriptor
        descriptorsCount := totTable.descriptorsCount+1 }
  else pure totTable
termination_by 20-totTable.descriptorsCount.toNat
decreasing_by
  have hlt : k.1.val < 20 := k.1.isLt
  have := k.2
  rw [toNat_succ _ (by omega)]
  omega

def parseTotTable (totTable : TotTable) : Routine (ParseErrorCode × TotTable) := do
  let tableId ← byte 0
  let length16 ← word16 1
  let mjd16 ← word16 3
  let loop16 ← word16 8
  let totTable ← parseTotDescriptors (loop16 &&& 0x0FFF)
    { totTable with
      tableId := tableId
      sectionLength := length16 &&& 0x0FFF
      MJD := mjd16
      descriptorsLoopLength := loop16 &&& 0x0FFF
      descriptorsCount := 0 }
  return (tablesParseOk,totTable)

def printLtoInfos (left j : ℕ) : Routine Unit :=
  match left with
  | 0 => pure ()
  | left+1 => do
    let _ ← slot tablesMaxNumberOfLtoDescriptors j
    printLtoInfos left (j+1)

/-- `printTotTable`, with the printed text left out. -/
def printTotTable (totTable : TotTable) (left i : ℕ) : Routine Unit :=
  match left with
  | 0 => pure ()
  | left+1 => do
    let k ← slot tablesMaxNumberOfTotDescriptors i
    printLtoInfos (totTable.descriptors k.1).numberOfInfos.toNat 0
    printTotTable totTable left (i+1)

end TvApp

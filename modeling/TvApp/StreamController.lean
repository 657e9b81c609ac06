import TvApp.TablesParser

/-! The static data of `stream_controller.c` and the functions that run to their
end without touching the player: the section callback, the pid scan and the
channel keys. -/
namespace TvApp

open Routine ParseErrorCode

structure ChannelInfo where
  programNumber : Int16
  audioPid : Int16
  videoPid : Int16
  deriving DecidableEq

structure CurrentDate where
  Year : UInt16
  tmpMonth : UInt8
  day : UInt8
  deriving DecidableEq

structure SectionTables where
  patTable : PatTable
  pmtTable : PmtTable
  tdtTable : TdtTable
  totTable : TotTable

def SectionTables.zeroed : SectionTables := ⟨.zeroed,.zeroed,.zeroed,.zeroed⟩

/-- `sectionReceivedCallback`.  The flag of the result says whether `demuxCond` was
signalled, which happens for every accepted section, of any of the four tables. -/
def sectionReceivedCallback (tables : SectionTables) : Routine (Bool × SectionTables) := do
  let tableId ← byte 0
  if tableId = 0x00 then do
    let r ← parsePatTable tables.patTable
    return (decide (r.1 = tablesParseOk),{ tables with patTable := r.2 })
  else if tableId = 0x02 then do
    let r ← parsePmtTable tables.pmtTable
    return (decide (r.1 = tablesParseOk),{ tables with pmtTable := r.2 })
  else if tableId = 0x70 then do
    let r ← parseTdtTable tables.tdtTable
    return (decide (r.1 = tablesParseOk),{ tables with tdtTable := r.2 })
  else if tableId = 0x73 then do
    let r ← parseTotTable tables.totTable
    printTotTable r.2 r.2.descriptorsCount.toNat 0
    return (decide (r.1 = tablesParseOk),{ tables with totTable := r.2 })
  else return (false,tables)

/-- The tables after a sequence of sections; a fault in one of them ends it. -/
def sectionsReceived (tables : SectionTables) : List Buffer → Except Fault SectionTables
  | [] => .ok tables
  | buffer :: buffers => do
    let r ← run buffer (sectionReceivedCallback tables)
    sectionsReceived r.2 buffers

def isVideo (streamType : UInt8) : Bool :=
  streamType == 0x1 || streamType == 0x2 || streamType == 0x1b

def isAudio (streamType : UInt8) : Bool := streamType == 0x3 || streamType == 0x4

/-- The `for` loop of `startChannel` that looks for the pids, with `left` entries
still to come; it returns the audio and the video pid. -/
def scanPids (pmtTable : PmtTable) (left i : ℕ) (audioPid videoPid : Int16) :
    Routine (Int16 × Int16) :=
  match left with
  | 0 => pure (audioPid,videoPid)
  | left+1 => do
    let k ← slot tablesMaxNumberOfElementaryPid i
    let info := pmtTable.pmtElementaryInfoArray k.1
    if isVideo info.streamType ∧ videoPid = -1 then
      scanPids pmtTable left (i+1) audioPid info.elementaryPid.toInt16
    else if isAudio info.streamType ∧ audioPid = -1 then
      scanPids pmtTable left (i+1) info.elementaryPid.toInt16 videoPid
    else scanPids pmtTable left (i+1) audioPid videoPid

/-- The whole scan; it reads no section byte, so any buffer will do. -/
def channelPids (pmtTable : PmtTable) : Routine (Int16 × Int16) :=
  scanPids pmtTable pmtTable.elementaryInfoCount.toNat 0 (-1) (-1)

/-- `channelUp`, as the change of `programNumber`.  The comparison is made in `int`. -/
def channelUp (serviceInfoCount : UInt8) (programNumber : Int16) : Int16 :=
  if programNumber.toInt ≥ (serviceInfoCount.toNat : ℤ)-2 then 0
  else Int16.ofInt (programNumber.toInt+1)

def channelDown (serviceInfoCount : UInt8) (programNumber : Int16) : Int16 :=
  if programNumber.toInt ≤ 0 then Int16.ofInt ((serviceInfoCount.toNat : ℤ)-2)
  else Int16.ofInt (programNumber.toInt-1)

/-- The range test of `changeChannelKey`; `startChannel` is called when it holds. -/
def changeChannelKeyAccepts (serviceInfoCount : UInt8) (channelNumber : Int32) : Bool :=
  decide (channelNumber.toInt > -1 ∧ channelNumber.toInt < (serviceInfoCount.toNat : ℤ))

/-- The PAT slot that `startChannel` reads. -/
def tunedSlot (channelNumber : Int32) : ℤ := channelNumber.toInt+1

/-- What `loadInitialInfo` leaves in the global `programNumber`: the `uint32_t`
of the configuration, narrowed to `int16_t`. -/
def configuredProgramNumber (configured : UInt32) : Int16 := configured.toUInt16.toInt16

end TvApp

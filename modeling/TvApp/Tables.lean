import Mathlib.Tactic

/-! The table structures of `tables.h`.  Fields have the width of the C type.
Arrays have a fixed number of elements, of which the count field says how many
are in use; nothing in the structure itself ties the two together. -/
namespace TvApp

/-- Max number of PMT pids in one PAT table. -/
abbrev tablesMaxNumberOfPidsInPat : ℕ := 20
/-- Max number of elementary pids in one PMT table. -/
abbrev tablesMaxNumberOfElementaryPid : ℕ := 20
/-- Max number of elementary info in local time offset descriptor. -/
abbrev tablesMaxNumberOfLtoDescriptors : ℕ := 20
/-- Max number of descriptors in tot table. -/
abbrev tablesMaxNumberOfTotDescriptors : ℕ := 20

inductive ParseErrorCode
  | tablesParseError | tablesParseOk
  deriving DecidableEq, Repr

structure PatHeader where
  tableId : UInt8
  sectionSyntaxIndicator : UInt8
  sectionLength : UInt16
  transportStreamId : UInt16
  versionNumber : UInt8
  currentNextIndicator : UInt8
  sectionNumber : UInt8
  lastSectionNumber : UInt8
  deriving DecidableEq

structure PatServiceInfo where
  programNumber : UInt16
  pid : UInt16
  deriving DecidableEq

structure PatTable where
  patHeader : PatHeader
  patServiceInfoArray : Fin tablesMaxNumberOfPidsInPat → PatServiceInfo
  serviceInfoCount : UInt8
  deriving DecidableEq

structure PmtTableHeader where
  tableId : UInt8
  sectionSyntaxIndicator : UInt8
  sectionLength : UInt16
  programNumber : UInt16
  versionNumber : UInt8
  currentNextIndicator : UInt8
  sectionNumber : UInt8
  lastSectionNumber : UInt8
  pcrPid : UInt16
  programInfoLength : UInt16
  deriving DecidableEq

structure PmtElementaryInfo where
  streamType : UInt8
  elementaryPid : UInt16
  esInfoLength : UInt16
  deriving DecidableEq

structure PmtTable where
  pmtHeader : PmtTableHeader
  pmtElementaryInfoArray : Fin tablesMaxNumberOfElementaryPid → PmtElementaryInfo
  elementaryInfoCount : UInt8
  deriving DecidableEq

structure TdtTable where
  tableId : UInt8
  sectionSyntaxIndicator : UInt8
  sectionLength : UInt16
  MJD : UInt64
  tmpYear : UInt16
  Year : UInt16
  tmpMonth : UInt16
  day : UInt16
  K : UInt8
  deriving DecidableEq

structure LTODescriptorInfo where
  countryCH1 : UInt8
  countryCH2 : UInt8
  countryCH3 : UInt8
  countryRegionId : UInt8
  localTimeOffsetPolarity : UInt8
  localTimeOffsetHours : UInt8
  localTimeOffsetMinutes : UInt8
  deriving DecidableEq

structure LocalTimeOffsetDescriptor where
  descriptorTag : UInt8
  descriptorLength : UInt8
  ltoInfo : Fin tablesMaxNumberOfLtoDescriptors → LTODescriptorInfo
  numberOfInfos : UInt8
  deriving DecidableEq

structure TotTable where
  tableId : UInt8
  sectionSyntaxIndicator : UInt8
  sectionLength : UInt16
  MJD : UInt16
  descriptorsLoopLength : UInt16
  descriptors : Fin tablesMaxNumberOfTotDescriptors → LocalTimeOffsetDescriptor
  descriptorsCount : UInt8
  deriving DecidableEq

def PatTable.zeroed : PatTable := ⟨⟨0,0,0,0,0,0,0,0⟩,fun _ => ⟨0,0⟩,0⟩
def PmtTable.zeroed : PmtTable := ⟨⟨0,0,0,0,0,0,0,0,0,0⟩,fun _ => ⟨0,0,0⟩,0⟩
def TdtTable.zeroed : TdtTable := ⟨0,0,0,0,0,0,0,0,0⟩
def TotTable.zeroed : TotTable := ⟨0,0,0,0,0,fun _ => ⟨0,0,fun _ => ⟨0,0,0,0,0,0,0⟩,0⟩,0⟩

end TvApp

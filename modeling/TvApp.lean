import TvApp.Routine
import TvApp.Word
import TvApp.TableWalk
import TvApp.HandleOwner
import TvApp.CyclicWalk
import TvApp.StepSystem
import TvApp.Ledger
import TvApp.GregorianCalendar
import TvApp.Observation
import TvApp.Tables
import TvApp.TablesParser
import TvApp.ParserSpec
import TvApp.SectionEncoding
import TvApp.StreamController
import TvApp.ParserOutcome
import TvApp.ParserAgreement
import TvApp.SectionFraming
import TvApp.TotSafety
import TvApp.TotOutcome
import TvApp.TotEncoding
import TvApp.TotHistory
import TvApp.TdtDate
import TvApp.PidSelection
import TvApp.ChannelWalk
import TvApp.StartChannel
import TvApp.ReferenceDevice
import TvApp.StreamOwnership
import TvApp.ChannelStreams
import TvApp.CallEffects
import TvApp.RelativeKeys
import TvApp.WorkerLoop
import TvApp.Dialling
import TvApp.ProgrammeReach
import TvApp.DialRange
import TvApp.Lifecycle
import TvApp.ConcurrentCalls
import TvApp.TunedCall
import TvApp.RacingReads
import TvApp.PmtOrigin
import TvApp.WatchedStreams
import TvApp.Session
import TvApp.Serialisation
import TvApp.PatLifetime
import TvApp.Broadcast
import TvApp.DateOrigin
import TvApp.Progress
import TvApp.SectionLanguage
import TvApp.InfoText
import TvApp.Graphics
import TvApp.VolumeKeys
import TvApp.OverlayRuns
import TvApp.ProgramEnd
import TvApp.CString
import TvApp.WhiteSpaces
import TvApp.ConfigFile
import TvApp.KeysToPlayer

import TvApp.StreamController

/-! `startChannel` and `parseTimeTables`, one program point for every statement
that touches shared data or the device.
The device library is outside the program: its calls are parameters, and what
the program relies on is the predicate `Lawful`.  `pthread_cond_wait` has no
timeout and so never returns `ETIMEDOUT`; a wait ends with the table contents
that the callbacks have left in the meantime. -/
namespace TvApp

open Routine

inductive StreamKind
  | videoTypeMpeg2 | audioTypeMpegAudio
  deriving DecidableEq, Repr

instance : Fintype StreamKind where
  elems := {.videoTypeMpeg2,.audioTypeMpegAudio}
  complete := fun kind => by cases kind <;> simp

/-- Handles are opaque numbers; zero is the value of an unused variable. -/
structure PlayerStream where
  handle : ℕ
  pid : Int16
  kind : StreamKind
  deriving DecidableEq

structure SectionFilter where
  handle : ℕ
  pid : UInt16
  tableId : UInt8
  deriving DecidableEq

/-- The calls of the device library, on a device state `D`, together with what is
alive in it.  A create or set call returns `none` when it fails. -/
structure TdpApi (D : Type) where
  playerStreamCreate : D → Int16 → StreamKind → Option ℕ × D
  playerStreamRemove : D → ℕ → D
  demuxSetFilter : D → UInt16 → UInt8 → Option ℕ × D
  demuxFreeFilter : D → ℕ → D
  peClearScreen : D → D
  streams : D → Set PlayerStream
  filters : D → Set SectionFilter

/-- Creating a stream succeeds with a fresh nonzero handle, setting a filter may
fail, removing and freeing end what has the handle and nothing else. -/
structure TdpApi.Lawful {D : Type} (api : TdpApi D) : Prop where
  create : ∀ d pid kind, ∃ h, (api.playerStreamCreate d pid kind).1 = some h ∧ h ≠ 0 ∧
    (∀ st ∈ api.streams d, st.handle ≠ h) ∧
    api.streams (api.playerStreamCreate d pid kind).2 = insert ⟨h,pid,kind⟩ (api.streams d)
  create_filters : ∀ d pid kind, api.filters (api.playerStreamCreate d pid kind).2 = api.filters d
  remove : ∀ d h, api.streams (api.playerStreamRemove d h) = {st ∈ api.streams d | st.handle ≠ h}
  remove_filters : ∀ d h, api.filters (api.playerStreamRemove d h) = api.filters d
  set : ∀ d pid tableId h, (api.demuxSetFilter d pid tableId).1 = some h → h ≠ 0 ∧
    (∀ fl ∈ api.filters d, fl.handle ≠ h) ∧
    api.filters (api.demuxSetFilter d pid tableId).2 = insert ⟨h,pid,tableId⟩ (api.filters d)
  set_failed : ∀ d pid tableId, (api.demuxSetFilter d pid tableId).1 = none →
    api.filters (api.demuxSetFilter d pid tableId).2 = api.filters d
  set_streams : ∀ d pid tableId, api.streams (api.demuxSetFilter d pid tableId).2 = api.streams d
  free : ∀ d h, api.filters (api.demuxFreeFilter d h) = {fl ∈ api.filters d | fl.handle ≠ h}
  free_streams : ∀ d h, api.streams (api.demuxFreeFilter d h) = api.streams d
  clear_streams : ∀ d, api.streams (api.peClearScreen d) = api.streams d
  clear_filters : ∀ d, api.filters (api.peClearScreen d) = api.filters d

/-- The static variables of the stream controller that channel changes use. -/
structure Controller (D : Type) where
  device : D
  tables : SectionTables
  streamHandleA : ℕ
  streamHandleV : ℕ
  filterHandle : ℕ
  changeChannel : Bool
  programNumber : Int16
  currentChannel : ChannelInfo
  timeTablesRecieved : Bool
  currentDate : CurrentDate

/-- The next statement to execute.  The first two belong to `streamControllerTask`,
`ready` is the end of its set-up; `returned` and `filterFailed` are the two ways out
of `startChannel`. -/
inductive Label
  | setPatFilter | waitPat | ready
  | freeFilter | setPmtFilter | waitPmt | scan
  | testVideo | testHandleV | removeVideo | zeroVideo | createVideo
  | dropVideo | zeroDroppedVideo | clearScreen
  | testAudio | testHandleA | removeAudio | zeroAudio | createAudio
  | storeChannel | testTimeTables
  | freeForTdt | setTdtFilter | waitTdt | freeForTot | setTotFilter | waitTot
  | storeDate | setTimeTablesRecieved
  | returned | filterFailed
  /-- An array subscript out of range: undefined. -/
  | fault
  /-- A stream could not be created.  The call of `streamControllerDeinit`, after which the
  source goes on with `startChannel`, is left out; it is not made if the player never refuses. -/
  | deinit
  deriving DecidableEq, Repr

structure Frame where
  label : Label
  channelNumber : Int32
  audioPid : Int16
  videoPid : Int16

structure Config (D : Type) where
  controller : Controller D
  frame : Frame

/-- Contents of the tables when a wait ends.  The PAT is taken from the first wait
only: its filter is freed by the first statement of the first call. -/
structure Arrival where
  patTable : PatTable
  pmtTable : PmtTable
  tdtTable : TdtTable
  totTable : TotTable

namespace Config

variable {D : Type}

def goto (c : Config D) (l : Label) : Config D :=
  { c with frame := { c.frame with label := l } }

def withDevice (c : Config D) (d : D) : Config D :=
  { c with controller := { c.controller with device := d } }

def withStreamHandleV (c : Config D) (h : ℕ) : Config D :=
  { c with controller := { c.controller with streamHandleV := h } }

def withStreamHandleA (c : Config D) (h : ℕ) : Config D :=
  { c with controller := { c.controller with streamHandleA := h } }

def withFilterHandle (c : Config D) (h : ℕ) : Config D :=
  { c with controller := { c.controller with filterHandle := h } }

def wake (c : Config D) (a : Arrival) : Config D :=
  { c with controller := { c.controller with tables :=
    { c.controller.tables with pmtTable := a.pmtTable, tdtTable := a.tdtTable, totTable := a.totTable } } }

def withPatTable (c : Config D) (t : PatTable) : Config D :=
  { c with controller := { c.controller with tables := { c.controller.tables with patTable := t } } }

def freeFilter (api : TdpApi D) (c : Config D) : Config D :=
  c.withDevice (api.demuxFreeFilter c.controller.device c.controller.filterHandle)

/-- `Demux_Set_Filter(playerHandle, pid, tableId, &filterHandle)` and its two ways on. -/
def setFilter (api : TdpApi D) (c : Config D) (pid : UInt16) (tableId : UInt8)
    (ok failed : Label) : Config D :=
  let r := api.demuxSetFilter c.controller.device pid tableId
  match r.1 with
  | some h => ((c.withDevice r.2).withFilterHandle h).goto ok
  | none => (c.withDevice r.2).goto failed

theorem setFilter_some {api : TdpApi D} {c : Config D} {pid : UInt16} {tableId : UInt8} {h : ℕ}
    (hr : (api.demuxSetFilter c.controller.device pid tableId).1 = some h) (ok failed : Label) :
    c.setFilter api pid tableId ok failed =
      ((c.withDevice (api.demuxSetFilter c.controller.device pid tableId).2).withFilterHandle h).goto
        ok := by
  simp only [setFilter,hr]

theorem setFilter_none {api : TdpApi D} {c : Config D} {pid : UInt16} {tableId : UInt8}
    (hr : (api.demuxSetFilter c.controller.device pid tableId).1 = none) (ok failed : Label) :
    c.setFilter api pid tableId ok failed =
      (c.withDevice (api.demuxSetFilter c.controller.device pid tableId).2).goto failed := by
  simp only [setFilter,hr]

end Config

variable {D : Type}

def step (api : TdpApi D) (c : Config D) (a : Arrival) : Config D :=
  let s := c.controller
  match c.frame.label with
  | .setPatFilter => c.setFilter api 0x00 0x00 .waitPat .waitPat
  | .waitPat => ((c.wake a).withPatTable a.patTable).goto .ready
  | .freeFilter => (c.freeFilter api).goto .setPmtFilter
  | .setPmtFilter =>
    match run (fun _ => 0) (slot tablesMaxNumberOfPidsInPat (tunedSlot c.frame.channelNumber)) with
    | .ok k => c.setFilter api (s.tables.patTable.patServiceInfoArray k.1).pid 0x02
        .waitPmt .filterFailed
    | .error _ => c.goto .fault
  | .waitPmt => (c.wake a).goto .scan
  | .scan =>
    match run (fun _ => 0) (channelPids s.tables.pmtTable) with
    | .ok pids =>
      { c with frame := { c.frame with label := .testVideo, audioPid := pids.1, videoPid := pids.2 } }
    | .error _ => c.goto .fault
  | .testVideo => c.goto (if c.frame.videoPid ≠ -1 then .testHandleV else .dropVideo)
  | .testHandleV => c.goto (if s.streamHandleV ≠ 0 then .removeVideo else .createVideo)
  | .removeVideo =>
    (c.withDevice (api.playerStreamRemove s.device s.streamHandleV)).goto .zeroVideo
  | .zeroVideo => (c.withStreamHandleV 0).goto .createVideo
  | .createVideo =>
    let r := api.playerStreamCreate s.device c.frame.videoPid .videoTypeMpeg2
    match r.1 with
    | some h => ((c.withDevice r.2).withStreamHandleV h).goto .testAudio
    | none => (c.withDevice r.2).goto .deinit
  | .dropVideo =>
    (c.withDevice (api.playerStreamRemove s.device s.streamHandleV)).goto .zeroDroppedVideo
  | .zeroDroppedVideo => (c.withStreamHandleV 0).goto .clearScreen
  | .clearScreen => (c.withDevice (api.peClearScreen s.device)).goto .testAudio
  -- there is no counterpart of `dropVideo`: without an audio pid the old stream stays
  | .testAudio => c.goto (if c.frame.audioPid ≠ -1 then .testHandleA else .storeChannel)
  | .testHandleA => c.goto (if s.streamHandleA ≠ 0 then .removeAudio else .createAudio)
  | .removeAudio =>
    (c.withDevice (api.playerStreamRemove s.device s.streamHandleA)).goto .zeroAudio
  | .zeroAudio => (c.withStreamHandleA 0).goto .createAudio
  | .createAudio =>
    let r := api.playerStreamCreate s.device c.frame.audioPid .audioTypeMpegAudio
    match r.1 with
    | some h => ((c.withDevice r.2).withStreamHandleA h).goto .storeChannel
    | none => (c.withDevice r.2).goto .deinit
  | .storeChannel =>
    { controller := { s with currentChannel :=
        { programNumber := Int16.ofInt (c.frame.channelNumber.toInt+1)
          audioPid := c.frame.audioPid
          videoPid := c.frame.videoPid } }
      frame := { c.frame with label := .testTimeTables } }
  | .testTimeTables => c.goto (if s.timeTablesRecieved = false then .freeForTdt else .returned)
  | .freeForTdt => (c.freeFilter api).goto .setTdtFilter
  | .setTdtFilter => c.setFilter api 0x0014 0x70 .waitTdt .returned
  | .waitTdt => (c.wake a).goto .freeForTot
  | .freeForTot => (c.freeFilter api).goto .setTotFilter
  | .setTotFilter => c.setFilter api 0x0014 0x73 .waitTot .returned
  | .waitTot => (c.wake a).goto .storeDate
  | .storeDate =>
    { controller := { s with currentDate :=
        { Year := s.tables.tdtTable.Year
          tmpMonth := s.tables.tdtTable.tmpMonth.toUInt8
          day := s.tables.tdtTable.day.toUInt8 } }
      frame := { c.frame with label := .setTimeTablesRecieved } }
  | .setTimeTablesRecieved =>
    { controller := { s with timeTablesRecieved := true }
      frame := { c.frame with label := .returned } }
  | .ready => c
  | .returned => c
  | .filterFailed => c
  | .fault => c
  | .deinit => c

def Label.idle : Label → Bool
  | .ready | .returned | .filterFailed => true
  | _ => false

/-- `startChannel(channelNumber)` up to its first statement. -/
def startChannel (s : Controller D) (channelNumber : Int32) : Config D :=
  ⟨s,⟨.freeFilter,channelNumber,-1,-1⟩⟩

/-- A single-threaded run: statements, and calls of `startChannel` when none is active. -/
inductive Action
  | advance (a : Arrival)
  | call (channelNumber : Int32)

def act (api : TdpApi D) (c : Config D) : Action → Config D
  | .advance a => step api c a
  | .call n => if c.frame.label.idle then startChannel c.controller n else c

def runActions (api : TdpApi D) (c : Config D) (actions : List Action) : Config D :=
  actions.foldl (act api) c

theorem runActions_append (api : TdpApi D) (c : Config D) (xs ys : List Action) :
    runActions api c (xs++ys) = runActions api (runActions api c xs) ys :=
  List.foldl_append

end TvApp

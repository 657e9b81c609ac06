import TvApp.StepSystem
import TvApp.StreamController

/-! Start-up and shut-down of `tv_app.c`: main, the input task, the stream task and
the key timer, interleaved.
Each thread is a program counter; the pointers it sets or uses are state of their
own, and using one too early or too late is a fault that ends the run.  The end of
main ends the process.  `streamControllerDeinit` is called by main only: the calls
in `startChannel` are for failures of the device, which are left out. -/
namespace TvApp

/-- The next statement of `main`; the join inside `remoteControllerDeinit` and the
join and the `free` calls inside `streamControllerDeinit` are steps of their own. -/
inductive MainPc
  | timerCreate | loadInitialInfo | remoteControllerInit | registerRemoteControllerCallback
  | registerDateCallback | registerVolumeCallback | streamControllerInit
  | graphicsControllerInit | wait | graphicsControllerDeinit
  | unregisterRemoteControllerCallback | remoteControllerDeinit | joinRemote
  | streamControllerDeinit | joinStream | freeTables | timerDelete | returned
  deriving DecidableEq, Repr

inductive KeyCode
  | info | pPlus | pMinus | vPlus | vMinus | mute | exit | digit (d : Fin 10) | other
  deriving DecidableEq, Repr

/-- Where `inputEventTask` is: at its loop test, in `read`, before the call of
`callback`, or inside it. -/
inductive InputPc
  | absent | testing | reading | calling (key : KeyCode) | handling (key : KeyCode) | done
  deriving DecidableEq, Repr

/-- Where `streamControllerTask` is; at its end it is kept whether it got its tables. -/
inductive StreamPc
  | absent | starting | settingUp | looping | ended (allocated : Bool)
  deriving DecidableEq, Repr

inductive TableState
  | unallocated | allocated
  /-- Set-up failed and the stream task has freed its tables again. -/
  | freedByTask
  | freedByDeinit
  deriving DecidableEq, Repr

inductive LifecycleFault
  | callbackIsNull | volumeReportCallbackIsNull | patTableNotAllocated | patTableFreed
  deriving DecidableEq, Repr

structure Lifecycle where
  main : MainPc
  exitSignalled : Bool
  callback : Bool
  volumeReportCallback : Bool
  inputTask : InputPc
  inputThreadExit : Bool
  streamTask : StreamPc
  streamThreadExit : Bool
  isInitialized : Bool
  patTable : TableState
  serviceInfoCount : UInt8
  programNumber : Int16
  timerArmed : Bool
  /-- Expiries whose `changeChannel` has not run yet. -/
  notificationsPending : ℕ
  /-- Calls of `changeChannelKey` that are about to enter `startChannel`. -/
  notificationsStarting : ℕ
  fault : Option LifecycleFault
  deriving DecidableEq

inductive LifecycleEvent
  | main
  /-- One of main's calls returns an error, and main returns. -/
  | mainFails
  | inputTest
  | inputRead (key : KeyCode)
  /-- An event that is not a key press, such as the release of a key. -/
  | inputFiltered
  | inputCall
  | inputHandle
  | inputFails
  | streamAllocates
  | streamSetUp
  | streamFails (freed : Bool)
  | streamExits
  | patReceived (serviceInfoCount : UInt8)
  | timerExpires
  | notifyCompare (channelNumber : Int32)
  | notifyStart
  deriving DecidableEq

def MainPc.fallible : MainPc → Bool
  | .loadInitialInfo | .remoteControllerInit | .streamControllerInit => true
  | .graphicsControllerInit | .graphicsControllerDeinit | .joinRemote | .joinStream => true
  | _ => false

namespace Lifecycle

/-- Before the first statement, with the `program_number` of `config.ini`. -/
def initial (configured : UInt32) : Lifecycle :=
  { main := .timerCreate, exitSignalled := false, callback := false,
    volumeReportCallback := false, inputTask := .absent, inputThreadExit := false,
    streamTask := .absent, streamThreadExit := false, isInitialized := false,
    patTable := .unallocated, serviceInfoCount := 0,
    programNumber := configuredProgramNumber configured, timerArmed := false,
    notificationsPending := 0, notificationsStarting := 0, fault := none }

def mainStep (s : Lifecycle) : Option Lifecycle :=
  match s.main with
  | .timerCreate => some { s with main := .loadInitialInfo }
  | .loadInitialInfo => some { s with main := .remoteControllerInit }
  | .remoteControllerInit =>
    some { s with main := .registerRemoteControllerCallback, inputTask := .testing }
  | .registerRemoteControllerCallback =>
    some { s with main := .registerDateCallback, callback := true }
  | .registerDateCallback => some { s with main := .registerVolumeCallback }
  | .registerVolumeCallback =>
    some { s with main := .streamControllerInit, volumeReportCallback := true }
  | .streamControllerInit => some { s with main := .graphicsControllerInit, streamTask := .starting }
  | .graphicsControllerInit => some { s with main := .wait }
  | .wait => if s.exitSignalled then some { s with main := .graphicsControllerDeinit } else none
  | .graphicsControllerDeinit => some { s with main := .unregisterRemoteControllerCallback }
  | .unregisterRemoteControllerCallback =>
    some { s with main := .remoteControllerDeinit, callback := false }
  | .remoteControllerDeinit => some { s with main := .joinRemote, inputThreadExit := true }
  | .joinRemote => if s.inputTask = .done then some { s with main := .streamControllerDeinit } else none
  | .streamControllerDeinit =>
    if s.isInitialized then some { s with main := .joinStream, streamThreadExit := true }
    else some { s with main := .returned }
  | .joinStream =>
    match s.streamTask with
    | .ended _ => some { s with main := .freeTables }
    | _ => none
  | .freeTables =>
    some { s with main := .timerDelete, patTable := .freedByDeinit, isInitialized := false }
  | .timerDelete => some { s with main := .returned, timerArmed := false }
  | .returned => none

/-- A read through `patTable`, and what the reader does next. -/
def readPatTable (s next : Lifecycle) : Lifecycle :=
  match s.patTable with
  | .unallocated => { s with fault := some .patTableNotAllocated }
  | .freedByDeinit => { s with fault := some .patTableFreed }
  | .allocated | .freedByTask => next

/-- `remoteControllerCallback`, as far as it touches the life cycle.  `channelDown`
looks at the PAT only to wrap around. -/
def remoteControllerCallback (s : Lifecycle) : KeyCode → Lifecycle
  | .pPlus =>
    s.readPatTable { s with programNumber := channelUp s.serviceInfoCount s.programNumber }
  | .pMinus =>
    if s.programNumber.toInt ≤ 0 then
      s.readPatTable { s with programNumber := channelDown s.serviceInfoCount s.programNumber }
    else { s with programNumber := channelDown s.serviceInfoCount s.programNumber }
  | .vPlus | .vMinus =>
    if s.volumeReportCallback then s else { s with fault := some .volumeReportCallbackIsNull }
  | .exit => if s.main = .wait then { s with exitSignalled := true } else s
  | .digit _ => { s with timerArmed := true }
  | .info | .mute | .other => s

/-- `changeChannelKey(channelNumber)` up to the entry of `startChannel`. -/
def changeChannelKey (s : Lifecycle) (channelNumber : Int32) : Lifecycle :=
  if channelNumber.toInt > -1 then
    s.readPatTable
      (if changeChannelKeyAccepts s.serviceInfoCount channelNumber then
        { s with notificationsStarting := s.notificationsStarting+1 }
      else s)
  else s

def threadStep (s : Lifecycle) : LifecycleEvent → Option Lifecycle
  | .main => s.mainStep
  | .mainFails => if s.main.fallible then some { s with main := .returned } else none
  | .inputTest =>
    match s.inputTask with
    | .testing => some { s with inputTask := if s.inputThreadExit then .done else .reading }
    | _ => none
  | .inputRead key =>
    match s.inputTask with
    | .reading => some { s with inputTask := .calling key }
    | _ => none
  | .inputFiltered =>
    match s.inputTask with
    | .reading => some { s with inputTask := .testing }
    | _ => none
  | .inputCall =>
    match s.inputTask with
    | .calling key =>
      if s.callback then some { s with inputTask := .handling key }
      else some { s with fault := some .callbackIsNull }
    | _ => none
  | .inputHandle =>
    match s.inputTask with
    | .handling key => some ({ s with inputTask := .testing }.remoteControllerCallback key)
    | _ => none
  | .inputFails =>
    match s.inputTask with
    | .testing | .reading => some { s with inputTask := .done }
    | _ => none
  | .streamAllocates =>
    match s.streamTask with
    | .starting => some { s with streamTask := .settingUp, patTable := .allocated }
    | _ => none
  | .streamSetUp =>
    match s.streamTask with
    | .settingUp => some { s with streamTask := .looping, isInitialized := true }
    | _ => none
  | .streamFails freed =>
    match s.streamTask with
    | .starting => some { s with streamTask := .ended false }
    | .settingUp =>
      some { s with
        streamTask := .ended true
        patTable := if freed then .freedByTask else s.patTable }
    | _ => none
  | .streamExits =>
    match s.streamTask with
    | .looping => if s.streamThreadExit then some { s with streamTask := .ended true } else none
    | _ => none
  | .patReceived count =>
    if s.patTable = .allocated then some { s with serviceInfoCount := count } else none
  | .timerExpires =>
    if s.timerArmed then
      some { s with timerArmed := false, notificationsPending := s.notificationsPending+1 }
    else none
  | .notifyCompare channelNumber =>
    if 0 < s.notificationsPending then
      some ({ s with notificationsPending := s.notificationsPending-1 }.changeChannelKey
        channelNumber)
    else none
  | .notifyStart =>
    if 0 < s.notificationsStarting then
      some (s.readPatTable { s with notificationsStarting := s.notificationsStarting-1 })
    else none

/-- Nothing runs after a fault or after the end of main. -/
def step (s : Lifecycle) (e : LifecycleEvent) : Option Lifecycle :=
  if s.fault = none ∧ s.main ≠ .returned then s.threadStep e else none

end Lifecycle

def MainPc.callbackRegistered : MainPc → Bool
  | .registerDateCallback | .registerVolumeCallback | .streamControllerInit => true
  | .graphicsControllerInit | .wait | .graphicsControllerDeinit => true
  | .unregisterRemoteControllerCallback => true
  | _ => false

def MainPc.volumeRegistered : MainPc → Bool
  | .timerCreate | .loadInitialInfo | .remoteControllerInit => false
  | .registerRemoteControllerCallback | .registerDateCallback | .registerVolumeCallback => false
  | _ => true

def MainPc.streamCreated : MainPc → Bool
  | .streamControllerInit => false
  | pc => pc.volumeRegistered

def MainPc.remoteJoined : MainPc → Bool
  | .streamControllerDeinit | .joinStream | .freeTables | .timerDelete => true
  | _ => false

/-- `streamControllerDeinit` is past its guard. -/
def MainPc.deinitPassed : MainPc → Bool
  | .joinStream => true
  | _ => false

def MainPc.streamJoined : MainPc → Bool
  | .freeTables | .timerDelete => true
  | _ => false

/-- `streamControllerDeinit` is done and the timer still exists. -/
def MainPc.tablesFreed : MainPc → Bool
  | .timerDelete => true
  | _ => false

def StreamPc.allocated : StreamPc → Bool
  | .settingUp | .looping | .ended true => true
  | _ => false

namespace Lifecycle

/-- When the program has what the handler of a key uses: by the places of main and of the
stream task, never by the pointer itself. -/
def KeyInWindow (s : Lifecycle) : KeyCode → Prop
  | .pPlus => s.streamTask.allocated
  | .pMinus => s.programNumber.toInt ≤ 0 → s.streamTask.allocated
  | .vPlus | .vMinus => s.main.volumeRegistered
  | _ => True

def HandlesInWindow (s : Lifecycle) : InputPc → Prop
  | .handling key => s.KeyInWindow key
  | _ => True

def InWindow (s : Lifecycle) : LifecycleEvent → Prop
  | .inputCall => s.main.callbackRegistered
  | .inputHandle => s.HandlesInWindow s.inputTask
  | .notifyCompare channelNumber =>
    channelNumber.toInt > -1 → s.streamTask.allocated ∧ ¬ s.main.tablesFreed
  | .notifyStart => ¬ s.main.tablesFreed
  | _ => True

/-- What the order of main's statements gives as long as main runs. -/
structure Ordered (s : Lifecycle) : Prop where
  callback : s.callback = s.main.callbackRegistered
  volumeReportCallback : s.volumeReportCallback = s.main.volumeRegistered
  streamCreated : s.main.streamCreated = false → s.streamTask = .absent
  unallocated : s.patTable = .unallocated ↔ s.streamTask.allocated = false
  freed : s.patTable = .freedByDeinit ↔ s.main.tablesFreed
  initialized : s.isInitialized → s.streamTask.allocated
  deinitPassed : s.main.deinitPassed → s.isInitialized
  streamJoined : s.main.streamJoined → s.streamTask = .ended true
  remoteJoined : s.main.remoteJoined → s.inputTask = .done
  starting : 0 < s.notificationsStarting → s.streamTask.allocated

theorem initial_ordered (configured : UInt32) : (initial configured).Ordered where
  callback := rfl
  volumeReportCallback := rfl
  streamCreated := fun _ => rfl
  unallocated := iff_of_true rfl rfl
  freed := by constructor <;> rintro ⟨⟩
  initialized := by rintro ⟨⟩
  deinitPassed := by rintro ⟨⟩
  streamJoined := by rintro ⟨⟩
  remoteJoined := by rintro ⟨⟩
  starting := by rintro ⟨⟩

theorem Ordered.place {s : Lifecycle} (hs : s.Ordered) {pc : MainPc} (hpc : s.main = pc) :
    { s with main := pc }.Ordered := by
  subst hpc
  exact hs

theorem mainStep_ordered {s s' : Lifecycle} (hs : s.Ordered) (h : s.mainStep = some s')
    (hrun : s'.main ≠ .returned) : s'.Ordered := by
  unfold mainStep at h
  cases hpc : s.main <;> rw [hpc] at h <;>
    simp only [Option.some.injEq,Option.ite_none_right_eq_some,reduceCtorEq] at h <;>
    have hplace := hs.place hpc
  case timerCreate | loadInitialInfo | registerDateCallback | graphicsControllerInit
    | graphicsControllerDeinit | remoteControllerDeinit =>
    subst h
    exact { hplace with }
  case wait =>
    obtain ⟨-,rfl⟩ := h
    exact { hplace with }
  case remoteControllerInit =>
    subst h
    exact { hplace with remoteJoined := by rintro ⟨⟩ }
  case registerRemoteControllerCallback | unregisterRemoteControllerCallback =>
    subst h
    exact { hplace with callback := rfl }
  case registerVolumeCallback =>
    subst h
    exact { hplace with volumeReportCallback := rfl }
  case streamControllerInit =>
    subst h
    have habsent : s.streamTask = .absent := hplace.streamCreated rfl
    obtain ⟨-,-,-,hunallocated,-,hinit,-,-,-,hstarting⟩ := hs
    rw [habsent] at hunallocated hinit hstarting
    exact { hplace with
      streamCreated := by rintro ⟨⟩
      unallocated := hunallocated
      initialized := hinit
      streamJoined := by rintro ⟨⟩
      starting := hstarting }
  case joinRemote =>
    obtain ⟨hdone,rfl⟩ := h
    exact { hplace with remoteJoined := fun _ => hdone }
  case streamControllerDeinit =>
    split at h
    case isTrue hinitialized =>
      cases h
      exact { hplace with deinitPassed := fun _ => hinitialized }
    case isFalse =>
      cases h
      exact absurd rfl hrun
  case joinStream =>
    split at h
    case h_1 allocated hended =>
      cases h
      -- `isInitialized` was set after the allocation, so the task ended with its tables
      have hallocated := hs.initialized (hplace.deinitPassed rfl)
      rw [hended] at hallocated
      have hended' : s.streamTask = .ended true := by
        cases allocated with
        | false => cases hallocated
        | true => exact hended
      exact { hplace with
        deinitPassed := by rintro ⟨⟩
        streamJoined := fun _ => hended' }
    case h_2 => cases h
  case freeTables =>
    subst h
    have hended : s.streamTask = .ended true := hplace.streamJoined rfl
    refine { hplace with
      unallocated := ?_
      freed := iff_of_true rfl rfl
      initialized := by rintro ⟨⟩
      deinitPassed := by rintro ⟨⟩ }
    rw [hended]
    constructor <;> rintro ⟨⟩
  case timerDelete =>
    subst h
    exact absurd rfl hrun

theorem Ordered.withInput {s : Lifecycle} (hs : s.Ordered) (pc : InputPc) (hlive : s.inputTask ≠ .done) :
    { s with inputTask := pc }.Ordered :=
  { hs with remoteJoined := fun h => absurd (hs.remoteJoined h) hlive }

theorem Ordered.withFault {s : Lifecycle} (hs : s.Ordered) (fault : Option LifecycleFault) :
    { s with fault := fault }.Ordered :=
  { hs with }

theorem Ordered.readPatTable {s next : Lifecycle} (hs : s.Ordered) (hnext : next.Ordered) :
    (s.readPatTable next).Ordered := by
  unfold Lifecycle.readPatTable
  split
  · exact hs.withFault _
  · exact hs.withFault _
  · exact hnext
  · exact hnext

theorem Ordered.remoteControllerCallback {s : Lifecycle} (hs : s.Ordered) (key : KeyCode) :
    (s.remoteControllerCallback key).Ordered := by
  cases key with
  | pPlus => exact hs.readPatTable { hs with }
  | pMinus =>
    simp only [Lifecycle.remoteControllerCallback]
    split
    · exact hs.readPatTable { hs with }
    · exact { hs with }
  | vPlus | vMinus =>
    simp only [Lifecycle.remoteControllerCallback]
    split
    · exact hs
    · exact hs.withFault _
  | exit =>
    simp only [Lifecycle.remoteControllerCallback]
    split
    · exact { hs with }
    · exact hs
  | digit d => exact { hs with }
  | info | mute | other => exact hs

theorem MainPc.streamJoined_of_tablesFreed {pc : MainPc} (h : pc.tablesFreed) : pc.streamJoined := by
  cases pc <;> first | rfl | cases h

theorem MainPc.remoteJoined_of_tablesFreed {pc : MainPc} (h : pc.tablesFreed) : pc.remoteJoined := by
  cases pc <;> first | rfl | cases h

theorem Ordered.tables_of_running {s : Lifecycle} (hs : s.Ordered) (hlive : s.streamTask ≠ .ended true) :
    s.main.tablesFreed = false := by
  by_contra hfreed
  exact hlive (hs.streamJoined (MainPc.streamJoined_of_tablesFreed (eq_true_of_ne_false hfreed)))

theorem Ordered.withStream {s : Lifecycle} (hs : s.Ordered) {pc : StreamPc} {table : TableState}
    {isInitialized : Bool} (hcreated : s.streamTask ≠ .absent) (hlive : s.streamTask ≠ .ended true)
    (htable : table = .unallocated ↔ pc.allocated = false) (hfreed : table ≠ .freedByDeinit)
    (hkeeps : s.streamTask.allocated → pc.allocated) (hinit : isInitialized → pc.allocated)
    (hdeinit : s.isInitialized → isInitialized) :
    { s with streamTask := pc,patTable := table,isInitialized := isInitialized }.Ordered :=
  { hs with
    streamCreated := fun h => absurd (hs.streamCreated h) hcreated
    unallocated := htable
    freed := iff_of_false hfreed (by simp [hs.tables_of_running hlive])
    initialized := hinit
    deinitPassed := fun h => hdeinit (hs.deinitPassed h)
    streamJoined := fun h => absurd (hs.streamJoined h) hlive
    starting := fun h => hkeeps (hs.starting h) }

theorem Ordered.table_kept {s : Lifecycle} (hs : s.Ordered) (hlive : s.streamTask ≠ .ended true) :
    s.patTable ≠ .freedByDeinit := by
  intro h
  have hfreed := hs.freed.1 h
  rw [hs.tables_of_running hlive] at hfreed
  cases hfreed

theorem Ordered.changeChannelKey {s : Lifecycle} (hs : s.Ordered) (channelNumber : Int32) :
    (s.changeChannelKey channelNumber).Ordered := by
  unfold Lifecycle.changeChannelKey
  split
  · unfold Lifecycle.readPatTable
    split
    · exact hs.withFault _
    · exact hs.withFault _
    all_goals
      rename_i htable
      have hallocated : s.streamTask.allocated := by
        by_contra h
        have hunallocated := hs.unallocated.2 (eq_false_of_ne_true h)
        rw [htable] at hunallocated
        cases hunallocated
      split
      · exact { hs with starting := fun _ => hallocated }
      · exact hs
  · exact hs

theorem threadStep_ordered {s s' : Lifecycle} {e : LifecycleEvent} (hs : s.Ordered)
    (h : s.threadStep e = some s') (hrun : s'.main ≠ .returned) : s'.Ordered := by
  cases e with
  | main => exact mainStep_ordered hs h hrun
  | mainFails =>
    simp only [threadStep,Option.ite_none_right_eq_some,Option.some.injEq] at h
    obtain ⟨-,rfl⟩ := h
    exact absurd rfl hrun
  | inputTest | inputRead | inputFiltered =>
    simp only [threadStep] at h
    split at h
    case h_1 hpc =>
      cases h
      exact hs.withInput _ (by simp [hpc])
    case h_2 => cases h
  | inputCall =>
    simp only [threadStep] at h
    split at h
    case h_1 key hpc =>
      split at h
      · cases h
        exact hs.withInput _ (by simp [hpc])
      · cases h
        exact hs.withFault _
    case h_2 => cases h
  | inputHandle =>
    simp only [threadStep] at h
    split at h
    case h_1 key hpc =>
      cases h
      exact (hs.withInput .testing (by simp [hpc])).remoteControllerCallback key
    case h_2 => cases h
  | inputFails =>
    simp only [threadStep] at h
    split at h
    case h_1 hpc =>
      cases h
      exact hs.withInput _ (by simp [hpc])
    case h_2 hpc =>
      cases h
      exact hs.withInput _ (by simp [hpc])
    case h_3 => cases h
  | streamAllocates =>
    simp only [threadStep] at h
    split at h
    case h_1 hpc =>
      cases h
      exact hs.withStream (by simp [hpc]) (by simp [hpc]) (by simp [StreamPc.allocated]) (by simp)
        (fun _ => rfl) (fun _ => rfl) id
    case h_2 => cases h
  | streamSetUp =>
    simp only [threadStep] at h
    split at h
    case h_1 hpc =>
      cases h
      have htable := hs.unallocated
      rw [hpc] at htable
      exact hs.withStream (by simp [hpc]) (by simp [hpc]) htable (hs.table_kept (by simp [hpc]))
        (fun _ => rfl) (fun _ => rfl) (fun _ => rfl)
    case h_2 => cases h
  | streamFails freed =>
    simp only [threadStep] at h
    split at h
    case h_1 hpc =>
      cases h
      obtain ⟨htable,hinit⟩ := And.intro hs.unallocated hs.initialized
      rw [hpc] at htable hinit
      exact hs.withStream (by simp [hpc]) (by simp [hpc]) htable (hs.table_kept (by simp [hpc]))
        (by simp [hpc,StreamPc.allocated]) hinit id
    case h_2 hpc =>
      cases h
      have htable := hs.unallocated
      rw [hpc] at htable
      have hlive : s.streamTask ≠ .ended true := by simp [hpc]
      refine hs.withStream (by simp [hpc]) hlive ?_ ?_ (fun _ => rfl) (fun _ => rfl) id
      · split
        · constructor <;> rintro ⟨⟩
        · exact htable
      · split
        · rintro ⟨⟩
        · exact hs.table_kept hlive
    case h_3 => cases h
  | streamExits =>
    simp only [threadStep] at h
    split at h
    case h_1 hpc =>
      simp only [Option.ite_none_right_eq_some,Option.some.injEq] at h
      obtain ⟨-,rfl⟩ := h
      have htable := hs.unallocated
      rw [hpc] at htable
      exact hs.withStream (by simp [hpc]) (by simp [hpc]) htable (hs.table_kept (by simp [hpc]))
        (fun _ => rfl) (fun _ => rfl) id
    case h_2 => cases h
  | patReceived count =>
    simp only [threadStep,Option.ite_none_right_eq_some,Option.some.injEq] at h
    obtain ⟨-,rfl⟩ := h
    exact { hs with }
  | timerExpires =>
    simp only [threadStep,Option.ite_none_right_eq_some,Option.some.injEq] at h
    obtain ⟨-,rfl⟩ := h
    exact { hs with }
  | notifyCompare channelNumber =>
    simp only [threadStep,Option.ite_none_right_eq_some,Option.some.injEq] at h
    obtain ⟨-,rfl⟩ := h
    have hs' : { s with notificationsPending := s.notificationsPending-1 }.Ordered := { hs with }
    exact hs'.changeChannelKey channelNumber
  | notifyStart =>
    simp only [threadStep,Option.ite_none_right_eq_some,Option.some.injEq] at h
    obtain ⟨hstarting,rfl⟩ := h
    exact hs.readPatTable { hs with starting := fun _ => hs.starting hstarting }

theorem mainStep_fault {s s' : Lifecycle} (h : s.mainStep = some s') : s'.fault = s.fault := by
  unfold mainStep at h
  split at h
  case h_9 | h_13 | h_14 =>
    split at h <;> cases h <;> rfl
  case h_15 =>
    split at h <;> cases h
    rfl
  case h_18 => cases h
  all_goals
    cases h
    rfl

theorem Ordered.readPatTable_fault {s next : Lifecycle} (hs : s.Ordered) (hnext : next.fault = none) :
    (s.readPatTable next).fault = none ↔ s.streamTask.allocated ∧ ¬ s.main.tablesFreed := by
  have hallocated : s.streamTask.allocated ↔ s.patTable ≠ .unallocated := by
    rw [Ne,hs.unallocated,Bool.not_eq_false]
  rw [hallocated,← hs.freed]
  unfold Lifecycle.readPatTable
  cases s.patTable <;> simp [hnext]

theorem Ordered.not_freed {s : Lifecycle} (hs : s.Ordered) (hlive : s.inputTask ≠ .done) :
    ¬ s.main.tablesFreed := by
  intro hfreed
  exact hlive (hs.remoteJoined (MainPc.remoteJoined_of_tablesFreed hfreed))

theorem inputHandle_fault {s s' : Lifecycle} (hs : s.Ordered) (hfault : s.fault = none)
    (h : s.threadStep .inputHandle = some s') : s'.fault = none ↔ s.HandlesInWindow s.inputTask := by
  simp only [threadStep] at h
  split at h
  case h_2 => cases h
  case h_1 key hpc =>
    cases h
    have hlive : s.inputTask ≠ .done := by simp [hpc]
    have hinput := hs.withInput .testing hlive
    rw [hpc]
    cases key with
    | pPlus =>
      refine (hinput.readPatTable_fault ?_).trans (and_iff_left (hs.not_freed hlive))
      exact hfault
    | pMinus =>
      simp only [Lifecycle.remoteControllerCallback]
      split
      case isTrue hwraps =>
        refine ((hinput.readPatTable_fault ?_).trans (and_iff_left (hs.not_freed hlive))).trans ?_
        · exact hfault
        · exact ⟨fun h _ => h,fun h => h hwraps⟩
      case isFalse hwraps => exact iff_of_true hfault fun hle => absurd hle hwraps
    | vPlus | vMinus =>
      change _ ↔ s.main.volumeRegistered = true
      rw [← hs.volumeReportCallback]
      simp only [Lifecycle.remoteControllerCallback]
      cases hvolume : s.volumeReportCallback with
      | false => simp
      | true => simp [hfault]
    | exit =>
      simp only [Lifecycle.remoteControllerCallback]
      split <;> exact iff_of_true hfault trivial
    | digit d => exact iff_of_true hfault trivial
    | info | mute | other => exact iff_of_true hfault trivial

theorem threadStep_fault {s s' : Lifecycle} {e : LifecycleEvent} (hs : s.Ordered)
    (hfault : s.fault = none) (h : s.threadStep e = some s') : s'.fault = none ↔ s.InWindow e := by
  cases e with
  | main => exact iff_of_true ((mainStep_fault h).trans hfault) trivial
  | inputHandle => exact inputHandle_fault hs hfault h
  | inputCall =>
    simp only [threadStep] at h
    split at h
    case h_1 key hpc =>
      change _ ↔ s.main.callbackRegistered = true
      rw [← hs.callback]
      split at h
      case isTrue hcallback =>
        cases h
        exact iff_of_true hfault hcallback
      case isFalse hcallback =>
        cases h
        exact iff_of_false nofun hcallback
    case h_2 => cases h
  | notifyCompare channelNumber =>
    simp only [threadStep,Option.ite_none_right_eq_some,Option.some.injEq] at h
    obtain ⟨-,rfl⟩ := h
    have hs' : { s with notificationsPending := s.notificationsPending-1 }.Ordered := { hs with }
    unfold Lifecycle.changeChannelKey
    split
    case isTrue hchannel =>
      refine (hs'.readPatTable_fault ?_).trans ⟨fun h _ => h,fun h => h hchannel⟩
      split <;> exact hfault
    case isFalse hchannel => exact iff_of_true hfault fun hgt => absurd hgt hchannel
  | notifyStart =>
    simp only [threadStep,Option.ite_none_right_eq_some,Option.some.injEq] at h
    obtain ⟨hstarting,rfl⟩ := h
    refine (hs.readPatTable_fault ?_).trans (and_iff_right (hs.starting hstarting))
    exact hfault
  | streamExits =>
    refine iff_of_true ?_ trivial
    simp only [threadStep] at h
    split at h
    · split at h <;> cases h
      exact hfault
    · cases h
  | _ =>
    refine iff_of_true ?_ trivial
    simp only [threadStep] at h
    split at h <;> cases h <;> exact hfault

def Started (s : Lifecycle) : Prop := s.main ≠ .returned → s.Ordered

theorem step_running {s s' : Lifecycle} {e : LifecycleEvent} (h : s.step e = some s') :
    s.fault = none ∧ s.main ≠ .returned ∧ s.threadStep e = some s' := by
  unfold step at h
  split at h
  case isTrue hrunning => exact ⟨hrunning.1,hrunning.2,h⟩
  case isFalse => cases h

/-- In every interleaving of main, the input task, the stream task and the timer, the
handlers find what they use exactly when each of them runs inside its window.  A key can
reach `patTable` too early but never too late, as the input task is joined before the
tables are freed; the call of the timer can come at both ends. -/
theorem handlers_find_pointers_iff (configured : UInt32) (es : List LifecycleEvent) (s : Lifecycle)
    (h : follow step (initial configured) es = some s) :
    s.fault = none ↔ Each InWindow step (initial configured) es := by
  refine follow_good_iff_each Started (fun s => s.fault = none) ?_ ?_ ?_ es ?_ rfl h
  · intro s s' e hs hstep hrun
    obtain ⟨-,hmain,hthread⟩ := step_running hstep
    exact threadStep_ordered (hs hmain) hthread hrun
  · intro s s' e hs hstep
    obtain ⟨hfault,hmain,hthread⟩ := step_running hstep
    exact threadStep_fault (hs hmain) hfault hthread
  · intro s s' e hstep
    exact (step_running hstep).1
  · exact fun _ => initial_ordered configured

/-- Main up to its wait, and the stream task up to its loop. -/
def startUp : List LifecycleEvent :=
  [.main,.main,.main,.main,.main,.main,.main,.main,.streamAllocates,.patReceived 5,.streamSetUp]

def keyPress (key : KeyCode) : List LifecycleEvent := [.inputTest,.inputRead key,.inputCall,.inputHandle]

def shutDown : List LifecycleEvent :=
  [.main,.main,.main,.main,.inputTest,.main,.main,.streamExits,.main,.main]

def session : List LifecycleEvent :=
  List.flatten [startUp,keyPress .pPlus,keyPress .vPlus,keyPress (.digit 3),
    [.timerExpires,.notifyCompare 3,.notifyStart],keyPress .exit,shutDown,[.main]]

theorem session_in_windows :
    ∃ s, follow step (initial 2) session = some s ∧ s.main = .returned ∧
      Each InWindow step (initial 2) session := by
  have hend : (follow step (initial 2) session).map (fun s => (s.main,s.fault)) =
      some (.returned,none) := by decide +kernel
  obtain ⟨s,hs,hboth⟩ := Option.map_eq_some_iff.1 hend
  obtain ⟨hmain,hfault⟩ := Prod.mk.inj hboth
  exact ⟨s,hs,hmain,(handlers_find_pointers_iff 2 session s hs).1 hfault⟩

def faultAfter (configured : UInt32) (pieces : List (List LifecycleEvent)) : Option LifecycleFault :=
  (follow step (initial configured) pieces.flatten).bind fault

/-- A key right after `remoteControllerInit`, a key that is read before EXIT takes
effect, V+ before the volume callback is registered, P+ and a dialled channel before
the stream task has run, and a dialled channel after `streamControllerDeinit`. -/
theorem keys_outside_windows_fault :
    faultAfter 2 [[.main,.main,.main,.inputTest,.inputRead .info,.inputCall]] = some .callbackIsNull ∧
    faultAfter 2 [startUp,keyPress .exit,[.inputTest,.inputRead .info,.main,.main,.main,.inputCall]] =
      some .callbackIsNull ∧
    faultAfter 2 [[.main,.main,.main,.main],keyPress .vPlus] = some .volumeReportCallbackIsNull ∧
    faultAfter 2 [startUp.take 8,keyPress .pPlus] = some .patTableNotAllocated ∧
    faultAfter 2 [startUp.take 8,keyPress (.digit 3),[.timerExpires,.notifyCompare 3]] =
      some .patTableNotAllocated ∧
    faultAfter 2 [startUp,keyPress (.digit 3),keyPress .exit,shutDown,[.timerExpires,.notifyCompare 3]] =
      some .patTableFreed := by
  decide +kernel

end Lifecycle
end TvApp

import TvApp.Lifecycle

/-! How the program comes to its end.
EXIT wakes main, which then stops the input task and the stream task, one after the
other.  Each join waits for a thread that has to come round by itself: the input task by
one more event, and never through a callback that is gone; and `streamControllerDeinit`
refuses to join a stream task whose set-up has failed.  From every state of every
interleaving, the end can either still be reached in order, or it is out of reach for one of
three reasons. -/
namespace TvApp

def MainPc.rank : MainPc → ℕ
  | .timerCreate => 17 | .loadInitialInfo => 16 | .remoteControllerInit => 15
  | .registerRemoteControllerCallback => 14 | .registerDateCallback => 13
  | .registerVolumeCallback => 12 | .streamControllerInit => 11 | .graphicsControllerInit => 10
  | .wait => 9 | .graphicsControllerDeinit => 8 | .unregisterRemoteControllerCallback => 7
  | .remoteControllerDeinit => 6 | .joinRemote => 5 | .streamControllerDeinit => 4
  | .joinStream => 3 | .freeTables => 2 | .timerDelete => 1 | .returned => 0

def MainPc.remoteCreated : MainPc → Bool
  | .timerCreate | .loadInitialInfo | .remoteControllerInit => false
  | _ => true

/-- Main runs and has been woken from its wait. -/
def MainPc.pastWait : MainPc → Bool
  | .graphicsControllerDeinit | .unregisterRemoteControllerCallback => true
  | .remoteControllerDeinit | .joinRemote => true
  | .streamControllerDeinit | .joinStream | .freeTables | .timerDelete => true
  | _ => false

def MainPc.freesTables : MainPc → Bool
  | .freeTables => true
  | _ => false

def MainPc.stopsInput : MainPc → Bool
  | .joinRemote | .streamControllerDeinit | .joinStream | .freeTables | .timerDelete => true
  | _ => false

def LifecycleEvent.foreground : LifecycleEvent → Bool
  | .main | .mainFails => true
  | .inputTest | .inputRead _ | .inputFiltered | .inputCall | .inputHandle | .inputFails => true
  | _ => false

/-- How far the input task is from what main waits for: EXIT, and then its own end. -/
def InputPc.rank : Bool → InputPc → ℕ
  | true,.testing => 1 | true,.reading => 2 | true,.handling _ => 3 | true,.calling _ => 4
  | false,.handling .exit => 5 | false,.calling .exit => 6 | false,.reading => 7
  | false,.testing => 8 | false,.handling _ => 9 | false,.calling _ => 10
  | _,.absent | _,.done => 0

def StreamPc.rank : StreamPc → ℕ
  | .starting => 3 | .settingUp => 2 | .looping => 1 | .absent | .ended _ => 0

namespace Lifecycle

variable {s s' : Lifecycle} {e : LifecycleEvent}

structure Streaming (pc : StreamPc) (isInitialized : Bool) (patTable : TableState) : Prop where
  initialized : isInitialized = true → pc = .looping ∨ pc = .ended true
  looping : pc = .looping → isInitialized = true
  freed : patTable = .freedByTask → pc = .ended true ∧ isInitialized = false

/-- Where the other tasks are, as long as main runs. -/
structure Tracked (s : Lifecycle) : Prop where
  inputCreated : s.inputTask = .absent ↔ s.main.remoteCreated = false
  streamCreated : s.main.streamCreated → s.streamTask ≠ .absent
  heard : s.main.pastWait → s.exitSignalled = true
  inputThreadExit : s.inputThreadExit = s.main.stopsInput
  streamThreadExit : s.main.deinitPassed → s.streamThreadExit = true
  joined : s.main.freesTables → s.isInitialized = true
  streaming : Streaming s.streamTask s.isInitialized s.patTable

theorem readPatTable_cases (s next : Lifecycle) :
    s.readPatTable next = next ∨ ∃ fault, s.readPatTable next = { s with fault := some fault } := by
  unfold readPatTable
  split
  · exact .inr ⟨_,rfl⟩
  · exact .inr ⟨_,rfl⟩
  · exact .inl rfl
  · exact .inl rfl

theorem remoteControllerCallback_eq (s : Lifecycle) (key : KeyCode) :
    ∃ programNumber exitSignalled timerArmed fault, s.remoteControllerCallback key =
        { s with
          programNumber := programNumber
          exitSignalled := exitSignalled
          timerArmed := timerArmed
          fault := fault } ∧
      (s.exitSignalled = true → exitSignalled = true) := by
  cases key with
  | pPlus =>
    obtain h | ⟨fault,h⟩ := s.readPatTable_cases
      { s with programNumber := channelUp s.serviceInfoCount s.programNumber }
    · exact ⟨_,_,_,_,h,id⟩
    · exact ⟨_,_,_,_,h,id⟩
  | pMinus =>
    simp only [remoteControllerCallback]
    split
    · obtain h | ⟨fault,h⟩ := s.readPatTable_cases
        { s with programNumber := channelDown s.serviceInfoCount s.programNumber }
      · exact ⟨_,_,_,_,h,id⟩
      · exact ⟨_,_,_,_,h,id⟩
    · exact ⟨_,_,_,_,rfl,id⟩
  | vPlus | vMinus =>
    simp only [remoteControllerCallback]
    split <;> exact ⟨_,_,_,_,rfl,id⟩
  | exit =>
    simp only [remoteControllerCallback]
    split
    · exact ⟨_,_,_,_,rfl,fun _ => rfl⟩
    · exact ⟨_,_,_,_,rfl,id⟩
  | digit d => exact ⟨_,_,_,_,rfl,id⟩
  | info | mute | other => exact ⟨_,_,_,_,rfl,id⟩

theorem changeChannelKey_eq (s : Lifecycle) (channelNumber : Int32) :
    ∃ notificationsStarting fault, s.changeChannelKey channelNumber =
      { s with notificationsStarting := notificationsStarting, fault := fault } := by
  unfold changeChannelKey
  split
  · obtain h | ⟨fault,h⟩ := s.readPatTable_cases
      (if changeChannelKeyAccepts s.serviceInfoCount channelNumber then
        { s with notificationsStarting := s.notificationsStarting+1 } else s)
    · rw [h]
      split <;> exact ⟨_,_,rfl⟩
    · exact ⟨_,_,h⟩
  · exact ⟨_,_,rfl⟩

structure MainMoves (s s' : Lifecycle) : Prop where
  rank : s'.main.rank < s.main.rank
  fault : s'.fault = s.fault
  exitSignalled : s'.exitSignalled = s.exitSignalled
  inputTask : s.main ≠ .remoteControllerInit → s'.inputTask = s.inputTask
  created : s.main = .remoteControllerInit → s'.inputTask = .testing
  streamTask : s.main ≠ .streamControllerInit → s'.streamTask = s.streamTask
  started : s.main = .streamControllerInit → s'.streamTask = .starting
  isInitialized : s.main ≠ .freeTables → s'.isInitialized = s.isInitialized
  patTable : s.main ≠ .freeTables → s'.patTable = s.patTable
  tablesFreed : s'.main.tablesFreed ↔ s.main = .freeTables
  unregisters : s'.main = .remoteControllerDeinit → s.main = .unregisterRemoteControllerCallback
  joins : s'.main = .joinRemote → s.main = .remoteControllerDeinit
  returns : s'.main = .returned → s.main = .timerDelete ∨
    s.main = .streamControllerDeinit ∧ s.isInitialized = false

theorem mainStep_moves (h : s.mainStep = some s') : MainMoves s s' := by
  have hfault := mainStep_fault h
  unfold mainStep at h
  cases hpc : s.main <;> rw [hpc] at h <;> simp only [Option.ite_none_right_eq_some] at h
  case wait | joinRemote =>
    obtain ⟨-,h⟩ := h
    cases h
    constructor <;> simp_all [MainPc.rank,MainPc.tablesFreed]
  case streamControllerDeinit | joinStream =>
    split at h <;> cases h <;> constructor <;> simp_all [MainPc.rank,MainPc.tablesFreed]
  case returned => cases h
  all_goals
    cases h
    constructor <;> simp_all [MainPc.rank,MainPc.tablesFreed]

theorem Tracked.place (hs : s.Tracked) {pc : MainPc} (hpc : s.main = pc) :
    { s with main := pc }.Tracked := by
  subst hpc
  exact hs

theorem mainStep_tracked (hordered : s.Ordered) (hs : s.Tracked) (h : s.mainStep = some s')
    (hrun : s'.main ≠ .returned) : s'.Tracked := by
  unfold mainStep at h
  cases hpc : s.main <;> rw [hpc] at h <;>
    simp only [Option.some.injEq,Option.ite_none_right_eq_some,reduceCtorEq] at h <;>
    have hplace := hs.place hpc
  case timerCreate | loadInitialInfo | registerRemoteControllerCallback | registerDateCallback
    | registerVolumeCallback | graphicsControllerInit | graphicsControllerDeinit
    | unregisterRemoteControllerCallback =>
    subst h
    exact { hplace with }
  case remoteControllerInit =>
    subst h
    exact { hplace with inputCreated := iff_of_false (by simp) (by simp [MainPc.remoteCreated]) }
  case streamControllerInit =>
    subst h
    have habsent : s.streamTask = .absent := hordered.streamCreated (by rw [hpc]; rfl)
    obtain ⟨hinit,hlooping,hfreed⟩ := hs.streaming
    rw [habsent] at hinit hfreed
    exact { hplace with
      streamCreated := by simp
      streaming :=
        { initialized := fun h => (hinit h).elim (by rintro ⟨⟩) (by rintro ⟨⟩)
          looping := by rintro ⟨⟩
          freed := fun h => absurd (hfreed h).1 (by rintro ⟨⟩) } }
  case wait =>
    obtain ⟨hexit,rfl⟩ := h
    exact { hplace with heard := fun _ => hexit }
  case remoteControllerDeinit =>
    subst h
    exact { hplace with inputThreadExit := rfl }
  case joinRemote =>
    obtain ⟨-,rfl⟩ := h
    exact { hplace with }
  case streamControllerDeinit =>
    split at h
    · cases h
      exact { hplace with streamThreadExit := fun _ => rfl }
    · cases h
      exact absurd rfl hrun
  case joinStream =>
    split at h
    · cases h
      have hinit := hordered.deinitPassed (by rw [hpc]; rfl)
      exact { hplace with streamThreadExit := by rintro ⟨⟩, joined := fun _ => hinit }
    · cases h
  case freeTables =>
    subst h
    have hended := hordered.streamJoined (by rw [hpc]; rfl)
    exact { hplace with
      joined := by rintro ⟨⟩
      streaming :=
        { initialized := by rintro ⟨⟩
          looping := fun hlooping => absurd (hended.symm.trans hlooping) (by rintro ⟨⟩)
          freed := by rintro ⟨⟩ } }
  case timerDelete =>
    subst h
    exact absurd rfl hrun

/-- A step of another thread, as far as main will see it. -/
structure Aside (s s' : Lifecycle) : Prop where
  main : s'.main = s.main
  inputThreadExit : s'.inputThreadExit = s.inputThreadExit
  streamThreadExit : s'.streamThreadExit = s.streamThreadExit
  inputCreated : s'.inputTask = .absent ↔ s.inputTask = .absent
  heard : s.exitSignalled = true → s'.exitSignalled = true
  streamCreated : s.streamTask ≠ .absent → s'.streamTask ≠ .absent
  isInitialized : s.isInitialized = true → s'.isInitialized = true
  streaming : Streaming s.streamTask s.isInitialized s.patTable →
    Streaming s'.streamTask s'.isInitialized s'.patTable
  ended : ∀ allocated, s.streamTask = .ended allocated →
    s'.streamTask = .ended allocated ∧ s'.isInitialized = s.isInitialized

theorem Tracked.aside (hs : s.Tracked) (h : Aside s s') : s'.Tracked where
  inputCreated := by rw [h.main,h.inputCreated]; exact hs.inputCreated
  streamCreated := by rw [h.main]; exact fun hmain => h.streamCreated (hs.streamCreated hmain)
  heard := by rw [h.main]; exact fun hmain => h.heard (hs.heard hmain)
  inputThreadExit := by rw [h.main,h.inputThreadExit]; exact hs.inputThreadExit
  streamThreadExit := by rw [h.main,h.streamThreadExit]; exact hs.streamThreadExit
  joined := by rw [h.main]; exact fun hmain => h.isInitialized (hs.joined hmain)
  streaming := h.streaming hs.streaming

theorem aside_withInput {pc : InputPc} (hbefore : s.inputTask ≠ .absent) (hafter : pc ≠ .absent) :
    Aside s { s with inputTask := pc } :=
  ⟨rfl,rfl,rfl,iff_of_false hafter hbefore,id,id,id,id,fun _ h => ⟨h,rfl⟩⟩

/-- A step of the stream task, the demultiplexer or the timer: it presses no key. -/
structure Background (s s' : Lifecycle) : Prop extends Aside s s' where
  inputTask : s'.inputTask = s.inputTask
  exitSignalled : s'.exitSignalled = s.exitSignalled

theorem background_of_same (hmain : s'.main = s.main) (hexit : s'.inputThreadExit = s.inputThreadExit)
    (hstreamExit : s'.streamThreadExit = s.streamThreadExit) (hinput : s'.inputTask = s.inputTask)
    (hsignalled : s'.exitSignalled = s.exitSignalled) (hstream : s'.streamTask = s.streamTask)
    (hinit : s'.isInitialized = s.isInitialized) (htable : s'.patTable = s.patTable) :
    Background s s' where
  main := hmain
  inputThreadExit := hexit
  streamThreadExit := hstreamExit
  inputCreated := by rw [hinput]
  heard := by rw [hsignalled]; exact id
  streamCreated := by rw [hstream]; exact id
  isInitialized := by rw [hinit]; exact id
  streaming := by rw [hstream,hinit,htable]; exact id
  ended := by rw [hstream,hinit]; exact fun _ h => ⟨h,rfl⟩
  inputTask := hinput
  exitSignalled := hsignalled

theorem background_withStream {pc : StreamPc} {table : TableState} {isInitialized : Bool}
    (hlive : ∀ allocated, s.streamTask ≠ .ended allocated) (hafter : pc ≠ .absent)
    (hkept : s.isInitialized = true → isInitialized = true)
    (hstreaming : Streaming s.streamTask s.isInitialized s.patTable →
      Streaming pc isInitialized table) :
    Background s { s with streamTask := pc, patTable := table, isInitialized := isInitialized } where
  main := rfl
  inputThreadExit := rfl
  streamThreadExit := rfl
  inputCreated := Iff.rfl
  heard := id
  streamCreated := fun _ => hafter
  isInitialized := hkept
  streaming := hstreaming
  ended := fun allocated h => absurd h (hlive allocated)
  inputTask := rfl
  exitSignalled := rfl

theorem threadStep_background (he : e.foreground = false)
    (h : s.threadStep e = some s') : Background s s' := by
  cases e with
  | streamAllocates =>
    simp only [threadStep] at h
    split at h
    · rename_i hpc
      cases h
      refine background_withStream (by simp [hpc]) (by simp) id ?_
      rintro ⟨hinit,_,_⟩
      refine ⟨?_,?_,?_⟩
      · exact fun h => absurd (hinit h) (by simp [hpc])
      · rintro ⟨⟩
      · rintro ⟨⟩
    · cases h
  | streamSetUp =>
    simp only [threadStep] at h
    split at h
    · rename_i hpc
      cases h
      refine background_withStream (by simp [hpc]) (by simp) (fun _ => rfl) ?_
      rintro ⟨_,_,hfreed⟩
      exact ⟨fun _ => .inl rfl,fun _ => rfl,fun h => absurd (hfreed h).1 (by simp [hpc])⟩
    · cases h
  | streamFails freed =>
    simp only [threadStep] at h
    split at h
    · rename_i hpc
      cases h
      refine background_withStream (by simp [hpc]) (by simp) id ?_
      rintro ⟨hinit,_,hfreed⟩
      refine ⟨?_,?_,?_⟩
      · exact fun h => absurd (hinit h) (by simp [hpc])
      · rintro ⟨⟩
      · exact fun h => absurd (hfreed h).1 (by simp [hpc])
    · rename_i hpc
      cases h
      refine background_withStream (by simp [hpc]) (by simp) id ?_
      rintro ⟨hinit,_,_⟩
      refine ⟨?_,?_,?_⟩
      · exact fun _ => .inr rfl
      · rintro ⟨⟩
      · refine fun _ => ⟨rfl,?_⟩
        by_contra h
        exact absurd (hinit (by simpa using h)) (by simp [hpc])
    · cases h
  | streamExits =>
    simp only [threadStep] at h
    split at h
    · rename_i hpc
      simp only [Option.ite_none_right_eq_some,Option.some.injEq] at h
      obtain ⟨-,rfl⟩ := h
      refine background_withStream (by simp [hpc]) (by simp) id ?_
      rintro ⟨_,_,hfreed⟩
      exact ⟨fun _ => .inr rfl,by rintro ⟨⟩,fun h => absurd (hfreed h).1 (by simp [hpc])⟩
    · cases h
  | patReceived count | timerExpires =>
    simp only [threadStep,Option.ite_none_right_eq_some,Option.some.injEq] at h
    obtain ⟨-,rfl⟩ := h
    exact background_of_same rfl rfl rfl rfl rfl rfl rfl rfl
  | notifyCompare channelNumber =>
    simp only [threadStep,Option.ite_none_right_eq_some,Option.some.injEq] at h
    obtain ⟨-,rfl⟩ := h
    obtain ⟨starting,fault,hkey⟩ := changeChannelKey_eq
      { s with notificationsPending := s.notificationsPending-1 } channelNumber
    rw [hkey]
    exact background_of_same rfl rfl rfl rfl rfl rfl rfl rfl
  | notifyStart =>
    simp only [threadStep,Option.ite_none_right_eq_some,Option.some.injEq] at h
    obtain ⟨-,rfl⟩ := h
    obtain hread | ⟨fault,hread⟩ := s.readPatTable_cases
      { s with notificationsStarting := s.notificationsStarting-1 }
    · rw [hread]
      exact background_of_same rfl rfl rfl rfl rfl rfl rfl rfl
    · rw [hread]
      exact background_of_same rfl rfl rfl rfl rfl rfl rfl rfl
  | _ => cases he

theorem threadStep_aside (he : e ≠ .main) (hfails : e ≠ .mainFails) (h : s.threadStep e = some s') :
    Aside s s' := by
  by_cases hforeground : e.foreground = false
  · exact (threadStep_background hforeground h).toAside
  cases e with
  | main => exact absurd rfl he
  | mainFails => exact absurd rfl hfails
  | inputTest =>
    simp only [threadStep] at h
    split at h
    · rename_i hpc
      cases h
      refine aside_withInput (by rw [hpc]; rintro ⟨⟩) ?_
      split <;> rintro ⟨⟩
    · cases h
  | inputRead key | inputFiltered =>
    simp only [threadStep] at h
    split at h
    · rename_i hpc
      cases h
      exact aside_withInput (by rw [hpc]; rintro ⟨⟩) (by rintro ⟨⟩)
    · cases h
  | inputCall =>
    simp only [threadStep] at h
    split at h
    · rename_i key hpc
      split at h
      · cases h
        exact aside_withInput (by rw [hpc]; rintro ⟨⟩) (by rintro ⟨⟩)
      · cases h
        exact ⟨rfl,rfl,rfl,Iff.rfl,id,id,id,id,fun _ h => ⟨h,rfl⟩⟩
    · cases h
  | inputHandle =>
    simp only [threadStep] at h
    split at h
    · rename_i key hpc
      cases h
      obtain ⟨programNumber,exitSignalled,timerArmed,fault,hkey,hheard⟩ :=
        remoteControllerCallback_eq { s with inputTask := .testing } key
      rw [hkey]
      exact ⟨rfl,rfl,rfl,iff_of_false (by rintro ⟨⟩) (by rw [hpc]; rintro ⟨⟩),hheard,id,id,
        id,fun _ h => ⟨h,rfl⟩⟩
    · cases h
  | inputFails =>
    simp only [threadStep] at h
    split at h
    · rename_i hpc
      cases h
      exact aside_withInput (by rw [hpc]; rintro ⟨⟩) (by rintro ⟨⟩)
    · rename_i hpc
      cases h
      exact aside_withInput (by rw [hpc]; rintro ⟨⟩) (by rintro ⟨⟩)
    · cases h
  | _ => exact absurd rfl hforeground

def Running (s : Lifecycle) : Prop := s.main ≠ .returned → s.Ordered ∧ s.Tracked

theorem Running.step (hs : s.Running) (h : s.step e = some s') : s'.Running := by
  intro hrun
  obtain ⟨-,hmain,hthread⟩ := step_running h
  obtain ⟨hordered,htracked⟩ := hs hmain
  refine ⟨threadStep_ordered hordered hthread hrun,?_⟩
  by_cases he : e = .main
  · subst he
    exact mainStep_tracked hordered htracked hthread hrun
  by_cases hfails : e = .mainFails
  · subst hfails
    simp only [threadStep,Option.ite_none_right_eq_some,Option.some.injEq] at hthread
    obtain ⟨-,rfl⟩ := hthread
    exact absurd rfl hrun
  · exact htracked.aside (threadStep_aside he hfails hthread)

def ReadsPat (s : Lifecycle) : KeyCode → Prop
  | .pPlus => True
  | .pMinus => s.programNumber.toInt ≤ 0
  | _ => False

def StepReadsPat (s : Lifecycle) : LifecycleEvent → Prop
  | .inputHandle => ∃ key, s.inputTask = .handling key ∧ s.ReadsPat key
  | .notifyCompare channelNumber => channelNumber.toInt > -1
  | .notifyStart => True
  | _ => False

/-- The step does not read tables that the stream task has freed again. -/
def AvoidsFreed (s : Lifecycle) (e : LifecycleEvent) : Prop :=
  s.patTable = .freedByTask → ¬ s.StepReadsPat e

/-- Why the program can no longer be ended. -/
inductive Lost (s : Lifecycle) : Prop
  /-- Nobody listens to EXIT: the device could not be opened, or a read has failed. -/
  | deaf (hinput : s.inputTask = .done) (hexit : s.exitSignalled = false)
  /-- A key was read, and its callback is gone. -/
  | late {key : KeyCode} (hinput : s.inputTask = .calling key)
      (hmain : s.main = .remoteControllerDeinit ∨ s.main = .joinRemote)
  /-- The stream task has ended in its set-up, so that `streamControllerDeinit` will fail. -/
  | failed {allocated : Bool} (hstream : s.streamTask = .ended allocated)
      (hinit : s.isInitialized = false) (hmain : s.main.tablesFreed = false)

def GivenUp (s : Lifecycle) : Prop := s.main = .returned ∧ s.patTable ≠ .freedByDeinit

theorem Tracked.early (hs : s.Tracked) (hexit : s.exitSignalled = false) : s.main.pastWait = false := by
  by_contra hpast
  have hheard := hs.heard (eq_true_of_ne_false hpast)
  rw [hexit] at hheard
  cases hheard

theorem Lost.main (hs : s.Lost) (hordered : s.Ordered) (htracked : s.Tracked)
    (h : s.mainStep = some s') : s'.GivenUp ∨ s'.Lost ∧ s'.main ≠ .returned := by
  have hmoves := mainStep_moves h
  cases hs with
  | deaf hinput hexit =>
    have hpast := htracked.early hexit
    have hcreated : s.main ≠ .remoteControllerInit := fun hinit => by
      have habsent := htracked.inputCreated.2 (by rw [hinit]; rfl)
      rw [hinput] at habsent
      cases habsent
    refine .inr ⟨.deaf ((hmoves.inputTask hcreated).trans hinput)
      (hmoves.exitSignalled.trans hexit),fun hreturned => ?_⟩
    obtain hmain | ⟨hmain,-⟩ := hmoves.returns hreturned
    · rw [hmain] at hpast
      cases hpast
    · rw [hmain] at hpast
      cases hpast
  | late hinput hmain =>
    obtain hmain | hmain := hmain
    · simp only [mainStep,hmain,Option.some.injEq] at h
      subst h
      exact .inr ⟨.late hinput (.inr rfl),by rintro ⟨⟩⟩
    · simp [mainStep,hmain,hinput] at h
  | failed hstream hinit hmain =>
    have hcreated : s.main ≠ .streamControllerInit := fun hmain => by
      have habsent := hordered.streamCreated (by rw [hmain]; rfl)
      rw [hstream] at habsent
      cases habsent
    have hfrees : s.main ≠ .freeTables := fun hmain => by
      have hjoined := htracked.joined (by rw [hmain]; rfl)
      rw [hinit] at hjoined
      cases hjoined
    by_cases hreturned : s'.main = .returned
    · refine .inl ⟨hreturned,fun hfreed => ?_⟩
      rw [hmoves.patTable hfrees,hordered.freed,hmain] at hfreed
      cases hfreed
    · refine .inr ⟨.failed ((hmoves.streamTask hcreated).trans hstream)
        ((hmoves.isInitialized hfrees).trans hinit) ?_,hreturned⟩
      by_contra hfreed
      exact hfrees (hmoves.tablesFreed.1 (eq_true_of_ne_false hfreed))

theorem threadStep_done (hinput : s.inputTask = .done) (hforeground : e.foreground)
    (he : e ≠ .main) (hfails : e ≠ .mainFails) : s.threadStep e = none := by
  cases e with
  | main => exact absurd rfl he
  | mainFails => exact absurd rfl hfails
  | inputTest | inputRead key | inputFiltered | inputCall | inputHandle | inputFails =>
    simp only [threadStep,hinput]
  | _ => cases hforeground

theorem threadStep_late {key : KeyCode} (hinput : s.inputTask = .calling key)
    (hcallback : s.callback = false) (hforeground : e.foreground) (he : e ≠ .main)
    (hfails : e ≠ .mainFails) (h : s.threadStep e = some s') :
    s'.fault = some .callbackIsNull := by
  cases e with
  | main => exact absurd rfl he
  | mainFails => exact absurd rfl hfails
  | inputCall =>
    simp only [threadStep,hinput,hcallback] at h
    cases h
    rfl
  | inputTest | inputRead key | inputFiltered | inputHandle | inputFails =>
    simp only [threadStep,hinput,reduceCtorEq] at h
  | _ => cases hforeground

theorem Lost.aside (hs : s.Lost) (hordered : s.Ordered) (he : e ≠ .main) (hfails : e ≠ .mainFails)
    (h : s.threadStep e = some s') : s'.fault ≠ none ∨ s'.Lost := by
  have haside := threadStep_aside he hfails h
  cases hs with
  | failed hstream hinit hmain =>
    obtain ⟨hstream',hinit'⟩ := haside.ended _ hstream
    exact .inr (.failed hstream' (hinit'.trans hinit) (by rw [haside.main]; exact hmain))
  | deaf hinput hexit =>
    cases hforeground : e.foreground with
    | false =>
      have hback := threadStep_background hforeground h
      exact .inr (.deaf (hback.inputTask.trans hinput) (hback.exitSignalled.trans hexit))
    | true =>
      rw [threadStep_done hinput hforeground he hfails] at h
      cases h
  | late hinput hmain =>
    cases hforeground : e.foreground with
    | false =>
      have hback := threadStep_background hforeground h
      exact .inr (.late (hback.inputTask.trans hinput) (by rw [hback.main]; exact hmain))
    | true =>
      have hcallback : s.callback = false := by
        rw [hordered.callback]
        obtain hmain | hmain := hmain <;> rw [hmain] <;> rfl
      refine .inl fun hfault => ?_
      rw [threadStep_late hinput hcallback hforeground he hfails h] at hfault
      cases hfault

def rank (s : Lifecycle) : ℕ :=
  20*s.main.rank+s.inputTask.rank s.exitSignalled+s.streamTask.rank

/-- A state from which the end is to be reached. -/
structure Ending (s : Lifecycle) : Prop where
  fault : s.fault = none
  main : s.main ≠ .returned
  running : s.Running
  within : ¬ s.Lost

def Ended (s : Lifecycle) : Prop := s.main = .returned ∧ s.patTable = .freedByDeinit ∧ s.fault = none

def Advances (s : Lifecycle) : Prop :=
  ∃ s', Reach step (fun s e => e ≠ .mainFails ∧ s.AvoidsFreed e) s s' ∧
    (s'.Ended ∨ s'.Ending ∧ s'.rank < s.rank)

theorem Ending.advances (hs : s.Ending) (he : e ≠ .main) (hfails : e ≠ .mainFails)
    (hreads : s.AvoidsFreed e) (h : s.threadStep e = some s') (hfault : s'.fault = none)
    (hwithin : ¬ s'.Lost) (hrank : s'.rank < s.rank) : s.Advances := by
  have hstep : s.step e = some s' := (if_pos ⟨hs.fault,hs.main⟩).trans h
  have hmain : s'.main ≠ .returned := by
    rw [(threadStep_aside he hfails h).main]
    exact hs.main
  exact ⟨s',Reach.start.next e ⟨hfails,hreads⟩ hstep,
    .inr ⟨⟨hfault,hmain,hs.running.step hstep,hwithin⟩,hrank⟩⟩

/-- The input task goes on, neither silently to its end nor to a callback that is gone. -/
theorem Ending.withInput (hs : s.Ending) {pc : InputPc} (he : e ≠ .main) (hfails : e ≠ .mainFails)
    (hreads : s.AvoidsFreed e) (h : s.threadStep e = some { s with inputTask := pc })
    (hdone : pc = .done → s.exitSignalled = true)
    (hcalling : ∀ key, pc = .calling key → s.main ≠ .remoteControllerDeinit ∧ s.main ≠ .joinRemote)
    (hrank : pc.rank s.exitSignalled < s.inputTask.rank s.exitSignalled) : s.Advances := by
  refine hs.advances he hfails hreads h hs.fault (fun hlost => ?_) (by simp only [rank]; omega)
  cases hlost with
  | deaf hended hsilent => cases (hdone hended).symm.trans hsilent
  | late hkey hlate => exact hlate.elim (hcalling _ hkey).1 (hcalling _ hkey).2
  | failed hended hinit hplace => exact hs.within (.failed hended hinit hplace)

/-- The stream task goes on, and does not end in its set-up. -/
theorem Ending.withStream (hs : s.Ending) {pc : StreamPc} {table : TableState}
    {isInitialized : Bool} (he : e ≠ .main) (hfails : e ≠ .mainFails) (hreads : s.AvoidsFreed e)
    (h : s.threadStep e = some
      { s with streamTask := pc, patTable := table, isInitialized := isInitialized })
    (hended : ∀ allocated, pc = .ended allocated → isInitialized = true)
    (hrank : pc.rank < s.streamTask.rank) : s.Advances := by
  refine hs.advances he hfails hreads h hs.fault (fun hlost => ?_) (by simp only [rank]; omega)
  cases hlost with
  | deaf hdone hexit => exact hs.within (.deaf hdone hexit)
  | late hkey hmain => exact hs.within (.late hkey hmain)
  | failed hstream hinit hmain => cases (hended _ hstream).symm.trans hinit

theorem Ending.initialized (hs : s.Ending) (hmain : s.main.tablesFreed = false) {allocated : Bool}
    (hstream : s.streamTask = .ended allocated) : s.isInitialized = true := by
  by_contra hinit
  exact hs.within (.failed hstream (eq_false_of_ne_true hinit) hmain)

theorem Ending.calls (hs : s.Ending) {key : KeyCode} (hinput : s.inputTask = .calling key)
    (hregistered : s.main.callbackRegistered) : s.Advances := by
  have hcallback : s.callback = true := (hs.running hs.main).1.callback.trans hregistered
  have hstep : s.threadStep .inputCall = some { s with inputTask := .handling key } := by
    simp [threadStep,hinput,hcallback]
  refine hs.withInput (by rintro ⟨⟩) (by rintro ⟨⟩) (fun _ => id) hstep (by rintro ⟨⟩)
    (by rintro _ ⟨⟩) ?_
  rw [hinput]
  cases s.exitSignalled with
  | true => simp [InputPc.rank]
  | false => cases key <;> simp [InputPc.rank]

end Lifecycle

end TvApp

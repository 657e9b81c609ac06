import TvApp.InfoText
import TvApp.Lifecycle
import TvApp.Observation

/-! The overlays: `graphics_controller.c`, the keys of `tv_app.c` that draw, and the volume
keys of `stream_controller.c`.
The key thread runs one handler at a time, a list of statements; the three timers are
one-shot, and every expiry has a thread of its own that takes the overlay away; the render
thread draws frame after frame from what it finds; main ends it all.  They share the static
variables without a lock, so a step is one access to them. -/
namespace TvApp

inductive Overlay
  | programNumber | volume | info
  deriving DecidableEq, Repr

structure OverlayTimer where
  armed : Bool
  /-- Expiries whose thread has not run yet. -/
  pending : ℕ
  deriving DecidableEq

/-- `currentVolume` of `stream_controller.c` and of `tv_app.c`, the argument of the last
`Player_Volume_Set`, and `componentsToDraw.volume`. -/
structure Volumes where
  streamVolume : UInt32
  playerVolume : Option UInt32
  currentVolume : UInt8
  volumeToDraw : ℤ
  deriving DecidableEq

structure InfoToDraw where
  YearToDraw : UInt16
  tmpMonthToDraw : UInt8
  dayToDraw : UInt8
  audioPidToDraw : Int16
  videoPidToDraw : Int16
  deriving DecidableEq

/-- The statements of the key handlers that touch shared data. -/
inductive KeyStatement
  | increment | clamp | decrement | playerVolumeSet | volumeReportCallback
  | playerMute | zeroStreamVolume | zeroVolume
  | volumeToDraw
  | settime (o : Overlay) | show (o : Overlay)
  | audioPidToDraw (pid : Int16) | videoPidToDraw (pid : Int16)
  | YearToDraw (Year : UInt16) | tmpMonthToDraw (tmpMonth : UInt8) | dayToDraw (day : UInt8)
  deriving DecidableEq

def volumeUp : List KeyStatement := [.increment,.clamp,.playerVolumeSet,.volumeReportCallback]

def volumeDown : List KeyStatement := [.decrement,.playerVolumeSet,.volumeReportCallback]

/-- The volume is not reported here; the handler of the key sets its own copy. -/
def volumeMute : List KeyStatement := [.playerMute,.zeroStreamVolume]

def drawProgramNumber : List KeyStatement := [.settime .programNumber,.show .programNumber]

def drawVolumeBar : List KeyStatement := [.volumeToDraw,.settime .volume,.show .volume]

def drawInfoRect (i : InfoToDraw) : List KeyStatement :=
  [.settime .info,.audioPidToDraw i.audioPidToDraw,.videoPidToDraw i.videoPidToDraw,
    .YearToDraw i.YearToDraw,.tmpMonthToDraw i.tmpMonthToDraw,.dayToDraw i.dayToDraw,.show .info]

/-- `remoteControllerCallback`, as far as it draws.  The arguments of `drawInfoRect` are what
`getChannelInfo` and the date callback have left. -/
def remoteControllerCallback (key : KeyCode) (i : InfoToDraw) : List KeyStatement :=
  match key with
  | .info => drawInfoRect i
  | .pPlus => drawProgramNumber
  | .vPlus => volumeUp ++ drawVolumeBar
  | .vMinus => volumeDown ++ drawVolumeBar
  | .mute => volumeMute ++ .zeroVolume :: drawVolumeBar
  | .pMinus | .exit | .digit _ | .other => []

abbrev volumeConstant : UInt32 := 160400000

def KeyStatement.onVolumes (v : Volumes) : KeyStatement → Volumes
  | .increment => { v with streamVolume := v.streamVolume+1 }
  | .clamp => if v.streamVolume > 10 then { v with streamVolume := 10 } else v
  | .decrement => if v.streamVolume > 0 then { v with streamVolume := v.streamVolume-1 } else v
  | .playerVolumeSet => { v with playerVolume := some (v.streamVolume*volumeConstant) }
  | .volumeReportCallback => { v with currentVolume := v.streamVolume.toUInt8 }
  | .playerMute => { v with playerVolume := some 0 }
  | .zeroStreamVolume => { v with streamVolume := 0 }
  | .zeroVolume => { v with currentVolume := 0 }
  | .volumeToDraw => { v with volumeToDraw := v.currentVolume.toNat }
  | .settime _ | .show _ => v
  | .audioPidToDraw _ | .videoPidToDraw _ | .YearToDraw _ | .tmpMonthToDraw _ | .dayToDraw _ => v

def KeyStatement.onInfo (i : InfoToDraw) : KeyStatement → InfoToDraw
  | .audioPidToDraw pid => { i with audioPidToDraw := pid }
  | .videoPidToDraw pid => { i with videoPidToDraw := pid }
  | .YearToDraw Year => { i with YearToDraw := Year }
  | .tmpMonthToDraw tmpMonth => { i with tmpMonthToDraw := tmpMonth }
  | .dayToDraw day => { i with dayToDraw := day }
  | _ => i

inductive RenderPc
  | testStop | wipeScreen | testVolume | createImageProvider | getSurfaceDescription | renderTo
  | releaseProvider | blit | testInfo | fillRectangle | formatVideoPid | drawVideoPid
  | formatAudioPid | drawAudioPid | formatDate | drawDate | flip | signal | ended
  deriving DecidableEq, Repr

inductive ImageProvider
  | null | live | released
  deriving DecidableEq, Repr

inductive DeinitPc
  | running | waiting | joining | timersDeleted | primaryReleased
  deriving DecidableEq, Repr

/-- A call through a dead image provider or a released surface, a text that does not fit, and
a start of a timer that is gone. -/
inductive GraphicsFault
  | deadProvider | primaryReleased | tempStringOverrun | timerDeleted
  deriving DecidableEq, Repr

structure Graphics where
  volumes : Volumes
  /-- The flags `showProgramNumber`, `showVolume` and `showInfo`. -/
  shown : Overlay → Bool
  info : InfoToDraw
  timer : Overlay → OverlayTimer
  /-- Statements left of the handler in progress. -/
  keyThread : List KeyStatement
  render : RenderPc
  provider : ImageProvider
  tempString : List Char
  stopDrawing : Bool
  main : DeinitPc
  fault : Option GraphicsFault

inductive GraphicsEvent
  /-- A key is handled, with the arguments of `drawInfoRect` in case it is INFO. -/
  | key (key : KeyCode) (i : InfoToDraw)
  | keyStatement
  | expires (o : Overlay)
  /-- `removeProgramNumber`, `removeVolumeBar` or `removeInfo`. -/
  | remove (o : Overlay)
  | render
  | main

def DeinitPc.afterTimers : DeinitPc → Bool
  | .timersDeleted | .primaryReleased => true
  | .running | .waiting | .joining => false

namespace Graphics

def fail (s : Graphics) (f : GraphicsFault) : Graphics := { s with fault := some f }

def setShown (s : Graphics) (o : Overlay) (b : Bool) : Graphics :=
  { s with shown := Function.update s.shown o b }

def setTimer (s : Graphics) (o : Overlay) (t : OverlayTimer) : Graphics :=
  { s with timer := Function.update s.timer o t }

/-- One statement of a handler.  Arming a timer that is armed starts it again. -/
def execute (s : Graphics) (st : KeyStatement) : Graphics :=
  match st with
  | .settime o =>
    if s.main.afterTimers then s.fail .timerDeleted
    else s.setTimer o { s.timer o with armed := true }
  | .show o => s.setShown o true
  | st => { s with volumes := st.onVolumes s.volumes, info := st.onInfo s.info }

def usesPrimary (s : Graphics) (next : RenderPc) : Graphics :=
  if s.main = .primaryReleased then s.fail .primaryReleased else { s with render := next }

def usesProvider (s : Graphics) (provider : ImageProvider) (next : RenderPc) : Graphics :=
  if s.provider = .live then { s with provider := provider, render := next }
  else s.fail .deadProvider

/-- `sprintf(tempString, …)`; the terminating zero needs a place too. -/
def sprintf (s : Graphics) (text : List Char) (next : RenderPc) : Graphics :=
  if text.length < tempStringSize then { s with tempString := text, render := next }
  else s.fail .tempStringOverrun

def renderStep (s : Graphics) : Option Graphics :=
  match s.render with
  | .testStop => some { s with render := if s.stopDrawing then .signal else .wipeScreen }
  | .wipeScreen => some (s.usesPrimary .testVolume)
  | .testVolume =>
    some { s with render := if s.shown .volume then .createImageProvider else .testInfo }
  -- the `switch` has cases 0 to 10 and no default
  | .createImageProvider =>
    some { s with
      provider := if 0 ≤ s.volumes.volumeToDraw ∧ s.volumes.volumeToDraw ≤ 10 then .live else s.provider
      render := .getSurfaceDescription }
  | .getSurfaceDescription => some (s.usesProvider .live .renderTo)
  | .renderTo => some (s.usesProvider .live .releaseProvider)
  | .releaseProvider => some (s.usesProvider .released .blit)
  | .blit => some (s.usesPrimary .testInfo)
  | .testInfo => some { s with render := if s.shown .info then .fillRectangle else .flip }
  | .fillRectangle => some (s.usesPrimary .formatVideoPid)
  | .formatVideoPid => some (s.sprintf (videoPidText s.info.videoPidToDraw) .drawVideoPid)
  | .drawVideoPid => some (s.usesPrimary .formatAudioPid)
  | .formatAudioPid => some (s.sprintf (audioPidText s.info.audioPidToDraw) .drawAudioPid)
  | .drawAudioPid => some (s.usesPrimary .formatDate)
  | .formatDate =>
    match dateText s.info.YearToDraw s.info.tmpMonthToDraw s.info.dayToDraw with
    | some text => some (s.sprintf text .drawDate)
    -- the text of the audio pid is drawn once more
    | none => some { s with render := .drawDate }
  | .drawDate => some (s.usesPrimary .flip)
  | .flip => some (s.usesPrimary .testStop)
  | .signal => some { s with render := .ended }
  | .ended => none

/-- One step of `graphicsControllerDeinit`.  The wait for `graphicsCond` may end at any
time; the join ends when the render thread has.  That main waits without having locked
`graphicsMutex`, which POSIX leaves undefined, is taken as a wait and as no fault. -/
def mainStep (s : Graphics) : Option Graphics :=
  match s.main with
  | .running => some { s with main := .waiting, stopDrawing := true }
  | .waiting => some { s with main := .joining }
  | .joining =>
    if s.render = .ended then
      some { s with main := .timersDeleted, timer := fun o => { s.timer o with armed := false } }
    else none
  | .timersDeleted => some { s with main := .primaryReleased }
  | .primaryReleased => none

/-- A fault ends the run. -/
def step (s : Graphics) (e : GraphicsEvent) : Option Graphics :=
  if s.fault.isSome then none
  else match e with
  | .key key i =>
    match s.keyThread with
    | [] => some { s with keyThread := remoteControllerCallback key i }
    | _ => none
  | .keyStatement =>
    match s.keyThread with
    | [] => none
    | st :: rest => some ({ s with keyThread := rest }.execute st)
  | .expires o =>
    if (s.timer o).armed then some (s.setTimer o ⟨false,(s.timer o).pending+1⟩) else none
  | .remove o =>
    if 0 < (s.timer o).pending then
      some ((s.setTimer o { s.timer o with pending := (s.timer o).pending-1 }).setShown o false)
    else none
  | .render => s.renderStep
  | .main => s.mainStep

/-- At the end of `graphicsControllerInit`, with the volume that the keys have set so far. -/
def initial (volume : ℕ) : Graphics where
  volumes := ⟨UInt32.ofNat volume,none,UInt8.ofNat volume,0⟩
  shown := fun _ => false
  info := ⟨1000,0,0,0,0⟩
  timer := fun _ => ⟨false,0⟩
  keyThread := []
  render := .testStop
  provider := .null
  tempString := []
  stopDrawing := false
  main := .running
  fault := none

variable {s s' : Graphics}

theorem execute_volumes (s : Graphics) (st : KeyStatement) :
    (s.execute st).volumes = st.onVolumes s.volumes := by
  cases st with
  | settime o =>
    rw [execute]
    split
    · rfl
    · rfl
  | _ => rfl

@[simp] theorem execute_keyThread (s : Graphics) (st : KeyStatement) :
    (s.execute st).keyThread = s.keyThread := by
  cases st with
  | settime o =>
    rw [execute]
    split
    · rfl
    · rfl
  | _ => rfl

theorem execute_shown {st : KeyStatement} {o : Overlay} (h : (s.execute st).shown o = true) :
    s.shown o = true ∨ st = .show o := by
  cases st with
  | settime o' =>
    rw [execute] at h
    split at h
    · exact .inl h
    · exact .inl h
  | «show» o' =>
    by_cases ho : o = o'
    · exact .inr (ho ▸ rfl)
    · left
      simpa [execute,setShown,ho] using h
  | _ => exact .inl h

/-- A step of the render thread writes the variables of that thread only. -/
structure RenderOnly (s s' : Graphics) : Prop where
  volumes : s'.volumes = s.volumes
  shown : s'.shown = s.shown
  timer : s'.timer = s.timer
  keyThread : s'.keyThread = s.keyThread
  stopDrawing : s'.stopDrawing = s.stopDrawing
  main : s'.main = s.main

theorem usesPrimary_renderOnly (s : Graphics) (next : RenderPc) :
    RenderOnly s (s.usesPrimary next) := by
  rw [usesPrimary]
  split
  · exact ⟨rfl,rfl,rfl,rfl,rfl,rfl⟩
  · exact ⟨rfl,rfl,rfl,rfl,rfl,rfl⟩

theorem usesProvider_renderOnly (s : Graphics) (provider : ImageProvider) (next : RenderPc) :
    RenderOnly s (s.usesProvider provider next) := by
  rw [usesProvider]
  split
  · exact ⟨rfl,rfl,rfl,rfl,rfl,rfl⟩
  · exact ⟨rfl,rfl,rfl,rfl,rfl,rfl⟩

theorem sprintf_renderOnly (s : Graphics) (text : List Char) (next : RenderPc) :
    RenderOnly s (s.sprintf text next) := by
  rw [sprintf]
  split
  · exact ⟨rfl,rfl,rfl,rfl,rfl,rfl⟩
  · exact ⟨rfl,rfl,rfl,rfl,rfl,rfl⟩

theorem renderStep_renderOnly (h : s.renderStep = some s') : RenderOnly s s' := by
  cases hpc : s.render with
  | testStop | testVolume | createImageProvider | testInfo | signal =>
    simp only [renderStep,hpc,Option.some.injEq] at h
    subst h
    exact ⟨rfl,rfl,rfl,rfl,rfl,rfl⟩
  | wipeScreen | blit | fillRectangle | drawVideoPid | drawAudioPid | drawDate | flip =>
    simp only [renderStep,hpc,Option.some.injEq] at h
    subst h
    exact usesPrimary_renderOnly s _
  | getSurfaceDescription | renderTo | releaseProvider =>
    simp only [renderStep,hpc,Option.some.injEq] at h
    subst h
    exact usesProvider_renderOnly s _ _
  | formatVideoPid | formatAudioPid =>
    simp only [renderStep,hpc,Option.some.injEq] at h
    subst h
    exact sprintf_renderOnly s _ _
  | formatDate =>
    simp only [renderStep,hpc] at h
    split at h
    · cases h
      exact sprintf_renderOnly s _ _
    · cases h
      exact ⟨rfl,rfl,rfl,rfl,rfl,rfl⟩
  | ended =>
    simp only [renderStep,hpc] at h
    cases h

structure MainOnly (s s' : Graphics) : Prop where
  volumes : s'.volumes = s.volumes
  shown : s'.shown = s.shown
  keyThread : s'.keyThread = s.keyThread
  render : s'.render = s.render
  provider : s'.provider = s.provider
  fault : s'.fault = s.fault

theorem mainStep_mainOnly (h : s.mainStep = some s') : MainOnly s s' := by
  rw [mainStep] at h
  split at h
  · cases h
    exact ⟨rfl,rfl,rfl,rfl,rfl,rfl⟩
  · cases h
    exact ⟨rfl,rfl,rfl,rfl,rfl,rfl⟩
  · split at h
    · cases h
      exact ⟨rfl,rfl,rfl,rfl,rfl,rfl⟩
    · cases h
  · cases h
    exact ⟨rfl,rfl,rfl,rfl,rfl,rfl⟩
  · cases h

theorem step_cases {e : GraphicsEvent} (h : s.step e = some s') :
    s.fault = none ∧
    ((∃ key i, e = .key key i ∧ s.keyThread = [] ∧
        s' = { s with keyThread := remoteControllerCallback key i }) ∨
      (∃ st rest, e = .keyStatement ∧ s.keyThread = st :: rest ∧
        s' = { s with keyThread := rest }.execute st) ∨
      (∃ o, e = .expires o ∧ (s.timer o).armed = true ∧
        s' = s.setTimer o ⟨false,(s.timer o).pending+1⟩) ∨
      (∃ o, e = .remove o ∧ 0 < (s.timer o).pending ∧
        s' = (s.setTimer o { s.timer o with pending := (s.timer o).pending-1 }).setShown o false) ∨
      (e = .render ∧ s.renderStep = some s') ∨
      (e = .main ∧ s.mainStep = some s')) := by
  unfold step at h
  split at h
  · cases h
  · rename_i hfault
    refine ⟨by simpa using hfault,?_⟩
    cases e with
    | key key i =>
      simp only at h
      split at h
      · rename_i hidle
        cases h
        exact .inl ⟨key,i,rfl,hidle,rfl⟩
      · cases h
    | keyStatement =>
      simp only at h
      split at h
      · cases h
      · rename_i st rest hthread
        cases h
        exact .inr (.inl ⟨st,rest,rfl,hthread,rfl⟩)
    | expires o =>
      simp only at h
      split at h
      · rename_i harmed
        cases h
        exact .inr (.inr (.inl ⟨o,rfl,harmed,rfl⟩))
      · cases h
    | remove o =>
      simp only at h
      split at h
      · rename_i hpending
        cases h
        exact .inr (.inr (.inr (.inl ⟨o,rfl,hpending,rfl⟩)))
      · cases h
    | render => exact .inr (.inr (.inr (.inr (.inl ⟨rfl,h⟩))))
    | main => exact .inr (.inr (.inr (.inr (.inr ⟨rfl,h⟩))))

end Graphics
end TvApp

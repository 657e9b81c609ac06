import TvApp.ChannelStreams
import TvApp.Observation
import TvApp.TunedCall

/-! What is seen and heard.
For a viewer the controller is a machine with two positions, the picture and the sound,
which a started channel moves: the picture is replaced or goes dark, the sound is
replaced or goes on.  The streams of the player are those of this machine after the
channels stored so far, whatever the calls in between have run into. -/
namespace TvApp

open Routine StreamKind

variable {D : Type}

structure Watched where
  video : Option Int16
  audio : Option Int16
  deriving DecidableEq

/-- A pid variable of `startChannel`, where -1 stands for none. -/
def pidOption (pid : Int16) : Option Int16 := if pid = -1 then none else some pid

theorem pidOption_of_ne {pid : Int16} (h : pid ≠ -1) : pidOption pid = some pid := if_neg h

namespace Watched

def nothing : Watched := ⟨none,none⟩

/-- A channel is started: without a video pid the screen is cleared, without an audio
pid the old sound stays. -/
def tune (w : Watched) (channel : ChannelInfo) : Watched :=
  ⟨pidOption channel.videoPid,(pidOption channel.audioPid).or w.audio⟩

def pid (w : Watched) : StreamKind → Option Int16
  | videoTypeMpeg2 => w.video
  | audioTypeMpegAudio => w.audio

theorem foldl_tune_video (channels : List ChannelInfo) :
    (channels.foldl tune nothing).video =
      channels.getLast?.bind fun channel => pidOption channel.videoPid := by
  induction channels using List.reverseRecOn with
  | nil => rfl
  | append_singleton channels channel _ =>
    rw [List.foldl_append,List.getLast?_concat]
    rfl

theorem foldl_tune_audio (channels : List ChannelInfo) :
    (channels.foldl tune nothing).audio =
      (channels.filterMap fun channel => pidOption channel.audioPid).getLast? := by
  induction channels using List.reverseRecOn with
  | nil => rfl
  | append_singleton channels channel ih =>
    rw [List.foldl_append,List.filterMap_append,List.getLast?_append,← ih]
    cases hpid : pidOption channel.audioPid with
    | none => simp [tune,hpid]
    | some pid => simp [tune,hpid]

end Watched

/-- The live streams of a kind: one on the pid with the handle of the variable, or none. -/
def LiveIs (api : TdpApi D) (s : Controller D) (kind : StreamKind) (pid : Option Int16) : Prop :=
  api.live kind s.device = {st | st.handle = s.streamHandle kind ∧ some st.pid = pid ∧ st.kind = kind}

section LiveIs

variable {api : TdpApi D} {s s' : Controller D} {kind : StreamKind} {pid : Option Int16}

theorem LiveIs.congr (h : LiveIs api s kind pid)
    (hlive : api.live kind s'.device = api.live kind s.device)
    (hhandle : s'.streamHandle kind = s.streamHandle kind) : LiveIs api s' kind pid := by
  rw [LiveIs,hlive,hhandle]
  exact h

theorem LiveIs.none_iff : LiveIs api s kind none ↔ api.live kind s.device = ∅ := by
  simp [LiveIs]

theorem LiveIs.some_of_singleton {p : Int16}
    (hlive : api.live kind s.device = {⟨s.streamHandle kind,p,kind⟩}) : LiveIs api s kind (some p) := by
  rw [LiveIs,hlive]
  ext ⟨handle,pid,kind'⟩
  simp only [Set.mem_singleton_iff,Set.mem_ofPred_eq,PlayerStream.mk.injEq,Option.some.injEq]

end LiveIs

def Plays (api : TdpApi D) (s : Controller D) (w : Watched) : Prop :=
  ∀ kind, LiveIs api s kind (w.pid kind)

theorem Plays.congr {api : TdpApi D} {s s' : Controller D} {w : Watched} (h : Plays api s w)
    (hstreams : api.streams s'.device = api.streams s.device)
    (hhandle : ∀ kind, s'.streamHandle kind = s.streamHandle kind) : Plays api s' w :=
  fun kind => (h kind).congr (TdpApi.live_congr hstreams kind) (hhandle kind)

def storedBy (api : TdpApi D) (c : Config D) (x : Action) : List ChannelInfo :=
  match x,c.frame.label with
  | .advance _,.storeChannel => [(act api c x).controller.currentChannel]
  | _,_ => []

theorem storedBy_of_ne (api : TdpApi D) {c : Config D} (h : c.frame.label ≠ .storeChannel) (x : Action) :
    storedBy api c x = [] := by
  simp only [storedBy]
  split
  · contradiction
  · rfl

def storedChannels (api : TdpApi D) (c : Config D) (actions : List Action) : List ChannelInfo :=
  emitted (act api) (storedBy api) c actions

/-- What holds at a label when `w` has been watched up to then.  Between the scan and
the store the streams are on their way from the old pids to the new ones, the picture
first. -/
def OnAir (api : TdpApi D) (c : Config D) (w : Watched) : Prop :=
  let video := LiveIs api c.controller videoTypeMpeg2 (pidOption c.frame.videoPid)
  let audio := LiveIs api c.controller audioTypeMpegAudio w.audio
  match c.frame.label with
  | .testVideo => audio
  | .testHandleV | .removeVideo | .zeroVideo | .createVideo => audio ∧ c.frame.videoPid ≠ -1
  | .dropVideo | .zeroDroppedVideo | .clearScreen => audio ∧ c.frame.videoPid = -1
  | .testAudio => audio ∧ video
  | .testHandleA | .removeAudio | .zeroAudio | .createAudio => c.frame.audioPid ≠ -1 ∧ video
  | .storeChannel => video ∧ LiveIs api c.controller audioTypeMpegAudio
      ((pidOption c.frame.audioPid).or w.audio)
  -- no lawful player comes here
  | .deinit => False
  | _ => Plays api c.controller w

theorem OnAir.of_plays {api : TdpApi D} {c : Config D} {w : Watched}
    (hl : c.frame.label.selected = false) (hne : c.frame.label ≠ .deinit)
    (h : Plays api c.controller w) : OnAir api c w := by
  rw [OnAir]
  cases hc : c.frame.label <;> rw [hc] at hl hne <;>
    first | exact h | exact absurd rfl hne | cases hl

theorem OnAir.plays {api : TdpApi D} {c : Config D} {w : Watched}
    (h : OnAir api c w) (hl : c.frame.label.selected = false) : Plays api c.controller w := by
  rw [OnAir] at h
  cases hc : c.frame.label <;> rw [hc] at hl <;> simp only [hc] at h <;>
    first | exact h | exact h.elim | cases hl

variable {api : TdpApi D} {c : Config D} {w : Watched}

theorem step_onAir_outside (ha : api.Lawful) (h : Plays api c.controller w)
    (hl : c.frame.label.selected = false) (hne : c.frame.label ≠ .deinit) (a : Arrival) :
    OnAir api (step api c a) w := by
  cases hc : c.frame.label
  case setPatFilter | setTdtFilter | setTotFilter =>
    simp only [step,hc,Config.setFilter]
    have hstreams := ha.set_streams c.controller.device
    split
    · exact h.congr (hstreams _ _) fun kind => by cases kind <;> rfl
    · exact h.congr (hstreams _ _) fun kind => by cases kind <;> rfl
  case setPmtFilter =>
    simp only [step,hc,Config.setFilter]
    have hstreams := ha.set_streams c.controller.device
    split
    · split
      · exact h.congr (hstreams _ _) fun kind => by cases kind <;> rfl
      · exact h.congr (hstreams _ _) fun kind => by cases kind <;> rfl
    · exact h
  case freeFilter | freeForTdt | freeForTot =>
    simp only [step,hc]
    exact h.congr (ha.free_streams _ _) fun kind => by cases kind <;> rfl
  case scan =>
    simp only [step,hc]
    split
    · exact h audioTypeMpegAudio
    · exact h
  case waitPat | waitPmt | waitTdt | waitTot | storeDate | setTimeTablesRecieved =>
    simp only [step,hc]
    exact h.congr rfl fun kind => by cases kind <;> rfl
  case testTimeTables =>
    simp only [step,hc]
    split <;> exact h
  case ready | returned | filterFailed | fault =>
    simp only [step,hc]
    exact .of_plays hl hne h
  case deinit => exact absurd hc hne
  all_goals
    rw [hc] at hl
    cases hl

theorem step_onAir_selected (ha : api.Lawful) (ho : Owns api c) (h : OnAir api c w)
    (hl : c.frame.label.selected) (hstore : c.frame.label ≠ .storeChannel) (a : Arrival) :
    OnAir api (step api c a) w := by
  cases hc : c.frame.label <;> simp only [OnAir,hc] at h
  case testVideo =>
    simp only [step,hc]
    split
    · rename_i hpid
      exact ⟨h,hpid⟩
    · rename_i hpid
      exact ⟨h,not_not.mp hpid⟩
  case testHandleV =>
    simp only [step,hc]
    split <;> exact h
  case removeVideo | dropVideo =>
    simp only [step,hc]
    have hother := (ho.live_remove ha videoTypeMpeg2 (by rw [hc]; rfl)).2 audioTypeMpegAudio (by decide)
    exact ⟨h.1.congr hother rfl,h.2⟩
  case zeroVideo | zeroDroppedVideo =>
    simp only [step,hc]
    exact ⟨h.1.congr rfl rfl,h.2⟩
  case createVideo =>
    simp only [step,hc]
    cases hr : (api.playerStreamCreate c.controller.device c.frame.videoPid videoTypeMpeg2).1 with
    | none => exact absurd hr (ha.create_ne_none _ _ _)
    | some g =>
      obtain ⟨hsame,hother⟩ := ho.live_create ha hr (by rw [hc]; rfl)
      refine ⟨h.1.congr (hother audioTypeMpegAudio (by decide)) rfl,?_⟩
      simp only [Config.goto,Config.withDevice,Config.withStreamHandleV]
      rw [pidOption_of_ne h.2]
      exact .some_of_singleton hsame
  case clearScreen =>
    simp only [step,hc]
    have hlive := TdpApi.live_congr (ha.clear_streams c.controller.device)
    have hempty : api.live videoTypeMpeg2 c.controller.device = ∅ := ho.live_empty (by rw [hc]; rfl)
    refine ⟨h.1.congr (hlive audioTypeMpegAudio) rfl,?_⟩
    simp only [Config.goto,Config.withDevice]
    rw [h.2]
    exact LiveIs.none_iff.2 ((hlive videoTypeMpeg2).trans hempty)
  case testAudio =>
    simp only [step,hc]
    split
    · rename_i hpid
      exact ⟨hpid,h.2⟩
    · rename_i hpid
      refine ⟨h.2,?_⟩
      simp only [Config.goto]
      rw [not_not.mp hpid]
      exact h.1
  case testHandleA =>
    simp only [step,hc]
    split <;> exact h
  case removeAudio =>
    simp only [step,hc]
    have hother := (ho.live_remove ha audioTypeMpegAudio (by rw [hc]; rfl)).2 videoTypeMpeg2 (by decide)
    exact ⟨h.1,h.2.congr hother rfl⟩
  case zeroAudio =>
    simp only [step,hc]
    exact ⟨h.1,h.2.congr rfl rfl⟩
  case createAudio =>
    simp only [step,hc]
    cases hr : (api.playerStreamCreate c.controller.device c.frame.audioPid audioTypeMpegAudio).1 with
    | none => exact absurd hr (ha.create_ne_none _ _ _)
    | some g =>
      obtain ⟨hsame,hother⟩ := ho.live_create ha hr (by rw [hc]; rfl)
      refine ⟨h.2.congr (hother videoTypeMpeg2 (by decide)) rfl,?_⟩
      simp only [Config.goto,Config.withDevice,Config.withStreamHandleA]
      rw [pidOption_of_ne h.1]
      exact .some_of_singleton hsame
  case storeChannel => exact absurd hc hstore
  all_goals
    rw [hc] at hl
    cases hl

theorem step_onAir_store (h : OnAir api c w) (hc : c.frame.label = .storeChannel) (a : Arrival) :
    OnAir api (step api c a) (w.tune (step api c a).controller.currentChannel) := by
  simp only [OnAir,hc] at h
  simp only [step,hc]
  intro kind
  cases kind with
  | videoTypeMpeg2 => exact h.1.congr rfl rfl
  | audioTypeMpegAudio => exact h.2.congr rfl rfl

theorem act_onAir (ha : api.Lawful) (ho : Owns api c) (h : OnAir api c w) (x : Action) :
    OnAir api (act api c x) ((storedBy api c x).foldl Watched.tune w) := by
  have hdeinit : c.frame.label ≠ .deinit := fun hc => by simp only [OnAir,hc] at h
  cases x with
  | advance a =>
    by_cases hstore : c.frame.label = .storeChannel
    · have hstored : storedBy api c (.advance a) = [(step api c a).controller.currentChannel] := by
        simp only [storedBy,hstore]
        rfl
      rw [hstored]
      exact step_onAir_store h hstore a
    · rw [storedBy_of_ne api hstore]
      cases hl : c.frame.label.selected with
      | true => exact step_onAir_selected ha ho h hl hstore a
      | false => exact step_onAir_outside ha (h.plays hl) hl hdeinit a
  | call n =>
    simp only [act,storedBy,List.foldl_nil]
    split
    · rename_i hidle
      refine .of_plays rfl (fun hc => ?_) (h.plays ?_)
      · cases hc
      · revert hidle
        cases c.frame.label <;> decide
    · exact h

theorem boot_onAir {s : Controller D} (hs : s.Fresh api) : OnAir api (boot s) .nothing := by
  refine .of_plays rfl (fun hc => ?_) fun kind => ?_
  · cases hc
  · have hempty : api.live kind s.device = ∅ := by
      simp [TdpApi.live,hs.streams]
    cases kind <;> exact LiveIs.none_iff.2 hempty

theorem runActions_onAir (ha : api.Lawful) {s : Controller D} (hs : s.Fresh api)
    (actions : List Action) :
    OnAir api (runActions api (boot s) actions)
      ((storedChannels api (boot s) actions).foldl Watched.tune .nothing) := by
  have h := related_of_emitted (fun c w => Owns api c ∧ OnAir api c w)
    (fun x h => ⟨act_owns ha h.1 x,act_onAir ha h.1 h.2 x⟩)
    ⟨boot_owns hs,boot_onAir hs⟩ actions
  exact h.2

/-- In every run from boot, at every point outside the part of a call between its scan and
its store, one video stream is alive, on the pid of the last channel stored, or none if
that has no video or nothing has been stored; and one audio stream, on the pid of the
last stored channel that has audio, or none if there was none.  Both have the handle
kept in their variable. -/
theorem streams_are_those_watched (ha : api.Lawful) {s : Controller D} (hs : s.Fresh api)
    (actions : List Action)
    (hl : (runActions api (boot s) actions).frame.label.selected = false) :
    let c := (runActions api (boot s) actions).controller
    let stored := storedChannels api (boot s) actions
    LiveIs api c videoTypeMpeg2 (stored.getLast?.bind fun channel => pidOption channel.videoPid) ∧
    LiveIs api c audioTypeMpegAudio
      (stored.filterMap fun channel => pidOption channel.audioPid).getLast? := by
  have hplays := (runActions_onAir ha hs actions).plays hl
  refine ⟨?_,?_⟩
  · rw [← Watched.foldl_tune_video]
    exact hplays videoTypeMpeg2
  · rw [← Watched.foldl_tune_audio]
    exact hplays audioTypeMpegAudio

theorem sampleVideoOnly_streams_watched :
    let c := runActions referenceApi (boot (Controller.initial (.new []) 0)) sampleVideoOnly
    c.frame.label.selected = false ∧
      LiveIs referenceApi c.controller videoTypeMpeg2 (some 0x201) ∧
      LiveIs referenceApi c.controller audioTypeMpegAudio (some 0x102) := by
  have hl : (runActions referenceApi (boot (Controller.initial (.new []) 0))
      sampleVideoOnly).frame.label.selected = false := by decide +kernel
  have hvideo : ((storedChannels referenceApi (boot (Controller.initial (.new []) 0))
      sampleVideoOnly).getLast?.bind fun channel => pidOption channel.videoPid) = some 0x201 := by
    decide +kernel
  have haudio : ((storedChannels referenceApi (boot (Controller.initial (.new []) 0))
      sampleVideoOnly).filterMap fun channel => pidOption channel.audioPid).getLast? = some 0x102 := by
    decide +kernel
  have h := streams_are_those_watched referenceApi_lawful (Controller.initial_fresh [] 0)
    sampleVideoOnly hl
  simp only [hvideo,haudio] at h
  exact ⟨hl,h⟩

end TvApp

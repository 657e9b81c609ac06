import TvApp.Graphics

/-! The volume, from the keys to the player and to the bar on the screen.
The keys mean a knob with eleven positions.  The stream controller and the application
keep a volume each, the player has its own scale, and the bar is drawn from a fourth
variable by another thread: in between the statements of a handler they differ. -/
namespace TvApp

/-- A knob with the positions 0 to 10, as the keys turn it. -/
def turn (position : ℕ) : KeyCode → ℕ
  | .vPlus => min (position+1) 10
  | .vMinus => position-1
  | .mute => 0
  | .info | .pPlus | .pMinus | .exit | .digit _ | .other => position

def KeyCode.turns : KeyCode → Bool
  | .vPlus | .vMinus | .mute => true
  | .info | .pPlus | .pMinus | .exit | .digit _ | .other => false

theorem turn_le {position : ℕ} (h : position ≤ 10) (key : KeyCode) : turn position key ≤ 10 := by
  cases key with
  | vPlus => exact Nat.min_le_right _ _
  | vMinus => exact (Nat.sub_le position 1).trans h
  | mute => exact Nat.zero_le 10
  | _ => exact h

theorem foldl_turn_le {position : ℕ} (h : position ≤ 10) (keys : List KeyCode) :
    keys.foldl turn position ≤ 10 := by
  induction keys generalizing position with
  | nil => exact h
  | cons key keys ih => exact ih (turn_le h key)

namespace Volumes

structure At (v : Volumes) (position : ℕ) : Prop where
  stream : v.streamVolume.toNat = position
  application : v.currentVolume.toNat = position

/-- The player was last given the position on its scale, without wrap, and the bar is
drawn at the position. -/
structure Sounds (v : Volumes) (position : ℕ) : Prop where
  player : v.playerVolume.map UInt32.toNat = some (position*160400000)
  drawn : v.volumeToDraw = position

def Drawable (v : Volumes) : Prop := 0 ≤ v.volumeToDraw ∧ v.volumeToDraw ≤ 10

end Volumes

def onVolumesStep (v : Volumes) (st : KeyStatement) : Option Volumes := some (st.onVolumes v)

def finish (v : Volumes) (sts : List KeyStatement) : Volumes := sts.foldl KeyStatement.onVolumes v

variable {v : Volumes} {position : ℕ}

theorem finish_append (sts later : List KeyStatement) :
    finish v (sts ++ later) = finish (finish v sts) later := List.foldl_append

theorem increased_toNat {x : UInt32} (h : x.toNat ≤ 10) :
    (if x+1 > 10 then 10 else x+1 : UInt32).toNat = min (x.toNat+1) 10 := by
  have hsum : (x+1).toNat = x.toNat+1 := by
    rw [UInt32.toNat_add,UInt32.toNat_one]
    exact Nat.mod_eq_of_lt (by omega)
  have hten : (10 : UInt32).toNat = 10 := rfl
  by_cases hlarge : x+1 > 10
  · rw [if_pos hlarge,hten]
    have := UInt32.lt_iff_toNat_lt.1 hlarge
    omega
  · rw [if_neg hlarge,hsum]
    have := mt UInt32.lt_iff_toNat_lt.2 hlarge
    omega

theorem decreased_toNat (x : UInt32) :
    (if x > 0 then x-1 else x : UInt32).toNat = x.toNat-1 := by
  have hzero : (0 : UInt32).toNat = 0 := rfl
  by_cases hpos : x > 0
  · have hle : 1 ≤ x := UInt32.le_iff_toNat_le.2 (UInt32.lt_iff_toNat_lt.1 hpos)
    rw [if_pos hpos,UInt32.toNat_sub_of_le x 1 hle,UInt32.toNat_one]
  · rw [if_neg hpos]
    have := mt UInt32.lt_iff_toNat_lt.2 hpos
    omega

theorem scaled_toNat {x : UInt32} (h : x.toNat ≤ 10) :
    (x*volumeConstant).toNat = x.toNat*160400000 := by
  rw [UInt32.toNat_mul]
  have hconstant : volumeConstant.toNat = 160400000 := rfl
  rw [hconstant]
  exact Nat.mod_eq_of_lt (by omega)

theorem reported_toNat {x : UInt32} (h : x.toNat ≤ 10) : x.toUInt8.toNat = x.toNat := by
  rw [UInt32.toNat_toUInt8]
  exact Nat.mod_eq_of_lt (by omega)

theorem finish_volumeUp (h : v.streamVolume.toNat = position) (hposition : position ≤ 10) :
    (finish v [.increment,.clamp]).streamVolume.toNat = min (position+1) 10 := by
  subst h
  rw [← increased_toNat hposition]
  simp only [finish,List.foldl_cons,List.foldl_nil,KeyStatement.onVolumes]
  split
  · rfl
  · rfl

theorem finish_volumeDown (h : v.streamVolume.toNat = position) :
    (finish v [.decrement]).streamVolume.toNat = position-1 := by
  subst h
  rw [← decreased_toNat]
  simp only [finish,List.foldl_cons,List.foldl_nil,KeyStatement.onVolumes]
  split
  · rfl
  · rfl

theorem finish_reported (h : v.streamVolume.toNat = position) (hposition : position ≤ 10) :
    (finish v ([.playerVolumeSet,.volumeReportCallback] ++ drawVolumeBar)).At position ∧
      (finish v ([.playerVolumeSet,.volumeReportCallback] ++ drawVolumeBar)).Sounds position := by
  subst h
  have hreported := reported_toNat hposition
  refine ⟨⟨rfl,hreported⟩,⟨?_,?_⟩⟩
  · exact congrArg some (scaled_toNat hposition)
  · exact congrArg Nat.cast hreported

theorem turning_handler {key : KeyCode} (hkey : key.turns = true) (i : InfoToDraw) :
    ∃ sts, (∀ st ∈ sts, st ≠ .volumeToDraw) ∧
      remoteControllerCallback key i = sts ++ drawVolumeBar := by
  cases key with
  | vPlus => exact ⟨volumeUp,by decide,rfl⟩
  | vMinus => exact ⟨volumeDown,by decide,rfl⟩
  | mute => exact ⟨volumeMute ++ [.zeroVolume],by decide,rfl⟩
  | _ => cases hkey

theorem finish_turning {key : KeyCode} (hkey : key.turns = true) (i : InfoToDraw)
    (h : v.At position) (hposition : position ≤ 10) :
    (finish v (remoteControllerCallback key i)).At (turn position key) ∧
      (finish v (remoteControllerCallback key i)).Sounds (turn position key) := by
  cases key with
  | vPlus =>
    have hhandler : remoteControllerCallback .vPlus i = [.increment,.clamp] ++
        ([.playerVolumeSet,.volumeReportCallback] ++ drawVolumeBar) := rfl
    rw [hhandler,finish_append]
    exact finish_reported (finish_volumeUp h.stream hposition) (turn_le hposition .vPlus)
  | vMinus =>
    have hhandler : remoteControllerCallback .vMinus i = [.decrement] ++
        ([.playerVolumeSet,.volumeReportCallback] ++ drawVolumeBar) := rfl
    rw [hhandler,finish_append]
    exact finish_reported (finish_volumeDown h.stream) (turn_le hposition .vMinus)
  | mute =>
    refine ⟨⟨rfl,rfl⟩,⟨?_,rfl⟩⟩
    rw [turn,Nat.zero_mul]
    rfl
  | _ => cases hkey

theorem finish_other {key : KeyCode} (hkey : key.turns = false) (i : InfoToDraw) :
    finish v (remoteControllerCallback key i) = v ∧ turn position key = position := by
  cases key with
  | vPlus | vMinus | mute => cases hkey
  | _ => exact ⟨rfl,rfl⟩

theorem onVolumes_volumeToDraw {st : KeyStatement} (h : st ≠ .volumeToDraw) :
    (st.onVolumes v).volumeToDraw = v.volumeToDraw := by
  cases st with
  | volumeToDraw => exact absurd rfl h
  | clamp | decrement =>
    rw [KeyStatement.onVolumes]
    split
    · rfl
    · rfl
  | _ => rfl

theorem always_drawable_append {sts later : List KeyStatement} (hv : v.Drawable)
    (hsts : ∀ st ∈ sts, st ≠ .volumeToDraw)
    (hlater : (finish v sts).Drawable → Always Volumes.Drawable onVolumesStep (finish v sts) later) :
    Always Volumes.Drawable onVolumesStep v (sts ++ later) := by
  induction sts generalizing v with
  | nil => exact hlater hv
  | cons st sts ih =>
    have hnext : (st.onVolumes v).Drawable := by
      rw [Volumes.Drawable,onVolumes_volumeToDraw (hsts st List.mem_cons_self)]
      exact hv
    refine (always_cons rfl).2 ⟨hv,ih hnext ?_ hlater⟩
    intro st' hst'
    exact hsts st' (List.mem_cons_of_mem st hst')

theorem always_drawable {sts : List KeyStatement} (hv : v.Drawable)
    (hsts : ∀ st ∈ sts, st ≠ .volumeToDraw) : Always Volumes.Drawable onVolumesStep v sts := by
  rw [← List.append_nil sts]
  exact always_drawable_append hv hsts id

theorem always_drawable_drawVolumeBar (hv : v.Drawable) (h : v.currentVolume.toNat ≤ 10) :
    Always Volumes.Drawable onVolumesStep v drawVolumeBar := by
  refine (always_cons rfl).2 ⟨hv,always_drawable ?_ (by decide)⟩
  exact ⟨Int.natCast_nonneg _,Int.ofNat_le.2 h⟩

theorem always_drawable_handler (key : KeyCode) (i : InfoToDraw) (hv : v.Drawable)
    (h : v.At position) (hposition : position ≤ 10) :
    Always Volumes.Drawable onVolumesStep v (remoteControllerCallback key i) := by
  by_cases hkey : key.turns = true
  · obtain ⟨sts,hsts,hhandler⟩ := turning_handler hkey i
    have hat := (finish_turning hkey i h hposition).1
    rw [hhandler,finish_append] at hat
    rw [hhandler]
    refine always_drawable_append hv hsts fun hdrawn => always_drawable_drawVolumeBar hdrawn ?_
    exact hat.application.le.trans (turn_le hposition key)
  · refine always_drawable hv ?_
    cases key with
    | vPlus | vMinus | mute => exact absurd rfl hkey
    | info => simp [remoteControllerCallback,drawInfoRect]
    | pPlus => simp [remoteControllerCallback,drawProgramNumber]
    | _ => simp [remoteControllerCallback]

def handledKeys (_ : Graphics) : GraphicsEvent → List KeyCode
  | .key key _ => [key]
  | .keyStatement | .expires _ | .remove _ | .render | .main => []

structure VolumeInvariant (volume : ℕ) (s : Graphics) (keys : List KeyCode) : Prop where
  settles : (finish s.volumes s.keyThread).At (keys.foldl turn volume)
  sounds : keys.any KeyCode.turns = true →
    (finish s.volumes s.keyThread).Sounds (keys.foldl turn volume)
  drawable : Always Volumes.Drawable onVolumesStep s.volumes s.keyThread
  bar : s.shown .volume = true ∨ .show .volume ∈ s.keyThread → keys.any KeyCode.turns = true

namespace VolumeInvariant

variable {volume : ℕ} {s s' : Graphics} {keys : List KeyCode}

theorem of_initial (hvolume : volume ≤ 10) : VolumeInvariant volume (Graphics.initial volume) [] where
  settles := by
    constructor
    · exact Nat.mod_eq_of_lt (by omega)
    · exact Nat.mod_eq_of_lt (by omega)
  sounds h := absurd h (by simp)
  drawable := ⟨le_refl 0,(by norm_num : (0 : ℤ) ≤ 10)⟩
  bar h := by simp [Graphics.initial] at h

theorem frame (h : VolumeInvariant volume s keys) (hvolumes : s'.volumes = s.volumes)
    (hthread : s'.keyThread = s.keyThread)
    (hshown : s'.shown .volume = true → s.shown .volume = true) :
    VolumeInvariant volume s' keys where
  settles := by rw [hvolumes,hthread]; exact h.settles
  sounds := by rw [hvolumes,hthread]; exact h.sounds
  drawable := by rw [hvolumes,hthread]; exact h.drawable
  bar := by rw [hthread]; exact fun hbar => h.bar (hbar.imp_left hshown)

theorem key (hvolume : volume ≤ 10) (h : VolumeInvariant volume s keys) (key : KeyCode)
    (i : InfoToDraw) (hidle : s.keyThread = []) :
    VolumeInvariant volume { s with keyThread := remoteControllerCallback key i } (keys ++ [key]) := by
  obtain ⟨hsettles,hsounds,hdrawable,hbar⟩ := h
  rw [hidle] at hsettles hsounds hdrawable hbar
  have hposition := foldl_turn_le hvolume keys
  have hdrawn := always_drawable_handler key i hdrawable hsettles hposition
  by_cases hkey : key.turns = true
  · have hend := finish_turning hkey i hsettles hposition
    refine ⟨?_,fun _ => ?_,hdrawn,fun _ => by simp [hkey]⟩
    · rw [List.foldl_append]
      exact hend.1
    · rw [List.foldl_append]
      exact hend.2
  · have hstill : key.turns = false := by simpa using hkey
    have hend : ∀ position, finish s.volumes (remoteControllerCallback key i) = s.volumes ∧
        turn position key = position := fun position => finish_other hstill i
    have hany : (keys ++ [key]).any KeyCode.turns = keys.any KeyCode.turns := by simp [hstill]
    have hfold : (keys ++ [key]).foldl turn volume = keys.foldl turn volume := by
      rw [List.foldl_append]
      exact (hend _).2
    have hnobar : .show .volume ∉ remoteControllerCallback key i := by
      cases key with
      | vPlus | vMinus | mute => cases hstill
      | info => simp [remoteControllerCallback,drawInfoRect]
      | pPlus => simp [remoteControllerCallback,drawProgramNumber]
      | _ => simp [remoteControllerCallback]
    refine ⟨?_,?_,hdrawn,?_⟩
    · rw [hfold,(hend 0).1]
      exact hsettles
    · rw [hfold,hany,(hend 0).1]
      exact hsounds
    · rw [hany]
      rintro (hshown | hmem)
      · exact hbar (.inl hshown)
      · exact absurd hmem hnobar

theorem keyStatement (h : VolumeInvariant volume s keys) {st : KeyStatement}
    {rest : List KeyStatement} (hthread : s.keyThread = st :: rest) :
    VolumeInvariant volume ({ s with keyThread := rest }.execute st) keys := by
  obtain ⟨hsettles,hsounds,hdrawable,hbar⟩ := h
  rw [hthread] at hsettles hsounds hdrawable hbar
  refine ⟨?_,?_,?_,?_⟩
  · rw [Graphics.execute_volumes,Graphics.execute_keyThread]
    exact hsettles
  · rw [Graphics.execute_volumes,Graphics.execute_keyThread]
    exact hsounds
  · rw [Graphics.execute_volumes,Graphics.execute_keyThread]
    exact ((always_cons rfl).1 hdrawable).2
  · rw [Graphics.execute_keyThread]
    rintro (hshown | hmem)
    · obtain hbefore | rfl := Graphics.execute_shown hshown
      · exact hbar (.inl hbefore)
      · exact hbar (.inr List.mem_cons_self)
    · exact hbar (.inr (List.mem_cons_of_mem st hmem))

theorem next (hvolume : volume ≤ 10) {e : GraphicsEvent} (h : VolumeInvariant volume s keys)
    (hstep : s.step e = some s') : VolumeInvariant volume s' (keys ++ handledKeys s e) := by
  obtain ⟨-,⟨code,i,rfl,hidle,rfl⟩ | ⟨st,rest,rfl,hthread,rfl⟩ | ⟨o,rfl,-,rfl⟩ | ⟨o,rfl,-,rfl⟩ |
    ⟨rfl,hrender⟩ | ⟨rfl,hmain⟩⟩ := Graphics.step_cases hstep
  · exact h.key hvolume code i hidle
  · rw [handledKeys,List.append_nil]
    exact h.keyStatement hthread
  · rw [handledKeys,List.append_nil]
    exact h.frame rfl rfl id
  · rw [handledKeys,List.append_nil]
    refine h.frame rfl rfl fun hshown => ?_
    by_cases ho : .volume = o
    · simp [Graphics.setShown,← ho] at hshown
    · simpa [Graphics.setShown,Graphics.setTimer,ho] using hshown
  · rw [handledKeys,List.append_nil]
    have hframe := Graphics.renderStep_renderOnly hrender
    exact h.frame hframe.volumes hframe.keyThread (hframe.shown ▸ id)
  · rw [handledKeys,List.append_nil]
    have hframe := Graphics.mainStep_mainOnly hmain
    exact h.frame hframe.volumes hframe.keyThread (hframe.shown ▸ id)

end VolumeInvariant

/-- In every interleaving of the key, render, timer and main threads there is an image for
the volume to draw, and whenever no handler is in progress both volumes are where the keys
have turned the knob; once one of its keys has been handled the player has been set to that
position too, and a bar on the screen shows it. -/
theorem volume_follows_keys {volume : ℕ} (hvolume : volume ≤ 10) {s : Graphics}
    {keys : List KeyCode}
    (h : Reach (logged Graphics.step handledKeys) Anything (Graphics.initial volume,[]) (s,keys)) :
    s.volumes.Drawable ∧
      (s.keyThread = [] →
        s.volumes.At (keys.foldl turn volume) ∧
        (keys.any KeyCode.turns = true → s.volumes.Sounds (keys.foldl turn volume)) ∧
        (s.shown .volume = true → s.volumes.volumeToDraw = (keys.foldl turn volume : ℕ))) := by
  have hinvariant := h.invariant (I := fun p => VolumeInvariant volume p.1 p.2)
    (VolumeInvariant.of_initial hvolume) (by
      intro p p' e hp _ hstep
      obtain ⟨hnext,hlog⟩ := logged_eq_some.1 hstep
      rw [hlog]
      exact hp.next hvolume hnext)
  obtain ⟨hsettles,hsounds,hdrawable,hbar⟩ := hinvariant
  refine ⟨hdrawable.head,fun hidle => ?_⟩
  rw [hidle] at hsettles hsounds hbar
  exact ⟨hsettles,hsounds,fun hshown => (hsounds (hbar (.inl hshown))).drawn⟩

def volumeUpRun : List GraphicsEvent :=
  .key .vPlus ⟨0,0,0,0,0⟩ :: List.replicate 7 .keyStatement ++ List.replicate 3 .render

theorem volumeUpRun_sounds_at_six :
    ∃ s, follow (logged Graphics.step handledKeys) (Graphics.initial 5,[]) volumeUpRun =
        some (s,[.vPlus]) ∧
      s.shown .volume = true ∧ s.volumes.At 6 ∧ s.volumes.Sounds 6 := by
  refine ⟨_,rfl,rfl,?_⟩
  have hreach : Reach (logged Graphics.step handledKeys) Anything (Graphics.initial 5,[]) _ :=
    Reach.of_follow volumeUpRun .start rfl
  have h := (volume_follows_keys (by decide) hreach).2 rfl
  exact ⟨h.1,h.2.1 rfl⟩

end TvApp

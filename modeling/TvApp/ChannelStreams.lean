import TvApp.PidSelection
import TvApp.StreamOwnership

/-! The live streams after a channel change.
An assertion is attached to every label of `startChannel`, and every statement
leads from one assertion to the next.  The scan is the exception: its assertion
about the audio stream holds only when the new service has one or none is playing,
since a missing audio pid does not make `startChannel` remove the old stream. -/
namespace TvApp

open Routine StreamKind

variable {D : Type}

def playing (st : PlayerStream) : Set PlayerStream := if st.pid = -1 then ∅ else {st}

/-- One video stream on the channel's video pid unless that is -1, one audio stream on
its audio pid unless that is -1, and nothing else. -/
def PlaysExactly (api : TdpApi D) (s : Controller D) : Prop :=
  api.streams s.device =
    playing ⟨s.streamHandleV,s.currentChannel.videoPid,videoTypeMpeg2⟩ ∪
    playing ⟨s.streamHandleA,s.currentChannel.audioPid,audioTypeMpegAudio⟩

def PlaysKind (api : TdpApi D) (s : Controller D) (kind : StreamKind) (pid : Int16) : Prop :=
  api.live kind s.device = playing ⟨s.streamHandle kind,pid,kind⟩

theorem PlaysExactly.of_kinds {api : TdpApi D} {s : Controller D}
    (hV : PlaysKind api s videoTypeMpeg2 s.currentChannel.videoPid)
    (hA : PlaysKind api s audioTypeMpegAudio s.currentChannel.audioPid) : PlaysExactly api s := by
  have hunion : api.streams s.device =
      api.live videoTypeMpeg2 s.device ∪ api.live audioTypeMpegAudio s.device := by
    ext st
    simp only [TdpApi.live,Set.mem_union,Set.mem_ofPred_eq]
    cases st.kind <;> simp
  rw [PlaysExactly,hunion,hV,hA]
  rfl

theorem PlaysKind.congr {api : TdpApi D} {s s' : Controller D} {kind : StreamKind} {pid : Int16}
    (h : PlaysKind api s kind pid) (hlive : api.live kind s'.device = api.live kind s.device)
    (hhandle : s'.streamHandle kind = s.streamHandle kind) : PlaysKind api s' kind pid := by
  rw [PlaysKind,hlive,hhandle]
  exact h

theorem PlaysKind.nothing {api : TdpApi D} {s : Controller D} {kind : StreamKind} {pid : Int16}
    (hlive : api.live kind s.device = ∅) (hpid : pid = -1) : PlaysKind api s kind pid := by
  rw [PlaysKind,hlive,playing,if_pos hpid]

theorem PlaysKind.one {api : TdpApi D} {s : Controller D} {kind : StreamKind} {pid : Int16}
    (hlive : api.live kind s.device = {⟨s.streamHandle kind,pid,kind⟩}) (hpid : pid ≠ -1) :
    PlaysKind api s kind pid := by
  rw [PlaysKind,hlive,playing,if_neg hpid]

theorem PlaysExactly.withDevice {api : TdpApi D} {c : Config D} (h : PlaysExactly api c.controller)
    {d : D} (hstreams : api.streams d = api.streams c.controller.device) :
    PlaysExactly api (c.withDevice d).controller :=
  hstreams.trans h

def AudioReady (api : TdpApi D) (c : Config D) : Prop :=
  c.frame.audioPid ≠ -1 ∨ api.live audioTypeMpegAudio c.controller.device = ∅

/-- What holds when control is at a label.  Before the scan, and after a call that could
not set its filter, the streams are those of the current channel if some call `before`
has stored one. -/
def assertion (before : Prop) (api : TdpApi D) (c : Config D) : Prop :=
  let video := PlaysKind api c.controller videoTypeMpeg2 c.frame.videoPid
  let audio := PlaysKind api c.controller audioTypeMpegAudio c.frame.audioPid
  match c.frame.label with
  | .testVideo => AudioReady api c
  | .testHandleV | .removeVideo | .zeroVideo | .createVideo => AudioReady api c ∧ c.frame.videoPid ≠ -1
  | .dropVideo | .zeroDroppedVideo | .clearScreen => AudioReady api c ∧ c.frame.videoPid = -1
  | .testAudio => AudioReady api c ∧ video
  | .testHandleA | .removeAudio | .zeroAudio | .createAudio => c.frame.audioPid ≠ -1 ∧ video
  | .storeChannel => video ∧ audio
  | .testTimeTables | .freeForTdt | .setTdtFilter | .waitTdt | .freeForTot => PlaysExactly api c.controller
  | .setTotFilter | .waitTot | .storeDate => PlaysExactly api c.controller
  | .setTimeTablesRecieved | .returned => PlaysExactly api c.controller
  | .setPatFilter | .waitPat | .ready => before → PlaysExactly api c.controller
  | .freeFilter | .setPmtFilter | .waitPmt | .scan => before → PlaysExactly api c.controller
  | .filterFailed => before → PlaysExactly api c.controller
  | .fault | .deinit => True

/-- At the scan: the PMT in force names an audio stream, or none is playing. -/
def AudioReplaced (c : Config D) : Prop :=
  c.frame.label = .scan →
    (∃ e ∈ c.controller.tables.pmtTable.entries,
      isAudio e.streamType = true ∧ e.elementaryPid ≠ 0xFFFF) ∨
    c.controller.streamHandleA = 0

instance (c : Config D) : Decidable (AudioReplaced c) := inferInstanceAs (Decidable (_ → _))

theorem firstPid_ne_neg_one {kind : UInt8 → Bool} {infos : List PmtElementaryInfo}
    {e : PmtElementaryInfo} (he : e ∈ infos) (hk : kind e.streamType = true)
    (hp : e.elementaryPid ≠ 0xFFFF) : firstPid kind infos ≠ -1 := by
  induction infos with
  | nil => cases he
  | cons e' infos ih =>
    rw [firstPid_cons]
    split
    · rename_i hfirst
      intro heq
      exact hfirst.2 ((toInt16_eq_neg_one_iff _).mp heq)
    · rename_i hfirst
      rcases List.mem_cons.mp he with rfl | he
      · exact absurd ⟨hk,hp⟩ hfirst
      · exact ih he

variable {before : Prop} {api : TdpApi D} {c : Config D}

theorem scan_assertion (ho : Owns api c) (hl : c.frame.label = .scan) (hcond : AudioReplaced c)
    (a : Arrival) : assertion before api (step api c a) := by
  simp only [step,hl]
  split
  · rename_i pids hrun
    have hpids := channelPids_eq_ok hrun
    subst hpids
    rcases hcond hl with ⟨e,he,hk,hp⟩ | hzero
    · exact Or.inl (firstPid_ne_neg_one he hk hp)
    · exact Or.inr ((ho.stream audioTypeMpegAudio).eq_empty
        ((ho.stream audioTypeMpegAudio).free_of_zero hzero))
  · trivial

theorem step_assertion (ha : api.Lawful) (ho : Owns api c) (h : assertion before api c)
    (hcond : AudioReplaced c) (a : Arrival) : assertion before api (step api c a) := by
  cases hl : c.frame.label with
  | scan => exact scan_assertion ho hl hcond a
  | testVideo =>
    simp only [assertion,hl] at h
    simp only [step,hl]
    split
    · rename_i hpid
      exact ⟨h,hpid⟩
    · rename_i hpid
      exact ⟨h,not_not.mp hpid⟩
  | testHandleV =>
    simp only [assertion,hl] at h
    simp only [step,hl]
    split
    · exact h
    · exact h
  | removeVideo | dropVideo =>
    simp only [assertion,hl] at h
    simp only [step,hl]
    have hother := (ho.live_remove ha videoTypeMpeg2 (by rw [hl]; rfl)).2 audioTypeMpegAudio (by decide)
    exact ⟨h.1.imp id hother.trans,h.2⟩
  | zeroVideo | zeroDroppedVideo =>
    simp only [assertion,hl] at h
    simp only [step,hl]
    exact h
  | createVideo =>
    simp only [assertion,hl] at h
    simp only [step,hl]
    cases hr : (api.playerStreamCreate c.controller.device c.frame.videoPid videoTypeMpeg2).1 with
    | none => trivial
    | some g =>
      obtain ⟨hsame,hother⟩ := ho.live_create ha hr (by rw [hl]; rfl)
      exact ⟨h.1.imp id (hother audioTypeMpegAudio (by decide)).trans,.one hsame h.2⟩
  | clearScreen =>
    simp only [assertion,hl] at h
    simp only [step,hl]
    have hlive := TdpApi.live_congr (ha.clear_streams c.controller.device)
    have hempty : api.live videoTypeMpeg2 c.controller.device = ∅ := ho.live_empty (by rw [hl]; rfl)
    exact ⟨h.1.imp id (hlive audioTypeMpegAudio).trans,.nothing ((hlive videoTypeMpeg2).trans hempty) h.2⟩
  | testAudio =>
    simp only [assertion,hl] at h
    simp only [step,hl]
    split
    · rename_i hpid
      exact ⟨hpid,h.2⟩
    · rename_i hpid
      exact ⟨h.2,.nothing (h.1.resolve_left hpid) (not_not.mp hpid)⟩
  | testHandleA =>
    simp only [assertion,hl] at h
    simp only [step,hl]
    split
    · exact h
    · exact h
  | removeAudio =>
    simp only [assertion,hl] at h
    simp only [step,hl]
    have hother := (ho.live_remove ha audioTypeMpegAudio (by rw [hl]; rfl)).2 videoTypeMpeg2 (by decide)
    exact ⟨h.1,h.2.congr hother rfl⟩
  | zeroAudio =>
    simp only [assertion,hl] at h
    simp only [step,hl]
    exact ⟨h.1,h.2.congr rfl rfl⟩
  | createAudio =>
    simp only [assertion,hl] at h
    simp only [step,hl]
    cases hr : (api.playerStreamCreate c.controller.device c.frame.audioPid audioTypeMpegAudio).1 with
    | none => trivial
    | some g =>
      obtain ⟨hsame,hother⟩ := ho.live_create ha hr (by rw [hl]; rfl)
      exact ⟨h.2.congr (hother videoTypeMpeg2 (by decide)) rfl,.one hsame h.1⟩
  | storeChannel =>
    simp only [assertion,hl] at h
    simp only [step,hl]
    exact .of_kinds (h.1.congr rfl rfl) (h.2.congr rfl rfl)
  | testTimeTables =>
    simp only [assertion,hl] at h
    simp only [step,hl]
    split
    · exact h
    · exact h
  | freeForTdt | freeForTot =>
    simp only [assertion,hl] at h
    simp only [step,hl]
    exact h.withDevice (ha.free_streams _ _)
  | setTdtFilter | setTotFilter =>
    simp only [assertion,hl] at h
    simp only [step,hl,Config.setFilter]
    have hstreams := ha.set_streams c.controller.device
    split
    · exact h.withDevice (hstreams _ _)
    · exact h.withDevice (hstreams _ _)
  | waitTdt | waitTot | storeDate | setTimeTablesRecieved =>
    simp only [assertion,hl] at h
    simp only [step,hl]
    exact h
  | returned =>
    simp only [step,hl]
    exact h
  | setPatFilter =>
    simp only [assertion,hl] at h
    simp only [step,hl,Config.setFilter]
    have hstreams := ha.set_streams c.controller.device
    split
    · exact fun hb => (h hb).withDevice (hstreams _ _)
    · exact fun hb => (h hb).withDevice (hstreams _ _)
  | setPmtFilter =>
    simp only [assertion,hl] at h
    simp only [step,hl,Config.setFilter]
    have hstreams := ha.set_streams c.controller.device
    split
    · split
      · exact fun hb => (h hb).withDevice (hstreams _ _)
      · exact fun hb => (h hb).withDevice (hstreams _ _)
    · trivial
  | freeFilter =>
    simp only [assertion,hl] at h
    simp only [step,hl]
    exact fun hb => (h hb).withDevice (ha.free_streams _ _)
  | waitPat | waitPmt =>
    simp only [assertion,hl] at h
    simp only [step,hl]
    exact h
  | ready | filterFailed | fault | deinit =>
    simp only [step,hl]
    exact h

theorem act_assertion (ha : api.Lawful) (ho : Owns api c) (h : assertion before api c)
    (hcond : AudioReplaced c) (x : Action) : assertion before api (act api c x) := by
  cases x with
  | advance a => exact step_assertion ha ho h hcond a
  | call n =>
    simp only [act]
    split
    · rename_i hidle
      cases hl : c.frame.label with
      | ready | filterFailed =>
        simp only [assertion,hl] at h
        exact h
      | returned =>
        simp only [assertion,hl] at h
        exact fun _ => h
      | _ => simp [hl,Label.idle] at hidle
    · exact h

theorem runActions_assertion (ha : api.Lawful) (actions : List Action) {c : Config D}
    (ho : Owns api c) (h : assertion before api c)
    (hcond : ∀ n, AudioReplaced (runActions api c (actions.take n))) :
    assertion before api (runActions api c actions) := by
  induction actions generalizing c with
  | nil => exact h
  | cons x actions ih =>
    exact ih (act_owns ha ho x) (act_assertion ha ho h (hcond 0) x) fun n => hcond (n+1)

/-- In a run from boot in which every scan finds an audio stream in the PMT or none
playing, each call that runs to its end leaves exactly the streams of its channel, and
it stays so when a later call gives up because its filter cannot be set. -/
theorem plays_exactly_of_audioReplaced (ha : api.Lawful) {s : Controller D} (hs : s.Fresh api)
    (actions : List Action)
    (hcond : ∀ n, AudioReplaced (runActions api (boot s) (actions.take n))) :
    ∀ n, let c := runActions api (boot s) (actions.take n)
      c.frame.label = .returned → PlaysExactly api c.controller ∧
        ∀ k, let c' := runActions api (boot s) (actions.take (n+k))
          c'.frame.label = .filterFailed → PlaysExactly api c'.controller := by
  intro n c hreturned
  have hplays : PlaysExactly api c.controller := by
    have h : assertion False api c := by
      refine runActions_assertion ha (actions.take n) (boot_owns hs) False.elim fun m => ?_
      rw [List.take_take]
      exact hcond (min m n)
    simp only [assertion,hreturned] at h
    exact h
  refine ⟨hplays,?_⟩
  intro k c' hfailed
  have hsplit (j : ℕ) : runActions api (boot s) (actions.take (n+j)) =
      runActions api c ((actions.drop n).take j) := by
    rw [List.take_add,runActions_append]
  have hstart : assertion True api c := by
    simp only [assertion,hreturned]
    exact hplays
  have h : assertion True api c' := by
    change assertion True api (runActions api (boot s) (actions.take (n+k)))
    rw [hsplit k]
    refine runActions_assertion ha _ (runActions_owns ha _ (boot_owns hs)) hstart fun m => ?_
    rw [List.take_take,← hsplit]
    exact hcond (n+min m k)
  simp only [assertion,hfailed] at h
  exact h trivial

theorem sampleZaps_audioReplaced (n : ℕ) : AudioReplaced (runActions referenceApi
    (boot (Controller.initial (.new [false,true,false,false,true]) 0)) (sampleZaps.take n)) := by
  have hall : ∀ n < 53, AudioReplaced (runActions referenceApi
      (boot (Controller.initial (.new [false,true,false,false,true]) 0)) (sampleZaps.take n)) := by
    decide +kernel
  by_cases hn : n < 53
  · exact hall n hn
  · have hlength : sampleZaps.length = 52 := by decide
    have htake : sampleZaps.take n = sampleZaps.take 52 := by
      rw [List.take_of_length_le (by omega),List.take_of_length_le (by omega)]
    rw [htake]
    exact hall 52 (by decide)

theorem sampleZaps_plays_exactly :
    let c := runActions referenceApi
      (boot (Controller.initial (.new [false,true,false,false,true]) 0)) (sampleZaps.take 52)
    c.frame.label = .returned ∧ PlaysExactly referenceApi c.controller := by
  have hreturned : (runActions referenceApi
      (boot (Controller.initial (.new [false,true,false,false,true]) 0))
      (sampleZaps.take 52)).frame.label = .returned := by decide +kernel
  have h := plays_exactly_of_audioReplaced referenceApi_lawful
    (Controller.initial_fresh [false,true,false,false,true] 0) sampleZaps sampleZaps_audioReplaced 52
    hreturned
  exact ⟨hreturned,h.1⟩

def sampleVideoOnly : List Action :=
  let services : List PatServiceInfo := [⟨0,0x10⟩,⟨1,0x100⟩,⟨2,0x200⟩]
  let both := Arrival.ofLists services [⟨0x02,0x101,0⟩,⟨0x03,0x102,0⟩]
  let video := Arrival.ofLists services [⟨0x02,0x201,0⟩]
  List.replicate 2 (.advance both) ++ .call 0 :: List.replicate 25 (.advance both) ++
    .call 1 :: List.replicate 25 (.advance video)

/-- The audio of the first service plays on: the branch without an audio pid has no
counterpart of the one that removes the video stream. -/
theorem sampleVideoOnly_keeps_audio :
    let c := runActions referenceApi (boot (Controller.initial (.new []) 0)) sampleVideoOnly
    c.frame.label = .returned ∧ c.controller.currentChannel = ⟨2,-1,0x201⟩ ∧
      ⟨4,0x102,audioTypeMpegAudio⟩ ∈ referenceApi.streams c.controller.device ∧
      ¬ PlaysExactly referenceApi c.controller := by
  intro c
  have hreturned : c.frame.label = .returned := by decide +kernel
  have hchannel : c.controller.currentChannel = ⟨2,-1,0x201⟩ := by decide +kernel
  have hmem : ⟨4,0x102,audioTypeMpegAudio⟩ ∈ c.controller.device.streams := by decide +kernel
  refine ⟨hreturned,hchannel,hmem,fun hplays => ?_⟩
  have hst : (⟨4,0x102,audioTypeMpegAudio⟩ : PlayerStream) ∈
      referenceApi.streams c.controller.device := hmem
  rw [hplays,hchannel] at hst
  simp [playing] at hst

end TvApp

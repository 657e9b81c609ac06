import TvApp.CallEffects
import TvApp.ChannelWalk
import TvApp.ReferenceDevice

/-! The programme keys and dialling, one key after another.
The channel in view is held twice, as `programNumber` and in `currentChannel`.  A
programme key changes both, dialling only the second, so a programme key moves from
the channel in view exactly when the last dial before it, if any, was for the channel
that the programme keys had selected. -/
namespace TvApp

open CyclicWalk

variable {D : Type}

inductive RemoteKey
  | programme (key : ProgrammeKey)
  | dial (channelNumber : Int32)
  deriving DecidableEq, Repr

/-- A key, from the controller `s`, up to the end of the call it leads to.  For a
programme key that is the worker's call, after it has cleared `changeChannel`; for
dialling it is the call in `changeChannelKey`, if the number is accepted. -/
def Answers (api : TdpApi D) (s : Controller D) (k : RemoteKey) (s' : Controller D) : Prop :=
  match k with
  | .programme key =>
    let p := key.press s.tables.patTable.serviceInfoCount s.programNumber
    Completes api p.toInt32 { s with programNumber := p, changeChannel := false } s'
  | .dial n =>
    if changeChannelKeyAccepts s.tables.patTable.serviceInfoCount n then Completes api n s s'
    else s' = s

def Follows (api : TdpApi D) : Controller D → List (RemoteKey × Controller D) → Prop
  | _,[] => True
  | s,(k,s')::rest => Answers api s k s' ∧ Follows api s' rest

/-- A programme key moves by one from the channel in view, cyclically over the services. -/
def MovesFrom (s : Controller D) (k : RemoteKey) (s' : Controller D) : Prop :=
  let m : ℤ := s.tables.patTable.serviceInfoCount.toNat
  let c : ℤ := s.currentChannel.programNumber.toInt-1
  match k with
  | .programme .channelUp => s'.currentChannel.programNumber.toInt = (c+1)%(m-1)+1
  | .programme .channelDown => s'.currentChannel.programNumber.toInt = (c-1)%(m-1)+1
  | .dial _ => True

def MovesRelative : Controller D → List (RemoteKey × Controller D) → Prop
  | _,[] => True
  | s,(k,s')::rest => MovesFrom s k s' ∧ MovesRelative s' rest

/-- At every programme key the last number dialled since the previous one, if any, is
the number that the programme keys have selected. -/
def dialsMatch (serviceInfoCount : UInt8) : Int16 → Option Int32 → List RemoteKey → Bool
  | _,_,[] => true
  | p,dialled,.programme key::keys =>
    dialled.all (fun n => n.toInt = p.toInt) &&
      dialsMatch serviceInfoCount (key.press serviceInfoCount p) none keys
  | p,_,.dial n::keys => dialsMatch serviceInfoCount p (some n) keys

def inView (p : Int16) (dialled : Option Int32) : ℤ := dialled.elim p.toInt Int32.toInt

structure Watching (m : UInt8) (p : Int16) (dialled : Option Int32) (s : Controller D) : Prop where
  serviceInfoCount : s.tables.patTable.serviceInfoCount = m
  programNumber : s.programNumber = p
  selects : Selects m p
  within : Within ((m.toNat : ℤ)-1) (inView p dialled)
  currentChannel : s.currentChannel.programNumber.toInt = inView p dialled+1

theorem toInt_ofInt_succ {m : UInt8} {n : ℤ} (hn : Within ((m.toNat : ℤ)-1) n) :
    (Int16.ofInt (n+1)).toInt = n+1 := by
  obtain ⟨h0,hlt⟩ := hn
  have := m.toNat_lt
  exact Int16.toInt_ofInt_of_le (by omega) (by omega)

variable {api : TdpApi D} {m : UInt8} {p : Int16} {dialled : Option Int32} {s s' : Controller D}

theorem Watching.programme (h : Watching m p dialled s) {key : ProgrammeKey}
    (hanswer : Answers api s (.programme key) s') : Watching m (key.press m p) none s' := by
  simp only [Answers,h.serviceInfoCount,h.programNumber] at hanswer
  obtain ⟨hnumber,hpat,hchannel⟩ := hanswer.effect
  have hselects := h.selects.press key
  refine ⟨?_,hnumber,hselects,hselects,?_⟩
  · rw [hpat]
    exact h.serviceInfoCount
  · rw [hchannel,Int16.toInt_toInt32]
    exact toInt_ofInt_succ hselects

theorem Watching.dial (h : Watching m p dialled s) {n : Int32}
    (hn : Within ((m.toNat : ℤ)-1) n.toInt) (hanswer : Answers api s (.dial n) s') :
    Watching m p (some n) s' := by
  have haccepts : changeChannelKeyAccepts m n = true := by
    obtain ⟨h0,hlt⟩ := hn
    simp only [changeChannelKeyAccepts,decide_eq_true_eq]
    omega
  simp only [Answers,h.serviceInfoCount,haccepts,if_true] at hanswer
  obtain ⟨hnumber,hpat,hchannel⟩ := hanswer.effect
  refine ⟨?_,hnumber.trans h.programNumber,h.selects,hn,?_⟩
  · rw [hpat]
    exact h.serviceInfoCount
  · rw [hchannel]
    exact toInt_ofInt_succ hn

theorem Watching.movesFrom_iff (h : Watching m p dialled s) {key : ProgrammeKey}
    (h' : Watching m (key.press m p) none s') :
    MovesFrom s (.programme key) s' ↔ inView p dialled = p.toInt := by
  have hafter : s'.currentChannel.programNumber.toInt = (key.press m p).toInt+1 := h'.currentChannel
  have hbefore : s.currentChannel.programNumber.toInt-1 = inView p dialled := by
    rw [h.currentChannel]
    ring
  cases key with
  | channelUp =>
    simp only [MovesFrom,h.serviceInfoCount,hafter,hbefore,ProgrammeKey.press,channelUp_toInt h.selects]
    constructor
    · intro hmod
      exact (h.selects.eq_of_add_emod_eq h.within (add_right_cancel hmod)).symm
    · intro heq
      rw [heq]
  | channelDown =>
    simp only [MovesFrom,h.serviceInfoCount,hafter,hbefore,ProgrammeKey.press,
      channelDown_toInt h.selects,sub_eq_add_neg]
    constructor
    · intro hmod
      exact (Within.eq_of_add_emod_eq h.selects h.within (add_right_cancel hmod)).symm
    · intro heq
      rw [heq]

theorem inView_eq_iff (p : Int16) (dialled : Option Int32) :
    inView p dialled = p.toInt ↔ dialled.all (fun n => n.toInt = p.toInt) = true := by
  cases dialled with
  | none => simp [inView]
  | some n => simp [inView]

theorem Watching.movesRelative_iff (run : List (RemoteKey × Controller D))
    (hdials : ∀ n, RemoteKey.dial n ∈ run.map Prod.fst → Within ((m.toNat : ℤ)-1) n.toInt)
    {p : Int16} {dialled : Option Int32} {s : Controller D}
    (h : Watching m p dialled s) (hrun : Follows api s run) :
    MovesRelative s run ↔ dialsMatch m p dialled (run.map Prod.fst) = true := by
  induction run generalizing s p dialled with
  | nil => simp [MovesRelative,dialsMatch]
  | cons x run ih =>
    obtain ⟨k,s'⟩ := x
    obtain ⟨hanswer,hrest⟩ := hrun
    have hdials' : ∀ n, RemoteKey.dial n ∈ run.map Prod.fst → Within ((m.toNat : ℤ)-1) n.toInt :=
      fun n hn => hdials n (List.mem_cons_of_mem _ hn)
    cases k with
    | programme key =>
      have h' := h.programme hanswer
      simp only [MovesRelative,List.map_cons,dialsMatch,Bool.and_eq_true]
      rw [h.movesFrom_iff h',inView_eq_iff,ih hdials' h' hrest]
    | dial n =>
      have h' := h.dial (hdials n (by simp)) hanswer
      simp only [MovesRelative,MovesFrom,true_and,List.map_cons,dialsMatch]
      exact ih hdials' h' hrest

/-- From a boot call with a valid programme number, every programme key of a run moves
from the channel in view if and only if the dials match. -/
theorem programme_keys_relative_iff (api : TdpApi D) (s₀ s : Controller D)
    (hp : 0 ≤ s₀.programNumber.toInt ∧
      s₀.programNumber.toInt ≤ (s₀.tables.patTable.serviceInfoCount.toNat : ℤ)-2)
    (hboot : Completes api s₀.programNumber.toInt32 s₀ s)
    (run : List (RemoteKey × Controller D)) (hrun : Follows api s run)
    (hdials : ∀ n, RemoteKey.dial n ∈ run.map Prod.fst →
      0 ≤ n.toInt ∧ n.toInt ≤ (s₀.tables.patTable.serviceInfoCount.toNat : ℤ)-2) :
    MovesRelative s run ↔
      dialsMatch s₀.tables.patTable.serviceInfoCount s₀.programNumber none (run.map Prod.fst) = true := by
  obtain ⟨hnumber,hpat,hchannel⟩ := hboot.effect
  have hselects : Selects s₀.tables.patTable.serviceInfoCount s₀.programNumber := ⟨hp.1,by omega⟩
  have hwatching : Watching s₀.tables.patTable.serviceInfoCount s₀.programNumber none s := by
    refine ⟨by rw [hpat],hnumber,hselects,hselects,?_⟩
    rw [hchannel,Int16.toInt_toInt32]
    exact toInt_ofInt_succ hselects
  refine hwatching.movesRelative_iff run (fun n hn => ?_) hrun
  have hbounds := hdials n hn
  exact ⟨hbounds.1,by omega⟩

def sampleArrival : Arrival :=
  .ofLists [⟨0,0x10⟩,⟨1,0x100⟩,⟨2,0x200⟩,⟨3,0x300⟩,⟨4,0x400⟩] [⟨0x02,0x101,0⟩,⟨0x03,0x102,0⟩]

def sampleController : Controller ReferenceDevice :=
  { Controller.initial (.new []) 0 with
    tables := { SectionTables.zeroed with patTable := sampleArrival.patTable } }

def sampleConfig (s : Controller ReferenceDevice) (channelNumber : Int32) : Config ReferenceDevice :=
  (List.replicate 25 sampleArrival).foldl (step referenceApi) (startChannel s channelNumber)

def sampleAnswer (s : Controller ReferenceDevice) : RemoteKey → Config ReferenceDevice
  | .programme key =>
    let p := key.press s.tables.patTable.serviceInfoCount s.programNumber
    sampleConfig { s with programNumber := p, changeChannel := false } p.toInt32
  | .dial n => sampleConfig s n

def sampleRun (s : Controller ReferenceDevice) :
    List RemoteKey → List (RemoteKey × Controller ReferenceDevice)
  | [] => []
  | k::keys => (k,(sampleAnswer s k).controller)::sampleRun (sampleAnswer s k).controller keys

def sampleReturns (s : Controller ReferenceDevice) : List RemoteKey → Bool
  | [] => true
  | k::keys => decide ((sampleAnswer s k).frame.label = .returned) &&
      (match k with
        | .programme _ => true
        | .dial n => changeChannelKeyAccepts s.tables.patTable.serviceInfoCount n) &&
      sampleReturns (sampleAnswer s k).controller keys

theorem sampleRun_follows (s : Controller ReferenceDevice) (keys : List RemoteKey)
    (h : sampleReturns s keys = true) : Follows referenceApi s (sampleRun s keys) := by
  induction keys generalizing s with
  | nil => trivial
  | cons k keys ih =>
    simp only [sampleReturns,Bool.and_eq_true,decide_eq_true_eq] at h
    obtain ⟨⟨hreturned,haccepts⟩,hrest⟩ := h
    refine ⟨?_,ih _ hrest⟩
    cases k with
    | programme key => exact ⟨_,hreturned,rfl⟩
    | dial n =>
      simp only [Answers]
      rw [if_pos haccepts]
      exact ⟨_,hreturned,rfl⟩

theorem sampleController_boots :
    Completes referenceApi 0 sampleController (sampleConfig sampleController 0).controller :=
  ⟨_,by decide +kernel,rfl⟩

theorem sample_redial_moves_relative :
    let s := (sampleConfig sampleController 0).controller
    MovesRelative s (sampleRun s [.programme .channelUp,.dial 1,.programme .channelDown]) := by
  intro s
  have hfollows := sampleRun_follows s [.programme .channelUp,.dial 1,.programme .channelDown]
    (by decide +kernel)
  have hiff := programme_keys_relative_iff referenceApi sampleController s (by decide)
    sampleController_boots _ hfollows (by
      intro n hn
      have hone : n = 1 := by simpa [sampleRun] using hn
      rw [hone]
      decide)
  exact hiff.mpr (by decide +kernel)

/-- Dialling 2 from channel 0 and then pressing P+ leads to channel 1, not to channel 3. -/
theorem sample_dial_then_channelUp :
    let s := (sampleConfig sampleController 0).controller
    let run := sampleRun s [.dial 2,.programme .channelUp]
    Completes referenceApi 0 sampleController s ∧ Follows referenceApi s run ∧
      run.map (fun x => x.2.currentChannel.programNumber) = [3,2] ∧ ¬ MovesRelative s run := by
  intro s run
  refine ⟨sampleController_boots,sampleRun_follows s _ (by decide +kernel),by decide +kernel,?_⟩
  rintro ⟨-,hup,-⟩
  have hbefore : (sampleAnswer s (.dial 2)).controller.currentChannel.programNumber = 3 := by
    decide +kernel
  have hcount : (sampleAnswer s (.dial 2)).controller.tables.patTable.serviceInfoCount = 5 := by
    decide +kernel
  have hafter : (sampleAnswer (sampleAnswer s (.dial 2)).controller
      (.programme .channelUp)).controller.currentChannel.programNumber = 2 := by
    decide +kernel
  simp only [MovesFrom,hbefore,hcount,hafter] at hup
  exact absurd hup (by decide)

end TvApp

import TvApp.Dialling
import TvApp.ProgrammeReach

/-! Which services can be dialled.
`changeChannelKey` compares the number with `serviceInfoCount`, but `startChannel`
reads the slot behind it: the largest number it lets through is one too large.  P+
and P- stop two below the count. -/
namespace TvApp

open Routine ParseErrorCode

/-- What `changeChannel` hands to `changeChannelKey`.  Where no branch assigns the
local variable, that is whatever it happens to hold. -/
def passedChannel (stale : Int32) (b : KeyBuffer) : Int32 :=
  match dialledChannel b with
  | some channel => Int32.ofInt channel
  | none => stale

/-- An event of the key timer, with what the local variable holds at the time. -/
structure DialMoment where
  event : DialEvent
  stale : Int32

def DialMoment.step (s : Dial) (e : DialMoment) : Option Dial := s.step e.event

/-- The call of `startChannel` that an event leads to: only a notification runs
`changeChannel`, and `changeChannelKey` makes its range test. -/
def channelStarted (m : UInt8) (s : Dial) (e : DialMoment) : Option Int32 :=
  if e.event = .notify ∧ changeChannelKeyAccepts m (passedChannel e.stale s.buffer) = true then
    some (passedChannel e.stale s.buffer)
  else none

def channelsStarted (m : UInt8) (s : Dial) : List DialMoment → List Int32
  | [] => []
  | e :: es =>
    match DialMoment.step s e with
    | none => []
    | some s' => (channelStarted m s e).toList++channelsStarted m s' es

/-- The slot read for this channel is one of the services behind slot 0. -/
def NamesService (m : UInt8) (channelNumber : Int32) : Prop :=
  1 ≤ tunedSlot channelNumber ∧ tunedSlot channelNumber < m.toNat

instance (m : UInt8) (n : Int32) : Decidable (NamesService m n) :=
  inferInstanceAs (Decidable (_ ∧ _))

/-- A notification does not find the number `serviceInfoCount-1` in the key buffer. -/
def NotTopNumber (m : UInt8) (s : Dial) (e : DialMoment) : Prop :=
  e.event = .notify → 0 ≤ (passedChannel e.stale s.buffer).toInt →
    (passedChannel e.stale s.buffer).toInt+1 ≠ m.toNat

instance (m : UInt8) (s : Dial) (e : DialMoment) : Decidable (NotTopNumber m s e) :=
  inferInstanceAs (Decidable (_ → _ → _))

theorem changeChannelKeyAccepts_iff {m : UInt8} {n : Int32} :
    changeChannelKeyAccepts m n = true ↔ 0 ≤ n.toInt ∧ n.toInt < m.toNat := by
  rw [changeChannelKeyAccepts,decide_eq_true_eq]
  omega

theorem channelStarted_iff (m : UInt8) (s : Dial) (e : DialMoment) :
    (∀ n ∈ (channelStarted m s e).toList, NamesService m n) ↔ NotTopNumber m s e := by
  rw [channelStarted]
  split
  · rename_i h
    obtain ⟨hevent,haccepts⟩ := h
    rw [changeChannelKeyAccepts_iff] at haccepts
    simp only [Option.toList_some,List.mem_singleton,forall_eq,NamesService,NotTopNumber,tunedSlot,
      hevent,forall_true_left]
    omega
  · rename_i h
    refine iff_of_true (by simp) ?_
    intro hevent hnonneg htop
    apply h
    refine ⟨hevent,changeChannelKeyAccepts_iff.mpr ⟨hnonneg,?_⟩⟩
    omega

theorem channelsStarted_iff (m : UInt8) {s s' : Dial} (es : List DialMoment)
    (hrun : follow DialMoment.step s es = some s') :
    (∀ n ∈ channelsStarted m s es, NamesService m n) ↔
      Each (NotTopNumber m) DialMoment.step s es := by
  induction es generalizing s with
  | nil => exact iff_of_true (by simp [channelsStarted]) trivial
  | cons e es ih =>
    obtain ⟨t,hstep,hrest⟩ := follow_cons.1 hrun
    rw [each_cons hstep,← channelStarted_iff,← ih hrest,channelsStarted,hstep]
    simp only [List.mem_append]
    constructor
    · intro h
      exact ⟨fun n hn => h n (.inl hn),fun n hn => h n (.inr hn)⟩
    · rintro ⟨hfirst,hlater⟩ n (hn | hn)
      · exact hfirst n hn
      · exact hlater n hn

def KeysStayDiallable (m : UInt8) (p : Int16) : Prop :=
  ∀ keys : List ProgrammeKey, keys ≠ [] →
    changeChannelKeyAccepts m (pressAll m p keys).toInt32 = true

theorem diallable_iff {m : UInt8} {p : Int16} :
    changeChannelKeyAccepts m p.toInt32 = true ↔ 0 ≤ p.toInt ∧ p.toInt < m.toNat := by
  rw [changeChannelKeyAccepts_iff,Int16.toInt_toInt32]

theorem channelUp_toInt_eq (m : UInt8) (p : Int16) :
    (channelUp m p).toInt = if p.toInt ≥ (m.toNat : ℤ)-2 then 0 else p.toInt+1 := by
  have hm := m.toNat_lt
  have hp := p.le_toInt
  rw [channelUp]
  split
  · rfl
  · exact Int16.toInt_ofInt_of_le (by omega) (by omega)

theorem channelDown_toInt_eq (m : UInt8) (p : Int16) :
    (channelDown m p).toInt = if p.toInt ≤ 0 then (m.toNat : ℤ)-2 else p.toInt-1 := by
  have hm := m.toNat_lt
  have hp := p.toInt_lt
  rw [channelDown]
  split
  · exact Int16.toInt_ofInt_of_le (by omega) (by omega)
  · exact Int16.toInt_ofInt_of_le (by omega) (by omega)

theorem press_diallable {m : UInt8} {p : Int16} (hm : 2 ≤ m.toNat) (hlow : -1 ≤ p.toInt)
    (hhigh : p.toInt ≤ m.toNat) (key : ProgrammeKey) :
    0 ≤ (key.press m p).toInt ∧ (key.press m p).toInt < m.toNat := by
  cases key with
  | channelUp =>
    change 0 ≤ (channelUp m p).toInt ∧ (channelUp m p).toInt < m.toNat
    rw [channelUp_toInt_eq]
    split
    · omega
    · omega
  | channelDown =>
    change 0 ≤ (channelDown m p).toInt ∧ (channelDown m p).toInt < m.toNat
    rw [channelDown_toInt_eq]
    split
    · omega
    · omega

theorem keysStayDiallable_of {m : UInt8} {p : Int16} (hm : 2 ≤ m.toNat) (hlow : -1 ≤ p.toInt)
    (hhigh : p.toInt ≤ m.toNat) : KeysStayDiallable m p := by
  intro keys hne
  rw [diallable_iff]
  induction keys generalizing p with
  | nil => exact absurd rfl hne
  | cons key keys ih =>
    have hpress := press_diallable hm hlow hhigh key
    cases keys with
    | nil => exact hpress
    | cons key' keys => exact ih (by omega) (by omega) (by simp)

theorem keysStayDiallable_bounds {m : UInt8} {p : Int16} (h : KeysStayDiallable m p) :
    2 ≤ m.toNat ∧ -1 ≤ p.toInt ∧ p.toInt ≤ m.toNat := by
  have hup : 0 ≤ (channelUp m p).toInt ∧ (channelUp m p).toInt < m.toNat :=
    diallable_iff.mp (h [.channelUp] (by simp))
  have hdown : 0 ≤ (channelDown m p).toInt ∧ (channelDown m p).toInt < m.toNat :=
    diallable_iff.mp (h [.channelDown] (by simp))
  have hdowns : 0 ≤ (channelDown m (channelDown m p)).toInt :=
    (diallable_iff.mp (h [.channelDown,.channelDown] (by simp))).1
  rw [channelUp_toInt_eq] at hup
  rw [channelDown_toInt_eq,channelDown_toInt_eq] at hdowns
  rw [channelDown_toInt_eq] at hdown
  by_cases hp : p.toInt ≤ 0
  · rw [if_pos hp] at hdown
    split at hup
    · omega
    · omega
  · rw [if_neg hp] at hdown hdowns
    split at hdowns
    · omega
    · omega

theorem accepted_count_le {buf : Buffer} {prior table : PatTable}
    (hok : run buf (parsePatTable prior) = .ok (tablesParseOk,table)) :
    table.serviceInfoCount.toNat ≤ 20 := by
  rw [run_parsePatTable_eq,Except.ok.injEq] at hok
  have hid : buf 0 = 0x00 := by
    by_contra hne
    rw [patResult,if_neg hne] at hok
    cases hok
  have hshows := patResult_shows hid prior
  rw [hok] at hshows
  rw [hshows.count]
  exact patPositions_length_le buf

/-- Along every run of the key timer, whatever an uninitialised variable may hold, the
channels that are started name services of the PAT exactly if the number dialled is
never `serviceInfoCount-1`.  What P+ and P- reach can be dialled exactly if there is a
service at all and they begin next to the services. -/
theorem dialled_slots_are_services_iff (buf : Buffer) (prior table : PatTable)
    (hok : run buf (parsePatTable prior) = .ok (tablesParseOk,table))
    (es : List DialMoment) (s : Dial) (hrun : follow DialMoment.step .initial es = some s)
    (p : Int16) :
    table.serviceInfoCount.toNat ≤ 20 ∧
    ((∀ n ∈ channelsStarted table.serviceInfoCount .initial es,
        NamesService table.serviceInfoCount n) ↔
      Each (NotTopNumber table.serviceInfoCount) DialMoment.step .initial es) ∧
    (KeysStayDiallable table.serviceInfoCount p ↔
      2 ≤ table.serviceInfoCount.toNat ∧ -1 ≤ p.toInt ∧
        p.toInt ≤ table.serviceInfoCount.toNat) := by
  refine ⟨accepted_count_le hok,channelsStarted_iff _ es hrun,keysStayDiallable_bounds,?_⟩
  rintro ⟨hm,hlow,hhigh⟩
  exact keysStayDiallable_of hm hlow hhigh

def dialMoments (keys : List UInt16) : List DialMoment :=
  keys.map (fun key => ⟨.press key,0⟩)++[⟨.expiry,0⟩,⟨.notify,0⟩]

theorem sample_zero_names_service :
    channelsStarted PatSection.sample.received.serviceInfoCount .initial (dialMoments [0]) = [0] ∧
      NamesService PatSection.sample.received.serviceInfoCount 0 ∧
      KeysStayDiallable PatSection.sample.received.serviceInfoCount 0 := by
  have hstarted : channelsStarted PatSection.sample.received.serviceInfoCount .initial
      (dialMoments [0]) = [0] := by decide +kernel
  obtain ⟨s,hs⟩ : ∃ s, follow DialMoment.step .initial (dialMoments [0]) = some s := ⟨_,rfl⟩
  obtain ⟨-,hslots,hkeys⟩ := dialled_slots_are_services_iff PatSection.sample.sampleBuffer .zeroed
    PatSection.sample.received (PatSection.run_received (by decide +kernel)) (dialMoments [0]) s hs 0
  refine ⟨hstarted,hslots.mpr (by decide +kernel) 0 ?_,hkeys.mpr (by decide +kernel)⟩
  rw [hstarted]
  exact List.mem_singleton_self _

def fullPat : Buffer := fun i => if i = 2 then 89 else 0

def fullTable : PatTable := (patResult fullPat .zeroed).2

/-- With the network entry and one programme, 1 starts the slot behind the last entry;
with twenty entries, 19 starts a slot that the array does not have. -/
theorem top_number_names_no_service :
    (run PatSection.sample.sampleBuffer (parsePatTable .zeroed) =
        .ok (tablesParseOk,PatSection.sample.received) ∧
      channelsStarted PatSection.sample.received.serviceInfoCount .initial (dialMoments [1]) = [1] ∧
      ¬ NamesService PatSection.sample.received.serviceInfoCount 1) ∧
    run fullPat (parsePatTable .zeroed) = .ok (tablesParseOk,fullTable) ∧
      channelsStarted fullTable.serviceInfoCount .initial (dialMoments [1,9]) = [19] ∧
      pmtPid fullTable 19 = none := by
  refine ⟨⟨PatSection.run_received (by decide +kernel),by decide +kernel,by decide +kernel⟩,?_,?_,?_⟩
  · have hcode : (patResult fullPat .zeroed).1 = tablesParseOk := by decide +kernel
    rw [run_parsePatTable_eq,← hcode]
    rfl
  · decide +kernel
  · decide +kernel

end TvApp

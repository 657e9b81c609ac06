import TvApp.CyclicWalk
import TvApp.StreamController

/-! The programme keys as a walk over the services of the PAT.
With m services the positions are 0..m-2: slot 0 of the PAT is left out and
position p stands for slot p+1. -/
namespace TvApp

open CyclicWalk

inductive ProgrammeKey
  | channelUp | channelDown
  deriving DecidableEq, Repr

def ProgrammeKey.press (serviceInfoCount : UInt8) (programNumber : Int16) : ProgrammeKey → Int16
  | .channelUp => TvApp.channelUp serviceInfoCount programNumber
  | .channelDown => TvApp.channelDown serviceInfoCount programNumber

def pressAll (serviceInfoCount : UInt8) (programNumber : Int16) (keys : List ProgrammeKey) : Int16 :=
  keys.foldl (ProgrammeKey.press serviceInfoCount) programNumber

/-- A programme number that stands for a service, where there are m of them. -/
def Selects (serviceInfoCount : UInt8) (programNumber : Int16) : Prop :=
  Within ((serviceInfoCount.toNat : ℤ)-1) programNumber.toInt

instance (m : UInt8) (p : Int16) : Decidable (Selects m p) := inferInstanceAs (Decidable (_ ∧ _))

variable {m : UInt8} {p : Int16}

theorem Selects.toInt_lt (hp : Selects m p) : p.toInt < 254 := by
  have := hp.2
  have := m.toNat_lt
  omega

theorem channelUp_toInt (hp : Selects m p) :
    (channelUp m p).toInt = (p.toInt+1)%((m.toNat : ℤ)-1) := by
  have hlt := hp.toInt_lt
  have hnonneg := hp.1
  rw [← next_eq_emod hp,channelUp,next]
  have hcompare : p.toInt ≥ (m.toNat : ℤ)-2 ↔ p.toInt ≥ (m.toNat : ℤ)-1-1 := by omega
  simp only [hcompare]
  split
  · rfl
  · exact Int16.toInt_ofInt_of_le (by omega) (by omega)

theorem channelDown_toInt (hp : Selects m p) :
    (channelDown m p).toInt = (p.toInt-1)%((m.toNat : ℤ)-1) := by
  have hlt := hp.toInt_lt
  have hnonneg := hp.1
  have hm := m.toNat_lt
  rw [← prev_eq_emod hp,channelDown,prev]
  split
  · rw [Int16.toInt_ofInt_of_le (by omega) (by omega)]
    omega
  · exact Int16.toInt_ofInt_of_le (by omega) (by omega)

theorem press_toInt (hp : Selects m p) (key : ProgrammeKey) :
    (key.press m p).toInt =
      (p.toInt+[key].count .channelUp-[key].count .channelDown)%((m.toNat : ℤ)-1) := by
  cases key with
  | channelUp => simpa [ProgrammeKey.press] using channelUp_toInt hp
  | channelDown => simpa [ProgrammeKey.press] using channelDown_toInt hp

theorem Selects.count_pos (hp : Selects m p) : (0 : ℤ) < (m.toNat : ℤ)-1 :=
  hp.1.trans_lt hp.2

theorem Selects.press (hp : Selects m p) (key : ProgrammeKey) : Selects m (key.press m p) := by
  rw [Selects,press_toInt hp]
  exact within_emod hp.count_pos _

theorem Selects.pressAll (hp : Selects m p) (keys : List ProgrammeKey) :
    Selects m (pressAll m p keys) := by
  induction keys generalizing p with
  | nil => exact hp
  | cons key keys ih => exact ih (hp.press key)

theorem pressAll_toInt (hp : Selects m p) (keys : List ProgrammeKey) :
    (pressAll m p keys).toInt =
      (p.toInt+keys.count .channelUp-keys.count .channelDown)%((m.toNat : ℤ)-1) := by
  induction keys generalizing p with
  | nil => simpa [TvApp.pressAll] using (Int.emod_eq_of_lt hp.1 hp.2).symm
  | cons key keys ih =>
    have hrest := ih (hp.press key)
    rw [press_toInt hp] at hrest
    have hcount (k : ProgrammeKey) : (key::keys).count k = [key].count k+keys.count k := by
      rw [← List.count_append]
      rfl
    calc (TvApp.pressAll m p (key::keys)).toInt
      _ = ((p.toInt+[key].count .channelUp-[key].count .channelDown)%((m.toNat : ℤ)-1)+
          keys.count .channelUp-keys.count .channelDown)%((m.toNat : ℤ)-1) := hrest
      _ = (p.toInt+[key].count .channelUp-[key].count .channelDown+
          (keys.count .channelUp-keys.count .channelDown))%((m.toNat : ℤ)-1) := by
        rw [add_sub_assoc,Int.emod_add_emod]
      _ = _ := by
        rw [hcount,hcount]
        push_cast
        ring_nf

theorem pressAll_append (m : UInt8) (p : Int16) (xs ys : List ProgrammeKey) :
    pressAll m p (xs++ys) = pressAll m (pressAll m p xs) ys :=
  List.foldl_append

theorem ups_tune_every_slot (hp : Selects m p) {slot : ℤ} (hlow : 1 ≤ slot)
    (hhigh : slot ≤ (m.toNat : ℤ)-1) :
    ∃! i : ℕ, i < m.toNat-1 ∧
      tunedSlot (pressAll m p (List.replicate (i+1) .channelUp)).toInt32 = slot := by
  have hcast : ((m.toNat-1 : ℕ) : ℤ) = (m.toNat : ℤ)-1 := by
    have := hp.count_pos
    omega
  have hslot (i : ℕ) : tunedSlot (pressAll m p (List.replicate (i+1) .channelUp)).toInt32 =
      (p.toInt+1+i)%((m.toNat-1 : ℕ) : ℤ)+1 := by
    have hkeys : p.toInt+(List.replicate (i+1) ProgrammeKey.channelUp).count .channelUp-
        (List.replicate (i+1) ProgrammeKey.channelUp).count .channelDown = p.toInt+1+i := by
      simp [List.count_replicate]
      ring
    rw [tunedSlot,Int16.toInt_toInt32,pressAll_toInt hp,hcast,hkeys]
  have hwithin : Within ((m.toNat-1 : ℕ) : ℤ) (slot-1) := ⟨by omega,by omega⟩
  have hcount : 0 < m.toNat-1 := by
    have := hp.count_pos
    omega
  have honce := existsUnique_emod_eq hcount (p.toInt+1) hwithin
  refine (existsUnique_congr fun i => ?_).mp honce
  rw [hslot]
  constructor
  · rintro ⟨hi,hmod⟩
    exact ⟨hi,by rw [hmod]; ring⟩
  · rintro ⟨hi,hmod⟩
    exact ⟨hi,by rw [← hmod]; ring⟩

/-- The keys walk cyclically over the services: the final position depends only on how
many of each were pressed, every position on the way is a service, and from any of them
the upward key visits each slot once before it repeats. -/
theorem programme_keys_walk_cyclically (m : UInt8) (p : Int16)
    (hp : 0 ≤ p.toInt ∧ p.toInt ≤ (m.toNat : ℤ)-2) (keys : List ProgrammeKey) :
    (pressAll m p keys).toInt =
      (p.toInt+keys.count .channelUp-keys.count .channelDown)%((m.toNat : ℤ)-1) ∧
    (∀ k, 0 ≤ (pressAll m p (keys.take k)).toInt ∧
      (pressAll m p (keys.take k)).toInt ≤ (m.toNat : ℤ)-2) ∧
    ∀ k, ∀ slot : ℤ, 1 ≤ slot → slot ≤ (m.toNat : ℤ)-1 →
      ∃! i : ℕ, i < m.toNat-1 ∧ tunedSlot
        (pressAll m p (keys.take k++List.replicate (i+1) .channelUp)).toInt32 = slot := by
  have hs : Selects m p := ⟨hp.1,by omega⟩
  refine ⟨pressAll_toInt hs keys,fun k => ?_,fun k slot hlow hhigh => ?_⟩
  · have hk := hs.pressAll (keys.take k)
    have := hk.2
    exact ⟨hk.1,by omega⟩
  · simp only [pressAll_append]
    exact ups_tune_every_slot (hs.pressAll (keys.take k)) hlow hhigh

theorem five_services_walk :
    (pressAll 5 1 [.channelUp,.channelUp,.channelUp,.channelDown]).toInt = 3 ∧
      ∃! i : ℕ, i < 4 ∧ tunedSlot (pressAll 5 1 ([.channelUp].take 1++
        List.replicate (i+1) .channelUp)).toInt32 = 4 := by
  obtain ⟨hclosed,-,-⟩ := programme_keys_walk_cyclically 5 1 (by decide)
    [.channelUp,.channelUp,.channelUp,.channelDown]
  obtain ⟨-,-,honce⟩ := programme_keys_walk_cyclically 5 1 (by decide) [.channelUp]
  exact ⟨hclosed,honce 1 4 (by decide) (by decide)⟩

end TvApp

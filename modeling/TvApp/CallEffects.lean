import TvApp.StartChannel

/-! What a call of `startChannel` leaves alone, and what it stores.
The programme number and the flag of the key thread are never written by the call,
the PAT is not replaced during it, and from `storeChannel` on the current channel
is the one of the call. -/
namespace TvApp

open Routine

variable {D : Type}

/-- The labels of `startChannel`, those of its `parseTimeTables` included. -/
def Label.inCall : Label → Bool
  | .setPatFilter | .waitPat | .ready => false
  | _ => true

def Label.stored : Label → Bool
  | .testTimeTables | .freeForTdt | .setTdtFilter | .waitTdt | .freeForTot | .setTotFilter => true
  | .waitTot | .storeDate | .setTimeTablesRecieved | .returned => true
  | _ => false

def ChannelStored (c : Config D) : Prop :=
  c.frame.label.stored → c.controller.currentChannel.programNumber =
    Int16.ofInt (c.frame.channelNumber.toInt+1)

/-- The effect of a statement of a call on what the call shares with the key thread. -/
structure CallStep (c c' : Config D) : Prop where
  programNumber : c'.controller.programNumber = c.controller.programNumber
  changeChannel : c'.controller.changeChannel = c.controller.changeChannel
  patTable : c'.controller.tables.patTable = c.controller.tables.patTable
  channelNumber : c'.frame.channelNumber = c.frame.channelNumber
  inCall : c'.frame.label.inCall
  channelStored : ChannelStored c → ChannelStored c'

theorem CallStep.setFilter (api : TdpApi D) (c : Config D) (pid : UInt16) (tableId : UInt8)
    {ok failed : Label} (hin : ok.inCall ∧ failed.inCall)
    (hstored : (ok.stored → c.frame.label.stored) ∧ (failed.stored → c.frame.label.stored)) :
    CallStep c (c.setFilter api pid tableId ok failed) := by
  simp only [Config.setFilter]
  split
  · exact ⟨rfl,rfl,rfl,rfl,hin.1,fun h hs => h (hstored.1 hs)⟩
  · exact ⟨rfl,rfl,rfl,rfl,hin.2,fun h hs => h (hstored.2 hs)⟩

theorem step_callStep (api : TdpApi D) (c : Config D) (a : Arrival) (hin : c.frame.label.inCall) :
    CallStep c (step api c a) := by
  cases hl : c.frame.label with
  | setPmtFilter =>
    simp only [step,hl]
    split
    · exact .setFilter api c _ _ (by decide) (by rw [hl]; decide)
    · exact ⟨rfl,rfl,rfl,rfl,rfl,fun _ hs => absurd hs Bool.false_ne_true⟩
  | setTdtFilter | setTotFilter =>
    simp only [step,hl]
    exact .setFilter api c _ _ (by decide) (by rw [hl]; decide)
  | scan | createVideo | createAudio =>
    simp only [step,hl]
    split
    · exact ⟨rfl,rfl,rfl,rfl,rfl,fun _ hs => absurd hs Bool.false_ne_true⟩
    · exact ⟨rfl,rfl,rfl,rfl,rfl,fun _ hs => absurd hs Bool.false_ne_true⟩
  | testVideo | testHandleV | testAudio | testHandleA =>
    simp only [step,hl]
    split
    · exact ⟨rfl,rfl,rfl,rfl,rfl,fun _ hs => absurd hs Bool.false_ne_true⟩
    · exact ⟨rfl,rfl,rfl,rfl,rfl,fun _ hs => absurd hs Bool.false_ne_true⟩
  | freeFilter | waitPmt | removeVideo | zeroVideo | dropVideo | zeroDroppedVideo | clearScreen
  | removeAudio | zeroAudio =>
    simp only [step,hl]
    exact ⟨rfl,rfl,rfl,rfl,rfl,fun _ hs => absurd hs Bool.false_ne_true⟩
  | storeChannel =>
    simp only [step,hl]
    exact ⟨rfl,rfl,rfl,rfl,rfl,fun _ _ => rfl⟩
  | testTimeTables =>
    have hstored : c.frame.label.stored := by rw [hl]; rfl
    simp only [step,hl]
    split
    · exact ⟨rfl,rfl,rfl,rfl,rfl,fun h _ => h hstored⟩
    · exact ⟨rfl,rfl,rfl,rfl,rfl,fun h _ => h hstored⟩
  | freeForTdt | waitTdt | freeForTot | waitTot | storeDate | setTimeTablesRecieved =>
    have hstored : c.frame.label.stored := by rw [hl]; rfl
    simp only [step,hl]
    exact ⟨rfl,rfl,rfl,rfl,rfl,fun h _ => h hstored⟩
  | returned | filterFailed | fault | deinit =>
    simp only [step,hl]
    exact ⟨rfl,rfl,rfl,rfl,hin,fun h => h⟩
  | setPatFilter | waitPat | ready =>
    rw [hl] at hin
    exact absurd hin (by decide)

/-- `startChannel(channelNumber)`, from the controller `s` to its end with `s'`. -/
def Completes (api : TdpApi D) (channelNumber : Int32) (s s' : Controller D) : Prop :=
  ∃ arrivals : List Arrival,
    let c := arrivals.foldl (step api) (startChannel s channelNumber)
    c.frame.label = .returned ∧ c.controller = s'

structure Calling (s : Controller D) (channelNumber : Int32) (c : Config D) : Prop where
  programNumber : c.controller.programNumber = s.programNumber
  patTable : c.controller.tables.patTable = s.tables.patTable
  channelNumber : c.frame.channelNumber = channelNumber
  inCall : c.frame.label.inCall
  channelStored : ChannelStored c

theorem Calling.start (s : Controller D) (n : Int32) : Calling s n (startChannel s n) :=
  ⟨rfl,rfl,rfl,rfl,fun h => absurd h Bool.false_ne_true⟩

theorem Calling.step {s : Controller D} {n : Int32} {c : Config D} (h : Calling s n c)
    (api : TdpApi D) (a : Arrival) : Calling s n (step api c a) := by
  have hstep := step_callStep api c a h.inCall
  exact ⟨hstep.programNumber.trans h.programNumber,hstep.patTable.trans h.patTable,
    hstep.channelNumber.trans h.channelNumber,hstep.inCall,hstep.channelStored h.channelStored⟩

/-- A completed call keeps the programme number and the PAT, and the current channel is
that of its argument. -/
theorem Completes.effect {api : TdpApi D} {n : Int32} {s s' : Controller D}
    (h : Completes api n s s') :
    s'.programNumber = s.programNumber ∧ s'.tables.patTable = s.tables.patTable ∧
      s'.currentChannel.programNumber = Int16.ofInt (n.toInt+1) := by
  obtain ⟨arrivals,hreturned,rfl⟩ := h
  have hcall : Calling s n (arrivals.foldl (TvApp.step api) (startChannel s n)) :=
    List.foldlRecOn arrivals _ (Calling.start s n) fun c hc a _ => hc.step api a
  refine ⟨hcall.programNumber,hcall.patTable,?_⟩
  have hstored := hcall.channelStored (by rw [hreturned]; rfl)
  rwa [hcall.channelNumber] at hstored

end TvApp

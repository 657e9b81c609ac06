import TvApp.Broadcast
import TvApp.ConfigFile

/-! From the configuration file, the programme keys and the bytes on air to the player.
The file gives the first programme number, P+ and P- walk on from there over the services
of the PAT, the worker tunes to where the number stands when it looks, and the PMT on air
says what is played.  The parts have been dealt with one by one; here they are put
together, for every interleaving whose calls are kept apart and in which no thread reads a
table that is being written. -/
namespace TvApp

open Routine StreamKind ParseErrorCode

variable {D : Type}

theorem PatSection.patResult_count (s : PatSection) {buf : Buffer} (h : Holds buf 0 s.encode)
    (prior : PatTable) :
    (patResult buf prior).2.serviceInfoCount = UInt8.ofNat (min 20 s.entries.length) := by
  have hheader := s.header_of_holds h.append_left
  have hid : buf 0 = 0x00 := congrArg PatHeader.tableId hheader
  have hloop := s.entries_of_holds h prior.patServiceInfoArray
  have hrun := run_parsePatTable prior hid (by rw [hheader]; exact hloop)
  rw [run_parsePatTable_eq] at hrun
  rw [congrArg Prod.snd (Except.ok.inj hrun)]
  simp only [Walk.pushAll_count,List.length_take,List.length_map,Nat.zero_add]

/-- The slot of the PAT that the keys lead to, from the number in the file. -/
def Multiplex.position (m : Multiplex) (number : ℕ) (keys : List ProgrammeKey) : ℕ :=
  (((number : ℤ)+keys.count .channelUp-keys.count .channelDown)%((m.pat.entries.length : ℤ)-1)).toNat+1

/-- The keys handled so far, and those of them that the worker's last call has seen. -/
structure Requests where
  handled : List ProgrammeKey
  served : List ProgrammeKey
  deriving DecidableEq

def Requests.observe (r : Requests) : Option ProgrammeKey → Requests
  | some key => { r with handled := r.handled ++ [key] }
  | none => { r with served := r.handled }

namespace Tuning

variable {api : TdpApi D} {c₀ : Controller D} {s s' : Tuning D} {e : TuningEvent} {m : Multiplex}
  {count : UInt8} {number : Int16} {r : Requests} {log : List (Option ProgrammeKey)}

/-- Programme keys as they are handled, and in between the calls of the worker. -/
def heard (_ : Tuning D) : TuningEvent → List (Option ProgrammeKey)
  | .press key => [some key]
  | .workerCalls => [none]
  | .advance _ | .dial _ | .begins _ | .parses | .signals => []

def PatKnown (s : Tuning D) : TuningEvent → Prop
  | .press _ => s.controller.tables.patTable.serviceInfoCount ≠ 0
  | _ => True

/-- Where the keys have led, and where the worker is with it. -/
structure Keyed (count : UInt8) (number : Int16) (s : Tuning D) (r : Requests) : Prop where
  services : s.controller.tables.patTable.serviceInfoCount = count ∨
    s.controller.tables.patTable.serviceInfoCount = 0
  programNumber : s.controller.programNumber = pressAll count number r.handled
  worker : (s.label .worker).inCall →
    (s.caller .worker).frame.channelNumber = (pressAll count number r.served).toInt32

theorem statement_programNumber (hbooted : ∀ t, s.label t ≠ .setPatFilter) (t : Caller) :
    (s.statement api t).controller.programNumber = s.controller.programNumber := by
  cases hin : (s.label t).inCall with
  | true => exact (step_callStep api (s.config t) s.controller.tables.arrival hin).programNumber
  | false =>
    have hl' : (s.config t).frame.label = s.label t := rfl
    have hbooted := hbooted t
    change (TvApp.step api (s.config t) s.controller.tables.arrival).controller.programNumber = _
    cases hc : s.label t <;> rw [hc] at hin hbooted hl'
    case setPatFilter => exact absurd rfl hbooted
    case waitPat | ready =>
      simp only [TvApp.step,hl']
      rfl
    all_goals cases hin

theorem statement_worker (hbooted : ∀ t, s.label t ≠ .setPatFilter) (t : Caller)
    (hin : ((s.statement api t).label .worker).inCall) :
    (s.label .worker).inCall ∧ ((s.statement api t).caller .worker).frame.channelNumber =
      (s.caller .worker).frame.channelNumber := by
  by_cases ht : Caller.worker = t
  · subst ht
    cases hbefore : (s.label .worker).inCall with
    | true =>
      have hcall := step_callStep api (s.config .worker) s.controller.tables.arrival hbefore
      have hconfig := congrArg Config.frame (statement_config api s .worker)
      exact ⟨rfl,(congrArg Frame.channelNumber hconfig).trans hcall.channelNumber⟩
    | false =>
      have hl' : (s.config .worker).frame.label = s.label .worker := rfl
      have hbooted := hbooted .worker
      rw [statement_label] at hin
      cases hc : s.label .worker <;> rw [hc] at hbefore hbooted hl'
      case setPatFilter => exact absurd rfl hbooted
      case waitPat =>
        simp only [TvApp.step,hl'] at hin
        cases hin
      case ready =>
        simp only [TvApp.step,hl'] at hin
        cases hin
      all_goals cases hbefore
  · rw [label,statement_caller_of_ne api s ht] at hin
    rw [statement_caller_of_ne api s ht]
    exact ⟨hin,rfl⟩

/-- What the other steps do to the programme number and to the worker's call. -/
inductive Elsewhere (s s' : Tuning D) : TuningEvent → Prop
  | press (key : ProgrammeKey)
      (hnumber : s'.controller.programNumber =
        key.press s.controller.tables.patTable.serviceInfoCount s.controller.programNumber)
      (hframe : (s'.caller .worker).frame = (s.caller .worker).frame) : Elsewhere s s' (.press key)
  | calls (hnumber : s'.controller.programNumber = s.controller.programNumber)
      (hframe : (s'.caller .worker).frame.channelNumber = s.controller.programNumber.toInt32) :
      Elsewhere s s' .workerCalls
  | other {e : TuningEvent} (he : heard s e = [])
      (hnumber : s'.controller.programNumber = s.controller.programNumber)
      (hframe : (s'.caller .worker).frame = (s.caller .worker).frame) : Elsewhere s s' e

theorem calls_worker (s : Tuning D) (channelNumber : Int32) :
    ((s.calls .worker channelNumber).caller .worker).frame.channelNumber = channelNumber := by
  rw [Tuning.calls,withCaller_caller_self]
  rfl

theorem step_elsewhere (h : s.step api e = some s')
    (he : ∀ t, e = .advance t → (s.label t).waits ∧ (s.caller t).demuxCond = .outside) :
    Elsewhere s s' e := by
  cases e with
  | advance t =>
    obtain ⟨hwaits,houtside⟩ := he t rfl
    simp only [step,advance,hwaits,houtside,if_true] at h
    cases h
    refine .other rfl rfl ?_
    by_cases ht : Caller.worker = t
    · rw [← ht,withCaller_caller_self]
    · rw [withCaller_caller_of_ne s _ ht]
  | workerCalls =>
    simp only [step,workerCalls] at h
    split at h
    case h_1 =>
      cases h
      exact .calls rfl (calls_worker s _)
    case h_4 => cases h
    all_goals
      split at h
      · cases h
        exact .calls rfl (calls_worker _ _)
      · cases h
  | press key =>
    cases h
    exact .press key rfl rfl
  | dial channelNumber =>
    cases h
    rw [dial]
    split
    · refine .other rfl rfl ?_
      rw [Tuning.calls,withCaller_caller_of_ne _ _ (by rintro ⟨⟩)]
    · exact .other rfl rfl rfl
  | begins sec | signals =>
    simp only [step] at h
    split at h <;> cases h
    exact .other rfl rfl rfl
  | parses =>
    simp only [step] at h
    split at h
    · rw [Tuning.parses] at h
      split at h <;> cases h
      refine .other rfl rfl ?_
      change (record s.caller _ .worker).frame = _
      rw [record]
      split <;> rfl
    · cases h

theorem services_next (hs : s.Separate api) (hair : s.FromAir api m)
    (hk : s.controller.tables.patTable.serviceInfoCount = UInt8.ofNat (min 20 m.pat.entries.length) ∨
      s.controller.tables.patTable.serviceInfoCount = 0)
    (hstep : s.step api e = some s') :
    s'.controller.tables.patTable.serviceInfoCount = UInt8.ofNat (min 20 m.pat.entries.length) ∨
      s'.controller.tables.patTable.serviceInfoCount = 0 := by
  obtain he | ⟨t,-,rfl⟩ := step_statement hstep
  · obtain hsame | ⟨-,sec,harrived,hid,hpat⟩ := (step_aside hstep he).patTable
    · rw [hsame]
      exact hk
    · left
      rw [hpat]
      exact m.pat.patResult_count ((hair.arrived sec harrived).1 hid) _
  · rw [statement_pat hs.booted]
    exact hk

theorem Keyed.step (hs : s.Separate api) (hair : s.FromAir api m)
    (h : s.Keyed (UInt8.ofNat (min 20 m.pat.entries.length)) number r) (hknown : s.PatKnown e)
    (hstep : s.step api e = some s') :
    s'.Keyed (UInt8.ofNat (min 20 m.pat.entries.length)) number
      ((heard s e).foldl Requests.observe r) := by
  have hservices := services_next hs hair h.services hstep
  obtain he | ⟨t,rfl,rfl⟩ := step_statement hstep
  · cases step_elsewhere hstep he with
    | press key hnumber hframe =>
      have hcount := h.services.resolve_right hknown
      refine ⟨hservices,?_,fun hin => ?_⟩
      · rw [hnumber,hcount,h.programNumber]
        exact (pressAll_append _ _ r.handled [key]).symm
      · rw [label,hframe] at hin
        rw [hframe]
        exact h.worker hin
    | calls hnumber hframe =>
      refine ⟨hservices,hnumber.trans h.programNumber,fun _ => ?_⟩
      rw [hframe,h.programNumber]
      rfl
    | other hheard hnumber hframe =>
      rw [hheard]
      refine ⟨hservices,hnumber.trans h.programNumber,fun hin => ?_⟩
      rw [label,hframe] at hin
      rw [hframe]
      exact h.worker hin
  · refine ⟨hservices,(statement_programNumber hs.booted t).trans h.programNumber,fun hin => ?_⟩
    obtain ⟨hbefore,hsame⟩ := statement_worker hs.booted t hin
    exact hsame.trans (h.worker hbefore)

theorem Keyed.position (hcapacity : m.pat.entries.length ≤ 20) {n : ℕ} (hnumber : number.toInt = n)
    (hservice : n+2 ≤ m.pat.entries.length)
    (h : s.Keyed (UInt8.ofNat (min 20 m.pat.entries.length)) number r)
    (hin : (s.label .worker).inCall) :
    m.position n r.served < m.pat.entries.length ∧
      (s.caller .worker).frame.channelNumber.toInt+1 = m.position n r.served := by
  have hcount : (UInt8.ofNat (min 20 m.pat.entries.length)).toNat = m.pat.entries.length := by
    rw [UInt8.toNat_ofNat']
    omega
  have hselects : Selects (UInt8.ofNat (min 20 m.pat.entries.length)) number := by
    rw [Selects,hcount,hnumber]
    exact ⟨by omega,by omega⟩
  have hclosed := pressAll_toInt hselects r.served
  have hwithin := hselects.pressAll r.served
  rw [Selects,hcount] at hwithin
  rw [hcount,hnumber] at hclosed
  obtain ⟨hlow,hhigh⟩ := hwithin
  rw [hclosed] at hlow hhigh
  have hposition : (m.position n r.served : ℤ) = (((n : ℤ)+r.served.count .channelUp-
      r.served.count .channelDown)%((m.pat.entries.length : ℤ)-1))+1 := by
    rw [Multiplex.position]
    omega
  refine ⟨by omega,?_⟩
  rw [h.worker hin,Int16.toInt_toInt32,hclosed,hposition]

instance decidablePatKnown (s : Tuning D) : DecidablePred s.PatKnown
  | .press _ => inferInstanceAs (Decidable (_ ≠ _))
  | .advance _ | .workerCalls | .dial _ | .begins _ | .parses | .signals => isTrue trivial

end Tuning
end TvApp

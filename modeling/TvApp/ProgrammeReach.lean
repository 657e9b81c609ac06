import TvApp.ChannelWalk
import TvApp.ParserOutcome
import TvApp.StartChannel

/-! Which programmes the upward key reaches.
The parser keeps the entries of the PAT in stream order and never looks at
`program_number`, `startChannel` leaves out slot 0 as if the network entry stood
there, and P+ goes round over the other slots.  So the pids tuned to are those of
all entries but the first, and whether these are the programmes depends on what
the first entry is. -/
namespace TvApp

open Routine ParseErrorCode

def servicePid (patTable : PatTable) (i : ℤ) : Option UInt16 :=
  match run (fun _ => 0) (slot tablesMaxNumberOfPidsInPat i) with
  | .ok k => some (patTable.patServiceInfoArray k.1).pid
  | .error _ => none

/-- The pid that `startChannel(channelNumber)` hands to `Demux_Set_Filter`. -/
def pmtPid (patTable : PatTable) (channelNumber : Int32) : Option UInt16 :=
  servicePid patTable (tunedSlot channelNumber)

/-- It is the pid in the call: the second statement of `startChannel` sets the filter
for that pid and `table_id` 0x02. -/
theorem startChannel_sets_pmtPid {D : Type} (api : TdpApi D) (s : Controller D)
    (channelNumber : Int32) {pid : UInt16} (h : pmtPid s.tables.patTable channelNumber = some pid)
    (a a' : Arrival) :
    step api (step api (startChannel s channelNumber) a) a' =
      (step api (startChannel s channelNumber) a).setFilter api pid 0x02 .waitPmt
        .filterFailed := by
  have hfree : step api (startChannel s channelNumber) a =
      ((startChannel s channelNumber).freeFilter api).goto .setPmtFilter := rfl
  rw [pmtPid,servicePid] at h
  rw [hfree,step]
  simp only [Config.goto,Config.freeFilter,Config.withDevice,startChannel]
  cases hslot : run (fun _ => 0)
      (slot tablesMaxNumberOfPidsInPat (tunedSlot channelNumber)) with
  | error e =>
    rw [hslot] at h
    cases h
  | ok k =>
    rw [hslot] at h
    cases h
    rfl

theorem pmtPid_of_slot {patTable : PatTable} {channelNumber : Int32} {j : ℕ} (hj : j < 20)
    (hslot : tunedSlot channelNumber = (j : ℤ)) :
    pmtPid patTable channelNumber = some (patTable.patServiceInfoArray ⟨j,hj⟩).pid := by
  rw [pmtPid,hslot,servicePid,run_slot _ hj]

/-- The pids tuned to when P+ is pressed again and again and each selected channel is
started. -/
def tunedPids (patTable : PatTable) (programNumber : Int16) : Set UInt16 :=
  {pid | ∃ i : ℕ, pmtPid patTable (pressAll patTable.serviceInfoCount programNumber
    (List.replicate (i+1) .channelUp)).toInt32 = some pid}

theorem PatEntry.info_pid_eq_iff {e f : PatEntry} : e.info.pid = f.info.pid ↔ e.pid = f.pid := by
  rw [PatEntry.info,PatEntry.info,← UInt16.toNat_inj,UInt16.toNat_ofNat',UInt16.toNat_ofNat',
    Fin.ext_iff]
  have he := e.pid.isLt
  have hf := f.pid.isLt
  omega

namespace PatSection

def programmePids (s : PatSection) : Set UInt16 :=
  {pid | ∃ e ∈ s.entries, e.programNumber ≠ 0 ∧ e.info.pid = pid}

def OneNetwork (s : PatSection) : Prop :=
  (s.entries.filter fun e => e.programNumber = 0).length ≤ 1

instance (s : PatSection) : Decidable s.OneNetwork :=
  inferInstanceAs (Decidable ((s.entries.filter fun e => e.programNumber = 0).length ≤ 1))

def laterPids (s : PatSection) : Set UInt16 := {pid | ∃ e ∈ s.entries.tail, e.info.pid = pid}

theorem tunedPids_eq (s : PatSection) {prior table : PatTable} {buf : Buffer} {p : Int16}
    (hbuf : Holds buf 0 s.encode) (hok : run buf (parsePatTable prior) = .ok (tablesParseOk,table))
    (hp : Selects table.serviceInfoCount p) : tunedPids table p = s.laterPids := by
  obtain ⟨hle,hcount,hentries⟩ := s.accepted_entries hbuf hok
  ext pid
  constructor
  · rintro ⟨i,hpid⟩
    -- the slot is in use and not the first one
    have hselects := hp.pressAll (List.replicate (i+1) .channelUp)
    generalize pressAll table.serviceInfoCount p (List.replicate (i+1) .channelUp) = q at *
    obtain ⟨hlow,hhigh⟩ := hselects
    rw [hcount] at hhigh
    obtain ⟨j,hj⟩ : ∃ j : ℕ, q.toInt = j := ⟨q.toInt.toNat,by omega⟩
    have hslot : tunedSlot q.toInt32 = ((j+1 : ℕ) : ℤ) := by
      rw [tunedSlot,Int16.toInt_toInt32,hj]
      push_cast
      rfl
    rw [pmtPid_of_slot (show j+1 < 20 by omega) hslot,
      hentries ⟨j+1,by omega⟩ (show j+1 < s.entries.length by omega)] at hpid
    refine ⟨s.entries[j+1],?_,Option.some.inj hpid⟩
    rw [List.mem_iff_getElem]
    exact ⟨j,by rw [List.length_tail]; omega,by rw [List.getElem_tail]⟩
  · rintro ⟨e,he,rfl⟩
    obtain ⟨j,hj,rfl⟩ := List.mem_iff_getElem.mp he
    rw [List.length_tail] at hj
    obtain ⟨i,⟨-,hslot⟩,-⟩ := ups_tune_every_slot hp (show (1 : ℤ) ≤ ((j+1 : ℕ) : ℤ) by omega)
      (by rw [hcount]; omega)
    refine ⟨i,?_⟩
    rw [pmtPid_of_slot (show j+1 < 20 by omega) hslot,
      hentries ⟨j+1,by omega⟩ (show j+1 < s.entries.length by omega),List.getElem_tail]

/-- What the source counts on, and what also does: the network entry comes first, or
the first entry shares its pid with a later one and the pid of a network entry is a
programme's as well. -/
def LaterAreProgrammes (s : PatSection) : Prop :=
  ∃ e es, s.entries = e::es ∧
    (e.programNumber = 0 ∨
      ((∃ f ∈ es, f.pid = e.pid) ∧
        ∀ n ∈ es, n.programNumber = 0 → ∃ f ∈ s.entries, f.programNumber ≠ 0 ∧ f.pid = n.pid))

theorem OneNetwork.tail {s : PatSection} (h : s.OneNetwork) {e : PatEntry} {es : List PatEntry}
    (hs : s.entries = e::es) (he : e.programNumber = 0) : ∀ f ∈ es, f.programNumber ≠ 0 := by
  rw [OneNetwork,hs,List.filter_cons_of_pos (by simpa using he),List.length_cons] at h
  intro f hf hzero
  have hmem : f ∈ es.filter fun e => e.programNumber = 0 :=
    List.mem_filter.mpr ⟨hf,by simpa using hzero⟩
  have := List.length_pos_of_mem hmem
  omega

theorem laterPids_eq_programmePids_iff {s : PatSection} (h : s.OneNetwork)
    (hne : s.entries ≠ []) : s.laterPids = s.programmePids ↔ s.LaterAreProgrammes := by
  obtain ⟨e,es,hs⟩ : ∃ e es, s.entries = e::es := List.exists_cons_of_ne_nil hne
  constructor
  · intro heq
    refine ⟨e,es,hs,?_⟩
    by_cases hzero : e.programNumber = 0
    · exact .inl hzero
    · refine .inr ⟨?_,?_⟩
      · have hmem : e.info.pid ∈ s.laterPids := by
          rw [heq]
          exact ⟨e,by rw [hs]; exact List.mem_cons_self,hzero,rfl⟩
        obtain ⟨f,hf,hpid⟩ := hmem
        rw [hs] at hf
        exact ⟨f,hf,PatEntry.info_pid_eq_iff.mp hpid⟩
      · intro n hn _
        have hmem : n.info.pid ∈ s.programmePids := by
          rw [← heq]
          exact ⟨n,by rw [hs]; exact hn,rfl⟩
        obtain ⟨f,hf,hprogramme,hpid⟩ := hmem
        exact ⟨f,hf,hprogramme,PatEntry.info_pid_eq_iff.mp hpid⟩
  · rintro ⟨e',es',hs',hcases⟩
    obtain ⟨rfl,rfl⟩ := List.cons.inj (hs'.symm.trans hs)
    ext pid
    constructor
    · rintro ⟨f,hf,rfl⟩
      rw [hs] at hf
      by_cases hzero : f.programNumber = 0
      · rcases hcases with hfirst | ⟨-,hnetwork⟩
        · exact absurd hzero (h.tail hs hfirst f hf)
        · obtain ⟨g,hg,hprogramme,hpid⟩ := hnetwork f hf hzero
          exact ⟨g,hg,hprogramme,PatEntry.info_pid_eq_iff.mpr hpid⟩
      · exact ⟨f,by rw [hs]; exact List.mem_cons_of_mem _ hf,hzero,rfl⟩
    · rintro ⟨f,hf,hprogramme,rfl⟩
      rw [hs] at hf
      rcases List.mem_cons.mp hf with rfl | hf
      · rcases hcases with hfirst | ⟨⟨g,hg,hpid⟩,-⟩
        · exact absurd hfirst hprogramme
        · exact ⟨g,by rw [hs]; exact hg,PatEntry.info_pid_eq_iff.mpr hpid⟩
      · exact ⟨f,by rw [hs]; exact hf,rfl⟩

/-- P+ reaches exactly the programmes if and only if the entries behind the first have
exactly their pids. -/
theorem ups_tune_programmes_iff (s : PatSection) (hone : s.OneNetwork) (buf : Buffer)
    (prior table : PatTable) (hbuf : Holds buf 0 s.encode)
    (hok : run buf (parsePatTable prior) = .ok (tablesParseOk,table)) (p : Int16)
    (hp : 0 ≤ p.toInt ∧ p.toInt ≤ (table.serviceInfoCount.toNat : ℤ)-2) :
    tunedPids table p = s.programmePids ↔ s.LaterAreProgrammes := by
  have hselects : Selects table.serviceInfoCount p := ⟨hp.1,by omega⟩
  obtain ⟨-,hcount,-⟩ := s.accepted_entries hbuf hok
  rw [s.tunedPids_eq hbuf hok hselects]
  refine laterPids_eq_programmePids_iff hone ?_
  intro hnil
  rw [hcount,hnil] at hp
  simp only [List.length_nil] at hp
  omega

def sampleBuffer (s : PatSection) : Buffer := fun i => s.encode.getD i 0

def received (s : PatSection) : PatTable := (patResult s.sampleBuffer .zeroed).2

theorem run_received {s : PatSection}
    (h : (patResult s.sampleBuffer .zeroed).1 = tablesParseOk) :
    run s.sampleBuffer (parsePatTable .zeroed) = .ok (tablesParseOk,s.received) := by
  rw [run_parsePatTable_eq,← h]
  rfl

theorem sample_programmes_tuned : tunedPids sample.received 0 = sample.programmePids :=
  (ups_tune_programmes_iff sample (by decide) sample.sampleBuffer .zeroed sample.received
    (holds_getD _) (run_received (by decide +kernel)) 0 (by decide +kernel)).mpr
    ⟨_,_,rfl,.inl rfl⟩

theorem withoutNetwork_first_unreachable :
    withoutNetwork.OneNetwork ∧
      run withoutNetwork.sampleBuffer (parsePatTable .zeroed) =
        .ok (tablesParseOk,withoutNetwork.received) ∧
      Selects withoutNetwork.received.serviceInfoCount 0 ∧
      (0x100 : UInt16) ∈ withoutNetwork.programmePids ∧
      (0x100 : UInt16) ∉ tunedPids withoutNetwork.received 0 := by
  have hrun := run_received (s := withoutNetwork) (by decide +kernel)
  have hselects : Selects withoutNetwork.received.serviceInfoCount 0 := by decide +kernel
  refine ⟨by decide,hrun,hselects,⟨⟨1,7,0x100⟩,List.mem_cons_self,by decide,rfl⟩,?_⟩
  rw [tunedPids_eq withoutNetwork (holds_getD _) hrun hselects]
  rintro ⟨e,he,hpid⟩
  obtain rfl : e = ⟨2,7,0x200⟩ := List.mem_singleton.mp he
  exact absurd hpid (by decide)

end PatSection
end TvApp

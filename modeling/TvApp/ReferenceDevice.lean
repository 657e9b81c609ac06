import TvApp.StartChannel

/-! A device that behaves as the program assumes.
Handles are numbered in the order of their issue, and a schedule says which calls
of `Demux_Set_Filter` fail.  It shows that the assumptions can be met, and runs of
the stream controller on it can be evaluated. -/
namespace TvApp

structure ReferenceDevice where
  streams : List PlayerStream
  filters : List SectionFilter
  issued : ℕ
  /-- The outcomes of the next `Demux_Set_Filter` calls; they succeed when it is used up. -/
  failures : List Bool
  streams_le : ∀ st ∈ streams, st.handle ≤ issued
  filters_le : ∀ fl ∈ filters, fl.handle ≤ issued

namespace ReferenceDevice

def new (failures : List Bool) : ReferenceDevice := ⟨[],[],0,failures,by simp,by simp⟩

def addStream (d : ReferenceDevice) (pid : Int16) (kind : StreamKind) : ReferenceDevice :=
  { d with
    streams := ⟨d.issued+1,pid,kind⟩ :: d.streams
    issued := d.issued+1
    streams_le := by
      intro st hst
      rcases List.mem_cons.mp hst with rfl | hst
      · exact le_refl _
      · exact Nat.le_succ_of_le (d.streams_le st hst)
    filters_le := fun fl hfl => Nat.le_succ_of_le (d.filters_le fl hfl) }

def addFilter (d : ReferenceDevice) (pid : UInt16) (tableId : UInt8) : ReferenceDevice :=
  { d with
    filters := ⟨d.issued+1,pid,tableId⟩ :: d.filters
    issued := d.issued+1
    streams_le := fun st hst => Nat.le_succ_of_le (d.streams_le st hst)
    filters_le := by
      intro fl hfl
      rcases List.mem_cons.mp hfl with rfl | hfl
      · exact le_refl _
      · exact Nat.le_succ_of_le (d.filters_le fl hfl) }

def dropStream (d : ReferenceDevice) (h : ℕ) : ReferenceDevice :=
  { d with
    streams := d.streams.filter (·.handle ≠ h)
    streams_le := fun st hst => d.streams_le st (List.mem_of_mem_filter hst) }

def dropFilter (d : ReferenceDevice) (h : ℕ) : ReferenceDevice :=
  { d with
    filters := d.filters.filter (·.handle ≠ h)
    filters_le := fun fl hfl => d.filters_le fl (List.mem_of_mem_filter hfl) }

def setFilter (d : ReferenceDevice) (pid : UInt16) (tableId : UInt8) : Option ℕ × ReferenceDevice :=
  match d.failures with
  | true :: failures => (none,{ d with failures := failures })
  | _ => (some (d.issued+1),{ d.addFilter pid tableId with failures := d.failures.tail })

end ReferenceDevice

def referenceApi : TdpApi ReferenceDevice where
  playerStreamCreate d pid kind := (some (d.issued+1),d.addStream pid kind)
  playerStreamRemove := ReferenceDevice.dropStream
  demuxSetFilter := ReferenceDevice.setFilter
  demuxFreeFilter := ReferenceDevice.dropFilter
  peClearScreen d := d
  streams d := {st | st ∈ d.streams}
  filters d := {fl | fl ∈ d.filters}

open ReferenceDevice in
theorem referenceApi_lawful : referenceApi.Lawful where
  create d pid kind := by
    refine ⟨d.issued+1,rfl,Nat.succ_ne_zero _,fun st hst => ?_,?_⟩
    · exact (Nat.lt_succ_of_le (d.streams_le st hst)).ne
    · ext st
      simp [referenceApi,addStream]
  create_filters d pid kind := rfl
  remove d h := by
    ext st
    simp [referenceApi,dropStream]
  remove_filters d h := rfl
  set d pid tableId h hh := by
    simp only [referenceApi,setFilter] at hh ⊢
    split at hh
    · exact absurd hh (by simp)
    · have hg : d.issued+1 = h := Option.some.inj hh
      subst hg
      refine ⟨Nat.succ_ne_zero _,fun fl hfl => (Nat.lt_succ_of_le (d.filters_le fl hfl)).ne,?_⟩
      ext fl
      simp [addFilter]
  set_failed d pid tableId hnone := by
    simp only [referenceApi,setFilter] at hnone ⊢
    split at hnone
    · rfl
    · exact absurd hnone (by simp)
  set_streams d pid tableId := by
    simp only [referenceApi,setFilter]
    split <;> rfl
  free d h := by
    ext fl
    simp [referenceApi,dropFilter]
  free_streams d h := rfl
  clear_streams d := rfl
  clear_filters d := rfl

/-- Static storage when the stream thread starts; only the programme number is set. -/
def Controller.initial {D : Type} (d : D) (programNumber : Int16) : Controller D :=
  ⟨d,.zeroed,0,0,0,false,programNumber,⟨0,0,0⟩,false,⟨0,0,0⟩⟩

/-- Tables with the given PAT services and PMT streams, at most twenty of each. -/
def Arrival.ofLists (services : List PatServiceInfo) (streams : List PmtElementaryInfo) : Arrival where
  patTable := { PatTable.zeroed with
    patServiceInfoArray := fun i => services.getD i ⟨0,0⟩
    serviceInfoCount := UInt8.ofNat services.length }
  pmtTable := { PmtTable.zeroed with
    pmtElementaryInfoArray := fun i => streams.getD i ⟨0,0,0⟩
    elementaryInfoCount := UInt8.ofNat streams.length }
  tdtTable := .zeroed
  totTable := .zeroed

end TvApp

import TvApp.WhiteSpaces
import TvApp.WorkerLoop

/-! `loadConfigFile` and `loadInitialInfo` of `stream_controller.c`.
Each line of the file is cut at its dashes in place, the words are trimmed by
`removeWhiteSpaces` and the first one selects a field.  The trim takes neither the
newline nor the spaces before it from the second word, and leaves its last character as
it finds it; what the fields get is `atoi` of that text. -/
namespace TvApp

open Routine

inductive StreamControllerError
  | scNoError
  | scError
  | scThreadError
  deriving DecidableEq, Repr

abbrev lineLength : ℕ := 100

/-- `t_Module` is declared by the tuner's library. -/
structure InitialInfo (Module : Type) where
  tuneFrequency : UInt32
  tuneBandwidth : UInt32
  programNumber : UInt32
  tuneModule : Module
  deriving DecidableEq, Repr

section

variable {cap : ℕ} {Module : Type}

/-- `strtok` from `p` and `removeWhiteSpaces` on its token: the word, the array and
where the next call begins. -/
def nextWord (line : Fin cap → Char) (p : ℕ) : Routine (List Char × (Fin cap → Char) × ℕ) := do
  let (token,line,next) ← strtok dash line p
  match token with
  | none => nullAccess
  | some singleWord => do
    let line ← removeWhiteSpaces line singleWord
    let word ← stringAt line singleWord
    return (word,line,next)

/-- Body of the `while` loop; the loop is left when the first component is an error. -/
def configLine (dvbT : Module) (singleLine : Fin lineLength → Char)
    (configInfo : InitialInfo Module) :
    Routine (StreamControllerError × (Fin lineLength → Char) × InitialInfo Module) := do
  let (key,singleLine,next) ← nextWord singleLine 0
  if key = "frequency".toList then do
    let (word,singleLine,_) ← nextWord singleLine next
    return (.scNoError,singleLine,{ configInfo with tuneFrequency := UInt32.ofInt (atoi word) })
  else if key = "bandwidth".toList then do
    let (word,singleLine,_) ← nextWord singleLine next
    return (.scNoError,singleLine,{ configInfo with tuneBandwidth := UInt32.ofInt (atoi word) })
  else if key = "module".toList then do
    let (word,singleLine,_) ← nextWord singleLine next
    -- `strcmp` is nonzero, and the condition true, when the words differ
    if word ≠ "DVB_T".toList then
      return (.scNoError,singleLine,{ configInfo with tuneModule := dvbT })
    else return (.scError,singleLine,configInfo)
  else if key = "program_number".toList then do
    let (word,singleLine,_) ← nextWord singleLine next
    return (.scNoError,singleLine,{ configInfo with programNumber := UInt32.ofInt (atoi word) })
  else return (.scNoError,singleLine,configInfo)

def configLines (dvbT : Module) (singleLine : Fin lineLength → Char) (inputFile : List Char)
    (configInfo : InitialInfo Module) : Routine (StreamControllerError × InitialInfo Module) :=
  match _h : fgets singleLine inputFile with
  | none => pure (.scNoError,configInfo)
  | some (singleLine,inputFile) => do
    let (status,singleLine,configInfo) ← configLine dvbT singleLine configInfo
    if status = .scNoError then configLines dvbT singleLine inputFile configInfo
    else return (status,configInfo)
termination_by inputFile.length
decreasing_by exact fgets_shorter (show 2 ≤ lineLength by decide) (by assumption)

/-- `none` is a file that cannot be opened; `singleLine` is what the array holds before
anything is stored in it. -/
def loadConfigFile (dvbT : Module) (singleLine : Fin lineLength → Char)
    (inputFile : Option (List Char)) (configInfo : InitialInfo Module) :
    Routine (StreamControllerError × InitialInfo Module) :=
  match inputFile with
  | none => pure (.scError,configInfo)
  | some inputFile => configLines dvbT singleLine inputFile configInfo

/-- On `configFile` and the global `programNumber`. -/
def loadInitialInfo (dvbT : Module) (singleLine : Fin lineLength → Char)
    (inputFile : Option (List Char)) (configFile : InitialInfo Module) (programNumber : Int16) :
    Routine (StreamControllerError × InitialInfo Module × Int16) := do
  let (status,configFile) ← loadConfigFile dvbT singleLine inputFile configFile
  if status ≠ .scNoError then return (.scError,configFile,programNumber)
  else return (.scNoError,configFile,configuredProgramNumber configFile.programNumber)

/-- What `removeWhiteSpaces` leaves of the text `s`. -/
def leftWord (s : List Char) : List Char := (trim s).dropLast++[s.getD ((trim s).length-1) nul]

variable {buf : Buffer} {line : Fin cap → Char} {p : ℕ}

theorem nextWord_of_token {line' : Fin cap → Char} {u : List Char} {i c next : ℕ}
    (htoken : run buf (strtok dash line p) = .ok (some p,line',next)) (hu : IsString line' p u)
    (hpadded : Padded u (trim u) i c) :
    run buf (nextWord line p) = .ok (leftWord u,trimmedLine line' p i (trim u).length,next) := by
  have htrim : Yields buf _ _ (removeWhiteSpaces line' p) _ := hpadded.removeWhiteSpaces_yields hu
  have hleft : Yields buf _ _ (stringAt _ p) _ := (hpadded.isString_trimmedLine hu).stringAt_yields
  rw [nextWord,run_bind_of_ok htoken]
  simp only
  rw [run_bind_of_ok htrim.returns,run_bind_of_ok hleft.returns]
  rfl

theorem nextWord_separated {u v : List Char} (h : IsString line p (u++dash::v)) (hdash : dash ∉ u)
    (hword : ∃ x ∈ u, x ≠ space) :
    ∃ line', run buf (nextWord line p) = .ok (leftWord u,line',p+u.length+1) ∧
      IsString line' (p+u.length+1) v := by
  have hne : u ≠ [] := by
    rintro rfl
    simp at hword
  obtain ⟨i,c,hpadded⟩ := padded_trim hword
  have hlen := hpadded.length_eq
  have hend : p+u.length < cap := by
    have hfits := h.fits
    rw [List.length_append,List.length_cons] at hfits
    omega
  have htoken : Yields buf _ _ (strtok dash line p) _ := strtok_separated h hne hdash (by decide)
  obtain ⟨hu,hv⟩ := h.cut hend
  refine ⟨_,nextWord_of_token htoken.returns hu hpadded,hv.of_peek fun j _ => ?_⟩
  exact Padded.peek_frame _ (by omega)

theorem nextWord_last {u : List Char} (h : IsString line p u) (hdash : dash ∉ u)
    (hword : ∃ x ∈ u, x ≠ space) :
    ∃ line', run buf (nextWord line p) = .ok (leftWord u,line',p+u.length) := by
  have hne : u ≠ [] := by
    rintro rfl
    simp at hword
  obtain ⟨i,c,hpadded⟩ := padded_trim hword
  have htoken : Yields buf _ _ (strtok dash line p) _ := strtok_last h hne hdash
  exact ⟨_,nextWord_of_token htoken.returns h hpadded⟩

end

def IsPlain (c : Char) : Prop := c ≠ nul ∧ c ≠ newline ∧ c ≠ space ∧ c ≠ dash

instance : DecidablePred IsPlain := fun c => by unfold IsPlain; infer_instance

theorem isPlain_of_all {s : List Char} (h : s.all (IsPlain ·) = true) : ∀ c ∈ s, IsPlain c :=
  fun c hc => of_decide_eq_true (List.all_eq_true.mp h c hc)

/-- A line: the key at column 0, spaces, a dash, spaces, the value and spaces. -/
structure ConfigLine where
  key : List Char
  gap : ℕ
  indent : ℕ
  value : List Char
  trailing : ℕ
  key_ne_nil : key ≠ []
  key_plain : ∀ c ∈ key, IsPlain c
  value_plain : ∀ c ∈ value, IsPlain c

namespace ConfigLine

def left (l : ConfigLine) : List Char := l.key++List.replicate l.gap space

def right (l : ConfigLine) : List Char :=
  List.replicate l.indent space++(l.value++List.replicate l.trailing space)

def text (l : ConfigLine) : List Char := l.left++dash::(l.right++[newline])

theorem mem_left {l : ConfigLine} {c : Char} (h : c ∈ l.left) : IsPlain c ∨ c = space := by
  rw [left,List.mem_append] at h
  rcases h with h | h
  · exact .inl (l.key_plain c h)
  · exact .inr (List.eq_of_mem_replicate h)

theorem mem_right {l : ConfigLine} {c : Char} (h : c ∈ l.right) : IsPlain c ∨ c = space := by
  rw [right,List.mem_append,List.mem_append] at h
  rcases h with h | h | h
  · exact .inr (List.eq_of_mem_replicate h)
  · exact .inl (l.value_plain c h)
  · exact .inr (List.eq_of_mem_replicate h)

theorem dash_not_mem_left (l : ConfigLine) : dash ∉ l.left := by
  intro h
  rcases mem_left h with h | h
  · exact h.2.2.2 rfl
  · exact absurd h (by decide)

theorem dash_not_mem_right (l : ConfigLine) : dash ∉ l.right++[newline] := by
  rw [List.mem_append,List.mem_singleton]
  rintro (h | h)
  · rcases mem_right h with h | h
    · exact h.2.2.2 rfl
    · exact absurd h (by decide)
  · exact absurd h (by decide)

theorem mem_body {l : ConfigLine} {c : Char} (h : c ∈ l.left++dash::l.right) :
    c ≠ newline ∧ c ≠ nul := by
  rw [List.mem_append,List.mem_cons] at h
  have hplain {c : Char} (hc : IsPlain c ∨ c = space) : c ≠ newline ∧ c ≠ nul := by
    rcases hc with hc | rfl
    · exact ⟨hc.2.1,hc.1⟩
    · decide
  rcases h with h | rfl | h
  · exact hplain (mem_left h)
  · decide
  · exact hplain (mem_right h)

theorem leftWord_left (l : ConfigLine) : leftWord l.left = l.key := by
  have hplain (x : Char) (hx : x ∈ l.key) : x ≠ space := (l.key_plain x hx).2.2.1
  have hpadded : Padded l.left l.key 0 l.gap :=
    ⟨rfl,l.key_ne_nil,hplain _ (List.head_mem _),hplain _ (List.getLast_mem _)⟩
  have hpos : 0 < l.key.length := List.length_pos_iff.mpr l.key_ne_nil
  have hlast : l.left.getD (l.key.length-1) nul = l.key.getLast l.key_ne_nil := by
    rw [left,List.getD_append _ _ _ _ (by omega),List.getD_eq_getElem _ _ (by omega),
      List.getLast_eq_getElem]
  rw [leftWord,hpadded.trim_eq,hlast,List.dropLast_append_getLast]

theorem padded_newline {u t : List Char} {i c : ℕ} (h : Padded (u++[newline]) t i c) :
    ∃ v, u = List.replicate i space++v ∧ t = v++[newline] := by
  have heq := h.eq
  cases c with
  | zero =>
    rw [List.replicate_zero,List.append_nil,← List.dropLast_append_getLast h.ne_nil,
      ← List.append_assoc] at heq
    obtain ⟨hu,hlast⟩ := List.append_inj' heq rfl
    refine ⟨t.dropLast,hu,?_⟩
    rw [hlast,List.dropLast_append_getLast]
  | succ c =>
    rw [List.replicate_succ',← List.append_assoc,← List.append_assoc] at heq
    have hlast := (List.append_inj' heq rfl).2
    exact absurd hlast (by decide)

/-- The comparison in the branch for `module` never succeeds: a T as last character
would have to stand among the first five characters behind the dash already. -/
theorem leftWord_right_ne (l : ConfigLine) : leftWord (l.right++[newline]) ≠ "DVB_T".toList := by
  intro h
  obtain ⟨i,c,hpadded⟩ := padded_trim (s := l.right++[newline]) ⟨newline,by simp,by decide⟩
  obtain ⟨v,hright,htrim⟩ := padded_newline hpadded
  have hsplit : "DVB_T".toList = "DVB_".toList++[Char.ofNat 84] := by decide
  rw [leftWord,htrim,List.dropLast_concat,hsplit] at h
  obtain ⟨hv,hlast⟩ := List.append_inj' h rfl
  have hchar := List.singleton_inj.mp hlast
  have hindex : (v++[newline]).length-1 < (l.right++[newline]).length := by
    simp only [hright,List.length_append,List.length_replicate,List.length_singleton]
    omega
  rw [List.getD_eq_getElem _ _ hindex] at hchar
  have hmem : Char.ofNat 84 ∈ l.right++[newline] := hchar ▸ List.getElem_mem _
  rw [hright,hv,List.mem_append,List.mem_append,List.mem_singleton] at hmem
  rcases hmem with (hmem | hmem) | hmem
  · exact absurd (List.eq_of_mem_replicate hmem) (by decide)
  · exact absurd hmem (by decide)
  · exact absurd hmem (by decide)

variable {Module : Type} {buf : Buffer}

def store (dvbT : Module) (configInfo : InitialInfo Module) (l : ConfigLine) : InitialInfo Module :=
  let number := UInt32.ofInt (atoi (leftWord (l.right++[newline])))
  if l.key = "frequency".toList then { configInfo with tuneFrequency := number }
  else if l.key = "bandwidth".toList then { configInfo with tuneBandwidth := number }
  else if l.key = "module".toList then { configInfo with tuneModule := dvbT }
  else if l.key = "program_number".toList then { configInfo with programNumber := number }
  else configInfo

theorem configLine_store (dvbT : Module) (configInfo : InitialInfo Module) (l : ConfigLine)
    {singleLine : Fin lineLength → Char} (h : IsString singleLine 0 l.text) :
    ∃ line', run buf (configLine dvbT singleLine configInfo) =
      .ok (.scNoError,line',l.store dvbT configInfo) := by
  have hkey : ∃ x ∈ l.left, x ≠ space := by
    obtain ⟨x,hx⟩ := List.exists_mem_of_ne_nil _ l.key_ne_nil
    exact ⟨x,List.mem_append_left _ hx,(l.key_plain x hx).2.2.1⟩
  obtain ⟨line₁,hfirst,hrest⟩ : ∃ line', run buf (nextWord singleLine 0) = _ ∧ _ :=
    nextWord_separated h l.dash_not_mem_left hkey
  obtain ⟨line₂,hsecond⟩ : ∃ line', run buf (nextWord line₁ (0+l.left.length+1)) = _ :=
    nextWord_last hrest l.dash_not_mem_right ⟨newline,by simp,by decide⟩
  rw [leftWord_left] at hfirst
  rw [configLine,run_bind_of_ok hfirst,store]
  simp only
  split_ifs
  · rw [run_bind_of_ok hsecond]
    exact ⟨line₂,rfl⟩
  · rw [run_bind_of_ok hsecond]
    exact ⟨line₂,rfl⟩
  · rw [run_bind_of_ok hsecond]
    simp only
    rw [if_pos l.leftWord_right_ne]
    exact ⟨line₂,rfl⟩
  · rw [run_bind_of_ok hsecond]
    exact ⟨line₂,rfl⟩
  · exact ⟨line₁,rfl⟩

theorem store_tuneFrequency (dvbT : Module) (configInfo : InitialInfo Module) (l : ConfigLine) :
    (l.store dvbT configInfo).tuneFrequency = if l.key = "frequency".toList then
      UInt32.ofInt (atoi (leftWord (l.right++[newline]))) else configInfo.tuneFrequency := by
  rw [store]
  split_ifs <;> rfl

theorem store_tuneBandwidth (dvbT : Module) (configInfo : InitialInfo Module) (l : ConfigLine) :
    (l.store dvbT configInfo).tuneBandwidth = if l.key = "bandwidth".toList then
      UInt32.ofInt (atoi (leftWord (l.right++[newline]))) else configInfo.tuneBandwidth := by
  by_cases h : l.key = "bandwidth".toList
  · rw [if_pos h,store,h]
    rfl
  · rw [if_neg h,store,if_neg h]
    split_ifs <;> rfl

theorem store_tuneModule (dvbT : Module) (configInfo : InitialInfo Module) (l : ConfigLine) :
    (l.store dvbT configInfo).tuneModule = if l.key = "module".toList then dvbT
      else configInfo.tuneModule := by
  by_cases h : l.key = "module".toList
  · rw [if_pos h,store,h]
    rfl
  · rw [if_neg h,store,if_neg h]
    split_ifs <;> rfl

theorem store_programNumber (dvbT : Module) (configInfo : InitialInfo Module) (l : ConfigLine) :
    (l.store dvbT configInfo).programNumber = if l.key = "program_number".toList then
      UInt32.ofInt (atoi (leftWord (l.right++[newline]))) else configInfo.programNumber := by
  by_cases h : l.key = "program_number".toList
  · rw [if_pos h,store,h]
    rfl
  · rw [if_neg h,store,if_neg h]
    split_ifs <;> rfl

/-- A line as `config.ini` has them, with a decimal number, or the one supported
standard, and at least one space behind it. -/
structure Regular (l : ConfigLine) : Prop where
  known : l.key ∈ ["frequency","bandwidth","module","program_number"].map String.toList
  fits : l.text.length < lineLength
  spaced : 1 ≤ l.trailing
  supported : l.key = "module".toList → l.value = "DVB_T".toList
  number : l.key ≠ "module".toList → l.value ≠ [] ∧ (∀ c ∈ l.value, isDigit c = true) ∧
    decimal l.value < 2^31

theorem atoi_leftWord (l : ConfigLine) (hne : l.value ≠ []) (hdigits : ∀ c ∈ l.value, isDigit c = true)
    (hspaced : 1 ≤ l.trailing) : atoi (leftWord (l.right++[newline])) = decimal l.value := by
  have hpadded : Padded (l.right++[newline])
      (l.value++List.replicate l.trailing space++[newline]) l.indent 0 := by
    refine ⟨by simp [right],by simp,?_,?_⟩
    · simp only [List.append_assoc]
      rw [List.head_append_of_ne_nil hne]
      exact (l.value_plain _ (List.head_mem hne)).2.2.1
    · rw [List.getLast_concat]
      decide
  obtain ⟨n,hn⟩ : ∃ n, l.trailing = n+1 := ⟨l.trailing-1,by omega⟩
  rw [leftWord,hpadded.trim_eq,List.dropLast_concat,hn,List.replicate_succ,List.append_assoc,
    List.cons_append]
  exact atoi_digits hne hdigits (by decide)

theorem Regular.toNat_number {l : ConfigLine} (h : l.Regular) (hkey : l.key ≠ "module".toList) :
    (UInt32.ofInt (atoi (leftWord (l.right++[newline])))).toNat = decimal l.value := by
  obtain ⟨hne,hdigits,hbound⟩ := h.number hkey
  have hint : ((decimal l.value : ℤ)%2^32).toNat = decimal l.value := by omega
  rw [l.atoi_leftWord hne hdigits h.spaced,UInt32.ofInt,hint]
  exact UInt32.toNat_ofNat_of_lt (hbound.trans (by decide))

end ConfigLine

section

variable {Module : Type} {buf : Buffer}

def configText (lines : List ConfigLine) : List Char := lines.flatMap ConfigLine.text

theorem configLines_store (dvbT : Module) (lines : List ConfigLine)
    (hfits : ∀ l ∈ lines, l.text.length < lineLength) (singleLine : Fin lineLength → Char)
    (configInfo : InitialInfo Module) :
    run buf (configLines dvbT singleLine (configText lines) configInfo) =
      .ok (.scNoError,lines.foldl (ConfigLine.store dvbT) configInfo) := by
  induction lines generalizing singleLine configInfo with
  | nil =>
    rw [configLines]
    rfl
  | cons l lines ih =>
    have hl := hfits l List.mem_cons_self
    have htext : configText (l::lines) = (l.left++dash::l.right)++newline::configText lines := by
      simp only [configText,List.flatMap_cons,ConfigLine.text,List.append_assoc,List.cons_append,
        List.nil_append]
    have hline : (l.left++dash::l.right)++[newline] = l.text := by
      simp only [ConfigLine.text,List.append_assoc,List.cons_append]
    have hlength : (l.left++dash::l.right).length+2 ≤ lineLength := by
      rw [← hline,List.length_append,List.length_singleton] at hl
      omega
    obtain ⟨line₁,hread,hstring⟩ : ∃ line', fgets singleLine _ = some (line',_) ∧ _ :=
      fgets_line (l.left++dash::l.right) (configText lines)
        (fun h => (ConfigLine.mem_body h).1 rfl) (fun h => (ConfigLine.mem_body h).2 rfl) hlength
    rw [hline] at hstring
    obtain ⟨line₂,hbody⟩ : ∃ line', run buf (configLine dvbT line₁ configInfo) = _ :=
      l.configLine_store dvbT configInfo hstring
    rw [configLines,htext]
    split
    · rename_i hnone
      rw [hread] at hnone
      exact absurd hnone (by simp)
    · rename_i hsome
      rw [hread] at hsome
      obtain ⟨rfl,rfl⟩ := Prod.mk.inj (Option.some.inj hsome)
      rw [run_bind_of_ok hbody]
      exact ih (fun l' hl' => hfits l' (List.mem_cons_of_mem l hl')) line₂ _

theorem foldl_last {α β ι : Type} (f : α → ι → α) (get : α → β) (writes : ι → Bool) (put : ι → β)
    (xs : List ι) (hstep : ∀ a, ∀ x ∈ xs, get (f a x) = if writes x then put x else get a) (a : α) :
    get (xs.foldl f a) = ((xs.filter writes).getLast?.map put).getD (get a) := by
  induction xs generalizing a with
  | nil => rfl
  | cons x xs ih =>
    rw [List.foldl_cons,ih (fun a y hy => hstep a y (List.mem_cons_of_mem x hy)),
      hstep a x List.mem_cons_self]
    cases hx : writes x with
    | false => rw [List.filter_cons_of_neg (by simp [hx]),if_neg (by simp)]
    | true =>
      rw [List.filter_cons_of_pos hx,if_pos rfl,List.getLast?_cons]
      cases (xs.filter writes).getLast? <;> rfl

def lastValue (lines : List ConfigLine) (key : List Char) : Option (List Char) :=
  (lines.filter (·.key = key)).getLast?.map ConfigLine.value

theorem foldl_number (dvbT : Module) (get : InitialInfo Module → UInt32) (key : List Char)
    (hget : ∀ configInfo (l : ConfigLine), get (l.store dvbT configInfo) = if l.key = key then
      UInt32.ofInt (atoi (leftWord (l.right++[newline]))) else get configInfo)
    (hkey : key ≠ "module".toList) (lines : List ConfigLine) (h : ∀ l ∈ lines, l.Regular)
    (configInfo : InitialInfo Module) :
    (get (lines.foldl (ConfigLine.store dvbT) configInfo)).toNat =
      (lastValue lines key).elim (get configInfo).toNat decimal := by
  have hstep (a : InitialInfo Module) (l : ConfigLine) (hl : l ∈ lines) :
      (get (l.store dvbT a)).toNat = if decide (l.key = key) then decimal l.value
        else (get a).toNat := by
    rw [hget]
    by_cases hlkey : l.key = key
    · rw [if_pos hlkey,if_pos (decide_eq_true hlkey)]
      exact (h l hl).toNat_number (hlkey ▸ hkey)
    · rw [if_neg hlkey,if_neg (by simpa using hlkey)]
  rw [foldl_last (ConfigLine.store dvbT) (fun a => (get a).toNat) _ _ lines hstep,lastValue]
  cases (lines.filter (·.key = key)).getLast? <;> rfl

theorem foldl_tuneModule (dvbT : Module) (lines : List ConfigLine)
    (h : ∃ l ∈ lines, l.key = "module".toList) (configInfo : InitialInfo Module) :
    (lines.foldl (ConfigLine.store dvbT) configInfo).tuneModule = dvbT := by
  obtain ⟨l,hl,hkey⟩ := h
  have hstep (a : InitialInfo Module) (x : ConfigLine) (_ : x ∈ lines) :
      (x.store dvbT a).tuneModule = if decide (x.key = "module".toList) then dvbT
        else a.tuneModule := by
    rw [x.store_tuneModule dvbT a]
    simp only [decide_eq_true_eq]
  have hne : lines.filter (·.key = "module".toList) ≠ [] := by
    intro hnil
    exact List.filter_eq_nil_iff.mp hnil l hl (decide_eq_true hkey)
  rw [foldl_last (ConfigLine.store dvbT) InitialInfo.tuneModule _ (fun _ => dvbT) lines hstep,
    List.getLast?_eq_some_getLast hne]
  rfl

theorem run_loadInitialInfo {dvbT : Module} {singleLine : Fin lineLength → Char}
    {inputFile : Option (List Char)} {configFile info : InitialInfo Module}
    {status : StreamControllerError} (programNumber : Int16)
    (h : run buf (loadConfigFile dvbT singleLine inputFile configFile) = .ok (status,info)) :
    run buf (loadInitialInfo dvbT singleLine inputFile configFile programNumber) =
      .ok (if status = .scNoError then
        (.scNoError,info,configuredProgramNumber info.programNumber)
        else (.scError,info,programNumber)) := by
  rw [loadInitialInfo,run_bind_of_ok h]
  cases status <;> rfl

theorem run_loadInitialInfo_controller {D : Type} (s : Controller D) {dvbT : Module}
    {singleLine : Fin lineLength → Char} {inputFile : Option (List Char)}
    {configFile info : InitialInfo Module}
    (h : run buf (loadConfigFile dvbT singleLine inputFile configFile) = .ok (.scNoError,info)) :
    run buf (loadInitialInfo dvbT singleLine inputFile configFile s.programNumber) =
      .ok (.scNoError,info,(s.loadInitialInfo info.programNumber).programNumber) :=
  run_loadInitialInfo s.programNumber h

/-- The file is read as written: every field holds the number in the last line with its
key, and so does the global `programNumber` where sixteen bits hold it. -/
theorem config_read_as_written (buf : Buffer) (dvbT : Module) (singleLine : Fin lineLength → Char)
    (lines : List ConfigLine) (configFile : InitialInfo Module) (programNumber : Int16)
    (h : ∀ l ∈ lines, l.Regular) :
    ∃ info number,
      run buf (loadConfigFile dvbT singleLine (some (configText lines)) configFile) =
        .ok (.scNoError,info) ∧
      run buf (loadInitialInfo dvbT singleLine (some (configText lines)) configFile programNumber) =
        .ok (.scNoError,info,number) ∧
      info.tuneFrequency.toNat =
        (lastValue lines "frequency".toList).elim configFile.tuneFrequency.toNat decimal ∧
      info.tuneBandwidth.toNat =
        (lastValue lines "bandwidth".toList).elim configFile.tuneBandwidth.toNat decimal ∧
      info.programNumber.toNat =
        (lastValue lines "program_number".toList).elim configFile.programNumber.toNat decimal ∧
      ((∃ l ∈ lines, l.key = "module".toList) → info.tuneModule = dvbT) ∧
      (info.programNumber.toNat ≤ 32767 → number.toInt = info.programNumber.toNat) := by
  have hload : run buf (loadConfigFile dvbT singleLine (some (configText lines)) configFile) =
      .ok (.scNoError,lines.foldl (ConfigLine.store dvbT) configFile) :=
    configLines_store dvbT lines (fun l hl => (h l hl).fits) singleLine configFile
  refine ⟨_,configuredProgramNumber (lines.foldl (ConfigLine.store dvbT) configFile).programNumber,
    hload,run_loadInitialInfo programNumber hload,?_,?_,?_,?_,?_⟩
  · exact foldl_number dvbT InitialInfo.tuneFrequency _
      (ConfigLine.store_tuneFrequency dvbT) (by decide) lines h configFile
  · exact foldl_number dvbT InitialInfo.tuneBandwidth _
      (ConfigLine.store_tuneBandwidth dvbT) (by decide) lines h configFile
  · exact foldl_number dvbT InitialInfo.programNumber _
      (ConfigLine.store_programNumber dvbT) (by decide) lines h configFile
  · intro hmodule
    exact foldl_tuneModule dvbT lines hmodule configFile
  · intro hsmall
    have hlow : (lines.foldl (ConfigLine.store dvbT) configFile).programNumber.toUInt16.toNat =
        (lines.foldl (ConfigLine.store dvbT) configFile).programNumber.toNat := by
      rw [UInt32.toNat_toUInt16]
      exact Nat.mod_eq_of_lt (by omega)
    rw [configuredProgramNumber,toInt_toInt16 _ (by omega),hlow]

/-- The file of the repository. -/
def shipped : List ConfigLine :=
  [⟨"frequency".toList,7,1,"754000000".toList,3,by decide,isPlain_of_all rfl,isPlain_of_all rfl⟩,
    ⟨"bandwidth".toList,7,1,"8".toList,3,by decide,isPlain_of_all rfl,isPlain_of_all rfl⟩,
    ⟨"module".toList,10,1,"DVB_T".toList,3,by decide,isPlain_of_all rfl,isPlain_of_all rfl⟩,
    ⟨"program_number".toList,2,1,"2".toList,3,by decide,isPlain_of_all rfl,isPlain_of_all rfl⟩]

theorem shipped_regular : ∀ l ∈ shipped, l.Regular := by
  rw [shipped,List.forall_mem_cons,List.forall_mem_cons,List.forall_mem_cons,List.forall_mem_singleton]
  refine ⟨⟨by decide,by decide,by decide,by decide,fun _ => ?_⟩,
    ⟨by decide,by decide,by decide,by decide,fun _ => ?_⟩,
    ⟨by decide,by decide,by decide,by decide,fun h => absurd rfl h⟩,
    ⟨by decide,by decide,by decide,by decide,fun _ => ?_⟩⟩ <;>
  exact ⟨by decide,List.all_eq_true.mp rfl,by decide⟩

theorem shipped_read : ∃ info number,
    run (fun _ => 0) (loadInitialInfo true (fun _ => nul) (some (configText shipped))
      ⟨0,0,0,false⟩ 0) = .ok (.scNoError,info,number) ∧
    info.tuneFrequency.toNat = 754000000 ∧ info.tuneBandwidth.toNat = 8 ∧
    info.tuneModule = true ∧ number.toInt = 2 := by
  obtain ⟨info,number,-,hrun,hfrequency,hbandwidth,hprogram,hmodule,hnumber⟩ :=
    config_read_as_written (fun _ => 0) true (fun _ => nul) shipped ⟨0,0,0,false⟩ 0 shipped_regular
  have hprogram : info.programNumber.toNat = 2 := hprogram
  refine ⟨info,number,hrun,hfrequency,hbandwidth,hmodule ?_,?_⟩
  · exact ⟨_,List.mem_of_getElem? (i := 2) rfl,rfl⟩
  · rw [hnumber (by omega),hprogram]
    rfl

/-- What the branch for `module` is for: an error for any other standard than DVB-T, and
that one set without an error. -/
def ChecksModule (buf : Buffer) (dvbT : Module) (singleLine : Fin lineLength → Char)
    (lines : List ConfigLine) (configFile : InitialInfo Module) : Prop :=
  ∃ status info,
    run buf (loadConfigFile dvbT singleLine (some (configText lines)) configFile) =
      .ok (status,info) ∧
    ((∃ l ∈ lines, l.key = "module".toList ∧ l.value ≠ "DVB_T".toList) → status = .scError) ∧
    ((∃ l ∈ lines, l.key = "module".toList) →
      (∀ l ∈ lines, l.key = "module".toList → l.value = "DVB_T".toList) →
      status = .scNoError ∧ info.tuneModule = dvbT)

/-- The comparison is inverted, and the newline hides it for the supported standard: every
other standard is accepted as DVB-T. -/
theorem checksModule_iff (buf : Buffer) (dvbT : Module) (singleLine : Fin lineLength → Char)
    (lines : List ConfigLine) (configFile : InitialInfo Module)
    (hfits : ∀ l ∈ lines, l.text.length < lineLength) :
    ChecksModule buf dvbT singleLine lines configFile ↔
      ∀ l ∈ lines, l.key = "module".toList → l.value = "DVB_T".toList := by
  have hload : run buf (loadConfigFile dvbT singleLine (some (configText lines)) configFile) =
      .ok (.scNoError,lines.foldl (ConfigLine.store dvbT) configFile) :=
    configLines_store dvbT lines hfits singleLine configFile
  constructor
  · rintro ⟨status,info,hrun,herror,-⟩ l hl hkey
    rw [hload] at hrun
    cases hrun
    by_contra hvalue
    exact absurd (herror ⟨l,hl,hkey,hvalue⟩) (by decide)
  · intro hall
    refine ⟨_,_,hload,?_,?_⟩
    · rintro ⟨l,hl,hkey,hvalue⟩
      exact absurd (hall l hl hkey) hvalue
    · intro hmodule _
      exact ⟨rfl,foldl_tuneModule dvbT lines hmodule configFile⟩

end

theorem shipped_module_checked :
    ChecksModule (fun _ => 0) true (fun _ => nul) shipped ⟨0,0,0,false⟩ :=
  (checksModule_iff (fun _ => 0) true (fun _ => nul) shipped ⟨0,0,0,false⟩
    (fun l hl => (shipped_regular l hl).fits)).mpr fun l hl => (shipped_regular l hl).supported

def cableLine : ConfigLine :=
  ⟨"module".toList,1,1,"DVB_C".toList,1,by decide,isPlain_of_all rfl,isPlain_of_all rfl⟩

/-- A file that asks for DVB-C is loaded without an error, as DVB-T. -/
theorem cable_module_accepted :
    configText [cableLine] = "module - DVB_C \n".toList ∧
    run (fun _ => 0) (loadConfigFile true (fun _ => nul) (some (configText [cableLine]))
      ⟨0,0,0,false⟩) = .ok (.scNoError,⟨0,0,0,true⟩) ∧
    ¬ ChecksModule (fun _ => 0) true (fun _ => nul) [cableLine] ⟨0,0,0,false⟩ := by
  have hload : run (fun _ => 0) (loadConfigFile true (fun _ => nul)
      (some (configText [cableLine])) ⟨0,0,0,false⟩) = .ok (.scNoError,⟨0,0,0,true⟩) :=
    configLines_store true [cableLine] (by decide) (fun _ => nul) ⟨0,0,0,false⟩
  refine ⟨by decide,hload,?_⟩
  rintro ⟨status,info,hrun,herror,-⟩
  rw [hload] at hrun
  cases hrun
  exact absurd (herror ⟨cableLine,by simp,by decide,by decide⟩) (by decide)

end TvApp

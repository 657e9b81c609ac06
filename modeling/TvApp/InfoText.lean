import Mathlib.Tactic

/-! The texts of the info overlay.
`renderThread` formats them with `sprintf` into an array of ten characters.  How long they
are is a matter of the values' ranges: pids are of sixteen bits with sign, the year has
sixteen bits, month and day have eight. -/
namespace TvApp

/-- `%d`. -/
def formatInt (n : ℤ) : List Char :=
  if n < 0 then '-' :: Nat.toDigits 10 n.natAbs else Nat.toDigits 10 n.natAbs

/-- `%.2d` or `%.4d` of a number that is not negative: at least so many digits. -/
def formatPadded (width n : ℕ) : List Char :=
  List.replicate (width-(Nat.toDigits 10 n).length) '0' ++ Nat.toDigits 10 n

def videoPidText (videoPidToDraw : Int16) : List Char :=
  "Video PID : ".toList ++ formatInt videoPidToDraw.toInt

def audioPidText (audioPidToDraw : Int16) : List Char :=
  "Audio PID : ".toList ++ formatInt audioPidToDraw.toInt

/-- The cases 1 to 12 of the `switch`, in order. -/
def monthNames : List String :=
  ["January","February","March","April","May","June","July","August","September","October",
    "November","December"]

/-- The name in the case for the month; there is no default case. -/
def monthName (tmpMonthToDraw : UInt8) : Option (List Char) :=
  if tmpMonthToDraw = 0 then none else (monthNames[tmpMonthToDraw.toNat-1]?).map String.toList

/-- What the branch with the date formats; nothing if no case applies. -/
def dateText (YearToDraw : UInt16) (tmpMonthToDraw dayToDraw : UInt8) : Option (List Char) :=
  if YearToDraw = 0 then some "Date not available".toList
  else (monthName tmpMonthToDraw).map fun name =>
    name ++ '/' :: formatPadded 2 dayToDraw.toNat ++ '/' :: formatPadded 4 YearToDraw.toNat

/-- `char tempString[10]`. -/
abbrev tempStringSize : ℕ := 10

theorem toDigits_length_le {n : ℕ} (k : ℕ) (hk : 0 < k) (h : n < 10^k) :
    (Nat.toDigits 10 n).length ≤ k :=
  (Nat.length_toDigits_le_iff (by omega) hk).2 h

theorem toDigits_length_pos (n : ℕ) : 0 < (Nat.toDigits 10 n).length := Nat.length_toDigits_pos

theorem formatPadded_length (width n : ℕ) :
    (formatPadded width n).length = max width (Nat.toDigits 10 n).length := by
  rw [formatPadded,List.length_append,List.length_replicate]
  omega

theorem formatInt_length (pid : Int16) :
    1 ≤ (formatInt pid.toInt).length ∧ (formatInt pid.toInt).length ≤ 6 := by
  have hlow := pid.le_toInt
  have hhigh := pid.toInt_lt
  have hpos := toDigits_length_pos pid.toInt.natAbs
  have hle := toDigits_length_le (n := pid.toInt.natAbs) 5 (by omega) (by omega)
  rw [formatInt]
  split
  · rw [List.length_cons]
    omega
  · omega

theorem monthName_length {m : UInt8} {name : List Char} (h : monthName m = some name) :
    3 ≤ name.length ∧ name.length ≤ 9 := by
  have hnames : ∀ s ∈ monthNames, 3 ≤ s.toList.length ∧ s.toList.length ≤ 9 := by decide +kernel
  rw [monthName] at h
  split at h
  · cases h
  · obtain ⟨s,hs,rfl⟩ := Option.map_eq_some_iff.1 h
    exact hnames s (List.mem_of_getElem? hs)

theorem labelledPid_length {label : List Char} (hlabel : label.length = 12) (pid : Int16) :
    11 ≤ (label ++ formatInt pid.toInt).length ∧ (label ++ formatInt pid.toInt).length ≤ 19 := by
  have hpid := formatInt_length pid
  rw [List.length_append,hlabel]
  omega

theorem dateText_length {Year : UInt16} {tmpMonth day : UInt8} {text : List Char}
    (h : dateText Year tmpMonth day = some text) : 11 ≤ text.length ∧ text.length ≤ 19 := by
  rw [dateText] at h
  split at h
  · cases h
    decide +kernel
  · obtain ⟨name,hname,rfl⟩ := Option.map_eq_some_iff.1 h
    have hmonth := monthName_length hname
    have hday := toDigits_length_le (n := day.toNat) 3 (by omega) (by have := day.toNat_lt; omega)
    have hyear := toDigits_length_le (n := Year.toNat) 5 (by omega) (by have := Year.toNat_lt; omega)
    simp only [List.length_append,List.length_cons,formatPadded_length]
    omega

inductive InfoText : List Char → Prop
  | videoPid (pid : Int16) : InfoText (videoPidText pid)
  | audioPid (pid : Int16) : InfoText (audioPidText pid)
  | date {Year : UInt16} {tmpMonth day : UInt8} {text : List Char}
      (h : dateText Year tmpMonth day = some text) : InfoText text

theorem InfoText.length {text : List Char} (h : InfoText text) :
    11 ≤ text.length ∧ text.length ≤ 19 := by
  cases h with
  | videoPid pid => exact labelledPid_length (by decide +kernel) pid
  | audioPid pid => exact labelledPid_length (by decide +kernel) pid
  | date hdate => exact dateText_length hdate

/-- None of the texts fits `tempString`; twenty characters are what all of them need. -/
theorem infoTexts_fit_iff (size : ℕ) :
    (∀ text, InfoText text → text.length < size) ↔ 20 ≤ size := by
  constructor
  · intro hfits
    have hlongest : dateText 12345 9 123 = some "September/123/12345".toList := by decide +kernel
    have hlength : "September/123/12345".toList.length = 19 := by decide +kernel
    have hlt := hfits _ (.date hlongest)
    rw [hlength] at hlt
    exact hlt
  · intro hsize text htext
    exact htext.length.2.trans_lt hsize

end TvApp

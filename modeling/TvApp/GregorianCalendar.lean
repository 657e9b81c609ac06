import Mathlib.Tactic

/-! The Gregorian calendar and the Modified Julian Date.
A date carries that its day exists in its month.  Its day number counts whole
years and months from 1 January of the year 0 on; day numbers and dates are in
bijection along the calendar's own successor, which is what makes the count one
of days. -/
namespace TvApp

/-- Every fourth year, except the centuries that four hundred does not divide. -/
def IsLeapYear (y : ℕ) : Prop := y % 4 = 0 ∧ (y % 100 ≠ 0 ∨ y % 400 = 0)

instance (y : ℕ) : Decidable (IsLeapYear y) :=
  inferInstanceAs (Decidable (y % 4 = 0 ∧ (y % 100 ≠ 0 ∨ y % 400 = 0)))

def leapDay (y : ℕ) : ℕ := if IsLeapYear y then 1 else 0

def monthLength (y m : ℕ) : ℕ :=
  if m = 2 then 28+leapDay y
  else if m = 4 ∨ m = 6 ∨ m = 9 ∨ m = 11 then 30
  else 31

structure CalendarDate where
  year : ℕ
  month : ℕ
  day : ℕ
  month_mem : 1 ≤ month ∧ month ≤ 12
  day_mem : 1 ≤ day ∧ day ≤ monthLength year month

def daysBeforeYear : ℕ → ℕ
  | 0 => 0
  | y+1 => daysBeforeYear y+(365+leapDay y)

def daysBeforeMonth (y m : ℕ) : ℕ := ∑ i ∈ Finset.Ico 1 m, monthLength y i

theorem leapDay_le (y : ℕ) : leapDay y ≤ 1 := by
  rw [leapDay]
  split
  · exact le_rfl
  · exact Nat.zero_le 1

theorem monthLength_le (y m : ℕ) : monthLength y m ≤ 31 := by
  rw [monthLength]
  split
  · rw [leapDay]
    split <;> omega
  · split <;> omega

theorem monthLength_pos (y m : ℕ) : 1 ≤ monthLength y m := by
  rw [monthLength]
  split_ifs
  · omega
  · omega
  · omega

theorem daysBeforeMonth_succ (y : ℕ) {m : ℕ} (hm : 1 ≤ m) :
    daysBeforeMonth y (m+1) = daysBeforeMonth y m+monthLength y m :=
  Finset.sum_Ico_succ_top hm _

theorem daysBeforeMonth_mono (y : ℕ) {m n : ℕ} (h : m ≤ n) :
    daysBeforeMonth y m ≤ daysBeforeMonth y n :=
  Finset.sum_le_sum_of_subset (Finset.Ico_subset_Ico_right h)

theorem daysBeforeMonth_thirteen (y : ℕ) : daysBeforeMonth y 13 = 365+leapDay y := by
  simp only [daysBeforeMonth,Finset.sum_Ico_succ_top,Nat.reduceLeDiff,Finset.Ico_self,
    Finset.sum_empty,monthLength]
  simp only [Nat.reduceEqDiff,if_true,if_false,or_true,or_self,or_false]
  omega

theorem daysBeforeMonth_table (y : ℕ) {m : ℕ} (h₁ : 1 ≤ m) (h₁₂ : m ≤ 12) :
    daysBeforeMonth y m = [0,0,31,59,90,120,151,181,212,243,273,304,334].getD m 0+
      if 2 < m then leapDay y else 0 := by
  induction m, h₁ using Nat.le_induction with
  | base => rfl
  | succ m hm ih =>
    rw [daysBeforeMonth_succ y hm,ih (by omega)]
    have hlt : m < 12 := by omega
    interval_cases m
    all_goals simp [monthLength]
    all_goals omega

theorem daysBeforeYear_eq (y : ℕ) :
    daysBeforeYear y+(y+99)/100 = 365*y+(y+3)/4+(y+399)/400 := by
  induction y with
  | zero => rfl
  | succ y ih =>
    -- each rounded quotient grows by one at the multiples of its divisor
    have hfour : (y+1+3)/4 = (y+3)/4+if y%4 = 0 then 1 else 0 := by split <;> omega
    have hhundred : (y+1+99)/100 = (y+99)/100+if y%100 = 0 then 1 else 0 := by split <;> omega
    have hfourHundred : (y+1+399)/400 = (y+399)/400+if y%400 = 0 then 1 else 0 := by
      split <;> omega
    rw [daysBeforeYear,hfour,hhundred,hfourHundred]
    clear hfour hhundred hfourHundred
    by_cases h₄₀₀ : y%400 = 0
    · have h₁₀₀ : y%100 = 0 := by omega
      have h₄ : y%4 = 0 := by omega
      have hleap : leapDay y = 1 := if_pos ⟨h₄,Or.inr h₄₀₀⟩
      rw [hleap,if_pos h₄,if_pos h₁₀₀,if_pos h₄₀₀]
      omega
    · by_cases h₁₀₀ : y%100 = 0
      · have h₄ : y%4 = 0 := by omega
        have hleap : leapDay y = 0 := if_neg fun h => h.2.elim (fun h => h h₁₀₀) h₄₀₀
        rw [hleap,if_pos h₄,if_pos h₁₀₀,if_neg h₄₀₀]
        omega
      · by_cases h₄ : y%4 = 0
        · have hleap : leapDay y = 1 := if_pos ⟨h₄,Or.inl h₁₀₀⟩
          rw [hleap,if_pos h₄,if_neg h₁₀₀,if_neg h₄₀₀]
          omega
        · have hleap : leapDay y = 0 := if_neg fun h => h₄ h.1
          rw [hleap,if_neg h₄,if_neg h₁₀₀,if_neg h₄₀₀]
          omega

theorem daysBeforeYear_mono {y z : ℕ} (h : y ≤ z) : daysBeforeYear y ≤ daysBeforeYear z := by
  induction z, h using Nat.le_induction with
  | base => exact le_rfl
  | succ z _ ih => exact ih.trans (Nat.le_add_right _ _)

namespace CalendarDate

@[ext] theorem ext_fields {d e : CalendarDate} (hy : d.year = e.year) (hm : d.month = e.month)
    (hd : d.day = e.day) : d = e := by
  cases d
  cases e
  simp only at hy hm hd
  subst hy hm hd
  rfl

def dayNumber (d : CalendarDate) : ℕ :=
  daysBeforeYear d.year+daysBeforeMonth d.year d.month+d.day

/-- Day zero is 17 November 1858. -/
def mjd (d : CalendarDate) : ℤ := (d.dayNumber : ℤ)-678942

def epoch : CalendarDate := ⟨1858,11,17,by decide,by decide⟩

theorem mjd_epoch : epoch.mjd = 0 := by
  have hyear := daysBeforeYear_eq 1858
  have hmonth : daysBeforeMonth 1858 11 = 304 := by decide
  simp only [mjd,dayNumber,epoch,hmonth]
  omega

def next (d : CalendarDate) : CalendarDate :=
  if h : d.day < monthLength d.year d.month then
    ⟨d.year,d.month,d.day+1,d.month_mem,by omega⟩
  else if hm : d.month < 12 then
    ⟨d.year,d.month+1,1,by omega,le_rfl,monthLength_pos _ _⟩
  else ⟨d.year+1,1,1,by decide,le_rfl,monthLength_pos _ _⟩

theorem dayNumber_next (d : CalendarDate) : d.next.dayNumber = d.dayNumber+1 := by
  have hday := d.day_mem
  have hmonth := d.month_mem
  rw [next]
  split
  · rfl
  · split
    · simp only [dayNumber,daysBeforeMonth_succ _ hmonth.1]
      omega
    · have hdecember : d.month = 12 := by omega
      have hyear := daysBeforeMonth_thirteen d.year
      rw [daysBeforeMonth_succ _ (by omega)] at hyear
      simp only [hdecember] at hday
      simp only [dayNumber,hdecember,daysBeforeYear]
      rw [show daysBeforeMonth (d.year+1) 1 = 0 from rfl]
      rename_i hlast _
      rw [hdecember] at hlast
      omega

theorem mjd_next (d : CalendarDate) : d.next.mjd = d.mjd+1 := by
  rw [mjd,mjd,dayNumber_next]
  push_cast
  ring

theorem exists_mjd (n : ℕ) : ∃ d : CalendarDate, d.mjd = n := by
  induction n with
  | zero => exact ⟨epoch,mjd_epoch⟩
  | succ n ih =>
    obtain ⟨d,hd⟩ := ih
    exact ⟨d.next,by rw [mjd_next,hd]; push_cast; rfl⟩

theorem dayOfYear_le (d : CalendarDate) :
    daysBeforeMonth d.year d.month+d.day ≤ 365+leapDay d.year := by
  have hday := d.day_mem
  have hmonth := d.month_mem
  have hmono := daysBeforeMonth_mono d.year (show d.month+1 ≤ 13 by omega)
  rw [daysBeforeMonth_succ _ hmonth.1,daysBeforeMonth_thirteen] at hmono
  omega

theorem dayNumber_lt_of_year_lt {d e : CalendarDate} (h : d.year < e.year) :
    d.dayNumber < e.dayNumber := by
  have hyear : daysBeforeYear d.year+(365+leapDay d.year) ≤ daysBeforeYear e.year :=
    daysBeforeYear_mono h
  have hd := d.dayOfYear_le
  have he := e.day_mem
  rw [dayNumber,dayNumber]
  omega

theorem dayNumber_lt_of_month_lt {d e : CalendarDate} (hy : d.year = e.year)
    (h : d.month < e.month) : d.dayNumber < e.dayNumber := by
  have hmono := daysBeforeMonth_mono d.year (show d.month+1 ≤ e.month from h)
  rw [daysBeforeMonth_succ _ d.month_mem.1] at hmono
  have hd := d.day_mem
  have he := e.day_mem
  rw [dayNumber,dayNumber,← hy]
  omega

theorem dayNumber_injective : Function.Injective dayNumber := by
  intro d e h
  have hy : d.year = e.year := by
    rcases lt_trichotomy d.year e.year with hlt | heq | hgt
    · exact absurd h (dayNumber_lt_of_year_lt hlt).ne
    · exact heq
    · exact absurd h (dayNumber_lt_of_year_lt hgt).ne'
  have hm : d.month = e.month := by
    rcases lt_trichotomy d.month e.month with hlt | heq | hgt
    · exact absurd h (dayNumber_lt_of_month_lt hy hlt).ne
    · exact heq
    · exact absurd h (dayNumber_lt_of_month_lt hy.symm hgt).ne'
  refine ext_fields hy hm ?_
  rw [dayNumber,dayNumber,hy,hm] at h
  omega

theorem mjd_injective : Function.Injective mjd := by
  intro d e h
  apply dayNumber_injective
  rw [mjd,mjd] at h
  omega

end CalendarDate
end TvApp

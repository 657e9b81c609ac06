import TvApp.TablesParser
import TvApp.GregorianCalendar

/-! The date that `parseTdtTable` computes.
The decimal formulas become integer divisions, and a date of the twentieth and
twenty-first century is counted in years that begin on 1 March, which is how the
formulas work: then the year, the month and the day that is stored are read off
month by month. -/
namespace TvApp

open Routine ParseErrorCode

theorem truncate_div (a : ℤ) (b : ℕ) (ha : 0 ≤ a) : truncate ((a : ℚ)/(b : ℚ)) = a/b := by
  have hq : 0 ≤ (a : ℚ)/(b : ℚ) := by positivity
  have hnum : 0 ≤ ((a : ℚ)/(b : ℚ)).num := Rat.num_nonneg.mpr hq
  calc truncate ((a : ℚ)/(b : ℚ))
      = ((a : ℚ)/(b : ℚ)).num/(((a : ℚ)/(b : ℚ)).den : ℤ) := Int.tdiv_eq_ediv_of_nonneg hnum
    _ = ⌊(a : ℚ)/(b : ℚ)⌋ := Rat.floor_def'.symm
    _ = a/b := Rat.floor_intCast_div_natCast a b

def tdtYearPrime (mjd16 : UInt16) : UInt16 :=
  UInt16.ofInt (truncate (((mjd16.toNat : ℚ)-15078.2)/365.25))

def tdtMonthPrime (mjd16 : UInt16) : UInt16 :=
  UInt16.ofInt (truncate (((mjd16.toNat : ℚ)-14956.1-
    truncate ((tdtYearPrime mjd16).toNat*365.25))/30.6001))

def tdtK (mjd16 : UInt16) : UInt8 :=
  if tdtMonthPrime mjd16 = 14 ∨ tdtMonthPrime mjd16 = 15 then 1 else 0

def tdtYear (mjd16 : UInt16) : UInt16 := tdtYearPrime mjd16+(tdtK mjd16).toUInt16

def tdtMonth (mjd16 : UInt16) : UInt16 := tdtMonthPrime mjd16-1-(tdtK mjd16).toUInt16*12

def tdtDay (mjd16 : UInt16) : UInt16 :=
  UInt16.ofInt ((mjd16.toNat : ℤ)-14987-truncate ((tdtYear mjd16).toNat*365.25)
    -truncate ((tdtMonth mjd16).toNat*30.6001))

def mjdAt (buf : Buffer) : UInt16 := word (buf 3) (buf 4)

theorem run_parseTdtTable (buf : Buffer) (tdtTable : TdtTable) :
    run buf (parseTdtTable tdtTable) = .ok (tablesParseOk,
      { tableId := buf 0
        sectionSyntaxIndicator := tdtTable.sectionSyntaxIndicator
        sectionLength := word (buf 1) (buf 2) &&& 0x0FFF
        MJD := (mjdAt buf).toUInt64
        tmpYear := tdtYear (mjdAt buf)
        Year := tdtYear (mjdAt buf)+1900
        tmpMonth := tdtMonth (mjdAt buf)
        day := tdtDay (mjdAt buf)
        K := tdtK (mjdAt buf) }) := rfl

/-- Days from 1 March to the beginning of the month. -/
def marchOffset (month : ℕ) : ℕ := [0,306,337,0,31,61,92,122,153,184,214,245,275].getD month 0

/-- A date as its day `e` in the year that began on 1 March `1900+y`.  Between
1900 and 2100 every fourth year is a leap year, so whole years are days divided
by 365.25, and the 366th day is 29 February. -/
structure MarchDate (d : CalendarDate) (y : ℕ) : Prop where
  year_eq : d.year = if d.month ≤ 2 then 1901+y else 1900+y
  mjd_eq : d.mjd = 15078+(1461*y)/4+(marchOffset d.month+d.day : ℕ)
  day_le : marchOffset d.month+d.day ≤ 365 ∨ (marchOffset d.month+d.day = 366 ∧ y % 4 = 3)
  y_le : y ≤ 138

theorem leapDay_cases {y : ℕ} (hlow : 1900 ≤ y) (hhigh : y ≤ 2038) :
    (leapDay y = 1 ∧ y % 4 = 0 ∧ y ≠ 1900) ∨ (leapDay y = 0 ∧ (y % 4 ≠ 0 ∨ y = 1900)) := by
  rw [leapDay]
  split
  · rename_i h
    obtain ⟨h₁,h₂⟩ := h
    omega
  · rename_i h
    have h' : ¬ (y % 4 = 0 ∧ (y % 100 ≠ 0 ∨ y % 400 = 0)) := h
    omega

theorem CalendarDate.year_bounds (d : CalendarDate) (hlow : 15079 ≤ d.mjd) (hhigh : d.mjd ≤ 65535) :
    1900 ≤ d.year ∧ d.year ≤ 2038 := by
  have hyears := daysBeforeYear_eq d.year
  have hdays := d.dayOfYear_le
  have hleap := leapDay_le d.year
  rw [mjd,dayNumber] at hlow hhigh
  omega

theorem centuries_cases {y : ℕ} (hlow : 1900 ≤ y) (hhigh : y ≤ 2038) :
    (y = 1900 ∧ (y+99)/100 = (y+399)/400+14) ∨ (1900 < y ∧ (y+99)/100 = (y+399)/400+15) := by
  rcases hlow.eq_or_lt with rfl | hlt
  · exact .inl ⟨rfl,rfl⟩
  · right
    by_cases hcentury : y ≤ 2000
    · have h₁ : (y+99)/100 = 20 := by omega
      have h₄ : (y+399)/400 = 5 := by omega
      omega
    · have h₁ : (y+99)/100 = 21 := by omega
      have h₄ : (y+399)/400 = 6 := by omega
      omega

theorem marchOffset_early (y : ℕ) {m : ℕ} (h₁ : 1 ≤ m) (h₂ : m ≤ 2) :
    marchOffset m = daysBeforeMonth y m+306 ∧ marchOffset m+monthLength y m ≤ 365+leapDay y := by
  rw [daysBeforeMonth_table y h₁ (by omega)]
  interval_cases m
  · exact ⟨rfl,by simp [marchOffset,monthLength]; omega⟩
  · exact ⟨rfl,by simp [marchOffset,monthLength]; omega⟩

theorem marchOffset_late (y : ℕ) {m : ℕ} (h₃ : 3 ≤ m) (h₁₂ : m ≤ 12) :
    marchOffset m+(59+leapDay y) = daysBeforeMonth y m ∧ marchOffset m+monthLength y m ≤ 306 := by
  rw [daysBeforeMonth_table y (by omega) h₁₂]
  interval_cases m
  all_goals simp [marchOffset,monthLength]
  all_goals omega

theorem CalendarDate.marchDate (d : CalendarDate) (hlow : 15079 ≤ d.mjd) (hhigh : d.mjd ≤ 65535) :
    ∃ y, MarchDate d y := by
  obtain ⟨hyear,hyear'⟩ := d.year_bounds hlow hhigh
  have hyears := daysBeforeYear_eq d.year
  have hcenturies := centuries_cases hyear hyear'
  have hleap := leapDay_cases hyear hyear'
  obtain ⟨hday,hday'⟩ := d.day_mem
  rw [mjd,dayNumber] at hlow hhigh
  by_cases hearly : d.month ≤ 2
  · obtain ⟨hoffset,hlength⟩ := marchOffset_early d.year d.month_mem.1 hearly
    refine ⟨d.year-1901,?_,?_,?_,?_⟩
    · rw [if_pos hearly]
      omega
    · rw [mjd,dayNumber]
      omega
    · omega
    · omega
  · obtain ⟨hoffset,hlength⟩ := marchOffset_late d.year (Nat.lt_of_not_le hearly) d.month_mem.2
    refine ⟨d.year-1900,?_,?_,?_,?_⟩
    · rw [if_neg hearly]
      omega
    · rw [mjd,dayNumber]
      -- one residue of the year modulo four at a time
      obtain ⟨q,hq | hq | hq | hq⟩ : ∃ q, d.year-1900 = 4*q ∨ d.year-1900 = 4*q+1 ∨
          d.year-1900 = 4*q+2 ∨ d.year-1900 = 4*q+3 := ⟨(d.year-1900)/4,by omega⟩
      · omega
      · omega
      · omega
      · omega
    · omega
    · omega

theorem truncate_years (y : ℕ) : truncate ((y : ℚ)*365.25) = (1461*y)/4 := by
  have hq : (y : ℚ)*365.25 = ((1461*y : ℤ) : ℚ)/((4 : ℕ) : ℚ) := by
    push_cast
    ring
  rw [hq,truncate_div _ _ (by omega)]
  rfl

theorem truncate_months (m : ℕ) : truncate ((m : ℚ)*30.6001) = (306001*m)/10000 := by
  have hq : (m : ℚ)*30.6001 = ((306001*m : ℤ) : ℚ)/((10000 : ℕ) : ℚ) := by
    push_cast
    ring
  rw [hq,truncate_div _ _ (by omega)]
  rfl

theorem toNat_ofInt16 (x : ℤ) : (UInt16.ofInt x).toNat = (x % 65536).toNat := by
  rw [UInt16.ofInt,UInt16.toNat_ofNat_of_lt']
  · rfl
  · change (x % 65536).toNat < 65536
    omega

section

variable {d : CalendarDate} {y : ℕ} {mjd16 : UInt16}

theorem MarchDate.truncate_yearPrime (h : MarchDate d y) (hd : d.mjd = mjd16.toNat) :
    truncate (((mjd16.toNat : ℚ)-15078.2)/365.25) = y := by
  have hmjd := h.mjd_eq
  have hday := h.day_le
  have hpos := d.day_mem.1
  have hy := h.y_le
  have hq : ((mjd16.toNat : ℚ)-15078.2)/365.25 =
      ((20*mjd16.toNat-301564 : ℤ) : ℚ)/((7305 : ℕ) : ℚ) := by
    push_cast
    ring
  have hdiv : (20*(mjd16.toNat : ℤ)-301564)/((7305 : ℕ) : ℤ) = y := by
    obtain ⟨q,hq | hq | hq | hq⟩ : ∃ q, y = 4*q ∨ y = 4*q+1 ∨ y = 4*q+2 ∨ y = 4*q+3 :=
      ⟨y/4,by omega⟩
    · omega
    · omega
    · omega
    · omega
  rw [hq,truncate_div _ _ (by omega),hdiv]

theorem MarchDate.yearPrime (h : MarchDate d y) (hd : d.mjd = mjd16.toNat) :
    (tdtYearPrime mjd16).toNat = y := by
  have hy := h.y_le
  rw [tdtYearPrime,h.truncate_yearPrime hd,toNat_ofInt16]
  omega

theorem monthPrime_div (d : CalendarDate) :
    (10000*((marchOffset d.month+d.day : ℕ) : ℤ)+1219000)/306001 =
      if d.month ≤ 2 then d.month+13 else d.month+1 := by
  obtain ⟨year,month,day,⟨hm,hm'⟩,hday,hday'⟩ := d
  have hleap := leapDay_le year
  rw [monthLength] at hday'
  simp only
  interval_cases month
  all_goals simp only [Nat.reduceEqDiff,Nat.reduceLeDiff,if_true,if_false,or_true,or_self,
    or_false] at hday' ⊢
  all_goals simp only [marchOffset,List.getD_cons_succ,List.getD_cons_zero]
  all_goals omega

theorem MarchDate.truncate_monthPrime (h : MarchDate d y) (hd : d.mjd = mjd16.toNat) :
    truncate (((mjd16.toNat : ℚ)-14956.1-truncate ((tdtYearPrime mjd16).toNat*365.25))/30.6001) =
      if d.month ≤ 2 then d.month+13 else d.month+1 := by
  have hmjd := h.mjd_eq
  have hdiv := monthPrime_div d
  have hq : ((mjd16.toNat : ℚ)-14956.1-((1461*(y : ℤ))/4 : ℤ))/30.6001 =
      ((10000*mjd16.toNat-149561000-10000*((1461*(y : ℤ))/4) : ℤ) : ℚ)/((306001 : ℕ) : ℚ) := by
    push_cast
    ring
  rw [h.yearPrime hd,truncate_years,hq,truncate_div _ _ (by omega)]
  have hnum : 10000*(mjd16.toNat : ℤ)-149561000-10000*((1461*(y : ℤ))/4) =
      10000*((marchOffset d.month+d.day : ℕ) : ℤ)+1219000 := by omega
  rw [hnum]
  exact hdiv

theorem MarchDate.monthPrime (h : MarchDate d y) (hd : d.mjd = mjd16.toNat) :
    (tdtMonthPrime mjd16).toNat = if d.month ≤ 2 then d.month+13 else d.month+1 := by
  have hmonth := d.month_mem
  rw [tdtMonthPrime,h.truncate_monthPrime hd,toNat_ofInt16]
  split
  · omega
  · omega

theorem MarchDate.K_eq (h : MarchDate d y) (hd : d.mjd = mjd16.toNat) :
    tdtK mjd16 = if d.month ≤ 2 then 1 else 0 := by
  have hprime := h.monthPrime hd
  have hmonth := d.month_mem
  have hiff : (tdtMonthPrime mjd16 = 14 ∨ tdtMonthPrime mjd16 = 15) ↔ d.month ≤ 2 := by
    rw [← UInt16.toNat_inj,← UInt16.toNat_inj,hprime]
    change _ = 14 ∨ _ = 15 ↔ _
    split
    · omega
    · omega
  rw [tdtK]
  simp only [hiff]

theorem MarchDate.year (h : MarchDate d y) (hd : d.mjd = mjd16.toNat) :
    (tdtYear mjd16).toNat+1900 = d.year := by
  have hprime := h.yearPrime hd
  have hyear := h.year_eq
  have hy := h.y_le
  rw [tdtYear,UInt16.toNat_add,hprime,h.K_eq hd,hyear]
  split
  · change (y+1) % 65536+1900 = _
    omega
  · change (y+0) % 65536+1900 = _
    omega

theorem MarchDate.calendarYear (h : MarchDate d y) (hd : d.mjd = mjd16.toNat) :
    (tdtYear mjd16+1900).toNat = d.year := by
  have hyear := h.year hd
  have hyears := h.year_eq
  have hy := h.y_le
  rw [UInt16.toNat_add]
  change ((tdtYear mjd16).toNat+1900) % 65536 = d.year
  split at hyears
  · omega
  · omega

theorem MarchDate.month (h : MarchDate d y) (hd : d.mjd = mjd16.toNat) :
    (tdtMonth mjd16).toNat = d.month := by
  have hprime := h.monthPrime hd
  have hmonth := d.month_mem
  rw [tdtMonth,UInt16.toNat_sub,UInt16.toNat_sub,hprime,h.K_eq hd]
  split
  · change (65536-12+(65536-1+(d.month+13)) % 65536) % 65536 = _
    omega
  · change (65536-0+(65536-1+(d.month+1)) % 65536) % 65536 = _
    omega

/-- The day before narrowing: the source takes off the years and months that it has
already corrected, with a constant of its own.  In January and February that is a
year more than the one that began in March. -/
theorem MarchDate.day_eq (h : MarchDate d y) (hd : d.mjd = mjd16.toNat) :
    ∃ extra : ℤ, (if d.month ≤ 2 then extra = 365 ∨ extra = 366 else extra = 0) ∧
      (tdtDay mjd16).toNat = ((91+(marchOffset d.month+d.day : ℕ)-extra
        -(306001*(d.month : ℤ))/10000) % 65536).toNat := by
  have hyear := h.year hd
  have hmjd := h.mjd_eq
  refine ⟨(1461*((tdtYear mjd16).toNat : ℤ))/4-(1461*(y : ℤ))/4,?_,?_⟩
  · have hyears := h.year_eq
    by_cases hearly : d.month ≤ 2
    · rw [if_pos hearly] at hyears ⊢
      obtain hy : (tdtYear mjd16).toNat = y+1 := by omega
      rw [hy]
      push_cast
      omega
    · rw [if_neg hearly] at hyears ⊢
      obtain hy : (tdtYear mjd16).toNat = y := by omega
      rw [hy,sub_self]
  · rw [tdtDay,toNat_ofInt16,truncate_years,truncate_months,h.month hd,← hd,hmjd]
    congr 2
    ring

/-- Month by month the formula is exact, a day short (May, July, October,
December), or a day or two too long (January, February). -/
theorem MarchDate.day_iff (h : MarchDate d y) (hd : d.mjd = mjd16.toNat) :
    (tdtDay mjd16).toNat = d.day ↔ d.month ∈ [3,4,6,8,9,11] := by
  obtain ⟨extra,hextra,hstored⟩ := h.day_eq hd
  have hday := h.day_le
  have hpos := d.day_mem.1
  obtain ⟨hm,hm'⟩ := d.month_mem
  rw [hstored]
  generalize d.day = day at *
  generalize d.month = month at *
  interval_cases month
  all_goals simp only [marchOffset,List.getD_cons_succ,List.getD_cons_zero,Nat.reduceLeDiff,if_true,
    if_false,List.mem_cons,List.not_mem_nil,Nat.reduceEqDiff,or_false,or_true,iff_true,iff_false,
    or_self] at hday hextra ⊢
  all_goals omega

end

structure TdtTable.ShowsDate (tdtTable : TdtTable) (d : CalendarDate) : Prop where
  year : tdtTable.Year.toNat = d.year
  month : tdtTable.tmpMonth.toNat = d.month
  day : tdtTable.day.toNat = d.day

/-- An MJD from 1 March 1900 on names one date, and its successor the day after.
The day that is stored is the day of that date, and the table shows the date,
exactly in March, April, June, August, September and November. -/
theorem tdt_day_right_iff (buf : Buffer) (prior : TdtTable) (hmjd : 15079 ≤ (mjdAt buf).toNat) :
    ∃ d : CalendarDate, d.mjd = (mjdAt buf).toNat ∧ d.next.mjd = (mjdAt buf).toNat+1 ∧
      (∀ e : CalendarDate, e.mjd = (mjdAt buf).toNat → e = d) ∧
      ∃ table, run buf (parseTdtTable prior) = .ok (tablesParseOk,table) ∧
        (table.day.toNat = d.day ↔ d.month ∈ [3,4,6,8,9,11]) ∧
        (table.ShowsDate d ↔ d.month ∈ [3,4,6,8,9,11]) := by
  obtain ⟨d,hd⟩ := CalendarDate.exists_mjd (mjdAt buf).toNat
  have hlt := (mjdAt buf).toNat_lt
  obtain ⟨y,hmarch⟩ := d.marchDate (by omega) (by omega)
  have hiff := hmarch.day_iff hd
  refine ⟨d,hd,by rw [d.mjd_next,hd],?_,_,run_parseTdtTable buf prior,hiff,?_⟩
  · intro e he
    exact CalendarDate.mjd_injective (he.trans hd.symm)
  · constructor
    · intro hshows
      exact hiff.mp hshows.day
    · intro hmonth
      exact ⟨hmarch.calendarYear hd,hmarch.month hd,hiff.mpr hmonth⟩

def tdtSection (mjd : ℕ) : Buffer := fun i =>
  ([0x70,0x70,0x05]++wordBytes mjd++[0x12,0x45,0x00]).getD i 0

/-- The date of the repository's own sample, 23 September 2009. -/
def sampleDate : CalendarDate := ⟨2009,9,23,by decide,by decide⟩

theorem sampleDate_shown :
    ∃ table, run (tdtSection 55097) (parseTdtTable .zeroed) = .ok (tablesParseOk,table) ∧
      table.ShowsDate sampleDate := by
  obtain ⟨d,-,-,hunique,table,hrun,-,hshows⟩ :=
    tdt_day_right_iff (tdtSection 55097) .zeroed (by decide +kernel)
  have hd : sampleDate = d := hunique sampleDate (by decide +kernel)
  subst hd
  exact ⟨table,hrun,hshows.mpr (by decide)⟩

def firstOfMay : CalendarDate := ⟨2016,5,1,by decide,by decide⟩

theorem first_of_may_is_day_zero :
    firstOfMay.mjd = (mjdAt (tdtSection 57509)).toNat ∧
      ∃ table, run (tdtSection 57509) (parseTdtTable .zeroed) = .ok (tablesParseOk,table) ∧
        table.day = 0 ∧ table.day.toNat ≠ firstOfMay.day := by
  refine ⟨by decide +kernel,_,run_parseTdtTable _ _,?_,?_⟩
  · change tdtDay (mjdAt (tdtSection 57509)) = 0
    decide +kernel
  · change (tdtDay (mjdAt (tdtSection 57509))).toNat ≠ 1
    decide +kernel

/-- The table holds, without loss, every integer that the parser narrows to `uint16_t`
between the MJD and the month and year. -/
structure TdtTable.Exact (tdtTable : TdtTable) (mjd16 : UInt16) : Prop where
  yearPrime : ((tdtYearPrime mjd16).toNat : ℤ) = truncate (((mjd16.toNat : ℚ)-15078.2)/365.25)
  monthPrime : ((tdtMonthPrime mjd16).toNat : ℤ) = truncate (((mjd16.toNat : ℚ)-14956.1-
    truncate ((tdtYearPrime mjd16).toNat*365.25))/30.6001)
  tmpYear : tdtTable.tmpYear.toNat = (tdtYearPrime mjd16).toNat+tdtTable.K.toNat
  tmpMonth : (tdtTable.tmpMonth.toNat : ℤ) = (tdtMonthPrime mjd16).toNat-1-tdtTable.K.toNat*12
  Year : tdtTable.Year.toNat = tdtTable.tmpYear.toNat+1900

section

variable {d : CalendarDate} {y : ℕ} {mjd16 : UInt16}

theorem MarchDate.exact (h : MarchDate d y) (hd : d.mjd = mjd16.toNat) {tdtTable : TdtTable}
    (htmpYear : tdtTable.tmpYear = tdtYear mjd16) (htmpMonth : tdtTable.tmpMonth = tdtMonth mjd16)
    (hK : tdtTable.K = tdtK mjd16) (hYear : tdtTable.Year = tdtYear mjd16+1900) :
    tdtTable.Exact mjd16 := by
  have hyearPrime := h.yearPrime hd
  have hmonthPrime := h.monthPrime hd
  have hyear := h.year hd
  have hmonth := h.month hd
  have hyears := h.year_eq
  have hKnat : (tdtK mjd16).toNat = if d.month ≤ 2 then 1 else 0 := by
    rw [h.K_eq hd]
    split
    · rfl
    · rfl
  refine ⟨?_,?_,?_,?_,?_⟩
  · rw [hyearPrime,h.truncate_yearPrime hd]
  · rw [hmonthPrime,h.truncate_monthPrime hd]
  · rw [htmpYear,hK,hyearPrime,hKnat]
    split at hyears
    · rw [if_pos ‹_›]
      omega
    · rw [if_neg ‹_›]
      omega
  · rw [htmpMonth,hK,hmonth,hmonthPrime,hKnat]
    split
    · push_cast
      ring
    · push_cast
      ring
  · rw [hYear,htmpYear,h.calendarYear hd,hyear]

end

/-- From 1 March 1900 on, the year and the month that are stored are those of the one
date with this MJD, and no narrowing on the way loses anything. -/
theorem tdt_year_month_right (buf : Buffer) (prior : TdtTable)
    (hmjd : 15079 ≤ (mjdAt buf).toNat) :
    (mjdAt buf).toNat = 256*(buf 3).toNat+(buf 4).toNat ∧
    ∃ d : CalendarDate, d.mjd = (mjdAt buf).toNat ∧
      (∀ e : CalendarDate, e.mjd = (mjdAt buf).toNat → e = d) ∧
      ∃ table, run buf (parseTdtTable prior) = .ok (tablesParseOk,table) ∧
        table.MJD.toNat = (mjdAt buf).toNat ∧
        table.Year.toNat = d.year ∧
        table.tmpMonth.toNat = d.month ∧ 1 ≤ table.tmpMonth.toNat ∧ table.tmpMonth.toNat ≤ 12 ∧
        table.Exact (mjdAt buf) := by
  obtain ⟨d,hd⟩ := CalendarDate.exists_mjd (mjdAt buf).toNat
  have hlt := (mjdAt buf).toNat_lt
  obtain ⟨y,hmarch⟩ := d.marchDate (by omega) (by omega)
  have hmonth := hmarch.month hd
  refine ⟨word_toNat _ _,d,hd,?_,_,run_parseTdtTable buf prior,?_,?_,?_,?_,?_,?_⟩
  · intro e he
    exact CalendarDate.mjd_injective (he.trans hd.symm)
  · exact UInt16.toNat_toUInt64 _
  · exact hmarch.calendarYear hd
  · exact hmonth
  · exact hmonth.symm ▸ d.month_mem.1
  · exact hmonth.symm ▸ d.month_mem.2
  · exact hmarch.exact hd rfl rfl rfl rfl

theorem sampleDate_year_month :
    ∃ table, run (tdtSection 55097) (parseTdtTable .zeroed) = .ok (tablesParseOk,table) ∧
      table.Year.toNat = 2009 ∧ table.tmpMonth.toNat = 9 := by
  obtain ⟨-,d,-,hunique,table,hrun,-,hyear,hmonth,-⟩ :=
    tdt_year_month_right (tdtSection 55097) .zeroed (by decide +kernel)
  have hd : sampleDate = d := hunique sampleDate (by decide +kernel)
  subst hd
  exact ⟨table,hrun,hyear,hmonth⟩

end TvApp

import Alerting.Time.Calendar
import Mathlib.Tactic.IntervalCases

/-!
# Days and dates

Each day has a date, and the date tells the day. Within a cycle of 400 years the year of a day is
found by an estimate; that it hits is all that has to be shown of it.
-/

namespace Alerting.Date

/-! ## Years that start in March -/

theorem daysBeforeYear_add_cycles (year cycles : Int) :
    daysBeforeYear (year + 400 * cycles) = daysBeforeYear year + 146097 * cycles := by
  unfold daysBeforeYear
  omega

theorem daysBeforeYear_mono {year later : Int} (h : year ≤ later) :
    daysBeforeYear year ≤ daysBeforeYear later := by
  unfold daysBeforeYear
  omega

theorem daysBeforeYear_succ (year : Int) :
    daysBeforeYear (year + 1) =
      daysBeforeYear year + (if isLeapYear (year + 1) then 366 else 365) := by
  have hleap : isLeapYear (year + 1) = true ↔
      (year + 1) % 4 = 0 ∧ ((year + 1) % 100 ≠ 0 ∨ (year + 1) % 400 = 0) := by
    simp [isLeapYear]
  unfold daysBeforeYear
  split
  · rename_i h
    rw [hleap] at h
    omega
  · rename_i h
    rw [hleap] at h
    omega

/-- The year of a day within a cycle. -/
def yearInCycle (day : Int) : Int := (day - day / 1460 + day / 36524 - day / 146096) / 365

/-- The estimate hits: the day lies in its year. -/
theorem yearInCycle_spec {day : Int} (h0 : 0 ≤ day) (h1 : day < 146097) :
    daysBeforeYear (yearInCycle day) ≤ day ∧ day < daysBeforeYear (yearInCycle day + 1) := by
  have hyear : 0 ≤ yearInCycle day ∧ yearInCycle day < 400 := by
    unfold yearInCycle
    omega
  generalize hy : yearInCycle day = year at hyear ⊢
  unfold yearInCycle at hy
  unfold daysBeforeYear
  have hfirst : year / 400 = 0 := by omega
  have hnext : (year + 1) / 100 = year / 100 ∨ (year + 1) / 100 = year / 100 + 1 := by omega
  have hlast : (year + 1) / 400 = (year + 1) / 100 / 4 := by omega
  -- With the century of the day fixed, that of the year is fixed too, and what is left is linear.
  have hcentury : day / 36524 = 0 ∨ day / 36524 = 1 ∨ day / 36524 = 2 ∨ day / 36524 = 3 ∨
      day / 36524 = 4 := by omega
  rcases hcentury with h | h | h | h | h
  · have hyear : year / 100 = 0 := by omega
    omega
  · have hyear : year / 100 = 1 := by omega
    omega
  · have hyear : year / 100 = 2 := by omega
    omega
  · have hyear : year / 100 = 3 := by omega
    omega
  · have hyear : year / 100 = 3 := by omega
    omega

/-- A day of a year that starts in March. -/
structure Spring where
  year : Int
  /-- The day of the year, from zero. -/
  day : Nat

/-- The year and its day that a number of days from the first of March of the year 0 comes to. -/
def Spring.ofDays (days : Int) : Spring :=
  let year := yearInCycle (days % 146097)
  ⟨year + 400 * (days / 146097), (days % 146097 - daysBeforeYear year).toNat⟩

theorem Spring.ofDays_spec (days : Int) :
    daysBeforeYear (ofDays days).year + (ofDays days).day = days ∧
      days < daysBeforeYear ((ofDays days).year + 1) := by
  obtain ⟨hle, hlt⟩ := @yearInCycle_spec (days % 146097) (by omega) (by omega)
  unfold ofDays
  dsimp only
  rw [Int.add_right_comm, daysBeforeYear_add_cycles, daysBeforeYear_add_cycles]
  omega

/-- The month of a day, counted from March. -/
def monthOfDay (day : Nat) : Nat := (5 * day + 2) / 153

theorem monthOfDay_spec {day : Nat} (h : day < 366) :
    monthOfDay day < 12 ∧ daysBeforeMonth (monthOfDay day) ≤ day ∧
      day < daysBeforeMonth (monthOfDay day + 1) := by
  unfold monthOfDay daysBeforeMonth
  omega

/-- The date of the day of a month that is counted from March. -/
def ofSpring (year : Int) (month day : Nat) : Date :=
  { year := if month < 10 then year else year + 1
    month := if month < 10 then month + 3 else month - 9
    day := day }

theorem toDays_ofSpring (year : Int) {month : Nat} (day : Nat) (h : month < 12) :
    (ofSpring year month day).toDays =
      daysBeforeYear year + daysBeforeMonth month + day - 1 - epochDay := by
  unfold ofSpring toDays
  by_cases hm : month < 10
  · have hspring : ¬month + 3 ≤ 2 := by omega
    have hmonth : (month + 3 + 9) % 12 = month := by omega
    simp only [hm, if_true, hspring, if_false, hmonth]
  · have hwinter : month - 9 ≤ 2 := by omega
    have hmonth : (month - 9 + 9) % 12 = month := by omega
    simp only [hm, if_false, hwinter, if_true, hmonth, Int.add_sub_cancel]

theorem daysInMonth_ofSpring (year : Int) {month : Nat} (day : Nat) (h : month < 12) :
    daysInMonth (ofSpring year month day).year (ofSpring year month day).month =
      if month = 11 then (if isLeapYear (year + 1) then 29 else 28)
      else daysBeforeMonth (month + 1) - daysBeforeMonth month := by
  unfold ofSpring
  interval_cases month <;> rfl

/-! ## Dates -/

theorem daysInMonth_le (year : Int) (month : Nat) : daysInMonth year month ≤ 31 := by
  unfold daysInMonth
  split
  · split <;> omega
  · split <;> omega

theorem year_ofSpring (year : Int) (month day : Nat) :
    (ofSpring year month day).year = if month < 10 then year else year + 1 := rfl

/-- A day as the year that starts in March, the month counted from it, and the day of that month. -/
structure Placed (days : Int) (year : Int) (month day : Nat) : Prop where
  month_lt : month < 12
  sum : daysBeforeYear year + daysBeforeMonth month + day - 1 - epochDay = days
  day_pos : 1 ≤ day
  inMonth : day ≤ daysBeforeMonth (month + 1) - daysBeforeMonth month
  inYear : days + epochDay < daysBeforeYear (year + 1)

theorem ofDays_placed (days : Int) :
    ∃ year month day, ofDays days = ofSpring year month day ∧ Placed days year month day := by
  obtain ⟨hsum, hlt⟩ := Spring.ofDays_spec (days + epochDay)
  have hspring : ofDays days =
      ofSpring (Spring.ofDays (days + epochDay)).year
        (monthOfDay (Spring.ofDays (days + epochDay)).day)
        ((Spring.ofDays (days + epochDay)).day -
          daysBeforeMonth (monthOfDay (Spring.ofDays (days + epochDay)).day) + 1) := rfl
  generalize Spring.ofDays (days + epochDay) = s at hsum hlt hspring
  have hday : s.day < 366 := by
    have hyear := daysBeforeYear_succ s.year
    split at hyear <;> omega
  obtain ⟨hmonth, hle, hnext⟩ := monthOfDay_spec hday
  exact ⟨_, _, _, hspring, hmonth, by omega, by omega, by omega, by omega⟩

theorem toDays_ofDays (days : Int) : (ofDays days).toDays = days := by
  obtain ⟨year, month, day, heq, hplaced⟩ := ofDays_placed days
  rw [heq, toDays_ofSpring year day hplaced.month_lt, hplaced.sum]

theorem ofDays_isValid (days : Int) : (ofDays days).IsValid := by
  obtain ⟨year, month, day, heq, hplaced⟩ := ofDays_placed days
  have hmonth := hplaced.month_lt
  have hday : day ≤ daysInMonth (ofSpring year month day).year (ofSpring year month day).month := by
    rw [daysInMonth_ofSpring year day hmonth]
    have hyear := daysBeforeYear_succ year
    have hsum := hplaced.sum
    have hin := hplaced.inYear
    split
    · rename_i h
      subst h
      rw [show daysBeforeMonth 11 = 337 from rfl] at hsum
      split
      · rename_i hleap
        rw [if_pos hleap] at hyear
        omega
      · rename_i hleap
        rw [if_neg hleap] at hyear
        omega
    · exact hplaced.inMonth
  rw [heq]
  refine ⟨?_, ?_, hplaced.day_pos, hday⟩ <;> (unfold ofSpring; dsimp only; split <;> omega)

theorem year_ofDays_mem {days : Int} (hfirst : -96465292 ≤ days) (hlast : days ≤ 95026236) :
    -262143 ≤ (ofDays days).year ∧ (ofDays days).year ≤ 262142 := by
  obtain ⟨year, month, day, heq, hplaced⟩ := ofDays_placed days
  have hsum := hplaced.sum
  have hin := hplaced.inYear
  have hinMonth := hplaced.inMonth
  have hmonth := hplaced.month_lt
  have hday := hplaced.day_pos
  rw [heq, year_ofSpring]
  unfold daysBeforeMonth at hsum hinMonth
  unfold epochDay at hsum hin
  have hstart : daysBeforeYear (-262144) = -95746130 := rfl
  have hend : daysBeforeYear 262142 = 95745399 ∧ daysBeforeYear 262143 = 95745764 := ⟨rfl, rfl⟩
  -- The calendar starts and ends with a January, which belongs to the year of the March before.
  rcases Int.lt_or_le year (-262144) with hlow | hlow
  · have hbefore := daysBeforeYear_mono (show year + 1 ≤ -262144 by omega)
    omega
  rcases Int.lt_or_le 262142 year with hhigh | hhigh
  · have hbehind := daysBeforeYear_mono (show 262143 ≤ year by omega)
    omega
  by_cases hfirstYear : year = -262144
  · subst hfirstYear
    split <;> omega
  by_cases hlastYear : year = 262142
  · subst hlastYear
    split <;> omega
  split <;> omega

end Alerting.Date

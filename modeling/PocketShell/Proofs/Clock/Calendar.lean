import PocketShell.Clock.Calendar
import Mathlib.Algebra.GroupWithZero.Nat
import Mathlib.Tactic.SplitIfs
import Mathlib.Data.Int.Init

/-!
# The calendar day by day

The calendar is known by how its days follow one another: each month has its number
of days, a leap year has one more in February, and after the last day of December
comes the first one of January.  Walked in both directions from Thursday, the first
of January 1970, it comes by one date and one weekday for each number of days, and
these are the ones that the clock computes from the number.  A date and the number
of its day determine each other because the days before a year and before a month
can be summed up.
-/

namespace PocketShell

/-- Whether the year has a leap day: every fourth year, but a hundredth one only if it is a four
hundredth one. -/
def isLeapYear (year : Int) : Bool :=
  year % 4 = 0 && (year % 100 ≠ 0 || year % 400 = 0)

namespace Month

/-- The months in the order of the calendar year. -/
def all : List Month :=
  [.january, .february, .march, .april, .may, .june, .july, .august, .september, .october,
    .november, .december]

def next : Month → Month
  | .january => .february
  | .february => .march
  | .march => .april
  | .april => .may
  | .may => .june
  | .june => .july
  | .july => .august
  | .august => .september
  | .september => .october
  | .october => .november
  | .november => .december
  | .december => .january

/-- The days of the month, in a leap year or in another one. -/
def length (leap : Bool) : Month → Nat
  | .february => if leap then 29 else 28
  | .april | .june | .september | .november => 30
  | _ => 31

/-- The days of the year before the month begins. -/
def daysBefore (leap : Bool) (month : Month) : Nat :=
  ((all.takeWhile (· ≠ month)).map (length leap)).sum

end Month

namespace Date

def Valid (date : Date) : Prop :=
  1 ≤ date.day ∧ date.day ≤ date.month.length (isLeapYear date.year)

/-- The date of the day after. -/
def next (date : Date) : Date :=
  if date.day < date.month.length (isLeapYear date.year) then
    { date with day := date.day + 1 }
  else if date.month = .december then ⟨date.year + 1, .january, 1⟩
  else ⟨date.year, date.month.next, 1⟩

end Date

def Weekday.next : Weekday → Weekday
  | .sunday => .monday
  | .monday => .tuesday
  | .tuesday => .wednesday
  | .wednesday => .thursday
  | .thursday => .friday
  | .friday => .saturday
  | .saturday => .sunday

/-- The date and the weekday of a counted day, as the calendar comes by them. -/
inductive OnDay : Int → Date → Weekday → Prop where
  | zero : OnDay 0 ⟨1970, .january, 1⟩ .thursday
  | next {day : Int} {date : Date} {weekday : Weekday} (onDay : OnDay day date weekday) :
      OnDay (day + 1) date.next weekday.next
  | back {day : Int} {date : Date} {weekday : Weekday} (valid : date.Valid)
      (onNext : OnDay (day + 1) date.next weekday.next) : OnDay day date weekday

/-- The days from the first of January of year one to that of the given year. -/
def daysBeforeYear (year : Int) : Int :=
  365 * (year - 1) + (year - 1) / 4 - (year - 1) / 100 + (year - 1) / 400

theorem isLeapYear_eq_true_iff {year : Int} :
    isLeapYear year = true ↔ year % 4 = 0 ∧ (year % 100 ≠ 0 ∨ year % 400 = 0) := by
  simp [isLeapYear]

/-- The leap years come again after 400 years. -/
theorem isLeapYear_add_cycles (cycle year : Int) :
    isLeapYear (400 * cycle + year) = isLeapYear year := by
  rw [Bool.eq_iff_iff, isLeapYear_eq_true_iff, isLeapYear_eq_true_iff]
  omega

theorem daysBeforeYear_succ (year : Int) :
    daysBeforeYear (year + 1) = daysBeforeYear year + 365 + (isLeapYear year).toNat := by
  unfold daysBeforeYear
  cases leap : isLeapYear year with
  | true =>
      have isLeap := isLeapYear_eq_true_iff.mp leap
      rw [Bool.toNat_true]
      omega
  | false =>
      have notLeap := mt isLeapYear_eq_true_iff.mpr (Bool.eq_false_iff.mp leap)
      rw [Bool.toNat_false]
      omega

theorem daysBeforeYear_mono {year other : Int} (le : year ≤ other) :
    daysBeforeYear year ≤ daysBeforeYear other := by
  unfold daysBeforeYear
  omega

theorem daysBeforeYear_add_cycles (cycle year : Int) :
    daysBeforeYear (400 * cycle + year) = 146097 * cycle + daysBeforeYear year := by
  unfold daysBeforeYear
  omega

namespace Month

theorem mem_all (month : Month) : month ∈ all := by
  cases month <;> decide

theorem one_le_length (leap : Bool) (month : Month) : 1 ≤ month.length leap := by
  cases month <;> cases leap <;> decide

theorem daysBefore_next (leap : Bool) {month : Month} (notLast : month ≠ .december) :
    month.next.daysBefore leap = month.daysBefore leap + month.length leap := by
  cases month with
  | december => exact absurd rfl notLast
  | _ => cases leap <;> rfl

/-- December is the last month of the year. -/
theorem daysBefore_add_length_le (leap : Bool) (month : Month) :
    month.daysBefore leap + month.length leap ≤ 365 + leap.toNat := by
  cases month <;> cases leap <;> decide

theorem daysBefore_december (leap : Bool) :
    december.daysBefore leap + december.length leap = 365 + leap.toNat := by
  cases leap <;> rfl

/-- Of two months one is over before the other begins. -/
theorem daysBefore_apart (leap : Bool) : ∀ month ∈ all, ∀ other ∈ all, month = other ∨
    month.daysBefore leap + month.length leap ≤ other.daysBefore leap ∨
    other.daysBefore leap + other.length leap ≤ month.daysBefore leap := by
  cases leap <;> decide

end Month

namespace Date

/-- The number of the day, which is zero for the first of January 1970. -/
def dayCount (date : Date) : Int :=
  daysBeforeYear date.year + date.month.daysBefore (isLeapYear date.year) + date.day - 719163

theorem valid_next (date : Date) : date.next.Valid := by
  unfold Date.next
  split_ifs with inMonth
  · exact ⟨by simp, inMonth⟩
  · exact ⟨Nat.le_refl 1, Month.one_le_length _ _⟩
  · exact ⟨Nat.le_refl 1, Month.one_le_length _ _⟩

theorem Valid.dayCount_next {date : Date} (valid : date.Valid) :
    date.next.dayCount = date.dayCount + 1 := by
  obtain ⟨_, dayLe⟩ := valid
  unfold Date.next
  split_ifs with inMonth isLast
  · simp only [dayCount]
    omega
  · have yearEnd := Month.daysBefore_december (isLeapYear date.year)
    have yearNext := daysBeforeYear_succ date.year
    have firstMonth : Month.january.daysBefore (isLeapYear (date.year + 1)) = 0 := rfl
    rw [isLast] at inMonth dayLe
    simp only [dayCount, isLast, yearNext, firstMonth]
    omega
  · have monthNext := Month.daysBefore_next (isLeapYear date.year) isLast
    simp only [dayCount, monthNext]
    omega

/-- A date is one of the days of its year. -/
theorem Valid.dayCount_bounds {date : Date} (valid : date.Valid) :
    daysBeforeYear date.year - 719163 < date.dayCount ∧
      date.dayCount ≤ daysBeforeYear (date.year + 1) - 719163 := by
  have yearEnd := Month.daysBefore_add_length_le (isLeapYear date.year) date.month
  obtain ⟨_, dayLe⟩ := valid
  rw [daysBeforeYear_succ, dayCount]
  omega

/-- Only one date has the number of a day. -/
theorem Valid.eq_of_dayCount_eq {date other : Date} (valid : date.Valid) (otherValid : other.Valid)
    (same : date.dayCount = other.dayCount) : date = other := by
  have bounds := valid.dayCount_bounds
  have otherBounds := otherValid.dayCount_bounds
  have sameYear : date.year = other.year := by
    rcases Int.lt_trichotomy date.year other.year with before | sameYear | behind
    · have := daysBeforeYear_mono (Int.add_one_le_iff.mpr before)
      omega
    · exact sameYear
    · have := daysBeforeYear_mono (Int.add_one_le_iff.mpr behind)
      omega
  obtain ⟨year, month, day⟩ := date
  obtain ⟨otherYear, otherMonth, otherDay⟩ := other
  obtain rfl : year = otherYear := sameYear
  obtain ⟨onePos, dayLe⟩ := valid
  obtain ⟨otherPos, otherLe⟩ := otherValid
  simp only [dayCount] at same onePos dayLe otherPos otherLe
  rcases Month.daysBefore_apart (isLeapYear year) month month.mem_all otherMonth
    otherMonth.mem_all with rfl | apart | apart
  · obtain rfl : day = otherDay := by omega
    rfl
  · omega
  · omega

end Date

/-- A span of 400 years is split into the full years of it and the days since, which are fewer than
those from one March to the next. -/
theorem YearDay.ofCycleDay_eq {day : Nat} (inCycle : day < 146097) :
    daysBeforeYear ((ofCycleDay day).year + 1) + (ofCycleDay day).day = day ∧
      (ofCycleDay day).day < 365 + (isLeapYear ((ofCycleDay day).year + 1)).toNat := by
  generalize centuryEq : min 3 (day / 36524) = century
  generalize dayOfCenturyEq : day - 36524 * century = dayOfCentury
  generalize leapSpanEq : dayOfCentury / 1461 = leapSpan
  generalize dayOfSpanEq : dayOfCentury % 1461 = dayOfSpan
  generalize yearEq : min 3 (dayOfSpan / 365) = year
  have found : ofCycleDay day =
      ⟨100 * century + 4 * leapSpan + year, dayOfSpan - 365 * year⟩ := by
    simp only [ofCycleDay, centuryEq, dayOfCenturyEq, leapSpanEq, dayOfSpanEq, yearEq]
  have centuryLe : century ≤ 3 ∧ 36524 * century ≤ day := by omega
  have dayOfCenturyLe : dayOfCentury < 36524 ∨ dayOfCentury = 36524 ∧ century = 3 := by omega
  have leapSpanLe : leapSpan ≤ 24 ∧ dayOfCentury = 1461 * leapSpan + dayOfSpan := by omega
  have yearLe : year ≤ 3 ∧ 365 * year ≤ dayOfSpan := by omega
  have dayLe : dayOfSpan - 365 * year < 365 ∨ dayOfSpan = 1460 ∧ year = 3 := by omega
  rw [found]
  dsimp only
  constructor
  · have fourths : (100 * century + 4 * leapSpan + year) / 4 = 25 * century + leapSpan := by omega
    have hundredths : (100 * century + 4 * leapSpan + year) / 100 = century := by omega
    have fourHundredths : (100 * century + 4 * leapSpan + year) / 400 = 0 := by omega
    simp only [daysBeforeYear, Int.add_sub_cancel]
    omega
  -- Only the last year of a span can have one more day, and it is then followed by a leap day.
  · rcases dayLe with inYear | ⟨lastDay, lastYear⟩
    · exact Nat.lt_add_right _ inYear
    · have leap : isLeapYear ((100 * century + 4 * leapSpan + year : Nat) + 1) = true :=
        isLeapYear_eq_true_iff.mpr (by omega)
      rw [leap, Bool.toNat_true]
      omega

namespace Date

/-- The days of the months that stand before the given one in a list. -/
def daysTo (months : List (Month × Nat)) (month : Month) : Nat :=
  ((months.takeWhile (·.1 ≠ month)).map Prod.snd).sum

theorem monthAndDay_eq {months : List (Month × Nat)} {day : Nat}
    (distinct : (months.map Prod.fst).Nodup) (inside : day < (months.map Prod.snd).sum) :
    ∃ entry ∈ months, (monthAndDay months day).1 = entry.1 ∧
      daysTo months entry.1 + (monthAndDay months day).2 = day + 1 ∧
      1 ≤ (monthAndDay months day).2 ∧ (monthAndDay months day).2 ≤ entry.2 := by
  induction months generalizing day with
  | nil => simp at inside
  | cons first later ih =>
      obtain ⟨month, length⟩ := first
      rw [List.map_cons, List.nodup_cons] at distinct
      rw [List.map_cons, List.sum_cons] at inside
      rw [monthAndDay]
      split_ifs with inFirst
      · exact ⟨(month, length), List.mem_cons_self, rfl, by simp [daysTo], by simp, inFirst⟩
      · obtain ⟨entry, mem, monthEq, dayEq, onePos, dayLe⟩ :=
          ih distinct.2 (show day - length < _ by omega)
        have notFirst : month ≠ entry.1 := fun same =>
          distinct.1 (List.mem_map.mpr ⟨entry, mem, same.symm⟩)
        have daysToEq :
            daysTo ((month, length) :: later) entry.1 = length + daysTo later entry.1 := by
          simp [daysTo, notFirst]
        exact ⟨entry, List.mem_cons_of_mem _ mem, monthEq, by omega, onePos, dayLe⟩

theorem daysTo_afterNewYear (leap : Bool) : ∀ entry ∈ Month.fromMarch,
    entry.1.isAfterNewYear = true →
      entry.1.daysBefore leap + 306 = daysTo Month.fromMarch entry.1 ∧
      (entry.2 = entry.1.length leap ∨
        daysTo Month.fromMarch entry.1 + entry.1.length leap = 365 + leap.toNat) := by
  cases leap <;> decide

theorem daysTo_beforeNewYear (leap : Bool) : ∀ entry ∈ Month.fromMarch,
    entry.1.isAfterNewYear = false →
      entry.1.daysBefore leap = daysTo Month.fromMarch entry.1 + 59 + leap.toNat ∧
      entry.2 = entry.1.length leap := by
  cases leap <;> decide

/-- The date so many days after the beginning of March in the year. -/
def afterMarch (year : Int) (day : Nat) : Date :=
  let (month, dayOfMonth) := monthAndDay Month.fromMarch day
  ⟨year + (if month.isAfterNewYear then 1 else 0), month, dayOfMonth⟩

/-- A day of a year that begins with March is a valid date, and its number is told by the calendar
year that begins 306 days later. -/
theorem afterMarch_eq {year : Int} {day : Nat}
    (inYear : day < 365 + (isLeapYear (year + 1)).toNat) :
    (afterMarch year day).Valid ∧
      (afterMarch year day).dayCount = daysBeforeYear (year + 1) + day - dayZero := by
  generalize splitEq : monthAndDay Month.fromMarch day = split
  have dateEq : afterMarch year day =
      ⟨year + (if split.1.isAfterNewYear then 1 else 0), split.1, split.2⟩ := by
    rw [afterMarch, splitEq]
  have inMonths : day < (Month.fromMarch.map Prod.snd).sum := by
    have leapDay := Bool.toNat_le (isLeapYear (year + 1))
    change day < 366
    omega
  obtain ⟨entry, mem, monthEq, dayEq, onePos, dayLe⟩ := monthAndDay_eq (by decide) inMonths
  rw [splitEq] at monthEq dayEq onePos dayLe
  rw [dateEq, monthEq, dayZero]
  cases after : entry.1.isAfterNewYear with
  | true =>
      obtain ⟨daysToEq, lengthEq⟩ := daysTo_afterNewYear (isLeapYear (year + 1)) entry mem after
      simp only [Valid, dayCount, if_true]
      exact ⟨⟨onePos, by omega⟩, by omega⟩
  | false =>
      have yearNext := daysBeforeYear_succ year
      obtain ⟨daysToEq, lengthEq⟩ := daysTo_beforeNewYear (isLeapYear year) entry mem after
      simp only [Valid, dayCount, if_false, Bool.false_eq_true, Int.add_zero]
      exact ⟨⟨onePos, by omega⟩, by omega⟩

/-- A date of the clock is a valid one, and the number of its day is the one it was made from. -/
theorem ofDay_eq (day : Int) : (ofDay day).Valid ∧ (ofDay day).dayCount = day := by
  generalize cycleEq : (day + dayZero) / 146097 = cycle
  generalize dayOfCycleEq : ((day + dayZero) % 146097).toNat = dayOfCycle
  have total : day + dayZero = 146097 * cycle + dayOfCycle := by omega
  have inCycle : dayOfCycle < 146097 := by omega
  obtain ⟨yearDayEq, yearDayLt⟩ := YearDay.ofCycleDay_eq inCycle
  have dateEq : ofDay day = afterMarch (400 * cycle + (YearDay.ofCycleDay dayOfCycle).year)
      (YearDay.ofCycleDay dayOfCycle).day := by
    rw [← cycleEq, ← dayOfCycleEq]
    rfl
  generalize YearDay.ofCycleDay dayOfCycle = found at yearDayEq yearDayLt dateEq
  have yearCycles := daysBeforeYear_add_cycles cycle (found.year + 1)
  rw [← isLeapYear_add_cycles cycle, ← Int.add_assoc] at yearDayLt
  rw [← Int.add_assoc] at yearCycles
  obtain ⟨valid, dayCountEq⟩ := afterMarch_eq yearDayLt
  rw [dateEq]
  exact ⟨valid, by omega⟩

theorem valid_ofDay (day : Int) : (ofDay day).Valid :=
  (ofDay_eq day).1

theorem dayCount_ofDay (day : Int) : (ofDay day).dayCount = day :=
  (ofDay_eq day).2

theorem next_ofDay (day : Int) : (ofDay day).next = ofDay (day + 1) := by
  apply (valid_next _).eq_of_dayCount_eq (valid_ofDay _)
  rw [(valid_ofDay day).dayCount_next, dayCount_ofDay, dayCount_ofDay]

end Date

namespace Weekday

theorem next_ofDay (day : Int) : (ofDay day).next = ofDay (day + 1) := by
  have sevenCases : (day + 4) % 7 = 0 ∨ (day + 4) % 7 = 1 ∨ (day + 4) % 7 = 2 ∨
      (day + 4) % 7 = 3 ∨ (day + 4) % 7 = 4 ∨ (day + 4) % 7 = 5 ∨ (day + 4) % 7 = 6 := by omega
  have after : (day + 1 + 4) % 7 = ((day + 4) % 7 + 1) % 7 := by omega
  simp only [ofDay, after]
  rcases sevenCases with rest | rest | rest | rest | rest | rest | rest <;> rw [rest] <;> rfl

theorem next_injective {weekday other : Weekday} (same : weekday.next = other.next) :
    weekday = other := by
  cases weekday <;> cases other <;> first | rfl | contradiction

end Weekday

/-- The dates and weekdays that the calendar comes by are those that are computed from the number
of the day. -/
theorem onDay_iff {day : Int} {date : Date} {weekday : Weekday} :
    OnDay day date weekday ↔ date = .ofDay day ∧ weekday = .ofDay day := by
  constructor
  · intro onDay
    induction onDay with
    | zero => decide
    | next _ ih =>
        obtain ⟨rfl, rfl⟩ := ih
        exact ⟨Date.next_ofDay _, Weekday.next_ofDay _⟩
    | @back day date weekday valid _ ih =>
        obtain ⟨dateEq, weekdayEq⟩ := ih
        rw [← Weekday.next_ofDay] at weekdayEq
        have counted := congrArg Date.dayCount dateEq
        rw [valid.dayCount_next, Date.dayCount_ofDay] at counted
        refine ⟨valid.eq_of_dayCount_eq (Date.valid_ofDay day) ?_, Weekday.next_injective weekdayEq⟩
        rw [Date.dayCount_ofDay]
        omega
  · rintro ⟨rfl, rfl⟩
    induction day using Int.induction_on with
    | zero => exact .zero
    | succ count ih =>
        rw [← Date.next_ofDay, ← Weekday.next_ofDay]
        exact .next ih
    | pred count ih =>
        apply OnDay.back (Date.valid_ofDay _)
        rw [Date.next_ofDay, Weekday.next_ofDay, Int.sub_add_cancel]
        exact ih

end PocketShell

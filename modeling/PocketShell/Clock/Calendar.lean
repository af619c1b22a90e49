/-!
# The calendar

Days are counted from 1970-01-01, day zero, in both directions, and dates follow
the Gregorian rules in all years.  A year is taken to begin in March, so that
the leap day is its last day: then 400 years, 100 years, 4 years and single
years each begin at a fixed multiple of days, and only the last one in a longer
span differs in length.
-/

namespace PocketShell

inductive Month where
  | january | february | march | april | may | june
  | july | august | september | october | november | december
deriving DecidableEq, Repr

inductive Weekday where
  | sunday | monday | tuesday | wednesday | thursday | friday | saturday
deriving DecidableEq, Repr

namespace Month

def name : Month → String
  | .january => "janeiro"
  | .february => "fevereiro"
  | .march => "março"
  | .april => "abril"
  | .may => "maio"
  | .june => "junho"
  | .july => "julho"
  | .august => "agosto"
  | .september => "setembro"
  | .october => "outubro"
  | .november => "novembro"
  | .december => "dezembro"

/-- The months with the number of their days, from March on to the February of a leap year. -/
def fromMarch : List (Month × Nat) :=
  [(.march, 31), (.april, 30), (.may, 31), (.june, 30), (.july, 31), (.august, 31),
    (.september, 30), (.october, 31), (.november, 30), (.december, 31), (.january, 31),
    (.february, 29)]

/-- Whether the month lies in the second calendar year of a year that begins in March. -/
def isAfterNewYear (month : Month) : Bool :=
  month = .january || month = .february

end Month

namespace Weekday

def all : List Weekday :=
  [.sunday, .monday, .tuesday, .wednesday, .thursday, .friday, .saturday]

/-- The long Portuguese name of the day. -/
def name : Weekday → String
  | .sunday => "domingo"
  | .monday => "segunda-feira"
  | .tuesday => "terça-feira"
  | .wednesday => "quarta-feira"
  | .thursday => "quinta-feira"
  | .friday => "sexta-feira"
  | .saturday => "sábado"

/-- The day of the week of a counted day; day zero is a Thursday. -/
def ofDay (day : Int) : Weekday :=
  match (day + 4) % 7 with
  | 0 => .sunday
  | 1 => .monday
  | 2 => .tuesday
  | 3 => .wednesday
  | 4 => .thursday
  | 5 => .friday
  | _ => .saturday

end Weekday

structure Date where
  year : Int
  month : Month
  /-- The day of the month, from one on. -/
  day : Nat
deriving DecidableEq, Repr

/-- A day within a span of years that begins with March. -/
structure YearDay where
  /-- The full years before the day. -/
  year : Nat
  /-- The days since the beginning of its year. -/
  day : Nat
deriving DecidableEq, Repr

namespace YearDay

/-- The day so many days after the beginning of a span of 400 years. -/
def ofCycleDay (day : Nat) : YearDay :=
  let century := min 3 (day / 36524)
  let dayOfCentury := day - 36524 * century
  let leapSpan := dayOfCentury / 1461
  let dayOfSpan := dayOfCentury % 1461
  let year := min 3 (dayOfSpan / 365)
  ⟨100 * century + 4 * leapSpan + year, dayOfSpan - 365 * year⟩

end YearDay

namespace Date

/-- The month, and the day in it, so many days after the beginning of the first of the months. -/
def monthAndDay : List (Month × Nat) → Nat → Month × Nat
  | [], day => (.march, day + 1)
  | (month, length) :: later, day =>
      if day < length then (month, day + 1) else monthAndDay later (day - length)

/-- The days from 0000-03-01 to day zero. -/
def dayZero : Int :=
  719468

def ofDay (day : Int) : Date :=
  let cycle := (day + dayZero) / 146097
  let yearDay := YearDay.ofCycleDay ((day + dayZero) % 146097).toNat
  let (month, dayOfMonth) := monthAndDay Month.fromMarch yearDay.day
  ⟨400 * cycle + yearDay.year + (if month.isAfterNewYear then 1 else 0), month, dayOfMonth⟩

end Date

end PocketShell

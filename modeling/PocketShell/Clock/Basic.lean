import PocketShell.Clock.Calendar

/-!
# The clock

The clock tells the seconds since 1970-01-01 00:00:00 in universal time and how
far local time is ahead of that.  Its text is the local date and time in words,
such as `segunda-feira, 15 de janeiro de 2024 14:05:09`.
-/

namespace PocketShell

/-- A moment and the zone in which it is told. -/
structure Clock where
  /-- The seconds since 1970-01-01 00:00:00 in universal time. -/
  now : Nat
  /-- The seconds by which local time is ahead. -/
  utcOffset : Int
deriving DecidableEq, Repr

structure TimeOfDay where
  hour : Nat
  minute : Nat
  second : Nat
deriving DecidableEq, Repr

namespace TimeOfDay

/-- The time so many seconds after midnight. -/
def ofSecond (second : Nat) : TimeOfDay :=
  ⟨second / 3600, second / 60 % 60, second % 60⟩

end TimeOfDay

/-- The decimal digits of the number with zeros before them up to the width. -/
def paddedDigits (width number : Nat) : List Char :=
  let digits := Nat.toDigits 10 number
  List.replicate (width - digits.length) '0' ++ digits

def padded (width number : Nat) : String :=
  String.ofList (paddedDigits width number)

/-- The hour, minute and second with colons between them. -/
def TimeOfDay.text (time : TimeOfDay) : String :=
  padded 2 time.hour ++ ":" ++ padded 2 time.minute ++ ":" ++ padded 2 time.second

namespace Date

/-- The year in four digits or more; a year outside of 0 to 9999 has a sign. -/
def yearText (year : Int) : String :=
  (if year < 0 then "-" else if 9999 < year then "+" else "") ++ padded 4 year.natAbs

def text (date : Date) : String :=
  padded 1 date.day ++ " de " ++ date.month.name ++ " de " ++ yearText date.year

end Date

namespace Clock

/-- The seconds of local time since 1970-01-01 00:00:00. -/
def localSeconds (clock : Clock) : Int :=
  clock.now + clock.utcOffset

def localDay (clock : Clock) : Int :=
  clock.localSeconds / 86400

def date (clock : Clock) : Date :=
  .ofDay clock.localDay

def weekday (clock : Clock) : Weekday :=
  .ofDay clock.localDay

def timeOfDay (clock : Clock) : TimeOfDay :=
  .ofSecond (clock.localSeconds % 86400).toNat

def text (clock : Clock) : String :=
  clock.weekday.name ++ ", " ++ clock.date.text ++ " " ++ clock.timeOfDay.text

end Clock

end PocketShell

import PocketShell.Proofs.Clock.Calendar
import PocketShell.Proofs.Text.OneLine
import PocketShell.Session.Basic

/-!
# The text of the clock

The text of the clock tells the weekday, the date and the time of day at which the
calendar arrives after the seconds of local time, in the words and digits that are
written out for a civil time.  Each field of it ends at a mark that no name and no
digit of the field has, so the fields can be told apart and read back, and every
local time has a text of its own.
-/

namespace PocketShell

attribute [ext] Date TimeOfDay

namespace TimeOfDay

def Valid (time : TimeOfDay) : Prop :=
  time.hour < 24 ∧ time.minute < 60 ∧ time.second < 60

/-- The seconds since midnight. -/
def secondOfDay (time : TimeOfDay) : Nat :=
  3600 * time.hour + 60 * time.minute + time.second

theorem valid_ofSecond {second : Nat} (inDay : second < 86400) : (ofSecond second).Valid := by
  simp only [Valid, ofSecond]
  omega

theorem Valid.secondOfDay_lt {time : TimeOfDay} (valid : time.Valid) :
    time.secondOfDay < 86400 := by
  obtain ⟨hourLt, minuteLt, secondLt⟩ := valid
  rw [secondOfDay]
  omega

theorem Valid.ofSecond_secondOfDay {time : TimeOfDay} (valid : time.Valid) :
    ofSecond time.secondOfDay = time := by
  obtain ⟨_, minuteLt, secondLt⟩ := valid
  rw [secondOfDay, ofSecond]
  ext <;> dsimp only <;> omega

theorem secondOfDay_ofSecond (second : Nat) : (ofSecond second).secondOfDay = second := by
  simp only [secondOfDay, ofSecond]
  omega

end TimeOfDay

section Digits

theorem ofDigitChars_paddedDigits (width number : Nat) :
    Nat.ofDigitChars 10 (paddedDigits width number) 0 = number := by
  simp [paddedDigits, Nat.ofDigitChars_append, Nat.ofDigitChars_replicate_zero]

theorem eq_of_paddedDigits_eq {width number other : Nat}
    (same : paddedDigits width number = paddedDigits width other) : number = other := by
  rw [← ofDigitChars_paddedDigits width number, same, ofDigitChars_paddedDigits]

theorem padded_eq_toString {width number : Nat}
    (fills : width ≤ (Nat.toDigits 10 number).length) : padded width number = toString number := by
  have noZeros : width - (Nat.toDigits 10 number).length = 0 := Nat.sub_eq_zero_of_le fills
  rw [padded, paddedDigits, Nat.toString_eq_ofList_toDigits]
  simp [noZeros]

theorem padded_one (number : Nat) : padded 1 number = toString number :=
  padded_eq_toString Nat.length_toDigits_pos

/-- One place more takes one digit more, the last one of the number. -/
theorem paddedDigits_succ {width : Nat} (notNone : 0 < width) (number : Nat) :
    paddedDigits (width + 1) number =
      paddedDigits width (number / 10) ++ [(number % 10).digitChar] := by
  by_cases oneDigit : number < 10
  · have noTens : number / 10 = 0 := Nat.div_eq_of_lt oneDigit
    obtain ⟨width, rfl⟩ := Nat.exists_eq_add_of_lt notNone
    simp [paddedDigits, noTens, Nat.mod_eq_of_lt oneDigit, Nat.toDigits_of_lt_base oneDigit,
      List.replicate_succ']
  · have moreDigits := Nat.toDigits_of_base_le (b := 10) (by decide) (Nat.le_of_not_lt oneDigit)
    simp [paddedDigits, moreDigits]

/-- A number below one hundred in two digits. -/
def twoDigits (number : Nat) : String :=
  String.ofList [(number / 10).digitChar, (number % 10).digitChar]

theorem padded_two {number : Nat} (small : number < 100) : padded 2 number = twoDigits number := by
  have tens : number / 10 < 10 := by omega
  rw [padded, twoDigits, paddedDigits_succ Nat.one_pos, paddedDigits,
    Nat.toDigits_of_lt_base tens]
  rfl

theorem padded_four {number : Nat} (small : number < 10000) :
    padded 4 number = twoDigits (number / 100) ++ twoDigits (number % 100) := by
  have hundreds : number / 10 / 10 = number / 100 := Nat.div_div_eq_div_mul number 10 10
  have tens : number / 10 % 10 = number % 100 / 10 := by omega
  have ones : number % 10 = number % 100 % 10 := by omega
  rw [← padded_two (show number / 100 < 100 by omega), padded, padded, twoDigits,
    paddedDigits_succ (by decide), paddedDigits_succ (by decide), hundreds, tens, ones,
    ← String.ofList_append, List.append_assoc, List.singleton_append]

theorem padded_four_of_le {number : Nat} (large : 10000 ≤ number) :
    padded 4 number = toString number := by
  have lengthIff := Nat.length_toDigits_le_iff (b := 10) (n := number) (k := 4)
    (by decide) (by decide)
  exact padded_eq_toString (by omega)

end Digits

/-- What stands before a mark and what stands behind it are told apart by the first mark. -/
theorem append_mark_inj {α : Type} {mark : α} {first second rest others : List α}
    (notFirst : mark ∉ first) (notSecond : mark ∉ second)
    (same : first ++ mark :: rest = second ++ mark :: others) :
    first = second ∧ rest = others := by
  induction first generalizing second with
  | nil =>
      cases second with
      | nil => exact ⟨rfl, (List.cons.inj same).2⟩
      | cons item second =>
          obtain ⟨rfl, _⟩ := List.cons.inj same
          exact absurd List.mem_cons_self notSecond
  | cons item first ih =>
      cases second with
      | nil =>
          obtain ⟨rfl, _⟩ := List.cons.inj same
          exact absurd List.mem_cons_self notFirst
      | cons other second =>
          rw [List.mem_cons, not_or] at notFirst notSecond
          obtain ⟨rfl, sameRest⟩ := List.cons.inj same
          obtain ⟨rfl, restEq⟩ := ih notFirst.2 notSecond.2 sameRest
          exact ⟨rfl, restEq⟩

theorem Month.find?_name (month : Month) :
    all.find? (·.name.toList = month.name.toList) = some month := by
  cases month <;> decide

theorem Month.eq_of_name_eq {month other : Month}
    (same : month.name.toList = other.name.toList) : month = other := by
  have found := month.find?_name
  rw [same, other.find?_name] at found
  exact (Option.some.inj found).symm

namespace Date

/-- The year that a sign and digits stand for. -/
def readYear : List Char → Int
  | '-' :: digits => -Nat.ofDigitChars 10 digits 0
  | '+' :: digits => Nat.ofDigitChars 10 digits 0
  | digits => Nat.ofDigitChars 10 digits 0

theorem readYear_paddedDigits (width number : Nat) :
    readYear (paddedDigits width number) = number := by
  unfold readYear
  split
  case h_1 digits minus =>
    exact absurd (minus ▸ List.mem_cons_self) (not_mem_paddedDigits (by decide) width number)
  case h_2 digits plus =>
    exact absurd (plus ▸ List.mem_cons_self) (not_mem_paddedDigits (by decide) width number)
  case h_3 => rw [ofDigitChars_paddedDigits]

theorem readYear_yearText (year : Int) : readYear (yearText year).toList = year := by
  rw [yearText, padded, String.toList_append, String.toList_ofList]
  split_ifs with negative long
  · change -((Nat.ofDigitChars 10 (paddedDigits 4 year.natAbs) 0 : Nat) : Int) = year
    rw [ofDigitChars_paddedDigits]
    omega
  · change ((Nat.ofDigitChars 10 (paddedDigits 4 year.natAbs) 0 : Nat) : Int) = year
    rw [ofDigitChars_paddedDigits]
    omega
  · change readYear (paddedDigits 4 year.natAbs) = year
    rw [readYear_paddedDigits]
    omega

theorem eq_of_yearText_eq {year other : Int}
    (same : (yearText year).toList = (yearText other).toList) : year = other := by
  rw [← readYear_yearText year, same, readYear_yearText]

theorem space_not_mem_yearText (year : Int) : ' ' ∉ (yearText year).toList := by
  have digits : ' ' ∉ paddedDigits 4 year.natAbs := not_mem_paddedDigits (by decide) _ _
  rw [yearText, padded, String.toList_append, String.toList_ofList]
  split_ifs <;> simpa using digits

end Date

namespace Clock

theorem toList_text (clock : Clock) :
    clock.text.toList = clock.weekday.name.toList ++ ',' :: ' ' ::
      (paddedDigits 1 clock.date.day ++ ' ' :: 'd' :: 'e' :: ' ' ::
        (clock.date.month.name.toList ++ ' ' :: 'd' :: 'e' :: ' ' ::
          ((Date.yearText clock.date.year).toList ++ ' ' ::
            (paddedDigits 2 clock.timeOfDay.hour ++ ':' ::
              (paddedDigits 2 clock.timeOfDay.minute ++ ':' ::
                paddedDigits 2 clock.timeOfDay.second))))) := by
  simp [text, Date.text, TimeOfDay.text, padded]

theorem secondOfDay_timeOfDay (clock : Clock) :
    86400 * clock.localDay + clock.timeOfDay.secondOfDay = clock.localSeconds := by
  rw [timeOfDay, TimeOfDay.secondOfDay_ofSecond, localDay]
  omega

theorem valid_timeOfDay (clock : Clock) : clock.timeOfDay.Valid :=
  TimeOfDay.valid_ofSecond (by omega)

theorem fields_eq_of_text_eq {clock other : Clock} (same : clock.text = other.text) :
    clock.date = other.date ∧ clock.timeOfDay = other.timeOfDay := by
  have noComma (weekday : Weekday) : ',' ∉ weekday.name.toList := by cases weekday <;> decide
  have noSpace (month : Month) : ' ' ∉ month.name.toList := by cases month <;> decide
  have digitsNoSpace := not_mem_paddedDigits (show ' '.isDigit = false by decide)
  have digitsNoColon := not_mem_paddedDigits (show ':'.isDigit = false by decide)
  have yearNoSpace := Date.space_not_mem_yearText
  have behindOf {rest others : List Char}
      (same : 'd' :: 'e' :: ' ' :: rest = 'd' :: 'e' :: ' ' :: others) : rest = others := by
    simpa using same
  have sameList := congrArg String.toList same
  rw [toList_text, toList_text] at sameList
  obtain ⟨_, afterComma⟩ := append_mark_inj (noComma _) (noComma _) sameList
  have dates := (List.cons.inj afterComma).2
  obtain ⟨dayEq, ofMonth⟩ := append_mark_inj (digitsNoSpace _ _) (digitsNoSpace _ _) dates
  obtain ⟨monthEq, ofYear⟩ := append_mark_inj (noSpace _) (noSpace _) (behindOf ofMonth)
  obtain ⟨yearEq, times⟩ := append_mark_inj (yearNoSpace _) (yearNoSpace _) (behindOf ofYear)
  obtain ⟨hourEq, minutes⟩ := append_mark_inj (digitsNoColon _ _) (digitsNoColon _ _) times
  obtain ⟨minuteEq, secondEq⟩ :=
    append_mark_inj (digitsNoColon _ _) (digitsNoColon _ _) minutes
  exact ⟨Date.ext (Date.eq_of_yearText_eq yearEq) (Month.eq_of_name_eq monthEq)
      (eq_of_paddedDigits_eq dayEq),
    TimeOfDay.ext (eq_of_paddedDigits_eq hourEq) (eq_of_paddedDigits_eq minuteEq)
      (eq_of_paddedDigits_eq secondEq)⟩

theorem localSeconds_eq_of_text_eq {clock other : Clock} (same : clock.text = other.text) :
    clock.localSeconds = other.localSeconds := by
  obtain ⟨dateEq, timeEq⟩ := fields_eq_of_text_eq same
  have dayEq := congrArg Date.dayCount dateEq
  rw [date, date, Date.dayCount_ofDay, Date.dayCount_ofDay] at dayEq
  rw [← secondOfDay_timeOfDay, ← secondOfDay_timeOfDay, dayEq, timeEq]

theorem text_eq_iff {clock other : Clock} :
    clock.text = other.text ↔ clock.localSeconds = other.localSeconds := by
  refine ⟨localSeconds_eq_of_text_eq, fun same => ?_⟩
  simp only [text, weekday, date, timeOfDay, localDay, same]

end Clock

/-- The day and the time of day at which a count of seconds from the first of January 1970 ends. -/
structure CivilTime (seconds : Int) where
  day : Int
  date : Date
  weekday : Weekday
  time : TimeOfDay
  onDay : OnDay day date weekday
  validDate : date.Valid
  validTime : time.Valid
  seconds_eq : 86400 * day + time.secondOfDay = seconds

namespace CivilTime

theorem eq {seconds : Int} (civil other : CivilTime seconds) : civil = other := by
  obtain ⟨day, date, weekday, time, onDay, _, validTime, secondsEq⟩ := civil
  obtain ⟨otherDay, otherDate, otherWeekday, otherTime, otherOn, _, otherValid, otherEq⟩ := other
  have inDay := validTime.secondOfDay_lt
  have otherInDay := otherValid.secondOfDay_lt
  obtain rfl : day = otherDay := by omega
  obtain ⟨rfl, rfl⟩ := onDay_iff.mp onDay
  obtain ⟨rfl, rfl⟩ := onDay_iff.mp otherOn
  obtain rfl : time = otherTime := by
    rw [← validTime.ofSecond_secondOfDay, ← otherValid.ofSecond_secondOfDay]
    congr 1
    omega
  rfl

section Wording

variable {seconds : Int} (civil : CivilTime seconds)

def weekdayWord : String :=
  match civil.weekday with
  | .sunday => "domingo"
  | .monday => "segunda-feira"
  | .tuesday => "terça-feira"
  | .wednesday => "quarta-feira"
  | .thursday => "quinta-feira"
  | .friday => "sexta-feira"
  | .saturday => "sábado"

def monthWord : String :=
  match civil.date.month with
  | .january => "janeiro"
  | .february => "fevereiro"
  | .march => "março"
  | .april => "abril"
  | .may => "maio"
  | .june => "junho"
  | .july => "julho"
  | .august => "agosto"
  | .september => "setembro"
  | .october => "outubro"
  | .november => "novembro"
  | .december => "dezembro"

/-- The year in four digits, or in more if it needs them; only 0 to 9999 have no sign. -/
def yearDigits : String :=
  let number := civil.date.year.natAbs
  (if civil.date.year < 0 then "-" else if 9999 < civil.date.year then "+" else "") ++
    if number < 10000 then twoDigits (number / 100) ++ twoDigits (number % 100)
    else toString number

/-- The weekday, the day and the month in Portuguese, the year, and the time of day. -/
def text : String :=
  civil.weekdayWord ++ ", " ++ toString civil.date.day ++ " de " ++ civil.monthWord ++ " de " ++
    civil.yearDigits ++ " " ++ twoDigits civil.time.hour ++ ":" ++ twoDigits civil.time.minute ++
    ":" ++ twoDigits civil.time.second

theorem weekdayWord_eq : civil.weekdayWord = civil.weekday.name := by
  rw [weekdayWord]
  cases civil.weekday <;> rfl

theorem monthWord_eq : civil.monthWord = civil.date.month.name := by
  rw [monthWord]
  cases civil.date.month <;> rfl

theorem yearDigits_eq : civil.yearDigits = Date.yearText civil.date.year := by
  rw [yearDigits, Date.yearText]
  congr 1
  by_cases small : civil.date.year.natAbs < 10000
  · rw [if_pos small, padded_four small]
  · rw [if_neg small, padded_four_of_le (Nat.le_of_not_lt small)]

theorem text_eq :
    civil.text = civil.weekday.name ++ ", " ++ civil.date.text ++ " " ++ civil.time.text := by
  obtain ⟨hourLt, minuteLt, secondLt⟩ := civil.validTime
  rw [text, weekdayWord_eq, monthWord_eq, yearDigits_eq, Date.text, TimeOfDay.text, padded_one,
    padded_two (by omega), padded_two (by omega), padded_two (by omega)]
  simp only [String.append_assoc]

end Wording

end CivilTime

def Clock.civilTime (clock : Clock) : CivilTime clock.localSeconds where
  day := clock.localDay
  date := clock.date
  weekday := clock.weekday
  time := clock.timeOfDay
  onDay := onDay_iff.mpr ⟨rfl, rfl⟩
  validDate := Date.valid_ofDay _
  validTime := clock.valid_timeOfDay
  seconds_eq := clock.secondOfDay_timeOfDay

theorem Clock.text_civilTime (clock : Clock) : clock.civilTime.text = clock.text :=
  clock.civilTime.text_eq

/-- The text of the clock tells the only date, weekday and time of day that stand for the seconds of
local time, and any two local times have different texts. -/
theorem Session.date_tells_civilTime (clock : Clock) (session : Session) :
    (∃ civil : CivilTime (clock.now + clock.utcOffset), (∀ other, other = civil) ∧
      (session.run clock .date).2 = .showing [.text civil.text]) ∧
    ∀ (other : Clock) (otherSession : Session),
      (otherSession.run other .date).2 = (session.run clock .date).2 ↔
        other.now + other.utcOffset = clock.now + clock.utcOffset := by
  constructor
  · refine ⟨clock.civilTime, fun other => other.eq _, ?_⟩
    rw [Session.run, ← clock.text_civilTime]
    rfl
  · intro other otherSession
    change Reply.showing [.text other.text] = Reply.showing [.text clock.text] ↔ _
    simp [Reply.showing, Clock.text_eq_iff, Clock.localSeconds]

/-- One second before the first of January 1970. -/
example : Clock.text ⟨0, -1⟩ = "quarta-feira, 31 de dezembro de 1969 23:59:59" := by decide

end PocketShell

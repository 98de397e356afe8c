/-!
# Dates and times

Dates of the Gregorian calendar, times of the day, and how far the clocks of a place are ahead of
universal time.  The functions ending in a question mark answer for dates and times that exist;
the others say what is wrong with one that does not.
-/

namespace SlashCommand.Document

/-- A day of the calendar. -/
structure Date where
  year : Nat
  month : Nat
  day : Nat
  deriving DecidableEq, Repr

/-- A time of the day. -/
structure Clock where
  hour : Nat
  minute : Nat
  second : Nat
  microsecond : Nat
  deriving DecidableEq, Repr

/-- What the clocks of a place show. -/
inductive Zone where
  | universal
  /-- Some seconds ahead of universal time. -/
  | ahead (seconds : Int)
  deriving DecidableEq, Repr

/-- Why a date or a time does not exist. -/
inductive MomentError where
  | year (number : Int)
  | month
  | day
  | hour
  | minute
  | second
  | microsecond
  /-- Clocks are less than a day ahead or behind. -/
  | zone (seconds : Int)
  deriving DecidableEq, Repr

/-- Whether a year has a leap day. -/
def isLeapYear (year : Nat) : Bool :=
  year % 4 == 0 && (year % 100 != 0 || year % 400 == 0)

/-- The number of days of a month. -/
def daysOf (year month : Nat) : Nat :=
  if month = 2 then (if isLeapYear year then 29 else 28)
  else if [4, 6, 9, 11].contains month then 30
  else 31

/-- A date by its numbers. -/
def Date.ofNumbers (year month day : Int) : Except MomentError Date :=
  if year < 1 || 9999 < year then .error (.year year)
  else if month < 1 || 12 < month then .error .month
  else if day < 1 || (daysOf year.toNat month.toNat : Int) < day then .error .day
  else .ok ⟨year.toNat, month.toNat, day.toNat⟩

/-- A time by its numbers. -/
def Clock.ofNumbers (hour minute second microsecond : Int) : Except MomentError Clock :=
  if hour < 0 || 23 < hour then .error .hour
  else if minute < 0 || 59 < minute then .error .minute
  else if second < 0 || 59 < second then .error .second
  else if microsecond < 0 || 999999 < microsecond then .error .microsecond
  else .ok ⟨hour.toNat, minute.toNat, second.toNat, microsecond.toNat⟩

/-- A zone by the seconds that its clocks are ahead. -/
def Zone.ofSeconds (seconds : Int) : Except MomentError Zone :=
  if seconds.natAbs ≥ 86400 then .error (.zone seconds)
  else if seconds = 0 then .ok .universal
  else .ok (.ahead seconds)

/-! ## As messages show them -/

/-- A span of time: whole days, and the seconds behind them. -/
def displaySpan (seconds : Int) : String :=
  let days := Int.fdiv seconds 86400
  let rest := seconds - days * 86400
  let parts := (if days = 0 then [] else [s!"days={days}"]) ++
    if rest = 0 then [] else [s!"seconds={rest}"]
  "datetime.timedelta(" ++ (if parts.isEmpty then "0" else ", ".intercalate parts) ++ ")"

/-- The numbers of a date. -/
def Date.numbers (date : Date) : List String :=
  [toString date.year, toString date.month, toString date.day]

/-- The numbers of a time; seconds and what is below them are left out where they are zero. -/
def Clock.numbers (clock : Clock) : List String :=
  [toString clock.hour, toString clock.minute] ++
    if clock.microsecond ≠ 0 then [toString clock.second, toString clock.microsecond]
    else if clock.second ≠ 0 then [toString clock.second]
    else []

/-- A date as messages show it. -/
def Date.display (date : Date) : String :=
  "datetime.date(" ++ ", ".intercalate date.numbers ++ ")"

/-- A time as messages show it. -/
def Clock.display (clock : Clock) : String :=
  "datetime.time(" ++ ", ".intercalate clock.numbers ++ ")"

/-- A zone as messages show it. -/
def Zone.display : Zone → String
  | universal => "datetime.timezone.utc"
  | ahead seconds => "datetime.timezone(" ++ displaySpan seconds ++ ")"

/-- A date with a time as messages show them. -/
def displayMoment (date : Date) (clock : Clock) (zone : Option Zone) : String :=
  let zone := zone.toList.map fun zone => "tzinfo=" ++ zone.display
  "datetime.datetime(" ++ ", ".intercalate (date.numbers ++ clock.numbers ++ zone) ++ ")"

/-- What is said of a date or a time that does not exist. -/
def MomentError.message : MomentError → String
  | year number => s!"year {number} is out of range"
  | month => "month must be in 1..12"
  | day => "day is out of range for month"
  | hour => "hour must be in 0..23"
  | minute => "minute must be in 0..59"
  | second => "second must be in 0..59"
  | microsecond => "microsecond must be in 0..999999"
  | zone seconds =>
    "offset must be a timedelta strictly between -timedelta(hours=24) and " ++
      "timedelta(hours=24), not " ++ displaySpan seconds ++ "."

end SlashCommand.Document

/-!
Contract: days, and times of day on them.

Owns:
- the days of the calendar in use, extended to all years of four digits;
- times of day to the microsecond, which may know their distance from universal time;
- the text of a moment, plain and as messages quote it.
-/

namespace Regrid

/-- A time of day. The distance from universal time is given in minutes. -/
structure Clock where
  hour : Nat
  minute : Nat
  second : Nat
  microsecond : Nat := 0
  offset : Option Int := none
  deriving DecidableEq, Repr

/-- A day, and perhaps a time of day. -/
structure Moment where
  year : Nat
  month : Nat
  day : Nat
  clock : Option Clock := none
  deriving DecidableEq, Repr

namespace Moment

/-- A year with a twenty-ninth of February. -/
def isLeap (year : Nat) : Bool := year % 4 == 0 && (year % 100 != 0 || year % 400 == 0)

/-- The number of days of a month. -/
def daysOf (year month : Nat) : Nat :=
  if month = 2 then (if isLeap year then 29 else 28)
  else if month = 4 ∨ month = 6 ∨ month = 9 ∨ month = 11 then 30
  else 31

/-- The day exists, and the time of day does if there is one. An offset is less than a
day. -/
def isValid (moment : Moment) : Bool :=
  let dayExists := 1 ≤ moment.year && moment.year ≤ 9999 && 1 ≤ moment.month &&
    moment.month ≤ 12 && 1 ≤ moment.day && moment.day ≤ daysOf moment.year moment.month
  dayExists && match moment.clock with
    | none => true
    | some clock =>
      clock.hour < 24 && clock.minute < 60 && clock.second < 60 &&
        clock.microsecond < 1000000 &&
        match clock.offset with
        | none => true
        | some minutes => minutes.natAbs < 1440

def zeroPadded (width n : Nat) : String :=
  let digits := toString n
  String.ofList (List.replicate (width - digits.length) '0') ++ digits

/-- The distance from universal time as hours and minutes with a sign. -/
def offsetText (minutes : Int) : String :=
  (if minutes < 0 then "-" else "+") ++ zeroPadded 2 (minutes.natAbs / 60) ++ ":" ++
    zeroPadded 2 (minutes.natAbs % 60)

/-- The text of a time of day; a whole second shows no fraction. -/
def clockText (clock : Clock) : String :=
  zeroPadded 2 clock.hour ++ ":" ++ zeroPadded 2 clock.minute ++ ":" ++
    zeroPadded 2 clock.second ++
    (if clock.microsecond = 0 then "" else "." ++ zeroPadded 6 clock.microsecond) ++
    (clock.offset.map offsetText).getD ""

/-- The text of a moment: year, month and day, and the time after a blank. -/
def text (moment : Moment) : String :=
  zeroPadded 4 moment.year ++ "-" ++ zeroPadded 2 moment.month ++ "-" ++
    zeroPadded 2 moment.day ++
    match moment.clock with
    | none => ""
    | some clock => " " ++ clockText clock

/-- The distance from universal time as messages quote it, in days and seconds. -/
def offsetShown (minutes : Int) : String :=
  if minutes = 0 then "datetime.timezone.utc"
  else
    let seconds := minutes * 60
    let days := if seconds < 0 then "days=-1, " else ""
    "datetime.timezone(datetime.timedelta(" ++ days ++ "seconds=" ++
      toString (seconds % 86400) ++ "))"

/-- The text of a moment as messages quote it: seconds are left out where nothing
follows them and they are zero. -/
def shown (moment : Moment) : String :=
  let numbers := [moment.year, moment.month, moment.day]
  match moment.clock with
  | none => "datetime.date(" ++ ", ".intercalate (numbers.map toString) ++ ")"
  | some clock =>
    let tail :=
      if clock.microsecond ≠ 0 then [clock.second, clock.microsecond]
      else if clock.second ≠ 0 then [clock.second]
      else []
    let numbers := numbers ++ [clock.hour, clock.minute] ++ tail
    let zone := match clock.offset with
      | none => ""
      | some minutes => ", tzinfo=" ++ offsetShown minutes
    "datetime.datetime(" ++ ", ".intercalate (numbers.map toString) ++ zone ++ ")"

end Moment

end Regrid

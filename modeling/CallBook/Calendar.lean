/-!
# Dates and times

Dates of the Gregorian calendar, times of day, and their text in the form of RFC 3339.
-/

namespace CallBook.Calendar

/-! ## 1. The calendar -/

/-- A day of the calendar. -/
structure Date where
  year : Nat
  month : Nat
  day : Nat
deriving Repr, DecidableEq

/-- A time of day. -/
structure Time where
  hour : Nat
  minute : Nat
  second : Nat
  nanosecond : Nat
deriving Repr, DecidableEq

/-- The distance from universal time. -/
inductive Offset where
  | universal
  /-- Minutes to the east. -/
  | minutes (count : Int)
deriving Repr, DecidableEq

/-- A date, a time, or both; only both may have an offset. -/
inductive Moment where
  | date (date : Date)
  | time (time : Time)
  | both (date : Date) (time : Time) (offset : Option Offset)
deriving Repr, DecidableEq

def isLeapYear (year : Nat) : Bool :=
  year % 4 = 0 && (year % 100 ≠ 0 || year % 400 = 0)

/-- How many days a month has. -/
def daysIn (year month : Nat) : Nat :=
  if month = 2 then if isLeapYear year then 29 else 28
  else if month = 4 ∨ month = 6 ∨ month = 9 ∨ month = 11 then 30
  else 31

/-- The date some days after the first of March of a year that 400 divides.  Counted from
March, the leap day is the last of its year. -/
def Date.afterMarch (baseYear days : Nat) : Date :=
  let year := (days - days / 1460 + days / 36524 - days / 146096) / 365
  let dayOfYear := days - (365 * year + year / 4 - year / 100)
  let month := (5 * dayOfYear + 2) / 153
  { year := baseYear + year + (if month < 10 then 0 else 1)
    month := if month < 10 then month + 3 else month - 9
    day := dayOfYear - (153 * month + 2) / 5 + 1 }

/-- The date some days after the first of January 1970, which comes 719468 days after the
first of March of the year 0; 400 years have 146097 days. -/
def Date.ofDayNumber (days : Nat) : Date :=
  let days := days + 719468
  Date.afterMarch (days / 146097 * 400) (days % 146097)

/-- The time some seconds after midnight. -/
def Time.ofSeconds (seconds : Nat) : Time :=
  ⟨seconds / 3600, seconds / 60 % 60, seconds % 60, 0⟩

/-- The moment some seconds after the beginning of 1970, in universal time. -/
def Moment.ofUnixSeconds (seconds : Nat) : Moment :=
  .both (Date.ofDayNumber (seconds / 86400)) (Time.ofSeconds (seconds % 86400))
    (some .universal)

/-! ## 2. As text -/

/-- A number in at least `width` decimal digits. -/
def padded (width n : Nat) : List Char :=
  let digits := Nat.toDigits 10 n
  List.replicate (width - digits.length) '0' ++ digits

def Date.text (d : Date) : List Char :=
  padded 4 d.year ++ '-' :: padded 2 d.month ++ '-' :: padded 2 d.day

/-- The part of a second, without the zeros at its end. -/
def fractionText (nanosecond : Nat) : List Char :=
  if nanosecond = 0 then []
  else '.' :: ((padded 9 nanosecond).reverse.dropWhile (· = '0')).reverse

def Time.text (t : Time) : List Char :=
  padded 2 t.hour ++ ':' :: padded 2 t.minute ++ ':' :: padded 2 t.second ++
  fractionText t.nanosecond

def Offset.text : Offset → List Char
  | universal => ['Z']
  | minutes count =>
    (if count < 0 then '-' else '+') ::
      (padded 2 (count.natAbs / 60) ++ ':' :: padded 2 (count.natAbs % 60))

/-- The text of a moment in the form of RFC 3339. -/
def Moment.text : Moment → List Char
  | date d => d.text
  | time t => t.text
  | both d t offset =>
    d.text ++ 'T' :: t.text ++
    match offset with
    | some o => o.text
    | none => []

end CallBook.Calendar

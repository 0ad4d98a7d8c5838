import CallBook.Toml.Strings
import CallBook.Toml.Value
/-!
# TOML numbers, dates and times

An underscore may stand between two digits of a number.  Integers have 64 bits; decimal ones
may have a sign but no leading zero, others have a base prefix and no sign.  A floating-point
number is the nearest one to what is written; above the largest there is none, while below the
smallest the answer is the infinite one.
-/

namespace CallBook.Toml

open Calendar (Date Time Offset Moment daysIn)

/-! ## 1. Digits -/

/-- The digits that follow a digit; each underscore among them is followed by a digit. -/
def readMoreDigits (isDigit : Char → Bool) : List Char → Read (List Char)
  | [] => some ([], [])
  | ['_'] => none
  | '_' :: c :: cs =>
    if isDigit c then (readMoreDigits isDigit cs).map fun (ds, rest) => (c :: ds, rest)
    else none
  | c :: cs =>
    if isDigit c then (readMoreDigits isDigit cs).map fun (ds, rest) => (c :: ds, rest)
    else some ([], c :: cs)

/-- One digit or more. -/
def readDigits (isDigit : Char → Bool) : List Char → Read (List Char)
  | [] => none
  | c :: cs =>
    if isDigit c then (readMoreDigits isDigit cs).map fun (ds, rest) => (c :: ds, rest)
    else none

/-- The digits of a decimal number, which begin with zero only if that is all. -/
def readWhole : List Char → Read (List Char)
  | '0' :: cs => some (['0'], cs)
  | cs => readDigits Char.isDigit cs

/-- The number that digits of a base stand for. -/
def valueOf (base : Nat) (digits : List Char) : Nat :=
  digits.foldl (fun n c => base * n + (hexValue? c).getD 0) 0

/-- The sign that a number may have; true for a minus. -/
def readSign : List Char → Bool × List Char
  | '+' :: cs => (false, cs)
  | '-' :: cs => (true, cs)
  | cs => (false, cs)

/-! ## 2. Numbers -/

/-- An integer of 64 bits. -/
def integer? (negative : Bool) (n : Nat) : Option Value :=
  if negative then if n ≤ Nat.pow 2 63 then some (.integer (-n)) else none
  else if n < Nat.pow 2 63 then some (.integer n) else none

/-- An integer in a base other than ten, after its prefix. -/
def readBased (base : Nat) (isDigit : Char → Bool) (cs : List Char) : Read Value :=
  match readDigits isDigit cs with
  | none => none
  | some (ds, rest) => (integer? false (valueOf base ds)).map (·, rest)

/-- The exponent of a number, if there is one. -/
def readExponent : List Char → Read (Option Int)
  | [] => some (none, [])
  | c :: cs =>
    if c = 'e' ∨ c = 'E' then
      let (negative, cs) := readSign cs
      (readDigits Char.isDigit cs).map fun (ds, rest) =>
        let n : Int := valueOf 10 ds
        (some (if negative then -n else n), rest)
    else some (none, c :: cs)

/-- The digits after the point of a number, if there is one. -/
def readFraction : List Char → Read (Option (List Char))
  | '.' :: cs => (readDigits Char.isDigit cs).map fun (ds, rest) => (some ds, rest)
  | cs => some (none, cs)

/-- The floating-point number `± digits · 10 ^ e`. -/
def float? (negative : Bool) (digits : List Char) (e : Int) : Option Value :=
  match Binary64.ofDecimal? negative (valueOf 10 digits) e with
  | some x => some (.float (some x))
  | none => if negative then some (.float none) else none

/-- A decimal number, after its sign. -/
def readDecimal (negative : Bool) (cs : List Char) : Option (Value × List Char) := do
  let (whole, cs) ← readWhole cs
  let (fraction, cs) ← readFraction cs
  let (e, cs) ← readExponent cs
  match fraction, e with
  | none, none => (integer? negative (valueOf 10 whole)).map (·, cs)
  | fraction, e =>
    let fraction := fraction.getD []
    (float? negative (whole ++ fraction) (e.getD 0 - fraction.length)).map (·, cs)

/-- What follows a word at the start of the text. -/
def afterWord? : List Char → List Char → Option (List Char)
  | [], cs => some cs
  | w :: word, c :: cs => if w = c then afterWord? word cs else none
  | _ :: _, [] => none

/-- A number that is infinite or none, after its sign. -/
def readSpecial (cs : List Char) : Read Value :=
  ((afterWord? ['i', 'n', 'f'] cs).or (afterWord? ['n', 'a', 'n'] cs)).map (.float none, ·)

def isHexDigit (c : Char) : Bool := (hexValue? c).isSome

def isOctalDigit (c : Char) : Bool := '0' ≤ c && c ≤ '7'

def isBinaryDigit (c : Char) : Bool := c = '0' || c = '1'

/-- A number. -/
def readNumber : List Char → Read Value
  | '0' :: 'x' :: cs => readBased 16 isHexDigit cs
  | '0' :: 'o' :: cs => readBased 8 isOctalDigit cs
  | '0' :: 'b' :: cs => readBased 2 isBinaryDigit cs
  | cs =>
    let (negative, cs) := readSign cs
    (readDecimal negative cs).or (readSpecial cs)

/-! ## 3. Dates and times -/

/-- A number of exactly `width` decimal digits. -/
def readFixed (width : Nat) (cs : List Char) : Read Nat :=
  let ds := cs.take width
  if ds.length = width ∧ ds.all Char.isDigit then some (valueOf 10 ds, cs.drop width) else none

/-- A number of two digits within bounds. -/
def readPair (least greatest : Nat) (cs : List Char) : Read Nat :=
  (readFixed 2 cs).filter fun (n, _) => least ≤ n ∧ n ≤ greatest

/-- One character that must be there. -/
def skip? (c : Char) : List Char → Option (List Char)
  | d :: cs => if d = c then some cs else none
  | [] => none

/-- A date. -/
def readDate (cs : List Char) : Option (Date × List Char) := do
  let (year, cs) ← readFixed 4 cs
  let cs ← skip? '-' cs
  let (month, cs) ← readPair 1 12 cs
  let cs ← skip? '-' cs
  let (day, cs) ← readPair 1 (daysIn year month) cs
  pure (⟨year, month, day⟩, cs)

/-- The part of a second in nanoseconds, if there is a point; what is finer is cut off. -/
def readPartOfSecond : List Char → Read Nat
  | '.' :: cs =>
    let ds := cs.takeWhile Char.isDigit
    if ds.isEmpty then none
    else
      let kept := ds.take 9
      some (valueOf 10 kept * Nat.pow 10 (9 - kept.length), cs.dropWhile Char.isDigit)
  | cs => some (0, cs)

/-- A time of day up to the latest hour; a leap second is allowed. -/
def readTime (latestHour : Nat) (cs : List Char) : Option (Time × List Char) := do
  let (hour, cs) ← readPair 0 latestHour cs
  let cs ← skip? ':' cs
  let (minute, cs) ← readPair 0 59 cs
  let cs ← skip? ':' cs
  let (second, cs) ← readPair 0 60 cs
  let (nanosecond, cs) ← readPartOfSecond cs
  pure (⟨hour, minute, second, nanosecond⟩, cs)

/-- An offset, if there is one. -/
def readOffset : List Char → Option (Option Offset × List Char)
  | [] => some (none, [])
  | c :: cs =>
    if c = 'Z' ∨ c = 'z' then some (some .universal, cs)
    else if c = '+' ∨ c = '-' then do
      let (hours, cs) ← readPair 0 23 cs
      let cs ← skip? ':' cs
      let (minutes, cs) ← readPair 0 59 cs
      let count : Int := hours * 60 + minutes
      pure (some (.minutes (if c = '-' then -count else count)), cs)
    else some (none, c :: cs)

/-- What separates a date from a time. -/
def isDelimiter (c : Char) : Bool := c = 'T' || c = 't' || c = ' '

/-- Does the text go on as the hour of a time? -/
def startsTime (cs : List Char) : Bool :=
  match readPair 0 23 cs with
  | some (_, ':' :: _) => true
  | _ => false

/-- A date, and a time with an offset if one follows it.  A blank after a date that no time
follows does not belong to it. -/
def readDateOrBoth (cs : List Char) : Option (Moment × List Char) := do
  let (date, cs) ← readDate cs
  match cs with
  | c :: more =>
    if isDelimiter c ∧ startsTime more then do
      let (time, cs) ← readTime 23 more
      let (offset, cs) ← readOffset cs
      pure (.both date time offset, cs)
    else pure (.date date, cs)
  | [] => pure (.date date, [])

/-- Does the text begin as a date? -/
def startsDate (cs : List Char) : Bool :=
  match readFixed 4 cs with
  | some (_, '-' :: _) => true
  | _ => false

/-- A number, a date or a time. -/
def readNumberOrMoment (cs : List Char) : Read Value :=
  if startsDate cs then (readDateOrBoth cs).map fun (m, rest) => (.moment m, rest)
  else if startsTime cs then (readTime 23 cs).map fun (t, rest) => (.moment (.time t), rest)
  else readNumber cs

end CallBook.Toml

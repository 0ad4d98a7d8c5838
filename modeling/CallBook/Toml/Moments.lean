import CallBook.Toml.Scalars
/-!
# Moments in the shape of tables

A table that begins with the name `momentMark` is a moment: the text under that name says which,
and what else the table holds does not count.  Any table below the document itself can be one,
however it came about.

The text is read more freely than a date or time in a document: the hour may be 24, the minutes
of an offset may be any two digits, and what bounds an offset is its sum.
-/

namespace CallBook.Toml

open Calendar (Offset Moment)

/-! ## 1. The text of a moment -/

/-- The greatest offset, in minutes. -/
def greatestOffset : Int := 24 * 60

/-- The offset that a text stands for; the empty text is none. -/
def offsetOf? : List Char → Option (Option Offset)
  | [] => some none
  | ['Z'] => some (some .universal)
  | ['z'] => some (some .universal)
  | c :: cs =>
    if c = '+' ∨ c = '-' then do
      let (hours, cs) ← readFixed 2 cs
      let cs ← skip? ':' cs
      let (minutes, cs) ← readFixed 2 cs
      let count : Int := hours * 60 + minutes
      if cs.isEmpty ∧ count ≤ greatestOffset then
        pure (some (.minutes (if c = '-' then -count else count)))
      else none
    else none

/-- The moment that a text stands for, all of it. -/
def momentOf? : List Char → Option Moment
  | h :: h' :: ':' :: cs =>
    match readTime 24 (h :: h' :: ':' :: cs) with
    | some (time, []) => some (.time time)
    | _ => none
  | cs => do
    let (date, cs) ← readDate cs
    match cs with
    | [] => pure (.date date)
    | c :: cs =>
      if isDelimiter c then do
        let (time, cs) ← readTime 24 cs
        let offset ← offsetOf? cs
        pure (.both date time offset)
      else none

/-! ## 2. Tables -/

/-- The name that makes a table a moment. -/
def momentMark : String := "$__toml_private_datetime"

/-- What stands under the mark of a table that is a moment. -/
def marked? : Table → Option Value
  | (name, v) :: _ => if name = momentMark then some v else none
  | [] => none

/-- The moment that the value under a mark stands for. -/
def Value.moment? : Value → Option Moment
  | .string text => momentOf? text.toList
  | _ => none

mutual

/-- The value with a moment in place of each table that is one, unless the text of a moment is
not understood. -/
def Value.settle : Value → Option Value
  | .array items => (settleItems items).map .array
  | .table fields =>
    match marked? fields with
    | some v => v.moment?.map .moment
    | none => (settleFields fields).map .table
  | v => some v

/-- The items of an array, settled. -/
def settleItems : List Value → Option (List Value)
  | [] => some []
  | v :: rest => do
    let v ← v.settle
    let rest ← settleItems rest
    pure (v :: rest)

/-- The fields of a table, settled. -/
def settleFields : List (String × Value) → Option (List (String × Value))
  | [] => some []
  | (name, v) :: rest => do
    let v ← v.settle
    let rest ← settleFields rest
    pure ((name, v) :: rest)

end

end CallBook.Toml

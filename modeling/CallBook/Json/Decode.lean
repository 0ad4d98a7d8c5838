import CallBook.Json.Printer
import CallBook.Text.Quoted
/-!
# Typed reading of JSON values

A decoder takes a value to a value of a fixed type, or says what it found and what it
expected instead.
-/

namespace CallBook.Json

/-- Why a value cannot be read as a value of some type. -/
inductive DecodeError where
  /-- A value of another kind stands here. -/
  | wrongKind (found : Value) (expected : String)
  /-- An integer stands here, but not one of the type. -/
  | outOfRange (found : Int) (expected : String)
  /-- A field that must be there is not. -/
  | missingField (name : String)
  /-- A list of fields has the wrong length. -/
  | wrongLength (length : Nat) (expected : String)
deriving Repr

/-- How a value found in the wrong place is named. -/
def Value.described : Value → String
  | .null => "null"
  | .bool b => "boolean `" ++ String.ofList (printBool b) ++ "`"
  | .number (.integer i) => "integer `" ++ String.ofList (integer i) ++ "`"
  | .number (.float x) => "floating point `" ++ String.ofList (float x) ++ "`"
  | .string s => "string " ++ Text.showQuoted s
  | .array _ => "sequence"
  | .object _ => "map"

/-- What the user is told. -/
def DecodeError.message : DecodeError → String
  | .wrongKind found expected =>
    "invalid type: " ++ found.described ++ ", expected " ++ expected
  | .outOfRange found expected =>
    "invalid value: integer `" ++ String.ofList (integer found) ++ "`, expected " ++ expected
  | .missingField name => "missing field `" ++ name ++ "`"
  | .wrongLength length expected =>
    "invalid length " ++ toString length ++ ", expected " ++ expected

/-- Reads a value as a value of a type. -/
abbrev Decoder (α : Type) := Value → Except DecodeError α

namespace Decoder

/-- A string, called `expected` where it is missing. -/
def text (expected : String) : Decoder String
  | .string s => .ok s
  | v => .error (.wrongKind v expected)

def string : Decoder String := text "a string"

def bool : Decoder Bool
  | .bool b => .ok b
  | v => .error (.wrongKind v "a boolean")

/-- A natural number up to `bound`; the type is called `expected`. -/
def nat (bound : Nat) (expected : String) : Decoder Nat
  | .number (.integer i) =>
    if 0 ≤ i ∧ i ≤ bound then .ok i.toNat else .error (.outOfRange i expected)
  | v => .error (.wrongKind v expected)

/-- Nothing where the value is null. -/
def optional {α : Type} (decode : Decoder α) : Decoder (Option α)
  | .null => .ok none
  | v => (decode v).map some

/-- Texts by name. -/
def texts : Decoder (List (String × String))
  | .object fields =>
    fields.mapM fun (name, v) => do
      let s ← string v
      pure (name, s)
  | v => .error (.wrongKind v "a map")

end Decoder

end CallBook.Json

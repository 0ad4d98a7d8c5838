import CallBook.Calendar
import CallBook.Json.Value
/-!
# TOML values

The fields of a table stand in the order of the document, each name once.  `toJson` gives the
JSON value that a TOML value corresponds to: dates and times become text, and floating-point
numbers that JSON does not have become null.
-/

namespace CallBook.Toml

open Calendar (Moment)

/-- A TOML value.  A floating-point number is `none` where it is infinite or no number. -/
inductive Value where
  | string (value : String)
  | integer (value : Int)
  | float (value : Option Binary64)
  | bool (value : Bool)
  | moment (value : Moment)
  | array (items : List Value)
  | table (fields : List (String × Value))
deriving Repr, BEq

/-- The fields of a table in the order of the document. -/
abbrev Table := List (String × Value)

mutual

/-- The JSON value that a TOML value corresponds to. -/
def Value.toJson : Value → Json.Value
  | .string s => .string s
  | .integer i => .number (.integer i)
  | .float (some x) => .number (.float x)
  | .float none => .null
  | .bool b => .bool b
  | .moment m => .string (String.ofList m.text)
  | .array items => .array (itemsToJson items)
  | .table fields => .object (Json.Fields.ofList (fieldsToJson fields))

/-- The items of an array as JSON values. -/
def itemsToJson : List Value → List Json.Value
  | [] => []
  | v :: rest => v.toJson :: itemsToJson rest

/-- The fields of a table as JSON values, in the order of the table. -/
def fieldsToJson : List (String × Value) → List (String × Json.Value)
  | [] => []
  | (name, v) :: rest => (name, v.toJson) :: fieldsToJson rest

end

end CallBook.Toml

import CallBook.Number.Binary64
/-!
# JSON values

The fields of an object stand in the order of their names, each name once: `insert` keeps
that order, and every function of this library that builds an object goes through it.
-/

namespace CallBook.Json

/-- A number is an integer or a binary floating-point number; `1` and `1.0` differ. -/
inductive Number where
  | integer (value : Int)
  | float (value : Binary64)
deriving Repr, DecidableEq

/-- A JSON value. -/
inductive Value where
  | null
  | bool (value : Bool)
  | number (value : Number)
  | string (value : String)
  | array (items : List Value)
  | object (fields : List (String × Value))
deriving Repr, BEq

/-- The fields of an object, or of any record. -/
abbrev Fields := List (String × Value)

namespace Fields

/-- The value of a field. -/
def get? (fields : Fields) (name : String) : Option Value := fields.lookup name

/-- The fields without one name. -/
def erase (fields : Fields) (name : String) : Fields := fields.filter (·.1 != name)

/-- The fields with one name set, in the order of the names. -/
def insert : Fields → String → Value → Fields
  | [], name, value => [(name, value)]
  | (k, v) :: rest, name, value =>
    if name < k then (name, value) :: (k, v) :: rest
    else if name = k then (name, value) :: rest
    else (k, v) :: insert rest name value

/-- The fields that a list of assignments leaves, the later ones winning. -/
def ofList (assignments : List (String × Value)) : Fields :=
  assignments.foldl (fun fields (name, value) => insert fields name value) []

/-- The names stand in strictly ascending order. -/
def Ascending (fields : Fields) : Prop := (fields.map (·.1)).Pairwise (· < ·)

end Fields

namespace Value

/-- The text of a string value. -/
def text? : Value → Option String
  | string s => some s
  | _ => none

/-- The value of a field, if the value is an object that has it. -/
def field? : Value → String → Option Value
  | object fields, name => Fields.get? fields name
  | _, _ => none

end Value

end CallBook.Json

import CallBook.Json.Value
import CallBook.Template.Substitute
/-!
# Substitution in JSON values

Every string of a value is a template; everything else, the names of fields included, stays
as it is.  Items are visited in order and fields in the order of their names, so the error is
that of the first failing string.
-/

namespace CallBook.Template

open Json (Value)

mutual

/-- A value with `leaf` applied to its strings. -/
def mapStrings {ε : Type} (leaf : String → Except ε String) : Value → Except ε Value
  | .string s => (leaf s).map .string
  | .array items => (mapItems leaf items).map .array
  | .object fields => (mapFields leaf fields).map .object
  | .null => .ok .null
  | .bool b => .ok (.bool b)
  | .number n => .ok (.number n)

/-- Items with `leaf` applied to their strings. -/
def mapItems {ε : Type} (leaf : String → Except ε String) :
    List Value → Except ε (List Value)
  | [] => .ok []
  | v :: vs =>
    match mapStrings leaf v with
    | .error e => .error e
    | .ok w =>
      match mapItems leaf vs with
      | .error e => .error e
      | .ok ws => .ok (w :: ws)

/-- Fields with `leaf` applied to the strings of their values. -/
def mapFields {ε : Type} (leaf : String → Except ε String) :
    List (String × Value) → Except ε (List (String × Value))
  | [] => .ok []
  | (k, v) :: rest =>
    match mapStrings leaf v with
    | .error e => .error e
    | .ok w =>
      match mapFields leaf rest with
      | .error e => .error e
      | .ok ws => .ok ((k, w) :: ws)

end

/-- A value with every string substituted. -/
def walk (scope : Scope) (v : Value) : Except Unresolved Value :=
  mapStrings (substitute scope) v

/-- A value substituted if it is a string, and unchanged otherwise. -/
def substituteString (scope : Scope) : Value → Except Unresolved Value
  | .string s => (substitute scope s).map .string
  | v => .ok v

end CallBook.Template

import CallBook.Proofs.Template.Outcome
import CallBook.Request.Notes
/-!
# Substitution in values, leaf by leaf

`strings` lists the strings of a value in the order in which they are visited, and `mapText`
changes each of them and nothing else.  Substituting in a value is then the same equation as
substituting in a text: the first value that is missing in `strings` decides, and otherwise
`mapText` puts the texts in their places (`walk_eq`).
-/

namespace CallBook

namespace Json

mutual

/-- The value with each of its strings changed, the names of fields apart. -/
def Value.mapText (f : String → String) : Value → Value
  | .string s => .string (f s)
  | .array items => .array (mapTextItems f items)
  | .object fields => .object (mapTextFields f fields)
  | .null => .null
  | .bool b => .bool b
  | .number n => .number n

/-- Items with their strings changed. -/
def mapTextItems (f : String → String) : List Value → List Value
  | [] => []
  | v :: vs => v.mapText f :: mapTextItems f vs

/-- Fields with the strings of their values changed. -/
def mapTextFields (f : String → String) : Fields → Fields
  | [] => []
  | (k, v) :: rest => (k, v.mapText f) :: mapTextFields f rest

end

end Json

namespace Template

open Json (Value Fields mapTextItems mapTextFields)

/-! ## 1. The equation of a walk -/

mutual

theorem mapStrings_substitute (scope : Scope) : ∀ v : Value,
    mapStrings (substitute scope) v =
      match scope.firstMissing? (strings v) with
      | some name => .error ⟨name⟩
      | none => .ok (v.mapText scope.text)
  | .string s => by
    rw [mapStrings, substitute_eq, strings, Value.mapText]
    cases scope.firstMissing? [s] <;> rfl
  | .array items => by
    rw [mapStrings, mapItems_substitute scope items, strings, Value.mapText]
    cases scope.firstMissing? (itemStrings items) <;> rfl
  | .object fields => by
    rw [mapStrings, mapFields_substitute scope fields, strings, Value.mapText]
    cases scope.firstMissing? (fieldStrings fields) <;> rfl
  | .null => rfl
  | .bool _ => rfl
  | .number _ => rfl

theorem mapItems_substitute (scope : Scope) : ∀ items : List Value,
    mapItems (substitute scope) items =
      match scope.firstMissing? (itemStrings items) with
      | some name => .error ⟨name⟩
      | none => .ok (mapTextItems scope.text items)
  | [] => rfl
  | v :: vs => by
    rw [mapItems, mapStrings_substitute scope v, mapItems_substitute scope vs, itemStrings,
      Scope.firstMissing?_append, mapTextItems]
    cases scope.firstMissing? (strings v) with
    | some name => rfl
    | none => cases scope.firstMissing? (itemStrings vs) <;> rfl

theorem mapFields_substitute (scope : Scope) : ∀ fields : Fields,
    mapFields (substitute scope) fields =
      match scope.firstMissing? (fieldStrings fields) with
      | some name => .error ⟨name⟩
      | none => .ok (mapTextFields scope.text fields)
  | [] => rfl
  | (k, v) :: rest => by
    rw [mapFields, mapStrings_substitute scope v, mapFields_substitute scope rest, fieldStrings,
      Scope.firstMissing?_append, mapTextFields]
    cases scope.firstMissing? (strings v) with
    | some name => rfl
    | none => cases scope.firstMissing? (fieldStrings rest) <;> rfl

end

/-- **Substituting in a value.**  The first value that is missing in its strings decides. -/
theorem walk_eq (scope : Scope) (v : Value) :
    walk scope v =
      match scope.firstMissing? (strings v) with
      | some name => .error ⟨name⟩
      | none => .ok (v.mapText scope.text) :=
  mapStrings_substitute scope v

end Template

end CallBook

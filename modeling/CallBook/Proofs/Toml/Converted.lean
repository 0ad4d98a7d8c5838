import CallBook.Proofs.Json.Fields
import CallBook.Proofs.Toml.Distinct
/-!
# What values of a document are converted to

`Converts` says it without the order in which a table is gone through: arrays keep their length
and their order, tables keep their names, and every string, truth value, integer and finite number
stays what it is.  Only numbers that are not finite become null, and only moments become text.

Where names are distinct a value is converted to exactly one value, which is the one that `toJson`
gives (`converts_iff`).
-/

namespace CallBook.Toml

open Json (Fields)

/-- A value of a document, and the value that it is converted to. -/
inductive Converts : Value → Json.Value → Prop
  | string (s : String) : Converts (.string s) (.string s)
  | integer (i : Int) : Converts (.integer i) (.number (.integer i))
  | float (x : Binary64) : Converts (.float (some x)) (.number (.float x))
  | notFinite : Converts (.float none) .null
  | bool (b : Bool) : Converts (.bool b) (.bool b)
  | moment (m : Calendar.Moment) : Converts (.moment m) (.string (String.ofList m.text))
  /-- Item by item. -/
  | array {items : List Value} {converted : List Json.Value} :
      List.Forall₂ Converts items converted → Converts (.array items) (.array converted)
  /-- Name by name; the fields stand in the order of their names. -/
  | table {fields : Table} {converted : Fields} :
      Fields.Ascending converted →
      (∀ name, Option.Rel Converts (fields.lookup name) (Fields.get? converted name)) →
        Converts (.table fields) (.object converted)

/-! ## 1. Fields of tables -/

theorem fieldsToJson_eq_map : ∀ fields : Table,
    fieldsToJson fields = fields.map fun (name, v) => (name, v.toJson)
  | [] => rfl
  | (name, v) :: rest => by rw [fieldsToJson, fieldsToJson_eq_map rest, List.map_cons]

/-- The names of the fields stay. -/
theorem names_fieldsToJson (fields : Table) :
    (fieldsToJson fields).map (·.1) = fields.map (·.1) := by
  rw [fieldsToJson_eq_map, List.map_map]
  rfl

theorem lookup_fieldsToJson (name : String) : ∀ fields : Table,
    (fieldsToJson fields).lookup name = (fields.lookup name).map Value.toJson
  | [] => rfl
  | (k, v) :: rest => by
    rw [fieldsToJson, List.lookup_cons, List.lookup_cons, lookup_fieldsToJson name rest]
    split <;> rfl

/-- Where names are distinct, the converted field of a name is the field of the name,
converted. -/
theorem get?_ofList_fieldsToJson {fields : Table} (h : NamesDistinct fields) (name : String) :
    Fields.get? (Fields.ofList (fieldsToJson fields)) name =
      (fields.lookup name).map Value.toJson := by
  have hnames : ((fieldsToJson fields).map (·.1)).Nodup := by rwa [names_fieldsToJson]
  rw [Fields.get?_ofList, ← lookup_fieldsToJson]
  exact Fields.get?_of_perm (List.reverse_perm _) hnames name

/-! ## 2. Conversion -/

theorem option_rel_map {α β : Type} {R : α → β → Prop} {f : α → β} {a : Option α}
    (h : ∀ x ∈ a, R x (f x)) : Option.Rel R a (a.map f) := by
  cases a with
  | none => exact .none
  | some x => exact .some (h x rfl)

mutual

/-- Where names are distinct `toJson` converts a value, -/
theorem Value.toJson_converts : ∀ {v : Value}, v.Distinct → Converts v v.toJson
  | .string s, _ => .string s
  | .integer i, _ => .integer i
  | .float (some x), _ => .float x
  | .float none, _ => .notFinite
  | .bool b, _ => .bool b
  | .moment m, _ => .moment m
  | .array items, h => .array (itemsToJson_converts h.of_array)
  | .table fields, h => by
    obtain ⟨hnames, hbelow⟩ := h.of_table
    refine .table (Fields.ascending_ofList _) fun name => ?_
    rw [get?_ofList_fieldsToJson hnames]
    exact option_rel_map (lookup_converts hbelow)

theorem itemsToJson_converts : ∀ {items : List Value}, (∀ v ∈ items, v.Distinct) →
    List.Forall₂ Converts items (itemsToJson items)
  | [], _ => .nil
  | v :: rest, h => by
    obtain ⟨hv, hrest⟩ := List.forall_mem_cons.1 h
    exact .cons (Value.toJson_converts hv) (itemsToJson_converts hrest)

theorem lookup_converts : ∀ {fields : Table}, (∀ f ∈ fields, f.2.Distinct) →
    ∀ {name : String}, ∀ v ∈ fields.lookup name, Converts v v.toJson
  | (k, v) :: rest, h, name, w, hw => by
    obtain ⟨hv, hrest⟩ := List.forall_mem_cons.1 h
    rw [List.lookup_cons] at hw
    split at hw
    · cases hw
      exact Value.toJson_converts hv
    · exact lookup_converts hrest w hw

end

mutual

/-- and a value is converted to one value at most. -/
theorem Converts.unique : ∀ {v : Value} {w w' : Json.Value}, Converts v w → Converts v w' → w = w'
  | .string s, _, _, .string _, .string _ => rfl
  | .integer i, _, _, .integer _, .integer _ => rfl
  | .float (some x), _, _, .float _, .float _ => rfl
  | .float none, _, _, .notFinite, .notFinite => rfl
  | .bool b, _, _, .bool _, .bool _ => rfl
  | .moment m, _, _, .moment _, .moment _ => rfl
  | .array _, _, _, .array h, .array h' => congrArg Json.Value.array (forall₂_unique h h')
  | .table _, _, _, .table hasc h, .table hasc' h' =>
    congrArg Json.Value.object (Fields.eq_of_get?_eq hasc hasc' fun name =>
      lookup_unique (h name) (h' name))

theorem forall₂_unique : ∀ {items : List Value} {ws ws' : List Json.Value},
    List.Forall₂ Converts items ws → List.Forall₂ Converts items ws' → ws = ws'
  | [], _, _, .nil, .nil => rfl
  | v :: rest, _, _, .cons h hs, .cons h' hs' => by
    rw [Converts.unique h h', forall₂_unique hs hs']

theorem lookup_unique : ∀ {fields : Table} {name : String} {w w' : Option Json.Value},
    Option.Rel Converts (fields.lookup name) w → Option.Rel Converts (fields.lookup name) w' →
      w = w'
  | [], _, _, _, .none, .none => rfl
  | (k, v) :: rest, name, w, w', h, h' => by
    cases hname : name == k with
    | true =>
      simp only [List.lookup_cons, hname] at h h'
      cases h with
      | some h =>
        cases h' with
        | some h' => rw [Converts.unique h h']
    | false =>
      simp only [List.lookup_cons, hname] at h h'
      exact lookup_unique h h'

end

/-- **A value with distinct names is converted to what `toJson` gives**, and to nothing else. -/
theorem converts_iff {v : Value} {w : Json.Value} (h : v.Distinct) :
    Converts v w ↔ v.toJson = w := by
  constructor
  · exact (Value.toJson_converts h).unique
  · rintro rfl
    exact Value.toJson_converts h

end CallBook.Toml

import CallBook.Proofs.Json.ReadBack
import CallBook.Proofs.Request.Outcome
import CallBook.Proofs.Results
import CallBook.Proofs.Template.Paths
/-!
# The text of headers

Headers that can be resolved are a bearer string, nothing, or an object.  An object has one header
for each of its fields, under the same name.  A field that is a string is a template of its own.
Any other field has its strings substituted and is written as JSON afterwards, so no text that is
put in can break out of the quotes around it.

The last is said by reading the text again: what is read is the value that was written, whatever
the variables hold, if this is so of the field before its strings were substituted
(`parse_compact_mapText`).  That condition is on its numbers, its depth and the order of its fields,
and a change of strings changes none of them (`rereads_mapText`, by induction on the depth).
-/

namespace CallBook

namespace Json

/-! ## 1. A change of strings and what is read -/

theorem mapTextItems_eq_map (f : String → String) (items : List Value) :
    mapTextItems f items = items.map (Value.mapText f) := by
  induction items with
  | nil => rfl
  | cons v vs ih => rw [mapTextItems, ih, List.map_cons]

theorem mapTextFields_eq_map (f : String → String) (fields : Fields) :
    mapTextFields f fields = fields.map fun e => (e.1, e.2.mapText f) := by
  induction fields with
  | nil => rfl
  | cons e rest ih =>
    obtain ⟨k, v⟩ := e
    rw [mapTextFields, ih, List.map_cons]

theorem ascending_mapTextFields (f : String → String) {fields : Fields} :
    Fields.Ascending (mapTextFields f fields) ↔ Fields.Ascending fields := by
  rw [Fields.Ascending, Fields.Ascending, mapTextFields_eq_map, List.map_map]
  rfl

/-- Whether a value is read as it was written does not depend on its strings. -/
theorem rereads_mapText (f : String → String) : ∀ (depth : Nat) (v : Value),
    Rereads depth (v.mapText f) (v.mapText f) ↔ Rereads depth v v
  | _, .null => by rw [Value.mapText]
  | _, .bool b => by rw [Value.mapText]
  | _, .number n => by rw [Value.mapText]
  | _, .string s => by rw [Value.mapText, Rereads, Rereads, eq_self, eq_self]
  | 0, .array items => by rw [Value.mapText, Rereads, Rereads]
  | 0, .object fields => by rw [Value.mapText, Rereads, Rereads]
  | depth + 1, .array items => by
    rw [Value.mapText, rereads_array_self, rereads_array_self, mapTextItems_eq_map,
      List.forall_mem_map]
    exact forall₂_congr fun v _ => rereads_mapText f depth v
  | depth + 1, .object fields => by
    rw [Value.mapText, rereads_object_self, rereads_object_self, ascending_mapTextFields,
      mapTextFields_eq_map, List.forall_mem_map]
    exact and_congr_right' (forall₂_congr fun e _ => rereads_mapText f depth e.2)

/-- **A change of strings does not change whether the text of a value can be read back.** -/
theorem parse_compact_mapText (f : String → String) (v : Value) :
    parse (v.mapText f).compact = .ok (v.mapText f) ↔ parse v.compact = .ok v := by
  rw [parse_compact_iff, parse_compact_iff, rereads_mapText]

end Json

open Json (Value Fields)

theorem Template.eq_mapText_of_walk {scope : Scope} {v w : Value} (h : walk scope v = .ok w) :
    w = v.mapText scope.text := by
  rw [walk_eq] at h
  cases hmissing : scope.firstMissing? (strings v) with
  | some name => simp only [hmissing, reduceCtorEq] at h
  | none =>
    simp only [hmissing, Except.ok.injEq] at h
    exact h.symm

namespace Entry

/-! ## 2. The headers of an entry -/

/-- How the value of a field becomes the text of a header. -/
inductive Rendered (scope : Scope) : Value → String → Prop
  /-- A string is a template. -/
  | template {s text : String} :
      Template.substitute scope s = .ok text → Rendered scope (.string s) text
  /-- Anything else is written with its strings substituted, and what is read from the text is
  what was written, if this is so of the value itself. -/
  | written {v w : Value} : (∀ s, v ≠ .string s) →
      Template.walk scope v = .ok w →
      (∀ path, Option.Rel (Template.Becomes (Template.substitute scope)) (v.at? path)
        (w.at? path)) →
      (Json.parse w.compact = .ok w ↔ Json.parse v.compact = .ok v) →
        Rendered scope v w.compact

variable {scope : Scope} {e : Entry} {headers : List (String × String)}

theorem rendered_of_walk {v w : Value} (h : Template.walk scope v = .ok w) :
    Rendered scope v (headerText w) := by
  have hpaths := Template.at?_of_mapStrings h
  have hreads : Json.parse w.compact = .ok w ↔ Json.parse v.compact = .ok v := by
    rw [Template.eq_mapText_of_walk h]
    exact Json.parse_compact_mapText scope.text v
  cases Template.becomes_of_mapStrings h with
  | string hs => exact .template hs
  | _ => exact .written (fun s hs => by cases hs) h hpaths hreads

theorem resolveHeaders_of_mark {rest : List Char} (h : e.resolveHeaders scope = .ok headers)
    (hmark : e.headers = .string (bearerMark ++ String.ofList rest)) :
    ∃ token, Template.substitute scope (String.ofList (Text.trim rest)) = .ok token ∧
      headers = bearerHeaders token := by
  rw [resolveHeaders, bearer?_of_mark hmark] at h
  obtain ⟨token, htoken, rfl⟩ := map_eq_ok h
  exact ⟨token, mapError_eq_ok htoken, rfl⟩

theorem resolveHeaders_of_null (h : e.resolveHeaders scope = .ok headers)
    (hnull : e.headers = .null) : headers = [] := by
  rw [resolveHeaders, bearer?_eq_none (by simp [hnull]), hnull] at h
  cases h
  rfl

/-- An object has a header for each field. -/
theorem resolveHeaders_of_object {fields : Fields} (h : e.resolveHeaders scope = .ok headers)
    (hobject : e.headers = .object fields) :
    List.Forall₂ (fun field header => header.1 = field.1 ∧ Rendered scope field.2 header.2)
      fields headers := by
  rw [resolveHeaders, bearer?_eq_none (by simp [hobject]), hobject] at h
  cases hwalk : Template.walk scope (.object fields) with
  | error cause => simp only [hwalk, Except.mapError, reduceCtorEq] at h
  | ok w =>
    obtain ⟨fields', hfields, rfl⟩ := map_eq_ok hwalk
    simp only [hwalk, Except.mapError, Except.ok.injEq] at h
    subst h
    refine List.forall₂_map_right_iff.2 ((Template.forall₂_of_mapFields hfields).imp ?_)
    rintro ⟨k, v⟩ ⟨l, w⟩ ⟨hname, hvalue⟩
    exact ⟨hname, rendered_of_walk hvalue⟩

/-- Only headers that mean something can be resolved. -/
theorem kind_of_resolveHeaders (h : e.resolveHeaders scope = .ok headers) :
    (∃ rest, e.headers = .string (bearerMark ++ String.ofList rest)) ∨ e.headers = .null ∨
      ∃ fields, e.headers = .object fields := by
  obtain ⟨templates, meaning, hmean⟩ := exists_headersMean scope.text e.headers
  have heq := resolveHeaders_eq hmean
  generalize e.headers = v at hmean heq ⊢
  cases hmean with
  | bearer rest => exact Or.inl ⟨rest, rfl⟩
  | absent => exact Or.inr (Or.inl rfl)
  | object fields => exact Or.inr (Or.inr ⟨fields, rfl⟩)
  | meaningless _ _ _ =>
    rw [h] at heq
    split at heq
    · cases heq
    · cases heq

/-- **What headers come to.**  A string that begins with the mark stands for a token and a content
type, nothing stands for no headers, and an object has a header for each of its fields.  There is
no other kind that can be resolved. -/
theorem resolveHeaders_outcome (h : e.resolveHeaders scope = .ok headers) :
    (∀ rest, e.headers = .string ("BEARER " ++ String.ofList rest) →
      ∃ token, Template.substitute scope (String.ofList (Text.trim rest)) = .ok token ∧
        headers = [("Authorization", "Bearer " ++ token), ("Content-Type", "application/json")]) ∧
    (e.headers = .null → headers = []) ∧
    (∀ fields, e.headers = .object fields →
      List.Forall₂ (fun field header => header.1 = field.1 ∧ Rendered scope field.2 header.2)
        fields headers) ∧
    ((∃ rest, e.headers = .string ("BEARER " ++ String.ofList rest)) ∨ e.headers = .null ∨
      ∃ fields, e.headers = .object fields) := by
  refine ⟨?_, resolveHeaders_of_null h, ?_, kind_of_resolveHeaders h⟩
  · intro rest hmark
    exact resolveHeaders_of_mark h hmark
  · intro fields hobject
    exact resolveHeaders_of_object h hobject

/-- A field that is not a string but has one in it. -/
def signature : Value := .object [("by", .string "$NAME"), ("key", .number (.integer 3))]

theorem parse_compact_signature : Json.parse signature.compact = .ok signature := by
  refine Json.parse_compact_iff.2 (Json.rereads_object_self.2 ⟨?_, ?_⟩)
  · rw [Fields.Ascending]
    decide
  · exact List.forall_mem_cons.2 ⟨rfl, List.forall_mem_cons.2 ⟨rfl, List.forall_mem_nil _⟩⟩

/-- Headers of which one is that field and one is a string. -/
def signed : Entry :=
  { named "mail" "send" with
    headers := .object [("X-Signature", signature), ("X-User", .string "$NAME")] }

/-- A quote, a backslash and a line feed that are put in are escaped inside the object, and there
alone.  What is read from that header is the object with the name in it. -/
theorem resolveHeaders_outcome_of_signed :
    signed.resolveHeaders ⟨.ofList [("NAME", "a\"\\\n")], .empty, .empty⟩ =
      .ok [("X-Signature", "\x7b\"by\":\"a\\\"\\\\\\n\",\"key\":3\x7d"), ("X-User", "a\"\\\n")] ∧
    ∃ w, Template.walk ⟨.ofList [("NAME", "a\"\\\n")], .empty, .empty⟩ signature = .ok w ∧
      Json.parse "\x7b\"by\":\"a\\\"\\\\\\n\",\"key\":3\x7d" = .ok w := by
  have hresolve : signed.resolveHeaders ⟨.ofList [("NAME", "a\"\\\n")], .empty, .empty⟩ =
      .ok [("X-Signature", "\x7b\"by\":\"a\\\"\\\\\\n\",\"key\":3\x7d"), ("X-User", "a\"\\\n")] :=
    eq_ok_of_toOption (by decide +kernel)
  refine ⟨hresolve, ?_⟩
  obtain ⟨-, -, hobject, -⟩ := resolveHeaders_outcome hresolve
  cases hobject _ rfl with
  | cons hfirst _ =>
    obtain ⟨-, hrendered⟩ := hfirst
    generalize "\x7b\"by\":\"a\\\"\\\\\\n\",\"key\":3\x7d" = text at hrendered
    cases hrendered with
    | written _ hwalk _ hback => exact ⟨_, hwalk, hback.2 parse_compact_signature⟩

end Entry

end CallBook

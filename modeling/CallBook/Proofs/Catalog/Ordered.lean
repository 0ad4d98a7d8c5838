import CallBook.Catalog.Loader
import CallBook.Proofs.Json.Ordered
/-!
# The headers of loaded entries are ordered

Whatever the format of a catalog, the values in its records are ordered: a tabular catalog
reads them as JSON or keeps them as text, and a structured one converts them from TOML, where a
table becomes an object through `Json.Fields.ofList`.  So the fields of the headers of every
entry that is loaded stand in the order of their names, at every depth
(`Loader.headers_ordered`).
-/

namespace CallBook

open Json (Fields)

/-! ## 1. Values of a TOML document -/

namespace Toml

mutual

/-- **A TOML value becomes an ordered value.** -/
theorem Value.toJson_ordered : ∀ v : Value, v.toJson.Ordered
  | .string s => .string s
  | .integer i => .number (.integer i)
  | .float (some x) => .number (.float x)
  | .float none => .null
  | .bool b => .bool b
  | .moment m => .string (String.ofList m.text)
  | .array items => .array (itemsToJson_ordered items)
  | .table fields => .ofList (fieldsToJson_ordered fields)

theorem itemsToJson_ordered : ∀ items : List Value, ∀ v ∈ itemsToJson items, v.Ordered
  | [] => List.forall_mem_nil _
  | w :: rest => by
    rw [itemsToJson]
    exact List.forall_mem_cons.2 ⟨Value.toJson_ordered w, itemsToJson_ordered rest⟩

theorem fieldsToJson_ordered : ∀ fields : List (String × Value),
    ∀ e ∈ fieldsToJson fields, e.2.Ordered
  | [] => List.forall_mem_nil _
  | (name, w) :: rest => by
    rw [fieldsToJson]
    exact List.forall_mem_cons.2 ⟨Value.toJson_ordered w, fieldsToJson_ordered rest⟩

end

end Toml

/-! ## 2. Records -/

theorem Entry.ofRecord_headers_ordered {record : Fields} (h : ∀ e ∈ record, e.2.Ordered) :
    (Entry.ofRecord record).headers.Ordered := by
  cases hget : Fields.get? record "headers" with
  | none => simpa [Entry.ofRecord, hget] using Json.Value.Ordered.null
  | some v => simpa [Entry.ofRecord, hget] using h _ (Fields.mem_of_get? hget)

namespace Catalog

theorem Tabular.decode_ordered (column field : String) :
    (Tabular.decode column field).Ordered := by
  unfold Tabular.decode
  split
  · exact .null
  · split
    · unfold Tabular.jsonOrText
      split
      · rename_i hparse
        exact Json.parse_ordered hparse
      · exact .string field
    · exact .string field

theorem Tabular.record_ordered {columns : List String} {line : List Char} :
    ∀ e ∈ Tabular.record columns line, e.2.Ordered := by
  intro e he
  obtain ⟨⟨column, field⟩, -, rfl⟩ := List.mem_map.1 (Fields.mem_of_mem_ofList he)
  exact Tabular.decode_ordered column field

theorem Structured.ownFields_ordered (v : Toml.Value) :
    ∀ e ∈ Structured.ownFields v, e.2.Ordered := by
  intro e he
  have hv := v.toJson_ordered
  unfold Structured.ownFields at he
  split at he
  · rename_i hfields
    rw [hfields] at hv
    cases hv with
    | object _ hall => exact hall e he
  · exact absurd he List.not_mem_nil

theorem Structured.identity_ordered (id : String) :
    ∀ e ∈ Structured.identity id, e.2.Ordered := by
  intro e he
  unfold Structured.identity at he
  split at he
  · simp only [List.mem_cons, List.not_mem_nil, or_false] at he
    rcases he with rfl | rfl <;> exact .string _
  · rw [List.mem_singleton.1 he]
    exact .string _
  · exact absurd he List.not_mem_nil

theorem Structured.record_ordered {id : String} {v : Toml.Value} :
    ∀ e ∈ Structured.record id v, e.2.Ordered := by
  intro e he
  rcases Fields.mem_foldl_insert he with he | he
  · exact Structured.identity_ordered id e he
  · exact Structured.ownFields_ordered v e he

/-! ## 3. Catalogs -/

theorem Tabular.headers_ordered {text : String} :
    ∀ e ∈ Tabular.entries text, e.headers.Ordered := by
  intro e he
  obtain ⟨record, hrecord, rfl⟩ := List.mem_map.1 he
  obtain ⟨line, -, rfl⟩ := List.mem_map.1 hrecord
  exact Entry.ofRecord_headers_ordered Tabular.record_ordered

theorem Structured.headers_ordered {document : Toml.Table} :
    ∀ e ∈ Structured.ofTable document, e.headers.Ordered := by
  intro e he
  unfold Structured.ofTable at he
  split at he
  · obtain ⟨⟨id, v⟩, -, rfl⟩ := List.mem_map.1 he
    exact Entry.ofRecord_headers_ordered Structured.record_ordered
  · exact absurd he List.not_mem_nil

theorem parse_headers_ordered {complaint : String → String} {path text : String}
    {entries : List Entry} (h : parse complaint path text = .ok entries) : ∀ e ∈ entries, e.headers.Ordered := by
  unfold parse at h
  split at h
  · split at h
    · rename_i hentries
      cases h
      obtain ⟨document, -, rfl⟩ := Option.map_eq_some_iff.1 hentries
      exact Structured.headers_ordered
    · cases h
  · cases h
    exact Tabular.headers_ordered

/-- **The headers of every entry that is loaded are ordered**, whichever file it is from. -/
theorem Loader.headers_ordered {l : Loader} {files : Files} {explicit : Option String}
    {entries : List Entry} (h : l.entries files explicit = .ok entries) :
    ∀ e ∈ entries, e.headers.Ordered := by
  unfold Loader.entries at h
  split at h
  · unfold load at h
    split at h
    · cases h
    · exact parse_headers_ordered h
  · cases h
    simp

end Catalog

end CallBook

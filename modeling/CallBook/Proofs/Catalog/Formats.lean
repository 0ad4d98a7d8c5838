import Mathlib
import CallBook.Book
import CallBook.Proofs.Catalog.Sheet
import CallBook.Proofs.Entry.Listed
import CallBook.Proofs.Json.ReadBack
import CallBook.Proofs.Toml.Converted
/-!
# One call in two formats

A call can be written as a row of a tabular catalog and as a table of a structured one.  `Call`
is a call that can: its service and name have no dot, since the key of the table is cut at dots,
and no text of it would be read as something else in a row.

Reading the row and reading the table are two ways to a record.  `IsRecord` says what both
records have to be, and that is all an entry is made from.  So both formats give the same one
entry (`formats_agree`), however the row is written and in whatever order the fields of the table
stand, and with it the same requests.
-/

namespace CallBook.Catalog

open Toml (fieldsToJson_eq_map)
open Json (Fields)

/-! ## 1. Calls and how they are written -/

/-- A text that can stand in a row: on one line, and not the word for no value. -/
def Writable (s : String) : Prop := s ≠ "null" ∧ '\n' ∉ s.toList

/-- A text that can stand outside the body, where it must not look like JSON either. -/
def Plain (s : String) : Prop := Writable s ∧ s.toList.head? ≠ some '{'

instance (s : String) : Decidable (Writable s) :=
  inferInstanceAs (Decidable (s ≠ "null" ∧ '\n' ∉ s.toList))

instance (s : String) : Decidable (Plain s) :=
  inferInstanceAs (Decidable (Writable s ∧ s.toList.head? ≠ some '{'))

/-- The headers of a call.  Of two headers of one name the later counts. -/
inductive Headers where
  | absent
  | text (s : String)
  | map (texts : List (String × String))

namespace Headers

/-- Headers that are a text can stand in a row as they are. -/
def Plain : Headers → Prop
  | text s => Catalog.Plain s
  | _ => True

/-- The headers as fields of an object. -/
def fields (texts : List (String × String)) : Fields :=
  Fields.ofList (texts.map fun (name, s) => (name, .string s))

/-- The value of the headers, if there are any. -/
def value? : Headers → Option Json.Value
  | absent => none
  | text s => some (.string s)
  | map texts => some (.object (fields texts))

/-- The value of the headers. -/
def value (headers : Headers) : Json.Value := headers.value?.getD .null

/-- The headers as they stand in a row. -/
def cell : Headers → String
  | absent => "null"
  | text s => s
  | map texts => (Json.Value.object (fields texts)).compact

/-- The headers as they stand in a table. -/
def member : Headers → Toml.Table
  | absent => []
  | text s => [("headers", .string s)]
  | map texts => [("headers", .table (texts.map fun (name, s) => (name, .string s)))]

theorem exists_text (texts : List (String × String)) :
    ∀ e ∈ fields texts, ∃ s, e.2 = .string s := by
  intro e he
  obtain ⟨⟨name, s⟩, -, rfl⟩ := List.mem_map.1 (Fields.mem_of_mem_ofList he)
  exact ⟨s, rfl⟩

end Headers

/-- A call that can be written in both formats. -/
structure Call where
  service : String
  name : String
  url : Option String
  method : Option String
  headers : Headers
  body : Option String
  service_dotless : Dotless service
  name_dotless : Dotless name
  service_plain : Plain service
  name_plain : Plain name
  url_plain : ∀ s ∈ url, Plain s
  method_plain : ∀ s ∈ method, Plain s
  headers_plain : headers.Plain
  body_writable : ∀ s ∈ body, Writable s

namespace Call

/-- A text as it stands in a row. -/
def cell (text : Option String) : String := text.getD "null"

/-- A text as it stands in a table: not at all if it is absent. -/
def member (name : String) (text : Option String) : Toml.Table :=
  (text.map fun s => (name, Toml.Value.string s)).toList

/-- The columns of the tabular catalog. -/
def columns : List String := ["service", "name", "url", "method", "headers", "body"]

/-- The fields of the row. -/
def row (c : Call) : List String :=
  [c.service, c.name, cell c.url, cell c.method, c.headers.cell, cell c.body]

/-- The key of the table. -/
def key (c : Call) : String := c.service ++ "." ++ c.name

/-- The fields of the table. -/
def table (c : Call) : Toml.Table :=
  member "url" c.url ++ member "method" c.method ++ c.headers.member ++ member "body" c.body

/-- The entry that the call is. -/
def entry (c : Call) : Entry where
  service := c.service
  name := c.name
  url := c.url
  method := c.method
  headers := c.headers.value
  body := c.body
  extra := []

/-! ## 2. Records of a call -/

/-- The record describes the call and nothing else. -/
structure IsRecord (c : Call) (record : Fields) : Prop where
  service : Entry.fieldText record "service" = some c.service
  name : Entry.fieldText record "name" = some c.name
  url : Entry.fieldText record "url" = c.url
  method : Entry.fieldText record "method" = c.method
  headers : (record.get? "headers").getD .null = c.headers.value
  body : Entry.fieldText record "body" = c.body
  known : ∀ e ∈ record, e.1 ∈ Entry.knownNames

variable {c : Call} {record : Fields}

/-- **A record of a call is read as its entry.** -/
theorem IsRecord.ofRecord (h : c.IsRecord record) : Entry.ofRecord record = c.entry := by
  have hextra : (Entry.ofRecord record).extra = [] :=
    List.filter_eq_nil_iff.2 fun e he => by simp [h.known e he]
  calc Entry.ofRecord record
      = { service := (Entry.fieldText record "service").getD ""
          name := (Entry.fieldText record "name").getD ""
          url := Entry.fieldText record "url"
          method := Entry.fieldText record "method"
          headers := (record.get? "headers").getD .null
          body := Entry.fieldText record "body"
          extra := (Entry.ofRecord record).extra } := rfl
    _ = c.entry := by
        rw [h.service, h.name, h.url, h.method, h.headers, h.body, hextra]
        rfl

theorem fieldText_of_get? {name : String} {text : Option String}
    (h : record.get? name = text.map .string ∨ record.get? name = some (text.elim .null .string)) :
    Entry.fieldText record name = text := by
  cases text <;> rcases h with h | h <;> simp [Entry.fieldText, h]

/-! ## 3. The row -/

theorem decode_text {column s : String} (hnull : s ≠ "null")
    (hbrace : column = "body" ∨ s.toList.head? ≠ some '{') :
    Tabular.decode column s = .string s := by
  rw [Tabular.decode, if_neg hnull, if_neg]
  rintro ⟨hcolumn, hhead⟩
  exact hbrace.elim hcolumn fun h => h hhead

/-- A text is read from its column, and the word `null` as its absence. -/
theorem decode_cell {column : String} {text : Option String}
    (h : ∀ s ∈ text, s ≠ "null" ∧ (column = "body" ∨ s.toList.head? ≠ some '{')) :
    Tabular.decode column (cell text) = text.elim .null .string := by
  cases text with
  | none => rfl
  | some s => exact decode_text (h s rfl).1 (h s rfl).2

/-- **Headers are read from their column**, a map from its JSON text. -/
theorem decode_headers (c : Call) : Tabular.decode "headers" c.headers.cell = c.headers.value := by
  have hplain := c.headers_plain
  generalize c.headers = headers at hplain ⊢
  cases headers with
  | absent => rfl
  | text s => exact decode_text hplain.1.1 (Or.inr hplain.2)
  | map texts =>
    have hparse : Json.parse (Headers.cell (.map texts)) = .ok (Headers.value (.map texts)) := by
      have hfields : Fields.ofList (Headers.fields texts) = Headers.fields texts :=
        Fields.ofList_of_ascending (Fields.ascending_ofList _)
      rw [Headers.cell, Json.parse_compact_object (Headers.exists_text texts), hfields]
      rfl
    have hhead : (Headers.cell (.map texts)).toList.head? = some '{' := by
      rw [Headers.cell, Json.toList_compact_object]
      rfl
    have hnull : Headers.cell (.map texts) ≠ "null" := by
      intro h
      rw [h] at hhead
      exact absurd hhead (by decide)
    rw [Tabular.decode, if_neg hnull, if_pos ⟨by decide, hhead⟩, Tabular.jsonOrText, hparse]

/-- The values of the row, each with its column. -/
def cells (c : Call) : Fields :=
  [("service", .string c.service), ("name", .string c.name), ("url", c.url.elim .null .string),
    ("method", c.method.elim .null .string), ("headers", c.headers.value),
    ("body", c.body.elim .null .string)]

/-- **The row is read as a record of the call.** -/
theorem isRecord_of_row (c : Call) {line : List Char}
    (h : (Tabular.row line).map String.ofList = c.row) :
    c.IsRecord (Tabular.record columns line) := by
  have hservice : Tabular.decode "service" c.service = .string c.service :=
    decode_text c.service_plain.1.1 (Or.inr c.service_plain.2)
  have hname : Tabular.decode "name" c.name = .string c.name :=
    decode_text c.name_plain.1.1 (Or.inr c.name_plain.2)
  have hurl : Tabular.decode "url" (cell c.url) = c.url.elim .null .string :=
    decode_cell fun s hs => ⟨(c.url_plain s hs).1.1, Or.inr (c.url_plain s hs).2⟩
  have hmethod : Tabular.decode "method" (cell c.method) = c.method.elim .null .string :=
    decode_cell fun s hs => ⟨(c.method_plain s hs).1.1, Or.inr (c.method_plain s hs).2⟩
  have hbody : Tabular.decode "body" (cell c.body) = c.body.elim .null .string :=
    decode_cell fun s hs => ⟨(c.body_writable s hs).1, Or.inl rfl⟩
  have hrecord : Tabular.record columns line = Fields.ofList c.cells := by
    rw [Tabular.record, Tabular.cells, h, columns, row]
    simp only [List.zip_cons_cons, List.zip_nil_left, List.map_cons, List.map_nil, hservice, hname,
      hurl, hmethod, hbody, decode_headers, cells]
  have hget : ∀ name, (Tabular.record columns line).get? name = c.cells.reverse.lookup name := by
    intro name
    rw [hrecord, Fields.get?_ofList]
  constructor
  · exact fieldText_of_get? (Or.inl (hget "service"))
  · exact fieldText_of_get? (Or.inl (hget "name"))
  · exact fieldText_of_get? (Or.inr (hget "url"))
  · exact fieldText_of_get? (Or.inr (hget "method"))
  · exact congrArg (Option.getD · .null) (hget "headers")
  · exact fieldText_of_get? (Or.inr (hget "body"))
  · intro e he
    rw [hrecord] at he
    exact List.mem_map_of_mem (f := Prod.fst) (Fields.mem_of_mem_ofList he)

/-- The fields of the rows of a sheet are read from their lines. -/
theorem map_row_rowText : ∀ below : List Sheet.Line,
    (below.filterMap Tabular.rowText?).map (fun line => (Tabular.row line).map String.ofList) =
      below.filterMap Sheet.Line.fields?
  | [] => rfl
  | .blank _ :: below => map_row_rowText below
  | .row first more _ :: below => by
    have ih := map_row_rowText below
    simp only [List.filterMap_cons, Tabular.rowText?, Sheet.Line.fields?, List.map_cons,
      Tabular.row_source, List.map_map, ih]
    rfl

/-- **A sheet with the row gives the entry of the call**, however it is written. -/
theorem entries_of_sheet (c : Call) {s : Sheet} (hkeys : s.keys = columns)
    (hrows : s.rows = [c.row]) : Tabular.entries (String.ofList s.source) = [c.entry] := by
  have htable : Tabular.table (String.ofList s.source) =
      (columns, s.below.filterMap Tabular.rowText?) := by
    rw [Tabular.table, String.toList_ofList, Tabular.contentLines_source, ← hkeys,
      ← Tabular.words_source]
  rw [Sheet.rows, ← map_row_rowText] at hrows
  obtain ⟨line, hlines, hline⟩ := List.map_eq_singleton_iff.1 hrows
  rw [Tabular.entries, Tabular.records, htable, hlines]
  exact congrArg (fun e => [e]) (c.isRecord_of_row hline).ofRecord

/-! ## 4. The table -/

/-- The names in the table of a call. -/
theorem names_table (c : Call) :
    (c.table.map (·.1)).Sublist ["url", "method", "headers", "body"] := by
  have hmember : ∀ name text, ((member name text).map (·.1)).Sublist [name] := by
    intro name text
    cases text with
    | none => exact List.nil_sublist _
    | some s => exact List.Sublist.refl _
  have hheaders : (c.headers.member.map (·.1)).Sublist ["headers"] := by
    cases c.headers with
    | absent => exact List.nil_sublist _
    | text s => exact List.Sublist.refl _
    | map texts => exact List.Sublist.refl _
  rw [table, List.map_append, List.map_append, List.map_append]
  exact (((hmember "url" _).append (hmember "method" _)).append hheaders).append (hmember "body" _)

/-- What the key says of a call. -/
theorem identity_key (c : Call) :
    Structured.identity c.key = [("name", .string c.name), ("service", .string c.service)] := by
  have hkey : Text.splitAt '.' c.key.toList = [c.service.toList, c.name.toList] := by
    rw [key, Entry.toList_dotted, Text.splitAt_append _ c.service_dotless,
      Text.splitAt_of_not_mem c.name_dotless]
  rw [Structured.identity, hkey]
  simp only [String.ofList_toList]

/-- The field of a text has the text, and no other name has. -/
theorem get?_member (name : String) (text : Option String) (other : String) :
    Fields.get? (Toml.fieldsToJson (member name text)) other =
      if other = name then text.map .string else none := by
  cases text with
  | none => simp [member, Toml.fieldsToJson, Fields.get?]
  | some s => exact Fields.get?_cons name other (.string s) []

/-- The field of the headers has their value, and no other name has. -/
theorem get?_headers (headers : Headers) (other : String) :
    Fields.get? (Toml.fieldsToJson headers.member) other =
      if other = "headers" then headers.value? else none := by
  cases headers with
  | absent => simp [Headers.member, Headers.value?, Toml.fieldsToJson, Fields.get?]
  | text s => exact Fields.get?_cons "headers" other (.string s) []
  | map texts =>
    have hvalue : (Toml.Value.table (texts.map fun (name, s) => (name, .string s))).toJson =
        .object (Headers.fields texts) := by
      rw [Toml.Value.toJson, fieldsToJson_eq_map, List.map_map]
      rfl
    rw [Headers.member, Toml.fieldsToJson, hvalue]
    exact Fields.get?_cons "headers" other _ []

theorem get?_fieldsToJson_append (fields others : Toml.Table) (name : String) :
    Fields.get? (Toml.fieldsToJson (fields ++ others)) name =
      (Fields.get? (Toml.fieldsToJson fields) name).or
        (Fields.get? (Toml.fieldsToJson others) name) := by
  rw [fieldsToJson_eq_map, List.map_append, ← fieldsToJson_eq_map, ← fieldsToJson_eq_map]
  exact List.lookup_append

/-- What the table of a call has. -/
theorem get?_table (c : Call) (name : String) :
    Fields.get? (Toml.fieldsToJson c.table) name =
      (((if name = "url" then c.url.map .string else none).or
        (if name = "method" then c.method.map .string else none)).or
        (if name = "headers" then c.headers.value? else none)).or
        (if name = "body" then c.body.map .string else none) := by
  rw [table, get?_fieldsToJson_append, get?_fieldsToJson_append, get?_fieldsToJson_append,
    get?_member, get?_member, get?_headers, get?_member]

section Table

variable {fields : Toml.Table}

theorem fieldsToJson_perm (h : fields.Perm c.table) :
    (Toml.fieldsToJson fields).Perm (Toml.fieldsToJson c.table) := by
  rw [fieldsToJson_eq_map, fieldsToJson_eq_map]
  exact h.map _

/-- The record has the fields of the table, and where the table has none what the key says. -/
theorem get?_record_of_table (h : fields.Perm c.table) (name : String) :
    (Structured.record c.key (.table fields)).get? name =
      (Fields.get? (Toml.fieldsToJson c.table) name).or
        (if name = "name" then some (.string c.name)
          else if name = "service" then some (.string c.service) else none) := by
  have hnames : ((Toml.fieldsToJson c.table).map (·.1)).Nodup := by
    rw [fieldsToJson_eq_map, List.map_map]
    exact c.names_table.nodup (by decide)
  have hown : Structured.ownFields (.table fields) = Fields.ofList (Toml.fieldsToJson fields) := rfl
  -- the last field of a name is the first one, as names are distinct
  have hlast : (Structured.ownFields (.table fields)).reverse.lookup name =
      Fields.get? (Toml.fieldsToJson c.table) name := by
    have hascending := Fields.ascending_ofList (Toml.fieldsToJson fields)
    rw [hown]
    refine (Fields.get?_of_perm (List.reverse_perm _) (Fields.nodup_of_ascending hascending)
      name).trans ?_
    rw [Fields.get?_ofList]
    exact Fields.get?_of_perm ((List.reverse_perm _).trans (fieldsToJson_perm h)) hnames name
  rw [Structured.record, Fields.get?_foldl_insert, hlast, identity_key, Fields.get?_cons,
    Fields.get?_cons]
  rfl

theorem known_of_table (h : fields.Perm c.table) :
    ∀ e ∈ Structured.record c.key (.table fields), e.1 ∈ Entry.knownNames := by
  intro e he
  rcases Fields.mem_foldl_insert he with hidentity | hfield
  · rw [identity_key] at hidentity
    exact (by decide : ["name", "service"] ⊆ Entry.knownNames)
      (List.mem_map_of_mem (f := Prod.fst) hidentity)
  · have hmem := List.mem_map_of_mem (f := Prod.fst)
      ((fieldsToJson_perm h).mem_iff.1 (Fields.mem_of_mem_ofList hfield))
    rw [fieldsToJson_eq_map, List.map_map] at hmem
    exact (by decide : ["url", "method", "headers", "body"] ⊆ Entry.knownNames)
      (c.names_table.subset hmem)

/-- **The table is read as a record of the call**, in whatever order its fields stand. -/
theorem isRecord_of_table (h : fields.Perm c.table) :
    c.IsRecord (Structured.record c.key (.table fields)) := by
  have hget := fun name => get?_table c name ▸ get?_record_of_table h name
  constructor
  · exact fieldText_of_get? (Or.inl ((hget "service").trans (by simp)))
  · exact fieldText_of_get? (Or.inl ((hget "name").trans (by simp)))
  · exact fieldText_of_get? (Or.inl ((hget "url").trans (by simp)))
  · exact fieldText_of_get? (Or.inl ((hget "method").trans (by simp)))
  · rw [hget]
    simp [Headers.value]
  · exact fieldText_of_get? (Or.inl ((hget "body").trans (by simp)))
  · exact known_of_table h

/-- **A document with the table gives the entry of the call.** -/
theorem ofTable_of_document {document : Toml.Table} (h : fields.Perm c.table)
    (hdocument : document.lookup Structured.tableName = some (.table [(c.key, .table fields)])) :
    Structured.ofTable document = [c.entry] := by
  rw [Structured.ofTable, hdocument]
  exact congrArg (fun e => [e]) (isRecord_of_table h).ofRecord

end Table

/-! ## 5. Both formats -/

theorem oneLine_cell {text : Option String} (h : ∀ s ∈ text, Writable s) :
    '\n' ∉ (cell text).toList := by
  cases text with
  | none => decide
  | some s => exact (h s rfl).2

theorem oneLine_headers : ∀ {headers : Headers}, headers.Plain → '\n' ∉ headers.cell.toList
  | .absent, _ => by decide
  | .text _, h => h.1.2
  | .map texts, _ => Json.lineFeed_not_mem_compact (Headers.exists_text texts)

/-- The call as the only row of a sheet, with every field in quotes. -/
def sheet (c : Call) : Sheet :=
  let gap : Sheet.Gap := ⟨⟨[' '], List.all_eq_true.1 rfl, by decide⟩, by decide⟩
  let key (text : List Char) (hne : text ≠ []) (h : text.any Text.isBlank = false) : Sheet.Key :=
    ⟨text, hne, fun d hd => eq_false_of_ne_true (List.any_eq_false.1 h d hd)⟩
  let field (s : String) (h : '\n' ∉ s.toList) : Sheet.Field := .quoted s.toList h
  { above := []
    firstKey := key ['s', 'e', 'r', 'v', 'i', 'c', 'e'] (by decide) rfl
    moreKeys :=
      [(gap, key ['n', 'a', 'm', 'e'] (by decide) rfl),
        (gap, key ['u', 'r', 'l'] (by decide) rfl),
        (gap, key ['m', 'e', 't', 'h', 'o', 'd'] (by decide) rfl),
        (gap, key ['h', 'e', 'a', 'd', 'e', 'r', 's'] (by decide) rfl),
        (gap, key ['b', 'o', 'd', 'y'] (by decide) rfl)]
    returns := 0
    below :=
      [.row (field c.service c.service_plain.1.2)
        [field c.name c.name_plain.1.2,
          field (cell c.url) (oneLine_cell fun s hs => (c.url_plain s hs).1),
          field (cell c.method) (oneLine_cell fun s hs => (c.method_plain s hs).1),
          field c.headers.cell (oneLine_headers c.headers_plain),
          field (cell c.body) (oneLine_cell c.body_writable)] 0]
    ended := true }

/-- Every call can be written as a row. -/
theorem sheet_spec (c : Call) : c.sheet.keys = columns ∧ c.sheet.rows = [c.row] := by
  refine ⟨rfl, ?_⟩
  simp [sheet, Sheet.rows, Sheet.Line.fields?, Sheet.Field.text, row]

/-- The request for the call from a catalog that has only this call. -/
theorem request_of_entries (c : Call) {b : Book} {path : String} (overrides : Bindings)
    (h : b.entries (some path) = .ok [c.entry]) :
    b.request c.service c.name overrides (some path) =
      (c.entry.resolve (b.scope overrides)).mapError .notResolved := by
  have hfirst : firstNamed? [c.entry] c.service c.name = some c.entry := by
    simp [firstNamed?, Entry.isNamed, entry]
  simp only [Book.request, h, hfirst]

/-- A text that is the catalog gives the entries of the book. -/
theorem entries_of_text {b : Book} {path text : String} {entries : List Entry}
    (hread : b.files.readText path = .ok text)
    (hparse : parse b.files.complaint path text = .ok entries) :
    b.entries (some path) = .ok entries := by
  have hlocate : b.loader.locate b.files (some path) = some path := rfl
  simp only [Book.entries, Loader.entries, hlocate, load, hread, hparse]

/-- **Both formats agree.**  A sheet with the row of a call and a document with its table give the
same one entry, and a book that reads either makes the same requests of it. -/
theorem formats_agree (c : Call) {s : Sheet} {fields document : Toml.Table}
    (hkeys : s.keys = columns) (hrows : s.rows = [c.row]) (hfields : fields.Perm c.table)
    (hdocument : document.lookup Structured.tableName = some (.table [(c.key, .table fields)])) :
    Tabular.entries (String.ofList s.source) = [c.entry] ∧
    Structured.ofTable document = [c.entry] ∧
    ∀ (b : Book) (tabular structured text : String),
      isStructured tabular = false → isStructured structured = true →
      b.files.readText tabular = .ok (String.ofList s.source) →
      b.files.readText structured = .ok text → Toml.parse text = some document →
        (∀ overrides, b.request c.service c.name overrides (some tabular) =
          (c.entry.resolve (b.scope overrides)).mapError .notResolved) ∧
        ∀ service name overrides,
          b.request service name overrides (some tabular) =
            b.request service name overrides (some structured) := by
  have htabular := c.entries_of_sheet hkeys hrows
  have hstructured := ofTable_of_document hfields hdocument
  refine ⟨htabular, hstructured, ?_⟩
  intro b tabular structured text htabularPath hstructuredPath hreadTabular hreadStructured htoml
  have hentries : b.entries (some tabular) = .ok [c.entry] := by
    refine entries_of_text hreadTabular ?_
    simp [parse, htabularPath, htabular]
  have hentries' : b.entries (some structured) = .ok [c.entry] := by
    refine entries_of_text hreadStructured ?_
    simp [parse, hstructuredPath, Structured.entries, htoml, hstructured]
  refine ⟨fun overrides => c.request_of_entries overrides hentries, ?_⟩
  intro service name overrides
  rw [Book.request, Book.request, hentries, hentries']

/-! ### A call with a map of headers -/

/-- A call whose texts have quotes, braces and a dollar. -/
def chat : Call where
  service := "models"
  name := "chat"
  url := some "http://models.test/\"$VERSION\""
  method := none
  headers := .map [("x-b", "\x7b$B"), ("x-a", "say \"hi\"")]
  body := some "\x7b\"n\": 1\x7d"
  service_dotless := by decide
  name_dotless := by decide
  service_plain := by decide
  name_plain := by decide
  url_plain := by decide
  method_plain := by decide
  headers_plain := trivial
  body_writable := by decide

/-- The call in a structured catalog. -/
def chatText : String :=
  "[apis.\"models.chat\"]\nbody = '\x7b\"n\": 1\x7d'\n" ++
  "headers = \x7b x-b = '\x7b$B', x-a = 'say \"hi\"' \x7d\n" ++
  "url = 'http://models.test/\"$VERSION\"'\n"

/-- The document that it is. -/
def chatDocument : Toml.Table := [("apis", .table [("models.chat", .table chat.table.reverse)])]

theorem parse_chatText : Toml.parse chatText = some chatDocument := by cbv

/-- A book that has the call in both formats. -/
def chatBook : Book where
  files :=
    { isFile := fun path => path = "apis.txt" || path = "apis.toml"
      readText := fun path =>
        if path = "apis.txt" then .ok (String.ofList chat.sheet.source)
        else if path = "apis.toml" then .ok chatText
        else .error .notFound
      complaint := fun _ => "" }
  loader := ⟨none⟩
  environment := .empty
  aliases := .standard

theorem formats_agree_of_chat :
    Tabular.entries (String.ofList chat.sheet.source) = [chat.entry] ∧
    Structured.ofTable chatDocument = [chat.entry] ∧
    chatBook.request "models" "chat" (Bindings.ofList [("VERSION", "1")]) (some "apis.txt") =
      chatBook.request "models" "chat" (Bindings.ofList [("VERSION", "1")]) (some "apis.toml") := by
  have hkey : chat.key = "models.chat" := rfl
  have hdocument : chatDocument.lookup Structured.tableName =
      some (.table [(chat.key, .table chat.table.reverse)]) := by
    rw [hkey]
    rfl
  obtain ⟨hkeys, hrows⟩ := chat.sheet_spec
  obtain ⟨htabular, hstructured, hrequests⟩ :=
    chat.formats_agree hkeys hrows (List.reverse_perm chat.table) hdocument
  exact ⟨htabular, hstructured,
    (hrequests chatBook "apis.txt" "apis.toml" chatText (by decide +kernel) (by decide +kernel) rfl
      rfl parse_chatText).2 "models" "chat" (Bindings.ofList [("VERSION", "1")])⟩

end Call

end CallBook.Catalog

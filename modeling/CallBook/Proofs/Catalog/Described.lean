import Mathlib
import CallBook.Proofs.Entry.Listed
import CallBook.Proofs.Toml.Converted
/-!
# What a document says of its entries

The table `apis` has one field for each entry.  If the field is a table, its own fields count, and
where it has no service or no name of its own the key is cut at dots for them (`Tells`).  If it is
anything else there is nothing but the key.  `Describes` says so with look-ups in the table as it
stands in the document: the record that `Structured.record` merges and sorts on the way, and the
order in which it does that, are of no account.

`entries_outcome` is the statement about a catalog: no entries without the table `apis`, one for
each of its fields in their order with it, each of them described by its key and its field, and
nothing if the text is no document.  What values become in entries is what `Toml.Converts` says.
-/

namespace CallBook.Catalog.Structured

open Entry (FirstParts)
open Json (Fields)
open Toml (Converts)

/-! ## 1. Entries of a document -/

/-- The text of a field.  Numbers that are not finite count as absent, strings and moments are
texts, and everything else is written as JSON. -/
inductive TextOf (fields : Toml.Table) (name : String) : Option String → Prop
  | absent : fields.lookup name = none → TextOf fields name none
  | notFinite : fields.lookup name = some (.float none) → TextOf fields name none
  | string {s : String} : fields.lookup name = some (.string s) → TextOf fields name (some s)
  | moment {m : Calendar.Moment} :
      fields.lookup name = some (.moment m) → TextOf fields name (some (String.ofList m.text))
  | written {v : Toml.Value} {w : Json.Value} :
      fields.lookup name = some v → v ≠ .float none → (∀ s, v ≠ .string s) →
      (∀ m, v ≠ .moment m) → Converts v w → TextOf fields name (some w.compact)

/-- What a part of the identity is, if the key says `part`: the text of the entry's own field, if
it has one. -/
inductive Names (fields : Toml.Table) (name part : String) : String → Prop
  | own {text : Option String} :
      fields.lookup name ≠ none → TextOf fields name text → Names fields name part (text.getD "")
  | byKey : fields.lookup name = none → Names fields name part part

/-- The value of a field, which is null if it is absent. -/
inductive ValueOf (fields : Toml.Table) (name : String) : Json.Value → Prop
  | absent : fields.lookup name = none → ValueOf fields name .null
  | converted {v : Toml.Value} {w : Json.Value} :
      fields.lookup name = some v → Converts v w → ValueOf fields name w

/-- What a table says of an entry, if its key says `service` and `name`. -/
structure Tells (service name : String) (fields : Toml.Table) (e : Entry) : Prop where
  service : Names fields "service" service e.service
  name : Names fields "name" name e.name
  url : TextOf fields "url" e.url
  method : TextOf fields "method" e.method
  headers : ValueOf fields "headers" e.headers
  body : TextOf fields "body" e.body
  order : Fields.Ascending e.extra
  /-- No field that has a meaning is among the others, -/
  known : ∀ other ∈ Entry.knownNames, Fields.get? e.extra other = none
  /-- and these have their values. -/
  extra : ∀ other ∉ Entry.knownNames,
    Option.Rel Converts (fields.lookup other) (Fields.get? e.extra other)

/-- What a key and the value of its field say of an entry. -/
inductive Describes (key : String) : Toml.Value → Entry → Prop
  | table {service name : String} {fields : Toml.Table} {e : Entry} :
      FirstParts key service name → Tells service name fields e → Describes key (.table fields) e
  /-- What is no table says nothing. -/
  | other {service name : String} {v : Toml.Value} :
      FirstParts key service name → (∀ fields, v ≠ .table fields) →
        Describes key v (Entry.named service name)

/-- What a text is read as. -/
inductive Reads (text : String) : Option (List Entry) → Prop
  | malformed : Toml.parse text = none → Reads text none
  | empty {document : Toml.Table} :
      Toml.parse text = some document → (∀ apis, document.lookup "apis" ≠ some (.table apis)) →
        Reads text (some [])
  | listed {document apis : Toml.Table} {entries : List Entry} :
      Toml.parse text = some document → document.lookup "apis" = some (.table apis) →
      List.Forall₂ (fun field e => Describes field.1 field.2 e) apis entries →
        Reads text (some entries)

/-! ## 2. Records -/

theorem get?_identity_eq_none {name : String} (hservice : name ≠ "service") (hname : name ≠ "name")
    (key : String) : Fields.get? (identity key) name = none := by
  unfold identity
  split <;> simp [Fields.get?, hservice, hname]

/-- A record has the fields of the table, and where the table has none what the key says. -/
theorem get?_record_table {fields : Toml.Table} (h : Toml.NamesDistinct fields) (key name : String) :
    Fields.get? (record key (.table fields)) name =
      ((fields.lookup name).map Toml.Value.toJson).or (Fields.get? (identity key) name) := by
  have hown : ownFields (.table fields) = Fields.ofList (Toml.fieldsToJson fields) := rfl
  have hascending := Fields.ascending_ofList (Toml.fieldsToJson fields)
  have hlast : (ownFields (.table fields)).reverse.lookup name =
      Fields.get? (Fields.ofList (Toml.fieldsToJson fields)) name :=
    Fields.get?_of_perm (hown ▸ List.reverse_perm _) (Fields.nodup_of_ascending hascending) name
  rw [record, Fields.get?_foldl_insert, hlast, Toml.get?_ofList_fieldsToJson h]

theorem ascending_identity (key : String) : Fields.Ascending (identity key) := by
  unfold identity
  split
  · exact (by decide : List.Pairwise (· < ·) ["name", "service"])
  · exact List.pairwise_singleton _ _
  · exact List.Pairwise.nil

theorem ascending_record (key : String) (v : Toml.Value) : Fields.Ascending (record key v) :=
  Fields.ascending_foldl_insert _ (ascending_identity key)

/-! ## 3. Fields -/

section Fields

variable {fields : Toml.Table} {record : Fields} {name : String}

theorem toJson_ne_null {v : Toml.Value} (h : v ≠ .float none) : v.toJson ≠ .null := by
  cases v with
  | float x =>
    cases x with
    | none => exact absurd rfl h
    | some x => nofun
  | _ => nofun

theorem toJson_ne_string {v : Toml.Value} (hstring : ∀ s, v ≠ .string s) (hmoment : ∀ m, v ≠ .moment m)
    (s : String) : v.toJson ≠ .string s := by
  cases v with
  | string s => exact absurd rfl (hstring s)
  | moment m => exact absurd rfl (hmoment m)
  | float x => cases x <;> nofun
  | _ => nofun

/-- A field that is neither null nor text is written as JSON. -/
theorem fieldText_of_written {w : Json.Value} (hget : Fields.get? record name = some w)
    (hnull : w ≠ .null) (hstring : ∀ s, w ≠ .string s) :
    Entry.fieldText record name = some w.compact := by
  rw [Entry.fieldText, hget]
  cases w with
  | null => exact absurd rfl hnull
  | string s => exact absurd rfl (hstring s)
  | _ => rfl

/-- Only what is found under the name counts. -/
theorem fieldText_congr {other : Fields} (h : Fields.get? record name = Fields.get? other name) :
    Entry.fieldText record name = Entry.fieldText other name := by
  rw [Entry.fieldText, Entry.fieldText, h]

variable (hfields : ∀ v ∈ fields.lookup name, v.Distinct)

include hfields

theorem TextOf.eq {text : Option String} (h : TextOf fields name text)
    (hget : Fields.get? record name = (fields.lookup name).map Toml.Value.toJson) :
    Entry.fieldText record name = text := by
  cases h with
  | absent hlookup => rw [Entry.fieldText, hget, hlookup, Option.map_none]
  | notFinite hlookup => rw [Entry.fieldText, hget, hlookup]; rfl
  | string hlookup => rw [Entry.fieldText, hget, hlookup]; rfl
  | moment hlookup => rw [Entry.fieldText, hget, hlookup]; rfl
  | @written v w hlookup hfinite hstring hmoment hconverts =>
    rw [hlookup, Option.map_some] at hget
    rw [← (Toml.converts_iff (hfields v hlookup)).1 hconverts]
    exact fieldText_of_written hget (toJson_ne_null hfinite) (toJson_ne_string hstring hmoment)

theorem exists_textOf : ∃ text, TextOf fields name text := by
  cases hlookup : fields.lookup name with
  | none => exact ⟨_, .absent hlookup⟩
  | some v =>
    by_cases hfinite : v = .float none
    · exact ⟨_, .notFinite (hfinite ▸ hlookup)⟩
    · by_cases hstring : ∃ s, v = .string s
      · obtain ⟨s, rfl⟩ := hstring
        exact ⟨_, .string hlookup⟩
      · by_cases hmoment : ∃ m, v = .moment m
        · obtain ⟨m, rfl⟩ := hmoment
          exact ⟨_, .moment hlookup⟩
        · exact ⟨_, .written hlookup hfinite (not_exists.1 hstring) (not_exists.1 hmoment)
            (Toml.Value.toJson_converts (hfields v hlookup))⟩

theorem fieldText_iff {text : Option String}
    (hget : Fields.get? record name = (fields.lookup name).map Toml.Value.toJson) :
    Entry.fieldText record name = text ↔ TextOf fields name text := by
  constructor
  · rintro rfl
    obtain ⟨text, htext⟩ := exists_textOf hfields
    exact htext.eq hfields hget ▸ htext
  · exact fun h => h.eq hfields hget

theorem value_iff {w : Json.Value}
    (hget : Fields.get? record name = (fields.lookup name).map Toml.Value.toJson) :
    (Fields.get? record name).getD .null = w ↔ ValueOf fields name w := by
  rw [hget]
  constructor
  · rintro rfl
    cases hlookup : fields.lookup name with
    | none => exact .absent hlookup
    | some v => exact .converted hlookup (Toml.Value.toJson_converts (hfields v hlookup))
  · intro h
    cases h with
    | absent hlookup => rw [hlookup]; rfl
    | @converted v w hlookup hconverts =>
      rw [hlookup]
      exact (Toml.converts_iff (hfields v hlookup)).1 hconverts

theorem names_iff {part result : String} {identity : Fields}
    (hpart : (Entry.fieldText identity name).getD "" = part)
    (hget : Fields.get? record name =
      ((fields.lookup name).map Toml.Value.toJson).or (Fields.get? identity name)) :
    (Entry.fieldText record name).getD "" = result ↔ Names fields name part result := by
  cases hlookup : fields.lookup name with
  | none =>
    have hidentity : Fields.get? record name = Fields.get? identity name := by
      rw [hget, hlookup, Option.map_none, Option.none_or]
    rw [fieldText_congr hidentity, hpart]
    constructor
    · rintro rfl
      exact .byKey hlookup
    · intro h
      cases h with
      | own hfound _ => exact absurd hlookup hfound
      | byKey _ => rfl
  | some v =>
    have hown : Fields.get? record name = (fields.lookup name).map Toml.Value.toJson := by
      rw [hget, hlookup, Option.map_some, Option.some_or]
    have hfound : fields.lookup name ≠ none := by simp [hlookup]
    constructor
    · rintro rfl
      exact .own hfound ((fieldText_iff hfields hown).1 rfl)
    · intro h
      cases h with
      | own _ htext => rw [htext.eq hfields hown]
      | byKey hnone => exact absurd hnone hfound

end Fields

/-! ## 4. Entries -/

/-- An entry is what is read of its record, part by part. -/
theorem ofRecord_eq_iff {record : Fields} {e : Entry} :
    Entry.ofRecord record = e ↔
      (Entry.fieldText record "service").getD "" = e.service ∧
      (Entry.fieldText record "name").getD "" = e.name ∧
      Entry.fieldText record "url" = e.url ∧
      Entry.fieldText record "method" = e.method ∧
      (Fields.get? record "headers").getD .null = e.headers ∧
      Entry.fieldText record "body" = e.body ∧
      (Entry.ofRecord record).extra = e.extra := by
  obtain ⟨service, name, url, method, headers, body, extra⟩ := e
  simp only [Entry.ofRecord, Entry.mk.injEq]

section Table

variable {key service name : String} {fields : Toml.Table}
  (hdistinct : (Toml.Value.table fields).Distinct)

include hdistinct

/-- Outside the identity there is what the table has. -/
theorem get?_record_own {other : String} (hservice : other ≠ "service") (hname : other ≠ "name") :
    Fields.get? (record key (.table fields)) other =
      (fields.lookup other).map Toml.Value.toJson := by
  rw [get?_record_table hdistinct.of_table.1, get?_identity_eq_none hservice hname, Option.or_none]

theorem fieldText_record_iff {other : String} {text : Option String} (hservice : other ≠ "service")
    (hname : other ≠ "name") :
    Entry.fieldText (record key (.table fields)) other = text ↔ TextOf fields other text :=
  fieldText_iff (fun _ hv => hdistinct.of_lookup hv) (get?_record_own hdistinct hservice hname)

theorem headers_record_iff {w : Json.Value} :
    (Fields.get? (record key (.table fields)) "headers").getD .null = w ↔
      ValueOf fields "headers" w :=
  value_iff (fun _ hv => hdistinct.of_lookup hv)
    (get?_record_own hdistinct (by decide) (by decide))

theorem names_record_iff {field part result : String}
    (hpart : (Entry.fieldText (identity key) field).getD "" = part) :
    (Entry.fieldText (record key (.table fields)) field).getD "" = result ↔
      Names fields field part result :=
  names_iff (fun _ hv => hdistinct.of_lookup hv) hpart
    (get?_record_table hdistinct.of_table.1 key field)

/-- The fields without a meaning are the others of the table, converted. -/
theorem get?_extra (other : String) :
    Fields.get? (Entry.ofRecord (record key (.table fields))).extra other =
      if other ∈ Entry.knownNames then none
      else (fields.lookup other).map Toml.Value.toJson := by
  rw [Entry.ofRecord]
  refine (Fields.get?_filter (fun name => !Entry.knownNames.contains name) other _).trans ?_
  by_cases hknown : other ∈ Entry.knownNames
  · simp [hknown]
  · have hservice : other ≠ "service" := fun heq => hknown (by simp [heq, Entry.knownNames])
    have hname : other ≠ "name" := fun heq => hknown (by simp [heq, Entry.knownNames])
    simp [hknown, get?_record_own hdistinct hservice hname]

theorem extra_iff {extra : Fields} :
    (Entry.ofRecord (record key (.table fields))).extra = extra ↔
      Fields.Ascending extra ∧ (∀ other ∈ Entry.knownNames, Fields.get? extra other = none) ∧
        ∀ other ∉ Entry.knownNames,
          Option.Rel Converts (fields.lookup other) (Fields.get? extra other) := by
  have horder : Fields.Ascending (Entry.ofRecord (record key (.table fields))).extra :=
    Fields.ascending_filter (ascending_record key _) _
  have hconverts (other : String) : Option.Rel Converts (fields.lookup other)
      ((fields.lookup other).map Toml.Value.toJson) :=
    Toml.option_rel_map fun v hv => Toml.Value.toJson_converts (hdistinct.of_lookup hv)
  constructor
  · rintro rfl
    refine ⟨horder, fun other hother => ?_, fun other hother => ?_⟩
    · rw [get?_extra hdistinct, if_pos hother]
    · rw [get?_extra hdistinct, if_neg hother]
      exact hconverts other
  · rintro ⟨hascending, hknown, hothers⟩
    refine Fields.eq_of_get?_eq horder hascending fun other => ?_
    rw [get?_extra hdistinct]
    split
    · rename_i hother
      exact (hknown other hother).symm
    · rename_i hother
      exact Toml.lookup_unique (hconverts other) (hothers other hother)

/-- **A table says what its record is read as.** -/
theorem tells_iff {e : Entry} (hparts : FirstParts key service name) :
    Entry.ofRecord (record key (.table fields)) = e ↔ Tells service name fields e := by
  obtain ⟨hservice, hname⟩ := fieldText_identity hparts
  have hservicePart : (Entry.fieldText (identity key) "service").getD "" = service := by
    rw [hservice, Option.getD_some]
  rw [ofRecord_eq_iff, names_record_iff hdistinct hservicePart, names_record_iff hdistinct hname,
    fieldText_record_iff hdistinct (by decide) (by decide),
    fieldText_record_iff hdistinct (by decide) (by decide), headers_record_iff hdistinct,
    fieldText_record_iff hdistinct (by decide) (by decide), extra_iff hdistinct]
  constructor
  · rintro ⟨hservice, hname, hurl, hmethod, hheaders, hbody, horder, hknown, hextra⟩
    exact ⟨hservice, hname, hurl, hmethod, hheaders, hbody, horder, hknown, hextra⟩
  · rintro ⟨hservice, hname, hurl, hmethod, hheaders, hbody, horder, hknown, hextra⟩
    exact ⟨hservice, hname, hurl, hmethod, hheaders, hbody, horder, hknown, hextra⟩

end Table

/-- What is no table has no fields of its own. -/
theorem ownFields_of_ne_table {v : Toml.Value} (h : ∀ fields, v ≠ .table fields) :
    ownFields v = [] := by
  cases v with
  | table fields => exact absurd rfl (h fields)
  | float x => cases x <;> rfl
  | _ => rfl

theorem ofRecord_identity {key s n : String} (hparts : FirstParts key s n) :
    Entry.ofRecord (identity key) = Entry.named s n := by
  rcases Entry.splitAt_of_firstParts hparts with ⟨hsplit, rfl⟩ | ⟨others, hsplit⟩
  · simp [identity, hsplit, Entry.ofRecord, Entry.named, Entry.fieldText, Fields.get?,
      List.lookup_cons, Entry.knownNames]
  · simp [identity, hsplit, Entry.ofRecord, Entry.named, Entry.fieldText, Fields.get?,
      List.lookup_cons, Entry.knownNames]

/-- **An entry is the one that its key and its field describe.** -/
theorem describes_iff {key : String} {v : Toml.Value} {e : Entry} (hdistinct : v.Distinct) :
    Entry.ofRecord (record key v) = e ↔ Describes key v e := by
  obtain ⟨s, n, hparts⟩ := Entry.exists_firstParts key
  by_cases htable : ∃ fields, v = .table fields
  · obtain ⟨fields, rfl⟩ := htable
    rw [tells_iff hdistinct hparts]
    constructor
    · exact .table hparts
    · intro h
      cases h with
      | table hother htells =>
        cases (Entry.splitId_of_firstParts hparts).symm.trans (Entry.splitId_of_firstParts hother)
        exact htells
      | other _ hne => exact absurd rfl (hne fields)
  · have hne : ∀ fields, v ≠ .table fields := not_exists.1 htable
    have hrecord : record key v = identity key := by
      rw [record, ownFields_of_ne_table hne, List.foldl_nil]
    rw [hrecord, ofRecord_identity hparts]
    constructor
    · rintro rfl
      exact .other hparts hne
    · intro h
      cases h with
      | table _ _ => exact absurd rfl (hne _)
      | other hother _ =>
        cases (Entry.splitId_of_firstParts hparts).symm.trans (Entry.splitId_of_firstParts hother)
        rfl

/-! ## 5. Catalogs -/

theorem map_eq_iff_forall₂ {α β : Type} {R : α → β → Prop} {f : α → β} :
    ∀ {xs : List α} {ys : List β}, (∀ x ∈ xs, ∀ {y}, f x = y ↔ R x y) →
      (xs.map f = ys ↔ List.Forall₂ R xs ys)
  | [], ys, _ => by simp [eq_comm]
  | x :: xs, [], _ => by simp
  | x :: xs, y :: ys, h => by
    obtain ⟨hx, hxs⟩ := List.forall_mem_cons.1 h
    rw [List.map_cons, List.cons.injEq, hx, map_eq_iff_forall₂ hxs, List.forall₂_cons]

theorem ofTable_of_apis {document apis : Toml.Table}
    (h : document.lookup "apis" = some (.table apis)) :
    ofTable document = apis.map fun (key, v) => Entry.ofRecord (record key v) := by
  simp only [ofTable, tableName, h]

theorem ofTable_eq_nil {document : Toml.Table}
    (h : ∀ apis, document.lookup "apis" ≠ some (.table apis)) : ofTable document = [] := by
  unfold ofTable
  split
  · rename_i apis hapis
    exact absurd hapis (h apis)
  · rfl

/-- **A catalog has the entries that its document describes**: one for each field of the table
`apis`, in the order of the document. -/
theorem ofTable_iff {document apis : Toml.Table} {entries : List Entry}
    (hdistinct : (Toml.Value.table document).Distinct)
    (h : document.lookup "apis" = some (.table apis)) :
    ofTable document = entries ↔
      List.Forall₂ (fun field e => Describes field.1 field.2 e) apis entries := by
  have hapis : (Toml.Value.table apis).Distinct := hdistinct.of_lookup h
  rw [ofTable_of_apis h]
  exact map_eq_iff_forall₂ fun field hfield => describes_iff (hapis.of_table.2 field hfield)

/-- **What a text is read as is what the rules give.**  In no table of its document a name stands
twice, so that it does not matter which field of a name is looked up, and the whole document is
converted to one value. -/
theorem entries_outcome (text : String) :
    (∀ result, entries text = result ↔ Reads text result) ∧
      ∀ document, Toml.parse text = some document →
        (Toml.Value.table document).Distinct ∧
          ∀ w, (Toml.Value.table document).toJson = w ↔ Converts (.table document) w := by
  refine ⟨fun result => ?_, fun document hparse =>
    ⟨Toml.parse_distinct hparse, fun w => (Toml.converts_iff (Toml.parse_distinct hparse)).symm⟩⟩
  rw [entries]
  constructor
  · rintro rfl
    cases hparse : Toml.parse text with
    | none => exact .malformed hparse
    | some document =>
      by_cases hapis : ∃ apis, document.lookup "apis" = some (.table apis)
      · obtain ⟨apis, hapis⟩ := hapis
        exact .listed hparse hapis ((ofTable_iff (Toml.parse_distinct hparse) hapis).1 rfl)
      · have hnone : ∀ apis, document.lookup "apis" ≠ some (.table apis) := not_exists.1 hapis
        rw [Option.map_some, ofTable_eq_nil hnone]
        exact .empty hparse hnone
  · intro h
    cases h with
    | malformed hparse => rw [hparse, Option.map_none]
    | empty hparse hnone => rw [hparse, Option.map_some, ofTable_eq_nil hnone]
    | listed hparse hapis hentries =>
      rw [hparse, Option.map_some, (ofTable_iff (Toml.parse_distinct hparse) hapis).2 hentries]

/-- A document whose entry has a day where a URL should be. -/
def datedText : String := "[apis.\"a.b\"]\nurl = 1979-05-27\n"

/-- The value of the field. -/
def dated : Toml.Value := .moment (.date ⟨1979, 5, 27⟩)

/-- **The text of a moment is not the JSON of what it is converted to**: it has no quotes. -/
theorem url_of_dated :
    Toml.parse datedText = some [("apis", .table [("a.b", .table [("url", dated)])])] ∧
      ∃ e, entries datedText = some [e] ∧ e.url = some "1979-05-27" ∧
        dated.toJson.compact = "\"1979-05-27\"" ∧ e.url ≠ some dated.toJson.compact := by
  have hentries : entries datedText = some [{ Entry.named "a" "b" with url := some "1979-05-27" }] :=
    by cbv
  have hcompact : dated.toJson.compact = "\"1979-05-27\"" := by cbv
  refine ⟨by cbv, _, hentries, rfl, hcompact, ?_⟩
  rw [hcompact]
  decide

end CallBook.Catalog.Structured

import CallBook.Entry.Decode
import CallBook.Proofs.Json.Fields
import CallBook.Proofs.Results
/-!
# Two readings of a record

A record is read as an entry in two ways.  `Entry.ofRecord` reads every record, and renders what
should be text and is not; `Entry.decode` reads only what is `Strict`: a service and a name that
are strings, and otherwise strings or nothing where text belongs.  Where both read a record they
read the same entry (`decode_object_iff`).

`decode` reads one field after the other into a draft.  What the fields that were read make up is
said by `Draft.of`, with the look-ups that `ofRecord` uses: one more field makes up what the
draft comes to with that field (`read_iff`), and so all fields make up the draft at the end
(`foldlM_read_iff`).
-/

namespace CallBook.Entry

open Json (Value Fields Decoder)

/-! ## 1. What is asked of a record -/

/-- The fields that hold text and have to be there. -/
def requiredNames : List String := ["service", "name"]

/-- The fields that hold text if they are there. -/
def optionalNames : List String := ["url", "method", "body"]

/-- A field with this name may have this value. -/
structure Admits (name : String) (v : Value) : Prop where
  required : name ∈ requiredNames → ∃ s, v = .string s
  optional : name ∈ optionalNames → v = .null ∨ ∃ s, v = .string s

/-- A record that is read strictly: service and name are strings, and URL, method and body are
absent, null or strings. -/
structure Strict (record : Fields) : Prop where
  required : ∀ name ∈ requiredNames, ∃ s, record.get? name = some (.string s)
  optional : ∀ name ∈ optionalNames,
    record.get? name = none ∨ record.get? name = some .null ∨
      ∃ s, record.get? name = some (.string s)

/-! ## 2. One field -/

section Admitted

variable {name : String} {v : Value}

theorem admits_required (h : name ∈ requiredNames) : Admits name v ↔ ∃ s, v = .string s := by
  have hnot : name ∉ optionalNames := by
    simp only [requiredNames, List.mem_cons, List.not_mem_nil, or_false] at h
    rcases h with rfl | rfl <;> decide
  exact ⟨fun hv => hv.required h, fun hv => ⟨fun _ => hv, fun hmem => absurd hmem hnot⟩⟩

theorem admits_optional (h : name ∈ optionalNames) :
    Admits name v ↔ v = .null ∨ ∃ s, v = .string s := by
  have hnot : name ∉ requiredNames := by
    simp only [optionalNames, List.mem_cons, List.not_mem_nil, or_false] at h
    rcases h with rfl | rfl | rfl <;> decide
  exact ⟨fun hv => hv.optional h, fun hv => ⟨fun hmem => absurd hmem hnot, fun _ => hv⟩⟩

/-- Other fields may have any value. -/
theorem admits_other (h : name ∉ requiredNames) (h' : name ∉ optionalNames) : Admits name v :=
  ⟨fun hmem => absurd hmem h, fun hmem => absurd hmem h'⟩

end Admitted

/-- The text of a field, if it is a string. -/
def stringOf? (record : Fields) (name : String) : Option String :=
  (record.get? name).bind Value.text?

/-- The draft that fields make up. -/
def Draft.of (record : Fields) : Draft where
  service := stringOf? record "service"
  name := stringOf? record "name"
  url := stringOf? record "url"
  method := stringOf? record "method"
  headers := (record.get? "headers").getD .null
  body := stringOf? record "body"
  extra := record.filter fun (name, _) => !knownNames.contains name

variable {done : Fields} {field : String} {v : Value} {d : Draft}

theorem get?_append_new (h : ∀ f ∈ done, f.1 ≠ field) (name : String) :
    Fields.get? (done ++ [(field, v)]) name =
      if name = field then some v else done.get? name := by
  rw [Fields.get?_append, Fields.get?_cons]
  by_cases hname : name = field
  · subst hname
    rw [Fields.get?_eq_none_iff.2 h, Option.none_or, if_pos rfl, if_pos rfl]
  · rw [if_neg hname, if_neg hname]
    exact Option.or_none

theorem stringOf?_append_new (h : ∀ f ∈ done, f.1 ≠ field) (name : String) :
    stringOf? (done ++ [(field, v)]) name =
      if name = field then v.text? else stringOf? done name := by
  rw [stringOf?, get?_append_new h]
  split <;> rfl

/-- A string is read where one has to be, -/
theorem string_map_iff (set : Option String → Draft) :
    (Decoder.string v).map (fun s => set (some s)) = .ok d ↔
      (∃ s, v = .string s) ∧ d = set v.text? := by
  cases v <;> simp [Decoder.string, Decoder.text, Except.map, Value.text?, eq_comm]

/-- and a string or nothing where one may be. -/
theorem optional_map_iff (set : Option String → Draft) :
    (Decoder.optional Decoder.string v).map set = .ok d ↔
      (v = .null ∨ ∃ s, v = .string s) ∧ d = set v.text? := by
  cases v <;>
    simp [Decoder.optional, Decoder.string, Decoder.text, Except.map, Value.text?, eq_comm]

/-- What one more field changes in a draft. -/
theorem of_append_new (h : ∀ f ∈ done, f.1 ≠ field) :
    Draft.of (done ++ [(field, v)]) = {
      service := if "service" = field then v.text? else (Draft.of done).service
      name := if "name" = field then v.text? else (Draft.of done).name
      url := if "url" = field then v.text? else (Draft.of done).url
      method := if "method" = field then v.text? else (Draft.of done).method
      headers := if "headers" = field then v else (Draft.of done).headers
      body := if "body" = field then v.text? else (Draft.of done).body
      extra := (Draft.of done).extra ++ if field ∈ knownNames then [] else [(field, v)] } := by
  have hheaders : ((if "headers" = field then some v else done.get? "headers").getD .null) =
      if "headers" = field then v else (done.get? "headers").getD .null := by
    split <;> rfl
  have hextra : ([(field, v)] : Fields).filter (fun (name, _) => !knownNames.contains name) =
      if field ∈ knownNames then [] else [(field, v)] := by
    simp [List.filter_cons]
  simp only [Draft.of, stringOf?_append_new h, get?_append_new h, hheaders, List.filter_append,
    hextra]

/-- **A field is read into the draft that the fields make up with it**, if its value may be
there. -/
theorem read_iff (h : ∀ f ∈ done, f.1 ≠ field) :
    (Draft.of done).read field v = .ok d ↔
      Admits field v ∧ d = .of (done ++ [(field, v)]) := by
  rw [of_append_new h, Draft.read]
  by_cases hrequired : field ∈ requiredNames
  · rw [admits_required hrequired]
    simp only [requiredNames, List.mem_cons, List.not_mem_nil, or_false] at hrequired
    rcases hrequired with rfl | rfl
    · simpa [knownNames] using string_map_iff fun s => { Draft.of done with service := s }
    · simpa [knownNames] using string_map_iff fun s => { Draft.of done with name := s }
  by_cases hoptional : field ∈ optionalNames
  · rw [admits_optional hoptional]
    simp only [optionalNames, List.mem_cons, List.not_mem_nil, or_false] at hoptional
    rcases hoptional with rfl | rfl | rfl
    · simpa [knownNames] using optional_map_iff fun s => { Draft.of done with url := s }
    · simpa [knownNames] using optional_map_iff fun s => { Draft.of done with method := s }
    · simpa [knownNames] using optional_map_iff fun s => { Draft.of done with body := s }
  have hadmits : Admits field v := admits_other hrequired hoptional
  simp only [requiredNames, optionalNames, List.mem_cons, List.not_mem_nil, or_false, not_or]
    at hrequired hoptional
  by_cases hheaders : field = "headers"
  · subst hheaders
    simp [hadmits, knownNames, eq_comm]
  · simp [hadmits, knownNames, hrequired, hoptional, hheaders, eq_comm]

/-! ## 3. The whole record -/

variable {fields : Fields} {e : Entry}

/-- **All fields are read into the draft that they make up**, if their values may be there. -/
theorem foldlM_read_iff : ∀ {fields done : Fields}, ((done ++ fields).map (·.1)).Nodup →
    ∀ {d : Draft}, fields.foldlM (fun d (field, v) => d.read field v) (Draft.of done) = .ok d ↔
      (∀ f ∈ fields, Admits f.1 f.2) ∧ d = .of (done ++ fields)
  | [], done, _, d => by
    rw [List.foldlM_nil, List.append_nil, and_iff_right (List.forall_mem_nil _)]
    exact (Except.ok.injEq _ _).to_iff.trans eq_comm
  | (field, v) :: rest, done, hnames, d => by
    -- the draft is always the one that the fields before make up, and this name is not among them
    have hnew : ∀ f ∈ done, f.1 ≠ field := by
      rw [List.map_append, List.nodup_append] at hnames
      exact fun f hf => hnames.2.2 f.1 (List.mem_map_of_mem hf) field List.mem_cons_self
    have hsplit : done ++ (field, v) :: rest = (done ++ [(field, v)]) ++ rest := by
      rw [List.append_assoc, List.singleton_append]
    rw [hsplit] at hnames ⊢
    rw [List.foldlM_cons, bind_eq_ok_iff, List.forall_mem_cons]
    simp only [read_iff hnew]
    constructor
    · rintro ⟨_, ⟨hadmits, rfl⟩, hrest⟩
      obtain ⟨hall, rfl⟩ := (foldlM_read_iff hnames).1 hrest
      exact ⟨⟨hadmits, hall⟩, rfl⟩
    · rintro ⟨⟨hadmits, hall⟩, rfl⟩
      exact ⟨_, ⟨hadmits, rfl⟩, (foldlM_read_iff hnames).2 ⟨hall, rfl⟩⟩

theorem stringOf?_eq_some_iff {name s : String} :
    stringOf? fields name = some s ↔ fields.get? name = some (.string s) := by
  rw [stringOf?, Option.bind_eq_some_iff]
  constructor
  · rintro ⟨v, hget, htext⟩
    cases v <;> simp_all [Value.text?]
  · intro hget
    exact ⟨_, hget, rfl⟩

/-- Strict fields have values that may be there. -/
theorem Strict.admits (h : Strict fields) (hnames : (fields.map (·.1)).Nodup) :
    ∀ f ∈ fields, Admits f.1 f.2 := by
  rintro ⟨name, v⟩ hf
  have hget : fields.get? name = some v := (Fields.get?_eq_some_iff hnames).2 hf
  constructor
  · intro hname
    obtain ⟨s, hs⟩ := h.required name hname
    exact ⟨s, Option.some.inj (hget.symm.trans hs)⟩
  · intro hname
    rcases h.optional name hname with hnone | hnull | ⟨s, hs⟩
    · cases hget.symm.trans hnone
    · exact Or.inl (Option.some.inj (hget.symm.trans hnull))
    · exact Or.inr ⟨s, Option.some.inj (hget.symm.trans hs)⟩

/-- and fields with such values are strict if there are a service and a name. -/
theorem strict_of_admits (h : ∀ f ∈ fields, Admits f.1 f.2)
    (hservice : ∃ s, stringOf? fields "service" = some s)
    (hname : ∃ s, stringOf? fields "name" = some s) : Strict fields := by
  constructor
  · simp only [requiredNames, List.forall_mem_cons, List.not_mem_nil, false_imp_iff, implies_true,
      and_true, ← stringOf?_eq_some_iff]
    exact ⟨hservice, hname⟩
  · intro name hoptional
    cases hget : fields.get? name with
    | none => exact Or.inl rfl
    | some v =>
      rcases (h _ (Fields.mem_of_get? hget)).optional hoptional with rfl | ⟨s, rfl⟩
      · exact Or.inr (Or.inl rfl)
      · exact Or.inr (Or.inr ⟨s, rfl⟩)

/-- A text that is a string or nothing needs no rendering. -/
theorem Strict.fieldText_eq (h : Strict fields) {name : String}
    (hname : name ∈ requiredNames ++ optionalNames) :
    fieldText fields name = stringOf? fields name := by
  rw [fieldText, stringOf?]
  rcases List.mem_append.1 hname with hrequired | hoptional
  · obtain ⟨s, hs⟩ := h.required name hrequired
    rw [hs]
    rfl
  · rcases h.optional name hoptional with hget | hget | ⟨s, hget⟩ <;> rw [hget] <;> rfl

/-- A strict record is finished as the entry that it describes, -/
theorem Strict.finish_of (h : Strict fields) :
    (Draft.of fields).finish = .ok (ofRecord fields) := by
  obtain ⟨s, hs⟩ := h.required "service" (by decide)
  obtain ⟨n, hn⟩ := h.required "name" (by decide)
  have hservice := stringOf?_eq_some_iff.2 hs
  have hname := stringOf?_eq_some_iff.2 hn
  rw [Draft.of, Draft.finish, ofRecord, h.fieldText_eq (by decide), h.fieldText_eq (by decide),
    h.fieldText_eq (by decide), h.fieldText_eq (by decide), h.fieldText_eq (by decide), hservice,
    hname]
  rfl

/-- and nothing is finished without a service and a name. -/
theorem exists_of_finish (h : (Draft.of fields).finish = .ok e) :
    (∃ s, stringOf? fields "service" = some s) ∧ ∃ s, stringOf? fields "name" = some s := by
  rw [Draft.of, Draft.finish] at h
  cases hservice : stringOf? fields "service" with
  | none => simp [hservice] at h
  | some s =>
    cases hname : stringOf? fields "name" with
    | none => simp [hservice, hname] at h
    | some n => exact ⟨⟨s, rfl⟩, n, rfl⟩

theorem decode_object (fields : Fields) :
    decode (.object fields) =
      fields.foldlM (fun d (field, v) => d.read field v) (Draft.of []) >>= Draft.finish := by
  have hempty : Draft.of [] = {} := rfl
  rw [decode, hempty]
  cases fields.foldlM (fun d (field, v) => Draft.read d field v) {} <;> rfl

/-- **What is read strictly** is what is strict, and it is read as it is read otherwise. -/
theorem decode_object_iff (hnames : (fields.map (·.1)).Nodup) :
    decode (.object fields) = .ok e ↔ Strict fields ∧ e = ofRecord fields := by
  have hread : ∀ {d : Draft},
      fields.foldlM (fun d (field, v) => d.read field v) (Draft.of []) = .ok d ↔
        (∀ f ∈ fields, Admits f.1 f.2) ∧ d = .of fields := @foldlM_read_iff fields [] hnames
  rw [decode_object, bind_eq_ok_iff]
  constructor
  · rintro ⟨_, hdraft, hfinish⟩
    obtain ⟨hadmits, rfl⟩ := hread.1 hdraft
    obtain ⟨hservice, hname⟩ := exists_of_finish hfinish
    have hstrict := strict_of_admits hadmits hservice hname
    exact ⟨hstrict, Except.ok.inj (hfinish.symm.trans hstrict.finish_of)⟩
  · rintro ⟨hstrict, rfl⟩
    exact ⟨_, hread.2 ⟨hstrict.admits hnames, rfl⟩, hstrict.finish_of⟩

/-- **Two readings of a record.**  A record is read strictly exactly if its service and its name are
strings and its URL, method and body are absent, null or strings; and whatever is read strictly is
what is read otherwise. -/
theorem decode_outcome (hnames : (fields.map (·.1)).Nodup) :
    ((∃ e, decode (.object fields) = .ok e) ↔ Strict fields) ∧
    ∀ e, decode (.object fields) = .ok e → ofRecord fields = e := by
  refine ⟨⟨?_, fun hstrict => ?_⟩, fun e hread => ?_⟩
  · rintro ⟨e, hread⟩
    exact ((decode_object_iff hnames).1 hread).1
  · exact ⟨ofRecord fields, (decode_object_iff hnames).2 ⟨hstrict, rfl⟩⟩
  · exact ((decode_object_iff hnames).1 hread).2.symm

/-- A record with a field that has no meaning, and with a body that is null. -/
def noted : Fields :=
  [("body", .null), ("headers", .array []), ("name", .string "chat"), ("note", .bool true),
    ("service", .string "models")]

theorem decode_outcome_of_noted :
    (noted.map (·.1)).Nodup ∧ Strict noted ∧
    ∃ e, decode (.object noted) = .ok e ∧ ofRecord noted = e := by
  have hnames : (noted.map (·.1)).Nodup := by decide
  have hstrict : Strict noted := by
    constructor
    · simp [requiredNames, noted, Fields.get?, List.lookup_cons]
    · simp [optionalNames, noted, Fields.get?, List.lookup_cons]
  obtain ⟨hread, hsame⟩ := decode_outcome hnames
  obtain ⟨e, he⟩ := hread.2 hstrict
  exact ⟨hnames, hstrict, e, he, hsame e he⟩

/-- A name that is no string is rendered, and it is not read strictly. -/
example : (decode (.object [("name", .bool true), ("service", .string "models")])).toOption.isNone ∧
    (ofRecord [("name", .bool true), ("service", .string "models")]).name = "true" := by
  decide +kernel

end CallBook.Entry

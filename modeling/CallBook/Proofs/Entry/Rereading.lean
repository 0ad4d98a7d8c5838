import CallBook.Proofs.Entry.Strict
/-!
# Entries and their records

An entry is read from a record, and it can be written as one.  Nothing of a record is lost when
it is read: six names have fields of their own in the entry, and what has any other name is kept
(`AccountedFor`).

When an entry is written, what it keeps comes last and takes the place of a field of the same
name.  So an entry is read again from its record, by either reading, exactly if nothing that it
keeps has one of the six names (`ofRecord_toRecord_iff`, `decode_toRecord_iff`).  An entry that was
read from a record is one of these.
-/

namespace CallBook.Entry

open Json (Value Fields)

/-! ## 1. What a record is read as -/

/-- The text that a field stands for, by the value that it has, if it is there. -/
inductive Stands : Option Value → Option String → Prop
  | absent : Stands none none
  | null : Stands (some .null) none
  | string (s : String) : Stands (some (.string s)) (some s)
  /-- What is no text is written as JSON. -/
  | rendered {v : Value} :
      v ≠ .null → (∀ s, v ≠ .string s) → Stands (some v) (some v.compact)

/-- The fields of a record that have a meaning, in the order in which they are written. -/
def meaningful (record : Fields) : Fields :=
  knownNames.filterMap fun name => (record.get? name).map fun v => (name, v)

/-- Each field of a record is accounted for once: six names have their own fields in the entry,
and the entry keeps all others as they are. -/
structure AccountedFor (record : Fields) (e : Entry) : Prop where
  service : ∃ text, Stands (record.get? "service") text ∧ e.service = text.getD ""
  name : ∃ text, Stands (record.get? "name") text ∧ e.name = text.getD ""
  url : Stands (record.get? "url") e.url
  method : Stands (record.get? "method") e.method
  headers : e.headers = (record.get? "headers").getD .null
  body : Stands (record.get? "body") e.body
  fields : record.Perm (meaningful record ++ e.extra)
  extra : ∀ f ∈ e.extra, f.1 ∉ knownNames

variable {record : Fields} {e : Entry}

theorem stands_fieldText (record : Fields) (name : String) :
    Stands (record.get? name) (fieldText record name) := by
  rw [fieldText]
  cases record.get? name with
  | none => exact .absent
  | some v =>
    cases v with
    | null => exact .null
    | string s => exact .string s
    | bool b => exact .rendered (by simp) (by simp)
    | number n => exact .rendered (by simp) (by simp)
    | array items => exact .rendered (by simp) (by simp)
    | object fields => exact .rendered (by simp) (by simp)

theorem mem_meaningful_iff (hnames : (record.map (·.1)).Nodup) {f : String × Value} :
    f ∈ meaningful record ↔ f ∈ record ∧ f.1 ∈ knownNames := by
  obtain ⟨name, v⟩ := f
  simp only [meaningful, List.mem_filterMap, Option.map_eq_some_iff, Prod.mk.injEq,
    Fields.get?_eq_some_iff hnames]
  constructor
  · rintro ⟨_, hknown, _, hmem, rfl, rfl⟩
    exact ⟨hmem, hknown⟩
  · rintro ⟨hmem, hknown⟩
    exact ⟨name, hknown, v, hmem, rfl, rfl⟩

/-- Looked up one by one, each name is found once at most. -/
theorem names_filterMap_get? (record : Fields) : ∀ names : List String,
    ((names.filterMap fun name => (record.get? name).map fun v => (name, v)).map (·.1)).Sublist
      names
  | [] => .slnil
  | name :: names => by
    have ih := names_filterMap_get? record names
    rw [List.filterMap_cons]
    cases record.get? name with
    | none => exact ih.cons name
    | some v => exact ih.cons_cons name

theorem nodup_meaningful (record : Fields) : (meaningful record).Nodup :=
  Fields.nodup_of_names ((names_filterMap_get? record knownNames).nodup (by decide))

/-- **A record is accounted for in the entry that is read from it.** -/
theorem accountedFor_ofRecord (hnames : (record.map (·.1)).Nodup) :
    AccountedFor record (ofRecord record) := by
  -- one keeps the order of the record, the other that of the names
  have hknown : (record.filter fun f => knownNames.contains f.1).Perm (meaningful record) := by
    refine (List.perm_ext_iff_of_nodup ((Fields.nodup_of_names hnames).filter _)
      (nodup_meaningful record)).2 fun f => ?_
    rw [mem_meaningful_iff hnames, List.mem_filter, List.contains_iff_mem]
  constructor
  · exact ⟨_, stands_fieldText record "service", rfl⟩
  · exact ⟨_, stands_fieldText record "name", rfl⟩
  · exact stands_fieldText record "url"
  · exact stands_fieldText record "method"
  · rfl
  · exact stands_fieldText record "body"
  · exact (List.filter_append_perm _ record).symm.trans (hknown.append_right _)
  · intro f hf
    simpa using (List.mem_filter.1 hf).2

/-! ## 2. What an entry is written as -/

/-- The fields of an entry that have a meaning. -/
def ownMembers (e : Entry) : Fields :=
  [("service", .string e.service), ("name", .string e.name)] ++
  optionalMember "url" e.url ++ optionalMember "method" e.method ++
  [("headers", e.headers)] ++ optionalMember "body" e.body

/-- Nothing that the entry keeps has a name with a meaning. -/
def KeepsOthers (e : Entry) : Prop := ∀ f ∈ e.extra, f.1 ∉ knownNames

theorem members_eq (e : Entry) : e.members = e.ownMembers ++ e.extra := rfl

theorem names_ownMembers (e : Entry) : (e.ownMembers.map (·.1)).Sublist knownNames := by
  have hoptional : ∀ name text, ((optionalMember name text).map (·.1)).Sublist [name] := by
    intro name text
    cases text with
    | none => exact List.nil_sublist _
    | some s => exact List.Sublist.refl _
  rw [ownMembers, List.map_append, List.map_append, List.map_append, List.map_append]
  exact ((((List.Sublist.refl ["service", "name"]).append (hoptional "url" _)).append
    (hoptional "method" _)).append (List.Sublist.refl ["headers"])).append (hoptional "body" _)

theorem get?_optionalMember (name : String) (text : Option String) (other : String) :
    Fields.get? (optionalMember name text) other =
      if other = name then text.map .string else none := by
  cases text with
  | none => simp [optionalMember, Fields.get?]
  | some s => exact Fields.get?_cons name other (.string s) []

/-- The values that the names with a meaning are written with. -/
theorem get?_ownMembers (e : Entry) (name : String) :
    e.ownMembers.get? name =
      (((((if name = "service" then some (.string e.service) else none).or
        (if name = "name" then some (.string e.name) else none)).or
        (if name = "url" then e.url.map .string else none)).or
        (if name = "method" then e.method.map .string else none)).or
        (if name = "headers" then some e.headers else none)).or
        (if name = "body" then e.body.map .string else none) := by
  have hone : ∀ (k : String) (v : Value),
      Fields.get? [(k, v)] name = if name = k then some v else none :=
    fun k v => Fields.get?_cons k name v []
  have hpair : ([("service", .string e.service), ("name", .string e.name)] : Fields) =
      [("service", .string e.service)] ++ [("name", .string e.name)] := rfl
  rw [ownMembers, hpair]
  simp only [Fields.get?_append, hone, get?_optionalMember]

/-- What an entry is written as has each name once if the entry keeps others only. -/
theorem nodup_members (h : Fields.Ascending e.extra) (hothers : e.KeepsOthers) :
    (e.members.map (·.1)).Nodup := by
  rw [members_eq, List.map_append, List.nodup_append]
  refine ⟨(names_ownMembers e).nodup (by decide), Fields.nodup_of_ascending h, ?_⟩
  rintro name hown _ hextra rfl
  obtain ⟨f, hf, rfl⟩ := List.mem_map.1 hextra
  exact hothers f hf ((names_ownMembers e).subset hown)

theorem get?_toRecord (h : Fields.Ascending e.extra) (hothers : e.KeepsOthers) (name : String) :
    e.toRecord.get? name = (e.ownMembers.get? name).or (e.extra.get? name) := by
  rw [toRecord, Fields.get?_ofList, ← Fields.get?,
    Fields.get?_of_perm (List.reverse_perm _) (nodup_members h hothers), members_eq,
    Fields.get?_append]

theorem ascending_toRecord (e : Entry) : Fields.Ascending e.toRecord :=
  Fields.ascending_ofList e.members

/-! ## 3. Reading again -/

/-- The record has the values of the entry under the names with a meaning, and what the entry
keeps under all others. -/
structure Describes (record : Fields) (e : Entry) : Prop where
  service : record.get? "service" = some (.string e.service)
  name : record.get? "name" = some (.string e.name)
  url : record.get? "url" = e.url.map .string
  method : record.get? "method" = e.method.map .string
  headers : record.get? "headers" = some e.headers
  body : record.get? "body" = e.body.map .string
  extra : (ofRecord record).extra = e.extra

/-- **An entry that keeps others only is described by its record.** -/
theorem describes_toRecord (h : Fields.Ascending e.extra) (hothers : e.KeepsOthers) :
    Describes e.toRecord e := by
  have hkept : ∀ {name : String}, name ∈ knownNames → e.extra.get? name = none :=
    fun hname => Fields.get?_eq_none_iff.2 fun f hf heq => hothers f hf (heq ▸ hname)
  have hknown : ∀ {name : String} {v : Option Value}, name ∈ knownNames →
      e.ownMembers.get? name = v → e.toRecord.get? name = v := by
    intro name v hname hget
    rw [get?_toRecord h hothers, hkept hname, Option.or_none, hget]
  -- both are in order, so they are the same if every name is found with the same value
  have hextra : (ofRecord e.toRecord).extra = e.extra := by
    refine Fields.eq_of_get?_eq (Fields.ascending_filter e.ascending_toRecord _) h fun name => ?_
    have hfilter := Fields.get?_filter (fun name => !knownNames.contains name) name e.toRecord
    rw [ofRecord, hfilter]
    by_cases hname : name ∈ knownNames
    · simp [hname, hkept hname]
    · have hnone : e.ownMembers.get? name = none :=
        Fields.get?_eq_none_iff.2 fun f hf heq =>
          hname (heq ▸ (names_ownMembers e).subset (List.mem_map_of_mem hf))
      simp [hname, get?_toRecord h hothers, hnone]
  exact {
    service := hknown (by decide) (by simp [get?_ownMembers])
    name := hknown (by decide) (by simp [get?_ownMembers])
    url := hknown (by decide) (by simp [get?_ownMembers])
    method := hknown (by decide) (by simp [get?_ownMembers])
    headers := hknown (by decide) (by simp [get?_ownMembers])
    body := hknown (by decide) (by simp [get?_ownMembers])
    extra := hextra }

theorem fieldText_of_get?_eq {name : String} {text : Option String}
    (h : record.get? name = text.map .string) : fieldText record name = text := by
  rw [fieldText, h]
  cases text <;> rfl

theorem Describes.ofRecord_eq (h : Describes record e) : ofRecord record = e := by
  have hservice : fieldText record "service" = some e.service := fieldText_of_get?_eq h.service
  have hname : fieldText record "name" = some e.name := fieldText_of_get?_eq h.name
  calc ofRecord record
      = { service := (fieldText record "service").getD ""
          name := (fieldText record "name").getD ""
          url := fieldText record "url"
          method := fieldText record "method"
          headers := (record.get? "headers").getD .null
          body := fieldText record "body"
          extra := (ofRecord record).extra } := rfl
    _ = e := by
        rw [hservice, hname, fieldText_of_get?_eq h.url, fieldText_of_get?_eq h.method, h.headers,
          fieldText_of_get?_eq h.body, h.extra]
        rfl

theorem Describes.strict (h : Describes record e) : Strict record := by
  have hoptional : ∀ {name : String} (text : Option String),
      record.get? name = text.map .string →
        record.get? name = none ∨ record.get? name = some .null ∨
          ∃ s, record.get? name = some (.string s) := by
    rintro name (_ | s) hget
    · exact Or.inl hget
    · exact Or.inr (Or.inr ⟨s, hget⟩)
  constructor
  · intro name hname
    simp only [requiredNames, List.mem_cons, List.not_mem_nil, or_false] at hname
    rcases hname with rfl | rfl
    · exact ⟨e.service, h.service⟩
    · exact ⟨e.name, h.name⟩
  · intro name hname
    simp only [optionalNames, List.mem_cons, List.not_mem_nil, or_false] at hname
    rcases hname with rfl | rfl | rfl
    · exact hoptional e.url h.url
    · exact hoptional e.method h.method
    · exact hoptional e.body h.body

/-- **An entry is read again from its record** exactly if it keeps others only, -/
theorem ofRecord_toRecord_iff (h : Fields.Ascending e.extra) :
    ofRecord e.toRecord = e ↔ e.KeepsOthers := by
  refine ⟨fun hsame => ?_, fun hothers => (describes_toRecord h hothers).ofRecord_eq⟩
  have hextra := (accountedFor_ofRecord (Fields.nodup_of_ascending e.ascending_toRecord)).extra
  rwa [hsame] at hextra

/-- and so it is strictly. -/
theorem decode_toRecord_iff (h : Fields.Ascending e.extra) :
    decode (.object e.toRecord) = .ok e ↔ e.KeepsOthers := by
  have hnames := Fields.nodup_of_ascending e.ascending_toRecord
  constructor
  · intro hread
    exact (ofRecord_toRecord_iff h).1 ((decode_object_iff hnames).1 hread).2.symm
  · intro hothers
    have hdescribes := describes_toRecord h hothers
    exact (decode_object_iff hnames).2 ⟨hdescribes.strict, hdescribes.ofRecord_eq.symm⟩

/-- **What is kept of a record, and what is read again of an entry.**  Each field of a record is
accounted for once in the entry that is read from it, and both readings read this entry again from
what it is written as.  Any entry is read again by either reading exactly if nothing that it keeps
has a name with a meaning. -/
theorem reread_outcome :
    (∀ record : Fields, record.Ascending →
      AccountedFor record (ofRecord record) ∧
      decode (.object (ofRecord record).toRecord) = .ok (ofRecord record) ∧
      ofRecord (ofRecord record).toRecord = ofRecord record) ∧
    ∀ e : Entry, Fields.Ascending e.extra →
      (decode (.object e.toRecord) = .ok e ↔ ∀ f ∈ e.extra, f.1 ∉ knownNames) ∧
      (ofRecord e.toRecord = e ↔ ∀ f ∈ e.extra, f.1 ∉ knownNames) := by
  refine ⟨fun record hrecord => ?_, fun e hextra => ?_⟩
  · have haccounted := accountedFor_ofRecord (Fields.nodup_of_ascending hrecord)
    have hextra : Fields.Ascending (ofRecord record).extra := Fields.ascending_filter hrecord _
    exact ⟨haccounted, (decode_toRecord_iff hextra).2 haccounted.extra,
      (ofRecord_toRecord_iff hextra).2 haccounted.extra⟩
  · exact ⟨decode_toRecord_iff hextra, ofRecord_toRecord_iff hextra⟩

/-- A record without a service, and with a body that is no text. -/
def loose : Fields :=
  [("body", .object []), ("name", .null), ("note", .bool true), ("url", .string "http://x/")]

/-- An entry that keeps a field with the name of its URL. -/
def shadowed : Entry := { named "models" "chat" with extra := [("url", .null)] }

theorem reread_outcome_of_loose :
    loose.Ascending ∧
    decode (.object (ofRecord loose).toRecord) = .ok (ofRecord loose) ∧
    ofRecord (ofRecord loose).toRecord = ofRecord loose ∧
    Fields.Ascending shadowed.extra ∧
    decode (.object shadowed.toRecord) ≠ .ok shadowed ∧ ofRecord shadowed.toRecord ≠ shadowed := by
  have hloose : loose.Ascending := by
    unfold Fields.Ascending
    decide
  have hshadowed : Fields.Ascending shadowed.extra := List.pairwise_singleton _ _
  have hkeeps : ¬ ∀ f ∈ shadowed.extra, f.1 ∉ knownNames := by decide
  obtain ⟨hrecord, hentry⟩ := reread_outcome
  obtain ⟨-, hread, hread'⟩ := hrecord loose hloose
  obtain ⟨hiff, hiff'⟩ := hentry shadowed hshadowed
  exact ⟨hloose, hread, hread', hshadowed, fun h => hkeeps (hiff.1 h), fun h => hkeeps (hiff'.1 h)⟩

end CallBook.Entry

import CallBook.Proofs.Entry.Listed
import CallBook.Proofs.Toml.Converted
/-!
# Calling by key

The key of an entry in a structured catalog and the listed name of a call are cut at dots in two
places: the key where its record is made, a listed name where it is called.  Both come to the first
two parts, also where there is no dot and the record gets no name (`splitId_key`).

So a call by a key finds the first entry whose key has the same two parts, as long as no entry has
a service or a name of its own, and an entry is passed over only for one with the same two parts
before it (`firstNamed?_of_key`).
-/

namespace CallBook.Catalog.Structured

open Json (Fields)
open Entry (FirstParts splitId)

/-! ## 1. Fields of tables -/

/-- The entry has no service and no name of its own. -/
def KnownByKey (v : Toml.Value) : Prop :=
  ∀ fields, v = .table fields → ∀ f ∈ fields, f.1 ≠ "service" ∧ f.1 ≠ "name"

/-- A name that a table lacks is none of its own fields. -/
theorem get?_ownFields_eq_none {v : Toml.Value} {name : String}
    (h : ∀ fields, v = .table fields → ∀ f ∈ fields, f.1 ≠ name) :
    Fields.get? (ownFields v) name = none := by
  rw [Fields.get?_eq_none_iff]
  intro e he heq
  cases v with
  | table fields =>
    have hmem : e.1 ∈ (Toml.fieldsToJson fields).map (·.1) :=
      List.mem_map_of_mem (Fields.mem_of_mem_ofList he)
    rw [Toml.names_fieldsToJson] at hmem
    obtain ⟨f, hf, hname⟩ := List.mem_map.1 hmem
    exact h fields rfl f hf (hname.trans heq)
  | float x => cases x <;> exact absurd he List.not_mem_nil
  | _ => exact absurd he List.not_mem_nil

/-! ## 2. Keys and listed names -/

/-- Two keys have the same first two parts. -/
def SameParts (key other : String) : Prop := ∃ s n, FirstParts key s n ∧ FirstParts other s n

theorem sameParts_iff {key other : String} : SameParts key other ↔ splitId key = splitId other := by
  constructor
  · rintro ⟨s, n, hkey, hother⟩
    rw [Entry.splitId_of_firstParts hkey, Entry.splitId_of_firstParts hother]
  · intro h
    obtain ⟨s, n, hother⟩ := Entry.exists_firstParts other
    exact ⟨s, n, Entry.splitId_eq_iff.1 (h.trans (Entry.splitId_of_firstParts hother)), hother⟩

/-- What is missing behind a dot is as empty as what is missing without one. -/
example : splitId "." = splitId "" ∧ splitId "chat" = splitId "chat." := by decide +kernel

/-- The entry that a field of the table gives. -/
def entryOf (f : String × Toml.Value) : Entry := Entry.ofRecord (record f.1 f.2)

variable {f : String × Toml.Value} {key : String}

/-- **Keys and listed names are cut alike.** -/
theorem splitId_key (h : KnownByKey f.2) :
    splitId f.1 = ((entryOf f).service, (entryOf f).name) := by
  refine Entry.splitId_of_firstParts (firstParts_of_key ?_ ?_ f.1)
  · exact get?_ownFields_eq_none fun fields hv e he => (h fields hv e he).1
  · exact get?_ownFields_eq_none fun fields hv e he => (h fields hv e he).2

/-- A call by a key means the entries whose keys have the same two parts. -/
theorem isNamed_iff_sameParts (h : KnownByKey f.2) :
    (entryOf f).isNamed (splitId key).1 (splitId key).2 = true ↔ SameParts f.1 key := by
  rw [sameParts_iff, splitId_key h, Entry.isNamed, Bool.and_eq_true, beq_iff_eq, beq_iff_eq,
    Prod.ext_iff]

/-! ## 3. Calls by key -/

section Document

variable {document apis : Toml.Table}

theorem firstNamed?_ofTable (htable : document.lookup tableName = some (.table apis))
    (service name : String) :
    firstNamed? (ofTable document) service name =
      (apis.find? fun f => (entryOf f).isNamed service name).map entryOf := by
  have hentries : ofTable document = apis.map entryOf := by
    rw [ofTable, htable]
    rfl
  rw [hentries, firstNamed?, List.find?_map]
  rfl

/-- The first entry whose key has the same two parts is found. -/
theorem find?_key_eq_some_iff (hown : ∀ f ∈ apis, KnownByKey f.2) :
    (apis.find? fun f => (entryOf f).isNamed (splitId key).1 (splitId key).2) = some f ↔
      SameParts f.1 key ∧ ∃ before after,
        apis = before ++ f :: after ∧ ∀ e ∈ before, ¬ SameParts e.1 key := by
  rw [List.find?_eq_some_iff_append]
  constructor
  · rintro ⟨hnamed, before, after, rfl, hbefore⟩
    refine ⟨(isNamed_iff_sameParts (hown f (by simp))).1 hnamed, before, after, rfl, ?_⟩
    intro e he hsame
    have hnot := hbefore e he
    rw [(isNamed_iff_sameParts (hown e (by simp [he]))).2 hsame] at hnot
    cases hnot
  · rintro ⟨hsame, before, after, rfl, hbefore⟩
    refine ⟨(isNamed_iff_sameParts (hown f (by simp))).2 hsame, before, after, rfl, ?_⟩
    intro e he
    rw [Bool.not_eq_true', Bool.eq_false_iff]
    exact fun hnamed => hbefore e he ((isNamed_iff_sameParts (hown e (by simp [he]))).1 hnamed)

/-- **Calling by key.**  Where no entry has a service or a name of its own, a listed name that is a
key is cut as the key is.  A call by a key finds the first entry, in the order of the document,
whose key has the same two parts; and an entry is found by its own key unless such an entry stands
before it. -/
theorem firstNamed?_of_key (htable : document.lookup tableName = some (.table apis))
    (hown : ∀ f ∈ apis, KnownByKey f.2) :
    (∀ f ∈ apis, splitId f.1 = ((entryOf f).service, (entryOf f).name)) ∧
    (∀ key ∈ apis.map (·.1), ∃ before first after, apis = before ++ first :: after ∧
      SameParts first.1 key ∧ (∀ e ∈ before, ¬ SameParts e.1 key) ∧
      firstNamed? (ofTable document) (splitId key).1 (splitId key).2 = some (entryOf first)) ∧
    ∀ before f after, apis = before ++ f :: after → (∀ e ∈ before, ¬ SameParts e.1 f.1) →
      firstNamed? (ofTable document) (splitId f.1).1 (splitId f.1).2 = some (entryOf f) := by
  refine ⟨fun f hf => splitId_key (hown f hf), fun key hkey => ?_,
    fun before f after hsplit hbefore => ?_⟩
  · obtain ⟨f, hf, rfl⟩ := List.mem_map.1 hkey
    -- some entry has the two parts of the key, since the key's own entry has
    have hnamed : (entryOf f).isNamed (splitId f.1).1 (splitId f.1).2 = true :=
      (isNamed_iff_sameParts (hown f hf)).2 (sameParts_iff.2 rfl)
    have hsome : (apis.find? fun e =>
        (entryOf e).isNamed (splitId f.1).1 (splitId f.1).2).isSome = true :=
      List.find?_isSome.2 ⟨f, hf, hnamed⟩
    obtain ⟨first, hfirst⟩ := Option.isSome_iff_exists.1 hsome
    obtain ⟨hsame, before, after, hsplit, hbefore⟩ := (find?_key_eq_some_iff hown).1 hfirst
    refine ⟨before, first, after, hsplit, hsame, hbefore, ?_⟩
    rw [firstNamed?_ofTable htable, hfirst, Option.map_some]
  · have hfirst := (find?_key_eq_some_iff hown).2
      ⟨sameParts_iff.2 rfl, before, after, hsplit, hbefore⟩
    rw [firstNamed?_ofTable htable, hfirst, Option.map_some]

end Document

/-! ### An entry behind one with the same two parts -/

/-- The first entry of a table. -/
def beta : String × Toml.Value := ("chat.v1.beta", .table [("url", .string "http://beta/")])

/-- The table: its second entry has the same two parts as the first. -/
def shadowing : Toml.Table :=
  [beta, ("chat.v1", .table [("url", .string "http://v1/")]), (".", .bool true), ("", .table [])]

theorem firstNamed?_of_key_shadowed :
    ([(tableName, .table shadowing)] : Toml.Table).lookup tableName = some (.table shadowing) ∧
    (∀ f ∈ shadowing, KnownByKey f.2) ∧ "chat.v1" ∈ shadowing.map (·.1) ∧
    firstNamed? (ofTable [(tableName, .table shadowing)])
      (splitId "chat.v1").1 (splitId "chat.v1").2 = some (entryOf beta) := by
  have htable : ([(tableName, .table shadowing)] : Toml.Table).lookup tableName =
      some (.table shadowing) := rfl
  have hown : ∀ f ∈ shadowing, KnownByKey f.2 := by
    simp [shadowing, beta, KnownByKey]
  have hparts : splitId "chat.v1" = splitId beta.1 := by decide +kernel
  obtain ⟨-, -, hfound⟩ := firstNamed?_of_key htable hown
  have hbeta := hfound [] beta _ rfl (List.forall_mem_nil _)
  rw [← hparts] at hbeta
  exact ⟨htable, hown, by decide, hbeta⟩

end CallBook.Catalog.Structured

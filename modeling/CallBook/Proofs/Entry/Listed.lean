import CallBook.Catalog.Structured
import CallBook.Proofs.Json.Fields
import CallBook.Proofs.Text.Cuts
/-!
# Listed names

An entry is listed under its service and its name with a dot between them, and a listed name is
read by its first two parts between dots.  `FirstParts` says which parts these are, whatever the
number of dots (`splitId_eq_iff`).

Neither part has a dot.  So reading is the inverse of listing for the entries whose service and
name have none, and for no others (`splitId_id_iff`).  In a structured catalog an entry that is
known by its key alone is one of these (`dotless_of_key`); in a table, and where a record has its
own service or name, anything can stand in them.
-/

namespace CallBook

open Json (Value Fields)

/-- There is no dot in a text. -/
def Dotless (s : String) : Prop := '.' ∉ s.toList

instance (s : String) : Decidable (Dotless s) := inferInstanceAs (Decidable ('.' ∉ s.toList))

theorem dotless_empty : Dotless "" := by decide

namespace Entry

/-! ## 1. The parts of a listed name -/

/-- The first two parts of a listed name. -/
inductive FirstParts : String → String → String → Prop
  /-- Without a dot there is only a service. -/
  | service {s : String} : Dotless s → FirstParts s s ""
  /-- What follows the only dot is the name. -/
  | name {s n : String} : Dotless s → Dotless n → FirstParts (s ++ "." ++ n) s n
  /-- What follows the second dot is of no account. -/
  | more {s n : String} (rest : String) :
      Dotless s → Dotless n → FirstParts (s ++ "." ++ n ++ "." ++ rest) s n

theorem FirstParts.dotless {id s n : String} (h : FirstParts id s n) : Dotless s ∧ Dotless n := by
  cases h with
  | service hs => exact ⟨hs, dotless_empty⟩
  | name hs hn => exact ⟨hs, hn⟩
  | more rest hs hn => exact ⟨hs, hn⟩

theorem toList_dotted (s n : String) : (s ++ "." ++ n).toList = s.toList ++ '.' :: n.toList := by
  simp

/-- The pieces of a listed name: one where there is no dot, and its two parts in front of
all others where there is one. -/
theorem splitAt_of_firstParts {id s n : String} (h : FirstParts id s n) :
    (Text.splitAt '.' id.toList = [s.toList] ∧ n = "") ∨
      ∃ others, Text.splitAt '.' id.toList = s.toList :: n.toList :: others := by
  cases h with
  | service hs => exact Or.inl ⟨Text.splitAt_of_not_mem hs, rfl⟩
  | name hs hn =>
    refine Or.inr ⟨[], ?_⟩
    rw [toList_dotted, Text.splitAt_append _ hs, Text.splitAt_of_not_mem hn]
  | more rest hs hn =>
    refine Or.inr ⟨Text.splitAt '.' rest.toList, ?_⟩
    have hid : (s ++ "." ++ n ++ "." ++ rest).toList =
        s.toList ++ '.' :: (n.toList ++ '.' :: rest.toList) := by
      simp
    rw [hid, Text.splitAt_append _ hs, Text.splitAt_append _ hn]

theorem splitId_of_firstParts {id s n : String} (h : FirstParts id s n) : splitId id = (s, n) := by
  rcases splitAt_of_firstParts h with ⟨hsplit, rfl⟩ | ⟨others, hsplit⟩
  · simp only [splitId, hsplit, String.ofList_toList]
  · simp only [splitId, hsplit, String.ofList_toList]

/-- A text is one part, or a part and what follows the dot behind it. -/
theorem exists_part (s : String) :
    ∃ part, Dotless part ∧ (s = part ∨ ∃ rest, s = part ++ "." ++ rest) := by
  obtain ⟨part, hpart, hs⟩ := Text.exists_piece '.' s.toList
  refine ⟨String.ofList part, by rwa [Dotless, String.toList_ofList], ?_⟩
  rcases hs with hs | ⟨rest, hs⟩
  · refine Or.inl ?_
    rw [← hs, String.ofList_toList]
  · refine Or.inr ⟨String.ofList rest, ?_⟩
    rw [← String.toList_inj, toList_dotted, String.toList_ofList, String.toList_ofList, hs]

/-- Every listed name has its two parts. -/
theorem exists_firstParts (id : String) : ∃ s n, FirstParts id s n := by
  obtain ⟨s, hs, rfl | ⟨tail, rfl⟩⟩ := exists_part id
  · exact ⟨_, _, .service hs⟩
  · obtain ⟨n, hn, rfl | ⟨rest, rfl⟩⟩ := exists_part tail
    · exact ⟨_, _, .name hs hn⟩
    · have heq : s ++ "." ++ (n ++ "." ++ rest) = s ++ "." ++ n ++ "." ++ rest := by
        simp only [String.append_assoc]
      exact ⟨s, n, heq ▸ .more rest hs hn⟩

/-- **A listed name is read by its first two parts.** -/
theorem splitId_eq_iff {id s n : String} : splitId id = (s, n) ↔ FirstParts id s n := by
  constructor
  · intro h
    obtain ⟨s', n', hparts⟩ := exists_firstParts id
    obtain ⟨rfl, rfl⟩ := Prod.mk.inj ((splitId_of_firstParts hparts).symm.trans h)
    exact hparts
  · exact splitId_of_firstParts

/-- **Reading is the inverse of listing** where neither the service nor the name has a dot, and
nowhere else. -/
theorem splitId_id_iff (e : Entry) :
    splitId e.id = (e.service, e.name) ↔ Dotless e.service ∧ Dotless e.name := by
  rw [splitId_eq_iff]
  exact ⟨FirstParts.dotless, fun ⟨hs, hn⟩ => .name hs hn⟩

end Entry

/-! ## 2. Keys of structured catalogs -/

namespace Catalog.Structured

open Entry (FirstParts)

/-- A field that the record lacks has the value that its key gives it. -/
theorem get?_record {v : Toml.Value} {name : String}
    (h : Fields.get? (ownFields v) name = none) (key : String) :
    Fields.get? (record key v) name = Fields.get? (identity key) name := by
  have hlookup : (ownFields v).reverse.lookup name = none := by
    rw [Fields.get?, List.lookup_eq_none_iff] at h
    rw [List.lookup_eq_none_iff]
    exact fun e he => h e (List.mem_reverse.1 he)
  rw [record, Fields.get?_foldl_insert, hlookup, Option.none_or]

/-- A key gives an entry its first two parts. -/
theorem fieldText_identity {key s n : String} (h : FirstParts key s n) :
    Entry.fieldText (identity key) "service" = some s ∧
      (Entry.fieldText (identity key) "name").getD "" = n := by
  rcases Entry.splitAt_of_firstParts h with ⟨hsplit, rfl⟩ | ⟨others, hsplit⟩
  · simp [identity, hsplit, Entry.fieldText, Fields.get?, List.lookup_cons]
  · simp [identity, hsplit, Entry.fieldText, Fields.get?, List.lookup_cons]

/-- **An entry without a service and a name of its own has those of its key.** -/
theorem firstParts_of_key {v : Toml.Value}
    (hservice : Fields.get? (ownFields v) "service" = none)
    (hname : Fields.get? (ownFields v) "name" = none) (key : String) :
    FirstParts key (Entry.ofRecord (record key v)).service
      (Entry.ofRecord (record key v)).name := by
  obtain ⟨s, n, hparts⟩ := Entry.exists_firstParts key
  obtain ⟨hs, hn⟩ := fieldText_identity hparts
  rw [Entry.fieldText, ← get?_record hservice, ← Entry.fieldText] at hs
  rw [Entry.fieldText, ← get?_record hname, ← Entry.fieldText] at hn
  have hservice' : (Entry.ofRecord (record key v)).service = s := by rw [Entry.ofRecord, hs]; rfl
  have hname' : (Entry.ofRecord (record key v)).name = n := hn
  rwa [hservice', hname']

end Catalog.Structured

end CallBook

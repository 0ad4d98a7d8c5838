import CallBook.Proofs.Json.ReadBack
import CallBook.Proofs.Settings.Loading
/-!
# Settings that were written

Settings are written with a field for each of them, except that a directory that is not set has no
field.  Each field gives back the setting that it was written for, and a directory without a field
is not set in the usual settings either, so what was written fills in the same settings again
(`fills_members`).  This is so of all settings, whether they can be used or not
(`decode_toValue`).

A document with written settings as its section is therefore loaded as these settings if they can
be used, and otherwise their first fault is the answer: the section is never passed over
(`load_of_hasSection`).  The same holds of the text of such a document, as all that is written is
read back from it (`parse_documentText`).
-/

namespace CallBook.Settings

open Json (Value Fields)

/-! ## 1. Fields that were written -/

variable {s : Settings} {document : Option Value}

theorem names_members (s : Settings) : (s.members.map (·.1)).Sublist fieldNames := by
  rw [members]
  cases s.catalogDir with
  | none => exact List.take_sublist 6 fieldNames
  | some d => exact List.Sublist.refl _

/-- Each name is written once, so the order of the fields is of no account. -/
theorem get?_members (s : Settings) (name : String) :
    (Fields.ofList s.members).get? name = Fields.get? s.members name := by
  have hnodup : (s.members.map (·.1)).Nodup := (names_members s).nodup (by decide)
  rw [Fields.get?_ofList]
  exact Fields.get?_of_perm (List.reverse_perm _) hnodup name

/-- **What was written of settings fills in the same settings.** -/
theorem fills_members (s : Settings) : standard.Fills (Fields.ofList s.members) s := by
  constructor
  all_goals rw [get?_members]
  case catalogDir =>
    rw [members]
    cases s.catalogDir with
    | none => exact .kept
    | some d => exact .given (some d)
  all_goals exact .given _

/-- Settings are read back from what was written of them. -/
theorem decode_toValue (s : Settings) : decode s.toValue = .ok s := by
  have hnodup := Fields.nodup_of_ascending (Fields.ascending_ofList s.members)
  exact decode_iff_readAll.2 ⟨_, .object _, (readAll_iff hnodup).2 (fills_members s)⟩

/-- **Loading written settings is checking them**; the section that has them is not passed over. -/
theorem load_of_hasSection (h : HasSection document s.toValue) :
    load document = ⟨s.checked, none⟩ := by
  rw [load, hasSection_iff.2 h]
  simp only [decode_toValue, merge_standard]

/-! ## 2. The text of a document -/

/-- The text of a document that holds some settings. -/
def documentText (s : Settings) : String :=
  "\x7b\"" ++ sectionName ++ "\":" ++ s.compact ++ "\x7d"

theorem documentText_eq (s : Settings) :
    s.documentText = (withSection (.object s.members)).compact := by
  have hname : Json.quote sectionName.toList = '"' :: (sectionName.toList ++ ['"']) := rfl
  apply String.toList_inj.1
  rw [withSection, Json.toList_compact_object, Json.printFields, hname]
  simp [documentText, compact, Json.toList_compact]

theorem rereads_members {depth : Nat} (s : Settings) :
    ∀ e ∈ s.members, Json.Rereads depth e.2 e.2 := by
  have hnatural : ∀ n ≤ Json.greatestSignificand, Json.Rereads depth (natValue n) (natValue n) := by
    intro n hn
    rw [natValue, Json.Rereads]
    exact Json.readScalar_natural hn
  intro e he
  rw [members] at he
  rcases List.mem_append.1 he with he | he
  · simp only [List.mem_cons, List.not_mem_nil, or_false] at he
    rcases he with rfl | rfl | rfl | rfl | rfl | rfl
    · exact hnatural _ (Nat.le_sub_one_of_lt s.timeout.toNat_lt)
    · rw [Json.Rereads]
    · exact hnatural _ (Nat.le_trans (Nat.le_of_lt s.maxRedirects.toNat_lt) (by decide))
    · rw [Json.Rereads]
    · rw [Json.Rereads]
    · exact hnatural _ (Nat.le_sub_one_of_lt s.maxQueryOutput.toNat_lt)
  · cases hdirectory : s.catalogDir with
    | none =>
      rw [hdirectory] at he
      cases he
    | some d =>
      rw [hdirectory] at he
      obtain rfl := List.mem_singleton.1 he
      rw [Json.Rereads]

/-- **A document with settings is read back from its text.** -/
theorem parse_documentText (s : Settings) :
    Json.parse s.documentText = .ok (withSection s.toValue) := by
  have hsection : ∀ depth, Json.Rereads (depth + 1) (.object s.members) s.toValue := by
    intro depth
    exact Json.rereads_object (rereads_members s)
  rw [documentText_eq, Json.parse_compact_iff]
  exact ⟨[(sectionName, s.toValue)], rfl, .cons ⟨rfl, hsection _⟩ .nil⟩

/-! ## 3. Loading what was written -/

/-- **Written settings are loaded again.**  Whatever else a document has, if its section is what was
written of some settings then the section is not passed over: these settings are loaded if they can
be used, and otherwise the answer is their fault, in whose message the user finds what is wrong.
One of the two holds of all settings.  Such a document is read from the text that holds them. -/
theorem load_written_outcome (s : Settings) :
    (∀ document, HasSection document s.toValue →
      (load document).ignored = none ∧
      (s.Usable → (load document).settings = .ok s) ∧
      ∀ fault, s.Fails fault → (load document).settings = .error fault ∧
        loadMessage fault = "Invalid configuration: " ++ fault.message) ∧
    (s.Usable ∨ ∃ fault, s.Fails fault) ∧
    ∃ v, Json.parse s.documentText = .ok v ∧ HasSection (some v) s.toValue := by
  refine ⟨fun document hsection => ?_, usable_or_fails s, ?_⟩
  · rw [load_of_hasSection hsection]
    refine ⟨rfl, fun husable => ?_, fun fault hfails => ⟨?_, rfl⟩⟩
    · exact Checks.checked_eq (.usable husable)
    · exact Checks.checked_eq (.fails hfails)
  · exact ⟨_, parse_documentText s, [(sectionName, s.toValue)], rfl, rfl⟩

/-! ### Settings at the ends of their ranges -/

/-- The greatest numbers, a program whose name has to be escaped, and a directory without a name. -/
def extreme : Settings where
  timeout := 18446744073709551615
  followRedirects := false
  maxRedirects := 4294967295
  validateSsl := false
  jqPath := "\"jq\"\n"
  maxQueryOutput := 18446744073709551615
  catalogDir := some ""

/-- A document that has a section of another program behind the settings. -/
def shared (s : Settings) : Value :=
  .object [(sectionName, s.toValue), ("editor", .object [("timeout", natValue 1)])]

theorem load_written_outcome_of_extreme :
    HasSection (some (shared extreme)) extreme.toValue ∧ extreme.Usable ∧
    (load (some (shared extreme))).settings = .ok extreme ∧
    HasSection (some (shared { extreme with maxQueryOutput := 0 }))
      { extreme with maxQueryOutput := 0 }.toValue ∧
    Fails { extreme with maxQueryOutput := 0 } .noQueryOutput ∧
    (load (some (shared { extreme with maxQueryOutput := 0 }))).settings =
      .error .noQueryOutput := by
  have hsection : ∀ s, HasSection (some (shared s)) s.toValue := fun s => ⟨_, rfl, rfl⟩
  have hprocessor : ∃ c ∈ extreme.jqPath.toList, Text.isBlank c = false :=
    ⟨'j', by decide +kernel⟩
  have husable : extreme.Usable := ⟨by decide, hprocessor, by decide⟩
  have hfails : Fails { extreme with maxQueryOutput := 0 } .noQueryOutput :=
    .noQueryOutput (by decide) hprocessor rfl
  obtain ⟨hloads, -, -⟩ := load_written_outcome extreme
  obtain ⟨hfaulty, -, -⟩ := load_written_outcome { extreme with maxQueryOutput := 0 }
  exact ⟨hsection _, husable, (hloads _ (hsection _)).2.1 husable, hsection _, hfails,
    ((hfaulty _ (hsection _)).2.2 _ hfails).1⟩

end CallBook.Settings

import CallBook.Proofs.Settings.Loading
/-!
# Merged settings

A section is read over the usual settings, so what it does not mention is in the settings that come
of it all the same, with its usual value.  Merging sees only those settings.  It keeps the directory
of the base where the section gives none, and takes every other setting from the section, mentioned
or not (`fills_merge`).

So merging respects what the section leaves out exactly if that is usual in the base
(`fills_merge_iff`), and a section that says nothing resets all of the base but its directory
(`merge_standard_eq_self_iff`).  Both are in `merge_outcome`.
-/

namespace CallBook.Settings

open Json (Value Fields)

/-! ## 1. Fields that give a value -/

/-- A null stands where a value could be given, and gives none. -/
def isNull : Value → Bool
  | .null => true
  | _ => false

/-- The fields that give a value. -/
def given (fields : Fields) : Fields := fields.filter fun f => !isNull f.2

variable {fields : Fields} {name : String}

theorem nodup_given (h : (fields.map (·.1)).Nodup) : ((given fields).map (·.1)).Nodup :=
  h.sublist (List.filter_sublist.map _)

/-- A value is given by the field that has it, unless it is null. -/
theorem get?_given (h : (fields.map (·.1)).Nodup) :
    (given fields).get? name = (fields.get? name).filter fun v => !isNull v := by
  ext v
  rw [Fields.get?_eq_some_iff (nodup_given h), Option.filter_eq_some_iff,
    Fields.get?_eq_some_iff h, given, List.mem_filter]

/-- A setting that is never written as null takes what a field says of it over any base, and over
two bases at once if these have the same where no field says anything. -/
theorem takes_given_iff {α : Type} {write : α → Value} {before after a : α}
    (h : Takes write before (fields.get? name) a) (hnodup : (fields.map (·.1)).Nodup)
    (hwrite : ∀ b, isNull (write b) = false) :
    Takes write after ((given fields).get? name) a ↔
      (fields.get? name = none → after = before) := by
  rw [get?_given hnodup]
  cases hv : fields.get? name with
  | none =>
    rw [hv, takes_none] at h
    simp [takes_none, h, eq_comm]
  | some v =>
    rw [hv, takes_some] at h
    simp [Option.filter, h, hwrite, takes_some]

/-! ## 2. What merging takes from a section -/

variable {base other : Settings}

/-- A null names no directory, and where none is named that of the base stays. -/
theorem takes_directory (hnodup : (fields.map (·.1)).Nodup)
    (h : Takes directoryValue none (fields.get? name) other.catalogDir) :
    Takes directoryValue base.catalogDir ((given fields).get? name)
      (base.merge other).catalogDir := by
  rw [get?_given hnodup, merge]
  cases hv : fields.get? name with
  | none =>
    rw [hv, takes_none] at h
    rw [h]
    exact .kept
  | some v =>
    rw [hv, takes_some] at h
    rw [h]
    cases other.catalogDir with
    | none => exact .kept
    | some d => exact .given (some d)

/-- What fields do not mention has its usual value, except perhaps the directory. -/
structure UsualBeyond (base : Settings) (fields : Fields) : Prop where
  timeout : fields.get? "timeout" = none → base.timeout = standard.timeout
  followRedirects :
    fields.get? "followRedirects" = none → base.followRedirects = standard.followRedirects
  maxRedirects : fields.get? "maxRedirects" = none → base.maxRedirects = standard.maxRedirects
  validateSsl : fields.get? "validateSsl" = none → base.validateSsl = standard.validateSsl
  jqPath : fields.get? "jqPath" = none → base.jqPath = standard.jqPath
  maxQueryOutput :
    fields.get? "maxQueryOutput" = none → base.maxQueryOutput = standard.maxQueryOutput

/-- **Merging fills in settings exactly if they are usual where the section says nothing**, and
have the directory of the base. -/
theorem fills_merge_iff {start : Settings} (hdirectory : start.catalogDir = base.catalogDir)
    (hnodup : (fields.map (·.1)).Nodup) (h : standard.Fills fields other) :
    start.Fills (given fields) (base.merge other) ↔ start.UsualBeyond fields := by
  constructor
  · intro hfills
    exact {
      timeout := (takes_given_iff h.timeout hnodup fun _ => rfl).1 hfills.timeout
      followRedirects :=
        (takes_given_iff h.followRedirects hnodup fun _ => rfl).1 hfills.followRedirects
      maxRedirects := (takes_given_iff h.maxRedirects hnodup fun _ => rfl).1 hfills.maxRedirects
      validateSsl := (takes_given_iff h.validateSsl hnodup fun _ => rfl).1 hfills.validateSsl
      jqPath := (takes_given_iff h.jqPath hnodup fun _ => rfl).1 hfills.jqPath
      maxQueryOutput :=
        (takes_given_iff h.maxQueryOutput hnodup fun _ => rfl).1 hfills.maxQueryOutput }
  · intro husual
    exact {
      timeout := (takes_given_iff h.timeout hnodup fun _ => rfl).2 husual.timeout
      followRedirects :=
        (takes_given_iff h.followRedirects hnodup fun _ => rfl).2 husual.followRedirects
      maxRedirects := (takes_given_iff h.maxRedirects hnodup fun _ => rfl).2 husual.maxRedirects
      validateSsl := (takes_given_iff h.validateSsl hnodup fun _ => rfl).2 husual.validateSsl
      jqPath := (takes_given_iff h.jqPath hnodup fun _ => rfl).2 husual.jqPath
      maxQueryOutput :=
        (takes_given_iff h.maxQueryOutput hnodup fun _ => rfl).2 husual.maxQueryOutput
      catalogDir := hdirectory ▸ takes_directory hnodup h.catalogDir }

/-- **Merging takes all but the directory from the section**: what the section does not mention
becomes usual, whatever it was. -/
theorem fills_merge (hnodup : (fields.map (·.1)).Nodup) (h : standard.Fills fields other) :
    Fills { standard with catalogDir := base.catalogDir } (given fields) (base.merge other) := by
  refine (fills_merge_iff rfl hnodup h).2 ?_
  constructor <;> intro _ <;> rfl

/-- A base of which nothing is said stays as it is exactly if it is usual, except perhaps for its
directory. -/
theorem merge_standard_eq_self_iff :
    base.merge standard = base ↔ base = { standard with catalogDir := base.catalogDir } := by
  have hmerge : base.merge standard = { standard with catalogDir := base.catalogDir } := rfl
  rw [hmerge, eq_comm]

/-! ## 3. Sections that are merged -/

/-- A section has the fields that it has. -/
theorem Assigns.unique {part : Value} {others : Fields} (h : Assigns part fields)
    (h' : Assigns part others) : others = fields := by
  cases h <;> cases h' <;> rfl

/-- **Merging a section into a base.**  Of each setting that the section gives a value the settings
then have that value.  Of the others they have the directory from the base and all else from the
usual settings, so they have them from the base exactly if the base is usual there.  The section
that says nothing is read as the usual settings, and leaves only those bases as they are. -/
theorem merge_outcome {part : Value} (hordered : part.Ordered) (hassigns : Assigns part fields)
    (hdecode : decode part = .ok other) (base : Settings) :
    Fills { standard with catalogDir := base.catalogDir } (given fields) (base.merge other) ∧
    (base.Fills (given fields) (base.merge other) ↔ base.UsualBeyond fields) ∧
    decode (.object []) = .ok standard ∧
    (base.merge standard = base ↔ base = { standard with catalogDir := base.catalogDir }) := by
  have hnodup := hassigns.nodup hordered
  obtain ⟨others, hothers, hfills⟩ := (decode_iff hordered).1 hdecode
  obtain rfl := hassigns.unique hothers
  exact ⟨fills_merge hnodup hfills, fills_merge_iff rfl hnodup hfills, rfl,
    merge_standard_eq_self_iff⟩

/-! ### A base with more time than usual, and sections that do not mention it -/

/-- A base with a directory of its own. -/
def patient : Settings := { standard with timeout := 60000, catalogDir := some "/calls" }

/-- The fields of a section: no directory, and another program. -/
def reprogrammed : Fields := [("catalogDir", .null), ("jqPath", .string "gojq")]

theorem merge_outcome_of_patient :
    (Value.object reprogrammed).Ordered ∧ Assigns (.object reprogrammed) reprogrammed ∧
    decode (.object reprogrammed) = .ok { standard with jqPath := "gojq" } ∧
    Fills { standard with catalogDir := some "/calls" } [("jqPath", .string "gojq")]
      (patient.merge { standard with jqPath := "gojq" }) ∧
    ¬ patient.Fills [("jqPath", .string "gojq")]
      (patient.merge { standard with jqPath := "gojq" }) := by
  have hordered : (Value.object reprogrammed).Ordered :=
    .object (by rw [Fields.Ascending]; decide)
      (by simp [reprogrammed, Value.Ordered.null, Value.Ordered.string])
  have hassigns : Assigns (.object reprogrammed) reprogrammed := .object _
  have hdecode : decode (.object reprogrammed) = .ok { standard with jqPath := "gojq" } := rfl
  obtain ⟨hfills, hkept, -, -⟩ := merge_outcome hordered hassigns hdecode patient
  refine ⟨hordered, hassigns, hdecode, hfills, fun hpatient => ?_⟩
  -- no field mentions the time
  exact absurd ((hkept.1 hpatient).timeout rfl) (by decide)

/-- A section that says nothing does not leave every base as it is. -/
theorem not_kept_of_patient :
    Assigns (.object []) [] ∧ decode (.object []) = .ok standard ∧
    ¬ patient.Fills (given []) (patient.merge standard) ∧ patient.merge standard ≠ patient := by
  refine ⟨.object [], rfl, fun hfills => ?_, by decide⟩
  exact absurd (takes_none.1 hfills.timeout) (by decide)

end CallBook.Settings

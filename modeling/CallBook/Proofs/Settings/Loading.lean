import CallBook.Proofs.Settings.Section
/-!
# Settings of a document

The settings of a document are all or nothing.  Without a section, and with one that cannot be read,
they are the usual ones, and nothing that the section says counts.  With one that can be read each
setting that the section mentions is what the section says, and each other is the usual one; then
they have to be `Usable`, or the first fault is the answer (`Loads`).

`load` comes to what the rules give and to nothing else (`load_outcome`).
-/

namespace CallBook.Settings

open Json (Value Fields)

/-! ## 1. Settings that can be used -/

/-- There is time for a request, a program to answer queries, and something may be answered. -/
structure Usable (s : Settings) : Prop where
  timeout : s.timeout ≠ 0
  processor : ∃ c ∈ s.jqPath.toList, Text.isBlank c = false
  output : s.maxQueryOutput ≠ 0

/-- The fault of some settings that counts.  Each rule holds only where no other counts before. -/
inductive Fails (s : Settings) : Fault → Prop
  | noTimeout : s.timeout = 0 → Fails s .noTimeout
  | noProcessor :
      s.timeout ≠ 0 → (∀ c ∈ s.jqPath.toList, Text.isBlank c = true) → Fails s .noProcessor
  | noQueryOutput :
      s.timeout ≠ 0 → (∃ c ∈ s.jqPath.toList, Text.isBlank c = false) → s.maxQueryOutput = 0 →
        Fails s .noQueryOutput

variable {s : Settings} {fault : Fault}

theorem allBlank_eq_false_iff {cs : List Char} :
    Text.allBlank cs = false ↔ ∃ c ∈ cs, Text.isBlank c = false := by
  rw [Text.allBlank, List.all_eq_false]
  simp only [Bool.not_eq_true]

theorem Fails.fault?_eq (h : s.Fails fault) : s.fault? = some fault := by
  cases h with
  | noTimeout htimeout => rw [fault?, if_pos htimeout]
  | noProcessor htimeout hblank =>
    have hall : Text.allBlank s.jqPath.toList = true := List.all_eq_true.2 hblank
    rw [fault?, if_neg htimeout, if_pos hall]
  | noQueryOutput htimeout hprocessor houtput =>
    rw [fault?, if_neg htimeout, allBlank_eq_false_iff.2 hprocessor, if_neg Bool.false_ne_true,
      if_pos houtput]

theorem Usable.fault?_eq (h : s.Usable) : s.fault? = none := by
  rw [fault?, if_neg h.timeout, allBlank_eq_false_iff.2 h.processor, if_neg Bool.false_ne_true,
    if_neg h.output]

/-- Settings that can be used have no fault. -/
theorem Usable.not_fails (h : s.Usable) : ¬ s.Fails fault := by
  intro hfails
  cases h.fault?_eq.symm.trans hfails.fault?_eq

/-- Settings can be used, or they have a fault. -/
theorem usable_or_fails (s : Settings) : s.Usable ∨ ∃ fault, s.Fails fault := by
  by_cases htimeout : s.timeout = 0
  · exact Or.inr ⟨_, .noTimeout htimeout⟩
  cases hblank : Text.allBlank s.jqPath.toList with
  | true => exact Or.inr ⟨_, .noProcessor htimeout (List.all_eq_true.1 hblank)⟩
  | false =>
    have hprocessor := allBlank_eq_false_iff.1 hblank
    by_cases houtput : s.maxQueryOutput = 0
    · exact Or.inr ⟨_, .noQueryOutput htimeout hprocessor houtput⟩
    · exact Or.inl ⟨htimeout, hprocessor, houtput⟩

/-- What is made of settings before they are used. -/
inductive Checks (s : Settings) : Except Fault Settings → Prop
  | usable : s.Usable → Checks s (.ok s)
  | fails {fault : Fault} : s.Fails fault → Checks s (.error fault)

theorem Checks.checked_eq {result : Except Fault Settings} (h : s.Checks result) :
    s.checked = result := by
  cases h with
  | usable husable => rw [checked, husable.fault?_eq]
  | fails hfails => rw [checked, hfails.fault?_eq]

theorem checked_iff_checks {result : Except Fault Settings} :
    s.checked = result ↔ s.Checks result := by
  constructor
  · rintro rfl
    rcases usable_or_fails s with husable | ⟨fault, hfails⟩
    · exact (Checks.usable husable).checked_eq ▸ .usable husable
    · exact (Checks.fails hfails).checked_eq ▸ .fails hfails
  · exact Checks.checked_eq

theorem usable_standard : standard.Usable :=
  ⟨by decide, ⟨'j', by decide +kernel⟩, by decide⟩

/-! ## 2. The rules -/

/-- The document is an object with this section. -/
def HasSection (document : Option Value) (part : Value) : Prop :=
  ∃ fields : Fields, document = some (.object fields) ∧ fields.get? sectionName = some part

/-- What loading the settings of a document comes to. -/
inductive Loads (document : Option Value) : Except Fault Settings → Prop
  /-- There is no document, it is no object, or the object has no section. -/
  | absent : (∀ part, ¬ HasSection document part) → Loads document (.ok standard)
  /-- A section that cannot be read says nothing. -/
  | ignored {part : Value} :
      HasSection document part → ¬ Readable part → Loads document (.ok standard)
  /-- What a section says stands above the usual settings, which have to be usable then. -/
  | filled {part : Value} {fields : Fields} {s : Settings} {result : Except Fault Settings} :
      HasSection document part → Assigns part fields → standard.Fills fields s →
        s.Checks result → Loads document result

/-! ## 3. Loading obeys the rules -/

variable {document : Option Value} {part : Value} {result : Except Fault Settings}

theorem hasSection_iff :
    document.bind (·.field? sectionName) = some part ↔ HasSection document part := by
  constructor
  · intro h
    obtain ⟨v, rfl, hfield⟩ := Option.bind_eq_some_iff.1 h
    cases v with
    | object fields => exact ⟨fields, rfl, hfield⟩
    | _ => cases hfield
  · rintro ⟨fields, rfl, hfield⟩
    exact hfield

/-- A section of an ordered document is ordered. -/
theorem HasSection.ordered (h : HasSection document part) (hordered : ∀ v ∈ document, v.Ordered) :
    part.Ordered := by
  obtain ⟨fields, rfl, hpart⟩ := h
  cases hordered _ rfl with
  | object _ hfields => exact hfields _ (Fields.mem_of_get? hpart)

/-- The usual settings have no directory that could stay. -/
theorem merge_standard (s : Settings) : standard.merge s = s := by
  cases s
  simp [merge, standard]

theorem Loads.settings_eq (h : Loads document result) (hordered : ∀ v ∈ document, v.Ordered) :
    (load document).settings = result := by
  have hstandard : standard.checked = .ok standard :=
    Checks.checked_eq (.usable usable_standard)
  cases h with
  | absent hnone =>
    have hfield : document.bind (·.field? sectionName) = none :=
      Option.eq_none_iff_forall_ne_some.2 fun part hpart => hnone part (hasSection_iff.1 hpart)
    rw [load, hfield]
    exact hstandard
  | @ignored part hsection hunreadable =>
    rw [load, hasSection_iff.2 hsection]
    cases hdecode : decode part with
    | error cause =>
      simp only [hdecode]
      exact hstandard
    | ok s =>
      exact absurd ((exists_decode_iff (hsection.ordered hordered)).1 ⟨s, hdecode⟩) hunreadable
  | @filled part fields s _ hsection hassigns hfills hchecks =>
    have hdecode := (decode_iff (hsection.ordered hordered)).2 ⟨fields, hassigns, hfills⟩
    rw [load, hasSection_iff.2 hsection]
    simp only [hdecode, merge_standard]
    exact hchecks.checked_eq

/-- One of the rules fits every document. -/
theorem exists_loads (hordered : ∀ v ∈ document, v.Ordered) :
    ∃ result, Loads document result := by
  by_cases hsection : ∃ part, HasSection document part
  · obtain ⟨part, hpart⟩ := hsection
    by_cases hreadable : Readable part
    · obtain ⟨s, hs⟩ := (exists_decode_iff (hpart.ordered hordered)).2 hreadable
      obtain ⟨fields, hassigns, hfills⟩ := (decode_iff (hpart.ordered hordered)).1 hs
      exact ⟨_, .filled hpart hassigns hfills (checked_iff_checks.1 rfl)⟩
    · exact ⟨_, .ignored hpart hreadable⟩
  · exact ⟨_, .absent (not_exists.1 hsection)⟩

theorem settings_iff_loads (hordered : ∀ v ∈ document, v.Ordered) :
    (load document).settings = result ↔ Loads document result := by
  constructor
  · rintro rfl
    obtain ⟨result, hloads⟩ := exists_loads hordered
    rwa [hloads.settings_eq hordered]
  · exact fun hloads => hloads.settings_eq hordered

/-- Only settings that can be used are loaded. -/
theorem Loads.usable (h : Loads document (.ok s)) : s.Usable := by
  cases h with
  | absent _ => exact usable_standard
  | ignored _ _ => exact usable_standard
  | filled _ _ _ hchecks =>
    cases hchecks with
    | usable husable => exact husable

/-- What is noted of a section is that it cannot be read. -/
theorem ignored_isSome_iff (hordered : ∀ v ∈ document, v.Ordered) :
    (load document).ignored.isSome = true ↔ ∃ part, HasSection document part ∧ ¬ Readable part := by
  cases hsection : document.bind (·.field? sectionName) with
  | none =>
    rw [load, hsection]
    refine iff_of_false Bool.false_ne_true ?_
    rintro ⟨part, hpart, -⟩
    cases (hasSection_iff.2 hpart).symm.trans hsection
  | some part =>
    have hpart := hasSection_iff.1 hsection
    have hunique : ∀ other, HasSection document other → other = part := fun other hother =>
      Option.some.inj ((hasSection_iff.2 hother).symm.trans hsection)
    have hreadable := exists_decode_iff (hpart.ordered hordered)
    rw [load, hsection]
    cases hdecode : decode part with
    | error cause =>
      simp only [hdecode]
      refine iff_of_true rfl ⟨part, hpart, fun h => ?_⟩
      obtain ⟨s, hs⟩ := hreadable.2 h
      cases hs.symm.trans hdecode
    | ok s =>
      simp only [hdecode]
      refine iff_of_false Bool.false_ne_true ?_
      rintro ⟨other, hother, hunreadable⟩
      rw [hunique other hother] at hunreadable
      exact hunreadable (hreadable.1 ⟨s, hdecode⟩)

/-- **Loading settings.**  The settings of a document are what the rules give, and a section is
passed over exactly if it cannot be read.  Whatever settings are loaded can be used, and of the
others the user is told that the configuration is invalid. -/
theorem load_outcome (hordered : ∀ v ∈ document, v.Ordered) :
    (∀ result, (load document).settings = result ↔ Loads document result) ∧
    ((load document).ignored.isSome = true ↔
      ∃ part, HasSection document part ∧ ¬ Readable part) ∧
    (∀ s, (load document).settings = .ok s → s.Usable) ∧
    ∀ fault, (load document).settings = .error fault →
      ∃ reason, loadMessage fault = "Invalid configuration: " ++ reason := by
  refine ⟨fun result => settings_iff_loads hordered, ignored_isSome_iff hordered,
    fun s hs => ((settings_iff_loads hordered).1 hs).usable, fun fault _ => ⟨_, rfl⟩⟩

/-! ### A section with a good value and a bad one, and a section that is a list -/

/-- A document with a section. -/
def withSection (part : Value) : Value := .object [(sectionName, part)]

/-- The fields of a section: the directory could be used, but no timeout is a string. -/
def mistyped : Fields := [("catalogDir", .string "/calls"), ("timeout", .string "60")]

theorem ordered_mistyped : (withSection (.object mistyped)).Ordered := by
  have hfields : (Value.object mistyped).Ordered :=
    .object (by rw [Fields.Ascending]; decide) (by simp [mistyped, Value.Ordered.string])
  exact .object (by simp [Fields.Ascending]) (by simpa using hfields)

theorem not_readable_mistyped : ¬ Readable (.object mistyped) := by
  rintro ⟨fields, ⟨_⟩, hadmits⟩
  obtain ⟨n, -, hn⟩ := (hadmits ("timeout", .string "60") (by simp [mistyped])).number (Or.inl rfl)
  cases hn

theorem load_outcome_of_mistyped :
    (∀ v ∈ some (withSection (.object mistyped)), v.Ordered) ∧
    (load (some (withSection (.object mistyped)))).settings = .ok standard ∧
    (load (some (withSection (.object mistyped)))).ignored.isSome = true ∧ standard.Usable := by
  have hordered : ∀ v ∈ some (withSection (.object mistyped)), v.Ordered := by
    rintro v ⟨⟩
    exact ordered_mistyped
  have hsection : HasSection (some (withSection (.object mistyped))) (.object mistyped) :=
    ⟨_, rfl, rfl⟩
  obtain ⟨hloads, hignored, husable, -⟩ := load_outcome hordered
  have hsettings := (hloads _).2 (.ignored hsection not_readable_mistyped)
  exact ⟨hordered, hsettings, hignored.2 ⟨_, hsection, not_readable_mistyped⟩,
    husable _ hsettings⟩

/-- A list gives the first settings. -/
example : (load (some (withSection (.array [natValue 60, .bool false])))).settings.toOption =
    some { standard with timeout := 60, followRedirects := false } := by
  decide +kernel

end CallBook.Settings

import CallBook.Machine
import CallBook.Proofs.Settings.Loading
import CallBook.Proofs.Text.Cuts
import CallBook.Proofs.Text.Lines
/-!
# Settings of an environment

Three variables of the environment have a say in the settings.  Each is applied if it can be read
as its setting, and passed over otherwise (`Obeys`): a directory and a program are read from any
text that is not empty, a timeout from digits with blanks around them (`SaysTimeout`), which
`parseTimeout?` reads and nothing else (`parseTimeout?_eq_some_iff`).

A timeout that is applied is never zero, so the settings can be used unless a program is named with
blanks alone: such a name is not empty and is applied, and then it is no program
(`Asks.fails_iff`).  No other environment keeps a machine from having a client.
-/

namespace CallBook.Settings

/-! ## 1. Timeouts in the environment -/

/-- Decimal digits with a value. -/
structure IsDecimal (ds : List Char) (n : Nat) : Prop where
  nonempty : ds ≠ []
  digits : ∀ d ∈ ds, d.isDigit = true
  value : Nat.ofDigitChars 10 ds 0 = n

/-- A number as it is written in the environment: a plus sign may stand in front of its digits. -/
inductive Numeral : List Char → Nat → Prop
  | plain {ds : List Char} {n : Nat} : IsDecimal ds n → Numeral ds n
  | plus {ds : List Char} {n : Nat} : IsDecimal ds n → Numeral ('+' :: ds) n

/-- The text says a timeout that can be used: a number with blanks around it, but not zero. -/
structure SaysTimeout (raw : String) (n : UInt64) : Prop where
  positive : n ≠ 0
  written : ∃ left numeral right, raw.toList = left ++ numeral ++ right ∧
    (∀ c ∈ left, Text.isBlank c = true) ∧ (∀ c ∈ right, Text.isBlank c = true) ∧
    Numeral numeral n.toNat

variable {cs ds : List Char} {raw : String} {n : UInt64}

theorem not_isBlank_of_isDigit {c : Char} (h : c.isDigit = true) : Text.isBlank c = false := by
  simp only [Char.isDigit, Bool.and_eq_true, decide_eq_true_eq, UInt32.le_iff_toNat_le] at h
  have hlow : 48 ≤ c.toNat := h.1
  have hhigh : c.toNat ≤ 57 := h.2
  simp only [Text.isBlank, Bool.or_eq_false_iff, Bool.and_eq_false_imp, decide_eq_true_eq,
    decide_eq_false_iff_not, Nat.not_le, beq_eq_false_iff_ne, ne_eq]
  omega

theorem Numeral.not_blank {k : Nat} (h : Numeral cs k) : ∀ c ∈ cs, Text.isBlank c = false := by
  intro c hc
  cases h with
  | plain hdecimal => exact not_isBlank_of_isDigit (hdecimal.digits c hc)
  | plus hdecimal =>
    rcases List.mem_cons.1 hc with rfl | hc
    · decide
    · exact not_isBlank_of_isDigit (hdecimal.digits c hc)

/-- The number of some digits, if there are digits alone and their number has 64 bits. -/
def digits? (ds : List Char) : Option UInt64 :=
  if ds.isEmpty || !ds.all Char.isDigit then none
  else if Nat.ofDigitChars 10 ds 0 < UInt64.size then some (UInt64.ofNat (Nat.ofDigitChars 10 ds 0))
  else none

theorem digits?_eq_some_iff : digits? ds = some n ↔ IsDecimal ds n.toNat := by
  rw [digits?]
  constructor
  · intro h
    split at h
    · cases h
    · rename_i hdigits
      rw [Bool.not_eq_true, Bool.or_eq_false_iff, Bool.not_eq_false'] at hdigits
      split at h
      · rename_i hlt
        obtain rfl := Option.some.inj h
        exact ⟨List.isEmpty_eq_false_iff.1 hdigits.1, List.all_eq_true.1 hdigits.2,
          (UInt64.toNat_ofNat_of_lt' hlt).symm⟩
      · cases h
  · intro h
    have hempty : ds.isEmpty = false := List.isEmpty_eq_false_iff.2 h.nonempty
    have hall : ds.all Char.isDigit = true := List.all_eq_true.2 h.digits
    rw [hempty, hall, if_neg (by decide), h.value, if_pos n.toNat_lt, UInt64.ofNat_toNat]

theorem foldl_digits (ds : List Char) :
    ds.foldl (fun k c => k * 10 + (c.toNat - '0'.toNat)) 0 = Nat.ofDigitChars 10 ds 0 := by
  simp only [Nat.ofDigitChars_eq_foldl, Nat.mul_comm 10]

theorem parseUInt64?_plus (ds : List Char) : parseUInt64? ('+' :: ds) = digits? ds := by
  rw [digits?, ← foldl_digits]
  rfl

theorem parseUInt64?_of_not_plus (h : ∀ ds, cs ≠ '+' :: ds) : parseUInt64? cs = digits? cs := by
  rw [digits?, ← foldl_digits, parseUInt64?]
  exact h

/-- A number of 64 bits is read from its numerals. -/
theorem parseUInt64?_eq_some_iff : parseUInt64? cs = some n ↔ Numeral cs n.toNat := by
  by_cases hplus : ∃ ds, cs = '+' :: ds
  · obtain ⟨ds, rfl⟩ := hplus
    rw [parseUInt64?_plus, digits?_eq_some_iff]
    constructor
    · exact .plus
    · intro h
      cases h with
      | plain h => exact absurd (h.digits '+' List.mem_cons_self) (by decide)
      | plus h => exact h
  · rw [parseUInt64?_of_not_plus (not_exists.1 hplus), digits?_eq_some_iff]
    constructor
    · exact .plain
    · intro h
      cases h with
      | plain h => exact h
      | plus h => exact absurd ⟨_, rfl⟩ hplus

/-- **A timeout is read from the texts that say one**, and from no others. -/
theorem parseTimeout?_eq_some_iff : parseTimeout? raw = some n ↔ SaysTimeout raw n := by
  rw [parseTimeout?, Option.filter_eq_some_iff, parseUInt64?_eq_some_iff, decide_eq_true_eq]
  constructor
  · rintro ⟨hnumeral, hpositive⟩
    obtain ⟨left, right, hraw, hleft, hright⟩ := Text.exists_trim raw.toList
    exact ⟨hpositive, left, _, right, hraw, hleft, hright, hnumeral⟩
  · rintro ⟨hpositive, left, numeral, right, hraw, hleft, hright, hnumeral⟩
    have hblank := hnumeral.not_blank
    have htrim : Text.trim raw.toList = numeral := by
      rw [hraw]
      exact Text.trim_append hleft (fun c hc => hblank c (List.mem_of_head? hc))
        (fun c hc => hblank c (List.mem_of_getLast? hc)) hright
    exact ⟨htrim ▸ hnumeral, hpositive⟩

/-! ## 2. What an environment asks for -/

/-- What a setting is where a variable has a text, or none: what the text says if it says anything,
and otherwise the usual. -/
inductive Obeys {α : Type} (Says : String → α → Prop) (usual : α) : Option String → α → Prop
  | unset : Obeys Says usual none usual
  | applied {raw : String} {a : α} : Says raw a → Obeys Says usual (some raw) a
  | ignored {raw : String} : (∀ a, ¬ Says raw a) → Obeys Says usual (some raw) usual

theorem obeys_iff {α : Type} {Says : String → α → Prop} {read : String → Option α}
    (hread : ∀ raw a, read raw = some a ↔ Says raw a) {usual a : α} {raw? : Option String} :
    (raw?.bind read).getD usual = a ↔ Obeys Says usual raw? a := by
  cases raw? with
  | none =>
    constructor
    · rintro rfl
      exact .unset
    · intro h
      cases h
      rfl
  | some raw =>
    rw [Option.bind_some]
    cases hraw : read raw with
    | none =>
      have hsilent : ∀ b, ¬ Says raw b := by
        intro b hb
        rw [← hread, hraw] at hb
        cases hb
      constructor
      · rintro rfl
        exact .ignored hsilent
      · intro h
        cases h with
        | applied hsays => exact absurd hsays (hsilent a)
        | ignored _ => rfl
    | some b =>
      have hb := (hread raw b).1 hraw
      constructor
      · rintro rfl
        exact .applied hb
      · intro h
        cases h with
        | applied hsays => exact Option.some.inj (hraw.symm.trans ((hread raw a).2 hsays))
        | ignored hsilent => exact absurd hb (hsilent b)

/-- The settings that an environment asks for: it has a say in three of them. -/
structure Asks (environment : Bindings) (s : Settings) : Prop where
  timeout : Obeys SaysTimeout standard.timeout (environment.get? timeoutVariable) s.timeout
  jqPath : Obeys (fun raw path => raw ≠ "" ∧ path = raw) standard.jqPath
    (environment.get? processorVariable) s.jqPath
  catalogDir : Obeys (fun raw directory => raw ≠ "" ∧ directory = some raw) standard.catalogDir
    (environment.get? directoryVariable) s.catalogDir
  followRedirects : s.followRedirects = standard.followRedirects
  maxRedirects : s.maxRedirects = standard.maxRedirects
  validateSsl : s.validateSsl = standard.validateSsl
  maxQueryOutput : s.maxQueryOutput = standard.maxQueryOutput

variable {environment : Bindings} {s : Settings} {fault : Fault}

theorem timeout_iff {raw? : Option String} {usual : UInt64} :
    (raw?.bind parseTimeout?).getD usual = n ↔ Obeys SaysTimeout usual raw? n :=
  obeys_iff fun _ _ => parseTimeout?_eq_some_iff

theorem nonEmpty_iff {α : Type} {f : String → α} {usual a : α} {raw? : Option String} :
    ((raw?.filter (· ≠ "")).map f).getD usual = a ↔
      Obeys (fun raw b => raw ≠ "" ∧ b = f raw) usual raw? a := by
  have hbind : (raw?.filter (· ≠ "")).map f =
      raw?.bind fun raw => if raw = "" then none else some (f raw) := by
    cases raw? with
    | none => rfl
    | some raw => by_cases hraw : raw = "" <;> simp [hraw]
  rw [hbind]
  refine obeys_iff fun raw b => ?_
  by_cases hraw : raw = ""
  · simp [hraw]
  · simp [hraw, eq_comm]

/-- **The settings of an environment are those that it asks for.** -/
theorem ofEnvironment_iff : ofEnvironment environment = s ↔ Asks environment s := by
  have hdirectory : ∀ raw? : Option String,
      ((raw?.filter (· ≠ "")).map some).getD standard.catalogDir = raw?.filter (· ≠ "") := by
    intro raw?
    cases raw?.filter (· ≠ "") <;> rfl
  constructor
  · rintro rfl
    exact {
      timeout := timeout_iff.1 rfl
      jqPath := nonEmpty_iff.1 (by rw [Option.map_id_fun']; rfl)
      catalogDir := nonEmpty_iff.1 (hdirectory _)
      followRedirects := rfl
      maxRedirects := rfl
      validateSsl := rfl
      maxQueryOutput := rfl }
  · intro h
    have htimeout := timeout_iff.2 h.timeout
    have hprocessor := nonEmpty_iff.2 h.jqPath
    have hcatalog := nonEmpty_iff.2 h.catalogDir
    rw [hdirectory] at hcatalog
    rw [Option.map_id_fun'] at hprocessor
    obtain ⟨-, -, -, hfollow, hmax, hssl, houtput⟩ := h
    cases s
    simp only [ofEnvironment, mk.injEq]
    exact ⟨htimeout, hfollow.symm, hmax.symm, hssl.symm, hprocessor, houtput.symm, hcatalog⟩

/-! ## 3. Environments whose settings cannot be used -/

/-- The environment names a program, and there are blanks alone in its name. -/
def NamesBlank (environment : Bindings) : Prop :=
  ∃ raw, environment.get? processorVariable = some raw ∧ raw ≠ "" ∧
    ∀ c ∈ raw.toList, Text.isBlank c = true

theorem not_blank_standard : ¬ ∀ c ∈ standard.jqPath.toList, Text.isBlank c = true := by
  intro h
  obtain ⟨c, hc, hblank⟩ := usable_standard.processor
  rw [h c hc] at hblank
  cases hblank

/-- A timeout is either said to be one that can be used, or the usual. -/
theorem Asks.timeout_ne_zero (h : Asks environment s) : s.timeout ≠ 0 := by
  have htimeout := h.timeout
  generalize s.timeout = n at htimeout ⊢
  generalize environment.get? timeoutVariable = raw? at htimeout
  cases htimeout with
  | unset => exact usable_standard.timeout
  | applied hsays => exact hsays.positive
  | ignored _ => exact usable_standard.timeout

theorem Asks.maxQueryOutput_ne_zero (h : Asks environment s) : s.maxQueryOutput ≠ 0 := by
  rw [h.maxQueryOutput]
  exact usable_standard.output

/-- The usual program is not blank, so one that is blank was named. -/
theorem Asks.blank_iff (h : Asks environment s) :
    (∀ c ∈ s.jqPath.toList, Text.isBlank c = true) ↔ NamesBlank environment := by
  have hpath := h.jqPath
  rw [NamesBlank]
  generalize s.jqPath = path at hpath ⊢
  generalize environment.get? processorVariable = raw? at hpath ⊢
  cases hpath with
  | unset => simp [not_blank_standard]
  | @applied raw path hsays =>
    obtain ⟨hne, rfl⟩ := hsays
    simp [hne]
  | @ignored raw hsilent =>
    have hempty : raw = "" := by
      by_contra hne
      exact hsilent raw ⟨hne, rfl⟩
    simp [not_blank_standard, hempty]

theorem Asks.fails_iff (h : Asks environment s) :
    s.Fails fault ↔ fault = .noProcessor ∧ NamesBlank environment := by
  constructor
  · intro hfails
    cases hfails with
    | noTimeout htimeout => exact absurd htimeout h.timeout_ne_zero
    | noProcessor _ hblank => exact ⟨rfl, h.blank_iff.1 hblank⟩
    | noQueryOutput _ _ houtput => exact absurd houtput h.maxQueryOutput_ne_zero
  · rintro ⟨rfl, hblank⟩
    exact .noProcessor h.timeout_ne_zero (h.blank_iff.2 hblank)

theorem Asks.usable_iff (h : Asks environment s) : s.Usable ↔ ¬ NamesBlank environment := by
  constructor
  · intro husable hblank
    exact husable.not_fails (h.fails_iff.2 ⟨rfl, hblank⟩)
  · intro hnot
    rcases usable_or_fails s with husable | ⟨fault, hfails⟩
    · exact husable
    · exact absurd (h.fails_iff.1 hfails).2 hnot

/-- A text is noted as ignored if it stands where a timeout should and says none. -/
theorem ignoredTimeout?_eq_some_iff :
    ignoredTimeout? environment = some raw ↔
      environment.get? timeoutVariable = some raw ∧ ∀ n, ¬ SaysTimeout raw n := by
  rw [ignoredTimeout?, Option.filter_eq_some_iff, Option.isNone_iff_eq_none,
    Option.eq_none_iff_forall_ne_some]
  simp only [ne_eq, parseTimeout?_eq_some_iff]

/-- A machine has no client exactly if its settings have a fault. -/
theorem client_eq_error_iff {m : Machine} {earlier : List Http.Message} {cause : CallError} :
    m.client earlier = .error cause ↔ ∃ fault, m.settings.Fails fault ∧ cause = .settings fault := by
  rcases usable_or_fails m.settings with husable | ⟨fault, hfails⟩
  · rw [Machine.client, husable.fault?_eq]
    constructor
    · intro h
      cases h
    · rintro ⟨fault, hfails, -⟩
      exact absurd hfails husable.not_fails
  · rw [Machine.client, hfails.fault?_eq]
    constructor
    · intro h
      cases h
      exact ⟨fault, hfails, rfl⟩
    · rintro ⟨other, hother, rfl⟩
      obtain rfl := Option.some.inj (hother.fault?_eq.symm.trans hfails.fault?_eq)
      rfl

/-- **What an environment asks for.**  The settings of an environment are those that it asks for,
and a text is noted as ignored if it stands for a timeout and says none that can be used.  The
settings can be used, and make a client, unless the environment names a program with blanks alone;
then this is their fault. -/
theorem ofEnvironment_outcome (environment : Bindings) (m : Machine)
    (earlier : List Http.Message) :
    (∀ s, ofEnvironment environment = s ↔ Asks environment s) ∧
    (∀ raw, ignoredTimeout? environment = some raw ↔
      environment.get? timeoutVariable = some raw ∧ ∀ n, ¬ SaysTimeout raw n) ∧
    ((ofEnvironment environment).Usable ↔ ¬ NamesBlank environment) ∧
    (∀ fault, (ofEnvironment environment).Fails fault ↔
      fault = .noProcessor ∧ NamesBlank environment) ∧
    ∀ cause, { m with environment := environment }.client earlier = .error cause ↔
      cause = .settings .noProcessor ∧ NamesBlank environment := by
  have hasks : Asks environment (ofEnvironment environment) := ofEnvironment_iff.1 rfl
  refine ⟨fun s => ofEnvironment_iff, fun raw => ignoredTimeout?_eq_some_iff, hasks.usable_iff,
    fun fault => hasks.fails_iff, fun cause => ?_⟩
  rw [client_eq_error_iff, Machine.settings]
  simp only [hasks.fails_iff]
  constructor
  · rintro ⟨fault, ⟨rfl, hblank⟩, rfl⟩
    exact ⟨rfl, hblank⟩
  · rintro ⟨rfl, hblank⟩
    exact ⟨_, ⟨rfl, hblank⟩, rfl⟩

/-- A program whose name is a blank is applied, and cannot be used. -/
theorem not_usable_of_blank :
    (ofEnvironment (Bindings.empty.insert processorVariable " ")).jqPath = " " ∧
    (ofEnvironment (Bindings.empty.insert processorVariable " ")).fault? = some .noProcessor ∧
    ¬ (ofEnvironment (Bindings.empty.insert processorVariable " ")).Usable := by
  refine ⟨rfl, rfl, fun husable => ?_⟩
  cases husable.fault?_eq

/-- Blanks and a sign may stand in front of the digits of a timeout. -/
example : (ofEnvironment (Bindings.empty.insert timeoutVariable " +0090\n")).timeout = 90 := by
  decide +kernel

end CallBook.Settings

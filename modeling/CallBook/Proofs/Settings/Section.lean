import CallBook.Proofs.Json.Ordered
import CallBook.Proofs.Results
import CallBook.Settings
/-!
# What a section says of the settings

A section is an object, whose fields are settings by name, or a list, whose items are settings by
place (`Assigns`).  It is read one field after the other into settings that begin as the usual
ones.  Each reader of a field is the inverse of one way to write a value (`Reads`), so a setting is
either what is written in its field or what it was before (`Takes`), and `Fills` says this of all
seven.

So a section is read as the settings that it fills in (`decode_iff`), and it is read at all exactly
if each of its fields may have its value (`exists_decode_iff`): one value that a setting cannot
have is enough to read nothing.
-/

namespace CallBook.Settings

open Json (Value Fields Decoder DecodeError)

/-! ## 1. Values of one field -/

/-- A decoder reads what is written in one way, and nothing else. -/
def Reads {α : Type} (decode : Decoder α) (write : α → Value) : Prop :=
  ∀ v a, decode v = .ok a ↔ v = write a

/-- A number of 64 bits as a value. -/
def number64 (n : UInt64) : Value := natValue n.toNat

/-- A number of 32 bits as a value. -/
def number32 (n : UInt32) : Value := natValue n.toNat

/-- A directory as a value; none is null. -/
def directoryValue (d : Option String) : Value := d.elim .null .string

theorem nat_eq_ok_iff {bound n : Nat} {expected : String} {v : Value} :
    Decoder.nat bound expected v = .ok n ↔ n ≤ bound ∧ v = natValue n := by
  constructor
  · intro h
    unfold Decoder.nat at h
    split at h
    · rename_i i
      split at h
      · rename_i hrange
        cases h
        exact ⟨by omega, by rw [natValue, Int.toNat_of_nonneg hrange.1]⟩
      · cases h
    · cases h
  · rintro ⟨hle, rfl⟩
    rw [natValue, Decoder.nat, if_pos ⟨by omega, by omega⟩, Int.toNat_natCast]

/-- Numbers of a type are read if the type has all numbers up to a bound. -/
theorem reads_nat {α : Type} {ofNat : Nat → α} {toNat : α → Nat} {bound : Nat}
    (expected : String) (hofNat : ∀ a, ofNat (toNat a) = a) (hle : ∀ a, toNat a ≤ bound)
    (htoNat : ∀ n ≤ bound, toNat (ofNat n) = n) :
    Reads (fun v => (Decoder.nat bound expected v).map ofNat) fun a => natValue (toNat a) := by
  intro v a
  constructor
  · intro h
    obtain ⟨n, hread, rfl⟩ := map_eq_ok h
    obtain ⟨hn, rfl⟩ := nat_eq_ok_iff.1 hread
    exact congrArg natValue (htoNat n hn).symm
  · rintro rfl
    simp only [nat_eq_ok_iff.2 ⟨hle a, Eq.refl (natValue (toNat a))⟩, Except.map, hofNat]

theorem reads_number64 (expected : String) :
    Reads (fun v => (Decoder.nat (UInt64.size - 1) expected v).map UInt64.ofNat) number64 := by
  refine reads_nat expected (fun _ => UInt64.ofNat_toNat) (fun n => ?_) fun n hn => ?_
  · exact Nat.le_sub_one_of_lt n.toNat_lt_size
  · exact UInt64.toNat_ofNat_of_lt' (Nat.lt_of_le_sub_one (by decide) hn)

theorem reads_number32 (expected : String) :
    Reads (fun v => (Decoder.nat (UInt32.size - 1) expected v).map UInt32.ofNat) number32 := by
  refine reads_nat expected (fun _ => UInt32.ofNat_toNat) (fun n => ?_) fun n hn => ?_
  · exact Nat.le_sub_one_of_lt n.toNat_lt_size
  · exact UInt32.toNat_ofNat_of_lt' (Nat.lt_of_le_sub_one (by decide) hn)

theorem reads_bool : Reads Decoder.bool .bool := by
  intro v b
  cases v <;> simp [Decoder.bool]

theorem reads_text (expected : String) : Reads (Decoder.text expected) .string := by
  intro v s
  cases v <;> simp [Decoder.text]

theorem reads_directory (expected : String) :
    Reads (Decoder.optional (Decoder.text expected)) directoryValue := by
  intro v d
  cases v <;> cases d <;>
    simp [Decoder.optional, Decoder.text, Except.map, directoryValue]

/-! ## 2. Fields that are read one after the other -/

/-- What a setting is when a section gives it a value, or none and so leaves it as it was. -/
inductive Takes {α : Type} (write : α → Value) (before : α) : Option Value → α → Prop
  | kept : Takes write before none before
  | given (a : α) : Takes write before (some (write a)) a

/-- The settings that come of some when fields are read. -/
structure Fills (base : Settings) (fields : Fields) (s : Settings) : Prop where
  timeout : Takes number64 base.timeout (fields.get? "timeout") s.timeout
  followRedirects :
    Takes .bool base.followRedirects (fields.get? "followRedirects") s.followRedirects
  maxRedirects : Takes number32 base.maxRedirects (fields.get? "maxRedirects") s.maxRedirects
  validateSsl : Takes .bool base.validateSsl (fields.get? "validateSsl") s.validateSsl
  jqPath : Takes .string base.jqPath (fields.get? "jqPath") s.jqPath
  maxQueryOutput :
    Takes number64 base.maxQueryOutput (fields.get? "maxQueryOutput") s.maxQueryOutput
  catalogDir : Takes directoryValue base.catalogDir (fields.get? "catalogDir") s.catalogDir

section Taking

variable {α : Type} {write : α → Value} {before a : α} {v : Value}

theorem takes_none : Takes write before none a ↔ a = before :=
  ⟨fun h => by cases h; rfl, fun h => h ▸ .kept⟩

theorem takes_some : Takes write before (some v) a ↔ v = write a :=
  ⟨fun h => by cases h; rfl, fun h => h ▸ .given a⟩

/-- Fields that are read after another do not have its name. -/
theorem takes_cons {name : String} {rest : Fields} (h : ∀ f ∈ rest, f.1 ≠ name) (field : String) :
    Takes write before (Fields.get? ((name, v) :: rest) field) a ↔
      ∃ b, Takes write before (Fields.get? [(name, v)] field) b ∧
        Takes write b (rest.get? field) a := by
  rw [Fields.get?_cons, Fields.get?_cons]
  by_cases hname : field = name
  · subst hname
    simp [Fields.get?_eq_none_iff.2 h, takes_none]
  · have hnone : Fields.get? [] field = none := rfl
    simp [hname, hnone, takes_none]

end Taking

variable {base s : Settings} {fields : Fields} {name : String} {v : Value}

/-- Reading a field sets what has its name. -/
theorem map_set_iff {α : Type} {decode : Decoder α} {write : α → Value} (h : Reads decode write)
    {set : α → Settings} (get : Settings → α) (hset : ∀ a, get (set a) = a) :
    (decode v).map set = .ok s ↔ v = write (get s) ∧ s = set (get s) := by
  constructor
  · intro hread
    obtain ⟨a, ha, rfl⟩ := map_eq_ok hread
    rw [hset]
    exact ⟨(h v a).1 ha, rfl⟩
  · rintro ⟨hv, hs⟩
    rw [(h v (get s)).2 hv, Except.map, ← hs]

theorem fills_singleton_iff : base.Fills [(name, v)] s ↔
    (if "timeout" = name then v = number64 s.timeout else s.timeout = base.timeout) ∧
    (if "followRedirects" = name then v = .bool s.followRedirects
      else s.followRedirects = base.followRedirects) ∧
    (if "maxRedirects" = name then v = number32 s.maxRedirects
      else s.maxRedirects = base.maxRedirects) ∧
    (if "validateSsl" = name then v = .bool s.validateSsl
      else s.validateSsl = base.validateSsl) ∧
    (if "jqPath" = name then v = .string s.jqPath else s.jqPath = base.jqPath) ∧
    (if "maxQueryOutput" = name then v = number64 s.maxQueryOutput
      else s.maxQueryOutput = base.maxQueryOutput) ∧
    if "catalogDir" = name then v = directoryValue s.catalogDir
      else s.catalogDir = base.catalogDir := by
  have htakes : ∀ {α : Type} (write : α → Value) (before a : α) (field : String),
      Takes write before (Fields.get? [(name, v)] field) a ↔
        if field = name then v = write a else a = before := by
    intro α write before a field
    rw [Fields.get?_cons]
    split
    · exact takes_some
    · exact takes_none
  simp only [← htakes]
  exact ⟨fun h => ⟨h.1, h.2, h.3, h.4, h.5, h.6, h.7⟩,
    fun ⟨h1, h2, h3, h4, h5, h6, h7⟩ => ⟨h1, h2, h3, h4, h5, h6, h7⟩⟩

/-- **One field is read into the settings that it fills in.** -/
theorem read_iff : base.read name v = .ok s ↔ base.Fills [(name, v)] s := by
  rw [fills_singleton_iff]
  by_cases hknown : name ∈ fieldNames
  · simp only [fieldNames, List.mem_cons, List.not_mem_nil, or_false] at hknown
    rcases hknown with rfl | rfl | rfl | rfl | rfl | rfl | rfl
    · refine (map_set_iff (reads_number64 "u64") timeout fun _ => rfl).trans ?_
      cases s
      simp
    · refine (map_set_iff reads_bool followRedirects fun _ => rfl).trans ?_
      cases s
      simp [and_left_comm]
    · refine (map_set_iff (reads_number32 "u32") maxRedirects fun _ => rfl).trans ?_
      cases s
      simp [and_left_comm]
    · refine (map_set_iff reads_bool validateSsl fun _ => rfl).trans ?_
      cases s
      simp [and_left_comm]
    · refine (map_set_iff (reads_text "a string") jqPath fun _ => rfl).trans ?_
      cases s
      simp [and_left_comm]
    · refine (map_set_iff (reads_number64 "usize") maxQueryOutput fun _ => rfl).trans ?_
      cases s
      simp [and_left_comm]
    · refine (map_set_iff (reads_directory "path string") catalogDir fun _ => rfl).trans ?_
      cases s
      simp [and_assoc, and_left_comm, and_comm]
  · simp only [fieldNames, List.mem_cons, List.not_mem_nil, or_false, not_or] at hknown
    cases base
    cases s
    simp [read, hknown, eq_comm]

theorem fills_nil_iff : base.Fills [] s ↔ s = base := by
  constructor
  · intro h
    cases base
    cases s
    simp only [mk.injEq]
    exact ⟨takes_none.1 h.1, takes_none.1 h.2, takes_none.1 h.3, takes_none.1 h.4,
      takes_none.1 h.5, takes_none.1 h.6, takes_none.1 h.7⟩
  · rintro rfl
    exact ⟨.kept, .kept, .kept, .kept, .kept, .kept, .kept⟩

/-- Fields with distinct names fill in what the first and then the others fill in. -/
theorem fills_cons_iff (h : ∀ f ∈ fields, f.1 ≠ name) :
    base.Fills ((name, v) :: fields) s ↔
      ∃ t, base.Fills [(name, v)] t ∧ Fills t fields s := by
  constructor
  · intro hfills
    obtain ⟨timeout, h1, r1⟩ := (takes_cons h "timeout").1 hfills.1
    obtain ⟨followRedirects, h2, r2⟩ := (takes_cons h "followRedirects").1 hfills.2
    obtain ⟨maxRedirects, h3, r3⟩ := (takes_cons h "maxRedirects").1 hfills.3
    obtain ⟨validateSsl, h4, r4⟩ := (takes_cons h "validateSsl").1 hfills.4
    obtain ⟨jqPath, h5, r5⟩ := (takes_cons h "jqPath").1 hfills.5
    obtain ⟨maxQueryOutput, h6, r6⟩ := (takes_cons h "maxQueryOutput").1 hfills.6
    obtain ⟨catalogDir, h7, r7⟩ := (takes_cons h "catalogDir").1 hfills.7
    exact ⟨⟨timeout, followRedirects, maxRedirects, validateSsl, jqPath, maxQueryOutput,
      catalogDir⟩, ⟨h1, h2, h3, h4, h5, h6, h7⟩, r1, r2, r3, r4, r5, r6, r7⟩
  · rintro ⟨t, hfirst, hrest⟩
    constructor
    · exact (takes_cons h "timeout").2 ⟨_, hfirst.1, hrest.1⟩
    · exact (takes_cons h "followRedirects").2 ⟨_, hfirst.2, hrest.2⟩
    · exact (takes_cons h "maxRedirects").2 ⟨_, hfirst.3, hrest.3⟩
    · exact (takes_cons h "validateSsl").2 ⟨_, hfirst.4, hrest.4⟩
    · exact (takes_cons h "jqPath").2 ⟨_, hfirst.5, hrest.5⟩
    · exact (takes_cons h "maxQueryOutput").2 ⟨_, hfirst.6, hrest.6⟩
    · exact (takes_cons h "catalogDir").2 ⟨_, hfirst.7, hrest.7⟩

/-- **All fields are read into the settings that they fill in.** -/
theorem readAll_iff : ∀ {fields : Fields} {base : Settings}, (fields.map (·.1)).Nodup →
    (base.readAll fields = .ok s ↔ base.Fills fields s)
  | [], base, _ => by
    rw [readAll, fills_nil_iff, Except.ok.injEq, eq_comm]
  | (name, v) :: rest, base, h => by
    obtain ⟨hname, hrest⟩ := List.nodup_cons.1 h
    have hnew : ∀ f ∈ rest, f.1 ≠ name := fun f hf heq =>
      hname (List.mem_map.2 ⟨f, hf, heq⟩)
    simp only [fills_cons_iff hnew, ← read_iff]
    rw [readAll]
    cases base.read name v with
    | error e => simp
    | ok t => simp [readAll_iff hrest]

/-! ## 3. Sections -/

/-- The fields that a section has: those of an object, or the items of a list by place, if it has
no more items than there are settings. -/
inductive Assigns : Value → Fields → Prop
  | object (fields : Fields) : Assigns (.object fields) fields
  | list {items : List Value} :
      items.length ≤ fieldNames.length → Assigns (.array items) (fieldNames.zip items)

/-- A setting with this name may have this value.  What is no setting may have any value. -/
structure Admits (name : String) (v : Value) : Prop where
  number : name = "timeout" ∨ name = "maxQueryOutput" → ∃ n < UInt64.size, v = natValue n
  smallNumber : name = "maxRedirects" → ∃ n < UInt32.size, v = natValue n
  flag : name = "followRedirects" ∨ name = "validateSsl" → ∃ b, v = .bool b
  text : name = "jqPath" → ∃ t, v = .string t
  directory : name = "catalogDir" → v = .null ∨ ∃ d, v = .string d

theorem names_zip : ∀ (names : List String) (items : List Value),
    ((names.zip items).map (·.1)).Sublist names
  | [], _ => List.nil_sublist _
  | _ :: _, [] => List.nil_sublist _
  | name :: names, _ :: items => (names_zip names items).cons_cons name

/-- The names of the fields of a section are distinct. -/
theorem Assigns.nodup {part : Value} (h : Assigns part fields) (hordered : part.Ordered) :
    (fields.map (·.1)).Nodup := by
  cases h with
  | object fields =>
    cases hordered with
    | object hascending => exact Fields.nodup_of_ascending hascending
  | list hlength => exact (names_zip fieldNames _).nodup (by decide)

theorem decode_iff_readAll {part : Value} :
    decode part = .ok s ↔ ∃ fields, Assigns part fields ∧ standard.readAll fields = .ok s := by
  constructor
  · intro h
    unfold decode at h
    split at h
    · exact ⟨_, .object _, h⟩
    · rename_i items
      split at h
      · cases h
      · rename_i t hread
        split at h
        · cases h
        · rename_i hlength
          exact ⟨_, .list (Nat.not_lt.1 hlength), hread.trans h⟩
    · cases h
  · rintro ⟨fields, hassigns, hread⟩
    cases hassigns with
    | object fields => exact hread
    | list hlength =>
      rw [decode, hread]
      exact if_neg (Nat.not_lt.2 hlength)

/-- **A section is read as the settings that it fills in**, where it says nothing the usual ones. -/
theorem decode_iff {part : Value} (h : part.Ordered) :
    decode part = .ok s ↔ ∃ fields, Assigns part fields ∧ standard.Fills fields s := by
  rw [decode_iff_readAll]
  refine exists_congr fun fields => and_congr_right fun hassigns => ?_
  exact readAll_iff (hassigns.nodup h)

/-- What a setting can be once there is a value for it. -/
theorem exists_takes_iff {α : Type} {write : α → Value} {before : α} {v? : Option Value} :
    (∃ a, Takes write before v? a) ↔ ∀ v ∈ v?, ∃ a, v = write a := by
  cases v? with
  | none => simp [takes_none]
  | some v => simp [takes_some]

theorem exists_number64_iff {v : Value} :
    (∃ n, v = number64 n) ↔ ∃ n < UInt64.size, v = natValue n := by
  constructor
  · rintro ⟨n, rfl⟩
    exact ⟨n.toNat, n.toNat_lt, rfl⟩
  · rintro ⟨n, hn, rfl⟩
    exact ⟨UInt64.ofNat n, by rw [number64, UInt64.toNat_ofNat_of_lt' hn]⟩

theorem exists_number32_iff {v : Value} :
    (∃ n, v = number32 n) ↔ ∃ n < UInt32.size, v = natValue n := by
  constructor
  · rintro ⟨n, rfl⟩
    exact ⟨n.toNat, n.toNat_lt, rfl⟩
  · rintro ⟨n, hn, rfl⟩
    exact ⟨UInt32.ofNat n, by rw [number32, UInt32.toNat_ofNat_of_lt' hn]⟩

theorem exists_directoryValue_iff {v : Value} :
    (∃ d, v = directoryValue d) ↔ v = .null ∨ ∃ d, v = .string d := by
  constructor
  · rintro ⟨d, rfl⟩
    cases d with
    | none => exact Or.inl rfl
    | some d => exact Or.inr ⟨d, rfl⟩
  · rintro (rfl | ⟨d, rfl⟩)
    · exact ⟨none, rfl⟩
    · exact ⟨some d, rfl⟩

/-- **Settings are filled in exactly if each field may have its value.** -/
theorem exists_fills_iff (h : (fields.map (·.1)).Nodup) :
    (∃ s, base.Fills fields s) ↔ ∀ f ∈ fields, Admits f.1 f.2 := by
  constructor
  · rintro ⟨s, hfills⟩ ⟨name, v⟩ hf
    have hv : v ∈ fields.get? name := (Fields.get?_eq_some_iff h).2 hf
    constructor
    · rintro (rfl | rfl)
      · exact exists_number64_iff.1 (exists_takes_iff.1 ⟨_, hfills.timeout⟩ v hv)
      · exact exists_number64_iff.1 (exists_takes_iff.1 ⟨_, hfills.maxQueryOutput⟩ v hv)
    · rintro rfl
      exact exists_number32_iff.1 (exists_takes_iff.1 ⟨_, hfills.maxRedirects⟩ v hv)
    · rintro (rfl | rfl)
      · exact exists_takes_iff.1 ⟨_, hfills.followRedirects⟩ v hv
      · exact exists_takes_iff.1 ⟨_, hfills.validateSsl⟩ v hv
    · rintro rfl
      exact exists_takes_iff.1 ⟨_, hfills.jqPath⟩ v hv
    · rintro rfl
      exact exists_directoryValue_iff.1 (exists_takes_iff.1 ⟨_, hfills.catalogDir⟩ v hv)
  · intro hadmits
    have hvalue : ∀ name, ∀ v ∈ fields.get? name, Admits name v := fun name v hv =>
      hadmits (name, v) (Fields.mem_of_get? hv)
    obtain ⟨timeout, h1⟩ := exists_takes_iff.2 fun v hv =>
      exists_number64_iff.2 ((hvalue "timeout" v hv).number (Or.inl rfl))
    obtain ⟨followRedirects, h2⟩ := exists_takes_iff.2 fun v hv =>
      (hvalue "followRedirects" v hv).flag (Or.inl rfl)
    obtain ⟨maxRedirects, h3⟩ := exists_takes_iff.2 fun v hv =>
      exists_number32_iff.2 ((hvalue "maxRedirects" v hv).smallNumber rfl)
    obtain ⟨validateSsl, h4⟩ := exists_takes_iff.2 fun v hv =>
      (hvalue "validateSsl" v hv).flag (Or.inr rfl)
    obtain ⟨jqPath, h5⟩ := exists_takes_iff.2 fun v hv => (hvalue "jqPath" v hv).text rfl
    obtain ⟨maxQueryOutput, h6⟩ := exists_takes_iff.2 fun v hv =>
      exists_number64_iff.2 ((hvalue "maxQueryOutput" v hv).number (Or.inr rfl))
    obtain ⟨catalogDir, h7⟩ := exists_takes_iff.2 fun v hv =>
      exists_directoryValue_iff.2 ((hvalue "catalogDir" v hv).directory rfl)
    exact ⟨⟨timeout, followRedirects, maxRedirects, validateSsl, jqPath, maxQueryOutput,
      catalogDir⟩, h1, h2, h3, h4, h5, h6, h7⟩

/-- A section that can be read. -/
def Readable (part : Value) : Prop :=
  ∃ fields, Assigns part fields ∧ ∀ f ∈ fields, Admits f.1 f.2

/-- **A section is read exactly if each of its fields may have its value.** -/
theorem exists_decode_iff {part : Value} (h : part.Ordered) :
    (∃ s, decode part = .ok s) ↔ Readable part := by
  simp only [decode_iff h]
  rw [exists_comm]
  refine exists_congr fun fields => ?_
  rw [exists_and_left]
  exact and_congr_right fun hassigns => exists_fills_iff (hassigns.nodup h)

end CallBook.Settings

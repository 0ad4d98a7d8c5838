import CallBook.Proofs.Json.Ordered
import CallBook.Proofs.Results
import CallBook.Proofs.Template.Walk
/-!
# Substitution along paths

A path leads from a value to one of its parts, by the places of items and the names of fields.
What the substitution in a value does is said along paths: where the value has a string the result
has what is made of it, and where it has anything else the result has the same thing, an array of
the same length or an object with the same names.  A part that the one lacks the other lacks too
(`at?_of_mapStrings`, by induction on the path from the law for one step).

Where the substitution fails there is a string to blame.  It is the first that cannot be
substituted if items are visited in order and fields in the order of their names, each with all
that is in it before the next (`Before`): the induction is on the value, and the parts that were
done before the one that failed have no string that fails (`failsFirst_of_mapStrings`).
-/

namespace CallBook

namespace Json

/-! ## 1. Paths -/

/-- A step from an array to one of its items, or from an object to one of its fields. -/
inductive Step where
  | item (index : Nat)
  | field (name : String)
deriving Repr, DecidableEq

/-- The way from a value to one of its parts. -/
abbrev Path := List Step

/-- The part that is one step away. -/
def Value.child? : Value → Step → Option Value
  | .array items, .item index => items[index]?
  | .object fields, .field name => Fields.get? fields name
  | _, _ => none

/-- The part of a value at the end of a path. -/
def Value.at? (v : Value) : Path → Option Value
  | [] => some v
  | step :: path => (v.child? step).bind (·.at? path)

/-- One path is visited before another: items in order, and fields in the order of their names. -/
inductive Before : Path → Path → Prop
  | item {i j : Nat} {p q : Path} : i < j → Before (.item i :: p) (.item j :: q)
  | field {k l : String} {p q : Path} : k < l → Before (.field k :: p) (.field l :: q)
  | under {step : Step} {p q : Path} : Before p q → Before (step :: p) (step :: q)

/-- A path to somewhere in an array goes through an item. -/
theorem exists_item_of_at? {items : List Value} {path : Path} {s : String}
    (h : (Value.array items).at? path = some (.string s)) :
    ∃ i rest v, path = .item i :: rest ∧ items[i]? = some v ∧ v.at? rest = some (.string s) := by
  cases path with
  | nil => cases h
  | cons step rest =>
    cases step with
    | field name => cases h
    | item i =>
      obtain ⟨v, hv, hrest⟩ := Option.bind_eq_some_iff.1 h
      exact ⟨i, rest, v, rfl, hv, hrest⟩

/-- A path to somewhere in an object goes through a field. -/
theorem exists_field_of_at? {fields : Fields} {path : Path} {s : String}
    (h : (Value.object fields).at? path = some (.string s)) :
    ∃ k rest v, path = .field k :: rest ∧ Fields.get? fields k = some v ∧
      v.at? rest = some (.string s) := by
  cases path with
  | nil => cases h
  | cons step rest =>
    cases step with
    | item i => cases h
    | field k =>
      obtain ⟨v, hv, hrest⟩ := Option.bind_eq_some_iff.1 h
      exact ⟨k, rest, v, rfl, hv, hrest⟩

end Json

namespace Template

open Json (Value Fields Path Before)

variable {ε : Type} {leaf : String → Except ε String}

/-! ## 2. Where it succeeds -/

/-- What becomes of one part of a value, whatever becomes of the parts in it: a string becomes
what `leaf` makes of it, an array keeps its length, an object its names, and all else stays. -/
inductive Becomes (leaf : String → Except ε String) : Value → Value → Prop
  | string {s t : String} : leaf s = .ok t → Becomes leaf (.string s) (.string t)
  | array {items items' : List Value} :
      items'.length = items.length → Becomes leaf (.array items) (.array items')
  | object {fields fields' : Fields} :
      fields'.map (·.1) = fields.map (·.1) → Becomes leaf (.object fields) (.object fields')
  | null : Becomes leaf .null .null
  | bool (b : Bool) : Becomes leaf (.bool b) (.bool b)
  | number (n : Json.Number) : Becomes leaf (.number n) (.number n)

/-- Items are done one by one. -/
theorem forall₂_of_mapItems : ∀ {items items' : List Value},
    mapItems leaf items = .ok items' →
      List.Forall₂ (fun v w => mapStrings leaf v = .ok w) items items'
  | [], items', h => by
    cases h
    exact .nil
  | v :: vs, items', h => by
    rw [mapItems] at h
    cases hv : mapStrings leaf v with
    | error e => simp only [hv, reduceCtorEq] at h
    | ok w =>
      cases hvs : mapItems leaf vs with
      | error e => simp only [hv, hvs, reduceCtorEq] at h
      | ok ws =>
        simp only [hv, hvs, Except.ok.injEq] at h
        subst h
        exact .cons hv (forall₂_of_mapItems hvs)

/-- Fields are done one by one and keep their names. -/
theorem forall₂_of_mapFields : ∀ {fields fields' : Fields},
    mapFields leaf fields = .ok fields' →
      List.Forall₂ (Fields.Matches fun v w => mapStrings leaf v = .ok w) fields fields'
  | [], fields', h => by
    cases h
    exact .nil
  | (k, v) :: rest, fields', h => by
    rw [mapFields] at h
    cases hv : mapStrings leaf v with
    | error e => simp only [hv, reduceCtorEq] at h
    | ok w =>
      cases hrest : mapFields leaf rest with
      | error e => simp only [hv, hrest, reduceCtorEq] at h
      | ok ws =>
        simp only [hv, hrest, Except.ok.injEq] at h
        subst h
        exact .cons ⟨rfl, hv⟩ (forall₂_of_mapFields hrest)

theorem rel_getElem? {R : Value → Value → Prop} {items items' : List Value}
    (h : List.Forall₂ R items items') (index : Nat) : Option.Rel R items[index]? items'[index]? := by
  induction h generalizing index with
  | nil => exact .none
  | cons hhead _ ih =>
    cases index with
    | zero => exact .some hhead
    | succ index => exact ih index

/-- One part of a value. -/
theorem becomes_of_mapStrings {v w : Value} (h : mapStrings leaf v = .ok w) :
    Becomes leaf v w := by
  cases v with
  | null =>
    cases h
    exact .null
  | bool b =>
    cases h
    exact .bool b
  | number n =>
    cases h
    exact .number n
  | string s =>
    obtain ⟨t, ht, rfl⟩ := map_eq_ok h
    exact .string ht
  | array items =>
    obtain ⟨items', hitems, rfl⟩ := map_eq_ok h
    exact .array (forall₂_of_mapItems hitems).length_eq.symm
  | object fields =>
    obtain ⟨fields', hfields, rfl⟩ := map_eq_ok h
    exact .object (Fields.names_of_matches (forall₂_of_mapFields hfields))

/-- One step: what is one step away becomes what is one step away in the result. -/
theorem child?_of_mapStrings {v w : Value} (h : mapStrings leaf v = .ok w) (step : Json.Step) :
    Option.Rel (fun a b => mapStrings leaf a = .ok b) (v.child? step) (w.child? step) := by
  cases v with
  | null =>
    cases h
    exact .none
  | bool b =>
    cases h
    exact .none
  | number n =>
    cases h
    exact .none
  | string s =>
    obtain ⟨t, -, rfl⟩ := map_eq_ok h
    exact .none
  | array items =>
    obtain ⟨items', hitems, rfl⟩ := map_eq_ok h
    cases step with
    | item index => exact rel_getElem? (forall₂_of_mapItems hitems) index
    | field name => exact .none
  | object fields =>
    obtain ⟨fields', hfields, rfl⟩ := map_eq_ok h
    cases step with
    | item index => exact .none
    | field name => exact Fields.rel_get? (forall₂_of_mapFields hfields) name

/-- **Along every path** the result has what the part of the value becomes. -/
theorem at?_of_mapStrings {v w : Value} (h : mapStrings leaf v = .ok w) (path : Path) :
    Option.Rel (Becomes leaf) (v.at? path) (w.at? path) := by
  induction path generalizing v w with
  | nil => exact .some (becomes_of_mapStrings h)
  | cons step path ih =>
    have hstep := child?_of_mapStrings h step
    rw [Value.at?, Value.at?]
    revert hstep
    generalize v.child? step = a
    generalize w.child? step = b
    intro hstep
    cases hstep with
    | none => exact .none
    | some hab => exact ih hab

/-- Where it succeeds every string can be substituted. -/
theorem exists_leaf_of_mapStrings {v w : Value} (h : mapStrings leaf v = .ok w) {path : Path}
    {s : String} (hs : v.at? path = some (.string s)) :
    ∃ t, leaf s = .ok t ∧ w.at? path = some (.string t) := by
  have hrel := at?_of_mapStrings h path
  rw [hs] at hrel
  generalize hw : w.at? path = b at hrel
  cases hrel with
  | some hbecomes =>
    cases hbecomes with
    | string ht => exact ⟨_, ht, rfl⟩

/-! ## 3. Where it fails -/

/-- Of the strings of a value the first that fails, fails with this. -/
def FailsFirst (leaf : String → Except ε String) (v : Value) (cause : ε) : Prop :=
  ∃ path s, v.at? path = some (.string s) ∧ leaf s = .error cause ∧
    ∀ path' s', v.at? path' = some (.string s') → Before path' path → ∃ t, leaf s' = .ok t

/-- Items before the one that fails have no string that fails. -/
theorem failsFirst_array {before after : List Value} {v : Value} {cause : ε}
    (hbefore : ∀ u ∈ before, ∃ w, mapStrings leaf u = .ok w) (hv : FailsFirst leaf v cause) :
    FailsFirst leaf (.array (before ++ v :: after)) cause := by
  obtain ⟨path, s, hs, hcause, hfirst⟩ := hv
  have hget : (before ++ v :: after)[before.length]? = some v := by
    rw [List.getElem?_append_right (Nat.le_refl _), Nat.sub_self]
    rfl
  refine ⟨.item before.length :: path, s, ?_, hcause, ?_⟩
  · simp only [Value.at?, Value.child?, hget, Option.bind_some, hs]
  · intro path' s' hs' hpath
    obtain ⟨i, rest, u, rfl, hu, hrest⟩ := Json.exists_item_of_at? hs'
    cases hpath with
    | item hlt =>
      rw [List.getElem?_append_left hlt] at hu
      obtain ⟨w, hw⟩ := hbefore u (List.mem_of_getElem? hu)
      obtain ⟨t, ht, -⟩ := exists_leaf_of_mapStrings hw hrest
      exact ⟨t, ht⟩
    | under hunder =>
      obtain rfl : v = u := Option.some.inj (hget.symm.trans hu)
      exact hfirst rest s' hrest hunder

/-- Fields with smaller names than the one that fails have no string that fails. -/
theorem failsFirst_object {before after : Fields} {k : String} {v : Value} {cause : ε}
    (hascending : Fields.Ascending (before ++ (k, v) :: after))
    (hbefore : ∀ e ∈ before, ∃ w, mapStrings leaf e.2 = .ok w) (hv : FailsFirst leaf v cause) :
    FailsFirst leaf (.object (before ++ (k, v) :: after)) cause := by
  obtain ⟨path, s, hs, hcause, hfirst⟩ := hv
  have hnames := Fields.nodup_of_ascending hascending
  have hget : Fields.get? (before ++ (k, v) :: after) k = some v :=
    (Fields.get?_eq_some_iff hnames).2 (List.mem_append_right _ List.mem_cons_self)
  refine ⟨.field k :: path, s, ?_, hcause, ?_⟩
  · simp only [Value.at?, Value.child?, hget, Option.bind_some, hs]
  · intro path' s' hs' hpath
    obtain ⟨l, rest, u, rfl, hu, hrest⟩ := Json.exists_field_of_at? hs'
    cases hpath with
    | field hlt =>
      have hmem : (l, u) ∈ before := by
        rcases List.mem_append.1 ((Fields.get?_eq_some_iff hnames).1 hu) with hmem | hmem
        · exact hmem
        · -- a name from here on is not smaller than `k`
          rw [Fields.Ascending, List.map_append, List.pairwise_append] at hascending
          rcases List.mem_cons.1 hmem with heq | hmem
          · exact absurd hlt ((Prod.mk.inj heq).1 ▸ String.lt_irrefl k)
          · have hgt : k < l :=
              List.rel_of_pairwise_cons hascending.2.1 (List.mem_map_of_mem hmem)
            exact absurd hlt (String.lt_asymm hgt)
      obtain ⟨w, hw⟩ := hbefore (l, u) hmem
      obtain ⟨t, ht, -⟩ := exists_leaf_of_mapStrings hw hrest
      exact ⟨t, ht⟩
    | under hunder =>
      obtain rfl : v = u := Option.some.inj (hget.symm.trans hu)
      exact hfirst rest s' hrest hunder

mutual

/-- **Where it fails there is a first string that fails.** -/
theorem failsFirst_of_mapStrings {cause : ε} : ∀ {v : Value}, v.Ordered →
    mapStrings leaf v = .error cause → FailsFirst leaf v cause
  | .null, _, h => by cases h
  | .bool _, _, h => by cases h
  | .number _, _, h => by cases h
  | .string s, _, h => by
    refine ⟨[], s, rfl, map_eq_error h, ?_⟩
    intro path' s' _ hpath
    cases hpath
  | .array items, hordered, h => by
    have hitems : ∀ v ∈ items, v.Ordered := by
      cases hordered with
      | array hall => exact hall
    obtain ⟨before, v, after, rfl, hbefore, hv⟩ := failsFirst_of_mapItems hitems (map_eq_error h)
    exact failsFirst_array hbefore hv
  | .object fields, hordered, h => by
    have hfields : Fields.Ascending fields ∧ ∀ e ∈ fields, e.2.Ordered := by
      cases hordered with
      | object hascending hall => exact ⟨hascending, hall⟩
    obtain ⟨before, k, v, after, rfl, hbefore, hv⟩ :=
      failsFirst_of_mapFields hfields.2 (map_eq_error h)
    exact failsFirst_object hfields.1 hbefore hv

theorem failsFirst_of_mapItems {cause : ε} : ∀ {items : List Value},
    (∀ v ∈ items, v.Ordered) → mapItems leaf items = .error cause →
      ∃ before v after, items = before ++ v :: after ∧
        (∀ u ∈ before, ∃ w, mapStrings leaf u = .ok w) ∧ FailsFirst leaf v cause
  | [], _, h => by cases h
  | v :: vs, hordered, h => by
    obtain ⟨hv, hvs⟩ := List.forall_mem_cons.1 hordered
    rw [mapItems] at h
    cases hhead : mapStrings leaf v with
    | error e =>
      simp only [hhead, Except.error.injEq] at h
      subst h
      exact ⟨[], v, vs, rfl, List.forall_mem_nil _, failsFirst_of_mapStrings hv hhead⟩
    | ok w =>
      cases htail : mapItems leaf vs with
      | ok ws => simp only [hhead, htail, reduceCtorEq] at h
      | error e =>
        simp only [hhead, htail, Except.error.injEq] at h
        subst h
        obtain ⟨before, u, after, rfl, hbefore, hu⟩ := failsFirst_of_mapItems hvs htail
        exact ⟨v :: before, u, after, rfl, List.forall_mem_cons.2 ⟨⟨w, hhead⟩, hbefore⟩, hu⟩

theorem failsFirst_of_mapFields {cause : ε} : ∀ {fields : Fields},
    (∀ e ∈ fields, e.2.Ordered) → mapFields leaf fields = .error cause →
      ∃ before k v after, fields = before ++ (k, v) :: after ∧
        (∀ e ∈ before, ∃ w, mapStrings leaf e.2 = .ok w) ∧ FailsFirst leaf v cause
  | [], _, h => by cases h
  | (k, v) :: rest, hordered, h => by
    obtain ⟨hv, hrest⟩ := List.forall_mem_cons.1 hordered
    rw [mapFields] at h
    cases hhead : mapStrings leaf v with
    | error e =>
      simp only [hhead, Except.error.injEq] at h
      subst h
      exact ⟨[], k, v, rest, rfl, List.forall_mem_nil _, failsFirst_of_mapStrings hv hhead⟩
    | ok w =>
      cases htail : mapFields leaf rest with
      | ok ws => simp only [hhead, htail, reduceCtorEq] at h
      | error e =>
        simp only [hhead, htail, Except.error.injEq] at h
        subst h
        obtain ⟨before, l, u, after, rfl, hbefore, hu⟩ := failsFirst_of_mapFields hrest htail
        exact ⟨(k, v) :: before, l, u, after, rfl,
          List.forall_mem_cons.2 ⟨⟨w, hhead⟩, hbefore⟩, hu⟩

end

/-! ## 4. Substitution in values -/

/-- **What comes of a value.**  It can be substituted exactly if each of its strings can.  Then the
result agrees with it along every path, but for its strings, which are substituted.  Otherwise the
error is that of the first string that cannot be. -/
theorem walk_outcome (scope : Scope) {v : Value} (h : v.Ordered) :
    ((∃ w, walk scope v = .ok w) ↔
      ∀ path s, v.at? path = some (.string s) → ∃ t, substitute scope s = .ok t) ∧
    (∀ w, walk scope v = .ok w →
      ∀ path, Option.Rel (Becomes (substitute scope)) (v.at? path) (w.at? path)) ∧
    ∀ cause, walk scope v = .error cause → FailsFirst (substitute scope) v cause := by
  refine ⟨⟨?_, ?_⟩, fun w hw => at?_of_mapStrings hw, fun cause => failsFirst_of_mapStrings h⟩
  · rintro ⟨w, hw⟩ path s hs
    obtain ⟨t, ht, -⟩ := exists_leaf_of_mapStrings hw hs
    exact ⟨t, ht⟩
  · intro hall
    cases hw : walk scope v with
    | ok w => exact ⟨w, rfl⟩
    | error cause =>
      obtain ⟨path, s, hs, hcause, -⟩ := failsFirst_of_mapStrings h hw
      obtain ⟨t, ht⟩ := hall path s hs
      rw [ht] at hcause
      cases hcause

/-- A value whose strings stand at several depths. -/
def letter : Value :=
  .object [("$A", .array [.string "$A", .number (.integer 1), .object [("k", .string "$!K")]]),
    ("b", .string "$!B"), ("c", .null)]

theorem letter_ordered : letter.Ordered := by
  have hinner : (Value.object [("k", .string "$!K")]).Ordered :=
    .object (by rw [Fields.Ascending]; decide) (by simpa using Value.Ordered.string "$!K")
  have hitems : (Value.array [.string "$A", .number (.integer 1),
      .object [("k", .string "$!K")]]).Ordered :=
    .array (by simp [Value.Ordered.string, Value.Ordered.number, hinner])
  exact .object (by rw [Fields.Ascending]; decide)
    (by simp [Value.Ordered.string, Value.Ordered.null, hitems])

/-- Of the two strings that miss a value the deeper one is visited first. -/
theorem walk_outcome_of_letter :
    letter.Ordered ∧
    walk ⟨.ofList [("A", "a")], .empty, .standard⟩ letter = .error ⟨"K"⟩ ∧
    FailsFirst (substitute ⟨.ofList [("A", "a")], .empty, .standard⟩) letter ⟨"K"⟩ := by
  have hwalk : walk ⟨.ofList [("A", "a")], .empty, .standard⟩ letter = .error ⟨"K"⟩ := by
    have hmissing : Scope.firstMissing? ⟨.ofList [("A", "a")], .empty, .standard⟩
        (strings letter) = some "K" := by decide +kernel
    rw [walk_eq, hmissing]
  exact ⟨letter_ordered, hwalk, (walk_outcome _ letter_ordered).2.2 _ hwalk⟩

end Template

end CallBook

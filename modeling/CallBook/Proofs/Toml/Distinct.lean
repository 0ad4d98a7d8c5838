import Mathlib.Data.List.Nodup
import CallBook.Toml.Parser
/-!
# Names of a document are distinct

A table that is built from assignments gets a name only while it lacks it, and otherwise changes
what the name stands for.  So in every table of a document each name stands once, at every depth
(`parse_distinct`): headers, dotted names and elements of table arrays all go through
`Items.change`, and the tables between braces are built in the same way.
-/

namespace CallBook.Toml

/-! ## 1. Distinct names -/

/-- No name stands twice. -/
def NamesDistinct {α : Type} (fields : List (String × α)) : Prop := (fields.map (·.1)).Nodup

/-- A value that is neither array nor table. -/
def Value.Scalar (v : Value) : Prop := (∀ items, v ≠ .array items) ∧ ∀ fields, v ≠ .table fields

/-- In no table of the value a name stands twice, at any depth. -/
inductive Value.Distinct : Value → Prop
  | scalar {v : Value} : v.Scalar → Distinct v
  | array {items : List Value} : (∀ v ∈ items, Distinct v) → Distinct (.array items)
  | table {fields : Table} :
      NamesDistinct fields → (∀ f ∈ fields, Distinct f.2) → Distinct (.table fields)

/-- In no table of what is built a name stands twice, at any depth. -/
inductive Item.Distinct : Item → Prop
  | leaf {v : Value} : v.Distinct → Distinct (.leaf v)
  | table {origin : Origin} {fields : Items} :
      NamesDistinct fields → (∀ f ∈ fields, Distinct f.2) → Distinct (.table origin fields)
  | tables {elements : List Items} :
      (∀ fields ∈ elements, NamesDistinct fields) →
      (∀ fields ∈ elements, ∀ f ∈ fields, Distinct f.2) → Distinct (.tables elements)

/-- No name stands twice, also not in what is below. -/
structure Items.Distinct (fields : Items) : Prop where
  names : NamesDistinct fields
  below : ∀ f ∈ fields, f.2.Distinct

theorem Value.scalar_string (s : String) : (Value.string s).Scalar := ⟨nofun, nofun⟩

theorem Value.scalar_integer (i : Int) : (Value.integer i).Scalar := ⟨nofun, nofun⟩

theorem Value.scalar_float (x : Option Binary64) : (Value.float x).Scalar := ⟨nofun, nofun⟩

theorem Value.scalar_bool (b : Bool) : (Value.bool b).Scalar := ⟨nofun, nofun⟩

theorem Value.scalar_moment (m : Calendar.Moment) : (Value.moment m).Scalar := ⟨nofun, nofun⟩

theorem Value.Distinct.of_table {fields : Table} (h : (Value.table fields).Distinct) :
    NamesDistinct fields ∧ ∀ f ∈ fields, f.2.Distinct := by
  cases h with
  | scalar hscalar => exact absurd rfl (hscalar.2 fields)
  | table hnames hbelow => exact ⟨hnames, hbelow⟩

theorem Value.Distinct.of_array {items : List Value} (h : (Value.array items).Distinct) :
    ∀ v ∈ items, v.Distinct := by
  cases h with
  | scalar hscalar => exact absurd rfl (hscalar.1 items)
  | array hitems => exact hitems

/-- What is found in a table has distinct names as well. -/
theorem Value.Distinct.of_lookup {fields : Table} (h : (Value.table fields).Distinct)
    {name : String} {v : Value} (hv : v ∈ fields.lookup name) : v.Distinct := by
  obtain ⟨before, after, rfl, -⟩ := List.lookup_eq_some_iff.1 hv
  exact h.of_table.2 (name, v) (List.mem_append_right _ List.mem_cons_self)

theorem namesDistinct_cons {α : Type} {name : String} {a : α} {fields : List (String × α)} :
    NamesDistinct ((name, a) :: fields) ↔ name ∉ fields.map (·.1) ∧ NamesDistinct fields :=
  List.nodup_cons

theorem namesDistinct_append_singleton {α : Type} {name : String} {a : α}
    {fields : List (String × α)} (h : NamesDistinct fields) (hname : name ∉ fields.map (·.1)) :
    NamesDistinct (fields ++ [(name, a)]) := by
  rw [NamesDistinct, List.map_append]
  exact List.Nodup.append h (List.nodup_singleton name) (List.disjoint_singleton.2 hname)

namespace Items

theorem distinct_nil : Distinct [] := ⟨List.nodup_nil, List.forall_mem_nil _⟩

theorem distinct_cons {name : String} {item : Item} {fields : Items} :
    Distinct ((name, item) :: fields) ↔
      (name ∉ fields.map (·.1) ∧ item.Distinct) ∧ Distinct fields := by
  constructor
  · rintro ⟨hnames, hbelow⟩
    obtain ⟨hname, hnames⟩ := namesDistinct_cons.1 hnames
    obtain ⟨hitem, hbelow⟩ := List.forall_mem_cons.1 hbelow
    exact ⟨⟨hname, hitem⟩, hnames, hbelow⟩
  · rintro ⟨⟨hname, hitem⟩, hnames, hbelow⟩
    exact ⟨namesDistinct_cons.2 ⟨hname, hnames⟩, List.forall_mem_cons.2 ⟨hitem, hbelow⟩⟩

theorem Distinct.append_singleton {fields : Items} {name : String} {item : Item}
    (h : fields.Distinct) (hname : name ∉ fields.map (·.1)) (hitem : item.Distinct) :
    Distinct (fields ++ [(name, item)]) := by
  refine ⟨namesDistinct_append_singleton h.names hname, fun f hf => ?_⟩
  rcases List.mem_append.1 hf with hf | hf
  · exact h.below f hf
  · rw [List.mem_singleton.1 hf]
    exact hitem

theorem Distinct.table {fields : Items} (h : fields.Distinct) (origin : Origin) :
    (Item.table origin fields).Distinct :=
  .table h.names h.below

theorem Distinct.tables {elements : List Items} (h : ∀ fields ∈ elements, Distinct fields) :
    (Item.tables elements).Distinct :=
  .tables (fun fields hmem => (h fields hmem).names) fun fields hmem => (h fields hmem).below

/-! ## 2. Building tables -/

/-- A change adds no name but the one that is changed. -/
theorem mem_names_of_change {name : String} {f : Option Item → Option Item} :
    ∀ {fields result : Items}, change name f fields = some result →
      ∀ n ∈ result.map (·.1), n = name ∨ n ∈ fields.map (·.1)
  | [], result, h, n, hn => by
    obtain ⟨item, -, rfl⟩ := Option.map_eq_some_iff.1 h
    exact Or.inl (List.mem_singleton.1 hn)
  | (k, item) :: rest, result, h, n, hn => by
    rw [change] at h
    split at h
    · obtain ⟨item', -, rfl⟩ := Option.map_eq_some_iff.1 h
      exact Or.inr hn
    · obtain ⟨rest', hrest, rfl⟩ := Option.map_eq_some_iff.1 h
      rcases List.mem_cons.1 hn with rfl | hn
      · exact Or.inr List.mem_cons_self
      · exact (mem_names_of_change hrest n hn).imp_right (List.mem_cons_of_mem k)

/-- A change keeps names distinct if it does so in what the name stands for. -/
theorem Distinct.change {name : String} {f : Option Item → Option Item}
    (hf : ∀ {old new}, (∀ item ∈ old, item.Distinct) → f old = some new → new.Distinct) :
    ∀ {fields result : Items}, fields.Distinct → change name f fields = some result →
      result.Distinct
  | [], result, _, h => by
    obtain ⟨item, hitem, rfl⟩ := Option.map_eq_some_iff.1 h
    exact distinct_cons.2 ⟨⟨List.not_mem_nil, hf (by simp) hitem⟩, distinct_nil⟩
  | (k, item) :: rest, result, hfields, h => by
    obtain ⟨⟨hk, hitem⟩, hrest⟩ := distinct_cons.1 hfields
    rw [Items.change] at h
    split at h
    · obtain ⟨new, hnew, rfl⟩ := Option.map_eq_some_iff.1 h
      exact distinct_cons.2 ⟨⟨hk, hf (by simpa using hitem) hnew⟩, hrest⟩
    · rename_i hne
      obtain ⟨rest', hchange, rfl⟩ := Option.map_eq_some_iff.1 h
      refine distinct_cons.2 ⟨⟨fun hmem => ?_, hitem⟩, Distinct.change hf hrest hchange⟩
      exact (mem_names_of_change hchange k hmem).elim hne hk

theorem Distinct.add {name : String} {item : Item} {fields result : Items}
    (hitem : item.Distinct) (hfields : fields.Distinct) (h : add name item fields = some result) :
    result.Distinct := by
  refine hfields.change (fun {old new} _ hnew => ?_) h
  cases old with
  | none => exact Option.some.inj hnew ▸ hitem
  | some _ => cases hnew

/-- What is done at the end of a path keeps names distinct, and so does going there. -/
theorem Distinct.descend {origin : Origin} {edit : Origin → Items → Option Items}
    (hedit : ∀ {own fields result}, Distinct fields → edit own fields = some result →
      Distinct result) :
    ∀ {path : List String} {own : Origin} {fields result : Items}, fields.Distinct →
      descend origin edit path own fields = some result → result.Distinct
  | [], _, _, _, hfields, h => hedit hfields h
  | name :: path, own, fields, result, hfields, h => by
    refine hfields.change (fun {old new} hold hnew => ?_) h
    match old with
    | none =>
      obtain ⟨inner, hinner, rfl⟩ := Option.map_eq_some_iff.1 hnew
      exact (Distinct.descend hedit distinct_nil hinner).table origin
    | some (.leaf _) => cases hnew
    | some (.table held inner) =>
      dsimp only at hnew
      split at hnew
      · cases hnew
      · obtain ⟨after, hafter, rfl⟩ := Option.map_eq_some_iff.1 hnew
        cases hold _ rfl with
        | table hnames hbelow =>
          exact (Distinct.descend hedit ⟨hnames, hbelow⟩ hafter).table held
    | some (.tables elements) =>
      dsimp only at hnew
      split at hnew
      · cases hnew
      · rename_i last before hsplit
        obtain ⟨after, hafter, rfl⟩ := Option.map_eq_some_iff.1 hnew
        have helements : ∀ fields ∈ last :: before, Distinct fields := by
          intro fields hmem
          rw [← hsplit, List.mem_reverse] at hmem
          cases hold _ rfl with
          | tables hnames hbelow => exact ⟨hnames fields hmem, hbelow fields hmem⟩
        obtain ⟨hlast, hbefore⟩ := List.forall_mem_cons.1 helements
        refine Distinct.tables fun fields hmem => ?_
        rcases List.mem_cons.1 (List.mem_reverse.1 hmem) with rfl | hmem
        · exact Distinct.descend hedit hlast hafter
        · exact hbefore fields hmem

theorem Distinct.assign {path : List String} {name : String} {value : Value}
    {fields result : Items} (hvalue : value.Distinct) (hfields : fields.Distinct)
    (h : assign path name value fields = some result) : result.Distinct := by
  refine hfields.descend (fun {own fields result} hfields hedit => ?_) h
  split at hedit
  · cases hedit
  · exact hfields.add (.leaf hvalue) hedit

/-- What each step preserves a run preserves. -/
theorem of_foldlM {α β : Type} {P : β → Prop} {f : β → α → Option β} :
    ∀ {steps : List α} {b result : β},
      (∀ a ∈ steps, ∀ {b b'}, P b → f b a = some b' → P b') → P b →
        steps.foldlM f b = some result → P result
  | [], b, result, _, hb, h => Option.some.inj h ▸ hb
  | a :: steps, b, result, hstep, hb, h => by
    obtain ⟨b', hfirst, hrest⟩ := Option.bind_eq_some_iff.1 (List.foldlM_cons.symm.trans h)
    obtain ⟨ha, hsteps⟩ := List.forall_mem_cons.1 hstep
    exact of_foldlM hsteps (ha hb hfirst) hrest

/-- The values that are assigned have distinct names below them. -/
def Assigns (assignments : List ((List String × String) × Value)) : Prop :=
  ∀ a ∈ assignments, a.2.Distinct

theorem Distinct.assignAll {assignments : List ((List String × String) × Value)}
    {fields result : Items} (hvalues : Assigns assignments) (hfields : fields.Distinct)
    (h : assignAll assignments fields = some result) : result.Distinct :=
  of_foldlM (fun a ha {_ _} hb hstep => hb.assign (hvalues a ha) hstep) hfields h

theorem Distinct.state {name : String} {assignments : List ((List String × String) × Value)}
    {fields result : Items} (hvalues : Assigns assignments) (hfields : fields.Distinct)
    (h : state name assignments fields = some result) : result.Distinct := by
  unfold Items.state at h
  split at h
  · rename_i hlookup
    obtain ⟨inner, hinner, rfl⟩ := Option.map_eq_some_iff.1 h
    refine hfields.append_singleton (fun hmem => ?_) ((distinct_nil.assignAll hvalues hinner).table _)
    obtain ⟨f, hf, heq⟩ := List.mem_map.1 hmem
    have hne := List.lookup_eq_none_iff.1 hlookup f hf
    simp [heq] at hne
  · rename_i inner hlookup
    obtain ⟨after, hafter, rfl⟩ := Option.map_eq_some_iff.1 h
    obtain ⟨before, rest, hsplit, -⟩ := List.lookup_eq_some_iff.1 hlookup
    have hinner : Distinct inner := by
      have hmem : (name, Item.table .implied inner) ∈ fields := by simp [hsplit]
      cases hfields.below _ hmem with
      | table hnames hbelow => exact ⟨hnames, hbelow⟩
    have hkept : Distinct (fields.filter (·.1 ≠ name)) :=
      ⟨List.Nodup.sublist (List.filter_sublist.map _) hfields.names,
        fun f hf => hfields.below f (List.mem_filter.1 hf).1⟩
    refine hkept.append_singleton (fun hmem => ?_) ((hinner.assignAll hvalues hafter).table _)
    obtain ⟨f, hf, heq⟩ := List.mem_map.1 hmem
    simp [heq] at hf
  · cases h

theorem Distinct.append {name : String} {assignments : List ((List String × String) × Value)}
    {fields result : Items} (hvalues : Assigns assignments) (hfields : fields.Distinct)
    (h : append name assignments fields = some result) : result.Distinct := by
  refine hfields.change (fun {old new} hold hnew => ?_) h
  match old with
  | none =>
    obtain ⟨inner, hinner, rfl⟩ := Option.map_eq_some_iff.1 hnew
    refine Distinct.tables fun fields hmem => ?_
    rw [List.mem_singleton.1 hmem]
    exact distinct_nil.assignAll hvalues hinner
  | some (.tables elements) =>
    obtain ⟨inner, hinner, rfl⟩ := Option.map_eq_some_iff.1 hnew
    refine Distinct.tables fun fields hmem => ?_
    rcases List.mem_append.1 hmem with hmem | hmem
    · cases hold _ rfl with
      | tables hnames hbelow => exact ⟨hnames fields hmem, hbelow fields hmem⟩
    · rw [List.mem_singleton.1 hmem]
      exact distinct_nil.assignAll hvalues hinner
  | some (.leaf _) => cases hnew
  | some (.table _ _) => cases hnew

end Items

theorem Section.place_distinct {s : Section} {root result : Items}
    (hvalues : Items.Assigns s.assignments) (hroot : root.Distinct)
    (h : s.place root = some result) : result.Distinct := by
  unfold Section.place at h
  split at h
  · exact hroot.descend (fun hfields hedit => hfields.state hvalues hedit) h
  · exact hroot.descend (fun hfields hedit => hfields.append hvalues hedit) h

/-! ## 3. Built tables -/

theorem names_itemValues : ∀ fields : Items, (itemValues fields).map (·.1) = fields.map (·.1)
  | [] => rfl
  | (name, item) :: rest => by
    rw [itemValues, List.map_cons, List.map_cons, names_itemValues rest]

mutual

/-- What is built has distinct names if it had them while it was built. -/
theorem Item.value_distinct : ∀ {item : Item}, item.Distinct → item.value.Distinct
  | .leaf v, h => by
    cases h with
    | leaf hv => exact hv
  | .table origin fields, h => by
    cases h with
    | table hnames hbelow =>
      refine .table ?_ (itemValues_distinct hbelow)
      rwa [NamesDistinct, names_itemValues]
  | .tables elements, h => by
    cases h with
    | tables hnames hbelow => exact .array (elementValues_distinct hnames hbelow)

theorem itemValues_distinct : ∀ {fields : Items}, (∀ f ∈ fields, f.2.Distinct) →
    ∀ f ∈ itemValues fields, f.2.Distinct
  | [], _ => List.forall_mem_nil _
  | (name, item) :: rest, h => by
    obtain ⟨hitem, hrest⟩ := List.forall_mem_cons.1 h
    rw [itemValues]
    exact List.forall_mem_cons.2 ⟨Item.value_distinct hitem, itemValues_distinct hrest⟩

theorem elementValues_distinct : ∀ {elements : List Items},
    (∀ fields ∈ elements, NamesDistinct fields) →
    (∀ fields ∈ elements, ∀ f ∈ fields, f.2.Distinct) →
      ∀ v ∈ elementValues elements, v.Distinct
  | [], _, _ => List.forall_mem_nil _
  | fields :: rest, hnames, hbelow => by
    obtain ⟨hfirst, hnames⟩ := List.forall_mem_cons.1 hnames
    obtain ⟨hfields, hbelow⟩ := List.forall_mem_cons.1 hbelow
    rw [elementValues]
    refine List.forall_mem_cons.2 ⟨.table ?_ (itemValues_distinct hfields),
      elementValues_distinct hnames hbelow⟩
    rwa [NamesDistinct, names_itemValues]

end

theorem Items.Distinct.values {fields : Items} (h : fields.Distinct) :
    (Value.table (itemValues fields)).Distinct :=
  Item.value_distinct (h.table .stated)

theorem inlineTable_distinct {assignments : List ((List String × String) × Value)} {table : Table}
    (hvalues : Items.Assigns assignments) (h : inlineTable assignments = some table) :
    (Value.table table).Distinct := by
  obtain ⟨fields, hfields, rfl⟩ := Option.map_eq_some_iff.1 h
  exact (Items.distinct_nil.assignAll hvalues hfields).values

theorem documentTable_distinct {assignments : List ((List String × String) × Value)}
    {sections : List Section} {table : Table} (hvalues : Items.Assigns assignments)
    (hsections : ∀ s ∈ sections, Items.Assigns s.assignments)
    (h : documentTable assignments sections = some table) : (Value.table table).Distinct := by
  obtain ⟨root, hroot, h⟩ := Option.bind_eq_some_iff.1 h
  obtain ⟨built, hbuilt, h⟩ := Option.bind_eq_some_iff.1 h
  have hdistinct : root.Distinct := Items.distinct_nil.assignAll hvalues hroot
  have hbuiltDistinct : built.Distinct :=
    Items.of_foldlM (fun s hs {_ _} hb hstep => Section.place_distinct (hsections s hs) hb hstep)
      hdistinct hbuilt
  exact Option.some.inj h ▸ hbuiltDistinct.values

/-! ## 4. Values that are read -/

section Scalars

variable {v : Value} {cs rest : List Char}

theorem scalar_of_map {α : Type} {read : Option α} {f : α → Value × List Char}
    (h : read.map f = some (v, rest)) (hf : ∀ a ∈ read, (f a).1.Scalar) : v.Scalar := by
  obtain ⟨a, ha, heq⟩ := Option.map_eq_some_iff.1 h
  have hscalar := hf a ha
  rwa [heq] at hscalar

theorem integer?_scalar {negative : Bool} {n : Nat} (h : integer? negative n = some v) :
    v.Scalar := by
  unfold integer? at h
  split at h <;> split at h <;> cases h <;> exact Value.scalar_integer _

theorem float?_scalar {negative : Bool} {digits : List Char} {e : Int}
    (h : float? negative digits e = some v) : v.Scalar := by
  unfold float? at h
  split at h
  · cases h
    exact Value.scalar_float _
  · split at h <;> cases h
    exact Value.scalar_float _

theorem readDecimal_scalar {negative : Bool} (h : readDecimal negative cs = some (v, rest)) :
    v.Scalar := by
  simp only [readDecimal, Option.bind_eq_bind, Option.bind_eq_some_iff] at h
  obtain ⟨_, -, _, -, _, -, h⟩ := h
  split at h
  · exact scalar_of_map h fun _ hw => integer?_scalar hw
  · exact scalar_of_map h fun _ hw => float?_scalar hw

theorem readSpecial_scalar (h : readSpecial cs = some (v, rest)) : v.Scalar :=
  scalar_of_map h fun _ _ => Value.scalar_float _

theorem readBased_scalar {base : Nat} {isDigit : Char → Bool}
    (h : readBased base isDigit cs = some (v, rest)) : v.Scalar := by
  unfold readBased at h
  split at h
  · cases h
  · exact scalar_of_map h fun _ hw => integer?_scalar hw

theorem readNumber_scalar (h : readNumber cs = some (v, rest)) : v.Scalar := by
  unfold readNumber at h
  split at h
  · exact readBased_scalar h
  · exact readBased_scalar h
  · exact readBased_scalar h
  · rcases Option.or_eq_some_iff.1 h with h | ⟨-, h⟩
    · exact readDecimal_scalar h
    · exact readSpecial_scalar h

theorem readNumberOrMoment_scalar (h : readNumberOrMoment cs = some (v, rest)) : v.Scalar := by
  unfold readNumberOrMoment at h
  split at h
  · exact scalar_of_map h fun _ _ => Value.scalar_moment _
  · split at h
    · exact scalar_of_map h fun _ _ => Value.scalar_moment _
    · exact readNumber_scalar h

theorem readScalar_scalar (h : readScalar cs = some (v, rest)) : v.Scalar := by
  unfold readScalar at h
  split at h
  · cases h
  · split at h
    · exact scalar_of_map h fun _ _ => Value.scalar_string _
    · split at h
      · exact scalar_of_map h fun _ _ => Value.scalar_bool _
      · split at h
        · exact scalar_of_map h fun _ _ => Value.scalar_bool _
        · split at h
          · exact readSpecial_scalar h
          · exact readNumberOrMoment_scalar h

end Scalars

section Containers

variable {item : List Char → Read Value}

/-- A reader of values with distinct names. -/
def ReadsDistinct (item : List Char → Read Value) : Prop :=
  ∀ {cs v rest}, item cs = some (v, rest) → v.Distinct

theorem readItems_distinct (hitem : ReadsDistinct item) :
    ∀ {bound : Nat} {cs rest : List Char} {vs : List Value},
      readItems item bound cs = some (vs, rest) → ∀ v ∈ vs, v.Distinct
  | 0, _, _, _, h => by cases h
  | bound + 1, cs, rest, vs, h => by
    rw [readItems] at h
    split at h
    · cases h
    · cases h
      exact List.forall_mem_nil _
    · split at h
      · cases h
      · rename_i v rest' hv
        split at h
        · obtain ⟨⟨ws, rest''⟩, hws, heq⟩ := Option.map_eq_some_iff.1 h
          cases heq
          exact List.forall_mem_cons.2 ⟨hitem hv, readItems_distinct hitem hws⟩
        · cases h
          exact List.forall_mem_cons.2 ⟨hitem hv, List.forall_mem_nil _⟩
        · cases h

theorem readAssignment_distinct (hitem : ReadsDistinct item) {cs rest : List Char}
    {a : (List String × String) × Value} (h : readAssignment item cs = some (a, rest)) :
    a.2.Distinct := by
  unfold readAssignment at h
  split at h
  · obtain ⟨⟨v, rest'⟩, hv, heq⟩ := Option.map_eq_some_iff.1 h
    cases heq
    exact hitem hv
  · cases h

theorem readAssignments_distinct (hitem : ReadsDistinct item) :
    ∀ {bound : Nat} {cs rest : List Char} {as : List ((List String × String) × Value)},
      readAssignments item bound cs = some (as, rest) → Items.Assigns as
  | 0, _, _, _, h => by cases h
  | bound + 1, cs, rest, as, h => by
    rw [readAssignments] at h
    split at h
    · cases h
    · rename_i a rest' ha
      have hfirst := readAssignment_distinct hitem ha
      split at h
      · obtain ⟨⟨others, rest''⟩, hothers, heq⟩ := Option.map_eq_some_iff.1 h
        cases heq
        exact List.forall_mem_cons.2 ⟨hfirst, readAssignments_distinct hitem hothers⟩
      · cases h
        exact List.forall_mem_cons.2 ⟨hfirst, List.forall_mem_nil _⟩
      · cases h

theorem readInlineTable_distinct (hitem : ReadsDistinct item) {cs rest : List Char} {v : Value}
    (h : readInlineTable item cs = some (v, rest)) : v.Distinct := by
  unfold readInlineTable at h
  split at h
  · cases h
    exact .table List.nodup_nil (List.forall_mem_nil _)
  · split at h
    · cases h
    · rename_i assignments rest' has
      obtain ⟨table, htable, heq⟩ := Option.map_eq_some_iff.1 h
      cases heq
      exact inlineTable_distinct (readAssignments_distinct hitem has) htable

end Containers

/-- **Every value that is read has distinct names**, however deep tables and arrays nest. -/
theorem readValue_distinct : ∀ depth : Nat, ReadsDistinct (readValue depth)
  | 0, _, _, _, h => by
    unfold readValue at h
    split at h
    · cases h
    · cases h
    · exact .scalar (readScalar_scalar h)
  | depth + 1, cs, v, rest, h => by
    unfold readValue at h
    split at h
    · obtain ⟨⟨vs, rest'⟩, hvs, heq⟩ := Option.map_eq_some_iff.1 h
      cases heq
      exact .array (readItems_distinct (readValue_distinct depth) hvs)
    · exact readInlineTable_distinct (readValue_distinct depth) h
    · exact .scalar (readScalar_scalar h)

/-! ## 5. Documents -/

/-- A line assigns no value with a name twice. -/
def Line.Distinct : Line → Prop
  | .assignment _ v => v.Distinct
  | .header _ => True

theorem readLine_distinct {cs rest : List Char} {line : Line}
    (h : readLine cs = some (line, rest)) : line.Distinct := by
  unfold readLine at h
  split at h
  · split at h
    · cases h
    · obtain ⟨_, -, heq⟩ := Option.map_eq_some_iff.1 h
      cases heq
      trivial
  · split at h
    · cases h
    · obtain ⟨_, -, heq⟩ := Option.map_eq_some_iff.1 h
      cases heq
      trivial
  · split at h
    · cases h
    · rename_i name v rest' ha
      obtain ⟨_, -, heq⟩ := Option.map_eq_some_iff.1 h
      cases heq
      exact readAssignment_distinct (readValue_distinct greatestDepth) ha

theorem readLines_distinct : ∀ {bound : Nat} {cs : List Char} {lines : List Line},
    readLines bound cs = some lines → ∀ line ∈ lines, line.Distinct
  | 0, cs, lines, h => by
    rw [readLines] at h
    split at h
    · cases h
      exact List.forall_mem_nil _
    · cases h
  | bound + 1, cs, lines, h => by
    rw [readLines] at h
    split at h
    · cases h
      exact List.forall_mem_nil _
    · obtain ⟨rest, -, hrest⟩ := Option.bind_eq_some_iff.1 h
      exact readLines_distinct hrest
    · split at h
      · exact readLines_distinct h
      · split at h
        · cases h
        · rename_i line rest hline
          obtain ⟨others, hothers, rfl⟩ := Option.map_eq_some_iff.1 h
          exact List.forall_mem_cons.2 ⟨readLine_distinct hline, readLines_distinct hothers⟩

/-- What the sections of a document assign is what its lines assign. -/
theorem sections_distinct : ∀ {lines : List Line}, (∀ line ∈ lines, line.Distinct) →
    Items.Assigns (sections lines).1 ∧ ∀ s ∈ (sections lines).2, Items.Assigns s.assignments
  | [], _ => ⟨List.forall_mem_nil _, List.forall_mem_nil _⟩
  | .assignment name v :: lines, h => by
    obtain ⟨hv, hlines⟩ := List.forall_mem_cons.1 h
    obtain ⟨hassigns, hsections⟩ := sections_distinct hlines
    exact ⟨List.forall_mem_cons.2 ⟨hv, hassigns⟩, hsections⟩
  | .header header :: lines, h => by
    obtain ⟨-, hlines⟩ := List.forall_mem_cons.1 h
    obtain ⟨hassigns, hsections⟩ := sections_distinct hlines
    exact ⟨List.forall_mem_nil _, List.forall_mem_cons.2 ⟨hassigns, hsections⟩⟩

/-! ## 6. Moments -/

theorem names_settleFields : ∀ {fields settled : Table}, settleFields fields = some settled →
    settled.map (·.1) = fields.map (·.1)
  | [], settled, h => by
    cases h
    rfl
  | (name, v) :: rest, settled, h => by
    rw [settleFields] at h
    obtain ⟨w, -, h⟩ := Option.bind_eq_some_iff.1 h
    obtain ⟨others, hothers, h⟩ := Option.bind_eq_some_iff.1 h
    cases h
    rw [List.map_cons, List.map_cons, names_settleFields hothers]

mutual

/-- Moments in place of tables leave the names of the others distinct. -/
theorem Value.settle_distinct : ∀ {v settled : Value}, v.Distinct → v.settle = some settled →
    settled.Distinct
  | .array items, settled, hv, h => by
    rw [Value.settle] at h
    obtain ⟨others, hothers, rfl⟩ := Option.map_eq_some_iff.1 h
    exact .array (settleItems_distinct hv.of_array hothers)
  | .table fields, settled, hv, h => by
    rw [Value.settle] at h
    split at h
    · obtain ⟨m, -, rfl⟩ := Option.map_eq_some_iff.1 h
      exact .scalar (Value.scalar_moment m)
    · obtain ⟨others, hothers, rfl⟩ := Option.map_eq_some_iff.1 h
      obtain ⟨hnames, hbelow⟩ := hv.of_table
      refine .table ?_ (settleFields_distinct hbelow hothers)
      rwa [NamesDistinct, names_settleFields hothers]
  | .string _, _, hv, h | .integer _, _, hv, h | .float _, _, hv, h | .bool _, _, hv, h
  | .moment _, _, hv, h => by
    cases h
    exact hv

theorem settleItems_distinct : ∀ {items settled : List Value}, (∀ v ∈ items, v.Distinct) →
    settleItems items = some settled → ∀ v ∈ settled, v.Distinct
  | [], settled, _, h => by
    cases h
    exact List.forall_mem_nil _
  | v :: rest, settled, hitems, h => by
    obtain ⟨hv, hrest⟩ := List.forall_mem_cons.1 hitems
    rw [settleItems] at h
    obtain ⟨w, hw, h⟩ := Option.bind_eq_some_iff.1 h
    obtain ⟨others, hothers, h⟩ := Option.bind_eq_some_iff.1 h
    cases h
    exact List.forall_mem_cons.2
      ⟨Value.settle_distinct hv hw, settleItems_distinct hrest hothers⟩

theorem settleFields_distinct : ∀ {fields settled : Table}, (∀ f ∈ fields, f.2.Distinct) →
    settleFields fields = some settled → ∀ f ∈ settled, f.2.Distinct
  | [], settled, _, h => by
    cases h
    exact List.forall_mem_nil _
  | (name, v) :: rest, settled, hfields, h => by
    obtain ⟨hv, hrest⟩ := List.forall_mem_cons.1 hfields
    rw [settleFields] at h
    obtain ⟨w, hw, h⟩ := Option.bind_eq_some_iff.1 h
    obtain ⟨others, hothers, h⟩ := Option.bind_eq_some_iff.1 h
    cases h
    exact List.forall_mem_cons.2
      ⟨Value.settle_distinct hv hw, settleFields_distinct hrest hothers⟩

end

/-- **In no table of a document a name stands twice**, at any depth. -/
theorem parse_distinct {text : String} {document : Table} (h : parse text = some document) :
    (Value.table document).Distinct := by
  unfold parse at h
  dsimp only at h
  split at h
  · cases h
  · rename_i lines hlines
    obtain ⟨hassigns, hsections⟩ := sections_distinct (readLines_distinct hlines)
    obtain ⟨built, hbuilt, hsettled⟩ := Option.bind_eq_some_iff.1 h
    obtain ⟨hnames, hbelow⟩ := (documentTable_distinct hassigns hsections hbuilt).of_table
    refine .table ?_ (settleFields_distinct hbelow hsettled)
    rwa [NamesDistinct, names_settleFields hsettled]

end CallBook.Toml

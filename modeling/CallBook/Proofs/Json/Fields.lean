import Mathlib.Data.List.Forall2
import CallBook.Json.Value
/-!
# Laws of fields

Setting a field keeps the names in strictly ascending order, and a look-up afterwards finds the
value that was set last.  A list of assignments therefore leaves an ascending list of fields,
in which each name has the value of its last assignment (`get?_ofList`).  An ascending list is
left as it is (`ofList_of_ascending`).
-/

namespace CallBook.Json.Fields

/-! ## 1. Setting one field -/

theorem mem_of_mem_insert : ∀ {fields : Fields} {name : String} {value : Value}
    {e : String × Value}, e ∈ insert fields name value → e = (name, value) ∨ e ∈ fields
  | [], _, _, _, h => by simpa [insert] using h
  | (k, v) :: rest, name, value, e, h => by
    rw [insert] at h
    split at h
    · exact List.mem_cons.1 h
    · split at h
      · rcases List.mem_cons.1 h with h | h
        · exact Or.inl h
        · exact Or.inr (List.mem_cons_of_mem _ h)
      · rcases List.mem_cons.1 h with rfl | h
        · exact Or.inr List.mem_cons_self
        · rcases mem_of_mem_insert h with h | h
          · exact Or.inl h
          · exact Or.inr (List.mem_cons_of_mem _ h)

theorem ascending_cons {k : String} {v : Value} {rest : Fields} :
    Ascending ((k, v) :: rest) ↔ (∀ e ∈ rest, k < e.1) ∧ Ascending rest := by
  simp [Ascending]

/-- **Setting a field keeps the order of the names.** -/
theorem ascending_insert : ∀ {fields : Fields} (name : String) (value : Value),
    Ascending fields → Ascending (insert fields name value)
  | [], name, value, _ => by simp [insert, Ascending]
  | (k, v) :: rest, name, value, h => by
    obtain ⟨hk, hrest⟩ := ascending_cons.1 h
    rw [insert]
    split
    · rename_i hlt
      refine ascending_cons.2 ⟨?_, h⟩
      intro e he
      rcases List.mem_cons.1 he with rfl | he
      · exact hlt
      · exact String.lt_trans hlt (hk e he)
    · rename_i hlt
      split
      · rename_i heq
        exact ascending_cons.2 ⟨fun e he => heq ▸ hk e he, hrest⟩
      · rename_i hne
        refine ascending_cons.2 ⟨?_, ascending_insert name value hrest⟩
        intro e he
        rcases mem_of_mem_insert he with rfl | he
        · refine Classical.byContradiction fun hge => hne ?_
          exact String.le_antisymm (String.not_lt.1 hge) (String.not_lt.1 hlt)
        · exact hk e he

theorem get?_cons (k name : String) (v : Value) (rest : Fields) :
    get? ((k, v) :: rest) name = if name = k then some v else get? rest name := by
  by_cases h : name = k
  · simp [get?, h]
  · have hb : (name == k) = false := by simp [h]
    simp [get?, List.lookup_cons, hb, h]

theorem get?_append (fields others : Fields) (name : String) :
    get? (fields ++ others) name = (get? fields name).or (get? others name) :=
  List.lookup_append

theorem get?_insert (name other : String) (value : Value) : ∀ fields : Fields,
    get? (insert fields name value) other =
      if other = name then some value else get? fields other
  | [] => get?_cons name other value []
  | (k, v) :: rest => by
    rw [insert]
    split
    · exact get?_cons name other value _
    · split
      · rename_i heq
        subst heq
        rw [get?_cons, get?_cons]
        split <;> rfl
      · rename_i hne
        rw [get?_cons, get?_cons, get?_insert name other value rest]
        by_cases hk : other = k
        · subst hk
          simp [Ne.symm hne]
        · simp [hk]

/-! ## 2. Lists of assignments -/

/-- Only what was there and what is assigned can be there afterwards. -/
theorem mem_foldl_insert : ∀ {assignments : List (String × Value)} {fields : Fields}
    {e : String × Value},
    e ∈ assignments.foldl (fun fields (name, value) => insert fields name value) fields →
      e ∈ fields ∨ e ∈ assignments
  | [], _, _, h => Or.inl h
  | (name, value) :: rest, fields, e, h => by
    rw [List.foldl_cons] at h
    rcases mem_foldl_insert h with h | h
    · rcases mem_of_mem_insert h with rfl | h
      · exact Or.inr List.mem_cons_self
      · exact Or.inl h
    · exact Or.inr (List.mem_cons_of_mem _ h)

theorem ascending_foldl_insert : ∀ (assignments : List (String × Value)) {fields : Fields},
    Ascending fields →
      Ascending (assignments.foldl (fun fields (name, value) => insert fields name value) fields)
  | [], _, h => h
  | (name, value) :: rest, _, h => by
    rw [List.foldl_cons]
    exact ascending_foldl_insert rest (ascending_insert name value h)

/-- **The last assignment of a name counts**, and what was there counts where there is none. -/
theorem get?_foldl_insert (name : String) : ∀ (assignments : List (String × Value))
    (fields : Fields),
    get? (assignments.foldl (fun fields (name, value) => insert fields name value) fields) name =
      (assignments.reverse.lookup name).or (get? fields name)
  | [], fields => rfl
  | (k, v) :: rest, fields => by
    have hlast : ([(k, v)] : Fields).lookup name = if name = k then some v else none :=
      get?_cons k name v []
    rw [List.foldl_cons, get?_foldl_insert name rest, get?_insert, List.reverse_cons,
      List.lookup_append, Option.or_assoc, hlast]
    by_cases h : name = k <;> simp [h]

theorem mem_of_mem_ofList {assignments : List (String × Value)} {e : String × Value}
    (h : e ∈ ofList assignments) : e ∈ assignments := by
  rcases mem_foldl_insert h with h | h
  · exact absurd h List.not_mem_nil
  · exact h

/-- The fields that assignments leave stand in the order of their names. -/
theorem ascending_ofList (assignments : List (String × Value)) :
    Ascending (ofList assignments) :=
  ascending_foldl_insert assignments List.Pairwise.nil

theorem get?_ofList (assignments : List (String × Value)) (name : String) :
    get? (ofList assignments) name = assignments.reverse.lookup name := by
  rw [ofList, get?_foldl_insert]
  simp [get?]

/-- A field that is found is one of the fields. -/
theorem mem_of_get? {fields : Fields} {name : String} {value : Value}
    (h : get? fields name = some value) : (name, value) ∈ fields := by
  obtain ⟨before, after, hsplit, -⟩ := List.lookup_eq_some_iff.1 h
  rw [hsplit]
  exact List.mem_append_right _ List.mem_cons_self

/-! ## 3. Distinct names -/

/-- Where names are distinct a field is found if it is there. -/
theorem get?_eq_some_iff {name : String} {value : Value} : ∀ {fields : Fields},
    (fields.map (·.1)).Nodup → (get? fields name = some value ↔ (name, value) ∈ fields)
  | [], _ => by simp [get?]
  | (k, v) :: rest, h => by
    obtain ⟨hk, hrest⟩ := List.nodup_cons.1 h
    rw [get?_cons, List.mem_cons, Prod.mk.injEq]
    by_cases hname : name = k
    · have hnone : (k, value) ∉ rest := fun hmem => hk (List.mem_map.2 ⟨_, hmem, rfl⟩)
      simp [hname, hnone, eq_comm]
    · simp [hname, get?_eq_some_iff hrest]

/-- Fields with distinct names are distinct. -/
theorem nodup_of_names {fields : Fields} (h : (fields.map (·.1)).Nodup) : fields.Nodup :=
  List.Pairwise.of_map _ (fun _ _ hne heq => hne (congrArg _ heq)) h

theorem nodup_of_ascending {fields : Fields} (h : Ascending fields) : (fields.map (·.1)).Nodup :=
  List.Pairwise.imp (fun {a b} (hlt : a < b) (heq : a = b) => String.lt_irrefl b (heq ▸ hlt)) h

/-- Where names are distinct the order of the fields is of no account. -/
theorem get?_of_perm {fields others : Fields} (h : fields.Perm others)
    (hnames : (others.map (·.1)).Nodup) (name : String) : get? fields name = get? others name := by
  refine Option.ext fun value => ?_
  rw [get?_eq_some_iff hnames, get?_eq_some_iff ((h.map _).nodup_iff.2 hnames), h.mem_iff]

/-- A field is not found if no field has its name. -/
theorem get?_eq_none_iff {fields : Fields} {name : String} :
    get? fields name = none ↔ ∀ e ∈ fields, e.1 ≠ name := by
  rw [get?, List.lookup_eq_none_iff]
  refine forall₂_congr fun e _ => ?_
  rw [bne_iff_ne, ne_comm]

/-- A field that is kept keeps its value. -/
theorem get?_filter (p : String → Bool) (name : String) : ∀ fields : Fields,
    get? (fields.filter fun e => p e.1) name = if p name then get? fields name else none
  | [] => by simp [get?]
  | (k, v) :: rest => by
    have ih := get?_filter p name rest
    rw [List.filter_cons, get?_cons]
    by_cases hname : name = k
    · subst hname
      cases hp : p name <;> simp [hp, get?_cons, ih]
    · cases hp : p k <;> simp [hname, get?_cons, ih]

theorem ascending_filter {fields : Fields} (h : Ascending fields) (p : String × Value → Bool) :
    Ascending (fields.filter p) :=
  List.Pairwise.sublist (List.filter_sublist.map _) h

/-- Fields that stand in order are known by what is found in them. -/
theorem eq_of_get?_eq {fields others : Fields} (h : Ascending fields) (h' : Ascending others)
    (hget : ∀ name, get? fields name = get? others name) : fields = others := by
  have hnames := nodup_of_ascending h
  have hnames' := nodup_of_ascending h'
  have hperm : fields.Perm others := by
    refine (List.perm_ext_iff_of_nodup (nodup_of_names hnames) (nodup_of_names hnames')).2
      fun e => ?_
    rw [← get?_eq_some_iff hnames, ← get?_eq_some_iff hnames', hget]
  refine List.Perm.eq_of_pairwise (fun a b _ _ hab hba => ?_) (List.pairwise_map.1 h)
    (List.pairwise_map.1 h') hperm
  exact absurd hba (String.lt_asymm hab)

/-- A greater name goes to the end. -/
theorem insert_of_lt {name : String} (value : Value) : ∀ {fields : Fields},
    (∀ e ∈ fields, e.1 < name) → insert fields name value = fields ++ [(name, value)]
  | [], _ => rfl
  | (k, v) :: rest, h => by
    obtain ⟨hk, hrest⟩ := List.forall_mem_cons.1 h
    rw [insert, if_neg (String.lt_asymm hk), if_neg fun heq => String.lt_irrefl _ (heq ▸ hk),
      insert_of_lt value hrest, List.cons_append]

theorem foldl_insert_of_ascending : ∀ {assignments fields : Fields},
    Ascending (fields ++ assignments) →
      assignments.foldl (fun fields (name, value) => insert fields name value) fields =
        fields ++ assignments
  | [], fields, _ => (List.append_nil fields).symm
  | (name, value) :: rest, fields, h => by
    have hlt : ∀ e ∈ fields, e.1 < name := by
      rw [Ascending, List.map_append, List.pairwise_append] at h
      exact fun e he => h.2.2 e.1 (List.mem_map_of_mem he) name List.mem_cons_self
    have hsplit : fields ++ (name, value) :: rest = (fields ++ [(name, value)]) ++ rest := by
      rw [List.append_assoc, List.singleton_append]
    have ih := foldl_insert_of_ascending (hsplit ▸ h)
    simp only [List.foldl_cons, insert_of_lt value hlt]
    rw [ih, hsplit]

/-- Fields that stand in order are left as they are. -/
theorem ofList_of_ascending {fields : Fields} (h : Ascending fields) : ofList fields = fields :=
  foldl_insert_of_ascending h

/-! ## 4. Fields one by one -/

/-- Two fields have one name, and values that stand in a relation. -/
def Matches (R : Value → Value → Prop) (e f : String × Value) : Prop := f.1 = e.1 ∧ R e.2 f.2

section Matching

variable {R : Value → Value → Prop} {fields others : Fields}

theorem names_of_matches (h : List.Forall₂ (Matches R) fields others) :
    others.map (·.1) = fields.map (·.1) := by
  induction h with
  | nil => rfl
  | cons hhead _ ih => rw [List.map_cons, List.map_cons, hhead.1, ih]

theorem rel_get? (h : List.Forall₂ (Matches R) fields others) (name : String) :
    Option.Rel R (get? fields name) (get? others name) := by
  induction h with
  | nil => exact .none
  | @cons e f _ _ hhead _ ih =>
    obtain ⟨k, v⟩ := e
    obtain ⟨l, w⟩ := f
    obtain ⟨rfl, hvw⟩ := hhead
    rw [get?_cons, get?_cons]
    split
    · exact .some hvw
    · exact ih

/-- The order of fields is that of their names. -/
theorem ascending_of_names (h : Ascending fields)
    (hnames : others.map (·.1) = fields.map (·.1)) : Ascending others := by
  rw [Ascending, hnames]
  exact h

end Matching

end CallBook.Json.Fields

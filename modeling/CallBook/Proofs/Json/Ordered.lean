import CallBook.Json.Parser
import CallBook.Proofs.Json.Fields
/-!
# Ordered values

A value is ordered if the fields of each object in it, at any depth, stand in strictly
ascending order of their names.  Every value that is read from a text is ordered
(`parse_ordered`): an object gets its fields through `Fields.ofList`, and the readers for items
and fields only pass on what the reader for values gives them.
-/

namespace CallBook.Json

/-- The fields of every object in the value stand in the order of their names. -/
inductive Value.Ordered : Value → Prop
  | null : Ordered .null
  | bool (b : Bool) : Ordered (.bool b)
  | number (n : Number) : Ordered (.number n)
  | string (s : String) : Ordered (.string s)
  | array {items : List Value} : (∀ v ∈ items, Ordered v) → Ordered (.array items)
  | object {fields : Fields} :
      Fields.Ascending fields → (∀ e ∈ fields, Ordered e.2) → Ordered (.object fields)

/-- Assignments of ordered values make up an ordered object. -/
theorem Value.Ordered.ofList {assignments : List (String × Value)}
    (h : ∀ e ∈ assignments, e.2.Ordered) : (Value.object (Fields.ofList assignments)).Ordered :=
  .object (Fields.ascending_ofList assignments) fun e he => h e (Fields.mem_of_mem_ofList he)

/-! ## 1. Items and fields -/

section Containers

variable {P : Value → Prop} {item : List Char → Read Value}

theorem readMoreItems_forall
    (hitem : ∀ {cs v rest}, item cs = .ok (v, rest) → P v) :
    ∀ {bound : Nat} {cs rest : List Char} {vs : List Value},
      readMoreItems item bound cs = .ok (vs, rest) → ∀ v ∈ vs, P v
  | 0, _, _, _, h => by simp [readMoreItems, failAfterByte] at h
  | bound + 1, cs, rest, vs, h => by
    rw [readMoreItems] at h
    split at h
    · simp [failAfterByte] at h
    · cases h
      simp
    · split at h
      · simp [failAfterByte] at h
      · simp [failAfterByte] at h
      · split at h
        · cases h
        · rename_i w rest' hw
          split at h
          · cases h
          · rename_i ws rest'' hws
            cases h
            exact List.forall_mem_cons.2 ⟨hitem hw, readMoreItems_forall hitem hws⟩
    · simp [failAfterByte] at h

theorem readItems_forall (hitem : ∀ {cs v rest}, item cs = .ok (v, rest) → P v)
    {cs rest : List Char} {vs : List Value} (h : readItems item cs = .ok (vs, rest)) :
    ∀ v ∈ vs, P v := by
  unfold readItems at h
  split at h
  · simp [failAfterByte] at h
  · cases h
    simp
  · split at h
    · cases h
    · rename_i w rest' hw
      split at h
      · cases h
      · rename_i ws rest'' hws
        cases h
        exact List.forall_mem_cons.2 ⟨hitem hw, readMoreItems_forall hitem hws⟩

theorem readField_forall (hitem : ∀ {cs v rest}, item cs = .ok (v, rest) → P v)
    {cs rest : List Char} {f : String × Value} (h : readField item cs = .ok (f, rest)) :
    P f.2 := by
  unfold readField at h
  split at h
  · cases h
  · split at h
    · simp [failAfterByte] at h
    · split at h
      · cases h
      · rename_i hw
        cases h
        exact hitem hw
    · simp [failAfterByte] at h

theorem readMoreFields_forall (hitem : ∀ {cs v rest}, item cs = .ok (v, rest) → P v) :
    ∀ {bound : Nat} {cs rest : List Char} {fs : List (String × Value)},
      readMoreFields item bound cs = .ok (fs, rest) → ∀ f ∈ fs, P f.2
  | 0, _, _, _, h => by simp [readMoreFields, failAfterByte] at h
  | bound + 1, cs, rest, fs, h => by
    rw [readMoreFields] at h
    split at h
    · simp [failAfterByte] at h
    · cases h
      simp
    · split at h
      · simp [failAfterByte] at h
      · split at h
        · cases h
        · rename_i g rest' hg
          split at h
          · cases h
          · rename_i gs rest'' hgs
            cases h
            exact List.forall_mem_cons.2
              ⟨readField_forall hitem hg, readMoreFields_forall hitem hgs⟩
      · simp [failAfterByte] at h
      · simp [failAfterByte] at h
    · simp [failAfterByte] at h

theorem readFields_forall (hitem : ∀ {cs v rest}, item cs = .ok (v, rest) → P v)
    {cs rest : List Char} {fs : List (String × Value)}
    (h : readFields item cs = .ok (fs, rest)) : ∀ f ∈ fs, P f.2 := by
  unfold readFields at h
  split at h
  · simp [failAfterByte] at h
  · cases h
    simp
  · split at h
    · cases h
    · rename_i g rest' hg
      split at h
      · cases h
      · rename_i gs rest'' hgs
        cases h
        exact List.forall_mem_cons.2
          ⟨readField_forall hitem hg, readMoreFields_forall hitem hgs⟩
  · simp [failAfterByte] at h

end Containers

/-! ## 2. Values -/

theorem readWord_eq {value v : Value} : ∀ {word cs rest : List Char},
    readWord value word cs = .ok (v, rest) → v = value
  | [], _, _, h => by cases h; rfl
  | _ :: _, [], _, h => by simp [readWord, failHere] at h
  | w :: word, c :: cs, _, h => by
    rw [readWord] at h
    split at h
    · exact readWord_eq h
    · simp [failAfterByte] at h

/-- The result of a reader whose results are wrapped. -/
theorem exists_of_map_eq_ok {α β : Type} {read : Read α} {f : α → β} {b : β} {rest : List Char}
    (h : (read.map fun (a, rest) => (f a, rest)) = .ok (b, rest)) :
    ∃ a, read = .ok (a, rest) ∧ b = f a := by
  cases read with
  | error e => cases h
  | ok r =>
    obtain ⟨a, rest'⟩ := r
    cases h
    exact ⟨a, rfl, rfl⟩

theorem readScalar_ordered {cs rest : List Char} {v : Value}
    (h : readScalar cs = .ok (v, rest)) : v.Ordered := by
  unfold readScalar at h
  split at h
  · simp [failAfterByte] at h
  · exact readWord_eq h ▸ .null
  · exact readWord_eq h ▸ .bool true
  · exact readWord_eq h ▸ .bool false
  · obtain ⟨s, -, rfl⟩ := exists_of_map_eq_ok (f := fun s => Value.string (String.ofList s)) h
    exact .string _
  · obtain ⟨n, -, rfl⟩ := exists_of_map_eq_ok (f := Value.number) h
    exact .number n
  · split at h
    · obtain ⟨n, -, rfl⟩ := exists_of_map_eq_ok (f := Value.number) h
      exact .number n
    · simp [failAfterByte] at h

/-- **Every value that is read is ordered**, however deep containers may nest. -/
theorem readValue_ordered : ∀ (depth : Nat) {cs rest : List Char} {v : Value},
    readValue depth cs = .ok (v, rest) → v.Ordered
  | 0, _, _, _, h => by
    rw [readValue] at h
    split at h
    · simp [failAfterByte] at h
    · simp [failAfterByte] at h
    · exact readScalar_ordered h
  | depth + 1, cs, rest, v, h => by
    rw [readValue] at h
    split at h
    · obtain ⟨vs, hvs, rfl⟩ := exists_of_map_eq_ok (f := Value.array) h
      exact .array (readItems_forall (readValue_ordered depth) hvs)
    · obtain ⟨fs, hfs, rfl⟩ :=
        exists_of_map_eq_ok (f := fun fs => Value.object (Fields.ofList fs)) h
      exact .ofList (readFields_forall (readValue_ordered depth) hfs)
    · exact readScalar_ordered h

/-- A text holds a value if that is read from it and only blanks are left. -/
theorem parse_eq_ok_iff {text : String} {v : Value} :
    parse text = .ok v ↔
      ∃ rest, readValue greatestDepth text.toList = .ok (v, rest) ∧ skipSpace rest = [] := by
  rw [parse, readText]
  cases readValue greatestDepth text.toList with
  | error e => simp
  | ok read =>
    obtain ⟨w, rest⟩ := read
    cases hspace : skipSpace rest <;> simp [hspace]

theorem parse_ordered {text : String} {v : Value} (h : parse text = .ok v) : v.Ordered := by
  obtain ⟨rest, hvalue, -⟩ := parse_eq_ok_iff.1 h
  exact readValue_ordered greatestDepth hvalue

end CallBook.Json

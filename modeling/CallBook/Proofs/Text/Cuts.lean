import CallBook.Text.Blank
import CallBook.Text.Search
/-!
# Laws of cut texts

A search is said by what stands before and after the find: `splitFirst_eq_some_iff` says that the
find is an occurrence and that none begins further left; whether there is one at all, parts of a
text tell on their own (`infix_append_cons_iff`).  The pieces between separators are read
off from left to right, each of them free of separators (`splitAt_append`,
`splitAt_of_not_mem`).  What is trimmed off a text are blanks at its two ends (`exists_trim`).
-/

namespace CallBook.Text

/-! ## 1. The leftmost occurrence -/

/-- `before` and `after` are what stands around the leftmost occurrence of `pattern`. -/
def Leftmost (pattern cs before after : List Char) : Prop :=
  cs = before ++ pattern ++ after ∧
    ∀ before' after', cs = before' ++ pattern ++ after' → before.length ≤ before'.length

theorem stripStart?_eq_none_iff {pattern cs : List Char} :
    stripStart? pattern cs = none ↔ ∀ rest, cs ≠ pattern ++ rest := by
  rw [Option.eq_none_iff_forall_ne_some]
  exact forall_congr' fun rest => not_congr stripStart?_eq_some_iff

/-- An occurrence at the very front is the leftmost one. -/
theorem leftmost_at_front {pattern cs rest before after : List Char} (h : cs = pattern ++ rest) :
    Leftmost pattern cs before after ↔ before = [] ∧ after = rest := by
  constructor
  · rintro ⟨hcs, hleft⟩
    have hnil : before = [] := List.length_eq_zero_iff.1 (Nat.le_zero.1 (hleft [] rest h))
    subst hnil
    exact ⟨rfl, List.append_cancel_left (hcs.symm.trans h)⟩
  · rintro ⟨rfl, rfl⟩
    exact ⟨h, fun _ _ _ => Nat.zero_le _⟩

/-- Without an occurrence at the front the leftmost one is that of the rest. -/
theorem leftmost_cons {pattern cs before after : List Char} {c : Char}
    (h : ∀ rest, c :: cs ≠ pattern ++ rest) :
    Leftmost pattern (c :: cs) before after ↔
      ∃ before', before = c :: before' ∧ Leftmost pattern cs before' after := by
  constructor
  · rintro ⟨hcs, hleft⟩
    cases before with
    | nil => exact absurd hcs (h after)
    | cons d before =>
      simp only [List.cons_append, List.cons.injEq] at hcs
      obtain ⟨rfl, hcs⟩ := hcs
      refine ⟨before, rfl, hcs, fun b a hba => ?_⟩
      have hle := hleft (c :: b) a (by rw [hba]; rfl)
      simpa using hle
  · rintro ⟨before, rfl, hcs, hleft⟩
    refine ⟨by rw [hcs]; rfl, fun b a hba => ?_⟩
    cases b with
    | nil => exact absurd hba (h a)
    | cons d b =>
      simp only [List.cons_append, List.cons.injEq] at hba
      exact Nat.succ_le_succ (hleft b a hba.2)

/-- **A search finds the leftmost occurrence.** -/
theorem splitFirst_eq_some_iff {pattern cs before after : List Char} :
    splitFirst pattern cs = some (before, after) ↔ Leftmost pattern cs before after := by
  induction cs generalizing before with
  | nil =>
    rw [splitFirst]
    cases h : stripStart? pattern [] with
    | some rest =>
      rw [leftmost_at_front (stripStart?_eq_some_iff.1 h)]
      simp [eq_comm]
    | none =>
      refine iff_of_false (by simp) fun hfirst => stripStart?_eq_none_iff.1 h after ?_
      obtain ⟨hbefore, hrest⟩ := List.append_eq_nil_iff.1 (List.append_assoc .. ▸ hfirst.1.symm)
      exact hrest.symm
  | cons c cs ih =>
    rw [splitFirst]
    cases h : stripStart? pattern (c :: cs) with
    | some rest =>
      rw [leftmost_at_front (stripStart?_eq_some_iff.1 h)]
      simp [eq_comm]
    | none =>
      rw [leftmost_cons (stripStart?_eq_none_iff.1 h)]
      simp only [Option.map_eq_some_iff, Prod.exists, Prod.mk.injEq]
      constructor
      · rintro ⟨b, a, hfirst, rfl, rfl⟩
        exact ⟨b, rfl, ih.1 hfirst⟩
      · rintro ⟨b, rfl, hfirst⟩
        exact ⟨b, after, ih.2 hfirst, rfl, rfl⟩

/-- A replacement stands in the place of the leftmost occurrence. -/
theorem replaceFirst_of_leftmost {pattern cs before after : List Char}
    (h : Leftmost pattern cs before after) (replacement : List Char) :
    replaceFirst pattern replacement cs = before ++ replacement ++ after := by
  rw [replaceFirst, splitFirst_eq_some_iff.2 h]

theorem stripStart?_isSome_iff {pattern cs : List Char} :
    (stripStart? pattern cs).isSome = true ↔ pattern <+: cs := by
  rw [Option.isSome_iff_exists]
  exact exists_congr fun rest => stripStart?_eq_some_iff.trans eq_comm

/-- **A pattern occurs** where it is the whole of some part of the text. -/
theorem occurs_iff {pattern : List Char} : ∀ {cs : List Char},
    occurs pattern cs = true ↔ pattern <:+: cs
  | [] => by
    rw [occurs, splitFirst, Option.isSome_map, stripStart?_isSome_iff, List.prefix_nil,
      List.infix_nil]
  | c :: cs => by
    have hcons : occurs pattern (c :: cs) =
        ((stripStart? pattern (c :: cs)).isSome || occurs pattern cs) := by
      rw [occurs, splitFirst]
      cases stripStart? pattern (c :: cs) with
      | some rest => rfl
      | none => exact Option.isSome_map
    rw [hcons, Bool.or_eq_true, stripStart?_isSome_iff, occurs_iff, List.infix_cons_iff]

/-- Where a pattern occurs it has one leftmost occurrence. -/
theorem exists_leftmost {pattern cs : List Char} (h : pattern <:+: cs) :
    ∃ before after, ∀ b a, Leftmost pattern cs b a ↔ b = before ∧ a = after := by
  obtain ⟨⟨before, after⟩, hsplit⟩ := Option.isSome_iff_exists.1 (occurs_iff.2 h)
  refine ⟨before, after, fun b a => ?_⟩
  rw [← splitFirst_eq_some_iff, hsplit, Option.some.injEq, Prod.mk.injEq, eq_comm,
    eq_comm (a := after)]

/-- What stands at the front of a text does not reach over a character that is not in it. -/
theorem prefix_append_cons_iff {c : Char} {ys : List Char} : ∀ {pattern xs : List Char},
    c ∉ pattern → (pattern <+: xs ++ c :: ys ↔ pattern <+: xs)
  | [], _, _ => by simp
  | p :: pattern, [], h => by
    have hp : p ≠ c := fun e => h (e ▸ List.mem_cons_self)
    simp [List.cons_prefix_cons, hp]
  | p :: pattern, x :: xs, h => by
    have hnot : c ∉ pattern := fun hmem => h (List.mem_cons_of_mem p hmem)
    rw [List.cons_append, List.cons_prefix_cons, List.cons_prefix_cons,
      prefix_append_cons_iff hnot]

/-- A pattern does not reach over a character that is not in it. -/
theorem infix_append_cons_iff {pattern ys : List Char} {c : Char} (h : c ∉ pattern) :
    ∀ {xs : List Char}, pattern <:+: xs ++ c :: ys ↔ pattern <:+: xs ∨ pattern <:+: ys
  | [] => by
    rw [List.nil_append, List.infix_cons_iff, ← List.nil_append (c :: ys),
      prefix_append_cons_iff h, List.prefix_nil, List.infix_nil]
  | x :: xs => by
    rw [List.cons_append, List.infix_cons_iff, infix_append_cons_iff h, ← List.cons_append,
      prefix_append_cons_iff h, List.infix_cons_iff, or_assoc]

/-! ## 2. Pieces between separators -/

theorem splitAt_of_not_mem {separator : Char} : ∀ {piece : List Char}, separator ∉ piece →
    splitAt separator piece = [piece]
  | [], _ => rfl
  | c :: piece, h => by
    have hc : c ≠ separator := fun e => h (e ▸ List.mem_cons_self)
    have ih := splitAt_of_not_mem fun hmem => h (List.mem_cons_of_mem c hmem)
    rw [splitAt, if_neg hc, ih]

theorem splitAt_append {separator : Char} : ∀ {piece : List Char} (rest : List Char),
    separator ∉ piece →
      splitAt separator (piece ++ separator :: rest) = piece :: splitAt separator rest
  | [], rest, _ => by rw [List.nil_append, splitAt, if_pos rfl]
  | c :: piece, rest, h => by
    have hc : c ≠ separator := fun e => h (e ▸ List.mem_cons_self)
    have ih := splitAt_append rest fun hmem => h (List.mem_cons_of_mem c hmem)
    rw [List.cons_append, splitAt, if_neg hc, ih]

/-- A text is one piece, or a piece and what follows the separator behind it. -/
theorem exists_piece (separator : Char) (cs : List Char) :
    ∃ piece, separator ∉ piece ∧
      (cs = piece ∨ ∃ rest, cs = piece ++ separator :: rest) := by
  by_cases h : separator ∈ cs
  · obtain ⟨piece, rest, rfl, hpiece⟩ := List.eq_append_cons_of_mem h
    exact ⟨piece, hpiece, Or.inr ⟨rest, rfl⟩⟩
  · exact ⟨cs, h, Or.inl rfl⟩

/-- The first separator is the one that no other stands before. -/
theorem splitOnce_eq_some_iff {separator : Char} : ∀ {cs before after : List Char},
    splitOnce separator cs = some (before, after) ↔
      cs = before ++ separator :: after ∧ separator ∉ before
  | [], before, after => by simp [splitOnce]
  | c :: cs, before, after => by
    by_cases hc : c = separator
    · subst hc
      cases before with
      | nil => simp [splitOnce]
      | cons b before =>
        have hne : c = b → c ∈ b :: before := fun e => e ▸ List.mem_cons_self
        simp only [splitOnce, if_pos, Option.some.injEq, Prod.mk.injEq, List.cons_append,
          List.cons.injEq]
        exact ⟨fun h => absurd h.1 (List.cons_ne_nil b before).symm, fun h => absurd (hne h.1.1) h.2⟩
    · rw [splitOnce, if_neg hc, Option.map_eq_some_iff]
      constructor
      · rintro ⟨⟨before, after⟩, h, ⟨⟩⟩
        obtain ⟨rfl, hfree⟩ := splitOnce_eq_some_iff.1 h
        exact ⟨rfl, List.not_mem_cons_of_ne_of_not_mem (Ne.symm hc) hfree⟩
      · rintro ⟨hcs, hfree⟩
        cases before with
        | nil => exact absurd (List.cons.inj hcs).1 hc
        | cons b before =>
          obtain ⟨rfl, rfl⟩ := List.cons.inj hcs
          have htail : splitOnce separator (before ++ separator :: after) = some (before, after) :=
            splitOnce_eq_some_iff.2 ⟨rfl, List.not_mem_of_not_mem_cons hfree⟩
          exact ⟨(before, after), htail, rfl⟩

/-! ## 3. Trimming -/

/-- A text is what is left of it when its end is dropped, and what is dropped. -/
theorem exists_dropEndWhile (p : Char → Bool) (cs : List Char) :
    ∃ right, cs = dropEndWhile p cs ++ right ∧ (∀ c ∈ right, p c = true) ∧
      ∀ c ∈ (dropEndWhile p cs).getLast?, p c = false := by
  refine ⟨(cs.reverse.takeWhile p).reverse, ?_, fun c hc => ?_, fun c hc => ?_⟩
  · rw [dropEndWhile, ← List.reverse_append, List.takeWhile_append_dropWhile, List.reverse_reverse]
  · exact List.all_eq_true.1 List.all_takeWhile c (List.mem_reverse.1 hc)
  · rw [dropEndWhile, List.getLast?_reverse] at hc
    have hhead := List.head?_dropWhile_not p cs.reverse
    rw [Option.mem_def.1 hc] at hhead
    exact hhead

/-- A text is what is left of it when it is trimmed, and blanks around that. -/
theorem exists_trim (cs : List Char) :
    ∃ left right, cs = left ++ trim cs ++ right ∧
      (∀ c ∈ left, isBlank c = true) ∧ ∀ c ∈ right, isBlank c = true := by
  have hfront : cs.takeWhile isBlank ++ cs.dropWhile isBlank = cs :=
    List.takeWhile_append_dropWhile
  obtain ⟨right, hback, hright, -⟩ := exists_dropEndWhile isBlank (cs.dropWhile isBlank)
  refine ⟨cs.takeWhile isBlank, right, ?_, fun c hc => ?_, hright⟩
  · rw [List.append_assoc, trim, ← hback, hfront]
  · exact List.all_eq_true.1 List.all_takeWhile c hc

/-- A text is trimmed to nothing if there are only blanks in it. -/
theorem trim_eq_nil_iff {cs : List Char} : trim cs = [] ↔ ∀ c ∈ cs, isBlank c = true := by
  obtain ⟨left, right, hcs, hleft, hright⟩ := exists_trim cs
  constructor
  · intro hnil c hc
    rw [hcs, hnil, List.append_nil] at hc
    exact (List.mem_append.1 hc).elim (hleft c) (hright c)
  · intro hblank
    obtain ⟨-, -, -, hlast⟩ := exists_dropEndWhile isBlank (cs.dropWhile isBlank)
    refine List.getLast?_eq_none_iff.1 (Option.eq_none_iff_forall_ne_some.2 fun c hc => ?_)
    have hmem : c ∈ cs := by
      rw [hcs]
      exact List.mem_append_left _ (List.mem_append_right _ (List.mem_of_getLast? hc))
    exact Bool.false_ne_true ((hlast c hc).symm.trans (hblank c hmem))

end CallBook.Text

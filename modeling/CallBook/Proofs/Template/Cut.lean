import CallBook.Template.Piece
/-!
# The one way to cut a template

`Cut cs ps` says what it is to cut the text `cs` into the pieces `ps`, without a word on how
the pieces are found.  A dollar that is not yet used up opens `$$` if a dollar follows, a
placeholder if a name follows, perhaps after a mark, and otherwise stands for itself.  A name
is as long as it can be: `EndsName` says so of what is left behind it.

At most one rule fits each text, so a text has exactly one cut, and it is the one that `scan`
finds (`cut_iff`).  What the rules do not say is that the pieces give back the text; that
follows (`Cut.source`).
-/

namespace CallBook.Template

/-! ## 1. Names -/

/-- An ASCII letter or the underscore. -/
def NameStart (c : Char) : Prop := ('A' ≤ c ∧ c ≤ 'Z') ∨ ('a' ≤ c ∧ c ≤ 'z') ∨ c = '_'

/-- An ASCII letter, an ASCII digit or the underscore. -/
def NameRest (c : Char) : Prop := NameStart c ∨ ('0' ≤ c ∧ c ≤ '9')

instance (c : Char) : Decidable (NameStart c) := inferInstanceAs (Decidable (_ ∨ _ ∨ _))

instance (c : Char) : Decidable (NameRest c) := inferInstanceAs (Decidable (_ ∨ _))

theorem isNameStart_iff {c : Char} : isNameStart c = true ↔ NameStart c := by
  have halpha : c.isAlpha =
      (decide ('A' ≤ c ∧ c ≤ 'Z') || (decide ('a' ≤ c) && decide (c ≤ 'z'))) := rfl
  rw [isNameStart, halpha, NameStart]
  simp only [Bool.or_eq_true, Bool.and_eq_true, decide_eq_true_eq, or_assoc]

theorem isNameRest_iff {c : Char} : isNameRest c = true ↔ NameRest c := by
  rw [NameRest, ← isNameStart_iff]
  simp only [isNameRest, isNameStart, Char.isAlphanum, Char.isDigit, Bool.or_eq_true,
    decide_eq_true_eq, Bool.and_eq_true, Char.le_def, ge_iff_le]
  constructor
  · rintro ((h | h) | h)
    · exact Or.inl (Or.inl h)
    · exact Or.inr h
    · exact Or.inl (Or.inr h)
  · rintro ((h | h) | h)
    · exact Or.inl (Or.inl h)
    · exact Or.inr h
    · exact Or.inl (Or.inr h)

/-- A name: a character that begins one, and characters that continue it. -/
def IsName : List Char → Prop
  | [] => False
  | c :: cs => NameStart c ∧ ∀ d ∈ cs, NameRest d

instance : (cs : List Char) → Decidable (IsName cs)
  | [] => isFalse id
  | _ :: cs => @instDecidableAnd _ _ _ (List.decidableBAll NameRest cs)

/-- A name cannot be continued into this text. -/
def EndsName (rest : List Char) : Prop := ∀ c ∈ rest.head?, ¬ NameRest c

instance (rest : List Char) : Decidable (EndsName rest) :=
  Option.decidableForallMem (p := fun c => ¬ NameRest c) rest.head?

/-- A name follows, perhaps after the mark of a required placeholder. -/
def OpensName (cs : List Char) : Prop :=
  ∃ c rest, NameStart c ∧ (cs = c :: rest ∨ cs = '!' :: c :: rest)

/-- The name that is read is all of the text that can belong to it. -/
theorem readName?_eq_some_iff {cs name rest : List Char} :
    readName? cs = some (name, rest) ↔ cs = name ++ rest ∧ IsName name ∧ EndsName rest := by
  constructor
  · intro h
    refine ⟨(readName?_source h).symm, ?_⟩
    cases cs with
    | nil => simp [readName?] at h
    | cons c cs =>
      by_cases hc : isNameStart c = true
      · simp only [readName?, hc, if_true, Option.some.injEq, Prod.mk.injEq] at h
        obtain ⟨rfl, rfl⟩ := h
        refine ⟨⟨isNameStart_iff.1 hc, ?_⟩, ?_⟩
        · intro d hd
          exact isNameRest_iff.1 (List.all_eq_true.1 List.all_takeWhile d hd)
        · intro d hd hrest
          have hnot := List.head?_dropWhile_not isNameRest cs
          rw [Option.mem_def.1 hd] at hnot
          exact Bool.false_ne_true (hnot.symm.trans (isNameRest_iff.2 hrest))
      · simp [readName?, hc] at h
  · rintro ⟨rfl, hname, hends⟩
    cases name with
    | nil => exact hname.elim
    | cons c name =>
      have hall : ∀ d ∈ name, isNameRest d = true := fun d hd => isNameRest_iff.2 (hname.2 d hd)
      have htake : rest.takeWhile isNameRest = [] ∧ rest.dropWhile isNameRest = rest := by
        cases rest with
        | nil => simp
        | cons d rest =>
          have hd : ¬ isNameRest d = true := fun h => hends d rfl (isNameRest_iff.1 h)
          simp [hd]
      simp only [List.cons_append, readName?, isNameStart_iff.2 hname.1, if_true,
        List.takeWhile_append_of_pos hall, List.dropWhile_append_of_pos hall, htake,
        List.append_nil]

/-- Where a name begins, all of it can be split off. -/
theorem exists_name {c : Char} (hc : NameStart c) (cs : List Char) :
    ∃ name rest, c :: cs = name ++ rest ∧ IsName name ∧ EndsName rest := by
  cases h : readName? (c :: cs) with
  | none => simp [readName?, isNameStart_iff.2 hc] at h
  | some r => exact ⟨r.1, r.2, readName?_eq_some_iff.1 h⟩

theorem readName?_eq_none_iff {cs : List Char} :
    readName? cs = none ↔ ∀ c ∈ cs.head?, ¬ NameStart c := by
  cases cs with
  | nil => simp [readName?]
  | cons c cs => simp [readName?, ← isNameStart_iff]

/-! ## 2. Cuts -/

/-- `ps` is a cut of the text `cs`: each rule takes one piece off the front. -/
inductive Cut : List Char → List Piece → Prop
  /-- Nothing is left. -/
  | nil : Cut [] []
  /-- A character other than the dollar stands for itself. -/
  | literal {c : Char} {cs : List Char} {ps : List Piece} :
      c ≠ '$' → Cut cs ps → Cut (c :: cs) (.literal c :: ps)
  /-- A dollar before a dollar is an escape. -/
  | dollar {cs : List Char} {ps : List Piece} :
      Cut cs ps → Cut ('$' :: '$' :: cs) (.dollar :: ps)
  /-- A dollar before a name is an optional placeholder. -/
  | optional {name rest : List Char} {ps : List Piece} :
      IsName name → EndsName rest → Cut rest ps →
        Cut ('$' :: (name ++ rest)) (.placeholder false name :: ps)
  /-- A dollar before a mark and a name is a required placeholder. -/
  | required {name rest : List Char} {ps : List Piece} :
      IsName name → EndsName rest → Cut rest ps →
        Cut ('$' :: '!' :: (name ++ rest)) (.placeholder true name :: ps)
  /-- Any other dollar stands for itself. -/
  | stray {cs : List Char} {ps : List Piece} :
      cs.head? ≠ some '$' → ¬ OpensName cs → Cut cs ps → Cut ('$' :: cs) (.literal '$' :: ps)

/-- The pieces of a cut are the text, in order and without overlap. -/
theorem Cut.source {cs : List Char} {ps : List Piece} (h : Cut cs ps) :
    ps.flatMap Piece.source = cs := by
  induction h with
  | nil => rfl
  | literal _ _ ih => simp [Piece.source, ih]
  | dollar _ ih => simp [Piece.source, ih]
  | optional _ _ _ ih => simp [Piece.source, ih]
  | required _ _ _ ih => simp [Piece.source, ih]
  | stray _ _ _ ih => simp [Piece.source, ih]

/-! ## 3. What is read at a dollar -/

theorem not_isName_of_head {c : Char} {cs name rest : List Char} (hc : ¬ NameStart c)
    (h : name ++ rest = c :: cs) : ¬ IsName name := by
  intro hname
  cases name with
  | nil => exact hname
  | cons d name =>
    rw [List.cons_append] at h
    exact hc ((List.cons.inj h).1 ▸ hname.1)

theorem not_nameStart_dollar : ¬ NameStart '$' := by
  rw [← isNameStart_iff]; decide

theorem not_nameStart_mark : ¬ NameStart '!' := by
  rw [← isNameStart_iff]; decide

theorem readPiece_literal {c : Char} (h : c ≠ '$') (cs : List Char) :
    readPiece c cs = (.literal c, cs) := by
  simp [readPiece, h]

theorem readPiece_dollar (cs : List Char) : readPiece '$' ('$' :: cs) = (.dollar, cs) := rfl

theorem readPiece_mark (cs : List Char) :
    readPiece '$' ('!' :: cs) =
      match readName? cs with
      | some (name, rest) => (.placeholder true name, rest)
      | none => (.literal '$', '!' :: cs) := rfl

theorem readPiece_other {cs : List Char} (hdollar : cs.head? ≠ some '$')
    (hmark : cs.head? ≠ some '!') :
    readPiece '$' cs =
      match readName? cs with
      | some (name, rest) => (.placeholder false name, rest)
      | none => (.literal '$', cs) := by
  unfold readPiece
  rw [if_neg (by simp)]
  split
  · exact absurd rfl hdollar
  · exact absurd rfl hmark
  · rfl

theorem readPiece_optional {name rest : List Char} (hname : IsName name)
    (hends : EndsName rest) :
    readPiece '$' (name ++ rest) = (.placeholder false name, rest) := by
  have hread : readName? (name ++ rest) = some (name, rest) :=
    readName?_eq_some_iff.2 ⟨rfl, hname, hends⟩
  have hhead : ∀ c, ¬ NameStart c → (name ++ rest).head? ≠ some c := by
    intro c hc h
    obtain ⟨cs, hcs⟩ := List.head?_eq_some_iff.1 h
    exact not_isName_of_head hc hcs hname
  rw [readPiece_other (hhead _ not_nameStart_dollar) (hhead _ not_nameStart_mark), hread]

theorem readPiece_required {name rest : List Char} (hname : IsName name)
    (hends : EndsName rest) :
    readPiece '$' ('!' :: (name ++ rest)) = (.placeholder true name, rest) := by
  have hread : readName? (name ++ rest) = some (name, rest) :=
    readName?_eq_some_iff.2 ⟨rfl, hname, hends⟩
  rw [readPiece_mark, hread]

theorem readPiece_stray {cs : List Char} (hdollar : cs.head? ≠ some '$')
    (hopens : ¬ OpensName cs) : readPiece '$' cs = (.literal '$', cs) := by
  by_cases hmark : cs.head? = some '!'
  · obtain ⟨rest, rfl⟩ := List.head?_eq_some_iff.1 hmark
    have hread : readName? rest = none := by
      refine readName?_eq_none_iff.2 fun c hc hstart => hopens ?_
      obtain ⟨rest', rfl⟩ := List.head?_eq_some_iff.1 hc
      exact ⟨c, rest', hstart, Or.inr rfl⟩
    rw [readPiece_mark, hread]
  · have hread : readName? cs = none := by
      refine readName?_eq_none_iff.2 fun c hc hstart => hopens ?_
      obtain ⟨rest, rfl⟩ := List.head?_eq_some_iff.1 hc
      exact ⟨c, rest, hstart, Or.inl rfl⟩
    rw [readPiece_other hdollar hmark, hread]

/-! ## 4. The cut that `scan` finds -/

theorem scan_cons (c : Char) (cs : List Char) :
    scan (c :: cs) = (readPiece c cs).1 :: scan (readPiece c cs).2 := by
  rw [scan]

/-- Whatever is read off the front is what some rule takes off it. -/
theorem cut_readPiece (c : Char) (cs : List Char) {ps : List Piece}
    (h : Cut (readPiece c cs).2 ps) : Cut (c :: cs) ((readPiece c cs).1 :: ps) := by
  by_cases hc : c = '$'
  · subst hc
    by_cases hdollar : cs.head? = some '$'
    · obtain ⟨rest, rfl⟩ := List.head?_eq_some_iff.1 hdollar
      exact Cut.dollar h
    · by_cases hopens : OpensName cs
      · obtain ⟨c, cs, hstart, heq⟩ := hopens
        obtain ⟨name, rest, hsplit, hname, hends⟩ := exists_name hstart cs
        rw [hsplit] at heq
        rcases heq with rfl | rfl
        · rw [readPiece_optional hname hends] at h ⊢
          exact Cut.optional hname hends h
        · rw [readPiece_required hname hends] at h ⊢
          exact Cut.required hname hends h
      · rw [readPiece_stray hdollar hopens] at h ⊢
        exact Cut.stray hdollar hopens h
  · rw [readPiece_literal hc] at h ⊢
    exact Cut.literal hc h

/-- **`scan` finds a cut.** -/
theorem cut_scan (cs : List Char) : Cut cs (scan cs) := by
  fun_induction scan cs with
  | case1 => exact Cut.nil
  | case2 c cs ih => exact cut_readPiece c cs ih

/-- **There is no other.** -/
theorem Cut.eq_scan {cs : List Char} {ps : List Piece} (h : Cut cs ps) : ps = scan cs := by
  induction h with
  | nil => simp [scan]
  | literal hc _ ih => rw [scan_cons, readPiece_literal hc, ih]
  | dollar _ ih => rw [scan_cons, readPiece_dollar, ih]
  | optional hname hends _ ih => rw [scan_cons, readPiece_optional hname hends, ih]
  | required hname hends _ ih => rw [scan_cons, readPiece_required hname hends, ih]
  | stray hdollar hopens _ ih => rw [scan_cons, readPiece_stray hdollar hopens, ih]

theorem cut_iff {cs : List Char} {ps : List Piece} : Cut cs ps ↔ ps = scan cs :=
  ⟨Cut.eq_scan, fun h => h ▸ cut_scan cs⟩

end CallBook.Template

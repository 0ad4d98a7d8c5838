import CallBook.Proofs.Template.Outcome
import CallBook.Text.Blank
/-!
# Where two templates meet

A template with another text behind it is cut as if the two stood alone, unless the end of the
template reaches into what follows.  Three ends can: a dollar that stands for itself, such a
dollar and a mark, and a name.  `Meets` says for each of them what must not follow.  That is all
there is to it: the pieces of the whole are the pieces of the parts exactly if the parts meet
(`scan_append_iff`).

Two cases need no look at the other side.  A character that is no dollar, no mark and in no name
may follow anything (`meets_of_head`), and a text without a dollar reaches into nothing
(`meets_of_no_dollar`).  Blanks are both, so what is trimmed off a template is cut off it
(`scan_blanks_around`).
-/

namespace CallBook.Template

/-! ## 1. Ends and what follows them -/

/-- Nothing at the end of the pieces `ps` reaches into `rest`. -/
structure Meets (ps : List Piece) (rest : List Char) : Prop where
  /-- A dollar that stands for itself would make an escape or a placeholder. -/
  dollar : [.literal '$'] <:+ ps → rest.head? ≠ some '$' ∧ ¬ OpensName rest
  /-- A dollar and a mark would make a placeholder. -/
  mark : [.literal '$', .literal '!'] <:+ ps → ∀ c ∈ rest.head?, ¬ NameStart c
  /-- A name would go on. -/
  name : ∀ required name, [.placeholder required name] <:+ ps → EndsName rest

theorem Meets.tail {p : Piece} {ps : List Piece} {rest : List Char} (h : Meets (p :: ps) rest) :
    Meets ps rest where
  dollar hs := h.dollar (hs.trans (List.suffix_cons p ps))
  mark hs := h.mark (hs.trans (List.suffix_cons p ps))
  name required name hs := h.name required name (hs.trans (List.suffix_cons p ps))

theorem not_opensName_nil : ¬ OpensName [] := by
  rintro ⟨c, rest, -, h | h⟩ <;> cases h

/-- The end of a text follows anything. -/
theorem meets_nil (ps : List Piece) : Meets ps [] where
  dollar _ := ⟨by simp, not_opensName_nil⟩
  mark _ := by simp
  name _ _ _ := by simp [EndsName]

/-- So does a character that has no part in a placeholder. -/
theorem meets_of_head {c : Char} (hdollar : c ≠ '$') (hmark : c ≠ '!') (hname : ¬ NameRest c)
    (ps : List Piece) (rest : List Char) : Meets ps (c :: rest) := by
  have hstart : ¬ NameStart c := fun h => hname (Or.inl h)
  have hhead : ∀ d ∈ (c :: rest).head?, d = c := fun d hd => (Option.some.inj hd).symm
  refine ⟨fun _ => ⟨?_, ?_⟩, fun _ d hd => hhead d hd ▸ hstart, fun _ _ _ d hd => hhead d hd ▸ hname⟩
  · simpa using hdollar
  · rintro ⟨d, cs, hd, h | h⟩
    · exact hstart ((List.cons.inj h).1 ▸ hd)
    · exact hmark (List.cons.inj h).1

/-! ## 2. Pieces of the whole and of the parts -/

theorem Cut.of_nil {ps : List Piece} (h : Cut [] ps) : ps = [] := by
  rw [h.eq_scan, scan]

theorem Cut.of_mark {ps : List Piece} (h : Cut ['!'] ps) : ps = [.literal '!'] := by
  rw [h.eq_scan, scan_cons, readPiece_literal (by decide), scan]

/-- A name that ends in front of `cs` also ends if more follows. -/
theorem EndsName.append {cs rest : List Char} (h : EndsName cs)
    (hnil : cs = [] → EndsName rest) : EndsName (cs ++ rest) := by
  cases cs with
  | nil => exact hnil rfl
  | cons c cs => exact h

/-- A name that opens in front of `cs ++ rest` opens in front of `cs` already, or `cs` is nothing
or a mark only. -/
theorem OpensName.of_append {cs rest : List Char} (h : OpensName (cs ++ rest)) :
    OpensName cs ∨ cs = [] ∨ (cs = ['!'] ∧ ∃ c ∈ rest.head?, NameStart c) := by
  obtain ⟨c, tail, hstart, heq⟩ := h
  cases cs with
  | nil => exact Or.inr (Or.inl rfl)
  | cons d cs =>
    rcases heq with heq | heq <;> simp only [List.cons_append, List.cons.injEq] at heq
    · exact Or.inl ⟨d, cs, heq.1 ▸ hstart, Or.inl rfl⟩
    · obtain ⟨rfl, heq⟩ := heq
      cases cs with
      | nil =>
        rw [List.nil_append] at heq
        exact Or.inr (Or.inr ⟨rfl, c, by simp [heq], hstart⟩)
      | cons e cs =>
        rw [List.cons_append] at heq
        exact Or.inl ⟨e, cs, (List.cons.inj heq).1 ▸ hstart, Or.inr rfl⟩

/-- Cuts of two parts that meet make up a cut of the whole. -/
theorem Cut.append {cs rest : List Char} {ps qs : List Piece} (h : Cut cs ps)
    (hrest : Cut rest qs) (hmeets : Meets ps rest) : Cut (cs ++ rest) (ps ++ qs) := by
  induction h with
  | nil => exact hrest
  | literal hc _ ih => exact Cut.literal hc (ih hmeets.tail)
  | dollar _ ih => exact Cut.dollar (ih hmeets.tail)
  | @optional name tail ps hname hends hcut ih =>
    have hends' : EndsName (tail ++ rest) := hends.append fun hnil => by
      subst hnil
      obtain rfl := hcut.of_nil
      exact hmeets.name false name List.suffix_rfl
    rw [List.cons_append, List.append_assoc]
    exact Cut.optional hname hends' (ih hmeets.tail)
  | @required name tail ps hname hends hcut ih =>
    have hends' : EndsName (tail ++ rest) := hends.append fun hnil => by
      subst hnil
      obtain rfl := hcut.of_nil
      exact hmeets.name true name List.suffix_rfl
    rw [List.cons_append, List.cons_append, List.append_assoc]
    exact Cut.required hname hends' (ih hmeets.tail)
  | @stray cs ps hdollar hopens hcut ih =>
    refine Cut.stray ?_ ?_ (ih hmeets.tail)
    · cases cs with
      | nil =>
        obtain rfl := hcut.of_nil
        exact (hmeets.dollar List.suffix_rfl).1
      | cons c cs => exact hdollar
    · intro happend
      rcases happend.of_append with h | rfl | ⟨rfl, c, hc, hstart⟩
      · exact hopens h
      · obtain rfl := hcut.of_nil
        exact (hmeets.dollar List.suffix_rfl).2 happend
      · obtain rfl := hcut.of_mark
        exact hmeets.mark List.suffix_rfl c hc hstart

/-- **Parts that meet are cut on their own.** -/
theorem scan_append {cs rest : List Char} (h : Meets (scan cs) rest) :
    scan (cs ++ rest) = scan cs ++ scan rest :=
  ((cut_scan cs).append (cut_scan rest) h).eq_scan.symm

/-- What the first piece of a cut says of the text behind it. -/
theorem Cut.of_cons {cs : List Char} {p : Piece} {ps : List Piece} (h : Cut cs (p :: ps)) :
    ∃ tail, cs = p.source ++ tail ∧ Cut tail ps ∧
      (p = .literal '$' → tail.head? ≠ some '$' ∧ ¬ OpensName tail) ∧
      ∀ required name, p = .placeholder required name → EndsName tail := by
  cases h with
  | literal hc hcut =>
    exact ⟨_, rfl, hcut, fun h => absurd (Piece.literal.inj h) hc, by simp⟩
  | dollar hcut => exact ⟨_, rfl, hcut, by simp, by simp⟩
  | optional hname hends hcut => exact ⟨_, rfl, hcut, by simp, fun _ _ _ => hends⟩
  | required hname hends hcut => exact ⟨_, rfl, hcut, by simp, fun _ _ _ => hends⟩
  | stray hdollar hopens hcut => exact ⟨_, rfl, hcut, fun _ => ⟨hdollar, hopens⟩, by simp⟩

/-- If the pieces of a part are still pieces of the whole, the parts meet. -/
theorem Cut.meets {cs rest : List Char} {ps qs : List Piece} (h : Cut cs ps)
    (hwhole : Cut (cs ++ rest) (ps ++ qs)) : Meets ps rest := by
  induction ps generalizing cs with
  | nil => exact ⟨by simp, by simp, by simp⟩
  | cons p ps ih =>
    obtain ⟨tail, rfl, htail, -, -⟩ := h.of_cons
    obtain ⟨tail', heq, htail', hdollar, hname⟩ := hwhole.of_cons
    rw [List.append_assoc] at heq
    obtain rfl := List.append_cancel_left heq
    have hmeets : Meets ps rest := ih htail htail'
    refine ⟨fun hs => ?_, fun hs => ?_, fun required name hs => ?_⟩
    · rcases List.suffix_cons_iff.1 hs with h | h
      · obtain ⟨rfl, rfl⟩ := List.cons.inj h
        obtain rfl : tail = [] := htail.source.symm
        exact hdollar rfl
      · exact hmeets.dollar h
    · rcases List.suffix_cons_iff.1 hs with h | h
      · obtain ⟨rfl, rfl⟩ := List.cons.inj h
        obtain rfl : tail = ['!'] := htail.source.symm
        obtain ⟨-, hopens⟩ := hdollar rfl
        intro c hc hstart
        obtain ⟨cs, rfl⟩ := List.head?_eq_some_iff.1 hc
        exact hopens ⟨c, cs, hstart, Or.inr rfl⟩
      · exact hmeets.mark h
    · rcases List.suffix_cons_iff.1 hs with h | h
      · obtain ⟨rfl, rfl⟩ := List.cons.inj h
        obtain rfl : tail = [] := htail.source.symm
        exact hname required name rfl
      · exact hmeets.name required name h

/-- **Parts are cut on their own exactly if they meet.** -/
theorem scan_append_iff {cs rest : List Char} :
    scan (cs ++ rest) = scan cs ++ scan rest ↔ Meets (scan cs) rest :=
  ⟨fun h => (cut_scan cs).meets (cut_iff.2 h.symm), scan_append⟩

/-! ## 3. Text without a dollar -/

theorem scan_of_no_dollar : ∀ {cs : List Char}, '$' ∉ cs → scan cs = cs.map .literal
  | [], _ => by rw [scan, List.map_nil]
  | c :: cs, h => by
    have hc : c ≠ '$' := fun e => h (e ▸ List.mem_cons_self)
    have ih := scan_of_no_dollar fun hmem => h (List.mem_cons_of_mem c hmem)
    rw [scan_cons, readPiece_literal hc, ih, List.map_cons]

theorem meets_of_no_dollar {cs : List Char} (h : '$' ∉ cs) (rest : List Char) :
    Meets (scan cs) rest := by
  have hliteral : ∀ p ∈ scan cs, ∃ c ∈ cs, p = .literal c := by
    rw [scan_of_no_dollar h]
    intro p hp
    obtain ⟨c, hc, rfl⟩ := List.mem_map.1 hp
    exact ⟨c, hc, rfl⟩
  have hdollar : .literal '$' ∉ scan cs := fun hp => by
    obtain ⟨c, hc, heq⟩ := hliteral _ hp
    cases heq
    exact h hc
  refine ⟨fun hs => ?_, fun hs => ?_, fun required name hs => ?_⟩
  · exact absurd (hs.subset List.mem_cons_self) hdollar
  · exact absurd (hs.subset List.mem_cons_self) hdollar
  · obtain ⟨c, -, heq⟩ := hliteral _ (hs.subset List.mem_cons_self)
    cases heq

/-! ## 4. Blanks around a text -/

/-- The characters of names lie between the digit zero and the letter z. -/
theorem NameRest.bounds {c : Char} (h : NameRest c) : 0x30 ≤ c.toNat ∧ c.toNat ≤ 0x7A := by
  have hdigits : '0'.toNat = 0x30 ∧ '9'.toNat = 0x39 := ⟨rfl, rfl⟩
  have hupper : 'A'.toNat = 0x41 ∧ 'Z'.toNat = 0x5A := ⟨rfl, rfl⟩
  have hlower : 'a'.toNat = 0x61 ∧ 'z'.toNat = 0x7A := ⟨rfl, rfl⟩
  have hle : ∀ {a b : Char}, a ≤ b → a.toNat ≤ b.toNat := fun h => h
  rcases h with (⟨hlo, hhi⟩ | ⟨hlo, hhi⟩ | rfl) | ⟨hlo, hhi⟩
  · have := hle hlo; have := hle hhi; omega
  · have := hle hlo; have := hle hhi; omega
  · decide
  · have := hle hlo; have := hle hhi; omega

theorem not_nameRest_of_isBlank {c : Char} (h : Text.isBlank c = true) : ¬ NameRest c := by
  intro hname
  obtain ⟨hlo, hhi⟩ := hname.bounds
  simp only [Text.isBlank, Bool.or_eq_true, Bool.and_eq_true, decide_eq_true_eq, beq_iff_eq] at h
  omega

/-- Blanks around a text are pieces of their own. -/
theorem scan_blanks_around {left right : List Char} (cs : List Char)
    (hleft : ∀ c ∈ left, Text.isBlank c = true) (hright : ∀ c ∈ right, Text.isBlank c = true) :
    scan (left ++ cs ++ right) = left.map .literal ++ scan cs ++ right.map .literal := by
  have hblank : Text.isBlank '$' = false := by decide
  have hdollar : ∀ {blanks : List Char}, (∀ c ∈ blanks, Text.isBlank c = true) → '$' ∉ blanks :=
    fun h hmem => Bool.false_ne_true (hblank.symm.trans (h _ hmem))
  have hmeets : Meets (scan cs) right := by
    cases right with
    | nil => exact meets_nil _
    | cons c right =>
      have hblank := hright c List.mem_cons_self
      refine meets_of_head ?_ ?_ ?_ _ _
      · rintro rfl; exact absurd hblank (by decide)
      · rintro rfl; exact absurd hblank (by decide)
      · exact not_nameRest_of_isBlank hblank
  rw [List.append_assoc, scan_append (meets_of_no_dollar (hdollar hleft) _), scan_append hmeets,
    scan_of_no_dollar (hdollar hleft), scan_of_no_dollar (hdollar hright), List.append_assoc]

end CallBook.Template

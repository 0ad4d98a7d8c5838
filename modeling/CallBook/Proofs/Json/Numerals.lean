import CallBook.Json.Parser
import CallBook.Json.Printer
/-!
# Numbers and what stands behind them

A number has no mark at its end: how far it is read is decided by what stands behind it.  Where
that ends a number, as a comma, a bracket or the end of the text does (`Ends`), it has no say in
anything else.  The number is read as if it stood alone, with the same result or the same lack of
one (`readNumber_alike`); there is one lemma of this form for each of the readers that a number
passes through.

What is written of a number are digits and marks, with a digit or a minus at the front
(`print_numeral`, `exists_print`), so a number that is read to a place where something else
begins is read to its end.  A natural number of 64 bits is read back as it is
(`readScalar_natural`): its digits are all gathered, and the first of them is no zero unless it is
the only one.
-/

namespace CallBook.Json

/-! ## 1. Where a number ends -/

/-- The characters that numbers are made of. -/
def isNumeral (c : Char) : Bool :=
  c.isDigit || c = '.' || c = 'e' || c = 'E' || c = '+' || c = '-'

theorem isNumeral_of_isDigit {c : Char} (h : c.isDigit = true) : isNumeral c = true := by
  simp [isNumeral, h]

/-- The text does not go on with a number. -/
def Ends (rest : List Char) : Prop := ∀ c ∈ rest.head?, isNumeral c = false

theorem ends_nil : Ends [] := by
  intro c hc
  cases hc

theorem ends_cons {c : Char} (h : isNumeral c = false) (rest : List Char) : Ends (c :: rest) := by
  intro d hd
  obtain rfl : c = d := Option.some.inj hd
  exact h

theorem Ends.head {c : Char} {rest : List Char} (h : Ends (c :: rest)) : isNumeral c = false :=
  h c rfl

theorem Ends.not_isDigit {c : Char} {rest : List Char} (h : Ends (c :: rest)) :
    c.isDigit = false := by
  cases hc : c.isDigit with
  | false => rfl
  | true =>
    have hnumeral := isNumeral_of_isDigit hc
    rw [h.head] at hnumeral
    cases hnumeral

theorem Ends.not_startsWithDigit {rest : List Char} (h : Ends rest) :
    startsWithDigit rest = false := by
  cases rest with
  | nil => rfl
  | cons c rest => exact h.not_isDigit

/-- A text is read alone and with something behind it.  Either it is not read, both times, or the
same is read, and what is left of the text stands before what stands behind it. -/
inductive Alike {α : Type} (cs rest : List Char) : Read α → Read α → Prop
  | fails {e e' : Failure} : Alike cs rest (.error e) (.error e')
  | reads (a : α) {left : List Char} :
      left <:+ cs → Alike cs rest (.ok (a, left)) (.ok (a, left ++ rest))

theorem Alike.mono {α : Type} {cs cs' rest : List Char} {x y : Read α} (h : Alike cs rest x y)
    (hsuffix : cs <:+ cs') : Alike cs' rest x y := by
  cases h with
  | fails => exact .fails
  | reads a hleft => exact .reads a (hleft.trans hsuffix)

variable {rest : List Char}

/-! ## 2. Digits -/

theorem startsWithDigit_append (hrest : Ends rest) (cs : List Char) :
    startsWithDigit (cs ++ rest) = startsWithDigit cs := by
  cases cs with
  | nil => exact hrest.not_startsWithDigit
  | cons c cs => rfl

theorem takeWhile_isDigit_append (hrest : Ends rest) (cs : List Char) :
    (cs ++ rest).takeWhile Char.isDigit = cs.takeWhile Char.isDigit := by
  induction cs with
  | nil =>
    cases rest with
    | nil => rfl
    | cons c rest => exact List.takeWhile_cons_of_neg (by rw [hrest.not_isDigit]; decide)
  | cons c cs ih =>
    rw [List.cons_append, List.takeWhile_cons, List.takeWhile_cons, ih]

theorem dropWhile_isDigit_append (hrest : Ends rest) (cs : List Char) :
    (cs ++ rest).dropWhile Char.isDigit = cs.dropWhile Char.isDigit ++ rest := by
  induction cs with
  | nil =>
    cases rest with
    | nil => rfl
    | cons c rest => exact List.dropWhile_cons_of_neg (by rw [hrest.not_isDigit]; decide)
  | cons c cs ih =>
    rw [List.cons_append, List.dropWhile_cons, List.dropWhile_cons, ih]
    split <;> rfl

/-- As many digits are gathered as if the text stood alone. -/
theorem gather_append (hrest : Ends rest) (bound : Nat) : ∀ (n : Nat) (cs : List Char),
    gather bound n (cs ++ rest) =
      ((gather bound n cs).1, (gather bound n cs).2.1, (gather bound n cs).2.2 ++ rest)
  | n, [] => by
    cases rest with
    | nil => rfl
    | cons c rest =>
      have hstop : gather bound n (c :: rest) = (n, 0, c :: rest) := by
        rw [gather, if_neg (by simp [hrest.not_isDigit])]
      rw [List.nil_append, hstop]
      rfl
  | n, c :: cs => by
    have ih := gather_append hrest bound (n * 10 + digitValue c) cs
    rw [List.cons_append, gather, gather]
    split
    · rw [ih]
    · rfl

theorem gather_suffix (bound : Nat) : ∀ (n : Nat) (cs : List Char),
    (gather bound n cs).2.2 <:+ cs
  | n, [] => List.suffix_refl []
  | n, c :: cs => by
    have ih := gather_suffix bound (n * 10 + digitValue c) cs
    rw [gather]
    split
    · exact ih.trans (List.suffix_cons c cs)
    · exact List.suffix_refl _

/-! ## 3. The readers of a number -/

variable (negative : Bool) (significand : Nat) (e : Int)

theorem ofParts_alike (left : List Char) :
    Alike left rest (ofParts negative significand e left)
      (ofParts negative significand e (left ++ rest)) := by
  unfold ofParts
  split
  · exact .fails
  · exact .reads _ (List.suffix_refl left)

/-- A number after the sign of its exponent. -/
def readPower (down : Bool) (cs : List Char) : Read Number :=
  match cs with
  | [] => failHere .endInValue []
  | c :: _ =>
    if !c.isDigit then failAfterByte .invalidNumber cs
    else
      let (n, _, rest) := gather greatestExponent 0 cs
      match rest with
      | d :: rest' =>
        if d.isDigit then
          if significand ≠ 0 ∧ !down then failHere .numberOutOfRange rest'
          else .ok (.float (Binary64.zero negative), rest.dropWhile Char.isDigit)
        else ofParts negative significand (if down then e - n else e + n) rest
      | [] => ofParts negative significand (if down then e - n else e + n) []

theorem readPower_alike (hrest : Ends rest) (down : Bool) (cs : List Char) :
    Alike cs rest (readPower negative significand e down cs)
      (readPower negative significand e down (cs ++ rest)) := by
  cases cs with
  | nil =>
    cases rest with
    | nil => exact .fails
    | cons c rest =>
      rw [List.nil_append, readPower, readPower, if_pos (by rw [hrest.not_isDigit]; rfl)]
      exact .fails
  | cons c cs =>
    have hgather := gather_append hrest greatestExponent 0 (c :: cs)
    have hsuffix := gather_suffix greatestExponent 0 (c :: cs)
    rw [List.cons_append] at hgather
    rw [List.cons_append, readPower, readPower]
    split
    · exact .fails
    · rw [hgather]
      generalize gather greatestExponent 0 (c :: cs) = gathered at hsuffix ⊢
      obtain ⟨n, count, left⟩ := gathered
      cases left with
      | nil =>
        have halike : Alike [] rest _ _ :=
          ofParts_alike negative significand (if down then e - n else e + n) []
        cases rest with
        | nil => exact halike.mono (List.nil_suffix)
        | cons d rest =>
          simp only [List.nil_append, hrest.not_isDigit, Bool.false_eq_true, if_false]
          exact halike.mono (List.nil_suffix)
      | cons d left =>
        simp only [List.cons_append]
        split
        · split
          · exact .fails
          · rw [← List.cons_append, dropWhile_isDigit_append hrest]
            exact .reads _ ((List.dropWhile_suffix _).trans hsuffix)
        · exact (ofParts_alike negative significand _ (d :: left)).mono hsuffix

/-- What begins with a numeral only if something does that stands in front of it. -/
theorem ne_cons_append (hrest : Ends rest) {c : Char} (hc : isNumeral c = true) {cs : List Char}
    (h : ∀ cs', cs ≠ c :: cs') : ∀ cs', cs ++ rest ≠ c :: cs' := by
  intro cs' heq
  cases cs with
  | nil =>
    obtain rfl : rest = c :: cs' := heq
    rw [hrest.head] at hc
    cases hc
  | cons d cs =>
    obtain ⟨rfl, -⟩ := List.cons.inj heq
    exact h cs rfl

theorem readExponent_of_not_sign {cs : List Char} (hplus : ∀ cs', cs ≠ '+' :: cs')
    (hminus : ∀ cs', cs ≠ '-' :: cs') :
    readExponent negative significand e cs = readPower negative significand e false cs := by
  unfold readExponent
  split
  rename_i down digits hsign
  split at hsign
  · exact absurd rfl (hplus _)
  · exact absurd rfl (hminus _)
  · cases hsign
    rfl

theorem readExponent_alike (hrest : Ends rest) (cs : List Char) :
    Alike cs rest (readExponent negative significand e cs)
      (readExponent negative significand e (cs ++ rest)) := by
  have hpower := readPower_alike negative significand e hrest
  by_cases hplus : ∃ cs', cs = '+' :: cs'
  · obtain ⟨cs, rfl⟩ := hplus
    exact (hpower false cs).mono (List.suffix_cons _ cs)
  · by_cases hminus : ∃ cs', cs = '-' :: cs'
    · obtain ⟨cs, rfl⟩ := hminus
      exact (hpower true cs).mono (List.suffix_cons _ cs)
    · have hplus := not_exists.1 hplus
      have hminus := not_exists.1 hminus
      rw [readExponent_of_not_sign negative significand e hplus hminus,
        readExponent_of_not_sign negative significand e (ne_cons_append hrest (by decide) hplus)
          (ne_cons_append hrest (by decide) hminus)]
      exact hpower false cs

theorem readMagnitude_of_not_mark {cs : List Char} (hsmall : ∀ cs', cs ≠ 'e' :: cs')
    (hcapital : ∀ cs', cs ≠ 'E' :: cs') :
    readMagnitude negative significand e cs = ofParts negative significand e cs := by
  unfold readMagnitude
  split
  · exact absurd rfl (hsmall _)
  · exact absurd rfl (hcapital _)
  · rfl

theorem readMagnitude_alike (hrest : Ends rest) (cs : List Char) :
    Alike cs rest (readMagnitude negative significand e cs)
      (readMagnitude negative significand e (cs ++ rest)) := by
  have hexponent := readExponent_alike negative significand e hrest
  by_cases hsmall : ∃ cs', cs = 'e' :: cs'
  · obtain ⟨cs, rfl⟩ := hsmall
    exact (hexponent cs).mono (List.suffix_cons _ cs)
  · by_cases hcapital : ∃ cs', cs = 'E' :: cs'
    · obtain ⟨cs, rfl⟩ := hcapital
      exact (hexponent cs).mono (List.suffix_cons _ cs)
    · have hsmall := not_exists.1 hsmall
      have hcapital := not_exists.1 hcapital
      rw [readMagnitude_of_not_mark negative significand e hsmall hcapital,
        readMagnitude_of_not_mark negative significand e (ne_cons_append hrest (by decide) hsmall)
          (ne_cons_append hrest (by decide) hcapital)]
      exact ofParts_alike negative significand e cs

theorem readFraction_alike (hrest : Ends rest) (cs : List Char) :
    Alike cs rest (readFraction negative significand e cs)
      (readFraction negative significand e (cs ++ rest)) := by
  have hgather := gather_append hrest greatestSignificand significand cs
  have hsuffix := gather_suffix greatestSignificand significand cs
  unfold readFraction
  rw [hgather]
  generalize gather greatestSignificand significand cs = gathered at hsuffix ⊢
  obtain ⟨n, count, left⟩ := gathered
  simp only [startsWithDigit_append hrest, dropWhile_isDigit_append hrest]
  split
  · exact (readMagnitude_alike negative n (e - count) hrest _).mono
      ((List.dropWhile_suffix _).trans hsuffix)
  · split
    · exact .fails
    · exact (readMagnitude_alike negative n (e - count) hrest left).mono hsuffix

/-- A number behind its first digits, of which the last ones were not gathered. -/
def readTail (n : Nat) (more cs : List Char) : Read Number :=
  match cs with
  | '.' :: rest => readFraction negative n more.length rest
  | 'e' :: rest | 'E' :: rest => readExponent negative n more.length rest
  | _ =>
    if more.isEmpty then .ok (wholeNumber negative n, cs)
    else ofParts negative n more.length cs

theorem readTail_of_not_mark {n : Nat} {more cs : List Char} (hpoint : ∀ cs', cs ≠ '.' :: cs')
    (hsmall : ∀ cs', cs ≠ 'e' :: cs') (hcapital : ∀ cs', cs ≠ 'E' :: cs') :
    readTail negative n more cs =
      if more.isEmpty then .ok (wholeNumber negative n, cs)
      else ofParts negative n more.length cs := by
  unfold readTail
  split
  · exact absurd rfl (hpoint _)
  · exact absurd rfl (hsmall _)
  · exact absurd rfl (hcapital _)
  · rfl

theorem readTail_alike (hrest : Ends rest) (n : Nat) (more cs : List Char) :
    Alike cs rest (readTail negative n more cs) (readTail negative n more (cs ++ rest)) := by
  by_cases hpoint : ∃ cs', cs = '.' :: cs'
  · obtain ⟨cs, rfl⟩ := hpoint
    exact (readFraction_alike negative n more.length hrest cs).mono (List.suffix_cons _ cs)
  · by_cases hsmall : ∃ cs', cs = 'e' :: cs'
    · obtain ⟨cs, rfl⟩ := hsmall
      exact (readExponent_alike negative n more.length hrest cs).mono (List.suffix_cons _ cs)
    · by_cases hcapital : ∃ cs', cs = 'E' :: cs'
      · obtain ⟨cs, rfl⟩ := hcapital
        exact (readExponent_alike negative n more.length hrest cs).mono (List.suffix_cons _ cs)
      · have hpoint := not_exists.1 hpoint
        have hsmall := not_exists.1 hsmall
        have hcapital := not_exists.1 hcapital
        rw [readTail_of_not_mark negative hpoint hsmall hcapital,
          readTail_of_not_mark negative (ne_cons_append hrest (by decide) hpoint)
            (ne_cons_append hrest (by decide) hsmall) (ne_cons_append hrest (by decide) hcapital)]
        split
        · exact .reads _ (List.suffix_refl cs)
        · exact ofParts_alike negative n more.length cs

/-- **A number is read as if it stood alone**, whatever ends it. -/
theorem readNumber_alike (hrest : Ends rest) (cs : List Char) :
    Alike cs rest (readNumber negative cs) (readNumber negative (cs ++ rest)) := by
  cases cs with
  | nil =>
    cases rest with
    | nil => exact .fails
    | cons c rest =>
      rw [List.nil_append, readNumber, readNumber, if_pos (by rw [hrest.not_isDigit]; rfl)]
      exact .fails
  | cons c cs =>
    have hgather := gather_append hrest greatestSignificand 0 (c :: cs)
    have hsuffix := gather_suffix greatestSignificand 0 (c :: cs)
    rw [List.cons_append] at hgather
    rw [List.cons_append, readNumber, readNumber, startsWithDigit_append hrest, hgather]
    generalize gather greatestSignificand 0 (c :: cs) = gathered at hsuffix ⊢
    obtain ⟨n, count, left⟩ := gathered
    split
    · exact .fails
    · split
      · exact .fails
      · simp only [takeWhile_isDigit_append hrest, dropWhile_isDigit_append hrest]
        exact (readTail_alike negative hrest n (left.takeWhile Char.isDigit) _).mono
          ((List.dropWhile_suffix _).trans hsuffix)

/-! ## 4. What is written of a number -/

theorem isDigit_of_mem_digits {n : Nat} {c : Char} (h : c ∈ digits n) : c.isDigit = true :=
  Nat.isDigit_of_mem_toDigits (by decide) (by decide) h

theorem exists_digits (n : Nat) : ∃ c cs, digits n = c :: cs ∧ c.isDigit = true := by
  cases hdigits : digits n with
  | nil => exact absurd hdigits Nat.toDigits_ne_nil
  | cons c cs =>
    refine ⟨c, cs, rfl, isDigit_of_mem_digits (n := n) ?_⟩
    rw [hdigits]
    exact List.mem_cons_self

theorem isNumeral_of_mem_digits {n : Nat} {c : Char} (h : c ∈ digits n) : isNumeral c = true :=
  isNumeral_of_isDigit (isDigit_of_mem_digits h)

theorem isNumeral_of_mem_zeros {n : Nat} {c : Char} (h : c ∈ List.replicate n '0') :
    isNumeral c = true := by
  rw [List.eq_of_mem_replicate h]
  decide

theorem decimal_numeral (d : Decimal) : ∀ c ∈ decimal d, isNumeral c = true := by
  have hpoint : isNumeral '.' = true := by decide
  have hzero : isNumeral '0' = true := by decide
  have hmark : isNumeral 'e' = true := by decide
  have hsign : ∀ b : Prop, [Decidable b] → isNumeral (if b then '-' else '+') = true := by
    intro b _
    split <;> decide
  have htake : ∀ k, ∀ c ∈ (digits d.digits).take k, isNumeral c = true :=
    fun k c hc => isNumeral_of_mem_digits (List.mem_of_mem_take hc)
  have hdrop : ∀ k, ∀ c ∈ (digits d.digits).drop k, isNumeral c = true :=
    fun k c hc => isNumeral_of_mem_digits (List.mem_of_mem_drop hc)
  intro c hc
  unfold decimal at hc
  simp only at hc
  split at hc
  · simp only [List.mem_cons, List.not_mem_nil, or_false] at hc
    rcases hc with rfl | rfl | rfl
    · exact hzero
    · exact hpoint
    · exact hzero
  · split at hc
    · split at hc
      · simp only [List.mem_cons, List.mem_append] at hc
        rcases hc with rfl | rfl | hc | hc
        · exact hzero
        · exact hpoint
        · exact isNumeral_of_mem_zeros hc
        · exact isNumeral_of_mem_digits hc
      · simp only [List.mem_cons, List.mem_append] at hc
        rcases hc with (hc | hc) | rfl | hc
        · exact htake _ c hc
        · exact isNumeral_of_mem_zeros hc
        · exact hpoint
        · split at hc
          · obtain rfl := List.mem_singleton.1 hc
            exact hzero
          · exact hdrop _ c hc
    · simp only [List.mem_cons, List.mem_append] at hc
      rcases hc with (hc | hc) | rfl | rfl | hc
      · exact htake _ c hc
      · split at hc
        · cases hc
        · rcases List.mem_cons.1 hc with rfl | hc
          · exact hpoint
          · exact hdrop _ c hc
      · exact hmark
      · exact hsign _
      · exact isNumeral_of_mem_digits hc

theorem exists_decimal (d : Decimal) : ∃ c cs, decimal d = c :: cs ∧ c.isDigit = true := by
  obtain ⟨c, cs, hdigits, hc⟩ := exists_digits d.digits
  unfold decimal
  simp only [hdigits]
  split
  · exact ⟨'0', _, rfl, by decide⟩
  · split
    · split
      · exact ⟨'0', _, rfl, by decide⟩
      · exact ⟨c, _, rfl, hc⟩
    · exact ⟨c, _, rfl, hc⟩

/-- A number is written with numerals alone. -/
theorem print_numeral (n : Number) : ∀ c ∈ n.print, isNumeral c = true := by
  have hminus : isNumeral '-' = true := by decide
  intro c hc
  cases n with
  | integer i =>
    rw [Number.print, integer] at hc
    split at hc
    · rcases List.mem_cons.1 hc with rfl | hc
      · exact hminus
      · exact isNumeral_of_mem_digits hc
    · exact isNumeral_of_mem_digits hc
  | float x =>
    rw [Number.print, float] at hc
    split at hc
    · rcases List.mem_cons.1 hc with rfl | hc
      · exact hminus
      · exact decimal_numeral _ c hc
    · exact decimal_numeral _ c hc

/-- A number begins with a minus or a digit. -/
theorem exists_print (n : Number) :
    ∃ c cs, n.print = c :: cs ∧ (c = '-' ∨ c.isDigit = true) := by
  cases n with
  | integer i =>
    rw [Number.print, integer]
    split
    · exact ⟨'-', _, rfl, Or.inl rfl⟩
    · obtain ⟨c, cs, hdigits, hc⟩ := exists_digits i.natAbs
      exact ⟨c, cs, hdigits, Or.inr hc⟩
  | float x =>
    rw [Number.print, float]
    split
    · exact ⟨'-', _, rfl, Or.inl rfl⟩
    · obtain ⟨c, cs, hdecimal, hc⟩ := exists_decimal x.shortest
      exact ⟨c, cs, hdecimal, Or.inr hc⟩

/-! ## 5. Reading a number that was written -/

theorem Alike.number {cs rest : List Char} {x y : Read Number} (h : Alike cs rest x y) :
    Alike cs rest (x.map fun (n, left) => (Value.number n, left))
      (y.map fun (n, left) => (Value.number n, left)) := by
  cases h with
  | fails => exact .fails
  | reads n hleft => exact .reads (Value.number n) hleft

theorem readScalar_of_isDigit {c : Char} (h : c.isDigit = true) (cs : List Char) :
    readScalar (c :: cs) =
      (readNumber false (c :: cs)).map fun (n, left) => (.number n, left) := by
  unfold readScalar
  split
  case h_7 =>
    rename_i heq
    cases heq
    exact if_pos h
  -- every other character that a scalar begins with is no digit
  all_goals
    rename_i heq
    cases heq
  all_goals exact absurd h (by decide)

theorem readScalar_alike {rest : List Char} (hrest : Ends rest) (n : Number) :
    Alike n.print rest (readScalar n.print) (readScalar (n.print ++ rest)) := by
  obtain ⟨c, cs, hprint, hc⟩ := exists_print n
  rw [hprint]
  rcases hc with rfl | hc
  · exact (readNumber_alike true hrest cs).number.mono (List.suffix_cons _ cs)
  · rw [List.cons_append, readScalar_of_isDigit hc, readScalar_of_isDigit hc]
    exact (readNumber_alike false hrest (c :: cs)).number

/-- **A number that was written is read to its end**, and it is read as if it stood alone. -/
theorem readScalar_print_iff {rest rest' : List Char} (hrest : Ends rest) (hrest' : Ends rest')
    (n : Number) (w : Value) :
    readScalar (n.print ++ rest) = .ok (w, rest') ↔
      readScalar n.print = .ok (w, []) ∧ rest' = rest := by
  have halike := readScalar_alike hrest n
  constructor
  · intro h
    rw [h] at halike
    generalize hx : readScalar n.print = x at halike
    generalize hy : (Except.ok (w, rest') : Read Value) = y at halike
    cases halike with
    | fails => cases hy
    | @reads a left hleft =>
      obtain ⟨rfl, rfl⟩ := Prod.mk.inj (Except.ok.inj hy)
      cases left with
      | nil => exact ⟨rfl, rfl⟩
      | cons c left =>
        -- what is left of the number is a numeral, and those do not end a number
        have hnumeral := print_numeral n c (hleft.subset List.mem_cons_self)
        rw [hrest'.head] at hnumeral
        cases hnumeral
  · rintro ⟨h, rfl⟩
    rw [h] at halike
    generalize hy : readScalar (n.print ++ rest') = y at halike
    cases halike with
    | reads a hleft => rfl

/-! ## 6. Natural numbers -/

theorem digitChar_ne_zero : ∀ n < 10, n ≠ 0 → Nat.digitChar n ≠ '0' := by decide

/-- Only zero is written with a zero in front. -/
theorem head_digits_ne_zero (n : Nat) (h : n ≠ 0) : ∀ c ∈ (digits n).head?, c ≠ '0' := by
  intro c hc
  rw [digits, Nat.toDigits_eq_if (by decide)] at hc
  split at hc
  · rename_i hlt
    obtain rfl : n.digitChar = c := Option.some.inj hc
    exact digitChar_ne_zero n hlt h
  · rename_i hge
    -- the first digits are those of a smaller number, and there is at least one of them
    obtain ⟨d, ds, hdigits, -⟩ := exists_digits (n / 10)
    refine head_digits_ne_zero (n / 10) (by omega) c ?_
    rw [digits] at hdigits ⊢
    rw [hdigits] at hc ⊢
    exact hc
termination_by n
decreasing_by omega

/-- Digits that follow do not make a number smaller. -/
theorem le_ofDigitChars (ds : List Char) (n : Nat) : n ≤ Nat.ofDigitChars 10 ds n := by
  have hmul : n ≤ 10 ^ ds.length * n := Nat.le_mul_of_pos_left n (Nat.pow_pos (by decide))
  rw [Nat.ofDigitChars_eq_ofDigitChars_zero]
  omega

/-- All digits of a number are gathered if it does not exceed the bound. -/
theorem gather_of_digits {bound : Nat} : ∀ {ds : List Char} {n : Nat},
    (∀ d ∈ ds, d.isDigit = true) → Nat.ofDigitChars 10 ds n ≤ bound →
      gather bound n ds = (Nat.ofDigitChars 10 ds n, ds.length, [])
  | [], n, _, _ => rfl
  | d :: ds, n, h, hbound => by
    obtain ⟨hd, hds⟩ := List.forall_mem_cons.1 h
    have hstep : n * 10 + digitValue d = 10 * n + (d.toNat - '0'.toNat) := by
      rw [Nat.mul_comm, digitValue]
    rw [Nat.ofDigitChars_cons, ← hstep] at hbound ⊢
    rw [gather, if_pos ⟨hd, Nat.le_trans (le_ofDigitChars ds _) hbound⟩, gather_of_digits hds hbound]
    rfl

theorem gather_digits {bound n : Nat} (h : n ≤ bound) :
    gather bound 0 (digits n) = (n, (digits n).length, []) := by
  have hvalue : Nat.ofDigitChars 10 (digits n) 0 = n := Nat.ofDigitChars_ten_toDigits
  have hbound : Nat.ofDigitChars 10 (digits n) 0 ≤ bound := by rw [hvalue]; exact h
  rw [gather_of_digits (fun d hd => isDigit_of_mem_digits hd) hbound, hvalue]

/-- The digits of a number are read as the number. -/
theorem readNumber_digits {n : Nat} (h : n ≤ greatestSignificand) (negative : Bool) :
    readNumber negative (digits n) = .ok (wholeNumber negative n, []) := by
  have hgather := gather_digits h
  obtain ⟨c, cs, hdigits, hc⟩ := exists_digits n
  have hzero : ¬ (c = '0' ∧ startsWithDigit cs = true) := by
    rintro ⟨rfl, hcs⟩
    by_cases hn : n = 0
    · subst hn
      cases hdigits
      cases hcs
    · exact head_digits_ne_zero n hn '0' (by rw [hdigits]; rfl) rfl
  rw [hdigits] at hgather ⊢
  rw [readNumber, hgather, hc, if_neg (by decide), if_neg hzero]
  rfl

/-- **A natural number of 64 bits is read back.** -/
theorem readScalar_natural {n : Nat} (h : n ≤ greatestSignificand) :
    readScalar (Number.integer n).print = .ok (.number (.integer n), []) := by
  have hprint : (Number.integer n).print = digits n := by
    rw [Number.print, integer, if_neg (by omega), Int.natAbs_natCast]
  obtain ⟨c, cs, hdigits, hc⟩ := exists_digits n
  rw [hprint, hdigits, readScalar_of_isDigit hc, ← hdigits, readNumber_digits h]
  rfl

end CallBook.Json

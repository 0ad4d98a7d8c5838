import CallBook.Proofs.Json.Numerals
import CallBook.Proofs.Json.Ordered
/-!
# Reading what was written

A text in quotes is read back up to the quote that ends it, whatever it holds: each character is
written as itself or as an escape that stands for it (`escape_cases`).  With numbers it may be
otherwise, as a number of many digits may be read as one that is next to it; and containers are
read if they do not nest too deep.  `Rereads` says what is read from the text of a value, by
recursion on the value, and `readsAs_readValue` shows it of the reader, whatever stands behind
the text and ends a number.  The readers for items and fields are taken with any reader for
values here, so the induction over the depth is in one place.

An object of texts is read back as it was written, except that its fields are put in order
(`parse_compact_object`).  It is written without a line feed, whatever the texts have
(`lineFeed_not_mem_compact`).
-/

namespace CallBook.Json

/-! ## 1. Strings -/

theorem hexValue?_hexDigit : ∀ n < 16, hexValue? (hexDigit n) = some n := by decide

/-- A control character is read back from its number. -/
theorem readEscape_control {c : Char} (h : c.toNat < 0x20) (rest : List Char) :
    readEscape ('u' :: '0' :: '0' :: hexDigit (c.toNat / 16) :: hexDigit (c.toNat % 16) :: rest) =
      .ok (c, rest) := by
  have hhex : hexValue4? '0' '0' (hexDigit (c.toNat / 16)) (hexDigit (c.toNat % 16)) =
      some c.toNat := by
    have hzero : hexValue? '0' = some 0 := by decide
    simp only [hexValue4?, hzero, hexValue?_hexDigit (c.toNat / 16) (by omega),
      hexValue?_hexDigit (c.toNat % 16) (by omega)]
    exact congrArg some (by omega)
  have htrailing : isTrailingSurrogate c.toNat = false := by
    simp only [isTrailingSurrogate, Bool.and_eq_false_iff, decide_eq_false_iff_not]
    omega
  have hleading : isLeadingSurrogate c.toNat = false := by
    simp only [isLeadingSurrogate, Bool.and_eq_false_iff, decide_eq_false_iff_not]
    omega
  rw [readEscape]
  simp [simpleEscape?, readHex, hhex, htrailing, hleading, Char.ofNat_toNat]

/-- A character is written as itself, or as an escape that stands for it. -/
theorem escape_cases (c : Char) :
    (escape c = [c] ∧ c ≠ '"' ∧ c ≠ '\\' ∧ 0x20 ≤ c.toNat) ∨
      ∃ code, escape c = '\\' :: code ∧ ∀ rest, readEscape (code ++ rest) = .ok (c, rest) := by
  unfold escape
  split
  · rename_i h; exact Or.inr ⟨['"'], rfl, fun rest => by rw [h]; rfl⟩
  split
  · rename_i h; exact Or.inr ⟨['\\'], rfl, fun rest => by rw [h]; rfl⟩
  split
  · rename_i h; exact Or.inr ⟨['b'], rfl, fun rest => by rw [h]; rfl⟩
  split
  · rename_i h; exact Or.inr ⟨['t'], rfl, fun rest => by rw [h]; rfl⟩
  split
  · rename_i h; exact Or.inr ⟨['n'], rfl, fun rest => by rw [h]; rfl⟩
  split
  · rename_i h; exact Or.inr ⟨['f'], rfl, fun rest => by rw [h]; rfl⟩
  split
  · rename_i h; exact Or.inr ⟨['r'], rfl, fun rest => by rw [h]; rfl⟩
  split
  · rename_i h; exact Or.inr ⟨_, rfl, readEscape_control h⟩
  · rename_i hquote hbackslash _ _ _ _ _ hcontrol
    exact Or.inl ⟨rfl, hquote, hbackslash, Nat.le_of_not_lt hcontrol⟩

theorem readString_cons {c : Char} {cs text rest : List Char} (hquote : c ≠ '"')
    (hbackslash : c ≠ '\\') (hcontrol : 0x20 ≤ c.toNat) (h : readString cs = .ok (text, rest)) :
    readString (c :: cs) = .ok (c :: text, rest) := by
  rw [readString, if_neg hquote, if_neg hbackslash, if_neg (Nat.not_lt.2 hcontrol), h]

theorem readString_escape {c : Char} {cs cs' text rest : List Char}
    (hescape : readEscape cs = .ok (c, cs')) (h : readString cs' = .ok (text, rest)) :
    readString ('\\' :: cs) = .ok (c :: text, rest) := by
  rw [readString, if_neg (by decide), if_pos rfl]
  split
  · rename_i he; rw [hescape] at he; cases he
  · rename_i he
    rw [hescape] at he
    cases he
    rw [h]

/-- **A text in quotes is read back**, after the opening quote. -/
theorem readString_quote (text rest : List Char) :
    readString (text.flatMap escape ++ '"' :: rest) = .ok (text, rest) := by
  induction text with
  | nil => rw [List.flatMap_nil, List.nil_append, readString, if_pos rfl]
  | cons c text ih =>
    rw [List.flatMap_cons, List.append_assoc]
    rcases escape_cases c with ⟨hescape, hquote, hbackslash, hcontrol⟩ | ⟨code, hescape, hread⟩
    · rw [hescape]
      exact readString_cons hquote hbackslash hcontrol ih
    · rw [hescape]
      exact readString_escape (hread _) ih

theorem quote_append (text rest : List Char) :
    quote text ++ rest = '"' :: (text.flatMap escape ++ '"' :: rest) := by
  simp [quote]

/-! ## 2. Items and fields -/

theorem skipSpace_cons {c : Char} (h : isSpace c = false) (cs : List Char) :
    skipSpace (c :: cs) = c :: cs :=
  List.dropWhile_cons_of_neg (by rw [h]; exact Bool.false_ne_true)

theorem not_isNumeral_of_isSpace {c : Char} (h : isSpace c = true) : isNumeral c = false := by
  simp only [isSpace, Bool.or_eq_true, decide_eq_true_eq] at h
  rcases h with ((rfl | rfl) | rfl) | rfl <;> decide

theorem not_isSpace_of_isDigit {c : Char} (h : c.isDigit = true) : isSpace c = false := by
  cases hspace : isSpace c with
  | false => rfl
  | true =>
    have hnumeral := isNumeral_of_isDigit h
    rw [not_isNumeral_of_isSpace hspace] at hnumeral
    cases hnumeral

/-- What is behind blanks decides whether they end a number, since they do. -/
theorem ends_of_skipSpace {cs : List Char} (h : Ends (skipSpace cs)) : Ends cs := by
  cases cs with
  | nil => exact ends_nil
  | cons c cs =>
    cases hc : isSpace c with
    | true => exact ends_cons (not_isNumeral_of_isSpace hc) cs
    | false => rwa [skipSpace_cons hc] at h

/-- What is written behind an item: the other items, and the bracket that ends them. -/
def printMoreItems : List Value → List Char
  | [] => [']']
  | v :: more => ',' :: printItems (v :: more)

theorem printItems_cons (v : Value) (more : List Value) :
    printItems (v :: more) = v.print ++ printMoreItems more := by
  cases more <;> rfl

theorem ends_printMoreItems (items : List Value) (rest : List Char) :
    Ends (printMoreItems items ++ rest) := by
  cases items with
  | nil => exact ends_cons (by decide) rest
  | cons v more => exact ends_cons (by decide) _

/-- What is written behind a field: the other fields, and the brace that ends them. -/
def printMoreFields : Fields → List Char
  | [] => ['}']
  | e :: more => ',' :: printFields (e :: more)

theorem printFields_cons (k : String) (v : Value) (more : Fields) :
    printFields ((k, v) :: more) = quote k.toList ++ ':' :: (v.print ++ printMoreFields more) := by
  cases more <;> rfl

theorem printFields_append (k : String) (v : Value) (more : Fields) (rest : List Char) :
    printFields ((k, v) :: more) ++ rest =
      '"' :: (k.toList.flatMap escape ++ '"' :: ':' ::
        (v.print ++ (printMoreFields more ++ rest))) := by
  rw [printFields_cons, List.append_assoc, quote_append, List.cons_append, List.append_assoc]

theorem ends_printMoreFields (fields : Fields) (rest : List Char) :
    Ends (printMoreFields fields ++ rest) := by
  cases fields with
  | nil => exact ends_cons (by decide) rest
  | cons e more => exact ends_cons (by decide) _

/-- A value begins with neither a blank nor a bracket that ends an array. -/
theorem exists_print_value (v : Value) :
    ∃ c cs, v.print = c :: cs ∧ isSpace c = false ∧ c ≠ ']' := by
  cases v with
  | null => exact ⟨'n', _, rfl, by decide, by decide⟩
  | bool b => cases b <;> exact ⟨_, _, rfl, by decide, by decide⟩
  | string s => exact ⟨'"', _, rfl, by decide, by decide⟩
  | array items => exact ⟨'[', _, rfl, by decide, by decide⟩
  | object fields => exact ⟨'{', _, rfl, by decide, by decide⟩
  | number n =>
    obtain ⟨c, cs, hprint, -⟩ := exists_print n
    have hnumeral : isNumeral c = true :=
      print_numeral n c (by rw [hprint]; exact List.mem_cons_self)
    refine ⟨c, cs, hprint, ?_, ?_⟩
    · cases hspace : isSpace c with
      | false => rfl
      | true =>
        rw [not_isNumeral_of_isSpace hspace] at hnumeral
        cases hnumeral
    · rintro rfl
      exact absurd hnumeral (by decide)

/-- One thing, and the things behind it. -/
def readFrom {α : Type} (first : List Char → Read α) (more : List Char → Read (List α))
    (cs : List Char) : Read (List α) :=
  match first cs with
  | .error e => .error e
  | .ok (a, rest) =>
    match more rest with
    | .error e => .error e
    | .ok (as, rest) => .ok (a :: as, rest)

section Lists

variable {α : Type} {S : α → α → Prop} {rest rest' : List Char}

theorem read_nil_iff {bs : List α} :
    (Except.ok ([], rest) : Read (List α)) = .ok (bs, rest') ↔
      List.Forall₂ S [] bs ∧ rest' = rest := by
  rw [List.forall₂_nil_left_iff, Except.ok.injEq, Prod.mk.injEq, eq_comm, eq_comm (a := rest)]

/-- If a thing is read as it was written, and the things behind it are, so are all of them.  What
is behind the first thing ends a number, since `more` reads it. -/
theorem readFrom_iff {first : List Char → Read α} {more : List Char → Read (List α)}
    {a : α} {as bs : List α} {text behind : List Char} (hbehind : Ends behind)
    (hends : ∀ {left left' cs}, more left = .ok (cs, left') → Ends left)
    (hfirst : ∀ {b left}, Ends left → (first text = .ok (b, left) ↔ S a b ∧ left = behind))
    (hmore : ∀ cs, more behind = .ok (cs, rest') ↔ List.Forall₂ S as cs ∧ rest' = rest) :
    readFrom first more text = .ok (bs, rest') ↔
      List.Forall₂ S (a :: as) bs ∧ rest' = rest := by
  rw [readFrom]
  constructor
  · intro h
    cases hb : first text with
    | error e => simp only [hb, reduceCtorEq] at h
    | ok read =>
      obtain ⟨b, left⟩ := read
      cases hcs : more left with
      | error e => simp only [hb, hcs, reduceCtorEq] at h
      | ok read =>
        obtain ⟨cs, left'⟩ := read
        simp only [hb, hcs, Except.ok.injEq, Prod.mk.injEq] at h
        obtain ⟨rfl, rfl⟩ := h
        obtain ⟨hab, rfl⟩ := (hfirst (hends hcs)).1 hb
        obtain ⟨has, rfl⟩ := (hmore cs).1 hcs
        exact ⟨.cons hab has, rfl⟩
  · rintro ⟨h, rfl⟩
    cases h with
    | cons hab has =>
      have hb := (hfirst hbehind).2 ⟨hab, rfl⟩
      have hcs := (hmore _).2 ⟨has, rfl⟩
      simp only [hb, hcs]

end Lists

/-- A reader of values reads what was written of a value to its end, and what it reads stands in a
relation to the value. -/
def ReadsAs (item : List Char → Read Value) (R : Value → Value → Prop) : Prop :=
  ∀ {v w : Value} {rest rest' : List Char}, Ends rest → Ends rest' →
    (item (v.print ++ rest) = .ok (w, rest') ↔ R v w ∧ rest' = rest)

section Containers

variable {item : List Char → Read Value} {R : Value → Value → Prop} {rest rest' : List Char}

/-! ### Items -/

theorem readMoreItems_value (bound : Nat) (v : Value) (cs : List Char) :
    readMoreItems item (bound + 1) (',' :: (v.print ++ cs)) =
      readFrom item (readMoreItems item bound) (v.print ++ cs) := by
  obtain ⟨c, cs', hprint, hspace, hbracket⟩ := exists_print_value v
  rw [hprint, List.cons_append, readMoreItems, skipSpace_cons (by decide), readFrom]
  simp only [skipSpace_cons hspace]
  split
  · rename_i heq
    cases heq
  · rename_i heq
    exact absurd (List.cons.inj heq).1 hbracket
  · cases item (c :: (cs' ++ cs)) with
    | error e => rfl
    | ok read =>
      obtain ⟨w, left⟩ := read
      cases hmore : readMoreItems item bound left <;> simp only [hmore]

theorem readItems_value (v : Value) (cs : List Char) :
    readItems item (v.print ++ cs) =
      readFrom item (fun left => readMoreItems item left.length left) (v.print ++ cs) := by
  obtain ⟨c, cs', hprint, hspace, hbracket⟩ := exists_print_value v
  rw [hprint, List.cons_append, readItems, skipSpace_cons hspace, readFrom]
  split
  · rename_i heq
    cases heq
  · rename_i heq
    exact absurd (List.cons.inj heq).1 hbracket
  · cases item (c :: (cs' ++ cs)) with
    | error e => rfl
    | ok read =>
      obtain ⟨w, left⟩ := read
      cases hmore : readMoreItems item left.length left <;> simp only [hmore]

/-- Where more items are read the number in front of them has ended. -/
theorem ends_of_readMoreItems {bound : Nat} {cs rest : List Char} {vs : List Value}
    (h : readMoreItems item bound cs = .ok (vs, rest)) : Ends cs := by
  cases bound with
  | zero => cases h
  | succ bound =>
    rw [readMoreItems] at h
    refine ends_of_skipSpace ?_
    split at h
    · cases h
    · rename_i heq
      rw [heq]
      exact ends_cons (by decide) _
    · rename_i heq
      rw [heq]
      exact ends_cons (by decide) _
    · cases h

theorem readMoreItems_print_iff (hitem : ReadsAs item R) :
    ∀ {items : List Value} {bound : Nat} {ws : List Value}, items.length < bound →
      (readMoreItems item bound (printMoreItems items ++ rest) = .ok (ws, rest') ↔
        List.Forall₂ R items ws ∧ rest' = rest)
  | _, 0, _, h => absurd h (Nat.not_lt_zero _)
  | [], bound + 1, ws, _ => read_nil_iff
  | v :: more, bound + 1, ws, h => by
    have hends := ends_printMoreItems more rest
    rw [printMoreItems, printItems_cons, List.cons_append, List.append_assoc, readMoreItems_value]
    exact readFrom_iff hends ends_of_readMoreItems (hitem hends) fun vs =>
      readMoreItems_print_iff hitem (Nat.lt_of_succ_lt_succ h)

theorem length_lt_printMoreItems : ∀ items : List Value,
    items.length < (printMoreItems items).length
  | [] => Nat.zero_lt_one
  | v :: more => by
    have ih := length_lt_printMoreItems more
    rw [printMoreItems, printItems_cons, List.length_cons, List.length_cons, List.length_append]
    omega

/-- **Items are read as they were written**, after the opening bracket. -/
theorem readItems_print_iff (hitem : ReadsAs item R) {items : List Value} (ws : List Value) :
    readItems item (printItems items ++ rest) = .ok (ws, rest') ↔
      List.Forall₂ R items ws ∧ rest' = rest := by
  cases items with
  | nil => exact read_nil_iff
  | cons v more =>
    have hbound : more.length < (printMoreItems more ++ rest).length := by
      have hlt := length_lt_printMoreItems more
      rw [List.length_append]
      omega
    have hends := ends_printMoreItems more rest
    rw [printItems_cons, List.append_assoc, readItems_value]
    exact readFrom_iff hends ends_of_readMoreItems (hitem hends) fun vs =>
      readMoreItems_print_iff hitem hbound

/-! ### Fields -/

/-- The name of a field is read back, and then its value is read. -/
theorem readField_print_iff (hitem : ReadsAs item R) {k : String} {v : Value}
    {f : String × Value} (hrest : Ends rest) (hrest' : Ends rest') :
    readField item (k.toList.flatMap escape ++ '"' :: ':' :: (v.print ++ rest)) =
        .ok (f, rest') ↔
      Fields.Matches R (k, v) f ∧ rest' = rest := by
  rw [readField, readString_quote]
  simp only [skipSpace_cons (by decide : isSpace ':' = false), String.ofList_toList]
  constructor
  · intro h
    cases hvalue : item (v.print ++ rest) with
    | error e => simp only [hvalue, reduceCtorEq] at h
    | ok read =>
      obtain ⟨w, left⟩ := read
      simp only [hvalue, Except.ok.injEq, Prod.mk.injEq] at h
      obtain ⟨rfl, rfl⟩ := h
      obtain ⟨hw, rfl⟩ := (hitem hrest hrest').1 hvalue
      exact ⟨⟨rfl, hw⟩, rfl⟩
  · rintro ⟨⟨hname, hw⟩, rfl⟩
    obtain ⟨l, w⟩ := f
    obtain rfl : l = k := hname
    simp only [(hitem hrest hrest).2 ⟨hw, rfl⟩]

theorem readMoreFields_quote (bound : Nat) (cs : List Char) :
    readMoreFields item (bound + 1) (',' :: '"' :: cs) =
      readFrom (readField item) (readMoreFields item bound) cs := by
  rw [readMoreFields, skipSpace_cons (by decide), readFrom]
  simp only [skipSpace_cons (by decide : isSpace '"' = false)]
  cases readField item cs with
  | error e => rfl
  | ok read =>
    obtain ⟨f, left⟩ := read
    cases hmore : readMoreFields item bound left <;> simp only [hmore]

theorem readFields_quote (cs : List Char) :
    readFields item ('"' :: cs) =
      readFrom (readField item) (fun left => readMoreFields item left.length left) cs := by
  rw [readFields, skipSpace_cons (by decide), readFrom]
  cases hread : readField item cs with
  | error e => simp only [hread]
  | ok read =>
    obtain ⟨f, left⟩ := read
    cases hmore : readMoreFields item left.length left <;> simp only [hread, hmore]

/-- Where more fields are read the number in front of them has ended. -/
theorem ends_of_readMoreFields {bound : Nat} {cs rest : List Char} {fs : Fields}
    (h : readMoreFields item bound cs = .ok (fs, rest)) : Ends cs := by
  cases bound with
  | zero => cases h
  | succ bound =>
    rw [readMoreFields] at h
    refine ends_of_skipSpace ?_
    split at h
    · cases h
    · rename_i heq
      rw [heq]
      exact ends_cons (by decide) _
    · rename_i heq
      rw [heq]
      exact ends_cons (by decide) _
    · cases h

theorem readMoreFields_print_iff (hitem : ReadsAs item R) :
    ∀ {fields : Fields} {bound : Nat} {fs : Fields}, fields.length < bound →
      (readMoreFields item bound (printMoreFields fields ++ rest) = .ok (fs, rest') ↔
        List.Forall₂ (Fields.Matches R) fields fs ∧ rest' = rest)
  | _, 0, _, h => absurd h (Nat.not_lt_zero _)
  | [], bound + 1, fs, _ => read_nil_iff
  | (k, v) :: more, bound + 1, fs, h => by
    have hends := ends_printMoreFields more rest
    rw [printMoreFields, List.cons_append, printFields_append, readMoreFields_quote]
    exact readFrom_iff hends ends_of_readMoreFields (readField_print_iff hitem hends) fun gs =>
      readMoreFields_print_iff hitem (Nat.lt_of_succ_lt_succ h)

theorem length_lt_printMoreFields : ∀ fields : Fields,
    fields.length < (printMoreFields fields).length
  | [] => Nat.zero_lt_one
  | (k, v) :: more => by
    have ih := length_lt_printMoreFields more
    rw [printMoreFields, printFields_cons, List.length_cons, List.length_cons, List.length_append,
      List.length_cons, List.length_append]
    omega

/-- **Fields are read as they were written**, after the opening brace. -/
theorem readFields_print_iff (hitem : ReadsAs item R) {fields : Fields} (fs : Fields) :
    readFields item (printFields fields ++ rest) = .ok (fs, rest') ↔
      List.Forall₂ (Fields.Matches R) fields fs ∧ rest' = rest := by
  cases fields with
  | nil => exact read_nil_iff
  | cons e more =>
    obtain ⟨k, v⟩ := e
    have hbound : more.length < (printMoreFields more ++ rest).length := by
      have hlt := length_lt_printMoreFields more
      rw [List.length_append]
      omega
    have hends := ends_printMoreFields more rest
    rw [printFields_append, readFields_quote]
    exact readFrom_iff hends ends_of_readMoreFields (readField_print_iff hitem hends) fun gs =>
      readMoreFields_print_iff hitem hbound

end Containers

/-! ## 3. Values -/

/-- What is read from the text of a value where containers may nest at most `depth` deep.  A
number may become another one; a container is read if what is in it is. -/
def Rereads : Nat → Value → Value → Prop
  | _, .null, w => w = .null
  | _, .bool b, w => w = .bool b
  | _, .string s, w => w = .string s
  | _, .number n, w => readScalar n.print = .ok (w, [])
  | 0, .array _, _ => False
  | 0, .object _, _ => False
  | depth + 1, .array items, w =>
    ∃ ws, w = .array ws ∧ List.Forall₂ (Rereads depth) items ws
  | depth + 1, .object fields, w =>
    ∃ fs, w = .object (Fields.ofList fs) ∧ List.Forall₂ (Fields.Matches (Rereads depth)) fields fs

theorem readValue_scalar {c : Char} (hspace : isSpace c = false) (hbracket : c ≠ '[')
    (hbrace : c ≠ '{') (depth : Nat) (cs : List Char) :
    readValue depth (c :: cs) = readScalar (c :: cs) := by
  cases depth with
  | zero =>
    rw [readValue, skipSpace_cons hspace]
    split
    · rename_i heq
      exact absurd (List.cons.inj heq).1 hbracket
    · rename_i heq
      exact absurd (List.cons.inj heq).1 hbrace
    · rfl
  | succ depth =>
    rw [readValue, skipSpace_cons hspace]
    split
    · rename_i heq
      exact absurd (List.cons.inj heq).1 hbracket
    · rename_i heq
      exact absurd (List.cons.inj heq).1 hbrace
    · rfl

theorem readValue_bracket (depth : Nat) (cs : List Char) :
    readValue (depth + 1) ('[' :: cs) =
      (readItems (readValue depth) cs).map fun (vs, rest) => (.array vs, rest) := by
  rw [readValue, skipSpace_cons (by decide)]
  rfl

theorem readValue_brace (depth : Nat) (cs : List Char) :
    readValue (depth + 1) ('{' :: cs) =
      (readFields (readValue depth) cs).map
        fun (fs, rest) => (.object (Fields.ofList fs), rest) := by
  rw [readValue, skipSpace_cons (by decide)]
  rfl

/-- What is read as it was written is read as nothing else. -/
theorem eq_ok_iff_of_eq {read : Read Value} {v w : Value} {rest rest' : List Char}
    (h : read = .ok (v, rest)) : read = .ok (w, rest') ↔ w = v ∧ rest' = rest := by
  rw [h, Except.ok.injEq, Prod.mk.injEq, eq_comm, eq_comm (a := rest)]

/-- **Values are read as they were written**, but for their numbers, if they do not nest too
deep. -/
theorem readsAs_readValue : ∀ depth : Nat, ReadsAs (readValue depth) (Rereads depth)
  | depth, .null, w, rest, rest', _, _ => by
    have hread : readValue depth (Value.null.print ++ rest) = .ok (.null, rest) :=
      readValue_scalar (by decide) (by decide) (by decide) depth _
    rw [eq_ok_iff_of_eq hread, Rereads]
  | depth, .bool b, w, rest, rest', _, _ => by
    have hread : readValue depth ((Value.bool b).print ++ rest) = .ok (.bool b, rest) := by
      cases b <;> exact readValue_scalar (by decide) (by decide) (by decide) depth _
    rw [eq_ok_iff_of_eq hread, Rereads]
  | depth, .string s, w, rest, rest', _, _ => by
    have hread : readValue depth ((Value.string s).print ++ rest) = .ok (.string s, rest) := by
      rw [Value.print, quote_append, readValue_scalar (by decide) (by decide) (by decide)]
      simp only [readScalar, readString_quote, Except.map, String.ofList_toList]
    rw [eq_ok_iff_of_eq hread, Rereads]
  | depth, .number n, w, rest, rest', hrest, hrest' => by
    obtain ⟨c, cs, hprint, hc⟩ := exists_print n
    have hscalar : readValue depth (n.print ++ rest) = readScalar (n.print ++ rest) := by
      rw [hprint]
      rcases hc with rfl | hc
      · exact readValue_scalar (by decide) (by decide) (by decide) depth _
      · exact readValue_scalar (not_isSpace_of_isDigit hc) (by rintro rfl; cases hc)
          (by rintro rfl; cases hc) depth _
    rw [Value.print, hscalar, Rereads]
    exact readScalar_print_iff hrest hrest' n w
  | 0, .array items, w, rest, rest', _, _ => by
    rw [Rereads, false_and, iff_false]
    intro h
    cases h
  | 0, .object fields, w, rest, rest', _, _ => by
    rw [Rereads, false_and, iff_false]
    intro h
    cases h
  | depth + 1, .array items, w, rest, rest', _, _ => by
    have ih : ReadsAs (readValue depth) (Rereads depth) := readsAs_readValue depth
    rw [Value.print, List.cons_append, readValue_bracket, Rereads]
    constructor
    · intro h
      obtain ⟨ws, hws, rfl⟩ := exists_of_map_eq_ok (f := Value.array) h
      obtain ⟨hitems, rfl⟩ := (readItems_print_iff ih ws).1 hws
      exact ⟨⟨ws, rfl, hitems⟩, rfl⟩
    · rintro ⟨⟨ws, rfl, hitems⟩, rfl⟩
      rw [(readItems_print_iff ih ws).2 ⟨hitems, rfl⟩]
      rfl
  | depth + 1, .object fields, w, rest, rest', _, _ => by
    have ih : ReadsAs (readValue depth) (Rereads depth) := readsAs_readValue depth
    rw [Value.print, List.cons_append, readValue_brace, Rereads]
    constructor
    · intro h
      obtain ⟨fs, hfs, rfl⟩ :=
        exists_of_map_eq_ok (f := fun fs => Value.object (Fields.ofList fs)) h
      obtain ⟨hfields, rfl⟩ := (readFields_print_iff ih fs).1 hfs
      exact ⟨⟨fs, rfl, hfields⟩, rfl⟩
    · rintro ⟨⟨fs, rfl, hfields⟩, rfl⟩
      rw [(readFields_print_iff ih fs).2 ⟨hfields, rfl⟩]
      rfl

/-- An array is read as it was written if its items are. -/
theorem rereads_array_self {depth : Nat} {items : List Value} :
    Rereads (depth + 1) (.array items) (.array items) ↔ ∀ v ∈ items, Rereads depth v v := by
  rw [Rereads, ← List.forall₂_same]
  constructor
  · rintro ⟨ws, heq, hitems⟩
    obtain rfl : items = ws := Value.array.inj heq
    exact hitems
  · intro hitems
    exact ⟨items, rfl, hitems⟩

/-- An object is read as it was written if its fields are in order and their values are read so. -/
theorem rereads_object_self {depth : Nat} {fields : Fields} :
    Rereads (depth + 1) (.object fields) (.object fields) ↔
      Fields.Ascending fields ∧ ∀ e ∈ fields, Rereads depth e.2 e.2 := by
  rw [Rereads]
  constructor
  · rintro ⟨fs, heq, hmatches⟩
    obtain rfl : fields = Fields.ofList fs := Value.object.inj heq
    have hascending := Fields.ascending_ofList fs
    have hfs : Fields.ofList fs = fs :=
      Fields.ofList_of_ascending
        (Fields.ascending_of_names hascending (Fields.names_of_matches hmatches))
    rw [hfs] at hmatches hascending ⊢
    exact ⟨hascending, fun e he => (List.forall₂_same.1 hmatches e he).2⟩
  · rintro ⟨hascending, hvalues⟩
    refine ⟨fields, ?_, ?_⟩
    · rw [Fields.ofList_of_ascending hascending]
    · exact List.forall₂_same.2 fun e he => ⟨rfl, hvalues e he⟩

/-- An object is read back with its fields in order if their values are read back. -/
theorem rereads_object {depth : Nat} {fields : Fields}
    (h : ∀ e ∈ fields, Rereads depth e.2 e.2) :
    Rereads (depth + 1) (.object fields) (.object (Fields.ofList fields)) := by
  rw [Rereads]
  exact ⟨fields, rfl, List.forall₂_same.2 fun e he => ⟨rfl, h e he⟩⟩

/-! ## 4. Texts of values -/

theorem toList_compact (v : Value) : v.compact.toList = v.print := String.toList_ofList

theorem toList_compact_object (fields : Fields) :
    (Value.object fields).compact.toList = '{' :: printFields fields :=
  toList_compact _

/-- **What is read from the text of a value.** -/
theorem parse_compact_iff {v w : Value} : parse v.compact = .ok w ↔ Rereads greatestDepth v w := by
  have hread : ∀ {rest}, Ends rest →
      (readValue greatestDepth v.print = .ok (w, rest) ↔ Rereads greatestDepth v w ∧ rest = []) := by
    intro rest hrest
    have hiff := readsAs_readValue greatestDepth (v := v) (w := w) ends_nil hrest
    rwa [List.append_nil] at hiff
  rw [parse_eq_ok_iff, toList_compact]
  constructor
  · rintro ⟨rest, hvalue, hspace⟩
    have hrest : Ends rest := ends_of_skipSpace (hspace ▸ ends_nil)
    exact ((hread hrest).1 hvalue).1
  · intro h
    exact ⟨[], (hread ends_nil).2 ⟨h, rfl⟩, rfl⟩

/-- **An object of texts is read back**, with its fields in order. -/
theorem parse_compact_object {fields : Fields} (h : ∀ e ∈ fields, ∃ s, e.2 = .string s) :
    parse (Value.object fields).compact = .ok (.object (Fields.ofList fields)) := by
  refine parse_compact_iff.2 ⟨fields, rfl, List.forall₂_same.2 ?_⟩
  intro e he
  obtain ⟨s, hs⟩ := h e he
  refine ⟨rfl, ?_⟩
  rw [hs, Rereads]

/-! ## 5. One line -/

theorem hexDigit_ne_lineFeed : ∀ n < 16, '\n' ≠ hexDigit n := by decide

theorem lineFeed_not_mem_escape (c : Char) : '\n' ∉ escape c := by
  unfold escape
  repeat' split
  all_goals try decide
  · rename_i hcontrol
    have hhigh := hexDigit_ne_lineFeed (c.toNat / 16) (by omega)
    have hlow := hexDigit_ne_lineFeed (c.toNat % 16) (by omega)
    simp [hhigh, hlow]
  · rename_i hfeed _ _ _
    simpa using Ne.symm hfeed

theorem lineFeed_not_mem_quote (text : List Char) : '\n' ∉ quote text := by
  simp [quote, lineFeed_not_mem_escape]

theorem lineFeed_not_mem_printMoreFields : ∀ {fields : Fields},
    (∀ e ∈ fields, ∃ s, e.2 = .string s) → '\n' ∉ printMoreFields fields
  | [], _ => by decide
  | (k, v) :: more, h => by
    obtain ⟨⟨s, hs⟩, hmore⟩ := List.forall_mem_cons.1 h
    have ih := lineFeed_not_mem_printMoreFields hmore
    rw [printMoreFields, printFields_cons]
    simp [lineFeed_not_mem_quote, ih, show v = .string s from hs, Value.print]

/-- An object of texts is written on one line. -/
theorem lineFeed_not_mem_compact {fields : Fields} (h : ∀ e ∈ fields, ∃ s, e.2 = .string s) :
    '\n' ∉ (Value.object fields).compact.toList := by
  rw [toList_compact_object]
  cases fields with
  | nil => decide
  | cons e more =>
    have hline := lineFeed_not_mem_printMoreFields h
    simpa [printMoreFields] using hline

end CallBook.Json

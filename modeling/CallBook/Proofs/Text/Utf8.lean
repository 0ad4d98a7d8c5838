import CallBook.Text.Utf8
/-!
# What bytes read as

Bytes read as text from the front.  Where a character stands, that is its UTF-8 form, the
character is read.  Where none stands, the longest part that could begin one is read as the
replacement character, or a single byte if nothing could begin with it.  `Reads` says this
without a table of leading bytes, and `decodeLossy` does it (`reads_iff`).

The table and the UTF-8 forms of characters are compared twice: every form has the leading byte
and the following bytes that the table allows (`exists_continuation`), and everything that the
table allows is a form (`encodeChar_gather`).

`decode?` reads text only, and gives up where nothing stands: what it reads are the UTF-8 forms of
texts and nothing else (`decode?_eq_some_iff`).
-/

namespace CallBook.Text

open String (utf8EncodeChar)

/-! ## 1. Reading -/

/-- Bytes that a character can begin with. -/
def Begins (part : List UInt8) : Prop := ∃ c more, utf8EncodeChar c = part ++ more

/-- What is read as one replacement character: no character stands at the front, the part is the
longest that could begin one, or it is a single byte. -/
structure Broken (part rest : List UInt8) : Prop where
  ne_nil : part ≠ []
  no_char : ∀ c more, part ++ rest ≠ utf8EncodeChar c ++ more
  begins : part.length = 1 ∨ Begins part
  longest : ∀ part' rest', part ++ rest = part' ++ rest' → Begins part' →
    part'.length ≤ part.length

/-- Bytes and the text that they read as. -/
inductive Reads : List UInt8 → List Char → Prop
  | nil : Reads [] []
  /-- A character. -/
  | char (c : Char) {rest : List UInt8} {cs : List Char} :
      Reads rest cs → Reads (utf8EncodeChar c ++ rest) (c :: cs)
  /-- No character. -/
  | broken {part rest : List UInt8} {cs : List Char} :
      Broken part rest → Reads rest cs → Reads (part ++ rest) ('\ufffd' :: cs)

/-! ## 2. The table -/

/-- The bytes behind a leading byte as far as they are there: the first between two bounds, the
others any continuation bytes. -/
def Continues : UInt8 → UInt8 → List UInt8 → Prop
  | _, _, [] => True
  | low, high, b :: bytes => (low ≤ b ∧ b ≤ high) ∧ Continues 0x80 0xBF bytes

/-- The value that continuation bytes add to. -/
def gather (value : Nat) (part : List UInt8) : Nat :=
  part.foldl (fun value b => value * 64 + (b.toNat - 0x80)) value

theorem gather_cons (value : Nat) (b : UInt8) (part : List UInt8) :
    gather value (b :: part) = gather (value * 64 + (b.toNat - 0x80)) part := List.foldl_cons ..

/-- The table by the numbers of the bytes. -/
theorem continuation_eq (b : UInt8) :
    continuation b =
      if 0xC2 ≤ b.toNat ∧ b.toNat ≤ 0xDF then some (1, 0x80, 0xBF)
      else if b.toNat = 0xE0 then some (2, 0xA0, 0xBF)
      else if b.toNat = 0xED then some (2, 0x80, 0x9F)
      else if 0xE1 ≤ b.toNat ∧ b.toNat ≤ 0xEF then some (2, 0x80, 0xBF)
      else if b.toNat = 0xF0 then some (3, 0x90, 0xBF)
      else if 0xF1 ≤ b.toNat ∧ b.toNat ≤ 0xF3 then some (3, 0x80, 0xBF)
      else if b.toNat = 0xF4 then some (3, 0x80, 0x8F)
      else none := by
  simp only [continuation, UInt8.le_iff_toNat_le, ← UInt8.toNat_inj]
  rfl

theorem toNat_ofNat_of_lt {n : Nat} (h : n < 256) : (UInt8.ofNat n).toNat = n := by
  rw [UInt8.toNat_ofNat', Nat.mod_eq_of_lt h]

/-! ## 3. The forms of characters -/

theorem utf8EncodeChar_two {c : Char} (h : 0x7F < c.toNat ∧ c.toNat ≤ 0x7FF) :
    utf8EncodeChar c = [.ofNat (c.toNat / 64 + 0xC0), .ofNat (c.toNat % 64 + 0x80)] := by
  have hv : c.val.toNat = c.toNat := rfl
  have hhigh : c.toNat / 64 % 32 = c.toNat / 64 := by omega
  rw [utf8EncodeChar]
  simp only [hv, hhigh]
  rw [if_neg (by omega), if_pos h.2]

theorem utf8EncodeChar_three {c : Char} (h : 0x7FF < c.toNat ∧ c.toNat ≤ 0xFFFF) :
    utf8EncodeChar c = [.ofNat (c.toNat / 4096 + 0xE0), .ofNat (c.toNat / 64 % 64 + 0x80),
      .ofNat (c.toNat % 64 + 0x80)] := by
  have hv : c.val.toNat = c.toNat := rfl
  have hhigh : c.toNat / 4096 % 16 = c.toNat / 4096 := by omega
  rw [utf8EncodeChar]
  simp only [hv, hhigh]
  rw [if_neg (by omega), if_neg (by omega), if_pos h.2]

theorem utf8EncodeChar_four {c : Char} (h : 0xFFFF < c.toNat ∧ c.toNat < 0x110000) :
    utf8EncodeChar c = [.ofNat (c.toNat / 262144 + 0xF0), .ofNat (c.toNat / 4096 % 64 + 0x80),
      .ofNat (c.toNat / 64 % 64 + 0x80), .ofNat (c.toNat % 64 + 0x80)] := by
  have hv : c.val.toNat = c.toNat := rfl
  have hhigh : c.toNat / 262144 % 8 = c.toNat / 262144 := by omega
  rw [utf8EncodeChar]
  simp only [hv, hhigh]
  rw [if_neg (by omega), if_neg (by omega), if_neg (by omega)]

/-- A number between the bounds is a byte between them. -/
theorem between {n : Nat} {low high : UInt8} (hlow : low.toNat ≤ n) (hhigh : n ≤ high.toNat) :
    low ≤ UInt8.ofNat n ∧ UInt8.ofNat n ≤ high := by
  have hn : (UInt8.ofNat n).toNat = n :=
    toNat_ofNat_of_lt (Nat.lt_of_le_of_lt hhigh (UInt8.toNat_lt high))
  rw [UInt8.le_iff_toNat_le, UInt8.le_iff_toNat_le, hn]
  exact ⟨hlow, hhigh⟩

theorem between_tail (n : Nat) :
    0x80 ≤ UInt8.ofNat (n % 64 + 0x80) ∧ UInt8.ofNat (n % 64 + 0x80) ≤ 0xBF :=
  between (Nat.le_add_left _ _) (show n % 64 + 0x80 ≤ 0xBF by omega)

/-- What the table says of the three bytes of a character. -/
theorem continuation_three {v : Nat} (h : 0x7FF < v ∧ v ≤ 0xFFFF)
    (hvalid : v < 0xD800 ∨ 0xDFFF < v) :
    ∃ low high, continuation (.ofNat (v / 4096 + 0xE0)) = some (2, low, high) ∧
      low ≤ UInt8.ofNat (v / 64 % 64 + 0x80) ∧ UInt8.ofNat (v / 64 % 64 + 0x80) ≤ high := by
  rw [continuation_eq, toNat_ofNat_of_lt (by omega), if_neg (by omega)]
  by_cases hfirst : v / 4096 = 0
  · rw [if_pos (by omega)]
    exact ⟨0xA0, 0xBF, rfl, between (show 0xA0 ≤ _ by omega) (show _ ≤ 0xBF by omega)⟩
  by_cases hbefore : v / 4096 = 13
  · rw [if_neg (by omega), if_pos (by omega)]
    exact ⟨0x80, 0x9F, rfl, between (show 0x80 ≤ _ by omega) (show _ ≤ 0x9F by omega)⟩
  · rw [if_neg (by omega), if_neg (by omega), if_pos (by omega)]
    exact ⟨0x80, 0xBF, rfl, between_tail (v / 64)⟩

/-- What the table says of the four bytes of a character. -/
theorem continuation_four {v : Nat} (h : 0xFFFF < v ∧ v < 0x110000) :
    ∃ low high, continuation (.ofNat (v / 262144 + 0xF0)) = some (3, low, high) ∧
      low ≤ UInt8.ofNat (v / 4096 % 64 + 0x80) ∧ UInt8.ofNat (v / 4096 % 64 + 0x80) ≤ high := by
  rw [continuation_eq, toNat_ofNat_of_lt (by omega), if_neg (by omega), if_neg (by omega),
    if_neg (by omega), if_neg (by omega)]
  by_cases hfirst : v / 262144 = 0
  · rw [if_pos (by omega)]
    exact ⟨0x90, 0xBF, rfl, between (show 0x90 ≤ _ by omega) (show _ ≤ 0xBF by omega)⟩
  by_cases hlast : v / 262144 = 4
  · rw [if_neg (by omega), if_neg (by omega), if_pos (by omega)]
    exact ⟨0x80, 0x8F, rfl, between (show 0x80 ≤ _ by omega) (show _ ≤ 0x8F by omega)⟩
  · rw [if_neg (by omega), if_pos (by omega)]
    exact ⟨0x80, 0xBF, rfl, between_tail (v / 4096)⟩

/-- **The table allows every form of a character.** -/
theorem exists_continuation {c : Char} {b : UInt8} {part : List UInt8}
    (h : utf8EncodeChar c = b :: part) (hb : ¬ b < 0x80) :
    ∃ low high, continuation b = some (part.length, low, high) ∧ Continues low high part := by
  have hvalid : c.toNat < 0xD800 ∨ (0xDFFF < c.toNat ∧ c.toNat < 0x110000) := c.valid
  rcases Nat.lt_or_ge 0x7F c.toNat with h1 | h1
  · rcases Nat.lt_or_ge 0x7FF c.toNat with h2 | h2
    · rcases Nat.lt_or_ge 0xFFFF c.toNat with h3 | h3
      · rw [utf8EncodeChar_four ⟨h3, by omega⟩] at h
        obtain ⟨rfl, rfl⟩ := List.cons.inj h
        obtain ⟨low, high, htable, hfirst⟩ := continuation_four ⟨h3, by omega⟩
        exact ⟨low, high, htable, hfirst, between_tail _, between_tail _, trivial⟩
      · rw [utf8EncodeChar_three ⟨h2, h3⟩] at h
        obtain ⟨rfl, rfl⟩ := List.cons.inj h
        obtain ⟨low, high, htable, hfirst⟩ := continuation_three ⟨h2, h3⟩ (by omega)
        exact ⟨low, high, htable, hfirst, between_tail _, trivial⟩
    · rw [utf8EncodeChar_two ⟨h1, h2⟩] at h
      obtain ⟨rfl, rfl⟩ := List.cons.inj h
      refine ⟨0x80, 0xBF, ?_, between_tail _, trivial⟩
      rw [continuation_eq, toNat_ofNat_of_lt (by omega), if_pos (by omega)]
      rfl
  · refine absurd ?_ hb
    have hone : utf8EncodeChar c = [.ofNat c.toNat] := if_pos h1
    rw [hone] at h
    obtain ⟨rfl, -⟩ := List.cons.inj h
    rw [UInt8.lt_iff_toNat_lt, toNat_ofNat_of_lt (by omega)]
    exact Nat.lt_succ_of_le h1

/-! ## 4. What the table allows -/

theorem toNat_ofNat_of_valid {n : Nat} (h : n.isValidChar) : (Char.ofNat n).toNat = n := by
  rw [Char.ofNat, dif_pos h]
  rfl

theorem ofNat_eq {n : Nat} {b : UInt8} (h : n = b.toNat) : UInt8.ofNat n = b := by
  rw [h, UInt8.ofNat_toNat]

theorem encodeChar_two {b x : UInt8} (hb : 0xC2 ≤ b.toNat ∧ b.toNat ≤ 0xDF)
    (hx : 0x80 ≤ x.toNat ∧ x.toNat ≤ 0xBF) :
    utf8EncodeChar (.ofNat (b.toNat % 32 * 64 + (x.toNat - 0x80))) = [b, x] := by
  generalize hv : b.toNat % 32 * 64 + (x.toNat - 0x80) = v
  have hc : (Char.ofNat v).toNat = v := toNat_ofNat_of_valid (Or.inl (by omega))
  rw [utf8EncodeChar_two (by omega), hc, ofNat_eq (b := b) (by omega),
    ofNat_eq (b := x) (by omega)]

theorem encodeChar_three {b x y : UInt8} (hb : 0xE0 ≤ b.toNat ∧ b.toNat ≤ 0xEF)
    (hx : 0x80 ≤ x.toNat ∧ x.toNat ≤ 0xBF) (hy : 0x80 ≤ y.toNat ∧ y.toNat ≤ 0xBF)
    (hfirst : b.toNat = 0xE0 → 0xA0 ≤ x.toNat) (hbefore : b.toNat = 0xED → x.toNat ≤ 0x9F) :
    utf8EncodeChar (.ofNat ((b.toNat % 16 * 64 + (x.toNat - 0x80)) * 64 + (y.toNat - 0x80))) =
      [b, x, y] := by
  generalize hv : (b.toNat % 16 * 64 + (x.toNat - 0x80)) * 64 + (y.toNat - 0x80) = v
  have hvalid : v < 0xD800 ∨ (0xDFFF < v ∧ v < 0x110000) := by omega
  have hc : (Char.ofNat v).toNat = v := toNat_ofNat_of_valid hvalid
  rw [utf8EncodeChar_three (by omega), hc, ofNat_eq (b := b) (by omega),
    ofNat_eq (b := x) (by omega), ofNat_eq (b := y) (by omega)]

theorem encodeChar_four {b x y z : UInt8} (hb : 0xF0 ≤ b.toNat ∧ b.toNat ≤ 0xF4)
    (hx : 0x80 ≤ x.toNat ∧ x.toNat ≤ 0xBF) (hy : 0x80 ≤ y.toNat ∧ y.toNat ≤ 0xBF)
    (hz : 0x80 ≤ z.toNat ∧ z.toNat ≤ 0xBF) (hfirst : b.toNat = 0xF0 → 0x90 ≤ x.toNat)
    (hlast : b.toNat = 0xF4 → x.toNat ≤ 0x8F) :
    utf8EncodeChar (.ofNat (((b.toNat % 8 * 64 + (x.toNat - 0x80)) * 64 + (y.toNat - 0x80)) * 64 +
      (z.toNat - 0x80))) = [b, x, y, z] := by
  generalize hv : ((b.toNat % 8 * 64 + (x.toNat - 0x80)) * 64 + (y.toNat - 0x80)) * 64 +
    (z.toNat - 0x80) = v
  have hc : (Char.ofNat v).toNat = v := toNat_ofNat_of_valid (Or.inr (by omega))
  rw [utf8EncodeChar_four (by omega), hc, ofNat_eq (b := b) (by omega),
    ofNat_eq (b := x) (by omega), ofNat_eq (b := y) (by omega), ofNat_eq (b := z) (by omega)]

/-- The rows of the table, those with as many following bytes taken together. -/
theorem continuation_eq_some {b low high : UInt8} {n : Nat}
    (h : continuation b = some (n, low, high)) :
    0x80 ≤ low.toNat ∧ low.toNat ≤ high.toNat ∧ high.toNat ≤ 0xBF ∧
      ((n = 1 ∧ 0xC2 ≤ b.toNat ∧ b.toNat ≤ 0xDF) ∨
        (n = 2 ∧ (0xE0 ≤ b.toNat ∧ b.toNat ≤ 0xEF) ∧
          (b.toNat = 0xE0 → 0xA0 ≤ low.toNat) ∧ (b.toNat = 0xED → high.toNat ≤ 0x9F)) ∨
        (n = 3 ∧ (0xF0 ≤ b.toNat ∧ b.toNat ≤ 0xF4) ∧
          (b.toNat = 0xF0 → 0x90 ≤ low.toNat) ∧ (b.toNat = 0xF4 → high.toNat ≤ 0x8F))) := by
  rw [continuation_eq] at h
  -- one case for each row; the last row has no entry
  repeat' split at h
  all_goals cases h
  all_goals (simp; omega)

/-- **Everything that the table allows is the form of a character.** -/
theorem encodeChar_gather {b low high : UInt8} {part : List UInt8}
    (h : continuation b = some (part.length, low, high)) (hpart : Continues low high part) :
    utf8EncodeChar (.ofNat (gather (b.toNat % Nat.pow 2 (6 - part.length)) part)) = b :: part := by
  obtain ⟨hlow, -, hhigh, ⟨hlen, hb⟩ | ⟨hlen, hb, hfirst, hlast⟩ | ⟨hlen, hb, hfirst, hlast⟩⟩ :=
    continuation_eq_some h
  · match part, hlen, hpart with
    | [x], _, ⟨hx, _⟩ =>
      rw [UInt8.le_iff_toNat_le, UInt8.le_iff_toNat_le] at hx
      exact encodeChar_two hb (by omega)
  · match part, hlen, hpart with
    | [x, y], _, ⟨hx, hy, _⟩ =>
      rw [UInt8.le_iff_toNat_le, UInt8.le_iff_toNat_le] at hx hy
      exact encodeChar_three hb (by omega) hy (by omega) (by omega)
  · match part, hlen, hpart with
    | [x, y, z], _, ⟨hx, hy, hz, _⟩ =>
      rw [UInt8.le_iff_toNat_le, UInt8.le_iff_toNat_le] at hx hy hz
      exact encodeChar_four hb (by omega) hy hz (by omega) (by omega)

/-! ## 5. One step of reading -/

theorem continues_of_append {low high : UInt8} : ∀ {part more : List UInt8},
    Continues low high (part ++ more) → Continues low high part
  | [], _, _ => trivial
  | _ :: _, _, ⟨hb, h⟩ => ⟨hb, continues_of_append h⟩

/-- What continues can go on until a number of bytes is reached. -/
theorem exists_continues {low high : UInt8} (hbounds : low ≤ high) :
    ∀ {n : Nat} {part : List UInt8}, Continues low high part → part.length ≤ n →
      ∃ more, (part ++ more).length = n ∧ Continues low high (part ++ more)
  | 0, part, hpart, hle => ⟨[], by simpa using hle, by simpa using hpart⟩
  | n + 1, [], _, _ => by
    have hnone : Continues 0x80 0xBF [] := trivial
    obtain ⟨more, hlen, hmore⟩ := exists_continues (by decide) hnone (Nat.zero_le n)
    exact ⟨low :: more, by simpa using hlen, ⟨UInt8.le_refl low, hbounds⟩, hmore⟩
  | n + 1, b :: part, ⟨hb, hpart⟩, hle => by
    obtain ⟨more, hlen, hmore⟩ :=
      exists_continues (by decide) hpart (Nat.le_of_succ_le_succ hle)
    exact ⟨more, by simpa using hlen, hb, hmore⟩

/-- **The following bytes are read as far as they continue**, but no more of them than asked for. -/
theorem readContinuation_spec : ∀ (n : Nat) (low high : UInt8) (value : Nat) (bytes : List UInt8),
    ∃ part rest, bytes = part ++ rest ∧ Continues low high part ∧
      ((part.length = n ∧
          readContinuation n low high value bytes = (some (gather value part), rest)) ∨
        (part.length < n ∧
          (∀ part' rest', bytes = part' ++ rest' → Continues low high part' →
            part'.length ≤ part.length) ∧
          readContinuation n low high value bytes = (none, rest)))
  | 0, _, _, _, bytes => ⟨[], bytes, rfl, trivial, Or.inl ⟨rfl, rfl⟩⟩
  | n + 1, low, high, value, [] => by
    refine ⟨[], [], rfl, trivial, Or.inr ⟨Nat.succ_pos n, fun part' rest' h _ => ?_, rfl⟩⟩
    obtain ⟨rfl, -⟩ := List.append_eq_nil_iff.1 h.symm
    exact Nat.le_refl 0
  | n + 1, low, high, value, b :: bytes => by
    by_cases hb : low ≤ b ∧ b ≤ high
    · obtain ⟨part, rest, rfl, hpart, hread⟩ :=
        readContinuation_spec n 0x80 0xBF (value * 64 + (b.toNat - 0x80)) bytes
      refine ⟨b :: part, rest, rfl, ⟨hb, hpart⟩, ?_⟩
      rw [readContinuation, if_pos hb, gather_cons]
      rcases hread with ⟨hlen, hread⟩ | ⟨hlen, hlongest, hread⟩
      · exact Or.inl ⟨congrArg (· + 1) hlen, hread⟩
      · refine Or.inr ⟨Nat.succ_lt_succ hlen, fun part' rest' h hpart' => ?_, hread⟩
        cases part' with
        | nil => exact Nat.zero_le _
        | cons b' part' =>
          have htail := (List.cons.inj h).2
          exact Nat.succ_le_succ (hlongest part' rest' htail hpart'.2)
    · refine ⟨[], b :: bytes, rfl, trivial, Or.inr ⟨Nat.succ_pos n, ?_, ?_⟩⟩
      · intro part' rest' h hpart'
        cases part' with
        | nil => exact Nat.le_refl 0
        | cons b' part' =>
          obtain ⟨rfl, -⟩ := List.cons.inj h
          exact absurd hpart'.1 hb
      · rw [readContinuation, if_neg hb]

/-- What begins with a leading byte goes on as the table allows. -/
theorem Begins.continues {b : UInt8} {part : List UInt8} (h : Begins (b :: part))
    (hb : ¬ b < 0x80) :
    ∃ n low high, continuation b = some (n, low, high) ∧ Continues low high part := by
  obtain ⟨c, more, hc⟩ := h
  obtain ⟨low, high, htable, hpart⟩ := exists_continuation hc hb
  exact ⟨_, low, high, htable, continues_of_append hpart⟩

/-- A byte that nothing begins with is broken alone. -/
theorem broken_of_none {b : UInt8} {bytes : List UInt8} (hb : ¬ b < 0x80)
    (h : continuation b = none) : Broken [b] bytes := by
  have hbegins : ∀ part, ¬ Begins (b :: part) := by
    intro part hpart
    obtain ⟨n, low, high, htable, -⟩ := hpart.continues hb
    rw [h] at htable
    cases htable
  refine ⟨List.cons_ne_nil _ _, fun c more heq => ?_, Or.inl rfl, fun part' rest' heq hpart' => ?_⟩
  · cases hc : utf8EncodeChar c with
    | nil => exact String.utf8EncodeChar_ne_nil hc
    | cons b' part =>
      rw [hc] at heq
      obtain ⟨rfl, -⟩ := List.cons.inj heq
      exact hbegins part ⟨c, [], by rw [hc, List.append_nil]⟩
  · cases part' with
    | nil => exact Nat.zero_le _
    | cons b' part' =>
      obtain ⟨rfl, -⟩ := List.cons.inj heq
      exact absurd hpart' (hbegins part')

/-- A leading byte without all of its following bytes is broken together with those it has. -/
theorem broken_of_short {b low high : UInt8} {n : Nat} {part rest : List UInt8} (hb : ¬ b < 0x80)
    (h : continuation b = some (n, low, high)) (hpart : Continues low high part)
    (hlen : part.length < n)
    (hlongest : ∀ part' rest', part ++ rest = part' ++ rest' → Continues low high part' →
      part'.length ≤ part.length) : Broken (b :: part) rest := by
  refine ⟨List.cons_ne_nil _ _, fun c more heq => ?_, Or.inr ?_, fun part' rest' heq hpart' => ?_⟩
  · cases hc : utf8EncodeChar c with
    | nil => exact String.utf8EncodeChar_ne_nil hc
    | cons b' part' =>
      rw [hc] at heq
      obtain ⟨rfl, htail⟩ := List.cons.inj heq
      obtain ⟨low', high', htable, hpart'⟩ := exists_continuation hc hb
      rw [h] at htable
      cases htable
      exact Nat.not_lt.2 (hlongest part' more htail hpart') hlen
  · -- with the bytes that are wanting it would be the form of a character
    obtain ⟨-, hbounds, -⟩ := continuation_eq_some h
    obtain ⟨more, hmore, hall⟩ :=
      exists_continues (UInt8.le_iff_toNat_le.2 hbounds) hpart (Nat.le_of_lt hlen)
    subst hmore
    exact ⟨_, more, encodeChar_gather h hall⟩
  · cases part' with
    | nil => exact Nat.zero_le _
    | cons b' part' =>
      obtain ⟨rfl, htail⟩ := List.cons.inj heq
      obtain ⟨n', low', high', htable, hall⟩ := hpart'.continues hb
      rw [h] at htable
      cases htable
      exact Nat.succ_le_succ (hlongest part' rest' htail hall)

/-- **A step reads a character or what is broken.** -/
theorem readChar_spec (b : UInt8) (bytes : List UInt8) :
    (∃ c rest, b :: bytes = utf8EncodeChar c ++ rest ∧ readChar b bytes = (some c, rest)) ∨
      ∃ part rest, b :: bytes = part ++ rest ∧ Broken part rest ∧
        readChar b bytes = (none, rest) := by
  by_cases hb : b < 0x80
  · have hlt : b.toNat < 0x80 := UInt8.lt_iff_toNat_lt.1 hb
    have hc : (Char.ofNat b.toNat).toNat = b.toNat := toNat_ofNat_of_valid (Or.inl (by omega))
    have hone : utf8EncodeChar (.ofNat b.toNat) = [.ofNat (Char.ofNat b.toNat).toNat] :=
      if_pos (show (Char.ofNat b.toNat).toNat ≤ 0x7F by omega)
    refine Or.inl ⟨.ofNat b.toNat, bytes, ?_, by rw [readChar, if_pos hb]⟩
    rw [hone, hc, UInt8.ofNat_toNat]
    rfl
  · cases htable : continuation b with
    | none =>
      refine Or.inr ⟨[b], bytes, rfl, broken_of_none hb htable, ?_⟩
      rw [readChar, if_neg hb, htable]
    | some row =>
      obtain ⟨n, low, high⟩ := row
      obtain ⟨part, rest, rfl, hpart, ⟨rfl, hread⟩ | ⟨hlen, hlongest, hread⟩⟩ :=
        readContinuation_spec n low high (b.toNat % Nat.pow 2 (6 - n)) bytes
      · refine Or.inl
          ⟨.ofNat (gather (b.toNat % Nat.pow 2 (6 - part.length)) part), rest, ?_, ?_⟩
        · rw [encodeChar_gather htable hpart]
          rfl
        · rw [readChar, if_neg hb, htable]
          simp only [hread]
          rfl
      · refine Or.inr ⟨b :: part, rest, rfl, broken_of_short hb htable hpart hlen hlongest, ?_⟩
        rw [readChar, if_neg hb, htable]
        simp only [hread]
        rfl

/-! ## 6. The whole text -/

/-- Only one character stands at the front of bytes. -/
theorem encodeChar_append_inj {c c' : Char} {rest rest' : List UInt8}
    (h : utf8EncodeChar c ++ rest = utf8EncodeChar c' ++ rest') : c = c' ∧ rest = rest' := by
  have hc : some c = some c' := by
    rw [← ByteArray.utf8DecodeChar?_utf8EncodeChar_append (b := rest.toByteArray) (c := c),
      ← List.toByteArray_append, h, List.toByteArray_append,
      ByteArray.utf8DecodeChar?_utf8EncodeChar_append]
  obtain rfl := Option.some.inj hc
  exact ⟨rfl, List.append_cancel_left h⟩

/-- Only one part at the front of bytes is broken. -/
theorem Broken.length_le {part part' rest rest' : List UInt8} (h : Broken part rest)
    (h' : Broken part' rest') (heq : part ++ rest = part' ++ rest') :
    part.length ≤ part'.length := by
  rcases h.begins with hone | hbegins
  · rw [hone]
    exact List.length_pos_iff.2 h'.ne_nil
  · exact h'.longest part rest heq.symm hbegins

theorem Broken.append_inj {part part' rest rest' : List UInt8} (h : Broken part rest)
    (h' : Broken part' rest') (heq : part ++ rest = part' ++ rest') :
    part = part' ∧ rest = rest' :=
  List.append_inj heq (Nat.le_antisymm (h.length_le h' heq) (h'.length_le h heq.symm))

/-- Bytes read as one text only. -/
theorem Reads.unique {bytes : List UInt8} {cs cs' : List Char} (h : Reads bytes cs)
    (h' : Reads bytes cs') : cs = cs' := by
  -- the other reading must begin with the same rule, since no bytes are both whole and broken
  induction h generalizing cs' with
  | nil =>
    generalize hbytes : ([] : List UInt8) = bytes at h'
    cases h' with
    | nil => rfl
    | char c _ => exact absurd (List.append_eq_nil_iff.1 hbytes.symm).1 String.utf8EncodeChar_ne_nil
    | broken hb _ => exact absurd (List.append_eq_nil_iff.1 hbytes.symm).1 hb.ne_nil
  | @char c rest cs _ ih =>
    generalize hbytes : utf8EncodeChar c ++ rest = bytes at h'
    cases h' with
    | nil => exact absurd (List.append_eq_nil_iff.1 hbytes).1 String.utf8EncodeChar_ne_nil
    | char c' hrest =>
      obtain ⟨rfl, rfl⟩ := encodeChar_append_inj hbytes
      rw [ih hrest]
    | broken hb _ => exact absurd hbytes.symm (hb.no_char c rest)
  | @broken part rest cs hb _ ih =>
    generalize hbytes : part ++ rest = bytes at h'
    cases h' with
    | nil => exact absurd (List.append_eq_nil_iff.1 hbytes).1 hb.ne_nil
    | char c' _ => exact absurd hbytes (hb.no_char c' _)
    | broken hb' hrest =>
      obtain ⟨rfl, rfl⟩ := hb.append_inj hb' hbytes
      rw [ih hrest]

/-- Bytes read as what `decodeLossy` makes of them. -/
theorem reads_decodeLossy : ∀ bytes, Reads bytes (decodeLossy bytes)
  | [] => by
    rw [decodeLossy, readChars]
    exact .nil
  | b :: bytes => by
    have hrest := reads_decodeLossy (readChar b bytes).2
    rw [decodeLossy, readChars, List.map_cons, ← decodeLossy]
    rcases readChar_spec b bytes with ⟨c, rest, hbytes, hread⟩ | ⟨part, rest, hbytes, hb, hread⟩
    · rw [hread] at hrest ⊢
      rw [hbytes]
      exact .char c hrest
    · rw [hread] at hrest ⊢
      rw [hbytes]
      exact .broken hb hrest
termination_by bytes => bytes.length
decreasing_by exact Nat.lt_succ_of_le (readChar_length b bytes)

/-- **Bytes read as what `decodeLossy` makes of them**, and as nothing else. -/
theorem reads_iff {bytes : List UInt8} {cs : List Char} :
    Reads bytes cs ↔ decodeLossy bytes = cs :=
  ⟨fun h => (reads_decodeLossy bytes).unique h, fun h => h ▸ reads_decodeLossy bytes⟩

/-- Two bytes of a character of three are broken together, and a surrogate byte by byte. -/
example : decodeLossy [0xE2, 0x82, 0x41] = ['\ufffd', 'A'] ∧
    decodeLossy [0xED, 0xA0, 0x80] = ['\ufffd', '\ufffd', '\ufffd'] := by
  decide +kernel

/-! ## 7. Well-formed bytes -/

theorem decode?_cons (b : UInt8) (bytes : List UInt8) :
    decode? (b :: bytes) =
      (readChar b bytes).1.bind fun c => (decode? (readChar b bytes).2).map (c :: ·) := by
  rw [decode?, readChars, List.mapM_cons]
  cases (readChar b bytes).1 with
  | none => rfl
  | some c =>
    cases h : decode? (readChar b bytes).2 <;> rw [decode?] at h <;> simp [h]

/-- A character in front is decoded, -/
theorem decode?_encodeChar_append (c : Char) (rest : List UInt8) :
    decode? (utf8EncodeChar c ++ rest) = (decode? rest).map (c :: ·) := by
  obtain ⟨b, more, hc⟩ := List.exists_cons_of_ne_nil (String.utf8EncodeChar_ne_nil (c := c))
  have hbytes : utf8EncodeChar c ++ rest = b :: (more ++ rest) := by rw [hc, List.cons_append]
  rw [hbytes, decode?_cons]
  rcases readChar_spec b (more ++ rest) with ⟨c', rest', heq, hread⟩ | ⟨part, rest', heq, hb, -⟩
  · obtain ⟨rfl, rfl⟩ := encodeChar_append_inj (hbytes.trans heq)
    rw [hread, Option.bind_some]
  · exact absurd (heq.symm.trans hbytes.symm) (hb.no_char c rest)

/-- and where a part is broken nothing is. -/
theorem decode?_of_broken {part rest : List UInt8} (h : Broken part rest) :
    decode? (part ++ rest) = none := by
  obtain ⟨b, more, rfl⟩ := List.exists_cons_of_ne_nil h.ne_nil
  rw [List.cons_append, decode?_cons]
  rcases readChar_spec b (more ++ rest) with ⟨c, rest', heq, -⟩ | ⟨part, rest', -, -, hread⟩
  · exact absurd heq (h.no_char c rest')
  · rw [hread, Option.bind_none]

theorem encode_cons (c : Char) (cs : List Char) :
    encode (c :: cs) = utf8EncodeChar c ++ encode cs :=
  List.flatMap_cons

theorem decode?_encode : ∀ cs : List Char, decode? (encode cs) = some cs
  | [] => by
    rw [encode, List.flatMap_nil, decode?, readChars]
    rfl
  | c :: cs => by
    rw [encode_cons, decode?_encodeChar_append, decode?_encode cs, Option.map_some]

/-- What is decoded is written as the bytes that it comes from. -/
theorem Reads.eq_encode {bytes : List UInt8} {text : List Char} (h : Reads bytes text) :
    ∀ {cs : List Char}, decode? bytes = some cs → bytes = encode cs := by
  induction h with
  | nil =>
    intro cs hdecode
    obtain rfl : [] = cs := Option.some.inj ((decode?_encode []).symm.trans hdecode)
    rfl
  | char c _ ih =>
    intro cs hdecode
    rw [decode?_encodeChar_append] at hdecode
    obtain ⟨cs', hrest, rfl⟩ := Option.map_eq_some_iff.1 hdecode
    rw [encode_cons, ← ih hrest]
  | broken hb _ _ =>
    intro cs hdecode
    rw [decode?_of_broken hb] at hdecode
    cases hdecode

/-- **Bytes are decoded exactly if they are the UTF-8 form of a text**, as that text. -/
theorem decode?_eq_some_iff {bytes : List UInt8} {cs : List Char} :
    decode? bytes = some cs ↔ bytes = encode cs :=
  ⟨(reads_decodeLossy bytes).eq_encode, fun h => h ▸ decode?_encode cs⟩

end CallBook.Text

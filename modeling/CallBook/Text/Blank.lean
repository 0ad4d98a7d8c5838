/-!
# Blank characters

Blank is the Unicode property `White_Space`, which is wider than what core calls white
space.  Trimming removes blanks at the ends, `words` cuts at runs of blanks.
-/

namespace CallBook.Text

/-- The characters with the Unicode property `White_Space`. -/
def isBlank (c : Char) : Bool :=
  let n := c.toNat
  (9 ≤ n && n ≤ 13) || n == 0x20 || n == 0x85 || n == 0xA0 || n == 0x1680 ||
  (0x2000 ≤ n && n ≤ 0x200A) || n == 0x2028 || n == 0x2029 || n == 0x202F || n == 0x205F ||
  n == 0x3000

/-- The text without the characters at its end that satisfy `p`. -/
def dropEndWhile (p : Char → Bool) (cs : List Char) : List Char :=
  (cs.reverse.dropWhile p).reverse

/-- The text without the blanks at both ends. -/
def trim (cs : List Char) : List Char :=
  dropEndWhile isBlank (cs.dropWhile isBlank)

/-- A text of blanks only, the empty text included. -/
def allBlank (cs : List Char) : Bool := cs.all isBlank

/-- The maximal runs without blanks, in order. -/
def words (cs : List Char) : List (List Char) :=
  match _h : cs.dropWhile isBlank with
  | [] => []
  | c :: rest =>
    (c :: rest).takeWhile (!isBlank ·) :: words ((c :: rest).dropWhile (!isBlank ·))
termination_by cs.length
decreasing_by
  have hle := (List.dropWhile_suffix (l := cs) isBlank).length_le
  have hne : isBlank c = false := by
    have := List.head?_dropWhile_not isBlank cs
    simpa [_h] using this
  have h2 := (List.dropWhile_suffix (l := rest) (!isBlank ·)).length_le
  simp only [List.dropWhile_cons, hne, Bool.not_false, if_true]
  rw [_h] at hle
  simp only [List.length_cons] at hle
  omega

end CallBook.Text

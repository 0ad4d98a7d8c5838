/-!
# UTF-8

`encode` writes text as bytes.  `decode?` accepts exactly well-formed byte sequences, and
`decodeLossy` reads any bytes: each longest part that can begin a character but does not
complete one becomes a single replacement character.
-/

namespace CallBook.Text

/-- The UTF-8 bytes of a text. -/
def encode (cs : List Char) : List UInt8 := cs.flatMap String.utf8EncodeChar

/-- How many bytes the UTF-8 form of a text has. -/
def byteCount (cs : List Char) : Nat := cs.foldr (fun c n => c.utf8Size + n) 0

/-- How many bytes follow a leading byte, and between which bounds the first of them lies. -/
def continuation (b : UInt8) : Option (Nat × UInt8 × UInt8) :=
  if 0xC2 ≤ b ∧ b ≤ 0xDF then some (1, 0x80, 0xBF)
  else if b = 0xE0 then some (2, 0xA0, 0xBF)
  else if b = 0xED then some (2, 0x80, 0x9F)
  else if 0xE1 ≤ b ∧ b ≤ 0xEF then some (2, 0x80, 0xBF)
  else if b = 0xF0 then some (3, 0x90, 0xBF)
  else if 0xF1 ≤ b ∧ b ≤ 0xF3 then some (3, 0x80, 0xBF)
  else if b = 0xF4 then some (3, 0x80, 0x8F)
  else none

/-- Reads `n` continuation bytes, the first between `low` and `high`.  Answers the value
gathered, if all are there, and the bytes that are left. -/
def readContinuation : Nat → UInt8 → UInt8 → Nat → List UInt8 → Option Nat × List UInt8
  | 0, _, _, value, bytes => (some value, bytes)
  | _ + 1, _, _, _, [] => (none, [])
  | n + 1, low, high, value, b :: bytes =>
    if low ≤ b ∧ b ≤ high then
      readContinuation n 0x80 0xBF (value * 64 + (b.toNat - 0x80)) bytes
    else (none, b :: bytes)

theorem readContinuation_length : ∀ (n : Nat) (low high : UInt8) (value : Nat)
    (bytes : List UInt8), (readContinuation n low high value bytes).2.length ≤ bytes.length
  | 0, _, _, _, _ => Nat.le_refl _
  | _ + 1, _, _, _, [] => Nat.le_refl _
  | n + 1, low, high, value, b :: bytes => by
    unfold readContinuation
    split
    · exact Nat.le_succ_of_le (readContinuation_length n _ _ _ bytes)
    · exact Nat.le_refl _

/-- The character that a non-empty byte sequence begins with, if it begins with one, and the
bytes left after it or after the longest part that could have begun it. -/
def readChar (b : UInt8) (bytes : List UInt8) : Option Char × List UInt8 :=
  if b < 0x80 then (some (Char.ofNat b.toNat), bytes)
  else
    match continuation b with
    | none => (none, bytes)
    | some (n, low, high) =>
      let (value, rest) := readContinuation n low high (b.toNat % Nat.pow 2 (6 - n)) bytes
      (value.map Char.ofNat, rest)

theorem readChar_length (b : UInt8) (bytes : List UInt8) :
    (readChar b bytes).2.length ≤ bytes.length := by
  unfold readChar
  split
  · exact Nat.le_refl _
  · split
    · exact Nat.le_refl _
    · exact readContinuation_length _ _ _ _ _

/-- Each character of a byte sequence in order, `none` for each ill-formed part. -/
def readChars : List UInt8 → List (Option Char)
  | [] => []
  | b :: bytes => (readChar b bytes).1 :: readChars (readChar b bytes).2
termination_by bytes => bytes.length
decreasing_by
  have := readChar_length b bytes
  simp only [List.length_cons]
  omega

/-- The text that well-formed bytes encode. -/
def decode? (bytes : List UInt8) : Option (List Char) := (readChars bytes).mapM id

/-- The text of any bytes, ill-formed parts replaced. -/
def decodeLossy (bytes : List UInt8) : List Char :=
  (readChars bytes).map (·.getD '\ufffd')

end CallBook.Text

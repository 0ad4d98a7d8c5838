import CallBook.Text.Utf8
/-!
# Percent encoding

A byte is written as a percent sign and two hexadecimal digits.  Which characters are written
so depends on the part of the URL; control characters and what is not ASCII always are.
-/

namespace CallBook.Url

/-- A hexadecimal digit, in upper case. -/
def upperHexDigit (n : Nat) : Char := (Nat.digitChar n).toUpper

/-- A byte as a percent sign and two digits. -/
def escapeByte (b : UInt8) : List Char :=
  ['%', upperHexDigit (b.toNat / 16), upperHexDigit (b.toNat % 16)]

/-- The text with the characters of a set escaped. -/
def escape (set : Char → Bool) (cs : List Char) : List Char :=
  cs.flatMap fun c => if set c then (Text.encode [c]).flatMap escapeByte else [c]

/-- Control characters, and what is not ASCII. -/
def controlSet (c : Char) : Bool := c < ' ' || '~' < c

/-- What is escaped in fragments. -/
def fragmentSet (c : Char) : Bool := controlSet c || [' ', '"', '<', '>', '\x60'].contains c

/-- What is escaped in paths. -/
def pathSet (c : Char) : Bool := fragmentSet c || ['#', '?', '{', '}'].contains c

/-- What is escaped in user names and passwords. -/
def userInfoSet (c : Char) : Bool :=
  pathSet c || ['/', ':', ';', '=', '@', '[', '\\', ']', '^', '|'].contains c

/-- What is escaped in queries. -/
def querySet (c : Char) : Bool := controlSet c || [' ', '"', '#', '<', '>'].contains c

/-- What is escaped in queries of URLs with a special scheme. -/
def specialQuerySet (c : Char) : Bool := querySet c || c = '\x27'

/-- The value of a hexadecimal digit. -/
def hexValue? (c : Char) : Option Nat :=
  if c.isDigit then some (c.toNat - '0'.toNat)
  else if 'a' ≤ c ∧ c ≤ 'f' then some (c.toNat - 'a'.toNat + 10)
  else if 'A' ≤ c ∧ c ≤ 'F' then some (c.toNat - 'A'.toNat + 10)
  else none

/-- The bytes of a text in which escapes stand for bytes.  A percent sign that begins no
escape stands for itself. -/
def unescape : List Char → List UInt8
  | '%' :: a :: b :: cs =>
    match hexValue? a, hexValue? b with
    | some m, some n => UInt8.ofNat (16 * m + n) :: unescape cs
    | _, _ => '%'.toUInt8 :: unescape (a :: b :: cs)
  | c :: cs => Text.encode [c] ++ unescape cs
  | [] => []

end CallBook.Url

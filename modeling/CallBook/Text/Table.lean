import CallBook.Text.Search
/-!
# Tables of numbers

A long table is written as lines of words.  Words are separated by blanks, and a word is made of
hexadecimal numbers with hyphens between them; what they say depends on the table.
-/

namespace CallBook.Text

/-- Does a number lie in one of some ranges, their ends included? -/
def inRanges (ranges : List (Nat × Nat)) (n : Nat) : Bool :=
  ranges.any fun (low, high) => low ≤ n && n ≤ high

namespace Table

/-- The value of a hexadecimal digit in upper case. -/
def digit (c : Char) : Nat :=
  if c.isDigit then c.toNat - '0'.toNat else c.toNat - 'A'.toNat + 10

/-- The number that some digits write. -/
def number (digits : List Char) : Nat := digits.foldl (fun n c => 16 * n + digit c) 0

/-- The words of some lines as lists of numbers. -/
def rows (lines : List String) : List (List Nat) :=
  lines.flatMap fun line =>
    (splitAt ' ' line.toList).map fun word => (splitAt '-' word).map number

/-- A word of two numbers, or of one that counts twice. -/
def pair : List Nat → Nat × Nat
  | [] => (0, 0)
  | n :: rest => (n, rest.headD n)

/-- Lines whose words are ranges, written as their first and last number. -/
def ranges (lines : List String) : List (Nat × Nat) := (rows lines).map pair

end Table

end CallBook.Text

/-!
# Punycode

A label with characters beyond ASCII is written in ASCII: its ASCII characters come first, and
then numbers say where the others are inserted, in the order of their codes.  The numbers have
digits of mixed bases that depend on a bias, which adapts to the numbers written so far.
-/

namespace CallBook.Url.Punycode

/-- The digit for a value below 36. -/
def digit (n : Nat) : Char :=
  if n < 26 then Char.ofNat ('a'.toNat + n) else Char.ofNat ('0'.toNat + (n - 26))

/-- The value of a digit. -/
def digitValue? (c : Char) : Option Nat :=
  if 'a' ≤ c ∧ c ≤ 'z' then some (c.toNat - 'a'.toNat)
  else if 'A' ≤ c ∧ c ≤ 'Z' then some (c.toNat - 'A'.toNat)
  else if c.isDigit then some (c.toNat - '0'.toNat + 26)
  else none

/-- The threshold at a place: places are multiples of 36. -/
def threshold (bias place : Nat) : Nat :=
  if place ≤ bias then 1 else if bias + 26 ≤ place then 26 else place - bias

theorem threshold_bounds (bias place : Nat) :
    1 ≤ threshold bias place ∧ threshold bias place ≤ 26 := by
  unfold threshold
  split
  · omega
  · split <;> omega

/-- How often a number is divided by 35 until it is at most 455, and what is left. -/
def reduce (delta : Nat) : Nat × Nat :=
  if _h : 455 < delta then
    let (times, left) := reduce (delta / 35)
    (times + 1, left)
  else (0, delta)
termination_by delta
decreasing_by omega

/-- The bias after a number was written as the `count`-th. -/
def adapt (delta count : Nat) (isFirst : Bool) : Nat :=
  let delta := if isFirst then delta / 700 else delta / 2
  let (times, left) := reduce (delta + delta / count)
  36 * times + 36 * left / (left + 38)

/-- The digits of a number from a place on. -/
def digits (bias place n : Nat) : List Char :=
  let t := threshold bias place
  if _h : n < t then [digit n]
  else digit (t + (n - t) % (36 - t)) :: digits bias (place + 36) ((n - t) / (36 - t))
termination_by n
decreasing_by
  have hb := threshold_bounds bias place
  exact Nat.lt_of_le_of_lt (Nat.div_le_self _ _) (by omega)

/-- What has been written: digits, the number that is gathered, the bias, and how many
characters are placed. -/
structure Writer where
  output : List Char
  delta : Nat
  bias : Nat
  placed : Nat

/-- Passes one character of the label while those with the code `code` are written. -/
def Writer.pass (basicCount code : Nat) (w : Writer) (c : Char) : Writer :=
  if c.toNat < code then { w with delta := w.delta + 1 }
  else if c.toNat = code then
    { output := w.output ++ digits w.bias 36 w.delta
      delta := 0
      bias := adapt w.delta (w.placed + 1) (w.placed = basicCount)
      placed := w.placed + 1 }
  else w

/-- Writes the characters with each of some ascending codes; `next` is the code after the
last one that was written. -/
def writeCodes (label : List Char) (basicCount : Nat) : List Nat → Nat → Writer → Writer
  | [], _, w => w
  | code :: codes, next, w =>
    let w := { w with delta := w.delta + (code - next) * (w.placed + 1) }
    let w := label.foldl (Writer.pass basicCount code) w
    writeCodes label basicCount codes (code + 1) { w with delta := w.delta + 1 }

/-- Is the character within ASCII? -/
def isAscii (c : Char) : Bool := c.toNat < 128

/-- A number in its place among ascending numbers. -/
def insertAscending (n : Nat) : List Nat → List Nat
  | [] => [n]
  | m :: rest => if n < m then n :: m :: rest else if n = m then m :: rest
    else m :: insertAscending n rest

/-- A label written in ASCII. -/
def encode (label : List Char) : List Char :=
  let basic := label.filter isAscii
  let codes := (label.filter (!isAscii ·)).foldr (fun c codes => insertAscending c.toNat codes) []
  let w := writeCodes label basic.length codes 128 ⟨[], 0, 72, basic.length⟩
  (if basic.isEmpty then [] else basic ++ ['-']) ++ w.output

/-- Numbers that are read stay below this bound. -/
def bound : Nat := UInt32.size

/-- A number from a place on, to which a weight belongs, added to what is gathered. -/
def readNumber (bias : Nat) : Nat → Nat → Nat → List Char → Option (Nat × List Char)
  | _, _, _, [] => none
  | place, weight, sum, c :: cs =>
    match digitValue? c with
    | none => none
    | some d =>
      let t := threshold bias place
      let sum := sum + d * weight
      if bound ≤ sum then none
      else if d < t then some (sum, cs)
      else if bound ≤ weight * (36 - t) then none
      else readNumber bias (place + 36) (weight * (36 - t)) sum cs

/-- Inserts the characters that numbers stand for.  The bound on their count is the length of
the digits. -/
def insertCodes : Nat → List Char → Nat → Nat → Nat → Bool → List Char → Option (List Char)
  | _, label, _, _, _, _, [] => some label
  | 0, _, _, _, _, _, _ => none
  | steps + 1, label, code, position, bias, isFirst, cs =>
    match readNumber bias 36 1 position cs with
    | none => none
    | some (total, rest) =>
      let count := label.length + 1
      let bias := adapt (total - position) count isFirst
      let code := code + total / count
      let position := total % count
      if code.isValidChar ∧ 128 ≤ code then
        insertCodes steps (label.take position ++ Char.ofNat code :: label.drop position)
          code (position + 1) bias false rest
      else none

/-- The label that an ASCII text writes. -/
def decode? (cs : List Char) : Option (List Char) :=
  let after := (cs.reverse.takeWhile (· ≠ '-')).reverse
  let hasBasic := cs.contains '-'
  let basic := if hasBasic then cs.take (cs.length - after.length - 1) else []
  if basic.all isAscii then insertCodes (after.length + 1) basic 128 0 72 true after else none

end CallBook.Url.Punycode

import CallBook.Json.Value
import CallBook.Number.Shortest
/-!
# Writing JSON

`compact` writes no spaces; `pretty` puts each item and field on a line of its own, indented
by two spaces a level, and writes empty containers as `[]` and `\x7b\x7d`.
-/

namespace CallBook.Json

/-- The hexadecimal digit of a number below 16, in lower case. -/
def hexDigit (n : Nat) : Char := (Nat.digitChar n)

/-- The written form of a character inside a string: the quote, the backslash and the control
characters are escaped, all else stands for itself. -/
def escape (c : Char) : List Char :=
  if c = '"' then ['\\', '"']
  else if c = '\\' then ['\\', '\\']
  else if c = '\x08' then ['\\', 'b']
  else if c = '\t' then ['\\', 't']
  else if c = '\n' then ['\\', 'n']
  else if c = '\x0c' then ['\\', 'f']
  else if c = '\r' then ['\\', 'r']
  else if c.toNat < 0x20 then
    ['\\', 'u', '0', '0', hexDigit (c.toNat / 16), hexDigit (c.toNat % 16)]
  else [c]

/-- A string in quotes. -/
def quote (cs : List Char) : List Char := '"' :: (cs.flatMap escape ++ ['"'])

/-- Decimal exponents that are written without an exponent lie between these, both included. -/
def positionalExponents : Int × Int := (-5, 15)

/-- The digits of a natural number. -/
def digits (n : Nat) : List Char := Nat.toDigits 10 n

/-- A decimal with a point and at least one digit on both sides of it, or with one digit
before the point and an exponent. -/
def decimal (d : Decimal) : List Char :=
  let ds := digits d.digits
  let e : Int := d.exponent + ds.length - 1
  if d.digits = 0 then ['0', '.', '0']
  else if positionalExponents.1 ≤ e ∧ e ≤ positionalExponents.2 then
    if e < 0 then
      '0' :: '.' :: (List.replicate (-e - 1).toNat '0' ++ ds)
    else
      let whole := e.toNat + 1
      let fraction := ds.drop whole
      ds.take whole ++ List.replicate (whole - ds.length) '0' ++
        '.' :: (if fraction.isEmpty then ['0'] else fraction)
  else
    let fraction := ds.drop 1
    ds.take 1 ++ (if fraction.isEmpty then [] else '.' :: fraction) ++
      'e' :: (if e < 0 then '-' else '+') :: digits e.natAbs

/-- A floating-point number by its shortest digits. -/
def float (x : Binary64) : List Char :=
  if x.negative then '-' :: decimal x.shortest else decimal x.shortest

/-- An integer. -/
def integer (i : Int) : List Char :=
  if i < 0 then '-' :: digits i.natAbs else digits i.natAbs

def Number.print : Number → List Char
  | .integer i => Json.integer i
  | .float x => Json.float x

def printBool (b : Bool) : List Char := if b then "true".toList else "false".toList

mutual

/-- The text of a value without spaces. -/
def Value.print : Value → List Char
  | .null => "null".toList
  | .bool b => printBool b
  | .number n => n.print
  | .string s => quote s.toList
  | .array items => '[' :: printItems items
  | .object fields => '{' :: printFields fields

/-- Items, the separators between them, and the bracket that ends them. -/
def printItems : List Value → List Char
  | [] => [']']
  | [v] => v.print ++ [']']
  | v :: w :: rest => v.print ++ ',' :: printItems (w :: rest)

/-- Fields, the separators between them, and the brace that ends them. -/
def printFields : List (String × Value) → List Char
  | [] => ['}']
  | [(k, v)] => quote k.toList ++ ':' :: (v.print ++ ['}'])
  | (k, v) :: e :: rest => quote k.toList ++ ':' :: (v.print ++ ',' :: printFields (e :: rest))

end

/-- The text of a value without spaces. -/
def Value.compact (v : Value) : String := String.ofList v.print

/-- A line end and the indentation of a level. -/
def newline (level : Nat) : List Char := '\n' :: List.replicate (2 * level) ' '

mutual

/-- The text of a value over several lines, where the value stands at `level`. -/
def Value.printPretty (level : Nat) : Value → List Char
  | .null => "null".toList
  | .bool b => printBool b
  | .number n => n.print
  | .string s => quote s.toList
  | .array [] => ['[', ']']
  | .array (v :: vs) => '[' :: printPrettyItems level (v :: vs)
  | .object [] => ['{', '}']
  | .object (e :: es) => '{' :: printPrettyFields level (e :: es)

/-- The items of an array at `level`, each on its line, and the bracket that ends them. -/
def printPrettyItems (level : Nat) : List Value → List Char
  | [] => [']']
  | [v] => newline (level + 1) ++ v.printPretty (level + 1) ++ newline level ++ [']']
  | v :: w :: rest =>
    newline (level + 1) ++ v.printPretty (level + 1) ++ ',' :: printPrettyItems level (w :: rest)

/-- The fields of an object at `level`, each on its line, and the brace that ends them. -/
def printPrettyFields (level : Nat) : List (String × Value) → List Char
  | [] => ['}']
  | [(k, v)] =>
    newline (level + 1) ++ quote k.toList ++ ':' :: ' ' :: v.printPretty (level + 1) ++
      newline level ++ ['}']
  | (k, v) :: e :: rest =>
    newline (level + 1) ++ quote k.toList ++ ':' :: ' ' :: v.printPretty (level + 1) ++
      ',' :: printPrettyFields level (e :: rest)

end

/-- The text of a value over several lines. -/
def Value.pretty (v : Value) : String := String.ofList (v.printPretty 0)

end CallBook.Json

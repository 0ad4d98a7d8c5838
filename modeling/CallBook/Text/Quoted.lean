import CallBook.Text.Printable
/-!
# Text in messages

A text is shown in double quotes.  The quote and the backslash are escaped by a backslash,
the usual controls by a letter, and every other character that would not show by its number.
-/

namespace CallBook.Text

/-- A character in a shown text. -/
def showChar (c : Char) : List Char :=
  if c = '"' ∨ c = '\\' then ['\\', c]
  else if c = '\n' then ['\\', 'n']
  else if c = '\r' then ['\\', 'r']
  else if c = '\t' then ['\\', 't']
  else if c.toNat = 0 then ['\\', '0']
  else if isPrintable c then [c]
  else '\\' :: 'u' :: '{' :: (Nat.toDigits 16 c.toNat ++ ['}'])

/-- A text in quotes, on one line. -/
def showQuoted (s : String) : String :=
  String.ofList ('"' :: (s.toList.flatMap showChar ++ ['"']))

end CallBook.Text

/-!
# Why a text is not JSON

A syntax error has a reason and a place.  Places are lines and columns, both in bytes: the
line counts the line feeds before the place, the column the bytes since the last of them.
-/

namespace CallBook.Json

/-- What is wrong with a text. -/
inductive Reason where
  | endInList
  | endInObject
  | endInString
  | endInValue
  | expectedColon
  | expectedCommaOrBracket
  | expectedCommaOrBrace
  | expectedWord
  | expectedValue
  | invalidEscape
  | invalidNumber
  | numberOutOfRange
  | controlCharacter
  | keyNotString
  | loneSurrogate
  | halfSurrogatePair
  | trailingComma
  | trailingText
  | tooDeep
deriving Repr, DecidableEq

/-- The words for a reason. -/
def Reason.message : Reason → String
  | endInList => "EOF while parsing a list"
  | endInObject => "EOF while parsing an object"
  | endInString => "EOF while parsing a string"
  | endInValue => "EOF while parsing a value"
  | expectedColon => "expected `:`"
  | expectedCommaOrBracket => "expected `,` or `]`"
  | expectedCommaOrBrace => "expected `,` or `\x7d`"
  | expectedWord => "expected ident"
  | expectedValue => "expected value"
  | invalidEscape => "invalid escape"
  | invalidNumber => "invalid number"
  | numberOutOfRange => "number out of range"
  | controlCharacter =>
    "control character (\\u0000-\\u001F) found while parsing a string"
  | keyNotString => "key must be a string"
  | loneSurrogate => "lone leading surrogate in hex escape"
  | halfSurrogatePair => "unexpected end of hex escape"
  | trailingComma => "trailing comma"
  | trailingText => "trailing characters"
  | tooDeep => "recursion limit exceeded"

/-- A reason and the place it was noticed at. -/
structure SyntaxError where
  reason : Reason
  line : Nat
  column : Nat
deriving Repr, DecidableEq

def SyntaxError.message (e : SyntaxError) : String :=
  e.reason.message ++ " at line " ++ toString e.line ++ " column " ++ toString e.column

/-- Line and column after `offset` bytes of a text, counted on from a line and a column. -/
def place : List Char → Nat → Nat → Nat → Nat × Nat
  | [], _, line, column => (line, column)
  | c :: cs, offset, line, column =>
    if c.utf8Size ≤ offset then
      if c = '\n' then place cs (offset - 1) (line + 1) 0
      else place cs (offset - c.utf8Size) line (column + c.utf8Size)
    else (line, column + offset)

end CallBook.Json

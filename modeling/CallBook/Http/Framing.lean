import CallBook.Http.Syntax
import CallBook.Text.Blank
import CallBook.Text.Search
import CallBook.Url.Percent
/-!
# Where bodies end

A message says where its body ends: after a number of bytes, after the last of some chunks, or
where the connection is closed.  A chunk is a line with its size, in hexadecimal digits, and
that many bytes; the last one is empty, and lines of no interest may follow it.

Bytes hold a body as far as they go.  Whether more of it is missing does not depend on what comes
behind them, so it is kept apart from the data (`Extent`).
-/

namespace CallBook.Http

/-! ## 1. What headers say -/

/-- The values of the header lines with a name in small letters. -/
def headerValues (headers : List (String × String)) (name : String) : List String :=
  (headers.filter fun (n, _) => lowerCase n = name).map (·.2)

def lengthHeader : String := "content-length"
def encodingHeader : String := "transfer-encoding"

/-- A number of bytes, in 64 bits. -/
def readLength? (digits : List Char) : Option Nat :=
  if digits.isEmpty || !digits.all Char.isDigit then none
  else (some (digits.foldl (fun n c => 10 * n + (c.toNat - '0'.toNat)) 0)).filter (· < UInt64.size)

/-- The length that some values give: each may give several, and all of them must agree. -/
def agreedLength? (values : List String) : Option Nat :=
  if !values.all isPlain then none
  else
    match (values.flatMap fun value => Text.splitAt ',' value.toList).mapM fun cs =>
        readLength? (Text.trim cs) with
    | some (n :: others) => if others.all (· = n) then some n else none
    | _ => none

/-- What stands behind the last comma of a value. -/
def lastPart (value : String) : List Char :=
  Text.trim (value.toList.reverse.takeWhile (· ≠ ',')).reverse

/-- Is the last encoding that some values name the one in chunks? -/
def endsChunked (values : List String) : Bool :=
  match values.getLast? with
  | some value => isPlain value && lowerCase (String.ofList (lastPart value)) = "chunked"
  | none => false

/-! ## 2. Reading bodies -/

/-- Why a body is none that can be read. -/
inductive BodyFault where
  | cutShort
  | openLine
  | missingSize
  | badSize
  | badBlank
  | badExtension
  | badSizeEnd
  | badDataReturn
  | badDataEnd
  | badTrailerEnd
  | badLastEnd
  | hugeSize
deriving Repr, DecidableEq

/-- What the user is told. -/
def BodyFault.message : BodyFault → String
  | cutShort => "end of file before message length reached"
  | openLine => "unexpected EOF during chunk size line"
  | missingSize => "Invalid chunk size line: missing size digit"
  | badSize => "Invalid chunk size line: Invalid Size"
  | badBlank => "Invalid chunk size linear white space"
  | badExtension => "invalid chunk extension contains newline"
  | badSizeEnd => "Invalid chunk size LF"
  | badDataReturn => "Invalid chunk body CR"
  | badDataEnd => "Invalid chunk body LF"
  | badTrailerEnd => "Invalid trailer end LF"
  | badLastEnd => "Invalid chunk end LF"
  | hugeSize => "invalid chunk size: overflow"

/-- A place among chunks. -/
inductive ChunkPlace where
  /-- Before the first digit of a size. -/
  | start
  | size
  /-- Blanks behind a size. -/
  | blank
  | extension
  /-- Between the two characters that end a size line. -/
  | sizeEnd
  | data
  /-- Behind the data of a chunk. -/
  | dataReturn
  | dataEnd
  /-- At the start of a line behind the last chunk. -/
  | lastLine
  | trailer
  | trailerEnd
  | lastEnd
deriving Repr, DecidableEq

/-- How far a body goes in some bytes. -/
inductive Extent where
  /-- It ends among them. -/
  | whole
  /-- It goes on behind them.  If the connection is closed there, that may be a fault. -/
  | unfinished (atClose : Option BodyFault)
  | faulty (cause : BodyFault)
deriving Repr, DecidableEq

/-- What some bytes hold of a body. -/
structure Body where
  data : List UInt8
  extent : Extent
deriving Repr, DecidableEq

/-- The body with one more byte in front. -/
def Body.cons (b : UInt8) (body : Body) : Body := { body with data := b :: body.data }

/-- The data of chunks from a place on.  `left` is the size as far as it is read, and then how
many bytes are missing from a chunk.  What stands behind the last chunk is passed over. -/
def readChunks (place : ChunkPlace) (left : Nat) : List UInt8 → Body
  | [] => ⟨[], .unfinished (some (if place = .data then .cutShort else .openLine))⟩
  | b :: bytes =>
    let c := Char.ofNat b.toNat
    let go (place : ChunkPlace) := readChunks place left bytes
    let stop (cause : BodyFault) : Body := ⟨[], .faulty cause⟩
    match place with
    | .start =>
      match Url.hexValue? c with
      | some d => readChunks .size d bytes
      | none => stop .missingSize
    | .size =>
      match Url.hexValue? c with
      | some d =>
        if UInt64.size ≤ 16 * left + d then stop .hugeSize
        else readChunks .size (16 * left + d) bytes
      | none =>
        if isPadding c then go .blank
        else if c = ';' then go .extension
        else if c = '\r' then go .sizeEnd
        else stop .badSize
    | .blank =>
      if isPadding c then go .blank
      else if c = ';' then go .extension
      else if c = '\r' then go .sizeEnd
      else stop .badBlank
    | .extension =>
      if c = '\r' then go .sizeEnd
      else if c = '\n' then stop .badExtension
      else go .extension
    | .sizeEnd =>
      if c ≠ '\n' then stop .badSizeEnd
      else go (if left = 0 then .lastLine else .data)
    | .data =>
      (readChunks (if left ≤ 1 then .dataReturn else .data) (left - 1) bytes).cons b
    | .dataReturn => if c = '\r' then go .dataEnd else stop .badDataReturn
    | .dataEnd => if c = '\n' then go .start else stop .badDataEnd
    | .lastLine => go (if c = '\r' then .lastEnd else .trailer)
    | .trailer => go (if c = '\r' then .trailerEnd else .trailer)
    | .trailerEnd => if c = '\n' then go .lastLine else stop .badTrailerEnd
    | .lastEnd => if c = '\n' then ⟨[], .whole⟩ else stop .badLastEnd

/-- How the end of a body is known. -/
inductive Framing where
  | sized (length : Nat)
  | chunked
  | toEnd
deriving Repr, DecidableEq

/-- What stands of a body at the front of some bytes. -/
def Framing.read : Framing → List UInt8 → Body
  | sized n, bytes =>
    if bytes.length < n then ⟨bytes, .unfinished (some .cutShort)⟩ else ⟨bytes.take n, .whole⟩
  | chunked, bytes => readChunks .start 0 bytes
  | toEnd, bytes => ⟨bytes, .unfinished none⟩

end CallBook.Http

import CallBook.Http.Coding
import CallBook.Response
/-!
# Replies

What a server sends is read as a status line, header lines, an empty line, and a body.
Provisional replies are passed over.  `Reply.read` says why the bytes are no reply, if they are
none; how far they hold the body is kept with the reply, since the body need not be looked at.

The bytes before the body are taken as characters below 256, and header values stay so.
-/

namespace CallBook.Http

/-- Why bytes are no reply. -/
inductive ReplyFault where
  | incomplete
  | badVersion
  | badStatus
  | badHeader
  | tooLarge
  | unexpectedEncoding
  | badLength
deriving Repr, DecidableEq

/-- What the user is told. -/
def ReplyFault.message : ReplyFault → String
  | incomplete => "connection closed before message completed"
  | badVersion => "invalid HTTP version parsed"
  | badStatus => "invalid HTTP status-code parsed"
  | badHeader => "invalid HTTP header parsed"
  | tooLarge => "message head is too large"
  | unexpectedEncoding => "unexpected transfer-encoding parsed"
  | badLength => "invalid content-length parsed"

/-- Bytes as characters. -/
def octets (bytes : List UInt8) : List Char := bytes.map fun b => Char.ofNat b.toNat

/-- The bytes that characters below 256 stand for. -/
def bytesOf (cs : List Char) : List UInt8 := cs.map fun c => UInt8.ofNat c.toNat

/-! ## 1. The status line -/

/-- The text without empty lines at its start. -/
def skipEmptyLines : List Char → Except ReplyFault (List Char)
  | [] => .error .incomplete
  | '\n' :: cs => skipEmptyLines cs
  | '\r' :: '\n' :: cs => skipEmptyLines cs
  | ['\r'] => .error .incomplete
  | '\r' :: _ => .error .badHeader
  | cs => .ok cs

/-- What every version begins with. -/
def versionStart : List Char := "HTTP/1.".toList

/-- The minor version, which is zero or one. -/
def readVersion (cs : List Char) : Except ReplyFault (Nat × List Char) :=
  match Text.stripStart? versionStart cs with
  | some ('0' :: rest) => .ok (0, rest)
  | some ('1' :: rest) => .ok (1, rest)
  | some (_ :: _) => .error .badVersion
  | some [] => .error .incomplete
  | none =>
    .error (if (Text.stripStart? cs versionStart).isSome then .incomplete else .badVersion)

/-- A number of `n` digits that goes on from a value. -/
def readDigits : Nat → Nat → List Char → Except ReplyFault (Nat × List Char)
  | 0, value, cs => .ok (value, cs)
  | _ + 1, _, [] => .error .incomplete
  | n + 1, value, c :: cs =>
    if c.isDigit then readDigits n (10 * value + (c.toNat - '0'.toNat)) cs
    else .error .badStatus

/-- The rest of a line.  `fault` is that of a character that must not be in it. -/
def readLine (fault : ReplyFault) : List Char → Except ReplyFault (List Char × List Char)
  | [] => .error .incomplete
  | '\n' :: cs => .ok ([], cs)
  | '\r' :: '\n' :: cs => .ok ([], cs)
  | ['\r'] => .error .incomplete
  | c :: cs =>
    if isValueChar c then (readLine fault cs).map fun (line, rest) => (c :: line, rest)
    else .error fault

/-- The minor version and the status, up to the end of their line. -/
def readStatusLine (cs : List Char) : Except ReplyFault ((Nat × Nat) × List Char) := do
  let (minor, cs) ← readVersion cs
  match cs with
  | [] => .error .incomplete
  | ' ' :: cs =>
    let (status, cs) ← readDigits 3 0 cs
    if cs.head?.any fun c => c ≠ ' ' ∧ c ≠ '\r' ∧ c ≠ '\n' then .error .badStatus
    let (_, cs) ← readLine .badStatus cs
    pure ((minor, status), cs)
  | _ => .error .badVersion

/-! ## 2. Header lines -/

/-- How many header lines there may be. -/
def greatestCount : Nat := 100

/-- A header line, its name in small letters. -/
def readHeaderLine (cs : List Char) : Except ReplyFault ((String × String) × List Char) :=
  let name := cs.takeWhile isNameChar
  match cs.drop name.length with
  | [] => .error .incomplete
  | ':' :: rest =>
    if name.isEmpty then .error .badHeader
    else
      (readLine .badHeader (rest.dropWhile isPadding)).map fun (value, rest) =>
        ((lowerCase (String.ofList name), unpadded (String.ofList value)), rest)
  | _ => .error .badHeader

/-- Header lines up to the empty line behind them, as many as are allowed. -/
def readHeaders : Nat → List Char →
    Except ReplyFault (List (String × String) × List Char)
  | _, '\n' :: cs => .ok ([], cs)
  | _, '\r' :: '\n' :: cs => .ok ([], cs)
  | _, ['\r'] => .error .incomplete
  | 0, cs => (readHeaderLine cs).bind fun _ => .error .tooLarge
  | n + 1, cs => do
    let (header, cs) ← readHeaderLine cs
    let (headers, cs) ← readHeaders n cs
    pure (header :: headers, cs)

/-! ## 3. Replies -/

/-- Status and header lines of a reply. -/
structure Head where
  /-- The minor version, zero or one. -/
  minor : Nat
  status : Nat
  headers : List (String × String)
deriving Repr, DecidableEq

/-- A head and what follows it. -/
def readHead (cs : List Char) : Except ReplyFault (Head × List Char) := do
  let cs ← skipEmptyLines cs
  let ((minor, status), cs) ← readStatusLine cs
  let (headers, cs) ← readHeaders greatestCount cs
  if status < 100 then .error .badStatus
  pure (⟨minor, status, headers⟩, cs)

namespace Head

/-- The reply announces another one. -/
def isProvisional (h : Head) : Bool := 100 ≤ h.status && h.status < 200 && h.status ≠ 101

/-- The reply has no body whatever its headers say. -/
def isBodiless (h : Head) (method : String) : Bool :=
  method = "HEAD" || h.status = 101 || h.status = 204 || h.status = 304 ||
  (method = "CONNECT" && 200 ≤ h.status && h.status < 300)

/-- How long a body may be said to be. -/
def greatestLength : Nat := UInt64.size - 3

/-- Where the body of a reply to a method ends.  A list of encodings counts before a length. -/
def framing (h : Head) (method : String) : Except ReplyFault Framing :=
  let encodings := headerValues h.headers encodingHeader
  let lengths := headerValues h.headers lengthHeader
  if h.isBodiless method then .ok (.sized 0)
  else if !encodings.isEmpty then
    if h.minor = 0 then .error .unexpectedEncoding
    else .ok (if endsChunked encodings then .chunked else .toEnd)
  else if lengths.isEmpty then .ok .toEnd
  else
    match agreedLength? lengths with
    | none => .error .badLength
    | some n => if greatestLength < n then .error .tooLarge else .ok (.sized n)

end Head

/-- A reply as it is understood. -/
structure Reply where
  status : Nat
  headers : List (String × String)
  body : Body

namespace Reply

/-- The first reply to a method that is not provisional.  The bound is the length of the text,
as every head is longer than nothing. -/
def readFrom (method : String) : Nat → List Char → Except ReplyFault Reply
  | 0, _ => .error .incomplete
  | bound + 1, cs => do
    let (head, rest) ← readHead cs
    if head.isProvisional then readFrom method bound rest
    else
      let framing ← head.framing method
      pure { status := head.status, headers := head.headers,
             body := framing.read (bytesOf rest) }

/-- The reply to a method that some bytes are. -/
def read (method : String) (bytes : List UInt8) : Except ReplyFault Reply :=
  readFrom method bytes.length (octets bytes)

/-- The first value of a header, as bytes. -/
def header? (r : Reply) (name : String) : Option (List UInt8) :=
  (headerValues r.headers name).head?.map fun value => bytesOf value.toList

/-! ### Headers that are handed on -/

/-- The names of some headers, in the order in which they come first. -/
def names (headers : List (String × String)) : List String := (headers.map (·.1)).eraseDups

/-- The names without one of them, in whose place the last one comes. -/
def withoutName (name : String) (names : List String) : List String :=
  match names.getLast? with
  | none => []
  | some last =>
    if names.contains name then names.dropLast.map fun n => if n = name then last else n
    else names

/-- The names of the headers that are handed on.  Those of the encoded body go with the coding. -/
def receivedNames (r : Reply) : List String :=
  if (coding? r.headers).isSome then
    withoutName lengthHeader (withoutName codingHeader (names r.headers))
  else names r.headers

/-- The headers of some names, those of one name after those of another. -/
def byName (names : List String) (headers : List (String × String)) : List (String × String) :=
  names.flatMap fun name => headers.filter (·.1 = name)

/-- The header lines in the form in which they are handed on; values that are not plain are
left out. -/
def receivedHeaders (r : Reply) : List (String × String) :=
  (byName r.receivedNames r.headers).filter fun (_, value) => isPlain value

/-- The response that a reply is, with its body. -/
def response (r : Reply) (url : String) (body : List UInt8) : Response where
  status := r.status
  statusText := phrase r.status
  url := url
  headers := r.receivedHeaders
  body := body

end Reply

end CallBook.Http

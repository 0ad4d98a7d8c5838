import CallBook.Url.Domain
/-!
# Hosts

The host of a URL with a special scheme is a domain, an IPv4 address or an IPv6 address; a
domain whose last label is a number must be an IPv4 address.  With any other scheme a host is
an IPv6 address or text that is kept as it is.
-/

namespace CallBook

/-- Why a text is no URL. -/
inductive UrlError where
  | emptyHost
  | badDomain
  | badPort
  | badIPv4
  | badIPv6
  | badHostCharacter
  | relativeWithoutBase
  | relativeWithOpaqueBase
deriving Repr, DecidableEq

/-- What the user is told. -/
def UrlError.message : UrlError → String
  | emptyHost => "empty host"
  | badDomain => "invalid international domain name"
  | badPort => "invalid port number"
  | badIPv4 => "invalid IPv4 address"
  | badIPv6 => "invalid IPv6 address"
  | badHostCharacter => "invalid domain character"
  | relativeWithoutBase => "relative URL without a base"
  | relativeWithOpaqueBase => "relative URL with a cannot-be-a-base base"

namespace Url

/-- The host of a URL. -/
inductive Host where
  | domain (name : String)
  | ipv4 (address : Nat)
  | ipv6 (pieces : List Nat)
  | other (text : String)
deriving Repr, DecidableEq

/-! ## 1. IPv4 addresses -/

/-- What a part of an IPv4 address that is none comes to, or its value. -/
def ipv4Number? (cs : List Char) : Option Nat :=
  let value (base : Nat) (ds : List Char) : Option Nat :=
    match ds.mapM hexValue? with
    | none => none
    | some values =>
      if values.all (· < base) then some (values.foldl (fun n v => base * n + v) 0) else none
  match cs with
  | [] => none
  | '0' :: 'x' :: ds => value 16 ds
  | '0' :: 'X' :: ds => value 16 ds
  | '0' :: d :: ds => value 8 (d :: ds)
  | ds => value 10 ds

/-- The parts of a domain, without the empty one after a final dot. -/
def domainParts (cs : List Char) : List (List Char) :=
  let parts := Text.splitAt '.' cs
  if parts.getLast? = some [] then parts.dropLast else parts

/-- Is the last part of a domain a number? -/
def endsInNumber (cs : List Char) : Bool :=
  match (domainParts cs).getLast? with
  | none => false
  | some last => (!last.isEmpty && last.all Char.isDigit) || (ipv4Number? last).isSome

/-- The address that the numbers before the last and the last one make up. -/
def ipv4Address? : Nat → List Nat → Option Nat
  | _, [] => none
  | place, [last] => if last < Nat.pow 256 (place + 1) then some last else none
  | place, n :: rest =>
    match place with
    | 0 => none
    | place + 1 =>
      if n < 256 then (ipv4Address? place rest).map (n * Nat.pow 256 (place + 1) + ·) else none

/-- An IPv4 address. -/
def readIPv4 (cs : List Char) : Option Nat :=
  ((domainParts cs).mapM ipv4Number?).bind (ipv4Address? 3)

/-- An IPv4 address as four decimal numbers. -/
def ipv4Text (address : Nat) : String :=
  ".".intercalate ([3, 2, 1, 0].map fun place => toString (address / Nat.pow 256 place % 256))

/-! ## 2. IPv6 addresses -/

/-- A decimal number below 256 without leading zeros. -/
def readByte (cs : List Char) : Option Nat :=
  match cs with
  | [] => none
  | '0' :: _ :: _ => none
  | ds =>
    if ds.all Char.isDigit ∧ ds.length ≤ 3 then
      let n := ds.foldl (fun n c => 10 * n + (hexValue? c).getD 0) 0
      if n < 256 then some n else none
    else none

/-- The two pieces that an IPv4 address at the end of an IPv6 address makes up. -/
def readTail (cs : List Char) : Option (List Nat) :=
  match (Text.splitAt '.' cs).mapM readByte with
  | some [a, b, c, d] => some [256 * a + b, 256 * c + d]
  | _ => none

/-- A piece of an IPv6 address: up to four hexadecimal digits. -/
def readPiece (cs : List Char) : Option Nat :=
  if cs.isEmpty ∨ cs.length > 4 then none
  else (cs.mapM hexValue?).map fun values => values.foldl (fun n v => 16 * n + v) 0

/-- Pieces separated by colons; the last may be an IPv4 address if `allowTail` says so. -/
def readPieces (allowTail : Bool) : List (List Char) → Option (List Nat)
  | [] => some []
  | [last] => if last.contains '.' then if allowTail then readTail last else none
    else (readPiece last).map ([·])
  | piece :: rest => do
    let n ← readPiece piece
    let ns ← readPieces allowTail rest
    pure (n :: ns)

/-- Some pieces in a row; no text has none. -/
def readRow (allowTail : Bool) (cs : List Char) : Option (List Nat) :=
  if cs.isEmpty then some [] else readPieces allowTail (Text.splitAt ':' cs)

/-- An IPv6 address.  Two colons in a row stand for as many zeros as are missing. -/
def readIPv6 (cs : List Char) : Option (List Nat) :=
  match Text.splitFirst [':', ':'] cs with
  | none => (readRow true cs).filter (·.length = 8)
  | some (before, after) => do
    let front ← readRow false before
    let back ← readRow true after
    if front.length + back.length ≤ 7 then
      pure (front ++ List.replicate (8 - front.length - back.length) 0 ++ back)
    else none

/-- The first longest run of zeros: where it begins and how long it is. -/
def longestZeros (pieces : List Nat) : Nat × Nat :=
  let runs := (List.range pieces.length).map fun i =>
    (i, ((pieces.drop i).takeWhile (· = 0)).length)
  runs.foldl (fun best run => if run.2 > best.2 then run else best) (0, 0)

/-- Pieces in hexadecimal digits, separated by colons. -/
def piecesText (pieces : List Nat) : String :=
  ":".intercalate (pieces.map fun n => String.ofList (Nat.toDigits 16 n))

/-- An IPv6 address, its longest run of at least two zeros left out. -/
def ipv6Text (pieces : List Nat) : String :=
  let (start, length) := longestZeros pieces
  if length < 2 then piecesText pieces
  else piecesText (pieces.take start) ++ "::" ++ piecesText (pieces.drop (start + length))

/-! ## 3. Hosts -/

/-- A host as it is written in a URL. -/
def Host.text : Host → String
  | domain name => name
  | ipv4 address => ipv4Text address
  | ipv6 pieces => "[" ++ ipv6Text pieces ++ "]"
  | other text => text

/-- An IPv6 address, after its opening bracket. -/
def readBracketed (cs : List Char) : Except UrlError Host :=
  match cs.reverse with
  | ']' :: inner =>
    match readIPv6 inner.reverse with
    | some pieces => .ok (.ipv6 pieces)
    | none => .error .badIPv6
  | _ => .error .badIPv6

/-- The host of a URL with a special scheme. -/
def readSpecialHost (cs : List Char) : Except UrlError Host :=
  match cs with
  | '[' :: rest => readBracketed rest
  | cs =>
    match domainToAscii (Text.decodeLossy (unescape cs)) with
    | none => .error .badDomain
    | some domain =>
      if domain.isEmpty then .error .emptyHost
      else if endsInNumber domain then
        match readIPv4 domain with
        | some address => .ok (.ipv4 address)
        | none => .error .badIPv4
      else .ok (.domain (String.ofList domain))

/-- Characters that must not stand in a host that is kept as it is. -/
def isForbiddenInHost (c : Char) : Bool :=
  ['\x00', '\t', '\n', '\r', ' ', '#', '/', ':', '<', '>', '?', '@', '[', '\\', ']', '^',
   '|'].contains c

/-- The host of a URL with another scheme. -/
def readOtherHost (cs : List Char) : Except UrlError Host :=
  match cs with
  | '[' :: rest => readBracketed rest
  | cs =>
    if cs.any isForbiddenInHost then .error .badHostCharacter
    else .ok (.other (String.ofList (escape controlSet cs)))

end Url

end CallBook

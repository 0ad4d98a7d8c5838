import CallBook.Http.Framing
/-!
# Encoded bodies

A server may encode a body and name the coding in a header.  Three codings are undone before a
response is handed on, and then the headers that speak of the encoded body are taken away.

How a coding is undone is not said here.  A decoder is given the data of a body as far as they have
come, and `Decoding` has all that it can find in them.
-/

namespace CallBook.Http

/-- The codings that are undone. -/
inductive Coding where
  | gzip
  | brotli
  | deflate
deriving Repr, DecidableEq

namespace Coding

/-- What a coding is called in headers. -/
def name : Coding → String
  | gzip => "gzip"
  | brotli => "br"
  | deflate => "deflate"

/-- All codings, in the order in which they are looked for. -/
def all : List Coding := [gzip, brotli, deflate]

end Coding

/-- What a decoder finds in data. -/
inductive Decoding where
  /-- All that was encoded, and what it was. -/
  | whole (bytes : List UInt8)
  /-- A part of it.  The complaint is made if nothing follows. -/
  | unfinished (complaint : String)
  /-- Something that is not so encoded. -/
  | invalid (complaint : String)
deriving Repr, DecidableEq

/-- What is found in data that are encoded in a way. -/
abbrev Decoder := Coding → (data : List UInt8) → Decoding

/-- The decoder that finds nothing. -/
def Decoder.none : Decoder := fun _ _ => .invalid "unknown coding"

/-! ## What headers say -/

def codingHeader : String := "content-encoding"

/-- Do the headers name a coding?  A value that names several things names none. -/
def namesCoding (headers : List (String × String)) (c : Coding) : Bool :=
  (headerValues headers codingHeader ++ headerValues headers encodingHeader).contains c.name

/-- Do the headers say that there is no body? -/
def saysEmpty (headers : List (String × String)) : Bool :=
  (headerValues headers lengthHeader).head? = some "0"

/-- The coding that is undone, given the headers. -/
def coding? (headers : List (String × String)) : Option Coding :=
  if saysEmpty headers then none else Coding.all.find? (namesCoding headers)

end CallBook.Http

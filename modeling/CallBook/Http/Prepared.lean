import CallBook.Http.Exchange
import CallBook.Http.Syntax
import CallBook.Text.Utf8
/-!
# Servers with prepared answers

A prepared server stands at one address and has a list of answers.  The message that comes
after `n` others gets the answer number `n`, and the last answer once there are no more.  To
each reply the server adds the length of its body, where a body may be, and that the
connection is closed.
-/

namespace CallBook.Http

/-- A reply to be sent: the header lines as they are written, and a body. -/
structure Page where
  status : Nat
  headers : List (String × String)
  body : List UInt8
deriving Repr, DecidableEq

namespace Page

/-- The page without anything. -/
def empty : Page := ⟨200, [], []⟩

/-- The headers that are added. -/
def closingHeaders (p : Page) : List (String × String) :=
  (if p.status = 204 ∨ p.status = 304 then []
   else [("content-length", toString p.body.length)]) ++ [("connection", "close")]

/-- A header line as it is sent. -/
def headerLine (header : String × String) : String := header.1 ++ ": " ++ header.2 ++ "\r\n"

/-- The page as it is sent. -/
def bytes (p : Page) : List UInt8 :=
  let head := "HTTP/1.1 " ++ toString p.status ++ " " ++ phrase p.status ++ "\r\n" ++
    String.join ((p.headers ++ p.closingHeaders).map headerLine) ++ "\r\n"
  Text.encode head.toList ++ p.body

end Page

/-- A server that answers from a list. -/
structure Prepared where
  /-- The hosts that lead to the server. -/
  hosts : List String
  port : Nat
  /-- The answers, unless connections are refused. -/
  answers : Option (List Reaction)

namespace Prepared

/-- The answer number `n`. -/
def answer (answers : List Reaction) (n : Nat) : Reaction :=
  ((answers[n]?).or answers.getLast?).getD (.answer Page.empty.bytes)

/-- Does a URL lead to the server? -/
def isAt (s : Prepared) (u : Url) : Bool :=
  u.scheme = "http" && u.effectivePort? = some s.port &&
    match u.hostText with
    | some host => s.hosts.contains host
    | none => false

/-- The network with this one server, which encodes nothing. -/
def network (s : Prepared) : Network where
  react earlier url _ :=
    match s.answers with
    | some answers => if s.isAt url then answer answers earlier.length else .refused
    | none => .refused
  decode := .none

end Prepared

end CallBook.Http

import CallBook.Http.Exchange
import CallBook.Http.Reply
import CallBook.Http.Target
import CallBook.Url.Parser
/-!
# Redirects

A reply with certain statuses and a location asks for another request.  After the statuses
301, 302 and 303 the method becomes `GET`, unless it is `GET` or `HEAD`, and the body goes;
after 307 and 308 the request is repeated.  A location that is no URL, or none that can be
asked for, is passed over.
-/

namespace CallBook.Http

/-- A request that is ready to be sent. -/
structure Outgoing where
  url : Url
  method : String
  headers : List (String × String)
  body : Option String
deriving Repr, DecidableEq

namespace Outgoing

/-- The headers without those of some names. -/
def withoutHeaders (headers : List (String × String)) (names : List String) :
    List (String × String) :=
  headers.filter fun (name, _) => !names.contains (lowerCase name)

/-- The headers with one header in place of all of its name. -/
def withHeader (headers : List (String × String)) (name value : String) :
    List (String × String) :=
  withoutHeaders headers [name] ++ [(name, value)]

/-- The headers with a text added to the last value of a name. -/
def addToLast (headers : List (String × String)) (name text : String) :
    List (String × String) :=
  let others := (headers.reverse.takeWhile (·.1 ≠ name)).reverse
  match (headers.take (headers.length - others.length)).reverse with
  | (_, value) :: before => before.reverse ++ (name, value ++ text) :: others
  | [] => headers

/-- The bytes of the body. -/
def bodyBytes (o : Outgoing) : List UInt8 := (o.body.map fun s => Text.encode s.toList).getD []

/-- The headers as they are sent.  Without a body they name no encoding.  With one they say how
long it is, unless they did so before or it is sent in chunks. -/
def sentHeaders (o : Outgoing) : List (String × String) :=
  let encodings := headerValues o.headers encodingHeader
  let hasLength := (agreedLength? (headerValues o.headers lengthHeader)).isSome
  if o.body.isNone then withoutHeaders o.headers [encodingHeader]
  else if encodings.isEmpty then
    if hasLength then o.headers
    else withHeader o.headers lengthHeader (toString o.bodyBytes.length)
  else
    let headers := if hasLength then withoutHeaders o.headers [lengthHeader] else o.headers
    if endsChunked encodings then headers else addToLast headers encodingHeader ", chunked"

/-- How many bytes of a body the headers announce. -/
def announced (o : Outgoing) : Nat :=
  if (headerValues o.sentHeaders encodingHeader).isEmpty then
    (agreedLength? (headerValues o.sentHeaders lengthHeader)).getD 0
  else 0

/-- No more of a body is announced than there is.  A server waits for what is announced. -/
def isComplete (o : Outgoing) : Bool := o.announced ≤ o.bodyBytes.length

/-- What is sent.  A tunnel is asked for by host and port. -/
def message (o : Outgoing) : Message where
  method := o.method
  target :=
    if o.method = "CONNECT" then (o.url.hostText.getD "") ++ o.url.portText else o.url.target
  headers := o.sentHeaders
  body := o.bodyBytes.take o.announced

/-- The headers that describe a body. -/
def bodyHeaders : List String :=
  ["transfer-encoding", "content-encoding", "content-type", "content-length"]

/-- The headers that are for one server only. -/
def privateHeaders : List String :=
  ["authorization", "cookie", "cookie2", "proxy-authorization", "www-authenticate"]

/-- Do two URLs lead to the same server? -/
def sameServer (u v : Url) : Bool :=
  u.hostText = v.hostText && u.effectivePort? = v.effectivePort?

/-- The address that is told to the next server: none from `https` to `http`. -/
def referer? (next previous : Url) : Option String :=
  if next.scheme = "http" ∧ previous.scheme = "https" then none
  else some previous.withoutUser.withoutFragment.text

/-- Does the status ask for a request without a body? -/
def dropsBody (status : Nat) : Bool := status = 301 || status = 302 || status = 303

/-- Does the status ask for the same request elsewhere? -/
def repeats (status : Nat) : Bool := status = 307 || status = 308

/-- The request that a reply asks for. -/
def redirected (o : Outgoing) (status : Nat) (next : Url) : Outgoing :=
  let headers := if dropsBody status then withoutHeaders o.headers bodyHeaders else o.headers
  let headers := match referer? next o.url with
    | some referer => withHeader headers "referer" referer
    | none => headers
  { url := next
    method := if dropsBody status ∧ o.method ≠ "HEAD" then "GET" else o.method
    headers := if sameServer next o.url then headers else withoutHeaders headers privateHeaders
    body := if dropsBody status then none else o.body }

/-- Can the URL be asked for as it is written? -/
def isAskable (u : Url) : Bool := isTarget u.text.toList

/-- What a reply says about going on elsewhere. -/
inductive Direction where
  | stay
  | goOn (next : Url)
  /-- The location is no URL that can be asked for. -/
  | astray (location : List UInt8)
deriving Repr, DecidableEq

/-- Where a location leads to, if it is a URL that can be asked for. -/
def next? (o : Outgoing) (location : List UInt8) : Option Url :=
  match Text.decode? location with
  | none => none
  | some cs => (o.url.join (String.ofList cs)).toOption.filter isAskable

/-- Where a reply sends on to. -/
def direction (o : Outgoing) (r : Reply) : Direction :=
  if dropsBody r.status || repeats r.status then
    match r.header? "location" with
    | none => .stay
    | some location =>
      match o.next? location with
      | some next => .goOn next
      | none => .astray location
  else .stay

end Outgoing

end CallBook.Http

import CallBook.Http.Failure
import CallBook.Http.Redirect
import CallBook.Log
import CallBook.Settings
import CallBook.Text.Base64
/-!
# Sending requests

A request is checked, in this order: its URL, the scheme, the method, the headers.  Then it is
handed over and sent, and sent on as long as replies redirect it and the policy allows it.
-/

namespace CallBook.Http

/-! ## 1. Checking a request -/

/-- The bytes that escapes stand for, as text. -/
def plainText? (s : String) : Option String :=
  (Text.decode? (Url.unescape s.toList)).map String.ofList

/-- The header for user name and password in a URL.  What cannot be read as text counts as
absent. -/
def credentials? (u : Url) : Option (String × String) :=
  match plainText? u.user with
  | none => none
  | some user =>
    let password := if u.password = "" then none else plainText? u.password
    if user = "" ∧ password.isNone then none
    else
      let plain := user ++ ":" ++ password.getD ""
      some ("authorization",
        "Basic " ++ String.ofList (Text.base64 (Text.encode plain.toList)))

/-- The fault of a header that cannot be sent. -/
def headerFault? (name value : String) : Option TransportError :=
  if !isHeaderName name then some (.build "builder error: invalid HTTP header name")
  else if !isHeaderValue value then
    some (.build "builder error: failed to parse header value")
  else none

/-- Is this one of the schemes that requests are sent with? -/
def isWebScheme (scheme : String) : Bool := scheme = "http" || scheme = "https"

/-- A request as it is handed over to be sent. -/
structure Handed where
  url : Url
  method : String
  /-- The headers in the order in which they were added, with names in small letters. -/
  headers : List (String × String)
  body : Option String
deriving Repr, DecidableEq

/-- The request with one more header.  A header that cannot be sent is kept as the fault of the
request, and nothing is added after a fault. -/
def Handed.addHeader (draft : Except TransportError Handed) (header : String × String) :
    Except TransportError Handed :=
  match draft with
  | .error fault => .error fault
  | .ok h =>
    match headerFault? header.1 header.2 with
    | some fault => .error fault
    | none => .ok { h with headers := h.headers ++ [(lowerCase header.1, header.2)] }

/-- The request as it goes out: user name and password of its URL become a header, and values are
received without the blanks around them. -/
def Handed.outgoing (h : Handed) : Outgoing :=
  let headers := h.headers.map fun (name, value) => (name, unpadded value)
  match credentials? h.url with
  | some credentials =>
    { url := h.url.withoutUser, method := h.method, headers := credentials :: headers,
      body := h.body }
  | none => { url := h.url, method := h.method, headers, body := h.body }

/-- The request as it is handed over, if it can be sent. -/
def handOver (r : Request) : Except TransportError Handed :=
  match Url.parse r.url with
  | .error e => .error (.invalidUrl e.message)
  | .ok url =>
    if !isWebScheme url.scheme then .error (.unsupportedProtocol url.scheme)
    else if !isMethod r.method then .error (.invalidMethod r.method)
    else
      let bare : Handed := { url, method := r.method, headers := [], body := none }
      (r.headers.foldl Handed.addHeader (.ok bare)).map fun h =>
        { h with body := r.nonEmptyBody? }

/-- The request as it is sent. -/
def prepare (r : Request) : Except TransportError Outgoing := (handOver r).map Handed.outgoing

/-! ## 2. Sending -/

/-- How often a request may be sent on, if it may at all. -/
structure Policy where
  redirects : Option Nat
deriving Repr, DecidableEq

namespace Policy

/-- The policy that settings ask for. -/
def ofSettings (s : Settings) : Policy :=
  ⟨if s.followRedirects then some s.maxRedirects.toNat else none⟩

/-- The usual policy. -/
def standard : Policy := ⟨some 10⟩

end Policy

/-- What sending came to: the messages that reached a server, the notes that were kept, and the
response or the error. -/
structure Delivery where
  sent : List Message
  notes : List Log.Note
  result : Except TransportError Response

namespace Delivery

/-- A delivery that failed at a URL. -/
def failed (sent : List Message) (notes : List Log.Note) (url : Url) (f : Failure) : Delivery :=
  ⟨sent, notes, .error (f.classify url)⟩

/-- A delivery after another message was sent and notes were kept. -/
def after (m : Message) (notes : List Log.Note) (d : Delivery) : Delivery :=
  { d with sent := m :: d.sent, notes := notes ++ d.notes }

end Delivery

/-! ### Notes -/

/-- A note on a connection.  Every message has one of its own. -/
def connectionNote (u : Url) : Log.Note :=
  ⟨.debug, "reqwest::connect",
    "starting new connection: " ++ u.scheme ++ ":" ++ u.authorityText ++ "/"⟩

/-- A note on a redirect. -/
def redirectNote (text : String) : Log.Note := ⟨.debug, "reqwest::async_impl::client", text⟩

/-- A header value in quotes; what is not plain is written as a number. -/
def quotedValue (value : List UInt8) : String :=
  String.ofList ('"' :: (((octets value).flatMap fun c =>
    if c = '"' then ['\\', '"']
    else if c = '\t' ∨ (' ' ≤ c ∧ c ≤ '~') then [c]
    else '\\' :: 'x' :: Nat.toDigits 16 c.toNat) ++ ['"']))

/-- What is noted of the direction that a reply gives. -/
def directionNotes (follows : Bool) (url : Url) : Outgoing.Direction → List Log.Note
  | .stay => []
  | .astray location =>
    [redirectNote ("Location header had invalid URI: " ++ quotedValue location)]
  | .goOn next =>
    [redirectNote (
      if follows then "redirecting '" ++ url.text ++ "' to '" ++ next.text ++ "'"
      else "redirect policy disallowed redirection to '" ++ next.text ++ "'")]

/-- What is noted of the codings that a reply names although there is no body. -/
def codingNotes (r : Reply) : List Log.Note :=
  if saysEmpty r.headers then
    (Coding.all.filter (namesCoding r.headers)).map fun c =>
      ⟨.warn, "reqwest::async_impl::decoder", c.name ++ " response with content-length of 0"⟩
  else []

/-! ### Exchanges -/

/-- The response that a reply is, if its body can be read. -/
def finish (decode : Decoder) (ending : Ending) (url : Url) (r : Reply) :
    Except TransportError Response :=
  match r.content decode ending with
  | .ok body => .ok (r.response url.text body)
  | .error f => .error (f.classify url)

/-- Sends a request, and sends it on up to `allowance` times if redirects are followed. -/
def exchange (network : Network) (follows : Bool) :
    Nat → List Message → Outgoing → Delivery
  | allowance, earlier, o =>
    let m := o.message
    let connected := [connectionNote o.url]
    match network.react earlier o.url m with
    | .unreachable reason => Delivery.failed [] connected o.url (.notConnected reason)
    | .pending => Delivery.failed [] connected o.url .timeout
    | .answer bytes ending =>
      if !o.isComplete then Delivery.failed [] connected o.url .timeout
      else
        match Reply.read o.method bytes with
        | .error cause => Delivery.failed [m] connected o.url (cause.failure ending)
        | .ok r =>
          let direction := o.direction r
          let notes := connected ++ directionNotes follows o.url direction
          match (if follows then direction else .stay), allowance with
          | .goOn _, 0 => Delivery.failed [m] connected o.url .tooManyRedirects
          | .goOn next, allowance + 1 =>
            if isWebScheme next.scheme then
              (exchange network follows allowance (earlier ++ [m])
                (o.redirected r.status next)).after m notes
            else Delivery.failed [m] notes o.url (.badScheme next)
          | _, _ => ⟨[m], notes ++ codingNotes r, finish network.decode ending o.url r⟩

/-- Sends a request that is ready, after other messages have reached a server. -/
def Outgoing.deliver (policy : Policy) (network : Network) (earlier : List Message)
    (o : Outgoing) : Delivery :=
  if !isAskable o.url then Delivery.failed [] [] o.url .unaskable
  else
    match policy.redirects with
    | none => exchange network false 0 earlier o
    | some limit => exchange network true (limit - 1) earlier o

/-- Sends a request after other messages have reached a server. -/
def deliver (policy : Policy) (network : Network) (earlier : List Message) (r : Request) :
    Delivery :=
  match prepare r with
  | .error e => ⟨[], [], .error e⟩
  | .ok o => o.deliver policy network earlier

/-- What is noted of sending a request.  The time that it took is left at zero. -/
def deliveryNotes (policy : Policy) (network : Network) (earlier : List Message)
    (r : Request) : List Log.Note :=
  let d := deliver policy network earlier r
  d.notes ++
    match d.result with
    | .ok response =>
      [⟨.debug, "apicli::executor::native",
        r.summary ++ " answered " ++ toString response.status ++ " in 0ns"⟩]
    | .error _ => []

/-- The transport over a network. -/
def transport (policy : Policy) (network : Network) (earlier : List Message) : Transport :=
  fun r => (deliver policy network earlier r).result

end CallBook.Http

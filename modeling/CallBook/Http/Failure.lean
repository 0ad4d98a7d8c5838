import CallBook.Http.Exchange
import CallBook.Http.Reply
import CallBook.Transport
/-!
# Failures of exchanges

An exchange fails for a reason, at the URL that was asked for last.  Where the bytes of a server
hold all of a reply it does not matter what comes behind them, and otherwise that decides which
failure it is (`ReplyFault.failure`, `Extent.failure?`).

A failure is classified by what it is and by the words of its message, which may include the URL.
-/

namespace CallBook.Http

/-- Why an exchange fails. -/
inductive Failure where
  | timeout
  /-- There is no connection. -/
  | notConnected (reason : String)
  /-- The connection is lost before there is a reply. -/
  | lost (reason : String)
  | broken (cause : ReplyFault)
  /-- The connection is lost in the middle of a body. -/
  | lostBody (reason : String)
  | brokenBody (cause : BodyFault)
  /-- A body is not encoded as its headers say. -/
  | notDecoded (complaint : String)
  | tooManyRedirects
  | badScheme (next : Url)
  | unaskable
deriving Repr, DecidableEq

/-! ## 1. Replies that are not whole -/

/-- The failure that a fault of a reply is. -/
def ReplyFault.failure (ending : Ending) : ReplyFault → Failure
  | incomplete =>
    match ending with
    | .closed => .broken .incomplete
    | .stalled => .timeout
    | .lost reason => .lost reason
  | cause => .broken cause

/-- The failure that it is to read a body which goes as far as this, if it is one. -/
def Extent.failure? (ending : Ending) : Extent → Option Failure
  | whole => none
  | unfinished atClose =>
    match ending with
    | .closed => atClose.map .brokenBody
    | .stalled => some .timeout
    | .lost reason => some (.lostBody reason)
  | faulty cause => some (.brokenBody cause)

/-- The body of a reply as it is handed on.  A body without any data is not decoded; of others no
more is read than the decoder needs. -/
def Reply.content (decode : Decoder) (ending : Ending) (r : Reply) :
    Except Failure (List UInt8) :=
  let failure? := r.body.extent.failure? ending
  let asItIs := failure?.elim (.ok r.body.data) .error
  match coding? r.headers with
  | none => asItIs
  | some coding =>
    if r.body.data.isEmpty then asItIs
    else
      match decode coding r.body.data with
      | .whole bytes => .ok bytes
      | .unfinished complaint => .error (failure?.getD (.notDecoded complaint))
      | .invalid complaint => .error (.notDecoded complaint)

/-! ## 2. What is said of failures -/

/-- What is said of a failure at a URL. -/
def Failure.message (url : Url) : Failure → String
  | timeout => "error sending request for url (" ++ url.text ++ "): operation timed out"
  | notConnected reason =>
    "error sending request for url (" ++ url.text ++ "): error trying to connect: " ++ reason
  | lost reason =>
    "error sending request for url (" ++ url.text ++ "): connection error: " ++ reason
  | broken cause => "error sending request for url (" ++ url.text ++ "): " ++ cause.message
  | lostBody reason =>
    "request or response body error: error reading a body from connection: " ++ reason
  | brokenBody cause =>
    "request or response body error: error reading a body from connection: " ++ cause.message
  | notDecoded complaint => "error decoding response body: " ++ complaint
  | tooManyRedirects =>
    "error following redirect for url (" ++ url.text ++ "): too many redirects"
  | badScheme next => "builder error for url (" ++ next.text ++ "): URL scheme is not allowed"
  | unaskable =>
    "builder error for url (" ++ url.text ++ "): Parsed Url is not a valid Uri"

/-- The words that make a failure one of encryption. -/
def tlsWords : List String := ["certificate", "TLS", "SSL"]

/-- Does a message speak of encryption? -/
def mentionsTls (message : String) : Bool :=
  tlsWords.any fun word => Text.occurs word.toList message.toList

/-- The error that a failure at a URL is. -/
def Failure.classify (url : Url) (f : Failure) : TransportError :=
  let message := f.message url
  match f with
  | timeout => .timeout
  | badScheme _ | unaskable => .build message
  | notConnected _ =>
    if mentionsTls message then .tls message
    else .network ("Connection failed: " ++ message)
  | lost _ | broken _ | lostBody _ | brokenBody _ | notDecoded _ | tooManyRedirects =>
    if mentionsTls message then .tls message else .network message

end CallBook.Http

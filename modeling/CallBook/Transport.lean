import CallBook.Request
import CallBook.Response
/-!
# Transports

A transport takes a request to the server's response, or says why there is none.  Whatever the
status of a response, it is not a failure.
-/

namespace CallBook

/-- Why a request has no response. -/
inductive TransportError where
  | network (message : String)
  | timeout
  | invalidUrl (message : String)
  | invalidMethod (method : String)
  | tls (message : String)
  | build (message : String)
  | unsupportedProtocol (scheme : String)
deriving Repr, DecidableEq

/-- What the user is told. -/
def TransportError.message : TransportError → String
  | network message => "Network error: " ++ message
  | timeout => "Request timed out"
  | invalidUrl message => "Invalid URL: " ++ message
  | invalidMethod method => "Invalid HTTP method: " ++ method
  | tls message => "TLS/SSL error: " ++ message
  | build message => "Request build error: " ++ message
  | unsupportedProtocol scheme => "Unsupported protocol: " ++ scheme

/-- What sends requests. -/
abbrev Transport := Request → Except TransportError Response

end CallBook

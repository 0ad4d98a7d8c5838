import CallBook.Http.Coding
import CallBook.Url.Value
/-!
# Exchanges with servers

A message goes to the server of a URL.  There may be no connection to it; or the server sends some
bytes, and then the connection is closed, nothing more comes, or the connection is lost.  What the
server does may depend on the messages that reached a server before.

Why there is no connection, or none any more, is said by the system or by what encrypts the
connection, and it is passed on in their words.
-/

namespace CallBook.Http

/-- What is sent.  The headers that senders add by themselves are left out. -/
structure Message where
  method : String
  target : String
  headers : List (String × String)
  /-- The body as far as the message says how long it is. -/
  body : List UInt8
deriving Repr, DecidableEq

/-- What comes behind the last byte of a server. -/
inductive Ending where
  /-- The connection is closed. -/
  | closed
  /-- The connection stays, and nothing comes. -/
  | stalled
  /-- The connection fails. -/
  | lost (reason : String)
deriving Repr, DecidableEq

/-- How a server reacts to a message. -/
inductive Reaction where
  /-- Bytes are sent. -/
  | answer (bytes : List UInt8) (ending : Ending := .closed)
  /-- It is not known whether there will be a connection. -/
  | pending
  /-- There is no connection: the host has no address, nobody listens, or the two sides do not
  agree on how to encrypt it. -/
  | unreachable (reason : String)
deriving Repr, DecidableEq

namespace Reaction

/-- There is never a reply. -/
def silence : Reaction := answer [] .stalled

/-- Nobody listens. -/
def refused : Reaction := unreachable "tcp connect error: Connection refused (os error 111)"

/-- The server drops the connection after some bytes. -/
def reset (bytes : List UInt8) : Reaction :=
  answer bytes (.lost "Connection reset by peer (os error 104)")

end Reaction

/-- What is outside: how the server of a URL reacts to a message after others reached a server,
and what is found in bodies that servers encode. -/
structure Network where
  react : (earlier : List Message) → Url → Message → Reaction
  decode : Decoder

/-- The network without servers. -/
def Network.unreachable : Network := ⟨fun _ _ _ => .refused, .none⟩

end CallBook.Http

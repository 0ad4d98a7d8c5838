import CallBook.Book
import CallBook.Query
import CallBook.Json.Parser
import CallBook.Transport
/-!
# Clients

A client makes the calls of a book: it makes the request for a call, hands it to its
transport, and lets the answer be read as JSON or queried.  What a call does is recorded in a
trace: the requests that were sent, and the notices that were given on the way.
-/

namespace CallBook

open Json (Value)

/-- Why a call fails. -/
inductive CallError where
  | catalog (cause : Catalog.CatalogError)
  | request (cause : RequestError)
  | transport (cause : TransportError)
  | query (cause : Query.QueryError)
  | notJson (cause : Json.SyntaxError)
  | settings (cause : Settings.Fault)
deriving Repr, BEq

namespace CallError

/-- What the user is told. -/
def message : CallError → String
  | catalog cause => cause.message
  | request cause => cause.message
  | transport cause => cause.message
  | query cause => cause.message
  | notJson cause => "Failed to parse response as JSON: " ++ cause.message
  | settings cause => cause.message

/-- The failure is that the catalog has no such call. -/
def isUnknownCall : CallError → Bool
  | request (.unknownCall ..) => true
  | _ => false

end CallError

/-- What a caller chooses for one call. -/
structure CallOptions where
  /-- Variables that stand above the environment. -/
  overrides : Bindings
  /-- The path of the catalog, if not one of the usual ones. -/
  catalog : Option String
  /-- Request and response are shown. -/
  debug : Bool
deriving Repr, DecidableEq

/-- What a call did: the requests it sent, the notices it gave, and its result. -/
structure Trace (α : Type) where
  sent : List Request
  notices : List Notice
  result : α

namespace Trace

/-- The same deeds with another result. -/
def map {α β : Type} (f : α → β) (t : Trace α) : Trace β :=
  { sent := t.sent, notices := t.notices, result := f t.result }

/-- The same deeds after some notes. -/
def after {α : Type} (notes : List Log.Note) (t : Trace α) : Trace α :=
  { t with notices := notes.map Notice.note ++ t.notices }

end Trace

/-- The answer to a call, and where it can be queried. -/
structure Answer where
  text : String
  engine : Query.Engine
  processor : Processor

namespace Answer

/-- The answer as JSON. -/
def parsed (a : Answer) : Except CallError Value :=
  (Json.parse a.text).mapError .notJson

/-- What a query makes of the answer. -/
def query (a : Answer) (query : String) : Except CallError String :=
  (a.engine.run a.processor query a.text).mapError .query

/-- What is noted when the answer is queried. -/
def queryNotes (a : Answer) (query : String) : List Log.Note :=
  a.engine.notes a.processor query a.text

end Answer

/-- What makes calls. -/
structure Client where
  book : Book
  transport : Transport
  /-- What is noted when a request is sent. -/
  transportNotes : Request → List Log.Note := fun _ => []
  engine : Query.Engine
  processor : Processor

namespace Client

/-- The entries of the catalog. -/
def entries (c : Client) (catalog : Option String) : Except CallError (List Entry) :=
  (c.book.entries catalog).mapError .catalog

/-- The first entry of the catalog with a service and name. -/
def find? (c : Client) (service name : String) (catalog : Option String) :
    Except CallError (Option Entry) :=
  (c.book.find? service name catalog).mapError .catalog

/-- The request for a call. -/
def request (c : Client) (service name : String) (options : CallOptions) :
    Except CallError Request :=
  (c.book.request service name options.overrides options.catalog).mapError .request

/-- A text, if it is to be shown. -/
def shownIf (show? : Bool) (text : String) : List Notice := if show? then [.line text] else []

/-- Sends a request and shows what is to be shown. -/
def deliver (c : Client) (debug : Bool) (r : Request) : Trace (Except CallError Response) :=
  let before := shownIf debug r.diagnostics ++ (c.transportNotes r).map Notice.note
  match c.transport r with
  | .error cause => ⟨[r], before, .error (.transport cause)⟩
  | .ok response =>
    ⟨[r], before ++ shownIf debug ("\n" ++ response.diagnostics), .ok response⟩

/-- Makes the call with a service and name. -/
def fetch (c : Client) (service name : String) (options : CallOptions) :
    Trace (Except CallError Response) :=
  Trace.after (c.book.requestNotes service name options.overrides options.catalog)
    (match c.request service name options with
    | .error cause => ⟨[], [], .error cause⟩
    | .ok r => c.deliver options.debug r)

/-- The answer that the text of a response makes up. -/
def answer (c : Client) (r : Response) : Answer := ⟨r.text, c.engine, c.processor⟩

/-- What is noted of the response to a call with a listed name. -/
def responseNotes (id : String) : Except CallError Response → List Notice
  | .ok r =>
    [.note ⟨.debug, "apicli::client",
      id ++ " returned " ++ toString r.body.length ++ " bytes"⟩]
  | .error _ => []

/-- Makes the call with a listed name. -/
def get (c : Client) (id : String) (options : CallOptions) :
    Trace (Except CallError Answer) :=
  let (service, name) := Entry.splitId id
  let t := c.fetch service name options
  { sent := t.sent, notices := t.notices ++ responseNotes id t.result,
    result := t.result.map c.answer }

end Client

end CallBook

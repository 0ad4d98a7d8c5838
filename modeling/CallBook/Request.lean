import CallBook.Json.Decode
import CallBook.Text.Blank
/-!
# Requests

A request is what is sent: a URL, a method, headers in the order of their names, and a body
that may be absent.
-/

namespace CallBook

open Json (Value DecodeError Decoder)

/-- A resolved HTTP request. -/
structure Request where
  url : String
  method : String
  headers : List (String × String)
  body : Option String
deriving Repr, DecidableEq

/-- The letters of two texts agree when case is ignored, for ASCII letters only. -/
def sameLetters (s t : String) : Bool :=
  s.toList.map Char.toLower == t.toList.map Char.toLower

/-- The first header with a name, whatever its case. -/
def findHeader? (headers : List (String × String)) (name : String) : Option String :=
  (headers.find? fun (k, _) => sameLetters k name).map (·.2)

namespace Request

/-- The method of a request that names none. -/
def defaultMethod : String := "GET"

/-- A request without headers and body. -/
def bare (method url : String) : Request := { url, method, headers := [], body := none }

/-- The first header with a name, whatever its case. -/
def header? (r : Request) (name : String) : Option String := findHeader? r.headers name

/-- The body, unless there is nothing in it. -/
def nonEmptyBody? (r : Request) : Option String := r.body.filter (· ≠ "")

/-- The request in a few words. -/
def summary (r : Request) : String := r.method ++ " " ++ r.url

/-- Headers as an object. -/
def headersValue (headers : List (String × String)) : Value :=
  .object (headers.map fun (k, v) => (k, .string v))

/-- The body, null where it is absent. -/
def bodyValue : Option String → Value
  | some s => .string s
  | none => .null

/-- The request as JSON on one line. -/
def compact (r : Request) : String :=
  (Value.object [("url", .string r.url), ("method", .string r.method),
    ("headers", headersValue r.headers), ("body", bodyValue r.body)]).compact

/-- How many characters of a body are shown. -/
def previewLength : Nat := 200

/-- The beginning of a body, and dots if that is not all of it. -/
def preview (body : String) : String :=
  let cs := body.toList
  String.ofList (cs.take previewLength) ++ (if cs.length > previewLength then "..." else "")

/-- One line for each header, each begun by a mark. -/
def headerLines (mark : String) (headers : List (String × String)) : String :=
  String.join (headers.map fun (k, v) => "\n" ++ mark ++ " " ++ k ++ ": " ++ v)

/-- The request as it is shown to the user: method and URL, headers, beginning of the body. -/
def diagnostics (r : Request) : String :=
  "> " ++ r.summary ++ headerLines ">" r.headers ++
  match r.nonEmptyBody? with
  | some body => "\n> body: " ++ preview body
  | none => ""

/-- What a request is called where another value stands in its place. -/
def expected : String := "struct RequestDescriptor"

/-- What is known of a request while its fields are read. -/
structure Draft where
  url : Option String := none
  method : Option String := none
  headers : Option (List (String × String)) := none
  body : Option (Option String) := none

/-- Reads one field; other names are passed over. -/
def Draft.read (d : Draft) (name : String) (v : Value) : Except DecodeError Draft :=
  if name = "url" then (Decoder.string v).map fun s => { d with url := some s }
  else if name = "method" then (Decoder.string v).map fun s => { d with method := some s }
  else if name = "headers" then (Decoder.texts v).map fun h => { d with headers := some h }
  else if name = "body" then
    (Decoder.optional Decoder.string v).map fun b => { d with body := some b }
  else .ok d

/-- A field that was read, or the error that it is missing. -/
def require {α : Type} (name : String) : Option α → Except DecodeError α
  | some a => .ok a
  | none => .error (.missingField name)

/-- The request that the fields of a draft make up; only the body may be missing. -/
def Draft.finish (d : Draft) : Except DecodeError Request := do
  let url ← require "url" d.url
  let method ← require "method" d.method
  let headers ← require "headers" d.headers
  pure { url, method, headers, body := d.body.join }

/-- Reads a request from an object, or from the list of its four fields. -/
def decode : Decoder Request
  | .object fields => do
    let d ← fields.foldlM (fun d (name, v) => d.read name v) ({} : Draft)
    d.finish
  | .array items => do
    let names := ["url", "method", "headers", "body"]
    let d ← (names.zip items).foldlM (fun d (name, v) => d.read name v) ({} : Draft)
    if items.length < 4 then
      .error (.wrongLength items.length (expected ++ " with 4 elements"))
    else if items.length > 4 then
      .error (.wrongLength items.length "fewer elements in array")
    else d.finish
  | v => .error (.wrongKind v expected)

end Request

end CallBook

import CallBook.Json.Printer
import CallBook.Text.Blank
import CallBook.Text.Search
/-!
# Catalog entries

An entry describes one HTTP call by name: templates for its URL, headers and body.  It is read
from a record of fields, of which six have a meaning; the others are kept.  `ofRecord` reads
every record: fields that should be text are rendered if they are not.
-/

namespace CallBook

open Json (Value Fields)

/-- One call of a catalog. -/
structure Entry where
  service : String
  name : String
  url : Option String
  method : Option String
  headers : Value
  body : Option String
  extra : Fields
deriving Repr, BEq

namespace Entry

/-- An entry that has a name and nothing else. -/
def named (service name : String) : Entry :=
  { service, name, url := none, method := none, headers := .null, body := none, extra := [] }

/-- The fields of a record that have a meaning. -/
def knownNames : List String := ["service", "name", "url", "method", "headers", "body"]

/-- The text of a field: null counts as absent, and what is not text is written as JSON. -/
def fieldText (record : Fields) (name : String) : Option String :=
  match Fields.get? record name with
  | none | some .null => none
  | some (.string s) => some s
  | some v => some v.compact

/-- The entry that a record describes. -/
def ofRecord (record : Fields) : Entry where
  service := (fieldText record "service").getD ""
  name := (fieldText record "name").getD ""
  url := fieldText record "url"
  method := fieldText record "method"
  headers := (Fields.get? record "headers").getD .null
  body := fieldText record "body"
  extra := record.filter fun (name, _) => !knownNames.contains name

/-- The name under which an entry is listed. -/
def id (e : Entry) : String := e.service ++ "." ++ e.name

/-- The service and the name in a listed name: its first two parts between dots, empty where
there are none. -/
def splitId (id : String) : String × String :=
  match Text.splitAt '.' id.toList with
  | service :: name :: _ => (String.ofList service, String.ofList name)
  | [service] => (String.ofList service, "")
  | [] => ("", "")

/-- The entry has exactly this service and name. -/
def isNamed (e : Entry) (service name : String) : Bool := e.service == service && e.name == name

/-- What introduces a bearer token in place of headers. -/
def bearerMark : String := "BEARER "

/-- The template of the bearer token, if the headers are given by one. -/
def bearer? (e : Entry) : Option String :=
  match e.headers with
  | .string s =>
    (Text.stripStart? bearerMark.toList s.toList).map fun rest => String.ofList (Text.trim rest)
  | _ => none

/-- A field that is written only if it has a value. -/
def optionalMember (name : String) (text : Option String) : List (String × Value) :=
  match text with
  | some s => [(name, .string s)]
  | none => []

/-- The fields of an entry in the order in which they are written. -/
def members (e : Entry) : List (String × Value) :=
  [("service", .string e.service), ("name", .string e.name)] ++
  optionalMember "url" e.url ++ optionalMember "method" e.method ++
  [("headers", e.headers)] ++ optionalMember "body" e.body ++ e.extra

/-- The record that describes an entry. -/
def toRecord (e : Entry) : Fields := Fields.ofList e.members

/-- The entry as JSON on one line, its fields in the order of `members`. -/
def compact (e : Entry) : String := (Value.object e.members).compact

/-- The entry as JSON over several lines, its fields in the order of `members`. -/
def pretty (e : Entry) : String := (Value.object e.members).pretty

end Entry

/-- The first entry with a service and name. -/
def firstNamed? (entries : List Entry) (service name : String) : Option Entry :=
  entries.find? (·.isNamed service name)

/-- The entries whose listed name contains a text; the empty text is in every name. -/
def filterEntries (entries : List Entry) (pattern : String) : List Entry :=
  entries.filter fun e => Text.occurs pattern.toList e.id.toList

end CallBook

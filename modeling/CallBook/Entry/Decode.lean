import CallBook.Entry
import CallBook.Json.Decode
/-!
# Strict reading of entries

`Entry.decode` reads what `Entry.toRecord` writes and refuses everything whose known fields
have the wrong type.  Service and name must be there; the other known fields may be absent
or, the headers apart, null.
-/

namespace CallBook.Entry

open Json (Value DecodeError Decoder)

/-- What an entry is called where another value stands in its place. -/
def expected : String := "struct ApiDescriptor"

/-- What is known of an entry while its fields are read. -/
structure Draft where
  service : Option String := none
  name : Option String := none
  url : Option String := none
  method : Option String := none
  headers : Value := .null
  body : Option String := none
  extra : List (String × Value) := []

/-- Reads one field. -/
def Draft.read (d : Draft) (field : String) (v : Value) : Except DecodeError Draft :=
  let optional := Decoder.optional Decoder.string
  if field = "service" then (Decoder.string v).map fun s => { d with service := some s }
  else if field = "name" then (Decoder.string v).map fun s => { d with name := some s }
  else if field = "url" then (optional v).map fun s => { d with url := s }
  else if field = "method" then (optional v).map fun s => { d with method := s }
  else if field = "headers" then .ok { d with headers := v }
  else if field = "body" then (optional v).map fun s => { d with body := s }
  else .ok { d with extra := d.extra ++ [(field, v)] }

/-- The entry that the fields of a draft make up. -/
def Draft.finish (d : Draft) : Except DecodeError Entry :=
  match d.service, d.name with
  | none, _ => .error (.missingField "service")
  | some _, none => .error (.missingField "name")
  | some service, some name =>
    .ok { service, name, url := d.url, method := d.method, headers := d.headers,
          body := d.body, extra := d.extra }

/-- Reads an entry from an object. -/
def decode : Decoder Entry
  | .object fields =>
    match fields.foldlM (fun d (field, v) => d.read field v) ({} : Draft) with
    | .error e => .error e
    | .ok d => d.finish
  | v => .error (.wrongKind v expected)

end CallBook.Entry

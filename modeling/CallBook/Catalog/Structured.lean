import CallBook.Entry
import CallBook.Toml.Parser
/-!
# Structured catalogs

A structured catalog is a TOML document whose table `apis` has a field for each entry.  The
name of the field is the listed name of the entry, and the field is its record; where the
record itself has a service or a name, that counts.
-/

namespace CallBook.Catalog.Structured

open Json (Fields)

/-- The table that holds the entries. -/
def tableName : String := "apis"

/-- What a listed name says of an entry: a service, and a name if there is a dot. -/
def identity (id : String) : Fields :=
  match Text.splitAt '.' id.toList with
  | service :: name :: _ =>
    [("name", .string (String.ofList name)), ("service", .string (String.ofList service))]
  | [service] => [("service", .string (String.ofList service))]
  | [] => []

/-- The record's own fields; a value that is no table has none. -/
def ownFields (v : Toml.Value) : Fields :=
  match v.toJson with
  | .object fields => fields
  | _ => []

/-- The record of an entry: its own fields above what its listed name says. -/
def record (id : String) (v : Toml.Value) : Fields :=
  (ownFields v).foldl (fun fields (name, value) => fields.insert name value) (identity id)

/-- The entries of a document, in its order. -/
def ofTable (document : Toml.Table) : List Entry :=
  match document.lookup tableName with
  | some (.table apis) => apis.map fun (id, v) => Entry.ofRecord (record id v)
  | _ => []

/-- The entries of a catalog, unless it is no TOML document. -/
def entries (text : String) : Option (List Entry) := (Toml.parse text).map ofTable

end CallBook.Catalog.Structured

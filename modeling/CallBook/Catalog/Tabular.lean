import CallBook.Entry
import CallBook.Json.Parser
import CallBook.Log
import CallBook.Text.Lines
/-!
# Tabular catalogs

The first line that is not blank names the columns, separated by blanks.  Every later line
that is not blank is a row: fields separated by single spaces.  A double quote switches
quoting on and off; in quotes a space belongs to the field and a doubled quote is one quote.

The field `null` has no value.  A field outside the column `body` that begins with a brace is
read as JSON, and kept as text if it is none.  Fields beyond the last column are dropped, and
columns beyond the last field are absent.
-/

namespace CallBook.Catalog.Tabular

open Json (Value Fields)

/-- Cuts a row into its first field and the others, where `quoted` says whether it begins
inside quotes. -/
def cut : Bool → List Char → List Char × List (List Char)
  | _, [] => ([], [])
  | true, '"' :: '"' :: cs => ('"' :: (cut true cs).1, (cut true cs).2)
  | quoted, c :: cs =>
    if c = '"' then cut (!quoted) cs
    else if c = ' ' ∧ !quoted then ([], (cut quoted cs).1 :: (cut quoted cs).2)
    else (c :: (cut quoted cs).1, (cut quoted cs).2)

/-- The fields of a row; there is always one. -/
def row (line : List Char) : List (List Char) := (cut false line).1 :: (cut false line).2

/-- The fields of a row, as strings. -/
def rowFields (line : String) : List String := (row line.toList).map String.ofList

/-- The column whose fields are never read as JSON. -/
def bodyColumn : String := "body"

/-- The JSON value of a text, or the text itself. -/
def jsonOrText (text : String) : Value :=
  match Json.parse text with
  | .ok v => v
  | .error _ => .string text

/-- The value of a field in a column. -/
def decode (column field : String) : Value :=
  if field = "null" then .null
  else if column ≠ bodyColumn ∧ field.toList.head? = some '{' then jsonOrText field
  else .string field

/-- The fields of a row with their columns. -/
def cells (columns : List String) (line : List Char) : List (String × String) :=
  columns.zip ((row line).map String.ofList)

/-- The record of a row. -/
def record (columns : List String) (line : List Char) : Fields :=
  Fields.ofList ((cells columns line).map fun (column, field) => (column, decode column field))

/-- The lines of a catalog that count, without the carriage returns at their ends. -/
def contentLines (text : List Char) : List (List Char) :=
  ((Text.lines text).map (Text.dropEndWhile (· = '\r'))).filter (!Text.allBlank ·)

/-- The columns and the rows of a catalog. -/
def table (text : String) : List String × List (List Char) :=
  match contentLines text.toList with
  | [] => ([], [])
  | header :: rows => ((Text.words header).map String.ofList, rows)

/-- The records of a catalog, one for each row. -/
def records (text : String) : List Fields :=
  (table text).2.map (record (table text).1)

/-- The entries of a catalog, one for each row. -/
def entries (text : String) : List Entry := (records text).map Entry.ofRecord

/-- A note on a field that looks like JSON and is none. -/
def fieldNote? (column field : String) : Option Log.Note :=
  if column ≠ bodyColumn ∧ field.toList.head? = some '{' then
    match Json.parse field with
    | .ok _ => none
    | .error e => some ⟨.trace, "apicli::catalog::txt",
        "Keeping field as text, not valid JSON (" ++ e.message ++ "): " ++ field⟩
  else none

/-- What is noted of a catalog that is read. -/
def notes (text : String) : List Log.Note :=
  (table text).2.flatMap fun line =>
    (cells (table text).1 line).filterMap fun (column, field) => fieldNote? column field

end CallBook.Catalog.Tabular

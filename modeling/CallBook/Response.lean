import CallBook.Request
import CallBook.Text.Utf8
/-!
# Responses

A response holds what the server answered: status, headers in their order, and the body as
bytes.
-/

namespace CallBook

open Json (Value)

/-- An HTTP response. -/
structure Response where
  status : Nat
  statusText : String
  url : String
  headers : List (String × String)
  body : List UInt8
deriving Repr, DecidableEq

namespace Response

/-- The body as text; parts that are not UTF-8 are replaced. -/
def text (r : Response) : String := String.ofList (Text.decodeLossy r.body)

/-- The first header with a name, whatever its case. -/
def header? (r : Response) (name : String) : Option String := findHeader? r.headers name

/-- The status says that the request succeeded. -/
def isSuccess (r : Response) : Bool := 200 ≤ r.status && r.status < 300

/-- The response as it is shown to the user: status and headers. -/
def diagnostics (r : Response) : String :=
  "< " ++ toString r.status ++ " " ++ r.statusText ++ Request.headerLines "<" r.headers

/-- A natural number as a value. -/
def natValue (n : Nat) : Value := .number (.integer n)

/-- The response as JSON on one line, with the time it took left at zero. -/
def compact (r : Response) : String :=
  (Value.object [
    ("status", natValue r.status), ("status_text", .string r.statusText),
    ("url", .string r.url),
    ("headers", .array (r.headers.map fun (k, v) => .array [.string k, .string v])),
    ("body", .array (r.body.map fun b => natValue b.toNat)),
    ("duration", .object [("secs", natValue 0), ("nanos", natValue 0)])]).compact

end Response

end CallBook

import CallBook.Entry
import CallBook.Request
import CallBook.Template.Walk
/-!
# Resolving an entry

The templates of an entry become a request, in this order: URL, headers, body.  The first
failure counts.

Headers are either a bearer template, which stands for an authorization header and a JSON
content type, or an object whose values become text; without headers there are none.

A body is trimmed.  If it contains the provider snippet, the first occurrence of it names the
provider, or goes if there is no provider.  Then the body is substituted.
-/

namespace CallBook

open Json (Value)

namespace Provider

/-- The variable that names a provider. -/
def variableName : String := "PROVIDER"

/-- The place in the snippet where the provider is named. -/
def token : String := "$PROVIDER"

/-- The part of a body that chooses a provider. -/
def snippet : String := ", \"provider\": \x7b\"order\": [\"$PROVIDER\"]\x7d"

/-- The snippet that names a provider. -/
def named (provider : String) : List Char :=
  Text.replaceFirst token.toList provider.toList snippet.toList

/-- A body in which the first snippet names a provider, or is removed if none is given. -/
def inject (body : String) (provider : Option String) : String :=
  String.ofList (match provider.filter (· ≠ "") with
    | some p => Text.replaceFirst snippet.toList (named p) body.toList
    | none => Text.replaceFirst snippet.toList [] body.toList)

end Provider

/-- Why an entry cannot be resolved. -/
inductive ResolveError where
  | unresolved (cause : Template.Unresolved)
  | invalidHeaders (entry : String) (found : Value)
deriving Repr, BEq

/-- What the user is told. -/
def ResolveError.message : ResolveError → String
  | .unresolved cause => cause.message
  | .invalidHeaders entry found =>
    "Headers of " ++ entry ++ " must be a map or a BEARER string, got: " ++ found.compact

namespace Entry

/-- Substitution as a step of resolving. -/
def substitute (scope : Scope) (template : String) : Except ResolveError String :=
  (Template.substitute scope template).mapError .unresolved

/-- The text of a header: a string itself, everything else as JSON. -/
def headerText : Value → String
  | .string s => s
  | v => v.compact

/-- The headers that a bearer token stands for. -/
def bearerHeaders (token : String) : List (String × String) :=
  [("Authorization", "Bearer " ++ token), ("Content-Type", "application/json")]

/-- The headers of an entry. -/
def resolveHeaders (scope : Scope) (e : Entry) : Except ResolveError (List (String × String)) :=
  match e.bearer? with
  | some template => (substitute scope template).map bearerHeaders
  | none =>
    match (Template.walk scope e.headers).mapError .unresolved with
    | .error err => .error err
    | .ok .null => .ok []
    | .ok (.object fields) => .ok (fields.map fun (name, v) => (name, headerText v))
    | .ok other => .error (.invalidHeaders e.id other)

/-- The body template of an entry, trimmed and with the provider named. -/
def bodyTemplate (provider : Option String) (body : String) : String :=
  Provider.inject (String.ofList (Text.trim body.toList)) provider

/-- The body of an entry. -/
def resolveBody (scope : Scope) (body : String) : Except ResolveError String :=
  substitute scope (bodyTemplate (scope.direct? Provider.variableName) body)

/-- The request that an entry describes. -/
def resolve (scope : Scope) (e : Entry) : Except ResolveError Request := do
  let url ← substitute scope (e.url.getD "")
  let headers ← e.resolveHeaders scope
  let body ← match e.body with
    | some body => (resolveBody scope body).map some
    | none => pure none
  pure { url, method := e.method.getD Request.defaultMethod, headers, body }

end Entry

end CallBook

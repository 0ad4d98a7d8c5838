import CallBook.Log
import CallBook.Request.Resolve
/-!
# Notes on resolving

What is noted while an entry is resolved: each variable that has its value from an alias, in
the order in which the templates are substituted, and the request that comes of it.  Nothing is
noted behind the first failure.
-/

namespace CallBook

open Json (Value)

namespace Template

mutual

/-- The strings of a value in the order in which they are visited. -/
def strings : Value → List String
  | .string s => [s]
  | .array items => itemStrings items
  | .object fields => fieldStrings fields
  | .null => []
  | .bool _ => []
  | .number _ => []

/-- The strings of items. -/
def itemStrings : List Value → List String
  | [] => []
  | v :: vs => strings v ++ itemStrings vs

/-- The strings of the values of fields. -/
def fieldStrings : List (String × Value) → List String
  | [] => []
  | (_, v) :: rest => strings v ++ fieldStrings rest

end

/-- A note on a placeholder whose variable has its value from an alias. -/
def Piece.note? (scope : Scope) : Piece → Option Log.Note
  | .placeholder _ name =>
    if scope.usesAlias (String.ofList name) then
      some ⟨.trace, "apicli::variables::substitution",
        "Resolved variable " ++ String.ofList name ++ " through an alias"⟩
    else none
  | _ => none

/-- What is noted when templates are substituted one after the other, up to the first piece
that has no value. -/
def notes (scope : Scope) (templates : List String) : List Log.Note :=
  let pieces := templates.flatMap fun template => scan template.toList
  (pieces.takeWhile fun p => (p.value scope.lookup?).toOption.isSome).filterMap
    (Piece.note? scope)

end Template

namespace Entry

/-- Can the headers be resolved, as far as their kind goes? -/
def hasUsableHeaders (e : Entry) : Bool :=
  e.bearer?.isSome ||
    match e.headers with
    | .null | .object _ => true
    | _ => false

/-- The templates of an entry in the order in which they are substituted. -/
def templates (scope : Scope) (e : Entry) : List String :=
  let headers := match e.bearer? with
    | some template => [template]
    | none => Template.strings e.headers
  let body := match e.body with
    | some body => [bodyTemplate (scope.direct? Provider.variableName) body]
    | none => []
  e.url.getD "" :: (headers ++ if e.hasUsableHeaders then body else [])

/-- What is noted when an entry is resolved. -/
def notes (scope : Scope) (e : Entry) : List Log.Note :=
  Template.notes scope (e.templates scope) ++
    match e.resolve scope with
    | .ok r => [⟨.debug, "apicli::request", "Resolved " ++ e.id ++ " to " ++ r.summary⟩]
    | .error _ => []

end Entry

end CallBook

import CallBook.Template.Piece
/-!
# Substitution

The value of a template is the values of its pieces, one after the other.  A value that is
put in is not scanned again.
-/

namespace CallBook.Template

/-- A required variable has no value. -/
structure Unresolved where
  name : String
deriving Repr, DecidableEq

/-- What the user is told. -/
def Unresolved.message (e : Unresolved) : String := "Variable " ++ e.name ++ " is required"

/-- The value of one piece, where `lookup` gives the values of variables. -/
def Piece.value (lookup : String → Option String) : Piece → Except Unresolved (List Char)
  | .literal c => .ok [c]
  | .dollar => .ok ['$']
  | .placeholder required name =>
    match lookup (String.ofList name) with
    | some value => .ok value.toList
    | none => if required then .error ⟨String.ofList name⟩ else .ok []

/-- The values of pieces, one after the other, or the error of the first that has one. -/
def value (lookup : String → Option String) : List Piece → Except Unresolved (List Char)
  | [] => .ok []
  | p :: ps =>
    match p.value lookup with
    | .error e => .error e
    | .ok v =>
      match value lookup ps with
      | .error e => .error e
      | .ok vs => .ok (v ++ vs)

/-- The value of a template. -/
def substitute (scope : Scope) (template : String) : Except Unresolved String :=
  (value scope.lookup? (scan template.toList)).map String.ofList

end CallBook.Template

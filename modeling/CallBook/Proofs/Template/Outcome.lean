import CallBook.Proofs.Template.Cut
import CallBook.Template.Substitute
/-!
# What a template comes to

A piece has a text whatever the variables are, and it may miss a value that it requires.  With
these two the substitution of a template is one equation: the first value that is missing
decides, and otherwise the texts of the pieces stand one after the other (`substitute_eq`).

Several templates that are substituted one after the other miss what the first of them misses
that misses anything (`Scope.firstMissing?_append`), which is what the laws on headers and
requests are stated with.

The main statement, `substitute_of_unique_cut`, says all of it without `scan` and `lookup?`: by
the one cut of the template, and by the values that are looked at for a variable.
-/

namespace CallBook

/-! ## 1. Where a variable has its value from -/

/-- What is looked at for a variable, in order: the override and the environment's value of the
variable itself, and then the same two of each of its aliases as the table has them.  The
aliases of an alias are not among them. -/
def Scope.sources (s : Scope) (name : String) : List (Option String) :=
  s.overrides.get? name :: s.environment.get? name ::
    ((s.aliases.aliases? name).getD []).flatMap fun other =>
      [s.overrides.get? other, s.environment.get? other]

/-- The first value that is there, the empty text included. -/
def Scope.firstDefined? (s : Scope) (name : String) : Option String :=
  (s.sources name).findSome? id

theorem Scope.findSome?_direct? (s : Scope) : ∀ names : List String,
    names.findSome? s.direct? =
      (names.flatMap fun n => [s.overrides.get? n, s.environment.get? n]).findSome? id
  | [] => rfl
  | n :: names => by
    have ih := Scope.findSome?_direct? s names
    rw [List.findSome?_cons, List.flatMap_cons, List.findSome?_append, ih, Scope.direct?]
    cases s.overrides.get? n <;> cases s.environment.get? n <;> rfl

/-- A look-up finds the first value that is there. -/
theorem Scope.lookup?_eq_firstDefined? (s : Scope) (name : String) :
    s.lookup? name = s.firstDefined? name :=
  Scope.findSome?_direct? s (s.candidates name)

namespace Template

/-! ## 2. Pieces -/

/-- The text of a piece; a variable without a value has none. -/
def Piece.text (lookup : String → Option String) : Piece → List Char
  | .literal c => [c]
  | .dollar => ['$']
  | .placeholder _ name => ((lookup (String.ofList name)).getD "").toList

/-- The variable of a piece, if the piece requires its value and there is none. -/
def Piece.missing? (lookup : String → Option String) : Piece → Option String
  | .placeholder true name =>
    if lookup (String.ofList name) = none then some (String.ofList name) else none
  | _ => none

theorem Piece.value_eq (lookup : String → Option String) (p : Piece) :
    p.value lookup =
      match p.missing? lookup with
      | some name => .error ⟨name⟩
      | none => .ok (p.text lookup) := by
  cases p with
  | literal c => rfl
  | dollar => rfl
  | placeholder required name =>
    cases h : lookup (String.ofList name) with
    | none => cases required <;> simp [Piece.value, Piece.missing?, Piece.text, h]
    | some v => cases required <;> simp [Piece.value, Piece.missing?, Piece.text, h]

/-- **Pieces one after the other.**  The first that misses a value decides. -/
theorem value_eq (lookup : String → Option String) : ∀ ps : List Piece,
    value lookup ps =
      match ps.findSome? (Piece.missing? lookup) with
      | some name => .error ⟨name⟩
      | none => .ok (ps.flatMap (Piece.text lookup))
  | [] => rfl
  | p :: ps => by
    rw [value, Piece.value_eq, List.findSome?_cons, value_eq lookup ps, List.flatMap_cons]
    cases p.missing? lookup with
    | some name => rfl
    | none => cases ps.findSome? (Piece.missing? lookup) <;> rfl

end Template

/-! ## 3. Templates -/

namespace Scope

/-- The first value that is missing when templates are substituted one after the other. -/
def firstMissing? (s : Scope) (templates : List String) : Option String :=
  (templates.flatMap fun t => Template.scan t.toList).findSome? (Template.Piece.missing? s.lookup?)

/-- The text of a template, which has nothing in the place of a value that is missing. -/
def text (s : Scope) (template : String) : String :=
  String.ofList ((Template.scan template.toList).flatMap (Template.Piece.text s.lookup?))

@[simp] theorem firstMissing?_nil (s : Scope) : s.firstMissing? [] = none := rfl

theorem firstMissing?_append (s : Scope) (ts us : List String) :
    s.firstMissing? (ts ++ us) = (s.firstMissing? ts).or (s.firstMissing? us) := by
  rw [firstMissing?, List.flatMap_append, List.findSome?_append]
  rfl

end Scope

namespace Template

theorem substitute_eq (scope : Scope) (template : String) :
    substitute scope template =
      match scope.firstMissing? [template] with
      | some name => .error ⟨name⟩
      | none => .ok (scope.text template) := by
  rw [substitute, value_eq, Scope.firstMissing?, List.flatMap_singleton]
  cases (scan template.toList).findSome? (Piece.missing? scope.lookup?) <;> rfl

/-- **A template has one cut, and its pieces decide.**  The substitution of a template is the
texts of the pieces of its only cut, unless a piece requires a variable that no source defines;
then it is the error that names the first such variable. -/
theorem substitute_of_unique_cut (scope : Scope) (template : String) :
    ∃ pieces, (∀ ps, Cut template.toList ps ↔ ps = pieces) ∧
      substitute scope template =
        match pieces.findSome? (Piece.missing? scope.firstDefined?) with
        | some name => .error ⟨name⟩
        | none => .ok (String.ofList (pieces.flatMap (Piece.text scope.firstDefined?))) := by
  have hlookup : scope.lookup? = scope.firstDefined? := funext scope.lookup?_eq_firstDefined?
  refine ⟨scan template.toList, fun ps => cut_iff, ?_⟩
  rw [substitute, value_eq, hlookup]
  cases (scan template.toList).findSome? (Piece.missing? scope.firstDefined?) <;> rfl

end Template

end CallBook

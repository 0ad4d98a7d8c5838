import CallBook.Proofs.Results
import CallBook.Proofs.Template.Joint
/-!
# Templates that are put together

There are two ways to get a template from parts, and for both the substitution of the whole is
that of the parts, one after the other.

* One template stands behind another (`substitute_append`).  The first must leave nothing over: it
  must not end with a dollar that stands for itself, nor with such a dollar and a mark, and if it
  ends with a variable, the second must not go on with the name.
* A template is written for what it is to say (`substitute_draft`).  A draft lists texts and
  variables; in a text each dollar is written twice.  Only what stands behind a variable matters:
  it must not go on with the name.  A text may begin and end with anything, so doubling the
  dollars makes a template of any text that stands for just this text.
-/

namespace CallBook.Template

/-! ## 1. One template behind another -/

/-- No dollar is left over at the end of the pieces, alone or with a mark behind it. -/
structure Settled (ps : List Piece) : Prop where
  dollar : ¬ [.literal '$'] <:+ ps
  mark : ¬ [.literal '$', .literal '!'] <:+ ps

/-- The last of the pieces is a placeholder. -/
def EndsWithVariable (ps : List Piece) : Prop :=
  ∃ required name, [.placeholder required name] <:+ ps

theorem Settled.meets {ps : List Piece} {rest : List Char} (h : Settled ps)
    (hname : EndsWithVariable ps → EndsName rest) : Meets ps rest where
  dollar hs := absurd hs h.dollar
  mark hs := absurd hs h.mark
  name required name hs := hname ⟨required, name, hs⟩

/-- The values of pieces in two groups, of which the first that misses a value decides. -/
theorem value_append (lookup : String → Option String) (ps qs : List Piece) :
    value lookup (ps ++ qs) =
      match value lookup ps with
      | .error e => .error e
      | .ok v =>
        match value lookup qs with
        | .error e => .error e
        | .ok w => .ok (v ++ w) := by
  rw [value_eq, value_eq lookup ps, value_eq lookup qs, List.findSome?_append, List.flatMap_append]
  cases ps.findSome? (Piece.missing? lookup) with
  | some name => rfl
  | none => cases qs.findSome? (Piece.missing? lookup) <;> rfl

/-- **One template behind another.**  If the first leaves nothing over, the two are substituted as
if each stood alone: their texts stand one after the other, or the error is that of the first, or
else that of the second. -/
theorem substitute_append (scope : Scope) {a b : String} (h : Settled (scan a.toList))
    (hname : EndsWithVariable (scan a.toList) → EndsName b.toList) :
    substitute scope (a ++ b) =
      match substitute scope a with
      | .error e => .error e
      | .ok x =>
        match substitute scope b with
        | .error e => .error e
        | .ok y => .ok (x ++ y) := by
  rw [substitute, String.toList_append, scan_append (h.meets hname), value_append, substitute,
    substitute]
  cases value scope.lookup? (scan a.toList) with
  | error e => rfl
  | ok v =>
    cases value scope.lookup? (scan b.toList) with
    | error e => rfl
    | ok w => exact congrArg Except.ok (String.ofList_append ..)

/-! ### A dollar, a variable and an escape in front of a name -/

theorem substitute_append_of_escape :
    Settled (scan "cost $1: $$$A".toList) ∧ EndsName "-$!B".toList ∧
      substitute ⟨.ofList [("A", "$"), ("B", "b")], .empty, .standard⟩
        ("cost $1: $$$A" ++ "-$!B") = .ok "cost $1: $$-b" := by
  have hsettled : Settled (scan "cost $1: $$$A".toList) :=
    ⟨by decide +kernel, by decide +kernel⟩
  have hends : EndsName "-$!B".toList := by decide
  have hfirst : substitute ⟨.ofList [("A", "$"), ("B", "b")], .empty, .standard⟩
      "cost $1: $$$A" = .ok "cost $1: $$" := eq_ok_of_toOption (by decide +kernel)
  have hsecond : substitute ⟨.ofList [("A", "$"), ("B", "b")], .empty, .standard⟩
      "-$!B" = .ok "-b" := eq_ok_of_toOption (by decide +kernel)
  refine ⟨hsettled, hends, ?_⟩
  rw [substitute_append _ hsettled fun _ => hends, hfirst, hsecond]
  rfl

/-! ## 2. Drafts -/

/-- The piece that stands for a character. -/
def Piece.ofChar (c : Char) : Piece := if c = '$' then .dollar else .literal c

/-- A text with each dollar written twice. -/
def escaped (cs : List Char) : List Char := cs.flatMap fun c => if c = '$' then ['$', '$'] else [c]

/-- Something that a template is to say: a text, or the value of a variable. -/
inductive Part where
  | text (text : String)
  | place (required : Bool) (name : List Char) (isName : IsName name)

namespace Part

/-- A part as it is written in a template. -/
def source : Part → List Char
  | text t => escaped t.toList
  | place false name _ => '$' :: name
  | place true name _ => '$' :: '!' :: name

/-- What a part comes to; a variable without a value comes to nothing. -/
def value (scope : Scope) : Part → String
  | text t => t
  | place _ name _ => (scope.lookup? (String.ofList name)).getD ""

/-- The variable of a part, if the part requires its value and there is none. -/
def missing? (scope : Scope) : Part → Option String
  | place true name _ =>
    if scope.lookup? (String.ofList name) = none then some (String.ofList name) else none
  | _ => none

/-- The pieces that a part is cut into. -/
def pieces : Part → List Piece
  | text t => t.toList.map Piece.ofChar
  | place required name _ => [.placeholder required name]

end Part

/-- Parts as they are written, one after the other. -/
def written (parts : List Part) : List Char := parts.flatMap Part.source

/-- No name goes on into what is written behind it. -/
def Apart : List Part → Prop
  | [] => True
  | .text _ :: parts => Apart parts
  | .place _ _ _ :: parts => EndsName (written parts) ∧ Apart parts

instance decidableApart : (parts : List Part) → Decidable (Apart parts)
  | [] => isTrue trivial
  | .text _ :: parts => decidableApart parts
  | .place _ _ _ :: parts => @instDecidableAnd _ _ _ (decidableApart parts)

/-- What a template is to say, part by part. -/
structure Draft where
  parts : List Part
  apart : Apart parts

namespace Draft

/-- The template of a draft. -/
def template (d : Draft) : String := String.ofList (written d.parts)

/-- The draft of a text. -/
def ofText (text : String) : Draft := ⟨[.text text], trivial⟩

theorem written_ofText (text : String) :
    written (Draft.ofText text).parts = escaped text.toList :=
  List.flatMap_singleton ..

end Draft

/-! ### The parts are found again -/

/-- Escaped text is cut into its characters, whatever follows it. -/
theorem scan_escaped_append (rest : List Char) : ∀ cs : List Char,
    scan (escaped cs ++ rest) = cs.map Piece.ofChar ++ scan rest
  | [] => rfl
  | c :: cs => by
    have ih := scan_escaped_append rest cs
    rw [escaped] at ih ⊢
    rw [List.flatMap_cons, List.append_assoc, List.map_cons, List.cons_append, ← ih]
    by_cases hc : c = '$'
    · subst hc
      exact scan_cons '$' _
    · rw [if_neg hc, List.singleton_append, scan_cons, readPiece_literal hc, Piece.ofChar,
        if_neg hc]

/-- **The parts are found again** in the template that is written from them. -/
theorem scan_written : ∀ {parts : List Part}, Apart parts →
    scan (written parts) = parts.flatMap Part.pieces
  | [], _ => by rw [written, List.flatMap_nil, scan, List.flatMap_nil]
  | .text t :: parts, h => by
    have ih := @scan_written parts h
    rw [written, List.flatMap_cons, ← written, Part.source, scan_escaped_append, ih]
    rfl
  | .place false name isName :: parts, h => by
    have ih := scan_written h.2
    rw [written, List.flatMap_cons, ← written, Part.source, List.cons_append, scan_cons,
      readPiece_optional isName h.1, ih]
    rfl
  | .place true name isName :: parts, h => by
    have ih := scan_written h.2
    rw [written, List.flatMap_cons, ← written, Part.source, List.cons_append, List.cons_append,
      scan_cons, readPiece_required isName h.1, ih]
    rfl

/-! ### What the parts come to -/

theorem Piece.text_ofChar (lookup : String → Option String) (c : Char) :
    (Piece.ofChar c).text lookup = [c] := by
  by_cases hc : c = '$' <;> simp [Piece.ofChar, hc, Piece.text]

theorem Piece.missing?_ofChar (lookup : String → Option String) (c : Char) :
    (Piece.ofChar c).missing? lookup = none := by
  by_cases hc : c = '$' <;> simp [Piece.ofChar, hc, Piece.missing?]

variable (scope : Scope)

theorem Part.text_pieces (p : Part) :
    p.pieces.flatMap (Piece.text scope.lookup?) = (p.value scope).toList := by
  cases p with
  | text t =>
    rw [pieces, List.flatMap_map, funext (Piece.text_ofChar scope.lookup?), List.flatMap_singleton']
    rfl
  | place required name isName => exact List.flatMap_singleton ..

theorem Part.missing?_pieces (p : Part) :
    p.pieces.findSome? (Piece.missing? scope.lookup?) = p.missing? scope := by
  cases p with
  | text t =>
    rw [pieces, List.findSome?_map]
    exact List.findSome?_eq_none_iff.2 fun c _ => Piece.missing?_ofChar scope.lookup? c
  | place required name isName => cases required <;> simp [pieces, missing?, Piece.missing?]

/-- Of parts the first that misses a value is the one whose piece does. -/
theorem missing?_pieces : ∀ parts : List Part,
    (parts.flatMap Part.pieces).findSome? (Piece.missing? scope.lookup?) =
      parts.findSome? (Part.missing? scope)
  | [] => rfl
  | p :: parts => by
    rw [List.flatMap_cons, List.findSome?_append, p.missing?_pieces, missing?_pieces parts,
      List.findSome?_cons]
    cases p.missing? scope <;> rfl

theorem substitute_written {parts : List Part} (h : Apart parts) :
    substitute scope (String.ofList (written parts)) =
      match parts.findSome? (Part.missing? scope) with
      | some name => .error ⟨name⟩
      | none => .ok (String.join (parts.map (Part.value scope))) := by
  have htext : String.ofList ((parts.flatMap Part.pieces).flatMap (Piece.text scope.lookup?)) =
      String.join (parts.map (Part.value scope)) := by
    rw [← String.toList_inj, String.toList_ofList, String.toList_join, List.flatMap_assoc,
      List.flatMap_map, funext (Part.text_pieces scope)]
  rw [substitute, String.toList_ofList, scan_written h, value_eq, missing?_pieces, ← htext]
  cases parts.findSome? (Part.missing? scope) <;> rfl

/-- **Drafts.**  The template of a draft comes to the texts of the draft and the values of its
variables, one after the other, unless a variable that it requires has no value; then it is the
error that names the first such variable.  So a text whose dollars are doubled comes to that text,
whatever the variables are. -/
theorem substitute_draft (d : Draft) :
    (substitute scope d.template =
      match d.parts.findSome? (Part.missing? scope) with
      | some name => .error ⟨name⟩
      | none => .ok (String.join (d.parts.map (Part.value scope)))) ∧
    ∀ text : String, substitute scope (String.ofList (escaped text.toList)) = .ok text := by
  refine ⟨substitute_written scope d.apart, fun text => ?_⟩
  have hjoin : String.join ((Draft.ofText text).parts.map (Part.value scope)) = text := by
    simp [Draft.ofText, Part.value]
  have htext := substitute_written scope (Draft.ofText text).apart
  rwa [hjoin, Draft.written_ofText] at htext

/-! ### A draft whose texts reach for what stands around them -/

example :
    (Draft.mk [.text "a$", .place false "A".toList (by decide),
      .place true "B".toList (by decide), .text "$!b", .place false "C".toList (by decide),
      .text "-1"] (by decide)).template = "a$$$A$!B$$!b$C-1" := by
  decide

end CallBook.Template

import CallBook.Variables
/-!
# Template pieces

A template is text with placeholders.  `$$` stands for a dollar, `$NAME` for a variable that
may be missing, `$!NAME` for one that may not.  A name is a letter or underscore and then the
longest run of letters, digits and underscores, all of them ASCII.  A dollar that begins none
of these is itself.

`scan` cuts a template into its pieces from left to right, and `Piece.source` gives back the
text of a piece, so nothing is lost: `scan_source`.
-/

namespace CallBook.Template

/-- The characters that begin a name. -/
def isNameStart (c : Char) : Bool := c.isAlpha || c = '_'

/-- The characters that continue a name. -/
def isNameRest (c : Char) : Bool := c.isAlphanum || c = '_'

/-- One piece of a template. -/
inductive Piece where
  /-- A character that stands for itself. -/
  | literal (c : Char)
  /-- `$$`, which stands for one dollar. -/
  | dollar
  /-- `$NAME`, or `$!NAME` if a value is required. -/
  | placeholder (required : Bool) (name : List Char)
deriving Repr, DecidableEq

namespace Piece

/-- The text of a piece in a template. -/
def source : Piece → List Char
  | literal c => [c]
  | dollar => ['$', '$']
  | placeholder required name => '$' :: (if required then '!' :: name else name)

end Piece

/-- The name that a text begins with, and what follows it. -/
def readName? : List Char → Option (List Char × List Char)
  | [] => none
  | c :: cs =>
    if isNameStart c then some (c :: cs.takeWhile isNameRest, cs.dropWhile isNameRest) else none

/-- The first piece of a text that begins with `c`, and what follows the piece. -/
def readPiece (c : Char) (cs : List Char) : Piece × List Char :=
  if c ≠ '$' then (.literal c, cs)
  else
    match cs with
    | '$' :: rest => (.dollar, rest)
    | '!' :: rest =>
      match readName? rest with
      | some (name, rest) => (.placeholder true name, rest)
      | none => (.literal '$', cs)
    | _ =>
      match readName? cs with
      | some (name, rest) => (.placeholder false name, rest)
      | none => (.literal '$', cs)

theorem readName?_source {cs name rest : List Char} (h : readName? cs = some (name, rest)) :
    name ++ rest = cs := by
  cases cs with
  | nil => simp [readName?] at h
  | cons c cs =>
    by_cases hc : isNameStart c = true
    · simp only [readName?, hc, if_true, Option.some.injEq, Prod.mk.injEq] at h
      obtain ⟨rfl, rfl⟩ := h
      simp [List.takeWhile_append_dropWhile]
    · simp [readName?, hc] at h

/-- A piece and what follows it are the text they were read from. -/
theorem readPiece_source (c : Char) (cs : List Char) :
    (readPiece c cs).1.source ++ (readPiece c cs).2 = c :: cs := by
  unfold readPiece
  split
  · rfl
  · rename_i hc
    have hc : c = '$' := by simpa using hc
    subst hc
    split
    · rfl
    · split
      · rename_i h; simp [Piece.source, readName?_source h]
      · rfl
    · split
      · rename_i h; simp [Piece.source, readName?_source h]
      · rfl

theorem Piece.source_ne_nil (p : Piece) : p.source ≠ [] := by
  cases p <;> simp [Piece.source]

theorem readPiece_length (c : Char) (cs : List Char) :
    (readPiece c cs).2.length ≤ cs.length := by
  have h := congrArg List.length (readPiece_source c cs)
  have := List.length_pos_iff.2 (readPiece c cs).1.source_ne_nil
  simp only [List.length_append, List.length_cons] at h
  omega

/-- The pieces of a template. -/
def scan : List Char → List Piece
  | [] => []
  | c :: cs => (readPiece c cs).1 :: scan (readPiece c cs).2
termination_by cs => cs.length
decreasing_by
  have := readPiece_length c cs
  simp only [List.length_cons]
  omega

/-- The pieces of a template, written one after the other, are the template. -/
theorem scan_source (cs : List Char) : (scan cs).flatMap Piece.source = cs := by
  fun_induction scan cs with
  | case1 => rfl
  | case2 c cs ih => simp [ih, readPiece_source]

end CallBook.Template

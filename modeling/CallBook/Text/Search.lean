/-!
# Finding a text within a text

`splitFirst` cuts at the leftmost occurrence; the searches and the single replacement are
read off that cut.
-/

namespace CallBook.Text

/-- What follows `pattern` at the start of the text, if the text starts with it. -/
def stripStart? : List Char → List Char → Option (List Char)
  | [], cs => some cs
  | _ :: _, [] => none
  | p :: pattern, c :: cs => if p = c then stripStart? pattern cs else none

theorem stripStart?_eq_some_iff {pattern cs rest : List Char} :
    stripStart? pattern cs = some rest ↔ cs = pattern ++ rest := by
  induction pattern generalizing cs with
  | nil => simp [stripStart?]
  | cons p pattern ih =>
    cases cs with
    | nil => simp [stripStart?]
    | cons c cs =>
      by_cases h : p = c
      · simp [stripStart?, h, ih]
      · simp [stripStart?, h, Ne.symm h]

/-- The text before and after the leftmost occurrence of `pattern`. -/
def splitFirst (pattern : List Char) : List Char → Option (List Char × List Char)
  | [] => (stripStart? pattern []).map ([], ·)
  | c :: cs =>
    match stripStart? pattern (c :: cs) with
    | some rest => some ([], rest)
    | none => (splitFirst pattern cs).map fun (before, after) => (c :: before, after)

/-- Does `pattern` occur in the text? -/
def occurs (pattern cs : List Char) : Bool := (splitFirst pattern cs).isSome

/-- The text with the leftmost occurrence of `pattern` replaced. -/
def replaceFirst (pattern replacement cs : List Char) : List Char :=
  match splitFirst pattern cs with
  | some (before, after) => before ++ replacement ++ after
  | none => cs

/-- The text cut at every `separator`; there is one piece more than there are separators. -/
def splitAt (separator : Char) : List Char → List (List Char)
  | [] => [[]]
  | c :: cs =>
    if c = separator then [] :: splitAt separator cs
    else
      match splitAt separator cs with
      | [] => [[c]]
      | piece :: pieces => (c :: piece) :: pieces

/-- What precedes and what follows the first `separator`. -/
def splitOnce (separator : Char) : List Char → Option (List Char × List Char)
  | [] => none
  | c :: cs =>
    if c = separator then some ([], cs)
    else (splitOnce separator cs).map fun (before, after) => (c :: before, after)

end CallBook.Text

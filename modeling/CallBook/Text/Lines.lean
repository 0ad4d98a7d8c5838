/-!
# Lines

A line ends at a line feed; one carriage return before it belongs to the line end.  What
follows the last line feed is a line only if it is not empty.
-/

namespace CallBook.Text

/-- The text up to the first line feed, and what follows it if there is one. -/
def splitLine : List Char → List Char × Option (List Char)
  | [] => ([], none)
  | c :: rest =>
    if c = '\n' then ([], some rest)
    else
      let (line, more) := splitLine rest
      (c :: line, more)

theorem splitLine_length : ∀ {cs rest : List Char},
    (splitLine cs).2 = some rest → rest.length < cs.length
  | [], _, h => by simp [splitLine] at h
  | c :: cs, rest, h => by
    unfold splitLine at h
    split at h
    · simp at h; subst h; simp
    · have hlen : rest.length < cs.length := splitLine_length (by simpa using h)
      simp only [List.length_cons]; omega

/-- The text without one carriage return at its end. -/
def dropReturn (line : List Char) : List Char :=
  match line.reverse with
  | '\r' :: front => front.reverse
  | _ => line

/-- The lines of a text. -/
def lines (cs : List Char) : List (List Char) :=
  match _h : splitLine cs with
  | (line, some rest) => dropReturn line :: lines rest
  | (line, none) => if line.isEmpty then [] else [line]
termination_by cs.length
decreasing_by exact splitLine_length (by rw [_h])

end CallBook.Text

/-!
# TOML strings

Basic strings stand in double quotes and know escapes; literal strings stand in single quotes
and do not.  Both come in a form with three quotes at each end that may span lines: a line
break right after the opening quotes is dropped, and every other line break is a line feed.

Every reader here answers the text of the string and what follows its closing quote.
-/

namespace CallBook.Toml

/-- What a reader answers: what it read and what follows it, unless there is no such thing. -/
abbrev Read (α : Type) := Option (α × List Char)

/-- A blank within a line. -/
def isSpace (c : Char) : Bool := c = ' ' || c = '\t'

def skipSpace (cs : List Char) : List Char := cs.dropWhile isSpace

/-- A character that may stand in comments and in strings: a tab, or anything that is not a
control character. -/
def isVisible (c : Char) : Bool := c = '\t' || (' ' ≤ c && c ≠ '\x7f')

/-- What follows a line break, if the text begins with one. -/
def newline? : List Char → Option (List Char)
  | '\n' :: rest => some rest
  | '\r' :: '\n' :: rest => some rest
  | _ => none

theorem newline?_length {cs rest : List Char} (h : newline? cs = some rest) :
    rest.length < cs.length := by
  unfold newline? at h
  split at h <;> simp only [Option.some.injEq, reduceCtorEq] at h <;> subst h <;>
    simp only [List.length_cons] <;> omega

/-- The text without the line break that it may begin with. -/
def dropNewline (cs : List Char) : List Char := (newline? cs).getD cs

/-- The text without the blanks and line breaks that it begins with. -/
def skipBlankLines : List Char → List Char
  | [] => []
  | [c] => if isSpace c || c = '\n' then [] else [c]
  | c :: d :: cs =>
    if isSpace c || c = '\n' then skipBlankLines (d :: cs)
    else if c = '\r' ∧ d = '\n' then skipBlankLines cs
    else c :: d :: cs

theorem skipBlankLines_length : ∀ (cs : List Char), (skipBlankLines cs).length ≤ cs.length
  | [] => by simp [skipBlankLines]
  | [c] => by unfold skipBlankLines; split <;> simp
  | c :: d :: cs => by
    unfold skipBlankLines
    split
    · exact Nat.le_succ_of_le (skipBlankLines_length (d :: cs))
    · split
      · exact Nat.le_succ_of_le (Nat.le_succ_of_le (skipBlankLines_length cs))
      · exact Nat.le_refl _

/-! ## 1. Escapes -/

/-- The value of a hexadecimal digit. -/
def hexValue? (c : Char) : Option Nat :=
  if c.isDigit then some (c.toNat - '0'.toNat)
  else if 'a' ≤ c ∧ c ≤ 'f' then some (c.toNat - 'a'.toNat + 10)
  else if 'A' ≤ c ∧ c ≤ 'F' then some (c.toNat - 'A'.toNat + 10)
  else none

/-- The character whose code is written in hexadecimal digits. -/
def charOfHex? (digits : List Char) : Option Char :=
  match digits.mapM hexValue? with
  | none => none
  | some values =>
    let n := values.foldl (fun n v => 16 * n + v) 0
    if n.isValidChar then some (Char.ofNat n) else none

/-- A character given by `width` hexadecimal digits. -/
def readHex (width : Nat) (cs : List Char) : Read Char :=
  if (cs.take width).length < width then none
  else (charOfHex? (cs.take width)).map (·, cs.drop width)

/-- What an escape stands for, after its backslash. -/
def readEscape : List Char → Read Char
  | [] => none
  | c :: rest =>
    if c = 'b' then some ('\x08', rest)
    else if c = 't' then some ('\t', rest)
    else if c = 'n' then some ('\n', rest)
    else if c = 'f' then some ('\x0c', rest)
    else if c = 'r' then some ('\r', rest)
    else if c = '"' ∨ c = '\\' then some (c, rest)
    else if c = 'u' then readHex 4 rest
    else if c = 'U' then readHex 8 rest
    else none

theorem readHex_length {width : Nat} {cs rest : List Char} {c : Char}
    (h : readHex width cs = some (c, rest)) : rest.length ≤ cs.length := by
  unfold readHex at h
  split at h
  · cases h
  · obtain ⟨_, _, he⟩ := Option.map_eq_some_iff.mp h
    cases he
    simp [List.length_drop]

theorem readEscape_length {cs rest : List Char} {c : Char}
    (h : readEscape cs = some (c, rest)) : rest.length < cs.length := by
  unfold readEscape at h
  split at h
  · cases h
  · simp only [List.length_cons]
    repeat' split at h
    all_goals first
      | (cases h; omega)
      | exact Nat.lt_succ_of_le (readHex_length h)
      | cases h

/-! ## 2. Strings on one line -/

/-- A basic string, after its opening quote. -/
def readBasic (cs : List Char) : Read (List Char) :=
  match cs with
  | [] => none
  | c :: cs =>
    if c = '"' then some ([], cs)
    else if c = '\\' then
      match _h : readEscape cs with
      | none => none
      | some (e, rest) => (readBasic rest).map fun (text, rest) => (e :: text, rest)
    else if isVisible c then (readBasic cs).map fun (text, rest) => (c :: text, rest)
    else none
termination_by cs.length
decreasing_by
  · exact Nat.lt_succ_of_lt (readEscape_length _h)
  · simp

/-- A literal string, after its opening quote. -/
def readLiteral : List Char → Read (List Char)
  | [] => none
  | c :: cs =>
    if c = '\x27' then some ([], cs)
    else if isVisible c then (readLiteral cs).map fun (text, rest) => (c :: text, rest)
    else none

/-! ## 3. Strings over several lines -/

/-- How many times the text repeats a character at its start. -/
def countStart (c : Char) (cs : List Char) : Nat := (cs.takeWhile (· = c)).length

/-- The end of a string with three quotes at each end, if it is here: up to two quotes before
the closing ones belong to the string. -/
def closing? (quote : Char) (cs : List Char) : Read (List Char) :=
  let n := min (countStart quote cs) 5
  if n < 3 then none else some (List.replicate (n - 3) quote, cs.drop n)

/-- A basic string over several lines, after its opening quotes.  A backslash at the end of a
line drops it, the line break, and all blanks and line breaks that follow. -/
def readBasicLines (cs : List Char) : Read (List Char) :=
  match cs with
  | [] => none
  | c :: rest =>
    match closing? '"' (c :: rest) with
    | some answer => some answer
    | none =>
      if c = '\\' then
        match _h : newline? (skipSpace rest) with
        | some next => readBasicLines (skipBlankLines next)
        | none =>
          match _h : readEscape rest with
          | none => none
          | some (e, rest) => (readBasicLines rest).map fun (text, rest) => (e :: text, rest)
      else
        match _h : newline? (c :: rest) with
        | some rest => (readBasicLines rest).map fun (text, rest) => ('\n' :: text, rest)
        | none =>
          if isVisible c then (readBasicLines rest).map fun (text, rest) => (c :: text, rest)
          else none
termination_by cs.length
decreasing_by
  · have h1 := newline?_length _h
    have h2 := (List.dropWhile_suffix (l := rest) isSpace).length_le
    have h3 := skipBlankLines_length next
    unfold skipSpace at h1
    simp only [List.length_cons]
    omega
  · exact Nat.lt_succ_of_lt (readEscape_length _h)
  · exact newline?_length _h
  · simp

/-- A literal string over several lines, after its opening quotes. -/
def readLiteralLines (cs : List Char) : Read (List Char) :=
  match cs with
  | [] => none
  | c :: rest =>
    match closing? '\x27' (c :: rest) with
    | some answer => some answer
    | none =>
      match _h : newline? (c :: rest) with
      | some rest => (readLiteralLines rest).map fun (text, rest) => ('\n' :: text, rest)
      | none =>
        if isVisible c then (readLiteralLines rest).map fun (text, rest) => (c :: text, rest)
        else none
termination_by cs.length
decreasing_by
  · exact newline?_length _h
  · simp

/-- A string of any form. -/
def readString : List Char → Read (List Char)
  | '"' :: '"' :: '"' :: cs => readBasicLines (dropNewline cs)
  | '\x27' :: '\x27' :: '\x27' :: cs => readLiteralLines (dropNewline cs)
  | '"' :: cs => readBasic cs
  | '\x27' :: cs => readLiteral cs
  | _ => none

end CallBook.Toml

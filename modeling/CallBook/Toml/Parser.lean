import CallBook.Toml.Moments
import CallBook.Toml.Tree
/-!
# Reading TOML documents

A document is read line by line: assignments, headers, comments.  Values nest to a fixed
depth, and names have a bounded number of parts.  `parse` answers the table of a document, or
nothing if the text is no document, assigns what cannot be assigned, or holds a table that
should be a moment and is not.
-/

namespace CallBook.Toml

/-! ## 1. Blanks, comments and names -/

/-- The text without the comment that it may begin with. -/
def skipComment : List Char → List Char
  | '#' :: cs => cs.dropWhile isVisible
  | cs => cs

/-- The text without the blanks, line breaks and comments it begins with.  A comment ends at a
line break.  The bound is the length of the text. -/
def skipLines : Nat → List Char → Option (List Char)
  | 0, cs => some cs
  | bound + 1, cs =>
    match skipSpace cs with
    | '#' :: rest =>
      match newline? (rest.dropWhile isVisible) with
      | some rest => skipLines bound rest
      | none => none
    | rest =>
      match newline? rest with
      | some rest => skipLines bound rest
      | none => some rest

/-- The rest of a line that has nothing more on it but a comment. -/
def endOfLine (cs : List Char) : Option (List Char) :=
  match skipComment (skipSpace cs) with
  | [] => some []
  | rest => newline? rest

/-- A character of a name without quotes. -/
def isBareChar (c : Char) : Bool := c.isAlphanum || c = '-' || c = '_'

/-- One part of a name: bare, or a string on one line. -/
def readPart : List Char → Read String
  | '"' :: cs => (readBasic cs).map fun (text, rest) => (String.ofList text, rest)
  | '\x27' :: cs => (readLiteral cs).map fun (text, rest) => (String.ofList text, rest)
  | cs =>
    let bare := cs.takeWhile isBareChar
    if bare.isEmpty then none else some (String.ofList bare, cs.dropWhile isBareChar)

/-- How many parts a name may have, and how deep values may nest. -/
def greatestDepth : Nat := 79

/-- The parts of a name between points, at most `bound + 1` of them: all but the last, and the
last. -/
def readParts : Nat → List Char → Read (List String × String)
  | bound, cs =>
    match readPart (skipSpace cs) with
    | none => none
    | some (part, rest) =>
      match skipSpace rest with
      | '.' :: rest =>
        match bound with
        | 0 => none
        | bound + 1 =>
          (readParts bound rest).map fun ((path, name), rest) => ((part :: path, name), rest)
      | rest => some (([], part), rest)

/-- A name and the blanks around it. -/
def readName (cs : List Char) : Read (List String × String) :=
  readParts (greatestDepth - 1) cs

/-! ## 2. Values -/

/-- The items of an array up to its bracket.  The bound on their number is the length of the
text. -/
def readItems (item : List Char → Read Value) : Nat → List Char → Read (List Value)
  | 0, _ => none
  | bound + 1, cs =>
    match skipLines cs.length cs with
    | none => none
    | some (']' :: rest) => some ([], rest)
    | some cs =>
      match item cs with
      | none => none
      | some (v, rest) =>
        match skipLines rest.length rest with
        | some (',' :: rest) =>
          (readItems item bound rest).map fun (vs, rest) => (v :: vs, rest)
        | some (']' :: rest) => some ([v], rest)
        | _ => none

/-- An assignment, without the end of its line. -/
def readAssignment (item : List Char → Read Value) (cs : List Char) :
    Read ((List String × String) × Value) :=
  match readName cs with
  | some (name, '=' :: rest) => (item (skipSpace rest)).map fun (v, rest) => ((name, v), rest)
  | _ => none

/-- The assignments between braces, one at least, up to the closing brace. -/
def readAssignments (item : List Char → Read Value) :
    Nat → List Char → Read (List ((List String × String) × Value))
  | 0, _ => none
  | bound + 1, cs =>
    match readAssignment item cs with
    | none => none
    | some (a, rest) =>
      match skipSpace rest with
      | ',' :: rest =>
        (readAssignments item bound rest).map fun (as, rest) => (a :: as, rest)
      | '}' :: rest => some ([a], rest)
      | _ => none

/-- The table between braces, after the opening one. -/
def readInlineTable (item : List Char → Read Value) (cs : List Char) : Read Value :=
  match skipSpace cs with
  | '}' :: rest => some (.table [], rest)
  | cs =>
    match readAssignments item cs.length cs with
    | none => none
    | some (assignments, rest) => (inlineTable assignments).map (.table ·, rest)

/-- A value that is neither array nor table. -/
def readScalar (cs : List Char) : Read Value :=
  match cs with
  | [] => none
  | c :: _ =>
    if c = '"' ∨ c = '\x27' then
      (readString cs).map fun (text, rest) => (.string (String.ofList text), rest)
    else if c = 't' then (afterWord? ['t', 'r', 'u', 'e'] cs).map (.bool true, ·)
    else if c = 'f' then (afterWord? ['f', 'a', 'l', 's', 'e'] cs).map (.bool false, ·)
    else if c = 'i' ∨ c = 'n' then readSpecial cs
    else readNumberOrMoment cs

/-- A value in which arrays and tables nest at most `depth` deep. -/
def readValue : Nat → List Char → Read Value
  | 0, cs =>
    match cs with
    | '[' :: _ => none
    | '{' :: _ => none
    | cs => readScalar cs
  | depth + 1, cs =>
    match cs with
    | '[' :: rest =>
      (readItems (readValue depth) (rest.length + 1) rest).map fun (vs, rest) =>
        (.array vs, rest)
    | '{' :: rest => readInlineTable (readValue depth) rest
    | cs => readScalar cs

/-! ## 3. Documents -/

/-- A line that means something. -/
inductive Line where
  | assignment (name : List String × String) (value : Value)
  | header (header : Header)

/-- The rest of a header after its name and closing brackets. -/
def readHeaderEnd (closing : List Char) (cs : List Char) : Option (List Char) :=
  (afterWord? closing cs).bind endOfLine

/-- A line that means something, with all it spans. -/
def readLine : List Char → Read Line
  | '[' :: '[' :: cs =>
    match readName cs with
    | none => none
    | some ((path, name), rest) =>
      (readHeaderEnd [']', ']'] rest).map (.header (.element path name), ·)
  | '[' :: cs =>
    match readName cs with
    | none => none
    | some ((path, name), rest) =>
      (readHeaderEnd [']'] rest).map (.header (.table path name), ·)
  | cs =>
    match readAssignment (readValue greatestDepth) cs with
    | none => none
    | some ((name, v), rest) => (endOfLine rest).map (.assignment name v, ·)

/-- The lines of a document that mean something.  The bound is the length of the text. -/
def readLines : Nat → List Char → Option (List Line)
  | 0, cs => if cs.isEmpty then some [] else none
  | bound + 1, cs =>
    match skipSpace cs with
    | [] => some []
    | '#' :: rest => (endOfLine ('#' :: rest)).bind (readLines bound)
    | c :: rest =>
      match newline? (c :: rest) with
      | some rest => readLines bound rest
      | none =>
        match readLine (c :: rest) with
        | none => none
        | some (line, rest) => (readLines bound rest).map (line :: ·)

/-- The assignments above all headers, and the sections below them. -/
def sections : List Line → List ((List String × String) × Value) × List Section
  | [] => ([], [])
  | .assignment name v :: lines =>
    let (assignments, rest) := sections lines
    ((name, v) :: assignments, rest)
  | .header header :: lines =>
    let (assignments, rest) := sections lines
    ([], ⟨header, assignments⟩ :: rest)

/-- The text without the mark that it may begin with. -/
def dropByteOrderMark : List Char → List Char
  | '\ufeff' :: cs => cs
  | cs => cs

/-- The table of a document.  The document itself is never a moment. -/
def parse (text : String) : Option Table :=
  let cs := dropByteOrderMark text.toList
  match readLines (cs.length + 1) cs with
  | none => none
  | some lines =>
    let (assignments, sections) := sections lines
    (documentTable assignments sections).bind settleFields

end CallBook.Toml

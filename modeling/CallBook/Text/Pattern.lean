import CallBook.Text.Blank
/-!
# Patterns

A pattern describes texts: characters and classes of them, one after the other, alternatives,
and repetitions, which may be counted.  `Pattern.parse` reads a pattern, and `Pattern.occursIn`
finds whether some part of a text is as it says.  The letters behind backslashes stand for
ASCII classes, blanks apart; flags, names of groups, and edges of words are not read.
-/

namespace CallBook.Text

/-- A pattern. -/
inductive Pattern where
  /-- The empty text. -/
  | blank
  /-- The empty text where the whole text begins. -/
  | start
  /-- The empty text where the whole text ends. -/
  | finish
  /-- A character within some ranges, or one within none of them. -/
  | one (excluded : Bool) (ranges : List (Char × Char))
  | sequence (first second : Pattern)
  | choice (first second : Pattern)
  /-- The same any number of times. -/
  | repeated (inner : Pattern)
deriving Repr, DecidableEq

namespace Pattern

/-! ## 1. Meaning -/

/-- What a step leaves of a text when it is made any number of times.  The bound is the length
of the text; a step that leaves all of it is not made. -/
def anyNumber (step : List Char → List (List Char)) : Nat → List Char → List (List Char)
  | 0, cs => [cs]
  | bound + 1, cs =>
    (cs :: ((step cs).filter (·.length < cs.length)).flatMap (anyNumber step bound)).eraseDups

/-- What is left of a text when a pattern is taken from its front, in all possible ways.  The
whole text has the length `whole`. -/
def rests (whole : Nat) : Pattern → List Char → List (List Char)
  | blank, cs => [cs]
  | start, cs => if cs.length = whole then [cs] else []
  | finish, cs => if cs.isEmpty then [cs] else []
  | one _ _, [] => []
  | one excluded ranges, c :: cs =>
    if (ranges.any fun (low, high) => low ≤ c && c ≤ high) = excluded then [] else [cs]
  | sequence p q, cs => ((p.rests whole cs).flatMap (q.rests whole)).eraseDups
  | choice p q, cs => (p.rests whole cs ++ q.rests whole cs).eraseDups
  | repeated p, cs => anyNumber (p.rests whole) cs.length cs

/-- Does the pattern describe a part of the text that begins at one of its ends `cs`? -/
def occursFrom (p : Pattern) (whole : Nat) : List Char → Bool
  | [] => !(p.rests whole []).isEmpty
  | c :: cs => !(p.rests whole (c :: cs)).isEmpty || p.occursFrom whole cs

/-- Does the pattern describe a part of the text? -/
def occursIn (p : Pattern) (cs : List Char) : Bool := p.occursFrom cs.length cs

/-! ## 2. The written form -/

/-- Why a text is no pattern, and where in it. -/
structure Fault where
  position : Nat
  width : Nat
  reason : String
deriving Repr, DecidableEq

/-- What the user is told. -/
def Fault.message (f : Fault) (source : List Char) : String :=
  "regex parse error:\n    " ++ String.ofList source ++ "\n    " ++
    String.ofList (List.replicate f.position ' ' ++ List.replicate f.width '^') ++
    "\nerror: " ++ f.reason

/-- One character. -/
def literal (c : Char) : Pattern := one false [(c, c)]

/-- The digits. -/
def digits : List (Char × Char) := [('0', '9')]

/-- The characters of words. -/
def wordCharacters : List (Char × Char) := [('0', '9'), ('A', 'Z'), ('_', '_'), ('a', 'z')]

/-- The blanks. -/
def blanks : List (Char × Char) := [('\t', '\r'), (' ', ' '), ('\x85', '\x85'), ('\xa0', '\xa0')]

/-- The ranges that a letter behind a backslash stands for, and whether they are excluded. -/
def named? (c : Char) : Option (Bool × List (Char × Char)) :=
  match c with
  | 'd' => some (false, digits)
  | 'D' => some (true, digits)
  | 'w' => some (false, wordCharacters)
  | 'W' => some (true, wordCharacters)
  | 's' => some (false, blanks)
  | 'S' => some (true, blanks)
  | _ => none

/-- The character that one behind a backslash stands for. -/
def escaped? (c : Char) : Option Char :=
  match c with
  | 'n' => some '\n'
  | 't' => some '\t'
  | 'r' => some '\r'
  | _ => if c.isAlphanum || 0x80 ≤ c.toNat then none else some c

/-- Ranges up to a closing bracket, and what follows it.  A bracket that comes first is a
character, as `first` says. -/
def readRanges (first : Bool) : List Char → Option (List (Char × Char) × List Char)
  | [] => none
  | ']' :: cs =>
    if first then (readRanges false cs).map fun (more, rest) => ((']', ']') :: more, rest)
    else some ([], cs)
  | '\\' :: d :: cs =>
    let ranges := match named? d with
      | some (false, ranges) => ranges
      | _ => [((escaped? d).getD d, (escaped? d).getD d)]
    (readRanges false cs).map fun (more, rest) => (ranges ++ more, rest)
  | c :: '-' :: d :: cs =>
    if d = ']' then some ([(c, c), ('-', '-')], cs)
    else (readRanges false cs).map fun (more, rest) => ((c, d) :: more, rest)
  | c :: cs => (readRanges false cs).map fun (more, rest) => ((c, c) :: more, rest)

/-- A class, behind its opening bracket, and what follows it. -/
def readClass : List Char → Option (Pattern × List Char)
  | '^' :: cs => (readRanges true cs).map fun (ranges, rest) => (one true ranges, rest)
  | cs => (readRanges true cs).map fun (ranges, rest) => (one false ranges, rest)

/-- A group that is being read: where it was opened, the alternatives before the last, and the
parts of the last in reverse. -/
structure Group where
  opened : Nat
  earlier : List Pattern
  parts : List Pattern

namespace Group

/-- A group without anything. -/
def new (opened : Nat) : Group := ⟨opened, [], []⟩

/-- The parts in order. -/
def inOrder (g : Group) : Pattern := g.parts.foldl (fun q p => sequence p q) blank

/-- The group as a pattern. -/
def pattern (g : Group) : Pattern := g.earlier.foldr choice g.inOrder

/-- The group with one more part. -/
def add (g : Group) (p : Pattern) : Group := { g with parts := p :: g.parts }

/-- The group with one more alternative begun. -/
def turn (g : Group) : Group := ⟨g.opened, g.earlier ++ [g.inOrder], []⟩

end Group

/-- How wide the opening of a class is: a bracket, the sign that excludes, and a bracket that is
a character. -/
def openingWidth (cs : List Char) : Nat :=
  let inner := if cs.head? = some '^' then cs.drop 1 else cs
  1 + (cs.length - inner.length) + if inner.head? = some ']' then 1 else 0

/-! ### Repetitions -/

/-- A pattern a number of times. -/
def times (n : Nat) (p : Pattern) : Pattern := (List.replicate n p).foldr sequence blank

/-- A pattern at most a number of times. -/
def atMost (n : Nat) (p : Pattern) : Pattern :=
  (List.replicate n p).foldr (fun q more => choice (sequence q more) blank) blank

/-- How often something is repeated. -/
structure Count where
  least : Nat
  /-- Without it there is no end. -/
  most : Option Nat
deriving Repr, DecidableEq

namespace Count

/-- Is there such a number? -/
def isPossible (c : Count) : Bool := c.most.all (c.least ≤ ·)

/-- A pattern as often as the count says. -/
def apply (c : Count) (p : Pattern) : Pattern :=
  match c.most with
  | none => sequence (times c.least p) (repeated p)
  | some most => sequence (times c.least p) (atMost (most - c.least) p)

end Count

/-- The greatest number that a count may name. -/
def greatestNumber : Nat := UInt32.size - 1

/-- A number with blanks around it, its place in a text of length `total`, and what follows. -/
def readNumber (total : Nat) (cs : List Char) : Except Fault Nat × List Char :=
  let cs := cs.dropWhile isBlank
  let ds := cs.takeWhile Char.isDigit
  let n := ds.foldl (fun n c => 10 * n + (c.toNat - '0'.toNat)) 0
  let fault (reason : String) : Except Fault Nat :=
    .error ⟨total - cs.length, max 1 ds.length, reason⟩
  (if ds.isEmpty then fault "repetition quantifier expects a valid decimal"
   else if greatestNumber < n then fault "decimal literal invalid"
   else .ok n,
   (cs.drop ds.length).dropWhile isBlank)

/-- A count behind its opening brace, up to the closing one, and what follows. -/
def readCount (total : Nat) (cs : List Char) : Except Fault (Count × List Char) := do
  let start := total - (cs.length + 1)
  let unclosed (rest : List Char) : Except Fault (Count × List Char) :=
    .error ⟨start, total - rest.length - start, "unclosed counted repetition"⟩
  let close (count : Count) (rest : List Char) : Except Fault (Count × List Char) :=
    match rest with
    | '}' :: rest =>
      let rest := if rest.head? = some '?' then rest.drop 1 else rest
      if count.isPossible then .ok (count, rest)
      else .error ⟨start, total - rest.length - start,
        "invalid repetition count range, the start must be <= the end"⟩
    | rest => unclosed rest
  let (least, rest) := readNumber total cs
  match rest with
  | [] => unclosed []
  | [','] => unclosed []
  | ',' :: '}' :: _ => close ⟨← least, none⟩ (rest.drop 1)
  | ',' :: more =>
    let least ← least
    let (most, rest) := readNumber total more
    close ⟨least, some (← most)⟩ rest
  | _ =>
    let n ← least
    close ⟨n, some n⟩ rest

/-- What a sign behind a pattern makes of it, if it is one. -/
def repetition? (c : Char) (p : Pattern) : Option Pattern :=
  match c with
  | '*' => some (repeated p)
  | '+' => some (sequence p (repeated p))
  | '?' => some (choice p blank)
  | _ => none

/-- Reads the rest of a pattern, given the group that is open and those around it.  `total` is
the length of all; the bound is that of the rest. -/
def readRest (total : Nat) : Nat → Group → List Group → List Char → Except Fault Pattern
  | _, g, [], [] => .ok g.pattern
  | _, g, _ :: _, [] => .error ⟨g.opened, 1, "unclosed group"⟩
  | 0, g, _, _ => .ok g.pattern
  | bound + 1, g, outer, c :: cs =>
    let position := total - (cs.length + 1)
    match c, cs with
    | '(', '?' :: ':' :: cs => readRest total bound (Group.new position) (g :: outer) cs
    | '(', _ => readRest total bound (Group.new position) (g :: outer) cs
    | ')', _ =>
      match outer with
      | [] => .error ⟨position, 1, "unopened group"⟩
      | around :: outer => readRest total bound (around.add g.pattern) outer cs
    | '|', _ => readRest total bound g.turn outer cs
    | '^', _ => readRest total bound (g.add start) outer cs
    | '$', _ => readRest total bound (g.add finish) outer cs
    | '.', _ => readRest total bound (g.add (one true [('\n', '\n')])) outer cs
    | '[', _ =>
      match readClass cs with
      | some (p, rest) => readRest total bound (g.add p) outer rest
      | none => .error ⟨position, openingWidth cs, "unclosed character class"⟩
    | '\\', [] =>
      .error ⟨position, 1, "incomplete escape sequence, reached end of pattern prematurely"⟩
    | '\\', d :: cs =>
      match named? d, escaped? d with
      | some (excluded, ranges), _ =>
        readRest total bound (g.add (one excluded ranges)) outer cs
      | none, some e => readRest total bound (g.add (literal e)) outer cs
      | none, none => .error ⟨position, 2, "unrecognized escape sequence"⟩
    | '{', _ =>
      match g.parts with
      | [] => .error ⟨position, 1, "repetition operator missing expression"⟩
      | p :: parts =>
        match readCount total cs with
        | .error fault => .error fault
        | .ok (count, rest) =>
          readRest total bound { g with parts := count.apply p :: parts } outer rest
    | _, _ =>
      if c = '*' ∨ c = '+' ∨ c = '?' then
        match g.parts with
        | [] => .error ⟨position, 1, "repetition operator missing expression"⟩
        | p :: parts =>
          -- A question mark behind a repetition asks for the shortest way, which is one of all.
          let cs := if cs.head? = some '?' then cs.drop 1 else cs
          readRest total bound { g with parts := (repetition? c p).getD p :: parts } outer cs
      else readRest total bound (g.add (literal c)) outer cs

/-- The pattern that a text writes. -/
def parse (source : List Char) : Except Fault Pattern :=
  readRest source.length source.length (Group.new 0) [] source

end Pattern

end CallBook.Text

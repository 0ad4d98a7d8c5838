import CallBook.Text.Search
/-!
# Notes on a run

A run keeps notes on what it does: each has a level, the source that it comes from, and a
text.  Notes are written to the standard error, among the other notices, as far as the user
wants to see them.
-/

namespace CallBook

namespace Log

/-- How important a note is, the most important first. -/
inductive Level where
  | error
  | warn
  | info
  | debug
  | trace
deriving Repr, DecidableEq

namespace Level

/-- The name of a level. -/
def name : Level → String
  | error => "ERROR"
  | warn => "WARN"
  | info => "INFO"
  | debug => "DEBUG"
  | trace => "TRACE"

/-- The place of a level, from one on. -/
def rank : Level → Nat
  | error => 1
  | warn => 2
  | info => 3
  | debug => 4
  | trace => 5

/-- The name of a level, filled up to five characters. -/
def column (l : Level) : String :=
  l.name ++ String.ofList (List.replicate (5 - l.name.length) ' ')

end Level

/-- A note. -/
structure Note where
  level : Level
  source : String
  text : String
deriving Repr, DecidableEq

/-- Lines after the first are indented. -/
def indented (text : String) : String :=
  String.ofList (text.toList.flatMap fun c =>
    if c = '\n' then ['\n', ' ', ' ', ' ', ' '] else [c])

/-- How a text looks on a terminal that knows colours. -/
inductive Look where
  | blue
  | boldRed
  | cyan
  | gray
  | green
  | yellow
deriving Repr, DecidableEq

namespace Look

/-- The sequence that turns a look on. -/
def sequence : Look → String
  | blue => "\x1b[34m"
  | boldRed => "\x1b[1m\x1b[31m"
  | cyan => "\x1b[36m"
  | gray => "\x1b[90m"
  | green => "\x1b[32m"
  | yellow => "\x1b[33m"

/-- A text with a look, if colours are wanted. -/
def paint (look : Look) (colored : Bool) (text : String) : String :=
  if colored then look.sequence ++ text ++ "\x1b[0m" else text

end Look

/-- The look of a level. -/
def Level.look : Level → Look
  | error => .boldRed
  | warn => .yellow
  | info => .green
  | debug => .blue
  | trace => .cyan

/-- A note as it is written at a time, in colours or not. -/
def Note.line (colored : Bool) (now : String) (n : Note) : String :=
  Look.gray.paint colored "[" ++ now ++ " " ++ n.level.look.paint colored n.level.column ++
    " " ++ n.source ++ Look.gray.paint colored "]" ++ " " ++ indented n.text ++ "\n"

end Log

/-- Something that is written to the standard error. -/
inductive Notice where
  /-- A text on lines of its own. -/
  | line (text : String)
  /-- A note, which is written with the time. -/
  | note (note : Log.Note)
  /-- How long the call took. -/
  | elapsed
deriving Repr, DecidableEq

/-- A notice as it is written, given whether notes are coloured, the time, and the milliseconds
that the call took. -/
def Notice.text (colored : Bool) (now milliseconds : String) : Notice → String
  | line text => text ++ "\n"
  | note n => n.line colored now
  | elapsed => milliseconds ++ "ms\n"

end CallBook

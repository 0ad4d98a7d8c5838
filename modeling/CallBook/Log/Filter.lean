import CallBook.Log
import CallBook.Text.Pattern
import CallBook.Variables
/-!
# Which notes are written

The user says in a variable which notes are wanted: a list of items separated by commas, and
perhaps a pattern behind a slash.  An item is a level, for all sources, or the beginning of a
source's name, with a level behind an equals sign or without.  Of the items that fit a source
the one with the longest name counts.  An item that cannot be understood is passed over.
-/

namespace CallBook.Log

/-- How much is written of the notes from sources whose names begin with a text. -/
structure Item where
  /-- What the names begin with; without it the item is for all sources. -/
  source : Option String
  /-- The rank up to which notes are written. -/
  rank : Nat
deriving Repr, DecidableEq

/-- Which notes are written. -/
structure Filter where
  items : List Item
  pattern : Option Text.Pattern
deriving Repr, DecidableEq

/-- Why a part of what the user says is passed over. -/
inductive FilterFault where
  | tooManySlashes (all : String)
  | badItem (item : String)
  | badPattern (source : List Char) (cause : Text.Pattern.Fault)
deriving Repr, DecidableEq

/-- What the user is told. -/
def FilterFault.message : FilterFault → String
  | tooManySlashes all => "invalid logging spec \x27" ++ all ++ "\x27 (too many \x27/\x27s)"
  | badItem item => "invalid logging spec \x27" ++ item ++ "\x27"
  | badPattern source cause => "invalid regex filter - " ++ cause.message source

/-- The notice that a part is passed over. -/
def FilterFault.notice (f : FilterFault) : Notice :=
  .line ("warning: " ++ f.message ++ ", ignoring it")

namespace Item

/-- The rank of the least important notes. -/
def greatestRank : Nat := Level.trace.rank

/-- The names of ranks, in small letters. -/
def rankNames : List (String × Nat) :=
  [("off", 0), ("error", 1), ("warn", 2), ("info", 3), ("debug", 4), ("trace", 5)]

/-- The rank that a text names, in any case. -/
def rank? (cs : List Char) : Option Nat :=
  rankNames.lookup (String.ofList (cs.map Char.toLower))

/-- An item from its text. -/
def parse (cs : List Char) : Except FilterFault Item :=
  match Text.splitAt '=' cs with
  | [name] =>
    match rank? (Text.trim name) with
    | some rank => .ok ⟨none, rank⟩
    | none => .ok ⟨some (String.ofList name), greatestRank⟩
  | [name, level] =>
    let level := Text.trim level
    if level.isEmpty then .ok ⟨some (String.ofList name), greatestRank⟩
    else
      match rank? level with
      | some rank => .ok ⟨some (String.ofList (Text.trim name)), rank⟩
      | none => .error (.badItem (String.ofList level))
  | _ => .error (.badItem (String.ofList cs))

/-- Is the item for a source? -/
def fits (i : Item) (source : String) : Bool :=
  match i.source with
  | none => true
  | some start => (Text.stripStart? start.toList source.toList).isSome

/-- How long the name is. -/
def weight (i : Item) : Nat := (i.source.getD "").utf8ByteSize

/-- The items with one more, which replaces the one with the same name. -/
def insert (items : List Item) (i : Item) : List Item :=
  if items.any (·.source = i.source) then
    items.map fun j => if j.source = i.source then i else j
  else items ++ [i]

end Item

namespace Filter

/-- The filter that lets errors through. -/
def errorsOnly : Filter := ⟨[⟨none, Level.error.rank⟩], none⟩

/-- The items of a list and the faults in it. -/
def parseItems (cs : List Char) : List Item × List FilterFault :=
  let texts := ((Text.splitAt ',' cs).map Text.trim).filter (!·.isEmpty)
  texts.foldl (fun (items, faults) text =>
    match Item.parse text with
    | .ok item => (Item.insert items item, faults)
    | .error fault => (items, faults ++ [fault])) ([], [])

/-- The filter with some items and a pattern.  Without items errors are let through. -/
def ofItems (items : List Item) (pattern : Option Text.Pattern) : Filter :=
  ⟨if items.isEmpty then errorsOnly.items else items, pattern⟩

/-- The filter that a text asks for, and what of it is passed over. -/
def parse (spec : String) : Filter × List FilterFault :=
  match Text.splitAt '/' spec.toList with
  | [list] =>
    let (items, faults) := parseItems list
    (ofItems items none, faults)
  | [list, source] =>
    let (items, faults) := parseItems list
    match Text.Pattern.parse source with
    | .ok pattern => (ofItems items (some pattern), faults)
    | .error cause => (ofItems items none, faults ++ [.badPattern source cause])
  | _ => (errorsOnly, [.tooManySlashes spec])

/-- The variable in which the user says what is wanted. -/
def variableName : String := "RUST_LOG"

/-- What is wanted if the user does not say. -/
def usual : String := "warn"

/-- The filter that an environment asks for, and what of it is passed over. -/
def ofEnvironment (environment : Bindings) : Filter × List FilterFault :=
  parse ((environment.get? variableName).getD usual)

/-- The item that counts for a source: of those with the longest name, the last. -/
def itemFor? (f : Filter) (source : String) : Option Item :=
  (f.items.filter (·.fits source)).foldl (fun best i =>
    match best with
    | none => some i
    | some b => if b.weight ≤ i.weight then some i else some b) none

/-- Is a note written? -/
def admits (f : Filter) (n : Note) : Bool :=
  ((f.itemFor? n.source).map fun i => decide (n.level.rank ≤ i.rank)).getD false &&
    ((f.pattern.map fun p => p.occursIn n.text.toList).getD true)

/-- The notices that are written: notes only as far as they are wanted. -/
def apply (f : Filter) (notices : List Notice) : List Notice :=
  notices.filter fun
    | .note n => f.admits n
    | _ => true

end Filter

end CallBook.Log

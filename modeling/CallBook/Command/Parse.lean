import CallBook.Text.Search
/-!
# Command lines

A command line names a command and what it is applied to.  The path of the catalog may be
given anywhere, once before the command and once after it, and the later one counts.  An
option takes its value after an equals sign, or from the next argument unless that looks like
an option itself.  What follows two dashes is never an option.
-/

namespace CallBook.Command

/-- What can be asked for. -/
inductive Action where
  /-- Lists entries, those whose listed name contains a text. -/
  | list (pattern : Option String)
  /-- Says which catalog is read. -/
  | locate
  /-- Shows the entries whose listed name contains a text. -/
  | display (pattern : String)
  /-- Makes a call. -/
  | call (id : String) (overrides : List (String × String)) (query : Option String)
      (debug time : Bool)
deriving Repr, DecidableEq

/-- A command line that asks for something. -/
structure Invocation where
  catalog : Option String
  action : Action
deriving Repr, DecidableEq

/-- What a command line comes to. -/
inductive Parsed where
  | run (invocation : Invocation)
  | version
  | usageError
deriving Repr, DecidableEq

/-! ## 1. Arguments -/

/-- An argument that is looked up among the options. -/
def looksLikeOption (argument : String) : Bool :=
  argument.toList.head? = some '-' && argument ≠ "-"

/-- The value behind an option's name and an equals sign. -/
def attached? (option argument : String) : Option String :=
  (Text.stripStart? (option ++ "=").toList argument.toList).map String.ofList

/-- An option that takes a value, with that value and the arguments that follow. -/
def valueOf? (option : String) (argument : String) (rest : List String) :
    Option (Option (String × List String)) :=
  if argument = option then
    match rest with
    | value :: rest => some (if looksLikeOption value then none else some (value, rest))
    | [] => some none
  else (attached? option argument).map fun value => some (value, rest)

/-- The option that names the catalog. -/
def catalogOption : String := "--config"

/-- The option that asks a query. -/
def queryOption : String := "--jq"

/-- The option that shows request and response. -/
def debugOption : String := "--debug"

/-- The option that shows the time a call took. -/
def timeOption : String := "--time"

/-- What the arguments behind a command have said so far; the operands in reverse. -/
structure Gathered where
  catalog : Option String := none
  query : Option String := none
  debug : Bool := false
  time : Bool := false
  operands : List String := []

namespace Gathered

/-- The catalog named, if that is the first time and it is not empty. -/
def setCatalog (g : Gathered) (path : String) : Option Gathered :=
  if g.catalog.isSome ∨ path = "" then none else some { g with catalog := some path }

/-- The query set, if that is the first time. -/
def setQuery (g : Gathered) (query : String) : Option Gathered :=
  if g.query.isSome then none else some { g with query := some query }

/-- A switch set, if that is the first time. -/
def setSwitch (g : Gathered) (argument : String) : Option Gathered :=
  if argument = debugOption then if g.debug then none else some { g with debug := true }
  else if argument = timeOption then if g.time then none else some { g with time := true }
  else none

/-- An operand added. -/
def push (g : Gathered) (operand : String) : Gathered :=
  { g with operands := operand :: g.operands }

end Gathered

/-- Gathers the arguments behind a command; only calls have options of their own.  The bound is
the number of arguments. -/
def gather (isCall : Bool) : Nat → List String → Gathered → Option Gathered
  | _, [], g => some g
  | 0, _, _ => none
  | bound + 1, argument :: rest, g =>
    if argument = "--" then some (rest.foldl Gathered.push g)
    else if !looksLikeOption argument then gather isCall bound rest (g.push argument)
    else
      match valueOf? catalogOption argument rest with
      | some (some (path, rest)) => (g.setCatalog path).bind (gather isCall bound rest)
      | some none => none
      | none =>
        if !isCall then none
        else
          match valueOf? queryOption argument rest with
          | some (some (query, rest)) => (g.setQuery query).bind (gather isCall bound rest)
          | some none => none
          | none => (g.setSwitch argument).bind (gather isCall bound rest)

/-- A variable and its value, around the first equals sign. -/
def override? (operand : String) : Option (String × String) :=
  match Text.splitOnce '=' operand.toList with
  | some (name, value) =>
    if name.isEmpty then none else some (String.ofList name, String.ofList value)
  | none => none

/-! ## 2. Command lines -/

/-- What a command is asked to do by what was gathered behind it. -/
def action? (command : String) (g : Gathered) : Option Action :=
  match command, g.operands.reverse with
  | "list", [] => some (.list none)
  | "list", [pattern] => some (.list (some pattern))
  | "where", [] => some .locate
  | "show", [pattern] => some (.display pattern)
  | "call", id :: overrides =>
    (overrides.mapM override?).map fun overrides => .call id overrides g.query g.debug g.time
  | _, _ => none

/-- A command and the arguments behind it. -/
def parseCommand (catalog : Option String) (command : String) (rest : List String) : Parsed :=
  match gather (command = "call") rest.length rest {} with
  | none => .usageError
  | some g =>
    match action? command g with
    | none => .usageError
    | some action => .run ⟨g.catalog.or catalog, action⟩

/-- Does the argument ask for the version? -/
def asksVersion (argument : String) : Bool :=
  argument = "--version" ||
    match argument.toList with
    | '-' :: 'V' :: _ => true
    | _ => false

/-- What a command line comes to, given the catalog that is named so far.  The bound is the
number of arguments. -/
def parseFrom : Nat → List String → Option String → Parsed
  | 0, _, _ => .usageError
  | _, [], _ => .usageError
  | bound + 1, argument :: rest, catalog =>
    if asksVersion argument then .version
    else
      match valueOf? catalogOption argument rest with
      | some (some (path, rest)) =>
        if catalog.isSome ∨ path = "" then .usageError else parseFrom bound rest (some path)
      | some none => .usageError
      | none =>
        if looksLikeOption argument then .usageError else parseCommand catalog argument rest

/-- What a command line comes to. -/
def parse (arguments : List String) : Parsed := parseFrom arguments.length arguments none

end CallBook.Command

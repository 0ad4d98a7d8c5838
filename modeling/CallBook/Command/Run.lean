import CallBook.Command.Parse
import CallBook.Log.Colors
import CallBook.Log.Filter
import CallBook.Machine
/-!
# Running commands

A run writes to the standard output what was asked for, and notices to the standard error.  A
command that fails writes nothing but notices, the last of which says why.
-/

namespace CallBook.Command

/-- What a run came to. -/
structure Outcome where
  code : Nat
  output : String
  notices : List Notice
  /-- The requests that were sent. -/
  sent : List Request
  /-- Notes are written in colours. -/
  colored : Bool := false
deriving Repr, DecidableEq

namespace Outcome

/-- A run that did what was asked for. -/
def done (output : String) (notices : List Notice) (sent : List Request) : Outcome :=
  { code := 0, output, notices, sent }

/-- A run that failed after some notices. -/
def failed (notices : List Notice) (sent : List Request) (cause : CallError) : Outcome :=
  { code := 1, output := "", notices := notices ++ [.line ("Error: " ++ cause.message)], sent }

/-- A command line that cannot be understood. -/
def usageError : Outcome := { code := 2, output := "", notices := [], sent := [] }

/-- What is written to the standard error, given the time and the milliseconds that the call
took. -/
def errorText (now milliseconds : String) (o : Outcome) : String :=
  String.join (o.notices.map (Notice.text o.colored now milliseconds))

/-- The outcome with notices before it. -/
def noticed (notices : List Notice) (o : Outcome) : Outcome :=
  { o with notices := notices ++ o.notices }

end Outcome

/-- The name and version of the program. -/
def versionText : String := "apicli 0.2.0\n"

/-- A text that is filled up with blanks to a width. -/
def padded (width : Nat) (s : String) : String :=
  s ++ String.ofList (List.replicate (width - s.length) ' ')

/-- An entry as it is listed. -/
def listLine (e : Entry) : String :=
  padded 32 e.id ++ " " ++ padded 6 (e.method.getD Request.defaultMethod) ++ " " ++
    e.url.getD "" ++ "\n"

/-- What is said when no catalog is found. -/
def notFoundText (searched : List String) : String :=
  "No catalog found (searched: " ++ ", ".intercalate searched ++ ")"

/-- The answer to a call as it is written: the answer to a query, or else JSON over several
lines, or the text as it is. -/
def answerText (a : Answer) : Option String → Except CallError String
  | some query => a.query query
  | none =>
    match a.parsed with
    | .ok v => .ok (v.pretty ++ "\n")
    | .error _ => .ok a.text

/-- What is noted when the answer to a call is written. -/
def answerNotes (query : Option String) : Except CallError Answer → List Notice
  | .ok a => (query.map fun q => (a.queryNotes q).map Notice.note).getD []
  | .error _ => []

/-- Makes a call. -/
def runCall (c : Client) (id : String) (options : CallOptions) (query : Option String)
    (time : Bool) : Outcome :=
  let t := c.get id options
  let notices := t.notices ++ answerNotes query t.result
  match t.result.bind (answerText · query) with
  | .error cause => .failed notices t.sent cause
  | .ok text => .done text (notices ++ if time then [.elapsed] else []) t.sent

/-- Writes something of the entries of the catalog whose listed name contains a text. -/
def runEntries (c : Client) (catalog : Option String) (pattern : String)
    (write : Entry → String) : Outcome :=
  let notices := (c.book.loader.notes c.book.files catalog).map Notice.note
  match c.entries catalog with
  | .error cause => .failed notices [] cause
  | .ok entries => .done (String.join ((filterEntries entries pattern).map write)) notices []

/-- Says which catalog is read. -/
def runLocate (c : Client) (catalog : Option String) : Outcome :=
  match c.book.locate catalog with
  | some path => .done (path ++ "\n") [] []
  | none => .done "" [.line (notFoundText c.book.loader.candidates)] []

/-- Does what a client is asked to. -/
def act (c : Client) (i : Invocation) : Outcome :=
  match i.action with
  | .list pattern => runEntries c i.catalog (pattern.getD "") listLine
  | .locate => runLocate c i.catalog
  | .display pattern => runEntries c i.catalog pattern fun e => e.pretty ++ "\n"
  | .call id overrides query debug time =>
    runCall c id { overrides := Bindings.ofList overrides, catalog := i.catalog, debug }
      query time

/-- The warning about an environment whose timeout is passed over. -/
def warnings (environment : Bindings) : List Notice :=
  match Settings.ignoredTimeout? environment with
  | some raw =>
    [.note ⟨.warn, "apicli::config::schema", Settings.ignoredTimeoutMessage raw⟩]
  | none => []

/-- Does what a command line asks for, with all notices. -/
def runParsed (m : Machine) : Parsed → Outcome
  | .usageError => .usageError
  | .version => .done versionText [] []
  | .run i =>
    match m.client [] with
    | .error cause => .failed (warnings m.environment) [] cause
    | .ok c => (act c i).noticed (warnings m.environment)

/-- Does what a command line asks for.  Notes are written as far as the environment asks for
them, and as it asks; what of its wish is passed over is said first. -/
def run (m : Machine) (arguments : List String) : Outcome :=
  let (filter, faults) := Log.Filter.ofEnvironment m.environment
  let o := runParsed m (parse arguments)
  { o with
    notices := faults.map Log.FilterFault.notice ++ filter.apply o.notices
    colored := Log.areColored m.environment }

end CallBook.Command

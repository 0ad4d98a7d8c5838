import CallBook.Log
import CallBook.Settings
import CallBook.Text.Utf8
/-!
# Queries

A query is answered by an external program, the processor.  It is started with two arguments,
`-r` and the query, and reads the text on its standard input.  What it writes is the answer,
up to a limit, unless it fails.
-/

namespace CallBook

/-- How a program ended. -/
inductive ExitStatus where
  | code (n : Nat)
  /-- A signal ended it; its memory may have been kept. -/
  | signal (n : Nat) (isDumped : Bool := false)
deriving Repr, DecidableEq

namespace ExitStatus

def isSuccess : ExitStatus → Bool
  | code n => n == 0
  | signal .. => false

/-- The usual names of the signals from 1 on. -/
def signalNames : List String :=
  ["SIGHUP", "SIGINT", "SIGQUIT", "SIGILL", "SIGTRAP", "SIGABRT", "SIGBUS", "SIGFPE", "SIGKILL",
   "SIGUSR1", "SIGSEGV", "SIGUSR2", "SIGPIPE", "SIGALRM", "SIGTERM", "SIGSTKFLT", "SIGCHLD",
   "SIGCONT", "SIGSTOP", "SIGTSTP", "SIGTTIN", "SIGTTOU", "SIGURG", "SIGXCPU", "SIGXFSZ",
   "SIGVTALRM", "SIGPROF", "SIGWINCH", "SIGIO", "SIGPWR", "SIGSYS"]

/-- The status in words. -/
def described : ExitStatus → String
  | code n => "exit status: " ++ toString n
  | signal n isDumped =>
    "signal: " ++ toString n ++
    (match n with
    | 0 => ""
    | n + 1 =>
      match signalNames[n]? with
      | some name => " (" ++ name ++ ")"
      | none => "") ++
    if isDumped then " (core dumped)" else ""

end ExitStatus

/-- Why a program cannot be started. -/
inductive StartFailure where
  | notFound
  | notPermitted
  | notDirectory
  | nameTooLong
  /-- A text with a NUL character cannot be handed to a program. -/
  | nulCharacter
  /-- Whatever else the system has to say. -/
  | other (text : String)
deriving Repr, DecidableEq

/-- What the user is told. -/
def StartFailure.message : StartFailure → String
  | notFound => "No such file or directory (os error 2)"
  | notPermitted => "Permission denied (os error 13)"
  | notDirectory => "Not a directory (os error 20)"
  | nameTooLong => "File name too long (os error 36)"
  | nulCharacter => "nul byte found in provided data"
  | other text => text

/-- What a program left behind. -/
structure Outcome where
  output : List UInt8
  errors : List UInt8
  status : ExitStatus
deriving Repr, DecidableEq

/-- A program, seen as a function of its arguments and its standard input. -/
structure Processor where
  run : (arguments : List String) → (input : List UInt8) → Except StartFailure Outcome

namespace Query

/-- Why a query has no answer. -/
inductive QueryError where
  | notStarted (program : String) (cause : StartFailure)
  | failed (status : ExitStatus) (errors : String)
  | tooLarge (limit : UInt64)
deriving Repr, DecidableEq

/-- What the user is told. -/
def QueryError.message : QueryError → String
  | notStarted program cause => "Failed to run " ++ program ++ ": " ++ cause.message
  | failed status errors =>
    let text := Text.trim errors.toList
    if text.isEmpty then "jq exited " ++ status.described else String.ofList text
  | tooLarge limit => "Query output exceeded " ++ toString limit.toNat ++ " bytes"

/-- The query that is run: one that does not begin with a point gets one. -/
def normalize (query : String) : String :=
  if query.toList.head? = some '.' then query else "." ++ query

/-- The arguments that a processor is started with. -/
def arguments (query : String) : List String := ["-r", normalize query]

/-- Where queries are run, and how much they may answer. -/
structure Engine where
  program : String
  limit : UInt64
deriving Repr, DecidableEq

namespace Engine

/-- The engine that uses the usual program and limit. -/
def standard : Engine := ⟨"jq", Settings.standard.maxQueryOutput⟩

def ofSettings (s : Settings) : Engine := ⟨s.jqPath, s.maxQueryOutput⟩

/-- How many bytes are read at most: one more than the limit, counted in 64 bits. -/
def readBound (e : Engine) : UInt64 := e.limit + 1

def hasNul (s : String) : Bool := s.toList.contains '\x00'

/-- Starts the processor, unless its name or an argument cannot be handed over. -/
def start (e : Engine) (processor : Processor) (query text : String) :
    Except StartFailure Outcome :=
  if hasNul e.program || (arguments query).any hasNul then .error .nulCharacter
  else processor.run (arguments query) (Text.encode text.toList)

/-- The text of standard errors; what is not UTF-8 counts as nothing. -/
def errorText (bytes : List UInt8) : String :=
  match Text.decode? bytes with
  | some cs => String.ofList cs
  | none => ""

/-- The answer to a query about a text. -/
def run (e : Engine) (processor : Processor) (query text : String) :
    Except QueryError String :=
  match e.start processor query text with
  | .error cause => .error (.notStarted e.program cause)
  | .ok outcome =>
    let output := outcome.output.take e.readBound.toNat
    if output.length > e.limit.toNat then .error (.tooLarge e.limit)
    else if !outcome.status.isSuccess then
      .error (.failed outcome.status (errorText outcome.errors))
    else .ok (String.ofList (Text.decodeLossy output))

/-- What is noted when a query is answered. -/
def notes (e : Engine) (processor : Processor) (query text : String) : List Log.Note :=
  let note (text : String) : Log.Note := ⟨.debug, "apicli::query", text⟩
  note ("Running " ++ e.program ++ " -r " ++ normalize query) ::
    match e.run processor query text with
    | .error (.failed status errors) =>
      [note ("Query failed with " ++ status.described ++ ": " ++
        String.ofList (Text.trim errors.toList))]
    | _ => []

end Engine

end Query

end CallBook

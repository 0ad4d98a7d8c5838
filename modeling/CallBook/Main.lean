import CallBook.Calendar
import CallBook.Command.Run
import CallBook.Query.Script
import Std.Time.DateTime.Timestamp
/-!
# The program

Reads what a run finds, lets the command run, and writes what it came to.  Everything else is
decided by `Command.run`.  The program reaches neither servers nor other programs: connections
are refused, and queries find no processor.
-/

namespace CallBook.Program

/-- A catalog file as it was read. -/
abbrev Snapshot := List (String × Except ReadFailure String)

/-- The files of a snapshot; nothing else is there. -/
def Snapshot.files (s : Snapshot) : Files where
  isFile path :=
    match s.lookup path with
    | some (.ok _) | some (.error .notText) | some (.error .notPermitted) => true
    | _ => false
  readText path := (s.lookup path).getD (.error .notFound)
  complaint _ := "no TOML document"

/-- The paths that a command line makes a machine read. -/
def neededPaths (m : Machine) (arguments : List String) : List String :=
  match Command.parse arguments with
  | .run i =>
    match i.catalog with
    | some path => [path]
    | none => m.loader.candidates
  | _ => []

/-- The variables in the bytes of an environment block; what is not UTF-8 is left out. -/
def bindingsOf (block : List UInt8) : Bindings :=
  let assignments := (Text.splitAt '\x00' (Text.decodeLossy block)).filterMap fun entry =>
    if entry.contains '\ufffd' then none else Text.splitOnce '=' entry
  Bindings.ofList (assignments.map fun (name, value) =>
    (String.ofList name, String.ofList value))

/-- The number of the failure to read a directory as a file. -/
def directoryCode : UInt32 := 21

/-- The number of the failure to follow a name that is too long. -/
def nameCode : UInt32 := 36

/-- The text at a path. -/
def readPath (path : String) : IO (Except ReadFailure String) := do
  try
    let bytes ← IO.FS.readBinFile path
    match Text.decode? bytes.toList with
    | some cs => pure (.ok (String.ofList cs))
    | none => pure (.error .notText)
  catch
    | .inappropriateType _ code _ =>
      pure (.error (if code = directoryCode then .isDirectory else .notDirectory))
    | .invalidArgument _ code _ =>
      pure (.error (if code = nameCode then .nameTooLong else .notFound))
    | .permissionDenied .. => pure (.error .notPermitted)
    | .noFileOrDirectory .. => pure (.error .notFound)
    | e => pure (.error (.other (toString e)))

/-- The machine that the program runs on, without its files. -/
def machine : IO Machine := do
  let block ← try IO.FS.readBinFile "/proc/self/environ" catch _ => pure ByteArray.empty
  pure {
    files := Snapshot.files []
    environment := bindingsOf block.toList
    homeOnRecord := none
    network := Http.Network.unreachable
    program := fun _ => .missing .notFound }

/-- The time, for warnings. -/
def now : IO String := do
  let t ← Std.Time.Timestamp.now
  pure (String.ofList (Calendar.Moment.ofUnixSeconds t.toSecondsSinceUnixEpoch.val.toNat).text)

/-- Runs the program with some arguments and answers its exit code. -/
def run (arguments : List String) : IO UInt32 := do
  let start ← IO.monoMsNow
  let m ← machine
  let snapshot ← (neededPaths m arguments).mapM fun path => do
    let text ← readPath path
    pure (path, text)
  let outcome := Command.run { m with files := Snapshot.files snapshot } arguments
  IO.print outcome.output
  let time ← now
  let elapsed := toString ((← IO.monoMsNow) - start)
  IO.eprint (outcome.errorText time elapsed)
  pure (UInt32.ofNat outcome.code)

end CallBook.Program

def main (arguments : List String) : IO UInt32 := CallBook.Program.run arguments

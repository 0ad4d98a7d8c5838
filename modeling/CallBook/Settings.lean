import CallBook.Json.Decode
import CallBook.Text.Blank
import CallBook.Variables
/-!
# Settings

Settings say how requests are sent, how answers are queried and where the catalog lives.
They come from a section of a JSON document, where absent fields take their usual values, or
from the environment.  Neither source is trusted: `validate` refuses values that cannot work.
-/

namespace CallBook

open Json (Value DecodeError Decoder Fields)

/-- What the user can set. -/
structure Settings where
  /-- How long a request may take, in milliseconds. -/
  timeout : UInt64
  followRedirects : Bool
  maxRedirects : UInt32
  /-- Whether certificates are checked. -/
  validateSsl : Bool
  /-- The program that answers queries. -/
  jqPath : String
  /-- How many bytes a query may answer. -/
  maxQueryOutput : UInt64
  /-- Where the catalog lives, if not in the home directory. -/
  catalogDir : Option String
deriving Repr, DecidableEq

namespace Settings

/-- The usual settings. -/
def standard : Settings where
  timeout := 30000
  followRedirects := true
  maxRedirects := 10
  validateSsl := true
  jqPath := "jq"
  maxQueryOutput := 50 * 1024 * 1024
  catalogDir := none

/-- Why settings cannot be used. -/
inductive Fault where
  | noTimeout
  | noProcessor
  | noQueryOutput
deriving Repr, DecidableEq

/-- What the user is told. -/
def Fault.message : Fault → String
  | noTimeout => "timeout must be greater than 0"
  | noProcessor => "jqPath must not be empty"
  | noQueryOutput => "maxQueryOutput must be greater than 0"

/-- The first fault of some settings. -/
def fault? (s : Settings) : Option Fault :=
  if s.timeout = 0 then some .noTimeout
  else if Text.allBlank s.jqPath.toList then some .noProcessor
  else if s.maxQueryOutput = 0 then some .noQueryOutput
  else none

/-- Settings replaced by others, except that a catalog directory stays where the others name
none. -/
def merge (s other : Settings) : Settings :=
  { other with catalogDir := other.catalogDir.or s.catalogDir }

/-! ## 1. The written form -/

def decodeUInt64 : Decoder UInt64 := fun v =>
  (Decoder.nat (UInt64.size - 1) "u64" v).map UInt64.ofNat

def decodeUInt32 : Decoder UInt32 := fun v =>
  (Decoder.nat (UInt32.size - 1) "u32" v).map UInt32.ofNat

def decodeSize : Decoder UInt64 := fun v =>
  (Decoder.nat (UInt64.size - 1) "usize" v).map UInt64.ofNat

/-- The fields of settings in the order in which they are written. -/
def fieldNames : List String :=
  ["timeout", "followRedirects", "maxRedirects", "validateSsl", "jqPath", "maxQueryOutput",
   "catalogDir"]

/-- Settings with one field read; other names are passed over. -/
def read (s : Settings) (name : String) (v : Value) : Except DecodeError Settings :=
  if name = "timeout" then (decodeUInt64 v).map fun n => { s with timeout := n }
  else if name = "followRedirects" then
    (Decoder.bool v).map fun b => { s with followRedirects := b }
  else if name = "maxRedirects" then (decodeUInt32 v).map fun n => { s with maxRedirects := n }
  else if name = "validateSsl" then (Decoder.bool v).map fun b => { s with validateSsl := b }
  else if name = "jqPath" then (Decoder.string v).map fun t => { s with jqPath := t }
  else if name = "maxQueryOutput" then
    (decodeSize v).map fun n => { s with maxQueryOutput := n }
  else if name = "catalogDir" then
    (Decoder.optional (Decoder.text "path string") v).map fun d => { s with catalogDir := d }
  else .ok s

/-- What settings are called where another value stands in their place. -/
def expected : String := "struct ApiCliConfig"

/-- Settings with several fields read, in order. -/
def readAll (s : Settings) : List (String × Value) → Except DecodeError Settings
  | [] => .ok s
  | (name, v) :: rest =>
    match s.read name v with
    | .error e => .error e
    | .ok s => readAll s rest

/-- Reads settings from an object, or from a list of their first fields in order.  What is
not there has its usual value. -/
def decode : Decoder Settings
  | .object fields => standard.readAll fields
  | .array items =>
    match standard.readAll (fieldNames.zip items) with
    | .error e => .error e
    | .ok s =>
      if items.length > fieldNames.length then
        .error (.wrongLength items.length "fewer elements in array")
      else .ok s
  | v => .error (.wrongKind v expected)

/-- A natural number as a value. -/
def natValue (n : Nat) : Value := .number (.integer n)

/-- The fields of settings, in the order of `fieldNames`. -/
def members (s : Settings) : List (String × Value) :=
  [("timeout", natValue s.timeout.toNat), ("followRedirects", .bool s.followRedirects),
   ("maxRedirects", natValue s.maxRedirects.toNat), ("validateSsl", .bool s.validateSsl),
   ("jqPath", .string s.jqPath), ("maxQueryOutput", natValue s.maxQueryOutput.toNat)] ++
  match s.catalogDir with
  | some d => [("catalogDir", .string d)]
  | none => []

/-- Settings as a value. -/
def toValue (s : Settings) : Value := .object (Fields.ofList s.members)

/-- Settings as JSON on one line, their fields in the order of `members`. -/
def compact (s : Settings) : String := (Value.object s.members).compact

/-! ## 2. From a document -/

/-- The section of a document that holds the settings. -/
def sectionName : String := "apicli"

/-- What loading settings came to. -/
structure Loaded where
  /-- The settings, unless they cannot be used. -/
  settings : Except Fault Settings
  /-- Why the section was passed over, if it was. -/
  ignored : Option DecodeError

/-- Settings that can be used. -/
def checked (s : Settings) : Except Fault Settings :=
  match s.fault? with
  | some f => .error f
  | none => .ok s

/-- The settings of a document.  A section that cannot be read counts as if it were not
there. -/
def load (document : Option Value) : Loaded :=
  match document.bind (·.field? sectionName) with
  | none => ⟨standard.checked, none⟩
  | some v =>
    match decode v with
    | .ok s => ⟨(standard.merge s).checked, none⟩
    | .error e => ⟨standard.checked, some e⟩

/-- What the user is told of settings that cannot be used. -/
def loadMessage (f : Fault) : String := "Invalid configuration: " ++ f.message

/-! ## 3. From the environment -/

def directoryVariable : String := "APICLI_HOME"
def processorVariable : String := "APICLI_JQ"
def timeoutVariable : String := "APICLI_TIMEOUT"

/-- A number of 64 bits in decimal digits, which a plus sign may precede. -/
def parseUInt64? (cs : List Char) : Option UInt64 :=
  let ds := match cs with
    | '+' :: ds => ds
    | ds => ds
  if ds.isEmpty || !ds.all Char.isDigit then none
  else
    let n := ds.foldl (fun n c => n * 10 + (c.toNat - '0'.toNat)) 0
    if n < UInt64.size then some (UInt64.ofNat n) else none

/-- A timeout that can be used. -/
def parseTimeout? (raw : String) : Option UInt64 :=
  (parseUInt64? (Text.trim raw.toList)).filter (· ≠ 0)

/-- The settings that an environment asks for. -/
def ofEnvironment (environment : Bindings) : Settings :=
  let nonEmpty (name : String) := (environment.get? name).filter (· ≠ "")
  { standard with
    catalogDir := nonEmpty directoryVariable
    jqPath := (nonEmpty processorVariable).getD standard.jqPath
    timeout := ((environment.get? timeoutVariable).bind parseTimeout?).getD standard.timeout }

/-- The timeout of an environment, if it has one that cannot be used. -/
def ignoredTimeout? (environment : Bindings) : Option String :=
  (environment.get? timeoutVariable).filter fun raw => (parseTimeout? raw).isNone

/-- What is logged of a timeout that cannot be used. -/
def ignoredTimeoutMessage (raw : String) : String :=
  "Ignoring invalid " ++ timeoutVariable ++ "=" ++ Text.showQuoted raw

end Settings

end CallBook

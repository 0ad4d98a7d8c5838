import CallBook.Command.Run
import CallBook.Proofs.Client.Outcome
/-!
# What comes of a command

A command comes to a text, which is written to the standard output, or to an error.  `Does` and
`Ends` say which, one rule for each way on: settings, catalog, request, response and query can
fail, in this order and as far as the command needs them, and nothing else can.  An empty
catalog, a pattern that nothing matches, a status that reports a failure and a response that is
no JSON are not failures.

A run keeps to the rules (`run_outcome`).  A failure writes nothing to the standard output, and
the last thing on the standard error is why it failed, whatever the user wants to see of the
notes.  That may be in the words of others: of the system, of the reader of documents, of what
encrypts a connection or of a decoder.  They are parts of the machine, and nothing is assumed of
them.
-/

namespace CallBook.Command

open Json (Value)

/-! ## 1. The rules -/

/-- The commands that write something of every entry whose listed name contains a text. -/
inductive Browses : Action → (pattern : String) → (write : Entry → String) → Prop
  /-- Entries are listed, all of them without a pattern. -/
  | list (pattern : Option String) : Browses (.list pattern) (pattern.getD "") listLine
  /-- Entries are shown as JSON. -/
  | display (pattern : String) : Browses (.display pattern) pattern fun e => e.pretty ++ "\n"

/-- What an answer is written as, given the query if there is one. -/
inductive Written (a : Answer) : Option String → Except CallError String → Prop
  /-- The query has no answer. -/
  | notAnswered {query : String} {cause : Query.QueryError} :
      a.engine.run a.processor query a.text = .error cause →
        Written a (some query) (.error (.query cause))
  /-- The answer to the query is written as it is. -/
  | answered {query output : String} :
      a.engine.run a.processor query a.text = .ok output → Written a (some query) (.ok output)
  /-- Without a query JSON is written over several lines, with a line end behind it. -/
  | json {v : Value} : Json.parse a.text = .ok v → Written a none (.ok (v.pretty ++ "\n"))
  /-- A text that is no JSON is written as it is. -/
  | text {cause : Json.SyntaxError} :
      Json.parse a.text = .error cause → Written a none (.ok a.text)

/-- What a client comes to with what it is asked to do: the text that is written, or an error. -/
inductive Does (c : Client) : Invocation → Except CallError String → Prop
  /-- The entries are asked for, and the catalog is not loaded. -/
  | notLoaded {catalog : Option String} {action : Action} {pattern : String}
      {write : Entry → String} {cause : Catalog.CatalogError} :
      Browses action pattern write → c.book.entries catalog = .error cause →
        Does c ⟨catalog, action⟩ (.error (.catalog cause))
  /-- The entries that match are written, even if there are none. -/
  | browsed {catalog : Option String} {action : Action} {pattern : String}
      {write : Entry → String} {entries : List Entry} :
      Browses action pattern write → c.book.entries catalog = .ok entries →
        Does c ⟨catalog, action⟩ (.ok (String.join ((filterEntries entries pattern).map write)))
  /-- The catalog that is read is named. -/
  | located {catalog : Option String} {path : String} :
      c.book.locate catalog = some path → Does c ⟨catalog, .locate⟩ (.ok (path ++ "\n"))
  /-- No catalog is read. -/
  | notLocated {catalog : Option String} :
      c.book.locate catalog = none → Does c ⟨catalog, .locate⟩ (.ok "")
  /-- The call has no request, or the request has no response. -/
  | notCalled {catalog : Option String} {id service name : String}
      {overrides : List (String × String)} {query : Option String} {debug time : Bool}
      {sent : List Request} {cause : CallError} :
      Entry.FirstParts id service name →
      c.Calls (c.book.request service name (Bindings.ofList overrides) catalog) sent
        (.error cause) →
        Does c ⟨catalog, .call id overrides query debug time⟩ (.error cause)
  /-- The call has a response, whatever its status, and that is written. -/
  | called {catalog : Option String} {id service name : String}
      {overrides : List (String × String)} {query : Option String} {debug time : Bool}
      {sent : List Request} {a : Answer} {result : Except CallError String} :
      Entry.FirstParts id service name →
      c.Calls (c.book.request service name (Bindings.ofList overrides) catalog) sent (.ok a) →
      Written a query result →
        Does c ⟨catalog, .call id overrides query debug time⟩ result

/-- What a machine comes to with what it is asked to do. -/
inductive Ends (m : Machine) (i : Invocation) : Except CallError String → Prop
  /-- The settings of the environment cannot be used. -/
  | badSettings {fault : Settings.Fault} :
      m.settings.fault? = some fault → Ends m i (.error (.settings fault))
  /-- They can, and there is a client. -/
  | done {c : Client} {result : Except CallError String} :
      m.settings.fault? = none → m.client [] = .ok c → Does c i result → Ends m i result

/-! ## 2. What a run shows -/

namespace Outcome

/-- The run shows a text and succeeds, or it shows nothing, fails, and says why at last. -/
def Shows (o : Outcome) : Except CallError String → Prop
  | .ok text => o.code = 0 ∧ o.output = text
  | .error cause =>
    o.code = 1 ∧ o.output = "" ∧
      ∃ before, o.notices = before ++ [.line ("Error: " ++ cause.message)]

variable {o : Outcome} {result : Except CallError String}

/-- Notices before the others change nothing, -/
theorem Shows.noticed (h : o.Shows result) (notices : List Notice) :
    (o.noticed notices).Shows result := by
  cases result with
  | ok text => exact h
  | error cause =>
    obtain ⟨hcode, houtput, before, hbefore⟩ := h
    refine ⟨hcode, houtput, notices ++ before, ?_⟩
    rw [Outcome.noticed, hbefore, List.append_assoc]

/-- and nor does what the user wants to see: the last notice is not a note. -/
theorem Shows.filtered (h : o.Shows result) (filter : Log.Filter) (faults : List Notice)
    (colored : Bool) :
    ({ o with notices := faults ++ filter.apply o.notices, colored } : Outcome).Shows result := by
  cases result with
  | ok text => exact h
  | error cause =>
    obtain ⟨hcode, houtput, before, hbefore⟩ := h
    refine ⟨hcode, houtput, faults ++ filter.apply before, ?_⟩
    simp [hbefore, Log.Filter.apply, List.filter_append]

/-- The standard error of a failure ends with why it failed. -/
theorem Shows.errorText {cause : CallError} (h : o.Shows (.error cause))
    (now milliseconds : String) :
    ∃ before, o.errorText now milliseconds = before ++ ("Error: " ++ cause.message ++ "\n") := by
  obtain ⟨-, -, before, hbefore⟩ := h
  refine ⟨String.join (before.map (Notice.text o.colored now milliseconds)), ?_⟩
  rw [Outcome.errorText, hbefore, List.map_append, String.join_append]
  rfl

end Outcome

/-! ## 3. Clients -/

variable {c : Client} {i : Invocation} {result : Except CallError String}

variable {m : Machine}

/-- A machine on which every file has one text, which is no document. -/
def illegible : Machine where
  files := ⟨fun _ => true, fun _ => .ok "apis", fun text => "expected . or = behind " ++ text⟩
  environment := .empty
  homeOnRecord := none
  network := Http.Network.unreachable
  program := fun _ => ⟨fun _ _ => .error .notFound⟩

/-- What is said of the text comes last. -/
example : (run illegible ["--config", "apis.toml", "list"]).errorText "" "" =
    "Error: Failed to parse catalog apis.toml: expected . or = behind apis\n" := by
  decide +kernel

/-! ## 5. A call that nobody knows -/

/-- A machine without files, servers and programs. -/
def bare : Machine where
  files := ⟨fun _ => false, fun _ => .error .notFound, fun _ => ""⟩
  environment := .empty
  homeOnRecord := none
  network := Http.Network.unreachable
  program := fun _ => ⟨fun _ _ => .error .notFound⟩

end CallBook.Command

import CallBook.Client
import CallBook.Http.Send
/-!
# Machines

A machine is all that a run finds: files, environment, home directory, network and programs.
The settings come from its environment, and everything else follows from them.
-/

namespace CallBook

/-- What a run finds. -/
structure Machine where
  files : Files
  environment : Bindings
  /-- The home directory on record, for an environment that names none. -/
  homeOnRecord : Option String
  network : Http.Network
  /-- The program that a name stands for. -/
  program : String → Processor

namespace Machine

/-- The settings that the environment asks for. -/
def settings (m : Machine) : Settings := Settings.ofEnvironment m.environment

/-- Where the catalog is looked for. -/
def loader (m : Machine) : Catalog.Loader :=
  Catalog.Loader.ofSettings m.settings (homeDirectory m.environment m.homeOnRecord)

/-- What requests are made from. -/
def book (m : Machine) : Book :=
  { files := m.files, loader := m.loader, environment := m.environment,
    aliases := AliasTable.standard }

/-- The entries of the catalog. -/
def entries (m : Machine) (catalog : Option String) : Except CallError (List Entry) :=
  (m.book.entries catalog).mapError .catalog

/-- The first entry of the catalog with a service and name. -/
def find? (m : Machine) (service name : String) (catalog : Option String) :
    Except CallError (Option Entry) :=
  (m.book.find? service name catalog).mapError .catalog

/-- The request for a call. -/
def request (m : Machine) (service name : String) (overrides : Bindings)
    (catalog : Option String) : Except CallError Request :=
  (m.book.request service name overrides catalog).mapError .request

/-- How requests are sent. -/
def policy (m : Machine) : Http.Policy := Http.Policy.ofSettings m.settings

/-- The client of the machine after messages have reached a server, if the settings can be
used. -/
def client (m : Machine) (earlier : List Http.Message) : Except CallError Client :=
  match m.settings.fault? with
  | some fault => .error (.settings fault)
  | none => .ok {
      book := m.book
      transport := Http.transport m.policy m.network earlier
      transportNotes := Http.deliveryNotes m.policy m.network earlier
      engine := Query.Engine.ofSettings m.settings
      processor := m.program m.settings.jqPath }

/-- What the machine's client does, or the failure to have one. -/
def withClient {α : Type} (m : Machine) (earlier : List Http.Message)
    (act : Client → Trace (Except CallError α)) : Trace (Except CallError α) :=
  match m.client earlier with
  | .error cause => ⟨[], [], .error cause⟩
  | .ok c => act c

/-- Makes the call with a service and name. -/
def fetch (m : Machine) (earlier : List Http.Message) (service name : String)
    (options : CallOptions) : Trace (Except CallError Response) :=
  m.withClient earlier fun c => c.fetch service name options

/-- Makes the call with a listed name. -/
def get (m : Machine) (earlier : List Http.Message) (id : String) (options : CallOptions) :
    Trace (Except CallError Answer) :=
  m.withClient earlier fun c => c.get id options

/-- The messages that reached a server, those of some requests in order added. -/
def delivered (m : Machine) (earlier : List Http.Message) (sent : List Request) :
    List Http.Message :=
  sent.foldl (fun earlier r =>
    earlier ++ (Http.deliver m.policy m.network earlier r).sent) earlier

end Machine

end CallBook

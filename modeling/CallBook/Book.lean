import CallBook.Catalog.Loader
import CallBook.Request.Notes
/-!
# Books of calls

A book is all that a request is made from: files, the loader that finds the catalog among
them, the environment and the aliases.  A call of the catalog is looked up by service and name
and resolved; the variables that the caller gives stand above the environment.
-/

namespace CallBook

/-- Why a request cannot be made. -/
inductive RequestError where
  | unknownCall (service name : String)
  | notResolved (cause : ResolveError)
  | notLoaded (cause : Catalog.CatalogError)
deriving Repr, BEq

/-- What the user is told. -/
def RequestError.message : RequestError → String
  | unknownCall service name => "Unknown API: " ++ service ++ "." ++ name
  | notResolved cause => cause.message
  | notLoaded cause => cause.message

/-- What requests are made from. -/
structure Book where
  files : Files
  loader : Catalog.Loader
  environment : Bindings
  aliases : AliasTable

namespace Book

/-- The variables in sight when some are given. -/
def scope (b : Book) (overrides : Bindings) : Scope :=
  { overrides, environment := b.environment, aliases := b.aliases }

/-- The path that the catalog is read from. -/
def locate (b : Book) (explicit : Option String) : Option String :=
  b.loader.locate b.files explicit

/-- The entries of the catalog. -/
def entries (b : Book) (explicit : Option String) :
    Except Catalog.CatalogError (List Entry) :=
  b.loader.entries b.files explicit

/-- The first entry of the catalog with a service and name. -/
def find? (b : Book) (service name : String) (explicit : Option String) :
    Except Catalog.CatalogError (Option Entry) :=
  b.loader.find? b.files service name explicit

/-- The request for a call of the catalog. -/
def request (b : Book) (service name : String) (overrides : Bindings)
    (explicit : Option String) : Except RequestError Request :=
  match b.entries explicit with
  | .error cause => .error (.notLoaded cause)
  | .ok entries =>
    match firstNamed? entries service name with
    | none => .error (.unknownCall service name)
    | some entry => (entry.resolve (b.scope overrides)).mapError .notResolved

/-- What is noted when the request for a call is made. -/
def requestNotes (b : Book) (service name : String) (overrides : Bindings)
    (explicit : Option String) : List Log.Note :=
  b.loader.notes b.files explicit ++
    match b.entries explicit with
    | .error _ => []
    | .ok entries =>
      match firstNamed? entries service name with
      | none => []
      | some entry => entry.notes (b.scope overrides)

end Book

end CallBook

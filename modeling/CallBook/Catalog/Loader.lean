import CallBook.Catalog.Structured
import CallBook.Catalog.Tabular
import CallBook.FileTree
import CallBook.Settings
/-!
# Loading catalogs

A catalog is read afresh whenever it is needed.  An explicit path is used as it is given;
otherwise the first candidate in the loader's directory that is a file is read, and without
one the catalog is empty.
-/

namespace CallBook

namespace Catalog

/-- Why a catalog cannot be loaded. -/
inductive CatalogError where
  | unreadable (path : String) (cause : ReadFailure)
  /-- The text at a path should be a document and is none, for which there is a complaint. -/
  | malformed (path : String) {complaint : String}
deriving Repr, DecidableEq

/-- What the user is told. -/
def CatalogError.message : CatalogError → String
  | unreadable path cause => "Failed to read catalog " ++ path ++ ": " ++ cause.message
  | @malformed path complaint => "Failed to parse catalog " ++ path ++ ": " ++ complaint

/-- The names of the usual catalog files, the preferred one first. -/
def fileNames : List String := ["apicli.toml", "apis.txt"]

/-- The directory below the home directory in which catalogs usually are. -/
def directoryName : String := ".apicli"

/-- Is the file at a path a structured catalog? -/
def isStructured (path : String) : Bool :=
  Path.extension? path = some ['t', 'o', 'm', 'l']

/-- The entries that a text holds, read as the path demands. -/
def parse (complaint : String → String) (path text : String) :
    Except CatalogError (List Entry) :=
  if isStructured path then
    match Structured.entries text with
    | some entries => .ok entries
    | none => .error (@CatalogError.malformed path (complaint text))
  else .ok (Tabular.entries text)

/-- The entries of the catalog at a path. -/
def load (files : Files) (path : String) : Except CatalogError (List Entry) :=
  match files.readText path with
  | .error cause => .error (.unreadable path cause)
  | .ok text => parse files.complaint path text

/-- A note on loading. -/
def note (text : String) : Log.Note := ⟨.debug, "apicli::catalog", text⟩

/-- What is noted of the entries that were loaded from a path. -/
def loadedNotes (path : String) : Except CatalogError (List Entry) → List Log.Note
  | .ok entries => [note ("Loaded " ++ toString entries.length ++ " APIs from " ++ path)]
  | .error _ => []

/-- What is noted when the catalog at a path is loaded. -/
def loadNotes (files : Files) (path : String) : List Log.Note :=
  match files.readText path with
  | .error _ => []
  | .ok text =>
    (if isStructured path then [] else Tabular.notes text) ++
      loadedNotes path (parse files.complaint path text)

/-- Where catalogs are looked for when no path is given. -/
structure Loader where
  directory : Option String
deriving Repr, DecidableEq

namespace Loader

/-- The loader for the usual directory below a home directory. -/
def ofHome (home : Option String) : Loader :=
  ⟨home.map fun home => Path.join home directoryName⟩

/-- The loader that settings ask for. -/
def ofSettings (settings : Settings) (home : Option String) : Loader :=
  match settings.catalogDir with
  | some directory => ⟨some directory⟩
  | none => ofHome home

/-- The paths that are looked at, in order. -/
def candidates (l : Loader) : List String :=
  match l.directory with
  | some directory => fileNames.map (Path.join directory)
  | none => []

/-- The path that is read. -/
def locate (l : Loader) (files : Files) (explicit : Option String) : Option String :=
  explicit.or (l.candidates.find? files.isFile)

/-- The entries of the catalog. -/
def entries (l : Loader) (files : Files) (explicit : Option String) :
    Except CatalogError (List Entry) :=
  match l.locate files explicit with
  | some path => load files path
  | none => .ok []

/-- What is noted when the catalog is loaded. -/
def notes (l : Loader) (files : Files) (explicit : Option String) : List Log.Note :=
  match l.locate files explicit with
  | some path => loadNotes files path
  | none => [note "No catalog file found, using an empty catalog"]

/-- The first entry of the catalog with a service and name. -/
def find? (l : Loader) (files : Files) (service name : String) (explicit : Option String) :
    Except CatalogError (Option Entry) :=
  (l.entries files explicit).map (firstNamed? · service name)

end Loader

end Catalog

/-- The variable that names the home directory. -/
def homeVariable : String := "HOME"

/-- The home directory: that of the environment, or else the one on record for the user. -/
def homeDirectory (environment : Bindings) (onRecord : Option String) : Option String :=
  ((environment.get? homeVariable).filter (· ≠ "")).or onRecord

end CallBook

import CallBook.Text.Search
import CallBook.Text.Utf8
/-!
# Files

A file tree is a snapshot of a file system: which paths are directories, and which are files
with which bytes.  A path is followed part by part from the root, or from the working
directory; every part but the last must name a directory, and one that is open.  A file that is
not open is a file all the same.

`Files` is the view of it that the library reads through, together with the words of the reader
of documents for a text that is none.
-/

namespace CallBook

/-- Why a file cannot be read as text. -/
inductive ReadFailure where
  | notFound
  | notDirectory
  | isDirectory
  | notText
  | nulCharacter
  | notPermitted
  | nameTooLong
  /-- Whatever else the system has to say. -/
  | other (text : String)
deriving Repr, DecidableEq

/-- What the user is told. -/
def ReadFailure.message : ReadFailure → String
  | notFound => "No such file or directory (os error 2)"
  | notDirectory => "Not a directory (os error 20)"
  | isDirectory => "Is a directory (os error 21)"
  | notText => "stream did not contain valid UTF-8"
  | nulCharacter => "file name contained an unexpected NUL byte"
  | notPermitted => "Permission denied (os error 13)"
  | nameTooLong => "File name too long (os error 36)"
  | other text => text

/-- What is asked of a file system: whether a path is a file, and its text. -/
structure Files where
  isFile : String → Bool
  readText : String → Except ReadFailure String
  /-- What is said of a text that should be a document and is none. -/
  complaint : String → String

namespace Path

/-- A path continued by another, which replaces it if it begins at the root. -/
def join (path name : String) : String :=
  if name.toList.head? = some '/' then name
  else if path = "" ∨ path.toList.getLast? = some '/' then path ++ name
  else path ++ "/" ++ name

/-- How many bytes a part of a path may have. -/
def greatestPart : Nat := 255

/-- How many bytes a path may have. -/
def greatestLength : Nat := 4095

/-- The parts of a path that name something: neither empty nor a single point. -/
def parts (path : String) : List (List Char) :=
  (Text.splitAt '/' path.toList).filter fun part => part ≠ [] ∧ part ≠ ['.']

/-- The end of a file name after its last point, unless the name begins with that point. -/
def extension? (path : String) : Option (List Char) :=
  match (parts path).getLast? with
  | none => none
  | some name =>
    if name = ['.', '.'] then none
    else
      match Text.splitOnce '.' name.reverse with
      | some (after, before) => if before.isEmpty then none else some after.reverse
      | none => none

end Path

/-- A directory, or a file with its bytes, and whether it is open to whoever reads. -/
inductive Node where
  | directory (isOpen : Bool := true)
  | file (bytes : List UInt8) (isOpen : Bool := true)
deriving Repr, DecidableEq

/-- Where something stands: the names on the way from the root. -/
abbrev Location := List String

/-- A snapshot of a file system.  The root is always a directory. -/
structure FileTree where
  nodes : List (Location × Node)
  workingDirectory : Location
deriving Repr, DecidableEq

namespace FileTree

/-- The tree that holds nothing but the root. -/
def empty : FileTree := ⟨[], []⟩

/-- What stands at a location. -/
def node? (t : FileTree) (location : Location) : Option Node :=
  if location = [] then some .directory else t.nodes.lookup location

/-- The tree without a location and all that is below it. -/
def remove (t : FileTree) (location : Location) : FileTree :=
  { t with nodes := t.nodes.filter fun (l, _) => !location.isPrefixOf l }

/-- The tree with a node set. -/
def set (t : FileTree) (location : Location) (node : Node) : FileTree :=
  { t with nodes := (location, node) :: t.nodes.filter (·.1 ≠ location) }

/-- The tree in which a location and all above it are directories. -/
def makeDirectories (t : FileTree) (location : Location) : FileTree :=
  (List.range location.length).foldl (fun t n =>
    let l := location.take (n + 1)
    match t.node? l with
    | some (.directory _) => t
    | _ => t.set l .directory) t

/-- The tree with a file written, in directories that are made as needed. -/
def write (t : FileTree) (location : Location) (bytes : List UInt8) : FileTree :=
  (t.makeDirectories location.dropLast).set location (.file bytes)

/-- Follows one part of a path. -/
def follow (t : FileTree) (location : Location) (part : String) :
    Except ReadFailure Location :=
  match t.node? location with
  | none => .error .notFound
  | some (.file ..) => .error .notDirectory
  | some (.directory isOpen) =>
    if part = "" then .ok location
    else if !isOpen then .error .notPermitted
    else if part = "." then .ok location
    else if part = ".." then .ok location.dropLast
    else if Path.greatestPart < part.utf8ByteSize then .error .nameTooLong
    else if (t.node? (location ++ [part])).isSome then .ok (location ++ [part])
    else .error .notFound

/-- The location that a path leads to. -/
def locate (t : FileTree) (path : String) : Except ReadFailure Location :=
  if path.toList.contains '\x00' then .error .nulCharacter
  else if path = "" then .error .notFound
  else if Path.greatestLength < path.utf8ByteSize then .error .nameTooLong
  else
    let start := if path.toList.head? = some '/' then [] else t.workingDirectory
    ((Text.splitAt '/' path.toList).map String.ofList).foldlM t.follow start

/-- The bytes of the file that a path leads to. -/
def readBytes (t : FileTree) (path : String) : Except ReadFailure (List UInt8) :=
  match t.locate path with
  | .error e => .error e
  | .ok location =>
    match t.node? location with
    | none => .error .notFound
    | some (.directory isOpen) => .error (if isOpen then .isDirectory else .notPermitted)
    | some (.file bytes isOpen) => if isOpen then .ok bytes else .error .notPermitted

/-- The text of the file that a path leads to. -/
def readText (t : FileTree) (path : String) : Except ReadFailure String :=
  match t.readBytes path with
  | .error e => .error e
  | .ok bytes =>
    match Text.decode? bytes with
    | none => .error .notText
    | some cs => .ok (String.ofList cs)

/-- Does the path lead to a file, whether or not it may be read? -/
def isFile (t : FileTree) (path : String) : Bool :=
  match t.locate path with
  | .error _ => false
  | .ok location =>
    match t.node? location with
    | some (.file ..) => true
    | _ => false

/-- The tree as it is read, with what is said of a text that is no document. -/
def files (t : FileTree) (complaint : String → String := fun _ => "") : Files :=
  ⟨t.isFile, t.readText, complaint⟩

end FileTree

end CallBook

import CallBook.FileTree
import CallBook.Query.Script
/-!
# Programs by name

The programs that a query may be handed to: two that every system has, and otherwise none.  A
name with a slash is a path, and what it leads to cannot be run; any other name is looked for
and not found.
-/

namespace CallBook

namespace FileTree

/-- Why nothing in the tree can be run under a name. -/
def startFailure (t : FileTree) (name : String) : StartFailure :=
  if name.toList.contains '/' then
    match t.locate name with
    | .ok _ => .notPermitted
    | .error .notDirectory => .notDirectory
    | .error .nameTooLong => .nameTooLong
    | .error .notPermitted => .notPermitted
    | .error _ => .notFound
  else if Path.greatestPart < name.utf8ByteSize then .nameTooLong
  else if name = "." ∨ name = ".." then .notPermitted
  else .notFound

/-- The program that a name stands for. -/
def program (t : FileTree) (name : String) : Processor :=
  if name = "echo" then .echo
  else if name = "false" then .failing
  else .missing (t.startFailure name)

end FileTree

end CallBook

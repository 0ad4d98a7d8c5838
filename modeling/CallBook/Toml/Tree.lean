import CallBook.Toml.Value
/-!
# Building tables from assignments

A document assigns values to paths of names.  Tables come about in three ways: a header states
them, a longer header implies them, or a dotted name of an assignment goes through them.  The
way decides what may still be added:

* a stated table takes no assignments once its section has ended, though longer headers may
  still add tables to it;
* an implied table may be stated once, and then stands where it was stated;
* a dotted table grows by dotted names and by longer headers, but is never stated.

A table array grows by one element with each of its headers; paths lead into its last element.
-/

namespace CallBook.Toml

/-- How a table came about. -/
inductive Origin where
  | stated
  | implied
  | dotted
deriving Repr, DecidableEq

/-- What a name stands for while tables are built. -/
inductive Item where
  | leaf (value : Value)
  | table (origin : Origin) (fields : List (String × Item))
  | tables (elements : List (List (String × Item)))

/-- The fields of a table that is being built. -/
abbrev Items := List (String × Item)

namespace Items

/-- Changes what one name stands for, or adds the name at the end. -/
def change (name : String) (f : Option Item → Option Item) : Items → Option Items
  | [] => (f none).map fun item => [(name, item)]
  | (k, item) :: rest =>
    if k = name then (f (some item)).map fun item => (k, item) :: rest
    else (change name f rest).map ((k, item) :: ·)

/-- Adds a name that stands for nothing yet. -/
def add (name : String) (item : Item) : Items → Option Items :=
  change name fun
    | none => some item
    | some _ => none

/-- Changes the table that a path leads to.  Tables on the way that do not exist come about as
`origin` says; dotted paths do not go through stated tables. -/
def descend (origin : Origin) (edit : Origin → Items → Option Items) :
    List String → Origin → Items → Option Items
  | [], own, fields => edit own fields
  | name :: path, _, fields =>
    change name (fun
      | none => (descend origin edit path origin []).map (.table origin)
      | some (.leaf _) => none
      | some (.table own inner) =>
        if origin = .dotted ∧ own = .stated then none
        else (descend origin edit path own inner).map (.table own)
      | some (.tables elements) =>
        match elements.reverse with
        | [] => none
        | last :: before =>
          (descend origin edit path .stated last).map fun last =>
            .tables (last :: before).reverse) fields

/-- Assigns a value to the last name of a dotted path. -/
def assign (path : List String) (name : String) (value : Value) (fields : Items) :
    Option Items :=
  descend .dotted (fun own fields =>
    if own = .dotted ↔ path = [] then none else add name (.leaf value) fields)
    path .stated fields

/-- Makes several assignments in order. -/
def assignAll (assignments : List ((List String × String) × Value)) (fields : Items) :
    Option Items :=
  assignments.foldlM (fun fields ((path, name), value) => assign path name value fields) fields

/-- States a table: its section's assignments are added to what headers have implied of it,
and it moves to the end. -/
def state (name : String) (assignments : List ((List String × String) × Value))
    (fields : Items) : Option Items :=
  match fields.lookup name with
  | none =>
    (assignAll assignments []).map fun inner => fields ++ [(name, .table .stated inner)]
  | some (.table .implied inner) =>
    (assignAll assignments inner).map fun inner =>
      (fields.filter (·.1 ≠ name)) ++ [(name, .table .stated inner)]
  | some _ => none

/-- Adds an element with a section's assignments to a table array. -/
def append (name : String) (assignments : List ((List String × String) × Value))
    (fields : Items) : Option Items :=
  change name (fun
    | none => (assignAll assignments []).map fun inner => .tables [inner]
    | some (.tables elements) =>
      (assignAll assignments []).map fun inner => .tables (elements ++ [inner])
    | some _ => none) fields

end Items

mutual

/-- The value of an item that is built. -/
def Item.value : Item → Value
  | .leaf v => v
  | .table _ fields => .table (itemValues fields)
  | .tables elements => .array (elementValues elements)

/-- The fields of a table that is built. -/
def itemValues : List (String × Item) → List (String × Value)
  | [] => []
  | (name, item) :: rest => (name, item.value) :: itemValues rest

/-- The elements of a table array that is built. -/
def elementValues : List (List (String × Item)) → List Value
  | [] => []
  | fields :: rest => .table (itemValues fields) :: elementValues rest

end

/-- What stands above the assignments of a section. -/
inductive Header where
  | table (path : List String) (name : String)
  | element (path : List String) (name : String)
deriving Repr, DecidableEq

/-- A header and the assignments below it. -/
structure Section where
  header : Header
  assignments : List ((List String × String) × Value)

/-- Adds a section to the tables that are built so far. -/
def Section.place (s : Section) (root : Items) : Option Items :=
  match s.header with
  | .table path name =>
    Items.descend .implied (fun _ => Items.state name s.assignments) path .stated root
  | .element path name =>
    Items.descend .implied (fun _ => Items.append name s.assignments) path .stated root

/-- The table of assignments alone, as written between braces. -/
def inlineTable (assignments : List ((List String × String) × Value)) : Option Table :=
  (Items.assignAll assignments []).map itemValues

/-- The table of a document: the assignments above all headers, and the sections. -/
def documentTable (assignments : List ((List String × String) × Value))
    (sections : List Section) : Option Table := do
  let root ← Items.assignAll assignments []
  let root ← sections.foldlM (fun root s => s.place root) root
  pure (itemValues root)

end CallBook.Toml

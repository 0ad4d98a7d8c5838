import CallBook.Proofs.Request.Outcome
import CallBook.Proofs.Text.Cuts
import CallBook.Proofs.Text.Utf8
/-!
# Which file is read, and what comes of it

A path that is given is read as it is, whatever is there.  Otherwise there are two candidates in the
loader's directory, and the first that is a file counts, even if it is not open or cannot be read as
a catalog (`Located`).  The file that counts is then read as text, and only a path that ends in
`.toml` says that the text has to be a document (`Loads`).

So what comes of loading depends on one path alone: on what is there, and on how the path ends.
`locate_iff` and `load_iff` say that the loader obeys these rules and no others.
-/

namespace CallBook

/-! ## 1. Files of a tree -/

namespace FileTree

/-- A path leads to a file with these bytes, which may be open or not. -/
def Holds (t : FileTree) (path : String) (bytes : List UInt8) (isOpen : Bool) : Prop :=
  ∃ location, t.locate path = .ok location ∧ t.node? location = some (.file bytes isOpen)

/-- A path leads to a file. -/
def HasFile (t : FileTree) (path : String) : Prop := ∃ bytes isOpen, t.Holds path bytes isOpen

/-- A path leads to an open file with this text. -/
def HoldsText (t : FileTree) (path text : String) : Prop :=
  t.Holds path (Text.encode text.toList) true

/-- Why there is no text at a path. -/
inductive Unreadable (t : FileTree) (path : String) : ReadFailure → Prop
  /-- The path leads nowhere. -/
  | astray {cause : ReadFailure} : t.locate path = .error cause → Unreadable t path cause
  /-- Nothing is where it leads. -/
  | absent {location : Location} :
      t.locate path = .ok location → t.node? location = none → Unreadable t path .notFound
  | directory {location : Location} :
      t.locate path = .ok location → t.node? location = some (.directory true) →
        Unreadable t path .isDirectory
  /-- The directory is not open, -/
  | closed {location : Location} :
      t.locate path = .ok location → t.node? location = some (.directory false) →
        Unreadable t path .notPermitted
  /-- or the file is not. -/
  | notPermitted {bytes : List UInt8} : t.Holds path bytes false → Unreadable t path .notPermitted
  /-- The bytes of the file are no text. -/
  | notText {bytes : List UInt8} :
      t.Holds path bytes true → (∀ cs, bytes ≠ Text.encode cs) → Unreadable t path .notText

variable {t : FileTree} {path text : String} {bytes : List UInt8} {cause : ReadFailure}

theorem readBytes_of_holds {isOpen : Bool} (h : t.Holds path bytes isOpen) :
    t.readBytes path = if isOpen then .ok bytes else .error .notPermitted := by
  obtain ⟨location, hlocate, hnode⟩ := h
  simp only [readBytes, hlocate, hnode]

theorem isFile_iff : t.isFile path = true ↔ t.HasFile path := by
  rw [isFile]
  constructor
  · intro h
    split at h
    · cases h
    · rename_i location hlocate
      split at h
      · rename_i bytes isOpen hnode
        exact ⟨bytes, isOpen, location, hlocate, hnode⟩
      · cases h
  · rintro ⟨bytes, isOpen, location, hlocate, hnode⟩
    simp only [hlocate, hnode]

theorem readText_of_holdsText (h : t.HoldsText path text) : t.readText path = .ok text := by
  rw [readText, readBytes_of_holds h]
  simp only [if_true, Text.decode?_encode, String.ofList_toList]

theorem Unreadable.readText_eq (h : t.Unreadable path cause) : t.readText path = .error cause := by
  cases h with
  | astray hlocate => simp only [readText, readBytes, hlocate]
  | absent hlocate hnode => simp only [readText, readBytes, hlocate, hnode]
  | directory hlocate hnode => simp only [readText, readBytes, hlocate, hnode, if_true]
  | closed hlocate hnode =>
    simp only [readText, readBytes, hlocate, hnode, Bool.false_eq_true, if_false]
  | notPermitted hholds =>
    rw [readText, readBytes_of_holds hholds]
    rfl
  | @notText bytes hholds hnone =>
    rw [readText, readBytes_of_holds hholds]
    cases hdecode : Text.decode? bytes with
    | none => simp only [if_true, hdecode]
    | some cs => exact absurd (Text.decode?_eq_some_iff.1 hdecode) (hnone cs)

/-- There is a text at a path, or there is a reason why not. -/
theorem holdsText_or_unreadable (t : FileTree) (path : String) :
    (∃ text, t.HoldsText path text) ∨ ∃ cause, t.Unreadable path cause := by
  cases hlocate : t.locate path with
  | error cause => exact Or.inr ⟨cause, .astray hlocate⟩
  | ok location =>
    match hnode : t.node? location with
    | none => exact Or.inr ⟨_, .absent hlocate hnode⟩
    | some (.directory true) => exact Or.inr ⟨_, .directory hlocate hnode⟩
    | some (.directory false) => exact Or.inr ⟨_, .closed hlocate hnode⟩
    | some (.file bytes false) => exact Or.inr ⟨_, .notPermitted ⟨location, hlocate, hnode⟩⟩
    | some (.file bytes true) =>
      have hholds : t.Holds path bytes true := ⟨location, hlocate, hnode⟩
      by_cases htext : ∃ cs, bytes = Text.encode cs
      · obtain ⟨cs, rfl⟩ := htext
        refine Or.inl ⟨String.ofList cs, ?_⟩
        rwa [HoldsText, String.toList_ofList]
      · exact Or.inr ⟨_, .notText hholds (not_exists.1 htext)⟩

end FileTree

namespace Catalog

open FileTree

/-! ## 2. How paths end -/

/-- The last part of a path has something in front of `.toml` and nothing behind it. -/
def EndsInToml (path : String) : Prop :=
  ∃ stem, stem ≠ [] ∧ (Path.parts path).getLast? = some (stem ++ ".toml".toList)

theorem isStructured_iff {path : String} : isStructured path = true ↔ EndsInToml path := by
  rw [isStructured, decide_eq_true_iff, Path.extension?, EndsInToml]
  cases (Path.parts path).getLast? with
  | none => simp
  | some name =>
    by_cases hup : name = ['.', '.']
    · subst hup
      refine ⟨fun h => by simp at h, ?_⟩
      rintro ⟨stem, -, h⟩
      have hmem : 'm' ∈ ['.', '.'] := by simp [Option.some.inj h]
      exact absurd hmem (by decide)
    · simp only [if_neg hup]
      constructor
      · intro h
        split at h
        · rename_i after before hsplit
          obtain ⟨hname, -⟩ := Text.splitOnce_eq_some_iff.1 hsplit
          by_cases hbefore : before = []
          · simp [hbefore] at h
          · simp only [List.isEmpty_iff, hbefore, if_false, Option.some.injEq] at h
            refine ⟨before.reverse, by simpa using hbefore, ?_⟩
            rw [← List.reverse_reverse name, hname, List.reverse_append, List.reverse_cons, h,
              List.append_assoc]
            rfl
        · simp at h
      · rintro ⟨stem, hstem, hname⟩
        have hsplit : Text.splitOnce '.' name.reverse = some ("toml".toList.reverse, stem.reverse) := by
          rw [Text.splitOnce_eq_some_iff, Option.some.inj hname, List.reverse_append]
          exact ⟨rfl, by decide⟩
        simp only [hsplit, List.isEmpty_reverse, List.isEmpty_iff, hstem, if_false]
        rfl

/-! ## 3. The path that is read -/

/-- Which path is read, of a tree and a loader's directory. -/
inductive Located (t : FileTree) : Option String → Option String → Option String → Prop
  /-- A path that is given is read as it is, whether or not something is there. -/
  | given {directory : Option String} (path : String) :
      Located t directory (some path) (some path)
  | preferred {directory : String} :
      t.HasFile (Path.join directory "apicli.toml") →
        Located t (some directory) none (some (Path.join directory "apicli.toml"))
  | other {directory : String} :
      ¬ t.HasFile (Path.join directory "apicli.toml") →
      t.HasFile (Path.join directory "apis.txt") →
        Located t (some directory) none (some (Path.join directory "apis.txt"))
  | neither {directory : String} :
      ¬ t.HasFile (Path.join directory "apicli.toml") →
      ¬ t.HasFile (Path.join directory "apis.txt") →
        Located t (some directory) none none
  /-- Without a directory there is nowhere to look. -/
  | nowhere : Located t none none none

variable {t : FileTree} {directory explicit found : Option String} {complaint : String → String}

theorem isFile_eq_false_iff {path : String} : t.isFile path = false ↔ ¬ t.HasFile path := by
  rw [← Bool.not_eq_true, isFile_iff]

theorem Located.locate_eq (h : Located t directory explicit found) :
    (⟨directory⟩ : Loader).locate (t.files complaint) explicit = found := by
  cases h with
  | given path => rfl
  | preferred hfirst =>
    simp [Loader.locate, Loader.candidates, fileNames, files, isFile_iff.2 hfirst]
  | other hfirst hsecond =>
    simp [Loader.locate, Loader.candidates, fileNames, files, isFile_eq_false_iff.2 hfirst,
      isFile_iff.2 hsecond]
  | neither hfirst hsecond =>
    simp [Loader.locate, Loader.candidates, fileNames, files, isFile_eq_false_iff.2 hfirst,
      isFile_eq_false_iff.2 hsecond]
  | nowhere => rfl

theorem exists_located (t : FileTree) (directory explicit : Option String) :
    ∃ found, Located t directory explicit found := by
  cases explicit with
  | some path => exact ⟨_, .given path⟩
  | none =>
    cases directory with
    | none => exact ⟨_, .nowhere⟩
    | some directory =>
      by_cases hfirst : t.HasFile (Path.join directory "apicli.toml")
      · exact ⟨_, .preferred hfirst⟩
      · by_cases hsecond : t.HasFile (Path.join directory "apis.txt")
        · exact ⟨_, .other hfirst hsecond⟩
        · exact ⟨_, .neither hfirst hsecond⟩

/-- **The path that is read is the one that the rules give.** -/
theorem locate_iff :
    (⟨directory⟩ : Loader).locate (t.files complaint) explicit = found ↔
      Located t directory explicit found := by
  constructor
  · rintro rfl
    obtain ⟨found, h⟩ := exists_located t directory explicit
    exact h.locate_eq ▸ h
  · exact Located.locate_eq

/-! ## 4. What comes of reading it -/

/-- What comes of reading a path, or of having none, given what is said of a text that is no
document. -/
inductive Loads (t : FileTree) (complaint : String → String) :
    Option String → Except CatalogError (List Entry) → Prop
  | nothing : Loads t complaint none (.ok [])
  | unreadable {path : String} {cause : ReadFailure} :
      t.Unreadable path cause → Loads t complaint (some path) (.error (.unreadable path cause))
  /-- The text has to be a document and is none. -/
  | malformed {path text : String} :
      t.HoldsText path text → EndsInToml path → Toml.parse text = none →
        Loads t complaint (some path) (.error (@CatalogError.malformed path (complaint text)))
  | structured {path text : String} {document : Toml.Table} :
      t.HoldsText path text → EndsInToml path → Toml.parse text = some document →
        Loads t complaint (some path) (.ok (Structured.ofTable document))
  /-- A path that ends otherwise has entries whatever its text is. -/
  | tabular {path text : String} :
      t.HoldsText path text → ¬ EndsInToml path →
        Loads t complaint (some path) (.ok (Tabular.entries text))

/-- The entries of the catalog at a path, or of none. -/
def loadFound (files : Files) (found : Option String) : Except CatalogError (List Entry) :=
  found.elim (.ok []) (load files)

theorem Loader.entries_eq (l : Loader) (files : Files) (explicit : Option String) :
    l.entries files explicit = loadFound files (l.locate files explicit) := by
  rw [entries]
  cases l.locate files explicit <;> rfl

variable {result : Except CatalogError (List Entry)}

theorem Loads.load_eq (h : Loads t complaint found result) :
    loadFound (t.files complaint) found = result := by
  cases h with
  | nothing => rfl
  | unreadable hcause => simp only [loadFound, Option.elim_some, load, files, hcause.readText_eq]
  | malformed htext hends hparse =>
    simp only [loadFound, Option.elim_some, load, files, readText_of_holdsText htext, parse,
      if_pos (isStructured_iff.2 hends), Structured.entries, hparse, Option.map_none]
  | structured htext hends hparse =>
    simp only [loadFound, Option.elim_some, load, files, readText_of_holdsText htext, parse,
      if_pos (isStructured_iff.2 hends), Structured.entries, hparse, Option.map_some]
  | tabular htext hends =>
    simp only [loadFound, Option.elim_some, load, files, readText_of_holdsText htext, parse,
      if_neg (isStructured_iff.not.2 hends)]

theorem exists_loads (t : FileTree) (complaint : String → String) (found : Option String) :
    ∃ result, Loads t complaint found result := by
  cases found with
  | none => exact ⟨_, .nothing⟩
  | some path =>
    obtain ⟨text, htext⟩ | ⟨cause, hcause⟩ := t.holdsText_or_unreadable path
    · by_cases hends : EndsInToml path
      · cases hparse : Toml.parse text with
        | none => exact ⟨_, .malformed htext hends hparse⟩
        | some document => exact ⟨_, .structured htext hends hparse⟩
      · exact ⟨_, .tabular htext hends⟩
    · exact ⟨_, .unreadable hcause⟩

/-- **What comes of reading is what the rules give.** -/
theorem loadFound_iff :
    loadFound (t.files complaint) found = result ↔ Loads t complaint found result := by
  constructor
  · rintro rfl
    obtain ⟨result, h⟩ := exists_loads t complaint found
    exact h.load_eq ▸ h
  · exact Loads.load_eq

theorem entries_iff :
    (⟨directory⟩ : Loader).entries (t.files complaint) explicit = result ↔
      ∃ found, Located t directory explicit found ∧ Loads t complaint found result := by
  rw [Loader.entries_eq]
  constructor
  · intro h
    exact ⟨_, locate_iff.1 rfl, loadFound_iff.1 h⟩
  · rintro ⟨found, hlocated, hloads⟩
    rw [hlocated.locate_eq]
    exact hloads.load_eq

end Catalog

end CallBook

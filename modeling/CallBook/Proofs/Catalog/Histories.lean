import CallBook.Proofs.Catalog.Located
/-!
# Catalogs that change between questions

Files are written and removed, and catalogs are looked for elsewhere, while questions are asked in
between: for the path that is read, for the entries, for one of them, and for a request.

The rules for replies (`Shelf.Replies`) speak of the state in which a question is asked, and every
question is replied to from the same path and what comes of reading it (`Shelf.Yields`).  A
question changes nothing (`step_ask`), so after a history the state is that of its changes alone
(`run_fst`), and what was asked before does not count (`replies_outcome`).
-/

namespace CallBook

open Catalog

/-! ## 1. Histories -/

/-- Files, where catalogs are looked for among them, and what requests are resolved with. -/
structure Shelf where
  tree : FileTree
  /-- What is said of a text that should be a document and is none. -/
  complaint : String → String
  directory : Option String
  environment : Bindings
  aliases : AliasTable

namespace Shelf

/-- What happens to files and to the place where catalogs are looked for. -/
inductive Change where
  /-- A file is created, or replaced. -/
  | write (location : Location) (bytes : List UInt8)
  | makeDirectories (location : Location)
  /-- Whatever is at a location is removed, with all that is below. -/
  | remove (location : Location)
  /-- From now on catalogs are looked for in another directory, or nowhere. -/
  | lookIn (directory : Option String)

/-- What is asked about a catalog. -/
inductive Question where
  | path
  | entries
  | find (service name : String)
  | request (service name : String) (overrides : Bindings)

/-- What is replied. -/
inductive Reply where
  | path (found : Option String)
  | entries (result : Except CatalogError (List Entry))
  | find (result : Except CatalogError (Option Entry))
  | request (result : Except RequestError Request)

/-- A change, or a question with a path that may be given. -/
inductive Event where
  | change (c : Change)
  | ask (question : Question) (explicit : Option String)

/-- What requests are made from. -/
def book (s : Shelf) : Book :=
  { files := s.tree.files s.complaint, loader := ⟨s.directory⟩, environment := s.environment,
    aliases := s.aliases }

/-- The shelf after a change. -/
def change (s : Shelf) : Change → Shelf
  | .write location bytes => { s with tree := s.tree.write location bytes }
  | .makeDirectories location => { s with tree := s.tree.makeDirectories location }
  | .remove location => { s with tree := s.tree.remove location }
  | .lookIn directory => { s with directory }

/-- The reply to a question. -/
def reply (s : Shelf) (explicit : Option String) : Question → Reply
  | .path => .path (s.book.locate explicit)
  | .entries => .entries (s.book.entries explicit)
  | .find service name => .find (s.book.find? service name explicit)
  | .request service name overrides => .request (s.book.request service name overrides explicit)

/-- One event: the shelf after it, and the replies that it brings. -/
def step (s : Shelf) : Event → Shelf × List Reply
  | .change c => (s.change c, [])
  | .ask question explicit => (s, [s.reply explicit question])

/-- A history: the shelf after it, and all replies in order. -/
def run : Shelf → List Event → Shelf × List Reply
  | s, [] => (s, [])
  | s, e :: events => ((run (s.step e).1 events).1, (s.step e).2 ++ (run (s.step e).1 events).2)

/-- The change that an event is. -/
def Event.change? : Event → Option Change
  | .change c => some c
  | .ask _ _ => none

/-- The shelf after the changes of a history, as if nothing were asked. -/
def changed (s : Shelf) (events : List Event) : Shelf :=
  (events.filterMap Event.change?).foldl change s

/-! ## 2. Replies -/

/-- What loading comes to: there is a path that is read, or none, and this comes of it. -/
def Yields (s : Shelf) (explicit : Option String) (result : Except CatalogError (List Entry)) :
    Prop :=
  ∃ found, Located s.tree s.directory explicit found ∧ Loads s.tree s.complaint found result

/-- What is replied to a question in a state. -/
inductive Replies (s : Shelf) (explicit : Option String) : Question → Reply → Prop
  | path {found : Option String} :
      Located s.tree s.directory explicit found → Replies s explicit .path (.path found)
  | entries {result : Except CatalogError (List Entry)} :
      s.Yields explicit result → Replies s explicit .entries (.entries result)
  /-- The catalog in which an entry is looked for is not loaded. -/
  | unread {service name : String} {cause : CatalogError} :
      s.Yields explicit (.error cause) →
        Replies s explicit (.find service name) (.find (.error cause))
  /-- It is loaded and has no such entry. -/
  | lacking {service name : String} {entries : List Entry} :
      s.Yields explicit (.ok entries) → Book.Lacks entries service name →
        Replies s explicit (.find service name) (.find (.ok none))
  /-- The first entry with this service and name counts. -/
  | found {service name : String} {before after : List Entry} {d : Entry} :
      s.Yields explicit (.ok (before ++ d :: after)) → d.service = service → d.name = name →
      Book.Lacks before service name →
        Replies s explicit (.find service name) (.find (.ok (some d)))
  | notLoaded {service name : String} {overrides : Bindings} {cause : CatalogError} :
      s.Yields explicit (.error cause) →
        Replies s explicit (.request service name overrides) (.request (.error (.notLoaded cause)))
  | unknownCall {service name : String} {overrides : Bindings} {entries : List Entry} :
      s.Yields explicit (.ok entries) → Book.Lacks entries service name →
        Replies s explicit (.request service name overrides)
          (.request (.error (.unknownCall service name)))
  | resolved {service name : String} {overrides : Bindings} {before after : List Entry}
      {d : Entry} {r : Except ResolveError Request} :
      s.Yields explicit (.ok (before ++ d :: after)) → d.service = service → d.name = name →
      Book.Lacks before service name →
      d.Resolves { overrides, environment := s.environment, aliases := s.aliases } r →
        Replies s explicit (.request service name overrides)
          (.request (r.mapError .notResolved))

variable {s : Shelf} {explicit : Option String} {question : Question}

theorem entries_eq_iff {result : Except CatalogError (List Entry)} :
    s.book.entries explicit = result ↔ s.Yields explicit result :=
  entries_iff

theorem find?_eq (b : Book) (service name : String) (explicit : Option String) :
    b.find? service name explicit = (b.entries explicit).map (firstNamed? · service name) :=
  rfl

theorem Replies.reply_eq {r : Reply} (h : Replies s explicit question r) :
    s.reply explicit question = r := by
  cases h with
  | path hlocated => exact congrArg Reply.path hlocated.locate_eq
  | entries hyields => exact congrArg Reply.entries (entries_eq_iff.2 hyields)
  | unread hyields =>
    have hload := entries_eq_iff.2 hyields
    simp only [reply, find?_eq, hload, Except.map]
  | lacking hyields hlacks =>
    have hload := entries_eq_iff.2 hyields
    simp only [reply, find?_eq, hload, Except.map, Book.firstNamed?_eq_none_iff.2 hlacks]
  | found hyields hservice hname hbefore =>
    exact congrArg Reply.find
      (Book.find?_of_first (entries_eq_iff.2 hyields) hservice hname hbefore)
  | notLoaded hyields =>
    exact congrArg Reply.request (Book.Answers.notLoaded (entries_eq_iff.2 hyields)).eq
  | unknownCall hyields hlacks =>
    exact congrArg Reply.request (Book.Answers.unknownCall (entries_eq_iff.2 hyields) hlacks).eq
  | resolved hyields hservice hname hbefore hresolves =>
    exact congrArg Reply.request
      (Book.Answers.found (entries_eq_iff.2 hyields) hservice hname hbefore hresolves).eq

/-- Every question is replied to. -/
theorem exists_replies (s : Shelf) (explicit : Option String) (question : Question) :
    ∃ r, Replies s explicit question r := by
  obtain ⟨found, hlocated⟩ := exists_located s.tree s.directory explicit
  obtain ⟨result, hloads⟩ := exists_loads s.tree s.complaint found
  have hyields : s.Yields explicit result := ⟨found, hlocated, hloads⟩
  cases question with
  | path => exact ⟨_, .path hlocated⟩
  | entries => exact ⟨_, .entries hyields⟩
  | find service name =>
    cases result with
    | error cause => exact ⟨_, .unread hyields⟩
    | ok entries =>
      cases hfirst : firstNamed? entries service name with
      | none => exact ⟨_, .lacking hyields (Book.firstNamed?_eq_none_iff.1 hfirst)⟩
      | some d =>
        obtain ⟨⟨hservice, hname⟩, before, after, rfl, hbefore⟩ :=
          Book.firstNamed?_eq_some_iff.1 hfirst
        exact ⟨_, .found hyields hservice hname hbefore⟩
  | request service name overrides =>
    cases result with
    | error cause => exact ⟨_, .notLoaded hyields⟩
    | ok entries =>
      cases hfirst : firstNamed? entries service name with
      | none => exact ⟨_, .unknownCall hyields (Book.firstNamed?_eq_none_iff.1 hfirst)⟩
      | some d =>
        obtain ⟨⟨hservice, hname⟩, before, after, rfl, hbefore⟩ :=
          Book.firstNamed?_eq_some_iff.1 hfirst
        obtain ⟨r, hresolves⟩ := d.exists_resolves
          { overrides, environment := s.environment, aliases := s.aliases }
        exact ⟨_, .resolved hyields hservice hname hbefore hresolves⟩

/-- **A reply is what the rules give.** -/
theorem reply_iff {r : Reply} : s.reply explicit question = r ↔ Replies s explicit question r := by
  constructor
  · rintro rfl
    obtain ⟨r, h⟩ := exists_replies s explicit question
    exact h.reply_eq ▸ h
  · exact Replies.reply_eq

/-- Another state in which the same path is read, and the same is read there. -/
structure ReadsAlike (s other : Shelf) (explicit : Option String) : Prop where
  path : other.book.locate explicit = s.book.locate explicit
  text : ∀ path ∈ s.book.locate explicit, other.tree.readText path = s.tree.readText path
  complaint : other.complaint = s.complaint
  environment : other.environment = s.environment
  aliases : other.aliases = s.aliases

/-- Only the path that is read counts, and what is read there. -/
theorem ReadsAlike.reply_eq {other : Shelf} (h : ReadsAlike s other explicit) :
    other.reply explicit question = s.reply explicit question := by
  have hentries : other.book.entries explicit = s.book.entries explicit := by
    have hpath : other.book.loader.locate other.book.files explicit
        = s.book.loader.locate s.book.files explicit := h.path
    rw [Book.entries, Book.entries, Loader.entries_eq, Loader.entries_eq, hpath]
    cases hfound : s.book.loader.locate s.book.files explicit with
    | none => rfl
    | some path =>
      have htext : other.book.files.readText path = s.book.files.readText path :=
        h.text path hfound
      have hcomplaint : other.book.files.complaint = s.book.files.complaint := h.complaint
      simp only [loadFound, Option.elim_some, load, htext, hcomplaint]
  cases question with
  | path => exact congrArg Reply.path h.path
  | entries => exact congrArg Reply.entries hentries
  | find service name =>
    refine congrArg Reply.find ?_
    rw [find?_eq, find?_eq, hentries]
  | request service name overrides =>
    have hscope : other.book.scope overrides = s.book.scope overrides := by
      simp only [Book.scope, book, h.environment, h.aliases]
    refine congrArg Reply.request ?_
    rw [Book.request, Book.request, hentries, hscope]

/-! ## 3. Runs -/

theorem step_ask : s.step (.ask question explicit) = (s, [s.reply explicit question]) := rfl

theorem changed_cons (s : Shelf) (e : Event) (events : List Event) :
    s.changed (e :: events) = (s.step e).1.changed events := by
  cases e <;> rfl

theorem changed_append (s : Shelf) (before after : List Event) :
    s.changed (before ++ after) = (s.changed before).changed after := by
  simp only [changed, List.filterMap_append, List.foldl_append]

/-- Only changes change the state. -/
theorem run_fst (s : Shelf) (events : List Event) : (s.run events).1 = s.changed events := by
  induction events generalizing s with
  | nil => rfl
  | cons e events ih => rw [run, changed_cons, ih]

/-- A history goes on from the changes that were made, whatever was asked. -/
theorem run_append (s : Shelf) (before after : List Event) :
    s.run (before ++ after) =
      (s.changed (before ++ after), (s.run before).2 ++ ((s.changed before).run after).2) := by
  refine Prod.ext (run_fst s _) ?_
  induction before generalizing s with
  | nil => rfl
  | cons e before ih =>
    simp only [List.cons_append, run, ih, changed_cons, List.append_assoc]

/-- **What is replied in the middle of a history.**  The reply is exactly what the rules give
for the state that the changes before the question make, and it is the same in every state in
which the same is read at the same path.  The question leaves no trace: later replies, and the
state in the end, are those of the history without it. -/
theorem replies_outcome (s : Shelf) (before after : List Event) (question : Question)
    (explicit : Option String) :
    ∃ reply,
      s.run (before ++ .ask question explicit :: after) =
          (s.changed (before ++ after),
            (s.run before).2 ++ reply :: ((s.changed before).run after).2) ∧
        (∀ r, r = reply ↔ Replies (s.changed before) explicit question r) ∧
        ∀ other, ReadsAlike (s.changed before) other explicit →
          other.reply explicit question = reply := by
  refine ⟨(s.changed before).reply explicit question, ?_, fun r => ?_, fun other => ?_⟩
  · rw [run_append, run, step_ask, changed_append, changed_append, changed_cons, step_ask]
    rfl
  · rw [eq_comm, reply_iff]
  · exact ReadsAlike.reply_eq

end Shelf

end CallBook

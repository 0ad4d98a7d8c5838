import CallBook.Proofs.Client.Outcome
import CallBook.Proofs.Results
/-!
# Calling what is listed

An entry is listed under its service and name with a dot between them, and it is called by what
it is listed under.  If neither the service nor the name has a dot of its own, this finds the
first entry with the same service and name, and what comes of the call is what comes of that
entry; if one of them has a dot, the entry that is found, if there is one, is another
(`listed_outcome`).  In a table an entry can have such a service, and then the name under which
it is listed may be unknown (`unknownCall_of_dotted`).
-/

namespace CallBook.Client

/-! ## 1. Finding an entry -/

variable {c : Client} {catalog : Option String} {entries : List Entry}

/-- The client has the entries of its book. -/
theorem entries_eq_ok (h : c.entries catalog = .ok entries) :
    c.book.entries catalog = .ok entries := mapError_eq_ok h

/-- What a client finds is the first entry of its catalog. -/
theorem find?_of_entries (h : c.entries catalog = .ok entries) (service name : String) :
    c.find? service name catalog = .ok (firstNamed? entries service name) := by
  have hload := entries_eq_ok h
  rw [Book.entries] at hload
  rw [Client.find?, Book.find?, Catalog.Loader.find?, hload]
  rfl

/-- Among entries there is a first one with the service and name of any of them. -/
theorem exists_first {d : Entry} (hd : d ∈ entries) :
    ∃ before first after, entries = before ++ first :: after ∧
      (first.service = d.service ∧ first.name = d.name) ∧
      Book.Lacks before d.service d.name := by
  cases hfirst : firstNamed? entries d.service d.name with
  | none => exact absurd ⟨rfl, rfl⟩ (Book.firstNamed?_eq_none_iff.1 hfirst d hd)
  | some first =>
    obtain ⟨hnamed, before, after, hsplit, hbefore⟩ := Book.firstNamed?_eq_some_iff.1 hfirst
    exact ⟨before, first, after, hsplit, hnamed, hbefore⟩

/-- A call whose entry is known fails as known. -/
theorem Calls.isUnknownCall_eq_false {r : Except ResolveError Request} {sent : List Request}
    {cause : CallError} (h : c.Calls (r.mapError .notResolved) sent (.error cause)) :
    cause.isUnknownCall = false := by
  generalize hrequest : r.mapError RequestError.notResolved = request at h
  cases h with
  | noRequest reason =>
    cases r with
    | error resolveError =>
      cases hrequest
      rfl
    | ok request => cases hrequest
  | noResponse hresponse => rfl

/-! ## 2. Listed names -/

/-- **What is listed is found exactly if it has no dots of its own.** -/
theorem found_iff_dotless (h : c.entries catalog = .ok entries) {d : Entry} (hd : d ∈ entries) :
    (∃ found, c.find? (Entry.splitId d.id).1 (Entry.splitId d.id).2 catalog = .ok (some found) ∧
      found.service = d.service ∧ found.name = d.name) ↔ Dotless d.service ∧ Dotless d.name := by
  rw [find?_of_entries h]
  constructor
  · rintro ⟨found, hfound, hservice, hname⟩
    obtain ⟨⟨hs, hn⟩, -⟩ := Book.firstNamed?_eq_some_iff.1 (Except.ok.inj hfound)
    refine (Entry.splitId_id_iff d).1 ?_
    rw [← hservice, ← hname, hs, hn]
  · intro hdotless
    obtain ⟨before, first, after, rfl, ⟨hservice, hname⟩, hbefore⟩ := exists_first hd
    rw [(Entry.splitId_id_iff d).2 hdotless]
    exact ⟨first, congrArg Except.ok (Book.firstNamed?_append_cons after hservice hname hbefore),
      hservice, hname⟩

/-- **Calling what is listed.**  What an entry is listed under is read as its service and name
exactly if neither has a dot, and exactly then an entry with this service and name is found.  It
is the first one, the request is what it resolves to, and the call fails only as that entry or
the transport does, never as unknown. -/
theorem listed_outcome (h : c.entries catalog = .ok entries) {d : Entry} (hd : d ∈ entries) :
    (Entry.splitId d.id = (d.service, d.name) ↔ Dotless d.service ∧ Dotless d.name) ∧
    ((∃ found, c.find? (Entry.splitId d.id).1 (Entry.splitId d.id).2 catalog = .ok (some found) ∧
      found.service = d.service ∧ found.name = d.name) ↔ Dotless d.service ∧ Dotless d.name) ∧
    (Dotless d.service ∧ Dotless d.name →
      ∃ before first after, entries = before ++ first :: after ∧
        (first.service = d.service ∧ first.name = d.name) ∧
        Book.Lacks before d.service d.name ∧
        c.find? (Entry.splitId d.id).1 (Entry.splitId d.id).2 catalog = .ok (some first) ∧
        ∀ overrides debug,
          c.book.request (Entry.splitId d.id).1 (Entry.splitId d.id).2 overrides catalog =
            (first.resolve (c.book.scope overrides)).mapError .notResolved ∧
          c.Calls ((first.resolve (c.book.scope overrides)).mapError .notResolved)
            (c.get d.id ⟨overrides, catalog, debug⟩).sent
            (c.get d.id ⟨overrides, catalog, debug⟩).result ∧
          ∀ cause, (c.get d.id ⟨overrides, catalog, debug⟩).result = .error cause →
            cause.isUnknownCall = false) := by
  refine ⟨Entry.splitId_id_iff d, found_iff_dotless h hd, fun hdotless => ?_⟩
  obtain ⟨before, first, after, rfl, ⟨hservice, hname⟩, hbefore⟩ := exists_first hd
  have hsplit := (Entry.splitId_id_iff d).2 hdotless
  rw [hsplit]
  refine ⟨before, first, after, rfl, ⟨hservice, hname⟩, hbefore, ?_, fun overrides debug => ?_⟩
  · rw [find?_of_entries h, Book.firstNamed?_append_cons after hservice hname hbefore]
  · have hrequest : c.book.request d.service d.name overrides catalog =
        (first.resolve (c.book.scope overrides)).mapError .notResolved :=
      (Book.Answers.found (entries_eq_ok h) hservice hname hbefore
        (Entry.resolve_iff_resolves.1 rfl)).eq
    have hcalls := (get_iff_calls (c := c) (Entry.splitId_eq_iff.1 hsplit)
      ⟨overrides, catalog, debug⟩).1 ⟨rfl, rfl⟩
    rw [hrequest] at hcalls
    refine ⟨hrequest, hcalls, fun cause hcause => ?_⟩
    rw [hcause] at hcalls
    exact hcalls.isUnknownCall_eq_false

/-! ## 3. A table with a dot -/

/-- A table with two entries, of which the first has a dot in its service. -/
def dottedTable : String := "service name\na.b c\nx y\n"

/-- A client that finds this table under every path, and whose transport never answers. -/
def dotted : Client where
  book := {
    files := ⟨fun _ => true, fun _ => .ok dottedTable, fun _ => ""⟩
    loader := ⟨none⟩
    environment := .empty
    aliases := .standard }
  transport := fun _ => .error .timeout
  engine := .standard
  processor := ⟨fun _ _ => .error .notFound⟩

theorem entries_dotted : dotted.entries (some "apis.txt") =
    .ok [.named "a.b" "c", .named "x" "y"] := by
  have hrows : Catalog.Tabular.table dottedTable =
      (["service", "name"], ["a.b c".toList, "x y".toList]) := by decide +kernel
  have htable : Catalog.Tabular.entries dottedTable =
      [.named "a.b" "c", .named "x" "y"] := by
    rw [Catalog.Tabular.entries, Catalog.Tabular.records, hrows]
    rfl
  have hpath : Catalog.isStructured "apis.txt" = false := by decide +kernel
  simp only [Client.entries, Book.entries, Catalog.Loader.entries, Catalog.Loader.locate, dotted,
    Option.some_or, Catalog.load, Catalog.parse, hpath, htable]
  rfl

theorem listed_outcome_of_dotless :
    dotted.entries (some "apis.txt") = .ok [.named "a.b" "c", .named "x" "y"] ∧
    Entry.named "x" "y" ∈ [Entry.named "a.b" "c", .named "x" "y"] ∧
    Entry.splitId (Entry.named "x" "y").id = ("x", "y") ∧
    ∃ before first after,
      [Entry.named "a.b" "c", .named "x" "y"] = before ++ first :: after ∧
      (first.service = "x" ∧ first.name = "y") ∧ Book.Lacks before "x" "y" := by
  have hdotless : Dotless "x" ∧ Dotless "y" := by decide +kernel
  have hmem : Entry.named "x" "y" ∈ [Entry.named "a.b" "c", .named "x" "y"] :=
    List.mem_cons_of_mem _ List.mem_cons_self
  obtain ⟨hsplit, -, hcall⟩ := listed_outcome entries_dotted hmem
  obtain ⟨before, first, after, heq, hnamed, hbefore, -⟩ := hcall hdotless
  exact ⟨entries_dotted, hmem, hsplit.2 hdotless, before, first, after, heq, hnamed, hbefore⟩

/-- **What is listed may be unknown.**  The first entry is listed as `a.b.c`, which is read as the
service `a` and the name `b`; no entry has these. -/
theorem unknownCall_of_dotted :
    dotted.entries (some "apis.txt") = .ok [.named "a.b" "c", .named "x" "y"] ∧
    (Entry.named "a.b" "c").id = "a.b.c" ∧ Entry.splitId "a.b.c" ≠ ("a.b", "c") ∧
    (dotted.get "a.b.c" ⟨.empty, some "apis.txt", false⟩).result =
      .error (.request (.unknownCall "a" "b")) := by
  have hid : Entry.splitId "a.b.c" = ("a", "b") := by decide +kernel
  have hlacks : Book.Lacks [.named "a.b" "c", .named "x" "y"] "a" "b" := by
    simp [Book.Lacks, Entry.named]
  have hrequest : dotted.book.request "a" "b" .empty (some "apis.txt") =
      .error (.unknownCall "a" "b") :=
    (Book.Answers.unknownCall (entries_eq_ok entries_dotted) hlacks).eq
  have hcalls : dotted.Calls (dotted.book.request "a" "b" .empty (some "apis.txt")) []
      (.error (.request (.unknownCall "a" "b"))) := by
    rw [hrequest]
    exact .noRequest _
  obtain ⟨-, hresult⟩ := Calls.eq (Entry.splitId_eq_iff.1 hid) ⟨.empty, some "apis.txt", false⟩
    hcalls
  exact ⟨entries_dotted, by decide +kernel, by decide +kernel, hresult⟩

end CallBook.Client

import CallBook.Client
import CallBook.Proofs.Catalog.Ordered
import CallBook.Proofs.Template.Walk
/-!
# What comes of a request

Six things can go wrong on the way to a request: the catalog is not loaded, it has no such
call, a value is missing in the URL, in the headers or in the body, or the headers are of a
kind that has no meaning.  `Entry.Resolves` and `Book.Answers` rank them, one rule for each
outcome: the premises of a rule say that nothing which counts before it went wrong.

`Book.request` answers exactly what the rules give (`Book.request_iff_answers`), and the rules
give one answer in every case.  The main statement, `request_outcome`, adds what the rules are
read with: the entry that counts is the one that is found under the name, and the strings of
its headers are visited in the order of the fields' names.
-/

namespace CallBook

open Json (Value)

/-! ## 1. Headers -/

namespace Entry

/-- What headers are made of, where `text` gives the texts of templates: their templates in the
order in which they are substituted, and what they come to, `none` if they have no meaning. -/
inductive HeadersMean (text : String → String) :
    Value → List String → Option (List (String × String)) → Prop
  /-- A string that the mark begins stands for a token and a content type. -/
  | bearer (rest : List Char) :
      HeadersMean text (.string (bearerMark ++ String.ofList rest))
        [String.ofList (Text.trim rest)]
        (some (bearerHeaders (text (String.ofList (Text.trim rest)))))
  /-- Nothing stands for no headers. -/
  | absent : HeadersMean text .null [] (some [])
  /-- The fields of an object are the headers. -/
  | object (fields : List (String × Value)) :
      HeadersMean text (.object fields) (Template.fieldStrings fields)
        (some ((Json.mapTextFields text fields).map fun (name, v) => (name, headerText v)))
  /-- Everything else has templates and no meaning. -/
  | meaningless {v : Value} :
      (∀ rest, v ≠ .string (bearerMark ++ String.ofList rest)) → v ≠ .null →
        (∀ fields, v ≠ .object fields) → HeadersMean text v (Template.strings v) none

theorem bearer?_of_mark {e : Entry} {rest : List Char}
    (h : e.headers = .string (bearerMark ++ String.ofList rest)) :
    e.bearer? = some (String.ofList (Text.trim rest)) := by
  have hstrip : Text.stripStart? bearerMark.toList (bearerMark ++ String.ofList rest).toList
      = some rest := by
    rw [Text.stripStart?_eq_some_iff, String.toList_append, String.toList_ofList]
  simp only [bearer?, h, hstrip, Option.map_some]

theorem bearer?_eq_none {e : Entry}
    (h : ∀ rest, e.headers ≠ .string (bearerMark ++ String.ofList rest)) : e.bearer? = none := by
  unfold bearer?
  split
  · rename_i s hs
    rw [Option.map_eq_none_iff, Option.eq_none_iff_forall_ne_some]
    intro rest hrest
    refine h rest ?_
    rw [hs, ← String.ofList_toList (s := s), Text.stripStart?_eq_some_iff.1 hrest,
      String.ofList_append, String.ofList_toList]
  · rfl

/-- Headers of any kind have templates. -/
theorem exists_headersMean (text : String → String) (v : Value) :
    ∃ templates headers, HeadersMean text v templates headers := by
  by_cases hbearer : ∃ rest, v = .string (bearerMark ++ String.ofList rest)
  · obtain ⟨rest, rfl⟩ := hbearer
    exact ⟨_, _, .bearer rest⟩
  · by_cases hnull : v = .null
    · subst hnull
      exact ⟨_, _, .absent⟩
    · by_cases hobject : ∃ fields, v = .object fields
      · obtain ⟨fields, rfl⟩ := hobject
        exact ⟨_, _, .object fields⟩
      · exact ⟨_, _, .meaningless (fun rest h => hbearer ⟨rest, h⟩) hnull
          fun fields h => hobject ⟨fields, h⟩⟩

theorem substitute_eq (scope : Scope) (template : String) :
    substitute scope template =
      match scope.firstMissing? [template] with
      | some name => .error (.unresolved ⟨name⟩)
      | none => .ok (scope.text template) := by
  rw [substitute, Template.substitute_eq]
  cases scope.firstMissing? [template] <;> rfl

/-- **Headers miss a value, or they come to what they mean.** -/
theorem resolveHeaders_eq {scope : Scope} {e : Entry} {templates : List String}
    {headers : Option (List (String × String))}
    (h : HeadersMean scope.text e.headers templates headers) :
    e.resolveHeaders scope =
      match scope.firstMissing? templates with
      | some name => .error (.unresolved ⟨name⟩)
      | none =>
        headers.elim (.error (.invalidHeaders e.id (e.headers.mapText scope.text))) .ok := by
  generalize hv : e.headers = v at h
  cases h with
  | bearer rest =>
    rw [resolveHeaders, bearer?_of_mark hv]
    simp only [substitute_eq]
    cases scope.firstMissing? [String.ofList (Text.trim rest)] <;> rfl
  | absent =>
    rw [resolveHeaders, bearer?_eq_none (by simp [hv]), hv]
    rfl
  | object fields =>
    rw [resolveHeaders, bearer?_eq_none (by simp [hv])]
    simp only [hv, Template.walk_eq, Template.strings, Value.mapText]
    cases scope.firstMissing? (Template.fieldStrings fields) <;> rfl
  | meaningless hbearer hnull hobject =>
    rw [resolveHeaders, bearer?_eq_none (by rwa [hv])]
    simp only [hv, Template.walk_eq]
    cases scope.firstMissing? (Template.strings v) with
    | some name => rfl
    | none =>
      cases v with
      | null => exact absurd rfl hnull
      | object fields => exact absurd rfl (hobject fields)
      | bool b => rfl
      | number n => rfl
      | string s => rfl
      | array items => rfl

/-! ## 2. Entries -/

/-- The template of the URL; without one it is empty. -/
def urlTemplate (e : Entry) : String := e.url.getD ""

/-- The template of the body, trimmed and with the provider named, if there is a body. -/
def bodyTemplates (scope : Scope) (e : Entry) : List String :=
  (e.body.map (bodyTemplate (scope.direct? Provider.variableName))).toList

/-- What comes of an entry.  Each rule holds only where nothing is wrong that counts before. -/
inductive Resolves (scope : Scope) (e : Entry) : Except ResolveError Request → Prop
  /-- A value is missing in the URL. -/
  | urlMissing {name : String} :
      scope.firstMissing? [e.urlTemplate] = some name →
        Resolves scope e (.error (.unresolved ⟨name⟩))
  /-- A value is missing in the headers. -/
  | headersMissing {name : String} {templates : List String}
      {headers : Option (List (String × String))} :
      scope.firstMissing? [e.urlTemplate] = none →
      HeadersMean scope.text e.headers templates headers →
      scope.firstMissing? templates = some name →
        Resolves scope e (.error (.unresolved ⟨name⟩))
  /-- The headers have no meaning. -/
  | headersMeaningless {templates : List String} :
      scope.firstMissing? [e.urlTemplate] = none →
      HeadersMean scope.text e.headers templates none →
      scope.firstMissing? templates = none →
        Resolves scope e (.error (.invalidHeaders e.id (e.headers.mapText scope.text)))
  /-- A value is missing in the body. -/
  | bodyMissing {name : String} {templates : List String} {headers : List (String × String)} :
      scope.firstMissing? [e.urlTemplate] = none →
      HeadersMean scope.text e.headers templates (some headers) →
      scope.firstMissing? templates = none →
      scope.firstMissing? (e.bodyTemplates scope) = some name →
        Resolves scope e (.error (.unresolved ⟨name⟩))
  /-- Nothing is missing. -/
  | request {templates : List String} {headers : List (String × String)} :
      scope.firstMissing? [e.urlTemplate] = none →
      HeadersMean scope.text e.headers templates (some headers) →
      scope.firstMissing? templates = none →
      scope.firstMissing? (e.bodyTemplates scope) = none →
        Resolves scope e (.ok {
          url := scope.text e.urlTemplate
          method := e.method.getD "GET"
          headers := headers
          body := e.body.map fun body =>
            scope.text (bodyTemplate (scope.direct? Provider.variableName) body) })

theorem resolve_of_url {scope : Scope} {e : Entry} {name : String}
    (h : scope.firstMissing? [e.urlTemplate] = some name) :
    e.resolve scope = .error (.unresolved ⟨name⟩) := by
  rw [urlTemplate] at h
  simp [resolve, substitute_eq, h, bind, Except.bind]

/-- Where the URL misses nothing the headers decide, and then the body. -/
theorem resolve_after_url {scope : Scope} {e : Entry}
    (h : scope.firstMissing? [e.urlTemplate] = none) :
    e.resolve scope =
      match e.resolveHeaders scope with
      | .error cause => .error cause
      | .ok headers =>
        match scope.firstMissing? (e.bodyTemplates scope) with
        | some name => .error (.unresolved ⟨name⟩)
        | none => .ok {
            url := scope.text e.urlTemplate
            method := e.method.getD "GET"
            headers := headers
            body := e.body.map fun body =>
              scope.text (bodyTemplate (scope.direct? Provider.variableName) body) } := by
  have hurl : substitute scope (e.url.getD "") = .ok (scope.text e.urlTemplate) := by
    rw [substitute_eq, ← urlTemplate, h]
  unfold resolve
  rw [hurl]
  cases e.resolveHeaders scope with
  | error cause => rfl
  | ok headers =>
    cases hb : e.body with
    | none => simp [bodyTemplates, hb, bind, Except.bind, pure, Except.pure, Request.defaultMethod]
    | some body =>
      simp only [bodyTemplates, hb, Option.map_some, Option.toList_some, resolveBody, substitute_eq]
      cases scope.firstMissing? [bodyTemplate (scope.direct? Provider.variableName) body] <;> rfl

/-- The rules give what `resolve` answers, -/
theorem Resolves.eq {scope : Scope} {e : Entry} {r : Except ResolveError Request}
    (h : Resolves scope e r) : e.resolve scope = r := by
  cases h with
  | urlMissing hurl => exact resolve_of_url hurl
  | headersMissing hurl hmean hmissing =>
    rw [resolve_after_url hurl, resolveHeaders_eq hmean, hmissing]
  | headersMeaningless hurl hmean hnone =>
    rw [resolve_after_url hurl, resolveHeaders_eq hmean, hnone]
    rfl
  | bodyMissing hurl hmean hnone hbody =>
    rw [resolve_after_url hurl, resolveHeaders_eq hmean, hnone]
    simp only [hbody, Option.elim_some]
  | request hurl hmean hnone hbody =>
    rw [resolve_after_url hurl, resolveHeaders_eq hmean, hnone]
    simp only [hbody, Option.elim_some]

/-- and one of them always fits. -/
theorem exists_resolves (scope : Scope) (e : Entry) : ∃ r, Resolves scope e r := by
  cases hurl : scope.firstMissing? [e.urlTemplate] with
  | some name => exact ⟨_, .urlMissing hurl⟩
  | none =>
    obtain ⟨templates, headers, hmean⟩ := exists_headersMean scope.text e.headers
    cases hmissing : scope.firstMissing? templates with
    | some name => exact ⟨_, .headersMissing hurl hmean hmissing⟩
    | none =>
      cases headers with
      | none => exact ⟨_, .headersMeaningless hurl hmean hmissing⟩
      | some headers =>
        cases hbody : scope.firstMissing? (e.bodyTemplates scope) with
        | some name => exact ⟨_, .bodyMissing hurl hmean hmissing hbody⟩
        | none => exact ⟨_, .request hurl hmean hmissing hbody⟩

theorem resolve_iff_resolves {scope : Scope} {e : Entry} {r : Except ResolveError Request} :
    e.resolve scope = r ↔ Resolves scope e r := by
  constructor
  · rintro rfl
    obtain ⟨r, h⟩ := exists_resolves scope e
    exact h.eq ▸ h
  · exact Resolves.eq

end Entry

/-! ## 3. Calls of a catalog -/

namespace Book

/-- No entry has exactly this service and name. -/
def Lacks (entries : List Entry) (service name : String) : Prop :=
  ∀ e ∈ entries, ¬ (e.service = service ∧ e.name = name)

theorem isNamed_iff {e : Entry} {service name : String} :
    e.isNamed service name = true ↔ e.service = service ∧ e.name = name := by
  simp [Entry.isNamed]

theorem firstNamed?_eq_none_iff {entries : List Entry} {service name : String} :
    firstNamed? entries service name = none ↔ Lacks entries service name := by
  simp only [firstNamed?, List.find?_eq_none, isNamed_iff, Lacks]

/-- The first entry with a service and name is the one that no other stands before. -/
theorem firstNamed?_eq_some_iff {entries : List Entry} {service name : String} {d : Entry} :
    firstNamed? entries service name = some d ↔
      (d.service = service ∧ d.name = name) ∧
        ∃ before after, entries = before ++ d :: after ∧ Lacks before service name := by
  rw [firstNamed?, List.find?_eq_some_iff_append, isNamed_iff]
  simp only [Lacks, ← isNamed_iff, Bool.not_eq_true, Bool.not_eq_eq_eq_not, Bool.not_true]

theorem firstNamed?_append_cons {before : List Entry} {d : Entry} (after : List Entry)
    {service name : String} (hservice : d.service = service) (hname : d.name = name)
    (hbefore : Lacks before service name) :
    firstNamed? (before ++ d :: after) service name = some d :=
  firstNamed?_eq_some_iff.2 ⟨⟨hservice, hname⟩, before, after, rfl, hbefore⟩

/-- What a book answers to a call.  Each rule holds only where nothing is wrong that counts
before. -/
inductive Answers (b : Book) (service name : String) (overrides : Bindings)
    (explicit : Option String) : Except RequestError Request → Prop
  /-- The catalog is not loaded. -/
  | notLoaded {cause : Catalog.CatalogError} :
      b.entries explicit = .error cause →
        Answers b service name overrides explicit (.error (.notLoaded cause))
  /-- It is loaded and has no such call. -/
  | unknownCall {entries : List Entry} :
      b.entries explicit = .ok entries → Lacks entries service name →
        Answers b service name overrides explicit (.error (.unknownCall service name))
  /-- The first entry with this service and name counts. -/
  | found {before after : List Entry} {d : Entry} {r : Except ResolveError Request} :
      b.entries explicit = .ok (before ++ d :: after) → d.service = service → d.name = name →
      Lacks before service name → d.Resolves (b.scope overrides) r →
        Answers b service name overrides explicit (r.mapError .notResolved)

variable {b : Book} {service name : String} {overrides : Bindings} {explicit : Option String}

theorem Answers.eq {r : Except RequestError Request}
    (h : b.Answers service name overrides explicit r) :
    b.request service name overrides explicit = r := by
  cases h with
  | notLoaded hload => simp only [request, hload]
  | unknownCall hload hlacks => simp only [request, hload, firstNamed?_eq_none_iff.2 hlacks]
  | found hload hservice hname hbefore hresolves =>
    simp only [request, hload, firstNamed?_append_cons _ hservice hname hbefore, hresolves.eq]

theorem exists_answers (b : Book) (service name : String) (overrides : Bindings)
    (explicit : Option String) : ∃ r, b.Answers service name overrides explicit r := by
  cases hload : b.entries explicit with
  | error cause => exact ⟨_, .notLoaded hload⟩
  | ok entries =>
    cases hfirst : firstNamed? entries service name with
    | none => exact ⟨_, .unknownCall hload (firstNamed?_eq_none_iff.1 hfirst)⟩
    | some d =>
      obtain ⟨⟨hservice, hname⟩, before, after, rfl, hbefore⟩ := firstNamed?_eq_some_iff.1 hfirst
      obtain ⟨r, hresolves⟩ := d.exists_resolves (b.scope overrides)
      exact ⟨_, .found hload hservice hname hbefore hresolves⟩

/-- **A book answers what the rules give.** -/
theorem request_iff_answers {r : Except RequestError Request} :
    b.request service name overrides explicit = r ↔
      b.Answers service name overrides explicit r := by
  constructor
  · rintro rfl
    obtain ⟨r, h⟩ := exists_answers b service name overrides explicit
    exact h.eq ▸ h
  · exact Answers.eq

theorem find?_of_first {before after : List Entry} {d : Entry}
    (hload : b.entries explicit = .ok (before ++ d :: after)) (hservice : d.service = service)
    (hname : d.name = name) (hbefore : Lacks before service name) :
    b.find? service name explicit = .ok (some d) := by
  rw [find?, Catalog.Loader.find?, ← entries, hload]
  exact congrArg Except.ok (firstNamed?_append_cons after hservice hname hbefore)

/-- Only a call that a loaded catalog lacks is unknown. -/
theorem isUnknownCall_iff {cause : RequestError}
    (h : b.request service name overrides explicit = .error cause) :
    (CallError.request cause).isUnknownCall = true ↔
      ∃ entries, b.entries explicit = .ok entries ∧ Lacks entries service name := by
  generalize hr : (Except.error cause : Except RequestError Request) = r at h
  cases request_iff_answers.1 h with
  | notLoaded hload =>
    cases hr
    simp [CallError.isUnknownCall, hload]
  | unknownCall hload hlacks =>
    cases hr
    simp [CallError.isUnknownCall, hload, hlacks]
  | @found before after d r hload hservice hname hbefore hresolves =>
    have hlacks : ¬ Lacks (before ++ d :: after) service name := fun h =>
      h d (List.mem_append_right _ List.mem_cons_self) ⟨hservice, hname⟩
    cases r with
    | ok request => cases hr
    | error cause =>
      cases hr
      simp [CallError.isUnknownCall, hload, hlacks]

/-- **What comes of a request.**  The answer is the one that the rules give.  Of a catalog that
is loaded the headers of all entries have their fields in the order of the names, the entry
that counts is the one that is found, and a failure is that of an unknown call exactly if no
entry has the service and name. -/
theorem request_outcome (b : Book) (service name : String) (overrides : Bindings)
    (explicit : Option String) :
    (∀ r, b.request service name overrides explicit = r ↔
      b.Answers service name overrides explicit r) ∧
    (∀ entries, b.entries explicit = .ok entries → ∀ e ∈ entries, e.headers.Ordered) ∧
    (∀ before d after, b.entries explicit = .ok (before ++ d :: after) →
      d.service = service → d.name = name → Lacks before service name →
        b.find? service name explicit = .ok (some d)) ∧
    ∀ cause, b.request service name overrides explicit = .error cause →
      ((CallError.request cause).isUnknownCall = true ↔
        ∃ entries, b.entries explicit = .ok entries ∧ Lacks entries service name) := by
  refine ⟨fun r => request_iff_answers, ?_, ?_, fun cause => isUnknownCall_iff⟩
  · intro entries hload
    exact Catalog.Loader.headers_ordered hload
  · intro before d after
    exact find?_of_first

end Book

end CallBook

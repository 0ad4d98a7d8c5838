import CallBook.Proofs.Request.Outcome
/-!
# What a request depends on

The variables that occur in the templates of an entry, and the aliases of those, are all that
can reach its request or its failure; where the body names a provider, the variable of the
provider is one more.  Of these only the value counts that the overrides lay over the
environment, so it does not matter which of the two it is from.

The body is a template only after the provider is named in it, so what an entry depends on is
itself read off one scope.  Two scopes that agree on it read off the same
(`dependencies_congr`), and resolve the entry alike (`resolve_congr`).  So any other variable
may be set (`resolve_insert`), and overrides may move to the environment (`resolve_overlay`).
-/

namespace CallBook

open Json (Value)

/-! ## 1. Look-ups -/

/-- Two scopes give every variable the same aliases, and some variables the same values. -/
structure Scope.AgreeOn (names : List String) (s t : Scope) : Prop where
  aliases : s.aliases = t.aliases
  direct : ∀ n ∈ names, s.direct? n = t.direct? n

theorem Scope.AgreeOn.mono {names some : List String} {s t : Scope} (h : s.AgreeOn names t)
    (hsub : ∀ n ∈ some, n ∈ names) : s.AgreeOn some t :=
  ⟨h.aliases, fun n hn => h.direct n (hsub n hn)⟩

theorem Scope.candidates_congr {s t : Scope} (h : s.aliases = t.aliases) (name : String) :
    s.candidates name = t.candidates name := by
  rw [candidates, candidates, h]

/-- A look-up reads a variable and its aliases. -/
theorem Scope.lookup?_congr {s t : Scope} {name : String}
    (h : s.AgreeOn (s.candidates name) t) : s.lookup? name = t.lookup? name := by
  rw [lookup?, lookup?, ← candidates_congr h.aliases]
  have hall := h.direct
  generalize s.candidates name = names at hall
  induction names with
  | nil => rfl
  | cons n names ih =>
    rw [List.findSome?_cons, List.findSome?_cons, hall n List.mem_cons_self,
      ih fun m hm => hall m (List.mem_cons_of_mem n hm)]

/-! ## 2. Templates -/

namespace Template

/-- The variable of a placeholder. -/
def Piece.variable? : Piece → Option String
  | .placeholder _ name => some (String.ofList name)
  | _ => none

/-- The variables that occur in templates. -/
def variableNames (templates : List String) : List String :=
  (templates.flatMap fun t => scan t.toList).filterMap Piece.variable?

/-- All that is looked at for the variables of templates. -/
def reads (s : Scope) (templates : List String) : List String :=
  (variableNames templates).flatMap s.candidates

theorem mem_reads_of_mem {s : Scope} {templates : List String} {t : String} (ht : t ∈ templates) :
    ∀ n ∈ reads s [t], n ∈ reads s templates := by
  intro n hn
  simp only [reads, variableNames, List.mem_flatMap, List.mem_filterMap, List.mem_singleton] at hn ⊢
  obtain ⟨v, ⟨p, ⟨t', rfl, hp⟩, hv⟩, hcandidate⟩ := hn
  exact ⟨v, ⟨p, ⟨t', ht, hp⟩, hv⟩, hcandidate⟩

/-- A piece reads the value of its variable. -/
theorem Piece.value_congr {lookup lookup' : String → Option String} {p : Piece}
    (h : ∀ n ∈ p.variable?, lookup n = lookup' n) : p.value lookup = p.value lookup' := by
  cases p with
  | literal c => rfl
  | dollar => rfl
  | placeholder required name => rw [value, value, h (String.ofList name) rfl]

theorem value_congr {lookup lookup' : String → Option String} : ∀ {ps : List Piece},
    (∀ n ∈ ps.filterMap Piece.variable?, lookup n = lookup' n) → value lookup ps = value lookup' ps
  | [], _ => rfl
  | p :: ps, h => by
    have hp : ∀ n ∈ p.variable?, lookup n = lookup' n := fun n hn =>
      h n (List.mem_filterMap.2 ⟨p, List.mem_cons_self, hn⟩)
    have hps : ∀ n ∈ ps.filterMap Piece.variable?, lookup n = lookup' n := fun n hn => by
      obtain ⟨q, hq, hqn⟩ := List.mem_filterMap.1 hn
      exact h n (List.mem_filterMap.2 ⟨q, List.mem_cons_of_mem p hq, hqn⟩)
    rw [value, value, Piece.value_congr hp, value_congr hps]

/-- **Substitution reads the variables of the template.** -/
theorem substitute_congr {s t : Scope} {template : String}
    (h : s.AgreeOn (reads s [template]) t) : substitute s template = substitute t template := by
  rw [substitute, substitute, value_congr]
  intro n hn
  refine Scope.lookup?_congr (h.mono fun m hm => ?_)
  simp only [reads, variableNames, List.flatMap_singleton, List.mem_flatMap]
  exact ⟨n, hn, hm⟩

mutual

theorem mapStrings_congr {ε : Type} {leaf leaf' : String → Except ε String} : ∀ {v : Value},
    (∀ s ∈ strings v, leaf s = leaf' s) → mapStrings leaf v = mapStrings leaf' v
  | .string s, h => by
    rw [mapStrings, mapStrings, h s (by simp [strings])]
  | .array items, h => by
    rw [mapStrings, mapStrings, mapItems_congr fun s hs => h s (by rwa [strings])]
  | .object fields, h => by
    rw [mapStrings, mapStrings, mapFields_congr fun s hs => h s (by rwa [strings])]
  | .null, _ => rfl
  | .bool _, _ => rfl
  | .number _, _ => rfl

theorem mapItems_congr {ε : Type} {leaf leaf' : String → Except ε String} :
    ∀ {items : List Value},
      (∀ s ∈ itemStrings items, leaf s = leaf' s) → mapItems leaf items = mapItems leaf' items
  | [], _ => rfl
  | v :: vs, h => by
    rw [mapItems, mapItems, mapStrings_congr fun s hs => h s (List.mem_append_left _ hs),
      mapItems_congr fun s hs => h s (List.mem_append_right _ hs)]

theorem mapFields_congr {ε : Type} {leaf leaf' : String → Except ε String} :
    ∀ {fields : List (String × Value)},
      (∀ s ∈ fieldStrings fields, leaf s = leaf' s) →
        mapFields leaf fields = mapFields leaf' fields
  | [], _ => rfl
  | (k, v) :: rest, h => by
    rw [mapFields, mapFields, mapStrings_congr fun s hs => h s (List.mem_append_left _ hs),
      mapFields_congr fun s hs => h s (List.mem_append_right _ hs)]

end

end Template

/-! ## 3. Entries -/

/-- Without the snippet a body stays as it is, whoever the provider is. -/
theorem Provider.inject_of_not_occurs {body : String}
    (h : Text.occurs snippet.toList body.toList = false) (provider : Option String) :
    inject body provider = body := by
  have hsplit : Text.splitFirst snippet.toList body.toList = none := by
    rwa [Text.occurs, Option.isSome_eq_false_iff, Option.isNone_iff_eq_none] at h
  unfold inject
  split <;> simp [Text.replaceFirst, hsplit]

namespace Entry

/-- The templates of the headers in the order in which they are substituted. -/
def headerTemplates (e : Entry) : List String :=
  match e.bearer? with
  | some template => [template]
  | none => Template.strings e.headers

/-- Does the trimmed body contain the provider snippet? -/
def asksProvider (e : Entry) : Bool :=
  e.body.any fun body => Text.occurs Provider.snippet.toList (Text.trim body.toList)

/-- All names that can have a say in the request of an entry: the variables in its templates,
the aliases of these, and the variable of the provider if the body asks for one. -/
def dependencies (s : Scope) (e : Entry) : List String :=
  Template.reads s (e.urlTemplate :: (e.headerTemplates ++ e.bodyTemplates s)) ++
    if e.asksProvider then [Provider.variableName] else []

variable {s t : Scope} {e : Entry}

theorem substitute_congr {template : String} (h : s.AgreeOn (Template.reads s [template]) t) :
    substitute s template = substitute t template := by
  rw [substitute, substitute, Template.substitute_congr h]

theorem resolveHeaders_congr
    (h : ∀ template ∈ e.headerTemplates, s.AgreeOn (Template.reads s [template]) t) :
    e.resolveHeaders s = e.resolveHeaders t := by
  unfold headerTemplates at h
  cases hbearer : e.bearer? with
  | some template =>
    rw [hbearer] at h
    simp only [resolveHeaders, hbearer, substitute_congr (h template List.mem_cons_self)]
  | none =>
    rw [hbearer] at h
    have hwalk : Template.walk s e.headers = Template.walk t e.headers :=
      Template.mapStrings_congr fun template htemplate =>
        Template.substitute_congr (h template htemplate)
    simp only [resolveHeaders, hbearer, hwalk]

/-- The body is the same template in both scopes. -/
theorem bodyTemplate_congr {body : String} (hbody : e.body = some body)
    (h : s.AgreeOn (e.dependencies s) t) :
    bodyTemplate (s.direct? Provider.variableName) body =
      bodyTemplate (t.direct? Provider.variableName) body := by
  cases hasks : e.asksProvider with
  | true =>
    rw [h.direct Provider.variableName]
    simp [dependencies, hasks]
  | false =>
    rw [asksProvider, hbody, Option.any_some] at hasks
    have hnone : Text.occurs Provider.snippet.toList
        (String.ofList (Text.trim body.toList)).toList = false := by
      rwa [String.toList_ofList]
    rw [bodyTemplate, bodyTemplate, Provider.inject_of_not_occurs hnone,
      Provider.inject_of_not_occurs hnone]

theorem bodyTemplates_congr (h : s.AgreeOn (e.dependencies s) t) :
    e.bodyTemplates s = e.bodyTemplates t := by
  cases hbody : e.body with
  | none => simp only [bodyTemplates, hbody, Option.map_none]
  | some body => simp only [bodyTemplates, hbody, Option.map_some, bodyTemplate_congr hbody h]

/-- **Scopes that agree on what an entry depends on agree on what that is.** -/
theorem dependencies_congr (h : s.AgreeOn (e.dependencies s) t) :
    e.dependencies s = e.dependencies t := by
  have hcandidates : s.candidates = t.candidates := funext (Scope.candidates_congr h.aliases)
  rw [dependencies, dependencies, Template.reads, Template.reads, bodyTemplates_congr h,
    hcandidates]

/-- **Scopes that agree on what an entry depends on resolve it alike.** -/
theorem resolve_congr (h : s.AgreeOn (e.dependencies s) t) : e.resolve s = e.resolve t := by
  have hreads : ∀ template ∈ e.urlTemplate :: (e.headerTemplates ++ e.bodyTemplates s),
      s.AgreeOn (Template.reads s [template]) t := fun template htemplate =>
    h.mono fun n hn => List.mem_append_left _ (Template.mem_reads_of_mem htemplate n hn)
  have hurl : substitute s (e.url.getD "") = substitute t (e.url.getD "") :=
    substitute_congr (hreads _ List.mem_cons_self)
  have hheaders : e.resolveHeaders s = e.resolveHeaders t :=
    resolveHeaders_congr fun template htemplate =>
      hreads _ (List.mem_cons_of_mem _ (List.mem_append_left _ htemplate))
  unfold resolve
  rw [hurl, hheaders]
  cases hbody : e.body with
  | none => rfl
  | some body =>
    have hresolve : resolveBody s body = resolveBody t body := by
      rw [resolveBody, resolveBody, ← bodyTemplate_congr hbody h]
      refine substitute_congr (hreads _ (List.mem_cons_of_mem _ (List.mem_append_right _ ?_)))
      simp [bodyTemplates, hbody]
    simp only [hresolve]

/-- A variable that an entry does not depend on may be set to anything. -/
theorem resolve_insert {name : String} (h : name ∉ e.dependencies s) (value : String) :
    e.resolve { s with overrides := s.overrides.insert name value } = e.resolve s := by
  have hagree : s.AgreeOn (e.dependencies s)
      { s with overrides := s.overrides.insert name value } := by
    refine ⟨rfl, fun n hn => ?_⟩
    have hne : n ≠ name := fun heq => h (heq ▸ hn)
    simp only [Scope.direct?, Bindings.get?_insert, if_neg hne]
  exact (resolve_congr hagree).symm

/-- The overrides may as well come from an environment that lists them first. -/
theorem resolve_overlay (e : Entry) (s : Scope) :
    e.resolve ⟨.empty, ⟨s.overrides.entries ++ s.environment.entries⟩, s.aliases⟩ =
      e.resolve s := by
  have hagree : s.AgreeOn (e.dependencies s)
      ⟨.empty, ⟨s.overrides.entries ++ s.environment.entries⟩, s.aliases⟩ := by
    refine ⟨rfl, fun n _ => ?_⟩
    rw [Scope.direct?, Scope.direct?, Bindings.get?_empty, Option.none_or]
    exact List.lookup_append.symm
  exact (resolve_congr hagree).symm

/-! ## 4. Two callers -/

/-- **Only the values of the dependencies reach a request or its failure.**  Two callers whose
overrides and environments overlay to the same values on the dependencies of an entry have the
same dependencies, and the same request or the same failure. -/
theorem resolve_eq_of_overlays (e : Entry) (aliases : AliasTable)
    (overrides environment overrides' environment' : Bindings)
    (h : ∀ n ∈ e.dependencies ⟨overrides, environment, aliases⟩,
      (overrides.get? n).or (environment.get? n) =
        (overrides'.get? n).or (environment'.get? n)) :
    e.dependencies ⟨overrides, environment, aliases⟩ =
        e.dependencies ⟨overrides', environment', aliases⟩ ∧
      e.resolve ⟨overrides, environment, aliases⟩ =
        e.resolve ⟨overrides', environment', aliases⟩ := by
  have hagree : Scope.AgreeOn (e.dependencies ⟨overrides, environment, aliases⟩)
      ⟨overrides, environment, aliases⟩ ⟨overrides', environment', aliases⟩ := ⟨rfl, h⟩
  exact ⟨dependencies_congr hagree, resolve_congr hagree⟩

/-- A call with a version, a key and a provider. -/
def chat : Entry :=
  { Entry.named "models" "chat" with
    url := some "https://models.test/chat$VERSION"
    headers := .string "BEARER $!API_KEY"
    body := some ("\x7b\"n\": 1" ++ Provider.snippet ++ "\x7d") }

/-- The provider is an override or in the environment, the key is that of an alias, and one of
the environments has a variable more. -/
theorem resolve_chat_eq :
    (∀ n ∈ chat.dependencies
        ⟨.ofList [("PROVIDER", "p")], .ofList [("OPENAI_API_KEY", "k")], .standard⟩,
      ((Bindings.ofList [("PROVIDER", "p")]).get? n).or
          ((Bindings.ofList [("OPENAI_API_KEY", "k")]).get? n) =
        ((Bindings.ofList [("OPENAI_API_KEY", "k")]).get? n).or
          ((Bindings.ofList [("PROVIDER", "p"), ("HOME", "/")]).get? n)) ∧
    chat.resolve ⟨.ofList [("PROVIDER", "p")], .ofList [("OPENAI_API_KEY", "k")], .standard⟩ =
      chat.resolve ⟨.ofList [("OPENAI_API_KEY", "k")],
        .ofList [("PROVIDER", "p"), ("HOME", "/")], .standard⟩ := by
  refine ⟨by decide +kernel, ?_⟩
  exact (resolve_eq_of_overlays chat .standard _ _ _ _ (by decide +kernel)).2

end Entry

end CallBook

/-!
# Variables

A variable has a value if the caller's overrides give one, else if the environment gives
one, else if one of its aliases has a value in either.  An alias is a fallback name; the
aliases of an alias are never consulted, so a table may be cyclic.
-/

namespace CallBook

/-- Texts by name.  The first entry of a name counts. -/
structure Bindings where
  entries : List (String × String)
deriving Repr, DecidableEq

namespace Bindings

def empty : Bindings := ⟨[]⟩

/-- The value of a name. -/
def get? (b : Bindings) (name : String) : Option String := b.entries.lookup name

/-- The bindings without a name. -/
def erase (b : Bindings) (name : String) : Bindings :=
  ⟨b.entries.filter (·.1 != name)⟩

/-- The bindings with a name set, whatever it was before. -/
def insert (b : Bindings) (name value : String) : Bindings :=
  ⟨(name, value) :: (b.erase name).entries⟩

/-- The bindings that a list of assignments leaves, the later ones winning. -/
def ofList (assignments : List (String × String)) : Bindings :=
  assignments.foldl (fun b (name, value) => b.insert name value) empty

@[simp] theorem get?_empty (name : String) : empty.get? name = none := rfl

theorem get?_erase (b : Bindings) (name other : String) :
    (b.erase name).get? other = if other = name then none else b.get? other := by
  obtain ⟨entries⟩ := b
  simp only [get?, erase]
  induction entries with
  | nil => simp
  | cons e es ih =>
    obtain ⟨k, v⟩ := e
    by_cases hk : k = name <;> by_cases ho : other = k
    · subst hk ho; simpa using ih
    · have hb : (other == k) = false := by simp [ho]
      subst hk; simp [List.lookup_cons, hb, ho, ih]
    · subst ho; simp [hk]
    · have hb : (other == k) = false := by simp [ho]
      simp [hk, List.lookup_cons, hb, ih]

theorem get?_insert (b : Bindings) (name value other : String) :
    (b.insert name value).get? other = if other = name then some value else b.get? other := by
  by_cases h : other = name
  · simp [insert, get?, h]
  · have := get?_erase b name other
    simp only [get?, h, if_false] at this
    have hb : (other == name) = false := by simp [h]
    simp [insert, get?, List.lookup_cons, hb, h, this]

end Bindings

/-- The fallback names of some variables. -/
structure AliasTable where
  entries : List (String × List String)
deriving Repr, DecidableEq

namespace AliasTable

/-- No variable has aliases. -/
def empty : AliasTable := ⟨[]⟩

/-- The fallback names of a variable, in the order in which they are tried. -/
def aliases? (t : AliasTable) (name : String) : Option (List String) := t.entries.lookup name

/-- The table with the aliases of a name set, whatever they were before. -/
def insert (t : AliasTable) (name : String) (aliases : List String) : AliasTable :=
  ⟨(name, aliases) :: t.entries.filter (·.1 != name)⟩

def isEmpty (t : AliasTable) : Bool := t.entries.isEmpty

/-- The keys of the providers, which stand in for each other. -/
def standard : AliasTable :=
  (((empty.insert "API_KEY" ["OPENAI_API_KEY", "OPENROUTER_API_KEY", "CEREBRAS_API_KEY"]).insert
    "OPENAI_API_KEY" ["API_KEY"]).insert
    "OPENROUTER_API_KEY" ["API_KEY"]).insert
    "CEREBRAS_API_KEY" ["API_KEY"]

/-- Two tables give every variable the same aliases. -/
def sameAs (s t : AliasTable) : Bool :=
  s.entries.all (fun e => t.aliases? e.1 == s.aliases? e.1) &&
  t.entries.all (fun e => s.aliases? e.1 == t.aliases? e.1)

end AliasTable

/-- Where variables get their values. -/
structure Scope where
  overrides : Bindings
  environment : Bindings
  aliases : AliasTable
deriving Repr, DecidableEq

namespace Scope

/-- The value of a name itself: the override, or else the environment's value. -/
def direct? (s : Scope) (name : String) : Option String :=
  (s.overrides.get? name).or (s.environment.get? name)

/-- The names that are tried for a variable, in order: itself, then its aliases. -/
def candidates (s : Scope) (name : String) : List String :=
  name :: (s.aliases.aliases? name).getD []

/-- The value of a variable: of its candidates the first that has one. -/
def lookup? (s : Scope) (name : String) : Option String :=
  (s.candidates name).findSome? s.direct?

/-- Does the variable have its value from an alias? -/
def usesAlias (s : Scope) (name : String) : Bool :=
  (s.direct? name).isNone && (s.lookup? name).isSome

end Scope

end CallBook

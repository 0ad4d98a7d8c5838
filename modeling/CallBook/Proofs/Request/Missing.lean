import CallBook.Proofs.Request.Dependence
/-!
# Values that are missing

A piece of a template misses a value if it requires a variable that has none, and a template
misses what one of its pieces misses (`Scope.Misses`).  Where a request is made, none of the
templates of its entry misses anything, and each text is the text of its template
(`Entry.resolve_eq_ok`).
-/

namespace CallBook

open Template (scan Piece)

/-! ## 1. Pieces and templates -/

namespace Scope

/-- Some piece requires a variable that has no value. -/
def Misses (s : Scope) (pieces : List Piece) : Prop :=
  ∃ name, .placeholder true name ∈ pieces ∧ s.lookup? (String.ofList name) = none

theorem misses_append {s : Scope} {ps qs : List Piece} :
    s.Misses (ps ++ qs) ↔ s.Misses ps ∨ s.Misses qs := by
  simp only [Misses, List.mem_append, or_and_right, exists_or]

theorem not_misses_literals (s : Scope) (cs : List Char) : ¬ s.Misses (cs.map .literal) := by
  simp [Misses]

theorem missing?_eq_none_iff {s : Scope} {p : Piece} :
    p.missing? s.lookup? = none ↔
      ∀ name, p = .placeholder true name → s.lookup? (String.ofList name) ≠ none := by
  cases p with
  | literal c => simp [Piece.missing?]
  | dollar => simp [Piece.missing?]
  | placeholder required name => cases required <;> simp [Piece.missing?]

theorem not_misses_iff {s : Scope} {pieces : List Piece} :
    ¬ s.Misses pieces ↔ ∀ p ∈ pieces, p.missing? s.lookup? = none := by
  simp only [missing?_eq_none_iff]
  constructor
  · rintro h p hp name rfl hnone
    exact h ⟨name, hp, hnone⟩
  · rintro h ⟨name, hmem, hnone⟩
    exact h _ hmem name rfl hnone

theorem firstMissing?_eq_none_iff {s : Scope} {templates : List String} :
    s.firstMissing? templates = none ↔ ∀ t ∈ templates, ¬ s.Misses (scan t.toList) := by
  simp only [firstMissing?, not_misses_iff, List.findSome?_eq_none_iff, List.mem_flatMap]
  constructor
  · intro h t ht p hp
    exact h p ⟨t, ht, hp⟩
  · rintro h p ⟨t, ht, hp⟩
    exact h t ht p hp

end Scope

theorem Template.substitute_of_not_misses {s : Scope} {template : String}
    (h : ¬ s.Misses (scan template.toList)) : substitute s template = .ok (s.text template) := by
  have hnone : s.firstMissing? [template] = none :=
    Scope.firstMissing?_eq_none_iff.2 (by simpa using h)
  rw [substitute_eq, hnone]

/-! ## 2. Entries -/

namespace Entry

/-- The headers mean what their templates say. -/
theorem HeadersMean.templates_eq {text : String → String} {e : Entry} {templates : List String}
    {headers : Option (List (String × String))}
    (h : HeadersMean text e.headers templates headers) : templates = e.headerTemplates := by
  generalize hv : e.headers = v at h
  cases h with
  | bearer rest => rw [headerTemplates, bearer?_of_mark hv]
  | absent =>
    rw [headerTemplates, bearer?_eq_none (by simp [hv]), hv]
    rfl
  | object fields =>
    rw [headerTemplates, bearer?_eq_none (by simp [hv]), hv]
    rfl
  | meaningless hbearer hnull hobject =>
    rw [headerTemplates, bearer?_eq_none (by rwa [hv]), hv]

/-- **What a request that is made says of its entry.**  No template misses a value, and the body
is the text of its template. -/
theorem resolve_eq_ok {scope : Scope} {e : Entry} {r : Request} (h : e.resolve scope = .ok r) :
    (∀ t ∈ e.urlTemplate :: (e.headerTemplates ++ e.bodyTemplates scope),
      ¬ scope.Misses (scan t.toList)) ∧
    r.body = e.body.map fun body =>
      scope.text (bodyTemplate (scope.direct? Provider.variableName) body) := by
  cases resolve_iff_resolves.1 h with
  | request hurl hmean hheaders hbody =>
    rw [hmean.templates_eq] at hheaders
    refine ⟨fun t ht => ?_, rfl⟩
    rcases List.mem_cons.1 ht with rfl | ht
    · exact Scope.firstMissing?_eq_none_iff.1 hurl _ List.mem_cons_self
    · rcases List.mem_append.1 ht with ht | ht
      · exact Scope.firstMissing?_eq_none_iff.1 hheaders t ht
      · exact Scope.firstMissing?_eq_none_iff.1 hbody t ht

end Entry

end CallBook

import Mathlib
import CallBook.Proofs.Request.Provider
/-!
# Where a provider is named

A provider is named in a body in the place of the leftmost snippet, and nowhere else: what stands
before that snippet and what stands behind it is not looked at again, whether it has the snippet
once more or comes to form it where the snippet goes.  Nor is the provider looked at: it stands
between the two parts of the snippet as it is, with the token or the snippet in it or not.

`Injected` has one rule for each outcome, said by the parts of the body and of the snippet;
`inject_outcome` says that naming a provider does what the rules say.
-/

namespace CallBook.Provider

/-! ## 1. The parts of the snippet and of a body -/

/-- The token stands in the snippet once. -/
theorem snippet_parts {before after : List Char} :
    snippet.toList = before ++ token.toList ++ after ↔
      before = opening.toList ∧ after = closing.toList := by
  have htoken : token.toList = '$' :: "PROVIDER".toList := by decide
  have hopening : '$' ∉ opening.toList := by decide
  have hclosing : '$' ∉ "PROVIDER".toList ++ closing.toList := by decide
  constructor
  · intro h
    rw [snippet_eq, htoken] at h
    simp only [List.append_assoc, List.cons_append] at h
    obtain ⟨hbefore, -, hafter⟩ := (List.append_cons_inj_of_notMem hopening hclosing).1 h
    exact ⟨hbefore.symm, (List.append_cancel_left hafter).symm⟩
  · rintro ⟨rfl, rfl⟩
    exact snippet_eq

/-- What naming a provider makes of a body. -/
inductive Injected (body : List Char) : Option String → List Char → Prop
  /-- A body without the snippet stays as it is. -/
  | untouched {provider : Option String} :
      ¬ snippet.toList <:+: body → Injected body provider body
  /-- A provider stands between the two parts of the leftmost snippet. -/
  | named {before after : List Char} {provider : String} :
      Text.Leftmost snippet.toList body before after → provider ≠ "" →
        Injected body (some provider)
          (before ++ (opening.toList ++ provider.toList ++ closing.toList) ++ after)
  /-- Without one the leftmost snippet goes; the empty text is no provider. -/
  | removed {before after : List Char} {provider : Option String} :
      Text.Leftmost snippet.toList body before after → (∀ p ∈ provider, p = "") →
        Injected body provider (before ++ after)

/-! ## 2. Naming a provider -/

theorem inserted_of_empty {provider : Option String} (h : ∀ p ∈ provider, p = "") :
    inserted provider = [] := by
  cases provider with
  | none => rfl
  | some p =>
    obtain rfl : p = "" := h p rfl
    rfl

theorem Injected.eq {body : String} {provider : Option String} {r : List Char}
    (h : Injected body.toList provider r) : (inject body provider).toList = r := by
  generalize hcs : body.toList = cs at h
  cases h with
  | untouched hnot =>
    rw [← hcs] at hnot ⊢
    rw [inject_of_not_occurs (Bool.eq_false_iff.2 (mt Text.occurs_iff.1 hnot))]
  | named hfirst hne =>
    rw [← hcs] at hfirst
    rw [toList_inject hfirst, inserted_some hne, named_eq]
  | removed hfirst hempty =>
    rw [← hcs] at hfirst
    rw [toList_inject hfirst, inserted_of_empty hempty, List.append_nil]

theorem exists_injected (body : List Char) (provider : Option String) :
    ∃ r, Injected body provider r := by
  by_cases hoccurs : snippet.toList <:+: body
  · obtain ⟨before, after, hfirst⟩ := Text.exists_leftmost hoccurs
    have hfirst := (hfirst before after).2 ⟨rfl, rfl⟩
    by_cases hempty : ∀ p ∈ provider, p = ""
    · exact ⟨_, .removed hfirst hempty⟩
    · cases provider with
      | none => exact absurd (fun p hp => by cases hp) hempty
      | some p =>
        have hne : p ≠ "" := by
          rintro rfl
          exact hempty fun q hq => (Option.some.inj hq).symm
        exact ⟨_, .named hfirst hne⟩
  · exact ⟨_, .untouched hoccurs⟩

/-- **What naming a provider makes of a body.**  It is what the rules say.  The snippet that they
speak of is the only leftmost one, and the token stands in it once. -/
theorem inject_outcome (body : String) (provider : Option String) :
    (∀ r, (inject body provider).toList = r ↔ Injected body.toList provider r) ∧
    (snippet.toList <:+: body.toList →
      ∃ before after, ∀ b a,
        Text.Leftmost snippet.toList body.toList b a ↔ b = before ∧ a = after) ∧
    ∀ before after, snippet.toList = before ++ token.toList ++ after ↔
      before = opening.toList ∧ after = closing.toList := by
  refine ⟨fun r => ⟨?_, Injected.eq⟩, Text.exists_leftmost, fun before after => snippet_parts⟩
  rintro rfl
  obtain ⟨r, hr⟩ := exists_injected body.toList provider
  exact hr.eq ▸ hr

/-! ### A snippet that the removal of another forms, and one behind a part of itself -/

example : inject (", \"provi" ++ snippet ++ "der\": \x7b\"order\": [\"$PROVIDER\"]\x7d") none =
    snippet := by
  decide_cbv

example : inject (", \"provider\": " ++ snippet ++ snippet) (some "$PROVIDER") =
    ", \"provider\": " ++ snippet ++ snippet := by
  decide_cbv

end CallBook.Provider

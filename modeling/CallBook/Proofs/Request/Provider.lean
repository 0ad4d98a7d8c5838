import Mathlib
import CallBook.Proofs.Request.Missing
import CallBook.Proofs.Results
import CallBook.Proofs.Template.Joint
import CallBook.Proofs.Text.Cuts
/-!
# What naming a provider does to a body

The provider is named in a body before the body is substituted, so what is substituted is not
the text that the entry has.  This module says how the two differ.

With a provider the text before the snippet and the text after it are cut as if they stood
alone, whatever the provider is: the snippet begins and ends with characters that nothing reaches
across (`scan_around`).  But the provider's own text stands in a template then, and comes out as
it was only if substitution leaves it alone (`resolve_body_of_provider`): a dollar in it counts.

Without a provider the two texts are put side by side.  If they meet, every placeholder of the
body is still one, and a required one that has no value still fails the request
(`resolve_fails_of_misses`).  If they do not, a dollar at the end of the first and a required
placeholder at the start of the second make an escape, and the request is made
(`resolve_joined`).
-/

namespace CallBook

open Template (scan Meets Piece)

/-! ## 1. The snippet -/

namespace Provider

/-- The snippet up to the provider. -/
def opening : String := ", \"provider\": \x7b\"order\": [\""

/-- The snippet after the provider. -/
def closing : String := "\"]\x7d"

theorem leftmost_token :
    Text.Leftmost token.toList snippet.toList opening.toList closing.toList := by
  rw [← Text.splitFirst_eq_some_iff]
  decide_cbv

/-- The snippet stands around the provider that it names. -/
theorem named_eq (provider : String) :
    named provider = opening.toList ++ provider.toList ++ closing.toList :=
  Text.replaceFirst_of_leftmost leftmost_token provider.toList

/-- Before a provider is named the snippet stands around the token. -/
theorem snippet_eq : snippet.toList = opening.toList ++ token.toList ++ closing.toList :=
  leftmost_token.1

/-- What stands in a body in place of the snippet. -/
def inserted (provider : Option String) : List Char :=
  match provider.filter (· ≠ "") with
  | some p => named p
  | none => []

theorem inserted_some {provider : String} (h : provider ≠ "") :
    inserted (some provider) = named provider := by
  rw [inserted, Option.filter_some_pos (by simpa using h)]

theorem toList_inject {body : String} {pre post : List Char}
    (h : Text.Leftmost snippet.toList body.toList pre post) (provider : Option String) :
    (inject body provider).toList = pre ++ inserted provider ++ post := by
  rw [inject, inserted, String.toList_ofList]
  cases provider.filter (· ≠ "") with
  | some p => exact Text.replaceFirst_of_leftmost h (named p)
  | none => exact Text.replaceFirst_of_leftmost h []

end Provider

/-! ## 2. Pieces around the snippet -/

namespace Template

/-- **Nothing reaches across the ends of the snippet.**  The texts before and after it are cut on
their own, and so is the text within. -/
theorem scan_around (pre inner post : List Char) :
    scan (pre ++ (Provider.opening.toList ++ inner ++ Provider.closing.toList) ++ post) =
      scan pre ++ (Provider.opening.toList.map .literal ++ scan inner ++
        Provider.closing.toList.map .literal) ++ scan post := by
  have hopening : '$' ∉ Provider.opening.toList := by decide_cbv
  have hclosing : '$' ∉ Provider.closing.toList := by decide_cbv
  have hcomma : Meets (scan pre)
      (Provider.opening.toList ++ (inner ++ (Provider.closing.toList ++ post))) :=
    meets_of_head (c := ',') (by decide) (by decide) (by rw [← isNameRest_iff]; decide) _ _
  have hquote : Meets (scan inner) (Provider.closing.toList ++ post) :=
    meets_of_head (c := '"') (by decide) (by decide) (by rw [← isNameRest_iff]; decide) _ _
  simp only [List.append_assoc]
  rw [scan_append hcomma, scan_append (meets_of_no_dollar hopening _), scan_append hquote,
    scan_append (meets_of_no_dollar hclosing _), scan_of_no_dollar hopening,
    scan_of_no_dollar hclosing]

end Template

/-! ## 3. With a provider -/

namespace Entry

variable {scope : Scope} {e : Entry}

theorem toList_text (scope : Scope) (template : String) :
    (scope.text template).toList =
      (scan template.toList).flatMap (Piece.text scope.lookup?) :=
  String.toList_ofList

theorem flatMap_literals (lookup : String → Option String) (cs : List Char) :
    (cs.map Piece.literal).flatMap (Piece.text lookup) = cs := by
  rw [List.flatMap_map]
  exact List.flatMap_singleton' cs

/-- A text without a dollar is its own text. -/
theorem text_of_no_dollar (scope : Scope) {s : String} (h : '$' ∉ s.toList) :
    scope.text s = s := by
  rw [← String.toList_inj, toList_text, Template.scan_of_no_dollar h, flatMap_literals]

/-- The text of a template in which a provider is named. -/
theorem text_named (scope : Scope) {template provider : String} {pre post : List Char}
    (h : template.toList = pre ++ Provider.named provider ++ post) :
    scope.text template =
      scope.text (String.ofList pre) ++ String.ofList (Provider.named (scope.text provider)) ++
        scope.text (String.ofList post) := by
  rw [← String.toList_inj, toList_text, h, Provider.named_eq, Template.scan_around]
  simp only [List.flatMap_append, flatMap_literals, String.toList_append, String.toList_ofList,
    toList_text, Provider.named_eq]

/-- **The provider is itself a template.**  What comes before the snippet and what comes after it
is substituted as if it stood alone; between them the snippet names what the provider comes to.
That is the provider only if substitution leaves it as it is, for instance if it has no dollar. -/
theorem resolve_body_of_provider {body provider : String} {pre post : List Char} {r : Request}
    (hbody : e.body = some body)
    (hfirst : Text.Leftmost Provider.snippet.toList (Text.trim body.toList) pre post)
    (hprovider : scope.direct? Provider.variableName = some provider) (hne : provider ≠ "")
    (hr : e.resolve scope = .ok r) :
    ∃ before inner after,
      Template.substitute scope (String.ofList pre) = .ok before ∧
      Template.substitute scope provider = .ok inner ∧
      Template.substitute scope (String.ofList post) = .ok after ∧
      r.body = some (before ++ String.ofList (Provider.named inner) ++ after) ∧
      (r.body = some (before ++ String.ofList (Provider.named provider) ++ after) ↔
        inner = provider) ∧
      ('$' ∉ provider.toList → inner = provider) := by
  have htemplate : (bodyTemplate (scope.direct? Provider.variableName) body).toList =
      pre ++ Provider.named provider ++ post := by
    rw [bodyTemplate, Provider.toList_inject (by rwa [String.toList_ofList]), hprovider,
      Provider.inserted_some hne]
  obtain ⟨hmisses, hr⟩ := resolve_eq_ok hr
  have hnone := hmisses (bodyTemplate (scope.direct? Provider.variableName) body)
    (by simp [bodyTemplates, hbody])
  rw [htemplate, Provider.named_eq, Template.scan_around] at hnone
  simp only [Scope.misses_append, not_or] at hnone
  obtain ⟨⟨hpre, ⟨-, hinner⟩, -⟩, hpost⟩ := hnone
  have hr : r.body = some (scope.text (String.ofList pre) ++
      String.ofList (Provider.named (scope.text provider)) ++
        scope.text (String.ofList post)) := by
    rw [hr, hbody, Option.map_some, text_named scope htemplate]
  refine ⟨scope.text (String.ofList pre), scope.text provider, scope.text (String.ofList post),
    Template.substitute_of_not_misses (by rwa [String.toList_ofList]),
    Template.substitute_of_not_misses hinner,
    Template.substitute_of_not_misses (by rwa [String.toList_ofList]), hr, ?_,
    text_of_no_dollar scope⟩
  rw [hr, Option.some.injEq]
  constructor
  · intro heq
    have hlists := congrArg String.toList heq
    simp only [String.toList_append, String.toList_ofList, Provider.named_eq,
      List.append_cancel_left_eq, List.append_cancel_right_eq] at hlists
    exact String.toList_inj.1 hlists
  · intro heq
    rw [heq]

/-- Variables of which the provider refers to another. -/
def redirected : Scope :=
  ⟨.ofList [("API_KEY", "k"), ("PROVIDER", "$HOST"), ("HOST", "h")], .empty, .standard⟩

/-- A call with a provider that is a placeholder: its body names the value of that. -/
theorem resolve_chat_redirected :
    chat.resolve redirected = .ok
      { url := "https://models.test/chat"
        method := "GET"
        headers := bearerHeaders "k"
        body := some ("\x7b\"n\": 1" ++ String.ofList (Provider.named "h") ++ "\x7d") } :=
  eq_ok_of_toOption (by decide_cbv)

theorem leftmost_chat :
    Text.Leftmost Provider.snippet.toList
      (Text.trim ("\x7b\"n\": 1" ++ Provider.snippet ++ "\x7d").toList)
      "\x7b\"n\": 1".toList "\x7d".toList := by
  rw [← Text.splitFirst_eq_some_iff]
  decide_cbv

theorem resolve_body_of_redirected :
    redirected.direct? Provider.variableName = some "$HOST" ∧ "$HOST" ≠ "" ∧
    ∃ r, chat.resolve redirected = .ok r ∧
      ∃ before inner after,
        Template.substitute redirected (String.ofList "\x7b\"n\": 1".toList) = .ok before ∧
        Template.substitute redirected "$HOST" = .ok inner ∧
        Template.substitute redirected (String.ofList "\x7d".toList) = .ok after ∧
        r.body = some (before ++ String.ofList (Provider.named inner) ++ after) ∧
        (r.body = some (before ++ String.ofList (Provider.named "$HOST") ++ after) ↔
          inner = "$HOST") ∧
        ('$' ∉ "$HOST".toList → inner = "$HOST") :=
  ⟨by decide_cbv, by decide, _, resolve_chat_redirected,
    resolve_body_of_provider rfl leftmost_chat (by decide_cbv) (by decide)
      resolve_chat_redirected⟩

/-- **A provider does not reach the body as it is.**  Of `$HOST` the body has the host. -/
theorem not_verbatim_of_redirected :
    redirected.direct? Provider.variableName = some "$HOST" ∧
    Template.substitute redirected "\x7b\"n\": 1" = .ok "\x7b\"n\": 1" ∧
    Template.substitute redirected "\x7d" = .ok "\x7d" ∧
    ∃ r, chat.resolve redirected = .ok r ∧
      r.body ≠ some ("\x7b\"n\": 1" ++ String.ofList (Provider.named "$HOST") ++ "\x7d") :=
  ⟨by decide_cbv, eq_ok_of_toOption (by decide_cbv), eq_ok_of_toOption (by decide_cbv),
    _, resolve_chat_redirected, by decide +kernel⟩

/-! ## 4. With or without a provider -/

/-- Where the snippet goes for want of a provider, the texts around it meet. -/
def ClosesUp (scope : Scope) (body : String) : Prop :=
  (scope.direct? Provider.variableName).filter (· ≠ "") = none →
    ∀ pre post, Text.Leftmost Provider.snippet.toList (Text.trim body.toList) pre post →
      Meets (scan pre) post

/-- **No required placeholder gets lost.**  What a body misses its template misses. -/
theorem misses_bodyTemplate {body : String} (hmisses : scope.Misses (scan body.toList))
    (hcloses : ClosesUp scope body) :
    scope.Misses (scan (bodyTemplate (scope.direct? Provider.variableName) body).toList) := by
  obtain ⟨left, right, hbody, hleft, hright⟩ := Text.exists_trim body.toList
  rw [hbody, Template.scan_blanks_around _ hleft hright] at hmisses
  have hmisses : scope.Misses (scan (Text.trim body.toList)) := by
    simpa only [Scope.misses_append, Scope.not_misses_literals, false_or, or_false] using hmisses
  rw [bodyTemplate]
  cases hsplit : Text.splitFirst Provider.snippet.toList (Text.trim body.toList) with
  | none =>
    rw [Provider.inject_of_not_occurs, String.toList_ofList]
    · exact hmisses
    · rw [String.toList_ofList, Text.occurs, hsplit]
      rfl
  | some split =>
    obtain ⟨pre, post⟩ := split
    have hfirst := Text.splitFirst_eq_some_iff.1 hsplit
    have htoken : ¬ scope.Misses (scan Provider.token.toList) := by
      have hscan : scan Provider.token.toList = [.placeholder false "PROVIDER".toList] := by
        decide_cbv
      simp [hscan, Scope.Misses]
    -- the snippet itself requires nothing, so it is one of the texts around it that misses
    have haround : scope.Misses (scan pre) ∨ scope.Misses (scan post) := by
      rw [hfirst.1, Provider.snippet_eq, Template.scan_around] at hmisses
      simpa only [Scope.misses_append, Scope.not_misses_literals, htoken, false_or, or_false]
        using hmisses
    rw [Provider.toList_inject (by rwa [String.toList_ofList]), Provider.inserted]
    cases hprovider : (scope.direct? Provider.variableName).filter (· ≠ "") with
    | some provider =>
      simp only [Provider.named_eq, Template.scan_around, Scope.misses_append]
      rcases haround with h | h
      · exact Or.inl (Or.inl h)
      · exact Or.inr h
    | none =>
      simp only [List.append_nil]
      rw [Template.scan_append (hcloses hprovider pre post hfirst), Scope.misses_append]
      exact haround

/-- **A required placeholder guards its request.**  If the URL, a template of the headers or the
body as the entry has it misses a value, there is no request; of the body this holds if the texts
around the snippet meet where the snippet goes. -/
theorem resolve_fails_of_misses {template : String}
    (hmisses : scope.Misses (scan template.toList))
    (hwritten : template ∈ e.urlTemplate :: e.headerTemplates ∨
      (e.body = some template ∧ ClosesUp scope template)) :
    ∃ cause, e.resolve scope = .error cause := by
  cases hr : e.resolve scope with
  | error cause => exact ⟨cause, rfl⟩
  | ok r =>
    obtain ⟨hnone, -⟩ := resolve_eq_ok hr
    rcases hwritten with hmem | ⟨hbody, hcloses⟩
    · refine absurd hmisses (hnone template ?_)
      rw [← List.cons_append]
      exact List.mem_append_left _ hmem
    · refine absurd (misses_bodyTemplate hmisses hcloses) (hnone _ ?_)
      simp [bodyTemplates, hbody]

/-- A body with a dollar before the snippet and a required placeholder some way behind it. -/
def priced : Entry :=
  { Entry.named "models" "chat" with
    body := some ("\x7b\"cost\": \"5$\"" ++ Provider.snippet ++ ", \"key\": \"$!KEY\"\x7d") }

theorem resolve_priced_fails :
    Scope.Misses ⟨.empty, .empty, .standard⟩
      (scan ("\x7b\"cost\": \"5$\"" ++ Provider.snippet ++ ", \"key\": \"$!KEY\"\x7d").toList) ∧
    ClosesUp ⟨.empty, .empty, .standard⟩
      ("\x7b\"cost\": \"5$\"" ++ Provider.snippet ++ ", \"key\": \"$!KEY\"\x7d") ∧
    ∃ cause, priced.resolve ⟨.empty, .empty, .standard⟩ = .error cause := by
  have hmisses : Scope.Misses ⟨.empty, .empty, .standard⟩
      (scan ("\x7b\"cost\": \"5$\"" ++ Provider.snippet ++ ", \"key\": \"$!KEY\"\x7d").toList) :=
    ⟨"KEY".toList, by decide_cbv, by decide_cbv⟩
  have hcloses : ClosesUp ⟨.empty, .empty, .standard⟩
      ("\x7b\"cost\": \"5$\"" ++ Provider.snippet ++ ", \"key\": \"$!KEY\"\x7d") := by
    intro _ pre post hfirst
    have hsplit : Text.splitFirst Provider.snippet.toList (Text.trim
        ("\x7b\"cost\": \"5$\"" ++ Provider.snippet ++ ", \"key\": \"$!KEY\"\x7d").toList) =
        some ("\x7b\"cost\": \"5$\"".toList, ", \"key\": \"$!KEY\"\x7d".toList) := by
      decide_cbv
    have heq := (Text.splitFirst_eq_some_iff.2 hfirst).symm.trans hsplit
    obtain ⟨rfl, rfl⟩ := Prod.mk.inj (Option.some.inj heq)
    exact Template.meets_of_head (c := ',') (by decide) (by decide)
      (by rw [← Template.isNameRest_iff]; decide) _ _
  exact ⟨hmisses, hcloses, resolve_fails_of_misses hmisses (Or.inr ⟨rfl, hcloses⟩)⟩

/-- A body with a dollar right before the snippet and a required placeholder right behind it. -/
def joined : Entry :=
  { Entry.named "models" "chat" with body := some ("$" ++ Provider.snippet ++ "$!KEY") }

/-- **A required placeholder can get lost where the snippet goes.**  The body misses a value as
the entry has it; without the snippet its two dollars are an escape, and the request is made. -/
theorem resolve_joined :
    Scope.Misses ⟨.empty, .empty, .standard⟩ (scan ("$" ++ Provider.snippet ++ "$!KEY").toList) ∧
    joined.resolve ⟨.empty, .empty, .standard⟩ =
      .ok { url := "", method := "GET", headers := [], body := some "$!KEY" } :=
  ⟨⟨"KEY".toList, by decide_cbv, by decide_cbv⟩, eq_ok_of_toOption (by decide_cbv)⟩

end Entry

end CallBook

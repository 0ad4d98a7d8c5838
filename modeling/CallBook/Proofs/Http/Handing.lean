import Mathlib.Data.List.Forall2
import CallBook.Proofs.Http.Failures
/-!
# What is handed over

Before anything is sent a request is checked, and what can be wrong with it is ranked: its URL, the
scheme, the method, and then its headers, of which the first that cannot be sent counts.
`HandsOver` says this by one rule for each outcome, and `handOver` obeys the rules and no others
(`handOver_iff`).

Headers are added one after the other to what is handed over.  Adding one never takes another away,
not even one whose name differs in case only, and a header that cannot be sent stays as a fault,
whatever is added behind it.  So at the end every header is there once, or the first fault is
(`foldl_addHeader`, by induction on the headers).

A name that can be sent is any token of HTTP.  Methods are tokens as well, but not all tokens are
methods that can be sent: five marks are refused in them (`refused_of_token`).
-/

namespace CallBook.Http

/-! ## 1. Words of HTTP -/

/-- The marks in tokens of HTTP. -/
def tokenMarks : List Char :=
  ['!', '#', '$', '%', '&', '\x27', '*', '+', '-', '.', '^', '_', '\x60', '|', '~']

/-- A token of HTTP: letters, digits and marks, and at least one of them. -/
def IsToken (s : String) : Prop :=
  s ≠ "" ∧ ∀ c ∈ s.toList, c.isAlphanum = true ∨ c ∈ tokenMarks

/-- The marks that no method can have. -/
def refusedMarks : List Char := ['#', '$', '%', '&', '\x27']

/-- A method that can be sent: a token without the marks that are refused. -/
def IsMethod (s : String) : Prop := IsToken s ∧ ∀ c ∈ s.toList, c ∉ refusedMarks

/-- A header value that can be sent: it has no control characters but tabs. -/
def IsValue (s : String) : Prop := ∀ c ∈ s.toList, c = '\t' ∨ (' ' ≤ c ∧ c ≠ '\x7f')

/-- A header that can be sent. -/
def Legal (header : String × String) : Prop := IsToken header.1 ∧ IsValue header.2

/-- The marks that are not refused. -/
theorem methodMarks_eq : ['!', '*', '+', '-', '.', '^', '_', '\x60', '|', '~'] =
    tokenMarks.filter fun c => !refusedMarks.contains c := by
  decide

theorem refusedMarks_subset : refusedMarks ⊆ tokenMarks := by
  decide

variable {c : Char} {s : String}

theorem isAlphanum_of_refused (h : c ∈ refusedMarks) : c.isAlphanum = false := by
  have hall : refusedMarks.all (!·.isAlphanum) = true := by decide
  simpa only [Bool.not_eq_true'] using List.all_eq_true.1 hall c h

theorem isMethodChar_iff :
    isMethodChar c = true ↔ (c.isAlphanum = true ∨ c ∈ tokenMarks) ∧ c ∉ refusedMarks := by
  rw [isMethodChar, methodMarks_eq, Bool.or_eq_true, List.contains_iff_mem, List.mem_filter,
    Bool.not_eq_true', Bool.eq_false_iff, Ne, List.contains_iff_mem, or_and_right]
  refine or_congr_left ⟨fun halpha => ⟨halpha, fun hmem => ?_⟩, And.left⟩
  exact Bool.false_ne_true ((isAlphanum_of_refused hmem).symm.trans halpha)

theorem isNameChar_iff :
    isNameChar c = true ↔ c.isAlphanum = true ∨ c ∈ tokenMarks := by
  have hmarks : isNameChar c = true ↔ isMethodChar c = true ∨ c ∈ refusedMarks := by
    rw [isNameChar, Bool.or_eq_true, refusedMarks, List.contains_iff_mem]
  rw [hmarks, isMethodChar_iff]
  by_cases hmem : c ∈ refusedMarks
  · exact iff_of_true (Or.inr hmem) (Or.inr (refusedMarks_subset hmem))
  · rw [and_iff_left hmem, or_iff_left hmem]

theorem isHeaderName_iff : isHeaderName s = true ↔ IsToken s := by
  rw [isHeaderName, IsToken, Bool.and_eq_true, decide_eq_true_iff, List.all_eq_true]
  simp only [isNameChar_iff]

theorem isMethod_iff : isMethod s = true ↔ IsMethod s := by
  rw [isMethod, IsMethod, IsToken, Bool.and_eq_true, decide_eq_true_iff, List.all_eq_true, and_assoc]
  simp only [isMethodChar_iff, forall_and]

theorem isHeaderValue_iff : isHeaderValue s = true ↔ IsValue s := by
  rw [isHeaderValue, IsValue, List.all_eq_true]
  simp [isValueChar]

/-! ## 2. Adding headers -/

/-- Why a header cannot be sent. -/
inductive Faulty (header : String × String) : String → Prop
  | name : ¬ IsToken header.1 → Faulty header "builder error: invalid HTTP header name"
  | value : IsToken header.1 → ¬ IsValue header.2 →
      Faulty header "builder error: failed to parse header value"

variable {header : String × String} {headers : List (String × String)} {message : String}

theorem headerFault?_eq_none (h : Legal header) : headerFault? header.1 header.2 = none := by
  rw [headerFault?, isHeaderName_iff.2 h.1, isHeaderValue_iff.2 h.2]
  rfl

theorem Faulty.headerFault?_eq (h : Faulty header message) :
    headerFault? header.1 header.2 = some (.build message) := by
  cases h with
  | name hname =>
    rw [headerFault?, Bool.eq_false_iff.2 (mt isHeaderName_iff.1 hname)]
    rfl
  | value hname hvalue =>
    rw [headerFault?, isHeaderName_iff.2 hname, Bool.eq_false_iff.2 (mt isHeaderValue_iff.1 hvalue)]
    rfl

theorem legal_or_faulty (header : String × String) :
    Legal header ∨ ∃ message, Faulty header message := by
  by_cases hname : IsToken header.1
  · by_cases hvalue : IsValue header.2
    · exact Or.inl ⟨hname, hvalue⟩
    · exact Or.inr ⟨_, .value hname hvalue⟩
  · exact Or.inr ⟨_, .name hname⟩

/-- Headers that can be sent, or the first one that cannot. -/
theorem legal_or_firstFaulty : ∀ headers : List (String × String),
    (∀ header ∈ headers, Legal header) ∨
      ∃ before header after message, headers = before ++ header :: after ∧
        (∀ other ∈ before, Legal other) ∧ Faulty header message
  | [] => Or.inl (List.forall_mem_nil _)
  | header :: rest => by
    rcases legal_or_faulty header with hlegal | ⟨message, hfaulty⟩
    · rcases legal_or_firstFaulty rest with hrest | ⟨before, other, after, message, rfl, hbefore, h⟩
      · exact Or.inl (List.forall_mem_cons.2 ⟨hlegal, hrest⟩)
      · exact Or.inr ⟨header :: before, other, after, message, rfl,
          List.forall_mem_cons.2 ⟨hlegal, hbefore⟩, h⟩
    · exact Or.inr ⟨[], header, rest, message, rfl, List.forall_mem_nil _, hfaulty⟩

/-- A header as it is handed over. -/
def handedHeader (header : String × String) : String × String := (lowerCase header.1, header.2)

/-- **A header is added to the others**, whatever their names are. -/
theorem addHeader_of_legal (h : Handed) (hlegal : Legal header) :
    Handed.addHeader (.ok h) header =
      .ok { h with headers := h.headers ++ [handedHeader header] } := by
  rw [Handed.addHeader, headerFault?_eq_none hlegal]
  rfl

/-- **All headers are there**, in their order, if all can be sent. -/
theorem foldl_addHeader : ∀ {headers : List (String × String)} (h : Handed),
    (∀ header ∈ headers, Legal header) → headers.foldl Handed.addHeader (.ok h) =
      .ok { h with headers := h.headers ++ headers.map handedHeader }
  | [], h, _ => by rw [List.map_nil, List.append_nil]; rfl
  | header :: rest, h, hlegal => by
    obtain ⟨hheader, hrest⟩ := List.forall_mem_cons.1 hlegal
    rw [List.foldl_cons, addHeader_of_legal h hheader, foldl_addHeader _ hrest, List.map_cons,
      List.append_assoc, List.singleton_append]

/-- The first header that cannot be sent is the fault, whatever comes behind it. -/
theorem foldl_addHeader_of_faulty {before after : List (String × String)} (h : Handed)
    (hbefore : ∀ other ∈ before, Legal other) (hfaulty : Faulty header message) :
    (before ++ header :: after).foldl Handed.addHeader (.ok h) = .error (.build message) := by
  rw [List.foldl_append, foldl_addHeader h hbefore, List.foldl_cons, Handed.addHeader,
    hfaulty.headerFault?_eq, foldl_addHeader_error]

/-! ## 3. The rules -/

/-- Requests are sent with this scheme. -/
def WebScheme (scheme : String) : Prop := scheme = "http" ∨ scheme = "https"

/-- The body that is sent: none for a text that is empty. -/
inductive Carries : Option String → Option String → Prop
  | absent : Carries none none
  | empty : Carries (some "") none
  | text {s : String} : s ≠ "" → Carries (some s) (some s)

/-- What is handed over for a request, or what is wrong with it.  Each rule holds only where nothing
is wrong that counts before. -/
inductive HandsOver (r : Request) : Except TransportError Handed → Prop
  /-- The text is no URL. -/
  | badUrl {fault : UrlError} :
      Url.parse r.url = .error fault → HandsOver r (.error (.invalidUrl fault.message))
  /-- It has another scheme. -/
  | badScheme {url : Url} :
      Url.parse r.url = .ok url → ¬ WebScheme url.scheme →
        HandsOver r (.error (.unsupportedProtocol url.scheme))
  /-- The method cannot be sent. -/
  | badMethod {url : Url} :
      Url.parse r.url = .ok url → WebScheme url.scheme → ¬ IsMethod r.method →
        HandsOver r (.error (.invalidMethod r.method))
  /-- A header cannot be sent, and all before it can. -/
  | badHeader {url : Url} {before after : List (String × String)} {header : String × String}
      {message : String} :
      Url.parse r.url = .ok url → WebScheme url.scheme → IsMethod r.method →
      r.headers = before ++ header :: after → (∀ other ∈ before, Legal other) →
      Faulty header message →
        HandsOver r (.error (.build message))
  /-- Nothing is wrong. -/
  | request {url : Url} {body : Option String} :
      Url.parse r.url = .ok url → WebScheme url.scheme → IsMethod r.method →
      (∀ header ∈ r.headers, Legal header) → Carries r.body body →
        HandsOver r (.ok {
          url
          method := r.method
          headers := r.headers.map handedHeader
          body })

variable {r : Request} {url : Url} {h : Handed} {outcome : Except TransportError Handed}

theorem isWebScheme_iff {scheme : String} : isWebScheme scheme = true ↔ WebScheme scheme := by
  simp [isWebScheme, WebScheme]

theorem nonEmptyBody?_iff {body : Option String} :
    r.nonEmptyBody? = body ↔ Carries r.body body := by
  rw [Request.nonEmptyBody?]
  constructor
  · rintro rfl
    cases hbody : r.body with
    | none => exact .absent
    | some s =>
      by_cases hempty : s = ""
      · subst hempty
        exact .empty
      · have hkept : (some s).filter (fun x => decide (x ≠ "")) = some s := by simp [hempty]
        rw [hkept]
        exact .text hempty
  · intro hcarries
    generalize r.body = given at hcarries
    cases hcarries with
    | absent => rfl
    | empty => rfl
    | text hne => simp [hne]

/-- Where URL, scheme and method are right the headers decide. -/
theorem handOver_of_checked (hurl : Url.parse r.url = .ok url) (hscheme : WebScheme url.scheme)
    (hmethod : IsMethod r.method) :
    handOver r = (r.headers.foldl Handed.addHeader (.ok ⟨url, r.method, [], none⟩)).map fun h =>
      { h with body := r.nonEmptyBody? } := by
  rw [handOver, hurl]
  simp only [isWebScheme_iff.2 hscheme, isMethod_iff.2 hmethod]
  rfl

/-- The rules give what is handed over, -/
theorem HandsOver.eq (h : HandsOver r outcome) : handOver r = outcome := by
  cases h with
  | badUrl hurl => rw [handOver, hurl]
  | badScheme hurl hscheme =>
    rw [handOver, hurl]
    simp only [Bool.eq_false_iff.2 (mt isWebScheme_iff.1 hscheme)]
    rfl
  | badMethod hurl hscheme hmethod =>
    rw [handOver, hurl]
    simp only [isWebScheme_iff.2 hscheme, Bool.eq_false_iff.2 (mt isMethod_iff.1 hmethod)]
    rfl
  | badHeader hurl hscheme hmethod hheaders hbefore hfaulty =>
    rw [handOver_of_checked hurl hscheme hmethod, hheaders,
      foldl_addHeader_of_faulty _ hbefore hfaulty]
    rfl
  | request hurl hscheme hmethod hlegal hcarries =>
    rw [handOver_of_checked hurl hscheme hmethod, foldl_addHeader _ hlegal,
      ← nonEmptyBody?_iff.2 hcarries]
    rfl

/-- and one of them always fits. -/
theorem exists_handsOver (r : Request) : ∃ outcome, HandsOver r outcome := by
  cases hurl : Url.parse r.url with
  | error fault => exact ⟨_, .badUrl hurl⟩
  | ok url =>
    by_cases hscheme : WebScheme url.scheme
    · by_cases hmethod : IsMethod r.method
      · rcases legal_or_firstFaulty r.headers with
          hlegal | ⟨before, header, after, message, hheaders, hbefore, hfaulty⟩
        · exact ⟨_, .request hurl hscheme hmethod hlegal (nonEmptyBody?_iff.1 rfl)⟩
        · exact ⟨_, .badHeader hurl hscheme hmethod hheaders hbefore hfaulty⟩
      · exact ⟨_, .badMethod hurl hscheme hmethod⟩
    · exact ⟨_, .badScheme hurl hscheme⟩

theorem handOver_iff : handOver r = outcome ↔ HandsOver r outcome := by
  constructor
  · rintro rfl
    obtain ⟨outcome, h⟩ := exists_handsOver r
    exact h.eq ▸ h
  · exact HandsOver.eq

/-! ## 4. What is sent -/

section Delivered

variable {policy : Policy} {network : Network} {earlier : List Message} {e : TransportError}

/-- Nothing is sent of a request that has something wrong. -/
theorem deliver_of_error (h : handOver r = .error e) :
    deliver policy network earlier r = ⟨[], [], .error e⟩ := by
  rw [deliver, prepare, h]
  rfl

/-- Otherwise what is handed over is sent. -/
theorem deliver_of_ok (hok : handOver r = .ok h) :
    deliver policy network earlier r = h.outgoing.deliver policy network earlier := by
  rw [deliver, prepare, hok]
  rfl

/-- The kinds of errors that only a check of the request has. -/
def OfCheck (kind : TransportError.Kind) : Prop :=
  kind = .invalidUrl ∨ kind = .unsupportedProtocol ∨ kind = .invalidMethod

/-- No failure of sending is an error of a check. -/
theorem not_ofCheck_classify (u : Url) (f : Failure) : ¬ OfCheck (f.classify u).kind := by
  rw [Failure.kind_classify]
  split
  · rintro (hkind | hkind | hkind) <;> cases hkind
  · cases f <;> (rintro (hkind | hkind | hkind) <;> cases hkind)

theorem handOver_of_ofCheck (hkind : OfCheck e.kind)
    (he : (deliver policy network earlier r).result = .error e) : handOver r = .error e := by
  rcases deliver_error_iff.1 he with hprepare | ⟨u, f, -, rfl⟩
  · exact map_eq_error hprepare
  · exact absurd hkind (not_ofCheck_classify u f)

end Delivered

/-- One header, its name in whatever letters. -/
def SameHeader (header handed : String × String) : Prop :=
  sameLetters header.1 handed.1 = true ∧ handed.2 = header.2

theorem toLower_toLower (c : Char) : c.toLower.toLower = c.toLower := by
  by_cases h : c.val ≥ 'A'.val ∧ c.val ≤ 'Z'.val
  · have hlower : c.toLower.val = c.val + 32 := congrArg Char.val (dif_pos h)
    have hnot : ¬ (c.toLower.val ≥ 'A'.val ∧ c.toLower.val ≤ 'Z'.val) := by
      simp only [hlower, ge_iff_le, UInt32.le_iff_toNat_le, UInt32.toNat_add,
        Char.reduceVal, UInt32.reduceToNat] at h ⊢
      omega
    exact dif_neg hnot
  · have hlower : c.toLower = c := dif_neg h
    rw [hlower, hlower]

theorem sameHeader_handedHeader (header : String × String) :
    SameHeader header (handedHeader header) := by
  refine ⟨?_, rfl⟩
  rw [sameLetters, beq_iff_eq, handedHeader, lowerCase, String.toList_ofList, List.map_map]
  exact List.map_congr_left fun c _ => (toLower_toLower c).symm

/-- **Each header is handed over once.** -/
theorem HandsOver.forall₂_headers (hover : HandsOver r (.ok h)) :
    List.Forall₂ SameHeader r.headers h.headers := by
  cases hover with
  | request =>
    rw [List.forall₂_map_right_iff, List.forall₂_same]
    exact fun header _ => sameHeader_handedHeader header

/-- **What comes of the checks of a request.**  What is handed over is what the rules give.  Where
they give an error nothing is sent and the error is the answer, and an error of URL, scheme or
method comes from nowhere else.  Otherwise it is one request that is sent, whatever the servers
do, and it has every header of the request once, also where names differ in case only. -/
theorem deliver_outcome (r : Request) :
    (∀ outcome, handOver r = outcome ↔ HandsOver r outcome) ∧
    (∀ e, HandsOver r (.error e) → ∀ policy network earlier,
      (deliver policy network earlier r).sent = [] ∧
        (deliver policy network earlier r).result = .error e) ∧
    (∀ policy network earlier e, OfCheck e.kind →
      (deliver policy network earlier r).result = .error e → HandsOver r (.error e)) ∧
    ∀ h, HandsOver r (.ok h) →
      (∀ policy network earlier,
        deliver policy network earlier r = h.outgoing.deliver policy network earlier) ∧
      List.Forall₂ SameHeader r.headers h.headers := by
  refine ⟨fun outcome => handOver_iff, fun e he policy network earlier => ?_,
    fun policy network earlier e hkind he => ?_, fun h hover => ⟨fun policy network earlier => ?_, ?_⟩⟩
  · rw [deliver_of_error he.eq]
    exact ⟨rfl, rfl⟩
  · exact handOver_iff.1 (handOver_of_ofCheck hkind he)
  · exact deliver_of_ok hover.eq
  · exact hover.forall₂_headers

/-! ### A token that is no method, and names that differ in case only -/

/-- A request to the machine itself whose method is a token. -/
def marked : Request := ⟨"http://[::1]/", "M#", [], none⟩

theorem refused_of_token :
    (Url.parse marked.url).toOption.map (·.scheme) = some "http" ∧ IsToken marked.method ∧
    ∀ policy network earlier,
      (deliver policy network earlier marked).result = .error (.invalidMethod marked.method) := by
  have hscheme : (Url.parse marked.url).toOption.map (·.scheme) = some "http" := by decide +kernel
  have htoken : IsToken marked.method := isHeaderName_iff.1 (by decide +kernel)
  have hmethod : ¬ IsMethod marked.method := fun h => h.2 '#' (by decide +kernel) (by decide)
  obtain ⟨url, hurl, hweb⟩ := Option.map_eq_some_iff.1 hscheme
  have hover : HandsOver marked (.error (.invalidMethod marked.method)) :=
    .badMethod (eq_ok_of_toOption hurl) (Or.inl hweb) hmethod
  refine ⟨hscheme, htoken, fun policy network earlier => ?_⟩
  rw [deliver_of_error hover.eq]

/-- Neither of two headers takes the place of the other. -/
example : (handOver ⟨"http://[::1]/", "M", [("X-A", "1"), ("x-a", "2")], none⟩).toOption.map
    (·.headers) = some [("x-a", "1"), ("x-a", "2")] := by
  decide +kernel

end CallBook.Http

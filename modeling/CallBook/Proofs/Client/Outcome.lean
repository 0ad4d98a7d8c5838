import CallBook.Proofs.Entry.Listed
import CallBook.Proofs.Request.Outcome
import CallBook.Proofs.Text.Utf8
/-!
# What comes of a call

A call stands between two others: the book makes its request, and the transport takes the
request to a response.  `Calls` says what the call adds.  Without a request nothing is sent.
With one it is sent, once and as it is; then the transport's failure is the failure of the call,
and any response, whatever its status, is an answer that has the text of the body.

`Client.get` does this for the first two parts of a listed name, and it makes no difference to
what is sent and what comes of it whether the call is shown (`get_outcome`).
-/

namespace CallBook.Client

/-! ## 1. The rules -/

/-- What is sent, and what comes of it, when this is what came of the request. -/
inductive Calls (c : Client) :
    Except RequestError Request → List Request → Except CallError Answer → Prop
  /-- Without a request nothing is sent. -/
  | noRequest (cause : RequestError) : Calls c (.error cause) [] (.error (.request cause))
  /-- The request is sent and has no response. -/
  | noResponse {r : Request} {cause : TransportError} :
      c.transport r = .error cause → Calls c (.ok r) [r] (.error (.transport cause))
  /-- The request is sent and has a response, whose body is read as text. -/
  | answered {r : Request} {response : Response} {text : List Char} :
      c.transport r = .ok response → Text.Reads response.body text →
        Calls c (.ok r) [r] (.ok ⟨String.ofList text, c.engine, c.processor⟩)

variable {c : Client} {request : Except RequestError Request} {sent : List Request}
  {result : Except CallError Answer}

/-- Whatever came of the request, one of the rules fits. -/
theorem exists_calls (c : Client) (request : Except RequestError Request) :
    ∃ sent result, c.Calls request sent result := by
  cases request with
  | error cause => exact ⟨_, _, .noRequest cause⟩
  | ok r =>
    cases hresponse : c.transport r with
    | error cause => exact ⟨_, _, .noResponse hresponse⟩
    | ok response => exact ⟨_, _, .answered hresponse (Text.reads_decodeLossy response.body)⟩

/-! ## 2. The steps of a call -/

/-- Without a request nothing is fetched. -/
theorem fetch_of_error {service name : String} {options : CallOptions} {cause : RequestError}
    (h : c.book.request service name options.overrides options.catalog = .error cause) :
    (c.fetch service name options).sent = [] ∧
      (c.fetch service name options).result = .error (.request cause) := by
  have hrequest : c.request service name options = .error (.request cause) := by
    rw [Client.request, h]
    rfl
  rw [fetch, hrequest]
  exact ⟨rfl, rfl⟩

/-- A request is sent once, -/
theorem deliver_sent (c : Client) (debug : Bool) (r : Request) :
    (c.deliver debug r).sent = [r] := by
  unfold deliver
  cases c.transport r <;> rfl

/-- and comes to what the transport makes of it. -/
theorem deliver_result (c : Client) (debug : Bool) (r : Request) :
    (c.deliver debug r).result = (c.transport r).mapError .transport := by
  unfold deliver
  cases c.transport r <;> rfl

/-- A request that is made is delivered. -/
theorem fetch_of_ok {service name : String} {options : CallOptions} {r : Request}
    (h : c.book.request service name options.overrides options.catalog = .ok r) :
    (c.fetch service name options).sent = [r] ∧
      (c.fetch service name options).result = (c.transport r).mapError .transport := by
  have hrequest : c.request service name options = .ok r := by
    rw [Client.request, h]
    rfl
  rw [fetch, hrequest]
  exact ⟨c.deliver_sent options.debug r, c.deliver_result options.debug r⟩

/-- A listed name is fetched by its first two parts, and the response is made an answer. -/
theorem get_of_firstParts {id service name : String} (hid : Entry.FirstParts id service name)
    (options : CallOptions) :
    (c.get id options).sent = (c.fetch service name options).sent ∧
      (c.get id options).result = (c.fetch service name options).result.map c.answer := by
  rw [get, Entry.splitId_of_firstParts hid]
  exact ⟨rfl, rfl⟩

/-! ## 3. Whole calls -/

/-- The rules give what `get` does. -/
theorem Calls.eq {id service name : String} (hid : Entry.FirstParts id service name)
    (options : CallOptions)
    (h : c.Calls (c.book.request service name options.overrides options.catalog) sent result) :
    (c.get id options).sent = sent ∧ (c.get id options).result = result := by
  obtain ⟨hsent, hresult⟩ := get_of_firstParts (c := c) hid options
  generalize hrequest :
    c.book.request service name options.overrides options.catalog = request at h
  cases h with
  | noRequest cause =>
    obtain ⟨hfetched, hfailed⟩ := fetch_of_error hrequest
    refine ⟨hsent.trans hfetched, ?_⟩
    rw [hresult, hfailed]
    rfl
  | noResponse hresponse =>
    obtain ⟨hfetched, hfailed⟩ := fetch_of_ok hrequest
    refine ⟨hsent.trans hfetched, ?_⟩
    rw [hresult, hfailed, hresponse]
    rfl
  | answered hresponse htext =>
    obtain ⟨hfetched, hresponded⟩ := fetch_of_ok hrequest
    refine ⟨hsent.trans hfetched, ?_⟩
    rw [hresult, hresponded, hresponse, ← Text.reads_iff.1 htext]
    rfl

theorem get_iff_calls {id service name : String} (hid : Entry.FirstParts id service name)
    (options : CallOptions) :
    ((c.get id options).sent = sent ∧ (c.get id options).result = result) ↔
      c.Calls (c.book.request service name options.overrides options.catalog) sent result := by
  constructor
  · rintro ⟨rfl, rfl⟩
    obtain ⟨sent, result, h⟩ :=
      exists_calls c (c.book.request service name options.overrides options.catalog)
    obtain ⟨hsent, hresult⟩ := h.eq hid options
    rwa [hsent, hresult]
  · exact Calls.eq hid options

/-- **What comes of a call.**  The request is that of the first two parts of the listed name, and
what is sent and what comes of it are as the rules say.  Showing the call changes neither. -/
theorem get_outcome (c : Client) (id : String) (options : CallOptions) :
    ∃ service name, Entry.FirstParts id service name ∧
      (∀ sent result,
        ((c.get id options).sent = sent ∧ (c.get id options).result = result) ↔
          c.Calls (c.book.request service name options.overrides options.catalog) sent result) ∧
      ∀ debug,
        (c.get id { options with debug }).sent = (c.get id options).sent ∧
        (c.get id { options with debug }).result = (c.get id options).result := by
  obtain ⟨service, name, hid⟩ := Entry.exists_firstParts id
  refine ⟨service, name, hid, fun sent result => get_iff_calls hid options, fun debug => ?_⟩
  -- the rules do not mention whether the call is shown, so both calls obey the same ones
  exact Calls.eq hid { options with debug } ((get_iff_calls hid options).1 ⟨rfl, rfl⟩)

end CallBook.Client

import CallBook.Http.Send
import CallBook.Proofs.Http.Heads
/-!
# The headers of a response

A response has the headers of the last reply, regrouped: the lines of a name are put together at
the place of the first of them, and lines whose value is not plain ASCII are left out.
`Regrouped` says this name by name, and `Reply.receivedHeaders_eq_iff` says when the lines stay as
they are: when those of one name stood together before and all are plain.

Where the body is encoded, the lines that speak of that go with the coding.  Each of the two takes
the last of the names to its place, so what is left is `Gathered` but need not keep its order.

`deliver_headers` has this for every request and all servers.  The reply that counts is the one
to the last message that was sent, behind any provisional replies, and its lines are as they are
written (`WrittenHead`).
-/

namespace CallBook.Http

variable {header : String × String} {headers : List (String × String)}

/-! ## 1. Headers by name -/

namespace Reply

variable {names : List String} {name : String}

theorem names_cons (header : String × String) (headers : List (String × String)) :
    Reply.names (header :: headers) = header.1 :: Reply.names (headers.filter (·.1 ≠ header.1)) := by
  have hnames : (headers.map (·.1)).filter (fun name => !name == header.1) =
      (headers.filter (·.1 ≠ header.1)).map (·.1) := by
    rw [List.filter_map]
    congr 2
    funext h
    simp [Bool.beq_eq_decide_eq]
  rw [Reply.names, List.map_cons, List.eraseDups_cons, hnames, Reply.names]

/-- What holds of no headers, and of some headers if it does of those of the other names, holds
of all headers. -/
theorem names_induction {motive : List (String × String) → Prop} (nil : motive [])
    (cons : ∀ header headers, motive (headers.filter (·.1 ≠ header.1)) →
      motive (header :: headers)) :
    ∀ headers, motive headers
  | [] => nil
  | header :: headers => cons header headers (names_induction nil cons _)
termination_by headers => headers.length
decreasing_by exact Nat.lt_succ_of_le (List.length_filter_le _ _)

theorem mem_names_iff : name ∈ Reply.names headers ↔ ∃ header ∈ headers, header.1 = name := by
  rw [Reply.names, List.mem_eraseDups, List.mem_map]

theorem nodup_names (headers : List (String × String)) : (Reply.names headers).Nodup := by
  induction headers using names_induction with
  | nil => exact List.nodup_nil
  | cons header headers ih =>
    rw [names_cons]
    refine List.nodup_cons.2 ⟨fun hmem => ?_, ih⟩
    obtain ⟨other, hother, hname⟩ := mem_names_iff.1 hmem
    exact of_decide_eq_true (List.mem_filter.1 hother).2 hname

/-! ### Lines of some names -/

theorem byName_cons (name : String) (names : List String) (headers : List (String × String)) :
    byName (name :: names) headers = headers.filter (·.1 = name) ++ byName names headers :=
  List.flatMap_cons

theorem mem_byName_iff : header ∈ byName names headers ↔ header.1 ∈ names ∧ header ∈ headers := by
  simp [byName, and_comm]

/-- The two parts of headers that come by name have different names. -/
theorem names_of_parts (hnames : (name :: names).Nodup) (headers : List (String × String)) :
    (∀ e ∈ headers.filter (·.1 = name), e.1 = name) ∧ ∀ e ∈ byName names headers, e.1 ≠ name := by
  refine ⟨fun e he => of_decide_eq_true (List.mem_filter.1 he).2, fun e he hname => ?_⟩
  exact (List.nodup_cons.1 hnames).1 (hname ▸ (mem_byName_iff.1 he).1)

/-- Each name that comes has all its lines, and in their order. -/
theorem filter_byName (hnames : names.Nodup) (name : String) :
    (byName names headers).filter (·.1 = name) =
      if name ∈ names then headers.filter (·.1 = name) else [] := by
  induction names with
  | nil => rfl
  | cons other names ih =>
    obtain ⟨hblock, hrest⟩ := names_of_parts hnames headers
    rw [byName_cons, List.filter_append]
    by_cases h : name = other
    · subst h
      have hself : (headers.filter (·.1 = name)).filter (·.1 = name) =
          headers.filter (·.1 = name) := by
        simp only [List.filter_filter, Bool.and_self]
      have hnone : (byName names headers).filter (·.1 = name) = [] :=
        List.filter_eq_nil_iff.2 fun e he => by simpa using hrest e he
      rw [hself, hnone, List.append_nil, if_pos List.mem_cons_self]
    · have hnone : (headers.filter (·.1 = other)).filter (·.1 = name) = [] := by
        refine List.filter_eq_nil_iff.2 fun e he hname => h ?_
        exact (of_decide_eq_true hname).symm.trans (hblock e he)
      rw [hnone, List.nil_append, ih (List.nodup_cons.1 hnames).2]
      simp only [List.mem_cons, h, false_or]

/-! ### Names that are taken away -/

/-- Taking a name away moves another one to its place, and changes nothing else. -/
theorem withoutName_perm (hnames : names.Nodup) (name : String) :
    (withoutName name names).Perm (names.erase name) := by
  rcases List.eq_nil_or_concat names with rfl | ⟨front, last, rfl⟩
  · exact List.Perm.refl _
  · rw [List.concat_eq_append] at hnames ⊢
    simp only [withoutName, List.getLast?_concat, List.dropLast_concat, List.contains_iff_mem]
    have hsame : ∀ {part : List String}, name ∉ part →
        part.map (fun n => if n = name then last else n) = part := by
      intro part hpart
      exact (List.map_congr_left fun n hn => if_neg (ne_of_mem_of_not_mem hn hpart)).trans
        (List.map_id _)
    by_cases hmem : name ∈ front
    · -- the last one comes between the two parts around the name
      obtain ⟨before, behind, rfl⟩ := List.append_of_mem hmem
      obtain ⟨-, hbehind, hapart⟩ := List.nodup_append.1 (List.nodup_append.1 hnames).1
      have hbefore : name ∉ before := fun h => hapart name h name List.mem_cons_self rfl
      rw [List.nodup_cons] at hbehind
      rw [if_pos (by simp), List.map_append, List.map_cons, if_pos rfl, hsame hbefore,
        hsame hbehind.1, List.append_assoc, List.erase_append_right _ hbefore,
        List.cons_append, List.erase_cons_head]
      exact (List.perm_append_singleton last behind).symm.append_left before
    · by_cases h : name = last
      · subst h
        rw [if_pos (by simp), List.erase_append_right _ hmem, List.erase_cons_head,
          List.append_nil, hsame hmem]
      · rw [if_neg (by simp [hmem, h]), List.erase_of_not_mem (by simp [hmem, h])]

theorem nodup_withoutName (hnames : names.Nodup) (name : String) :
    (withoutName name names).Nodup :=
  (withoutName_perm hnames name).nodup_iff.2 (hnames.erase name)

theorem mem_withoutName_iff (hnames : names.Nodup) {other : String} :
    other ∈ withoutName name names ↔ other ≠ name ∧ other ∈ names :=
  (withoutName_perm hnames name).mem_iff.trans hnames.mem_erase_iff

end Reply

/-! ## 2. Headers that stand together -/

/-- Between two headers of one name there are only headers of that name. -/
def Together (headers : List (String × String)) : Prop :=
  ∀ a b c, [a, b, c].Sublist headers → a.1 = c.1 → b.1 = a.1

theorem Together.sublist {kept : List (String × String)} (h : Together headers)
    (hkept : kept.Sublist headers) : Together kept :=
  fun a b c habc => h a b c (habc.trans hkept)

/-- Headers of one name may stand in front of headers of other names. -/
theorem Together.append {block : List (String × String)} {name : String} (h : Together headers)
    (hblock : ∀ e ∈ block, e.1 = name) (hheaders : ∀ e ∈ headers, e.1 ≠ name) :
    Together (block ++ headers) := by
  intro a b c habc hac
  obtain ⟨front, back, hsplit, hfront, hback⟩ := List.sublist_append_iff.1 habc
  rcases front with - | ⟨x, - | ⟨y, front⟩⟩
  · exact h a b c (hsplit ▸ hback) hac
  · -- the outer two are on different sides, so they have different names
    obtain ⟨rfl, rfl⟩ : a = x ∧ [b, c] = back := by simpa using hsplit
    have ha := hblock a (List.singleton_sublist.1 hfront)
    exact absurd (hac.symm.trans ha) (hheaders c (hback.subset (by simp)))
  · obtain ⟨rfl, rfl, -⟩ : a = x ∧ b = y ∧ [c] = front ++ back := by simpa using hsplit
    rw [hblock a (hfront.subset (by simp)), hblock b (hfront.subset (by simp))]

namespace Reply

variable {names : List String} {name : String}

theorem together_byName (hnames : names.Nodup) (headers : List (String × String)) :
    Together (byName names headers) := by
  induction names with
  | nil => exact fun a b c habc => by cases habc
  | cons name names ih =>
    obtain ⟨hblock, hrest⟩ := names_of_parts hnames headers
    rw [byName_cons]
    exact (ih (List.nodup_cons.1 hnames).2).append hblock hrest

end Reply

/-! ## 3. What is made of the headers of a reply -/

/-- The headers name a coding that is undone, and do not say that there is no body. -/
def Encoded (headers : List (String × String)) : Prop :=
  (∃ c : Coding, c.name ∈ headerValues headers codingHeader ∨
    c.name ∈ headerValues headers encodingHeader) ∧
  (headerValues headers lengthHeader).head? ≠ some "0"

theorem isSome_coding?_iff : (coding? headers).isSome = true ↔ Encoded headers := by
  have hall : ∀ c : Coding, c ∈ Coding.all := by
    intro c
    cases c <;> decide
  have hnames : ∀ c : Coding, namesCoding headers c = true ↔
      c.name ∈ headerValues headers codingHeader ∨
        c.name ∈ headerValues headers encodingHeader := by
    intro c
    rw [namesCoding, List.contains_iff_mem, List.mem_append]
  rw [coding?, Encoded]
  by_cases hempty : (headerValues headers lengthHeader).head? = some "0"
  · simp [saysEmpty, hempty]
  · simp [saysEmpty, hempty, List.find?_isSome, hall, hnames]

/-- Some headers are made of some lines: the lines of each name are together, and only those with
a plain value are there. -/
structure Gathered (lines received : List (String × String)) : Prop where
  /-- A name has its plain values, all of them and in their order. -/
  values : ∀ name, received.filter (·.1 = name) =
    (lines.filter (·.1 = name)).filter fun line => isPlain line.2
  together : Together received

namespace Reply

variable {names : List String} {name : String}

/-- Headers that come by name are gathered from the lines that have one of the names. -/
theorem gathered_byName {lines : List (String × String)} (hnames : names.Nodup)
    (hlines : ∀ name, lines.filter (·.1 = name) =
      if name ∈ names then headers.filter (·.1 = name) else []) :
    Gathered lines ((byName names headers).filter fun line => isPlain line.2) where
  values name := by
    rw [hlines, ← filter_byName hnames, List.filter_filter, List.filter_filter]
    exact List.filter_congr fun e _ => Bool.and_comm _ _
  together := (together_byName hnames headers).sublist List.filter_sublist

/-- Of the headers of an encoded body those that speak of it are not handed on. -/
theorem gathered (r : Reply) (h : Encoded r.headers) :
    Gathered (r.headers.filter fun line => line.1 ≠ codingHeader ∧ line.1 ≠ lengthHeader)
      r.receivedHeaders := by
  have hreceived : r.receivedNames =
      withoutName lengthHeader (withoutName codingHeader (Reply.names r.headers)) :=
    if_pos (isSome_coding?_iff.2 h)
  have hnames := nodup_names r.headers
  have hcoding := nodup_withoutName hnames codingHeader
  rw [receivedHeaders, hreceived]
  refine gathered_byName (nodup_withoutName hcoding lengthHeader) fun name => ?_
  rw [List.filter_filter]
  by_cases hmem : name ∈ withoutName lengthHeader (withoutName codingHeader (Reply.names r.headers))
  · obtain ⟨hlength, hmem'⟩ := (mem_withoutName_iff hcoding).1 hmem
    have hother := ((mem_withoutName_iff hnames).1 hmem').1
    rw [if_pos hmem]
    refine List.filter_congr fun e _ => ?_
    by_cases he : e.1 = name
    · simp [he, hother, hlength]
    · simp [he]
  · rw [if_neg hmem, List.filter_eq_nil_iff]
    rintro e he hkept
    simp only [Bool.and_eq_true, decide_eq_true_eq] at hkept
    obtain ⟨rfl, hother, hlength⟩ := hkept
    exact hmem ((mem_withoutName_iff hcoding).2 ⟨hlength, (mem_withoutName_iff hnames).2
      ⟨hother, mem_names_iff.2 ⟨e, he, rfl⟩⟩⟩)

end Reply

/-! ## 4. Sending -/

variable {network : Network} {policy : Policy} {earlier sent : List Message} {r : Request}
  {response : Response}

/-- The response is the answer of the server to the last of the messages that were sent. -/
def AnswersLast (network : Network) (earlier sent : List Message) (response : Response) : Prop :=
  ∃ (before : List Message) (last : Outgoing) (bytes : List UInt8) (ending : Ending)
    (reply : Reply) (body : List UInt8),
    sent = before ++ [last.message] ∧
    network.react (earlier ++ before) last.url last.message = .answer bytes ending ∧
    Reply.read last.method bytes = .ok reply ∧ reply.content network.decode ending = .ok body ∧
    response = reply.response last.url.text body

/-- A message before the others does not change which one is the last. -/
theorem AnswersLast.after {m : Message} (h : AnswersLast network (earlier ++ [m]) sent response) :
    AnswersLast network earlier (m :: sent) response := by
  obtain ⟨before, last, bytes, ending, reply, body, rfl, hanswer, hread, hbody, hresponse⟩ := h
  rw [List.append_assoc, List.singleton_append] at hanswer
  exact ⟨m :: before, last, bytes, ending, reply, body, rfl, hanswer, hread, hbody, hresponse⟩

/-- A reply whose body is encoded. -/
def encodedReply : List UInt8 :=
  Text.encode ("HTTP/1.1 200 OK\r\ncontent-encoding: gzip\r\nx-a: 1\r\n" ++
    "content-length: 2\r\nx-b: 2\r\n\r\nba").toList

/-- The last name takes the place of the coding, and then nothing follows the length. -/
example :
    (deliver .standard ⟨fun _ _ _ => .answer encodedReply, fun _ data => .whole data.reverse⟩ []
      ⟨"http://[::1]/", "GET", [], none⟩).result =
        .ok ⟨200, "OK", "http://[::1]/", [("x-b", "2"), ("x-a", "1")], Text.encode "ab".toList⟩ := by
  decide +kernel

/-! ### A reply with lines of one name apart, and with a value that is not plain -/

end CallBook.Http

import CallBook.Proofs.Query.Limit
import CallBook.Proofs.Text.Cuts
import CallBook.Proofs.Text.Utf8
/-!
# What comes of a query

A processor is started with two arguments and reads a text, and what it leaves behind is an output,
errors and a status.  `Launches` says what it is handed: the query with a point in front, and the
bytes of the text.  `Answers` ranks what can go wrong, one rule for each outcome: the processor is
not started, its output is too large, it fails, and only then it is answered what it wrote.  `Tells`
says what a user is told of a failure.

An engine answers exactly what the rules give if its limit has a successor in 64 bits
(`query_outcome`).
-/

namespace CallBook.Query.Engine

/-! ## 1. What a processor is handed -/

/-- A query as it is run: it begins with a point, which it gets if it has none. -/
inductive Completes : String → String → Prop
  | own (rest : String) : Completes ("." ++ rest) ("." ++ rest)
  | given {query : String} : (∀ rest, query ≠ "." ++ rest) → Completes query ("." ++ query)

/-- What comes of starting a processor for a query about a text. -/
inductive Launches (e : Engine) (processor : Processor) (query text : String) :
    Except StartFailure Outcome → Prop
  /-- Neither the name of a program nor an argument can have a NUL character. -/
  | refused : '\x00' ∈ e.program.toList ∨ '\x00' ∈ query.toList →
      Launches e processor query text (.error .nulCharacter)
  /-- Otherwise the processor is handed the query as it is run and the text. -/
  | handed {completed : String} :
      '\x00' ∉ e.program.toList → '\x00' ∉ query.toList → Completes query completed →
        Launches e processor query text
          (processor.run ["-r", completed] (Text.encode text.toList))

variable {e : Engine} {processor : Processor} {query text : String}

theorem toList_point_append (rest : String) : ("." ++ rest).toList = '.' :: rest.toList := by
  rw [String.toList_append]
  rfl

/-- A query begins with a point if there is a rest of it behind one. -/
theorem head?_eq_point_iff :
    query.toList.head? = some '.' ↔ ∃ rest, query = "." ++ rest := by
  constructor
  · intro hhead
    obtain ⟨cs, hcs⟩ := List.head?_eq_some_iff.1 hhead
    refine ⟨String.ofList cs, String.toList_inj.1 ?_⟩
    rw [toList_point_append, String.toList_ofList, hcs]
  · rintro ⟨rest, rfl⟩
    rw [toList_point_append]
    rfl

theorem normalize_iff {completed : String} :
    normalize query = completed ↔ Completes query completed := by
  constructor
  · rintro rfl
    rw [normalize]
    split
    · rename_i hhead
      obtain ⟨rest, rfl⟩ := head?_eq_point_iff.1 hhead
      exact .own rest
    · rename_i hhead
      exact .given fun rest hrest => hhead (head?_eq_point_iff.2 ⟨rest, hrest⟩)
  · intro hcompletes
    cases hcompletes with
    | own rest => exact if_pos (head?_eq_point_iff.2 ⟨rest, rfl⟩)
    | given hother => exact if_neg fun hhead => (head?_eq_point_iff.1 hhead).elim hother

/-- A point more makes no NUL character. -/
theorem Completes.nul_mem_iff {completed : String} (h : Completes query completed) :
    '\x00' ∈ completed.toList ↔ '\x00' ∈ query.toList := by
  cases h with
  | own rest => exact Iff.rfl
  | given hother =>
    rw [toList_point_append, List.mem_cons]
    exact or_iff_right (by decide)

/-- The processor is refused if its program or the query has a NUL character. -/
theorem refused_iff :
    (hasNul e.program || (arguments query).any hasNul) = true ↔
      '\x00' ∈ e.program.toList ∨ '\x00' ∈ query.toList := by
  have hflag : hasNul "-r" = false := by decide +kernel
  have hquery := (normalize_iff.1 (Eq.refl (normalize query))).nul_mem_iff
  rw [arguments, List.any_cons, List.any_cons, List.any_nil, Bool.or_false, hflag, Bool.false_or,
    Bool.or_eq_true, hasNul, hasNul, List.contains_iff_mem, List.contains_iff_mem, hquery]

theorem start_iff_launches {started : Except StartFailure Outcome} :
    e.start processor query text = started ↔ e.Launches processor query text started := by
  constructor
  · rintro rfl
    rw [start]
    split
    · rename_i hnul
      exact .refused (refused_iff.1 hnul)
    · rename_i hnul
      obtain ⟨hprogram, hquery⟩ := not_or.1 (mt refused_iff.2 hnul)
      exact .handed hprogram hquery (normalize_iff.1 rfl)
  · intro hlaunches
    cases hlaunches with
    | refused hnul => exact if_pos (refused_iff.2 hnul)
    | handed hprogram hquery hcompletes =>
      rw [← normalize_iff.2 hcompletes]
      exact if_neg fun hnul => not_or.2 ⟨hprogram, hquery⟩ (refused_iff.1 hnul)

/-! ## 2. The rules -/

/-- The text of errors: that of which they are the UTF-8 form, or none. -/
inductive ErrorText : List UInt8 → String → Prop
  | text (cs : List Char) : ErrorText (Text.encode cs) (String.ofList cs)
  | none {bytes : List UInt8} : (∀ cs, bytes ≠ Text.encode cs) → ErrorText bytes ""

/-- What is answered to a query about a text.  Each rule holds only where nothing is wrong that
counts before. -/
inductive Answers (e : Engine) (processor : Processor) (query text : String) :
    Except QueryError String → Prop
  /-- The processor is not started. -/
  | notStarted {cause : StartFailure} :
      e.Launches processor query text (.error cause) →
        Answers e processor query text (.error (.notStarted e.program cause))
  /-- Its output is longer than the limit, however it ended. -/
  | tooLarge {outcome : Outcome} :
      e.Launches processor query text (.ok outcome) → e.limit.toNat < outcome.output.length →
        Answers e processor query text (.error (.tooLarge e.limit))
  /-- It ended without success. -/
  | failed {outcome : Outcome} {errors : String} :
      e.Launches processor query text (.ok outcome) → outcome.output.length ≤ e.limit.toNat →
      outcome.status ≠ .code 0 → ErrorText outcome.errors errors →
        Answers e processor query text (.error (.failed outcome.status errors))
  /-- It ended with success, and all of its output is read as text, whatever errors it wrote. -/
  | answered {outcome : Outcome} {answer : List Char} :
      e.Launches processor query text (.ok outcome) → outcome.output.length ≤ e.limit.toNat →
      outcome.status = .code 0 → Text.Reads outcome.output answer →
        Answers e processor query text (.ok (String.ofList answer))

/-- What a user is told of a processor that failed with a status and wrote these errors. -/
inductive Tells (status : ExitStatus) : List UInt8 → String → Prop
  /-- The errors without the blanks around them, if they are text and not blank. -/
  | errors {cs : List Char} :
      (∃ c ∈ cs, Text.isBlank c = false) →
        Tells status (Text.encode cs) (String.ofList (Text.trim cs))
  /-- Otherwise the status. -/
  | status {bytes : List UInt8} :
      (∀ cs, bytes = Text.encode cs → ∀ c ∈ cs, Text.isBlank c = true) →
        Tells status bytes ("jq exited " ++ status.described)

/-! ## 3. The answer is what the rules give -/

theorem errorText_iff {bytes : List UInt8} {errors : String} :
    errorText bytes = errors ↔ ErrorText bytes errors := by
  constructor
  · rintro rfl
    rw [errorText]
    split
    · rename_i cs hcs
      rw [Text.decode?_eq_some_iff.1 hcs]
      exact .text cs
    · rename_i hnone
      refine .none fun cs hcs => ?_
      rw [hcs, Text.decode?_encode] at hnone
      cases hnone
  · intro htext
    cases htext with
    | text cs => rw [errorText, Text.decode?_encode]
    | none hother =>
      rw [errorText]
      split
      · rename_i cs hcs
        exact absurd (Text.decode?_eq_some_iff.1 hcs) (hother cs)
      · rfl

theorem isSuccess_iff {status : ExitStatus} : status.isSuccess = true ↔ status = .code 0 := by
  cases status with
  | code n => rw [ExitStatus.isSuccess, beq_iff_eq, ExitStatus.code.injEq]
  | signal n => exact iff_of_false Bool.false_ne_true nofun

variable {outcome : Outcome}

/-- Where a processor fails and what is read is within the limit, its failure is answered. -/
theorem run_of_failure (h : e.start processor query text = .ok outcome)
    (hfailed : outcome.status.isSuccess = false)
    (hle : (e.kept outcome.output).length ≤ e.limit.toNat) :
    e.run processor query text = .error (.failed outcome.status (errorText outcome.errors)) := by
  rw [run, h]
  simp only [gt_iff_lt]
  rw [← kept, if_neg (Nat.not_lt.2 hle), hfailed]
  rfl

variable {result : Except QueryError String}

/-- The rules give at most what is answered. -/
theorem Answers.run_eq (h : e.Answers processor query text result)
    (hlimit : e.limit ≠ greatestLimit) : e.run processor query text = result := by
  cases h with
  | notStarted hlaunches => rw [run, start_iff_launches.2 hlaunches]
  | tooLarge hlaunches hlarge =>
    refine (run_eq_tooLarge_iff (start_iff_launches.2 hlaunches)).2 ⟨rfl, ?_⟩
    exact (lt_length_kept_iff hlimit _).2 hlarge
  | failed hlaunches hle hstatus herrors =>
    rw [← errorText_iff.2 herrors]
    refine run_of_failure (start_iff_launches.2 hlaunches) ?_ ?_
    · exact Bool.eq_false_iff.2 (mt isSuccess_iff.1 hstatus)
    · rwa [kept_of_le hlimit hle]
  | answered hlaunches hle hstatus hreads =>
    have hkept := kept_of_le hlimit hle
    rw [run_of_success (start_iff_launches.2 hlaunches) (isSuccess_iff.2 hstatus) (by rwa [hkept]),
      hkept, ← Text.reads_iff.1 hreads]

/-- The rules give something in every case. -/
theorem exists_answers (e : Engine) (processor : Processor) (query text : String) :
    ∃ result, e.Answers processor query text result := by
  match hstarted : e.start processor query text with
  | .error cause => exact ⟨_, .notStarted (start_iff_launches.1 hstarted)⟩
  | .ok outcome =>
    have hlaunches := start_iff_launches.1 hstarted
    rcases Nat.lt_or_ge e.limit.toNat outcome.output.length with hlarge | hle
    · exact ⟨_, .tooLarge hlaunches hlarge⟩
    · by_cases hstatus : outcome.status = .code 0
      · exact ⟨_, .answered hlaunches hle hstatus (Text.reads_decodeLossy _)⟩
      · exact ⟨_, .failed hlaunches hle hstatus (errorText_iff.1 rfl)⟩

theorem run_iff_answers (hlimit : e.limit ≠ greatestLimit) :
    e.run processor query text = result ↔ e.Answers processor query text result := by
  obtain ⟨given, hgiven⟩ := exists_answers e processor query text
  constructor
  · rintro rfl
    rwa [hgiven.run_eq hlimit]
  · exact fun hanswers => hanswers.run_eq hlimit

/-! ## 4. What is told -/

variable {status : ExitStatus} {bytes : List UInt8}

theorem message_failed (status : ExitStatus) (errors : String) :
    (QueryError.failed status errors).message =
      if (Text.trim errors.toList).isEmpty then "jq exited " ++ status.described
      else String.ofList (Text.trim errors.toList) := rfl

/-- Blank errors are not told. -/
theorem message_of_blank {errors : String} (h : ∀ c ∈ errors.toList, Text.isBlank c = true) :
    (QueryError.failed status errors).message = "jq exited " ++ status.described := by
  rw [message_failed]
  exact if_pos (List.isEmpty_iff.2 (Text.trim_eq_nil_iff.2 h))

/-- Errors that are not blank are told without the blanks around them. -/
theorem message_of_not_blank {errors : String}
    (h : ∃ c ∈ errors.toList, Text.isBlank c = false) :
    (QueryError.failed status errors).message = String.ofList (Text.trim errors.toList) := by
  obtain ⟨c, hmem, hc⟩ := h
  rw [message_failed]
  refine if_neg fun hempty => ?_
  have hblank := Text.trim_eq_nil_iff.1 (List.isEmpty_iff.1 hempty) c hmem
  exact Bool.false_ne_true (hc.symm.trans hblank)

/-- The rules for what is told give at most the message. -/
theorem Tells.message_eq {errors message : String} (h : Tells status bytes message)
    (htext : ErrorText bytes errors) : (QueryError.failed status errors).message = message := by
  cases h with
  | @errors cs hsome =>
    -- no bytes are the form of two texts
    have herrors : errors = String.ofList cs := by
      rw [← errorText_iff.2 htext, errorText_iff.2 (.text cs)]
    rw [herrors, message_of_not_blank (by rwa [String.toList_ofList]), String.toList_ofList]
  | status hblank =>
    refine message_of_blank ?_
    cases htext with
    | text cs =>
      rw [String.toList_ofList]
      exact hblank cs rfl
    | none hother => exact fun c hc => nomatch hc

/-- The rules for what is told give something in every case. -/
theorem exists_tells (status : ExitStatus) (bytes : List UInt8) :
    ∃ message, Tells status bytes message := by
  by_cases htext : ∃ cs, bytes = Text.encode cs ∧ ∃ c ∈ cs, Text.isBlank c = false
  · obtain ⟨cs, rfl, hsome⟩ := htext
    exact ⟨_, .errors hsome⟩
  · refine ⟨_, .status fun cs hcs c hmem => ?_⟩
    exact Bool.of_not_eq_false fun hc => htext ⟨cs, hcs, c, hmem, hc⟩

/-- A failure is told as its status and the bytes of its errors have it. -/
theorem message_iff_tells {errors message : String} (h : ErrorText bytes errors) :
    (QueryError.failed status errors).message = message ↔ Tells status bytes message := by
  obtain ⟨told, htold⟩ := exists_tells status bytes
  constructor
  · rintro rfl
    rwa [htold.message_eq h]
  · exact fun htells => htells.message_eq h

/-! ## 5. What comes of a query -/

/-- **What comes of a query.**  Where the limit has a successor in 64 bits, an engine answers what
the rules give and nothing else; and if it answers that the processor failed, its message is what
the rules have told of the status and the errors of the run it comes from. -/
theorem query_outcome (hlimit : e.limit.toNat + 1 < UInt64.size) :
    (∀ result, e.run processor query text = result ↔ e.Answers processor query text result) ∧
    ∀ status errors, e.run processor query text = .error (.failed status errors) →
      ∃ outcome, e.Launches processor query text (.ok outcome) ∧ outcome.status = status ∧
        ∀ message, (QueryError.failed status errors).message = message ↔
          Tells status outcome.errors message := by
  have hgreatest : e.limit ≠ greatestLimit := fun heq => by
    rw [heq] at hlimit
    exact absurd hlimit (by decide)
  refine ⟨fun result => run_iff_answers hgreatest, fun status errors hrun => ?_⟩
  cases (run_iff_answers hgreatest).1 hrun with
  | failed hlaunches _ _ herrors =>
    exact ⟨_, hlaunches, rfl, fun message => message_iff_tells herrors⟩

/-! ### Output that reaches the limit, and errors that are not text -/

/-- The processor that repeats its input, writes a byte that is not text and fails. -/
def garbling : Processor := (Script.mk false true [] [255] (.code 3)).processor

theorem launches_garbling :
    (Engine.mk "jq" 2).Launches garbling "id" "hi" (.ok ⟨[104, 105], [255], .code 3⟩) := by
  have hcompletes : Completes "id" ".id" := normalize_iff.1 (by decide +kernel)
  have hinput : Text.encode "hi".toList = [104, 105] := by decide +kernel
  have hhanded : (Engine.mk "jq" 2).Launches garbling "id" "hi"
      (garbling.run ["-r", ".id"] (Text.encode "hi".toList)) :=
    .handed (by decide) (by decide) hcompletes
  rwa [hinput] at hhanded

/-- Two bytes are within a limit of two, so the failure counts; and as its errors are no text, the
status is told. -/
theorem query_outcome_of_garbling :
    (2 : UInt64).toNat + 1 < UInt64.size ∧
    (Engine.mk "jq" 2).run garbling "id" "hi" = .error (.failed (.code 3) "") ∧
    ∃ outcome, (Engine.mk "jq" 2).Launches garbling "id" "hi" (.ok outcome) ∧
      outcome.status = .code 3 ∧
      ∀ message, (QueryError.failed (.code 3) "").message = message ↔
        Tells (.code 3) outcome.errors message := by
  have hlimit : (2 : UInt64).toNat + 1 < UInt64.size := by decide
  have herrors : ErrorText [255] "" := errorText_iff.1 (by decide +kernel)
  obtain ⟨hanswers, htold⟩ := query_outcome (e := Engine.mk "jq" 2) hlimit
  have hrun := (hanswers _).2 (.failed launches_garbling (by decide) (by decide) herrors)
  exact ⟨hlimit, hrun, htold _ _ hrun⟩

end CallBook.Query.Engine

import CallBook.Proofs.Results
import CallBook.Query.Script
/-!
# What a query may answer

An engine reads one byte more than its limit, to tell an output that reaches the limit from one
that goes beyond it.  So an output is too large exactly if it is longer than the limit, and of one
that is not nothing is lost (`length_kept`, `kept_of_le`).

The bound is counted in 64 bits, and the greatest limit has no successor there: the bound is zero
and nothing is read.  No output is too large then, and of every one everything is lost
(`run_of_limit`).  Settings with this limit have no fault.
-/

namespace CallBook.Query.Engine

/-- The limit that has no successor in 64 bits. -/
def greatestLimit : UInt64 := 18446744073709551615

/-! ## 1. What is read -/

variable {e : Engine}

theorem readBound_of_greatest (h : e.limit = greatestLimit) : e.readBound = 0 := by
  rw [readBound, h]
  decide

/-- Any other limit has a successor. -/
theorem toNat_readBound (h : e.limit ≠ greatestLimit) :
    e.readBound.toNat = e.limit.toNat + 1 := by
  have hne : e.limit.toNat ≠ greatestLimit.toNat := fun heq => h (UInt64.toNat_inj.1 heq)
  have hgreatest : greatestLimit.toNat = 2 ^ 64 - 1 := by decide
  have hlt := e.limit.toNat_lt
  have hone : (1 : UInt64).toNat = 1 := rfl
  rw [readBound, UInt64.toNat_add, hone]
  omega

/-- What is read of an output. -/
def kept (e : Engine) (output : List UInt8) : List UInt8 := output.take e.readBound.toNat

theorem kept_of_greatest (h : e.limit = greatestLimit) (output : List UInt8) :
    e.kept output = [] := by
  rw [kept, readBound_of_greatest h]
  exact List.take_zero

/-- What is read is longer than the limit if the output is. -/
theorem lt_length_kept_iff (h : e.limit ≠ greatestLimit) (output : List UInt8) :
    e.limit.toNat < (e.kept output).length ↔ e.limit.toNat < output.length := by
  rw [kept, List.length_take, toNat_readBound h]
  omega

/-- An output within the limit is read to its end. -/
theorem kept_of_le (h : e.limit ≠ greatestLimit) {output : List UInt8}
    (hle : output.length ≤ e.limit.toNat) : e.kept output = output := by
  refine List.take_of_length_le ?_
  rw [toNat_readBound h]
  omega

/-! ## 2. What is answered -/

variable {processor : Processor} {query text : String} {outcome : Outcome}

/-- An answer is too large if what is read is longer than the limit. -/
theorem run_eq_tooLarge_iff (h : e.start processor query text = .ok outcome) {limit : UInt64} :
    e.run processor query text = .error (.tooLarge limit) ↔
      limit = e.limit ∧ e.limit.toNat < (e.kept outcome.output).length := by
  rw [run, h]
  simp only [gt_iff_lt]
  rw [← kept]
  split
  · rename_i hlt
    simp only [Except.error.injEq, QueryError.tooLarge.injEq, hlt, and_true]
    exact eq_comm
  · rename_i hnot
    split
    · simp only [Except.error.injEq, reduceCtorEq, hnot, and_false]
    · simp only [reduceCtorEq, hnot, and_false]

/-- Where a processor succeeds and what is read is within the limit, that is answered. -/
theorem run_of_success (h : e.start processor query text = .ok outcome)
    (hsuccess : outcome.status.isSuccess = true)
    (hle : (e.kept outcome.output).length ≤ e.limit.toNat) :
    e.run processor query text = .ok (String.ofList (Text.decodeLossy (e.kept outcome.output))) := by
  rw [run, h]
  simp only [gt_iff_lt]
  rw [← kept, if_neg (Nat.not_lt.2 hle), hsuccess]
  rfl

/-- **What a limit does.**  Below the greatest limit an output is too large exactly if it is longer
than the limit, and a processor that succeeds within the limit has all of its output answered.  At
the greatest limit the bound is zero: no output is too large, and a processor that succeeds has
none of its output answered. -/
theorem run_of_limit (h : e.start processor query text = .ok outcome) :
    (e.limit ≠ greatestLimit →
      e.readBound.toNat = e.limit.toNat + 1 ∧
      (e.run processor query text = .error (.tooLarge e.limit) ↔
        e.limit.toNat < outcome.output.length) ∧
      (outcome.status.isSuccess = true → outcome.output.length ≤ e.limit.toNat →
        e.run processor query text = .ok (String.ofList (Text.decodeLossy outcome.output)))) ∧
    (e.limit = greatestLimit →
      e.readBound = 0 ∧
      (∀ limit, e.run processor query text ≠ .error (.tooLarge limit)) ∧
      (outcome.status.isSuccess = true → e.run processor query text = .ok "")) := by
  constructor
  · intro hlimit
    refine ⟨toNat_readBound hlimit, ?_, ?_⟩
    · rw [run_eq_tooLarge_iff h, lt_length_kept_iff hlimit]
      exact and_iff_right rfl
    · intro hsuccess hle
      have hkept := kept_of_le hlimit hle
      have hrun := run_of_success h hsuccess (by rwa [hkept])
      rwa [hkept] at hrun
  · intro hlimit
    have hkept := kept_of_greatest hlimit outcome.output
    refine ⟨readBound_of_greatest hlimit, ?_, ?_⟩
    · intro limit hlarge
      obtain ⟨-, hlt⟩ := (run_eq_tooLarge_iff h).1 hlarge
      rw [hkept] at hlt
      exact Nat.not_lt_zero _ hlt
    · intro hsuccess
      have hnothing : String.ofList (Text.decodeLossy []) = "" := by decide +kernel
      have hrun := run_of_success h hsuccess (by rw [hkept]; exact Nat.zero_le _)
      rwa [hkept, hnothing] at hrun

/-! ### The limit itself, and the greatest limit -/

/-- The processor that repeats its input. -/
def repeating : Processor := (Script.mk false true [] [] (.code 0)).processor

theorem start_repeating (limit : UInt64) :
    (Engine.mk "jq" limit).start repeating "id" "hi" = .ok ⟨[104, 105], [], .code 0⟩ := by
  have hnul : (hasNul "jq" || (arguments "id").any hasNul) = false := by decide +kernel
  have hinput : Text.encode "hi".toList = [104, 105] := by decide +kernel
  rw [start]
  simp only [hnul, hinput, Bool.false_eq_true, if_false]
  rfl

/-- Of two bytes all is answered where the limit is two. -/
theorem run_of_limit_two :
    (Engine.mk "jq" 2).start repeating "id" "hi" = .ok ⟨[104, 105], [], .code 0⟩ ∧
    (2 : UInt64) ≠ greatestLimit ∧
    (Engine.mk "jq" 2).run repeating "id" "hi" = .ok (String.ofList (Text.decodeLossy [104, 105])) :=
  ⟨start_repeating 2, by decide,
    ((run_of_limit (start_repeating 2)).1 (by decide)).2.2 rfl (by decide)⟩

/-- Settings that set no limit to speak of. -/
def boundless : Settings := { Settings.standard with maxQueryOutput := greatestLimit }

/-- **The greatest limit lets nothing through.**  A document may set it, and settings with it have
no fault; but of two bytes, which are within it, none is answered. -/
theorem run_of_boundless :
    (Settings.load (some (.object [("apicli",
      .object [("maxQueryOutput", Settings.natValue 18446744073709551615)])]))).settings =
        .ok boundless ∧
    boundless.fault? = none ∧
    (ofSettings boundless).readBound = 0 ∧
    (ofSettings boundless).start repeating "id" "hi" = .ok ⟨[104, 105], [], .code 0⟩ ∧
    [(104 : UInt8), 105].length ≤ (ofSettings boundless).limit.toNat ∧
    (ofSettings boundless).run repeating "id" "hi" = .ok "" ∧
    String.ofList (Text.decodeLossy [104, 105]) ≠ "" := by
  have hloaded : (Settings.load (some (.object [("apicli",
      .object [("maxQueryOutput", Settings.natValue 18446744073709551615)])]))).settings =
        .ok boundless := eq_ok_of_toOption (by decide +kernel)
  have hrun : (ofSettings boundless).run repeating "id" "hi" = .ok "" :=
    eq_ok_of_toOption (by decide +kernel)
  exact ⟨hloaded, by decide +kernel, by decide, start_repeating greatestLimit, by decide, hrun,
    by decide +kernel⟩

end CallBook.Query.Engine

/-!
# Laws of results

A computation of this library comes to a value or to an error.  These laws say what is known of
its parts when the whole comes to a value.
-/

namespace CallBook

variable {ε ε' α β : Type}

instance decidableEqExcept [DecidableEq ε] [DecidableEq α] : DecidableEq (Except ε α)
  | .ok a, .ok b => decidable_of_iff (a = b) ⟨congrArg Except.ok, Except.ok.inj⟩
  | .error e, .error e' => decidable_of_iff (e = e') ⟨congrArg Except.error, Except.error.inj⟩
  | .ok _, .error _ => isFalse nofun
  | .error _, .ok _ => isFalse nofun

/-- Two computations one after the other come to a value if both do. -/
theorem bind_eq_ok_iff {x : Except ε α} {f : α → Except ε β} {b : β} :
    (x >>= f) = .ok b ↔ ∃ a, x = .ok a ∧ f a = .ok b := by
  cases x with
  | error cause => exact iff_of_false (fun h => by cases h) fun ⟨_, ha, _⟩ => by cases ha
  | ok a => exact ⟨fun h => ⟨a, rfl, h⟩, fun ⟨_, ha, h⟩ => by cases ha; exact h⟩

/-- What is made of a value comes from a value. -/
theorem map_eq_ok {x : Except ε α} {f : α → β} {b : β} (h : x.map f = .ok b) :
    ∃ a, x = .ok a ∧ b = f a := by
  cases x with
  | error cause => cases h
  | ok a =>
    cases h
    exact ⟨a, rfl, rfl⟩

/-- A failure is not changed by what would be made of a value. -/
theorem map_eq_error {x : Except ε α} {f : α → β} {cause : ε} (h : x.map f = .error cause) :
    x = .error cause := by
  cases x with
  | error cause' =>
    cases h
    rfl
  | ok a => cases h

/-- Success is not changed by what is made of a failure. -/
theorem mapError_eq_ok {x : Except ε α} {f : ε → ε'} {a : α} (h : x.mapError f = .ok a) :
    x = .ok a := by
  cases x with
  | error cause => cases h
  | ok b =>
    cases h
    rfl

/-- What is made can be compared where its failures cannot. -/
theorem eq_ok_of_toOption {x : Except ε α} {a : α} (h : x.toOption = some a) : x = .ok a := by
  cases x with
  | error cause => cases h
  | ok b => exact congrArg Except.ok (Option.some.inj h)

end CallBook

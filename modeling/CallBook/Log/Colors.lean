import CallBook.Variables
/-!
# Whether notes are coloured

The user says so in a variable of the notes' own.  If that says neither yes nor no, the
variables count that speak for all programs: one forbids colours and one forces them, and the
first has the last word.  Without a word there are none, as notes go to no terminal.
-/

namespace CallBook.Log

/-- The variable that decides about the colours of notes. -/
def colorVariable : String := "RUST_LOG_STYLE"

/-- The variable that forbids all programs to use colours. -/
def forbiddingVariable : String := "NO_COLOR"

/-- The variable that forces all programs to use colours. -/
def forcingVariable : String := "CLICOLOR_FORCE"

/-- Does the environment set the variable to more than the empty text? -/
def isFilled (environment : Bindings) (name : String) : Bool :=
  (environment.get? name).any fun value => !value.isEmpty

/-- Does the environment ask for notes in colours? -/
def areColored (environment : Bindings) : Bool :=
  match environment.get? colorVariable with
  | some "always" => true
  | some "never" => false
  | _ => !isFilled environment forbiddingVariable && isFilled environment forcingVariable

end CallBook.Log

import CallBook.Query
/-!
# Scripted processors

A script says what a program does when it runs: it may show its arguments, repeat its input,
write given bytes, and then it ends.
-/

namespace CallBook

/-- What a program does, in the order of the fields. -/
structure Script where
  showsArguments : Bool
  repeatsInput : Bool
  output : List UInt8
  errors : List UInt8
  status : ExitStatus
deriving Repr, DecidableEq

namespace Script

/-- An argument in brackets on a line of its own. -/
def argumentLine (argument : String) : List UInt8 :=
  Text.encode (("[" ++ argument ++ "]\n").toList)

/-- The program that follows a script. -/
def processor (s : Script) : Processor where
  run arguments input := .ok {
    output :=
      (if s.showsArguments then arguments.flatMap argumentLine else []) ++
      (if s.repeatsInput then input else []) ++ s.output
    errors := s.errors
    status := s.status }

end Script

namespace Processor

/-- The program that cannot be started. -/
def missing (cause : StartFailure) : Processor where
  run _ _ := .error cause

/-- The program that writes its arguments on one line. -/
def echo : Processor where
  run arguments _ := .ok {
    output := Text.encode ((String.intercalate " " arguments ++ "\n").toList)
    errors := []
    status := .code 0 }

/-- The program that does nothing and fails. -/
def failing : Processor where
  run _ _ := .ok { output := [], errors := [], status := .code 1 }

end Processor

end CallBook

import Descent.Session.Basic

/-!
# Reports

The feedback of a session for its user: one text of what is worth knowing and,
after a failure or when errors were noted, one diagnostic.
-/
namespace Descent

/-- Error text with the marked span, given by offset and length, and the source's name. -/
structure Diagnostic where
  message : String
  span : Option (Nat × Nat)
  source : String
  deriving DecidableEq, Repr

structure Report where
  info : String
  error : Option Diagnostic
  deriving DecidableEq, Repr

namespace Diagnostic

/-- The diagnostic code of every failed parse. -/
def code : String := "trellis::parse"

/-- What is written at the marked span. -/
def label : String := "parsing failed here"

end Diagnostic

namespace Session

variable {V : Type}

/-- A failure that nobody explained is reported at its position. -/
def report (s : Session V) : Report :=
  let (info, errors) := Feedback.split s.result.feedback
  let unexplained := s.result.errorAt.map fun offset =>
    Feedback.Kind.error.label ++ ": " ++ (s.locate offset).1.describe s.source.name ++
      "parsing failed."
  { info
    error := (errors <|> unexplained).map fun message =>
      { message
        span := s.result.errorAt.map fun offset =>
          (min offset s.source.size, if offset < s.source.size then 1 else 0)
        source := s.source.name } }

end Session

end Descent

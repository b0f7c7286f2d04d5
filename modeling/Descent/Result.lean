import Descent.Feedback
import Descent.Value

/-!
# Parse results

The result of one parser call: where it began, the text it matched, its value,
the error position of a failure, and the feedback collected on the way.
-/
namespace Descent

structure Result (V : Type) where
  position : Nat := 0
  text : String := ""
  value : Value V := .none
  errorAt : Option Nat := none
  feedback : List Feedback.Item := []
  deriving Repr

namespace Result

variable {V : Type}

instance : Inhabited (Result V) := ⟨{}⟩

def failed (r : Result V) : Bool := r.errorAt.isSome

@[simp] theorem failed_eq_false {r : Result V} : r.failed = false ↔ r.errorAt = none := by
  simp [failed]

def count (kind : Feedback.Kind) (r : Result V) : Nat :=
  r.feedback.countP fun item => item.kind == kind

end Result

end Descent

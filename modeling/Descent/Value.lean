/-!
# Semantic values

What a parse stands for: nothing, a text, a natural number, a list of values,
or a value of the user's own type.
-/
namespace Descent

inductive Value (V : Type) where
  | none
  | text (s : String)
  | natural (n : UInt64)
  | list (items : List (Value V))
  | custom (v : V)
  deriving BEq, Repr

namespace Value

variable {V : Type}

instance : Inhabited (Value V) := ⟨.none⟩

def isNone : Value V → Bool
  | .none => true
  | _ => false

def text? : Value V → Option String
  | .text s => some s
  | _ => Option.none

def natural? : Value V → Option UInt64
  | .natural n => some n
  | _ => Option.none

def list? : Value V → Option (List (Value V))
  | .list items => some items
  | _ => Option.none

def custom? : Value V → Option V
  | .custom v => some v
  | _ => Option.none

end Value

end Descent

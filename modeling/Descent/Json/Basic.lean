/-!
# JSON

The values of JSON texts. A string or a key is `none` when it has a surrogate
without its other half, and a number is `none` unless it is a natural number
of sixty-four bits written without fraction and exponent; both occur only in
texts from outside.
-/
namespace Descent

inductive Json where
  | null
  | bool (b : Bool)
  | number (n : Option UInt64)
  | string (s : Option String)
  | array (items : List Json)
  | object (fields : List (Option String × Json))
  deriving BEq, Repr

namespace Json

instance : Inhabited Json := ⟨.null⟩

def text (s : String) : Json := .string (some s)

def natural (n : UInt64) : Json := .number (some n)

/-- A natural number that is known to fit. -/
def ofNat (n : Nat) : Json := .natural (UInt64.ofNat n)

/-- An object with keys that are texts. -/
def ofFields (fields : List (String × Json)) : Json :=
  .object (fields.map fun f => (some f.1, f.2))

end Json

end Descent

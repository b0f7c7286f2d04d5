import Descent.Text.Bytes

/-!
# Sources

A source is a named text. Cuts at offsets that are no boundaries give the
empty text.
-/
namespace Descent

structure Source where
  name : String
  content : String
  deriving DecidableEq, Repr

namespace Source

def chars (s : Source) : List Char := s.content.toList

def size (s : Source) : Nat := s.content.utf8ByteSize

theorem size_eq (s : Source) : s.size = byteLength s.chars := (byteLength_toList s.content).symm

/-- The text from an offset on. -/
def restFrom (s : Source) (offset : Nat) : List Char := (dropBytes? offset s.chars).getD []

def textBetween (s : Source) (start stop : Nat) : String :=
  String.ofList ((slice? start stop s.chars).getD [])

end Source

end Descent

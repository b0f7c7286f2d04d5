/-!
# Settings

A settings file is a list of `key = value` entries. A key may be defined more
than once; the last definition counts.
-/
namespace Descent

inductive SettingValue where
  | number (n : UInt64)
  | word (s : String)
  | quoted (s : String)
  deriving DecidableEq, Repr

/-- One entry with the byte offset of its key. -/
structure Setting where
  key : String
  value : SettingValue
  offset : Nat
  deriving DecidableEq, Repr

namespace Settings

/-- The last value of a key. -/
def get? (settings : List Setting) (key : String) : Option SettingValue :=
  (settings.reverse.find? fun s => s.key == key).map (·.value)

structure Options where
  /-- Radix of number values. -/
  radix : Nat := 10
  /-- Whether line breaks may stand around the equals sign. -/
  newlineIsBlank : Bool := false
  /-- What a line comment starts with. -/
  comment : String := "#"
  deriving DecidableEq, Repr

end Settings

end Descent

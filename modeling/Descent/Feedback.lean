/-!
# Feedback

What parsers and their hooks tell the user about places in the source.
-/
namespace Descent

namespace Feedback

inductive Kind where
  | info | warning | error
  deriving DecidableEq, Repr

def Kind.label : Kind → String
  | .info => "INFO"
  | .warning => "WARNING"
  | .error => "ERROR"

/-- A message about a byte offset. -/
structure Item where
  kind : Kind
  offset : Nat
  message : String
  deriving DecidableEq, Repr

def Item.display (item : Item) : String := s!"{item.kind.label}: {item.message}"

def Item.isError (item : Item) : Bool := item.kind == .error

def displayAll (items : List Item) : String := "\n".intercalate (items.map Item.display)

/-- The text of the informative items, and that of the errors if they have any. -/
def split (items : List Item) : String × Option String :=
  let errors := displayAll (items.filter Item.isError)
  (displayAll (items.filter fun i => !i.isError), if errors.isEmpty then none else some errors)

end Feedback

end Descent

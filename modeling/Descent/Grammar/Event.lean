/-!
# Trace events

What the combinators tell about their course, each with the offset at which
the combinator began.
-/
namespace Descent

inductive Event where
  | allMatched (start length : Nat)
  | allFailed (start child : Nat)
  | anyMatched (start child : Nat)
  | anyFailed (start children : Nat)
  | bestMatched (start stop : Nat)
  | bestFailed (start children : Nat)
  | optionalIgnored (start : Nat)
  | repeatMatched (start count length : Nat)
  | repeatFailed (start count min : Nat)
  deriving DecidableEq, Repr

namespace Event

def message : Event → String
  | allMatched .. => "all matched"
  | allFailed .. => "all failed"
  | anyMatched .. => "any matched"
  | anyFailed .. => "any failed"
  | bestMatched .. => "best matched"
  | bestFailed .. => "best failed"
  | optionalIgnored _ => "optional ignored a failure"
  | repeatMatched .. => "repeat matched"
  | repeatFailed .. => "repeat failed"

def fields : Event → List (String × Nat)
  | allMatched start length => [("org_pos", start), ("rel_pos", length)]
  | allFailed start child => [("org_pos", start), ("failed_child", child)]
  | anyMatched start child => [("org_pos", start), ("matched_child", child)]
  | anyFailed start children => [("org_pos", start), ("children", children)]
  | bestMatched start stop => [("org_pos", start), ("end", stop)]
  | bestFailed start children => [("org_pos", start), ("children", children)]
  | optionalIgnored start => [("org_pos", start)]
  | repeatMatched start count length =>
    [("org_pos", start), ("count", count), ("rel_pos", length)]
  | repeatFailed start count min => [("org_pos", start), ("count", count), ("min", min)]

/-- The part of the engine that an event comes from. -/
def target : Event → String
  | allMatched .. | allFailed .. => "trellis::combinators::all"
  | anyMatched .. | anyFailed .. => "trellis::combinators::any"
  | bestMatched .. | bestFailed .. => "trellis::combinators::best"
  | optionalIgnored _ => "trellis::combinators::optional"
  | repeatMatched .. | repeatFailed .. => "trellis::combinators::repeat"

/-- Offset at which the combinator began. -/
def start : Event → Nat
  | allMatched s _ | allFailed s _ | anyMatched s _ | anyFailed s _ | bestMatched s _
  | bestFailed s _ | optionalIgnored s | repeatMatched s _ _ | repeatFailed s _ _ => s

end Event

end Descent

/-!
# Configuration errors

What can be wrong with a parser's configuration before any text is read.
-/
namespace Descent

/-- The comment marks that must not be empty. -/
inductive Delimiter where
  | lineCommentStart | blockCommentStart | blockCommentEnd
  deriving DecidableEq, Repr

def Delimiter.describe : Delimiter → String
  | .lineCommentStart => "start of line comment"
  | .blockCommentStart => "start of block comment"
  | .blockCommentEnd => "end of block comment"

inductive ConfigError where
  | invalidRadix (radix : Nat)
  | emptyLiteral
  | emptyDelimiter (which : Delimiter)
  | emptyRegexp
  | invalidRegexp (pattern : String)
  | forwardAlreadyBound
  deriving DecidableEq, Repr

namespace ConfigError

def message : ConfigError → String
  | invalidRadix radix => s!"the radix has to be between 2 and 36, but is: {radix}"
  | emptyLiteral => "expected a literal as config, got empty string"
  | emptyDelimiter which => s!"expected {which.describe} as config, got empty string"
  | emptyRegexp => "expected a regular expression as config, got empty string"
  | invalidRegexp pattern => s!"invalid regular expression `{pattern}`"
  | forwardAlreadyBound => "forward parser is already bound"

/-- The diagnostic code that heads a report of the error. -/
def code : ConfigError → String
  | invalidRadix _ => "trellis::config::radix"
  | emptyLiteral => "trellis::config::literal"
  | emptyDelimiter _ => "trellis::config::delimiter"
  | emptyRegexp | invalidRegexp _ => "trellis::config::regexp"
  | forwardAlreadyBound => "trellis::config::forward"

end ConfigError

end Descent

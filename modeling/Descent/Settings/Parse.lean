import Descent.Settings.Grammar

/-!
# Parsing settings

A settings text is parsed in a session of its own. Errors in the feedback make
a failure even where the grammar has matched.
-/
namespace Descent

namespace Settings

/-- The settings of a text with what is worth knowing about them. -/
structure Parsed where
  settings : List Setting
  info : String
  deriving DecidableEq, Repr

inductive Failure where
  | config (e : ConfigError)
  | parse (d : Diagnostic)
  deriving DecidableEq, Repr

/-- A state at an offset of a source, with no settings yet. -/
def start (source : Source) (offset : Nat) : Run SettingValue (List Setting) :=
  ⟨({ source } : Session SettingValue).moveTo offset, [], #[]⟩

/-- Fuel enough for a settings grammar: the grammar nests six deep, and each round of its
repetition but the last reads something. -/
def fuel (source : Source) : Nat := source.size + 16

/-- Runs a settings grammar on a source from an offset on. -/
def runFrom (p : Parser) (source : Source) (offset : Nat) : Run SettingValue (List Setting) :=
  let r := start source offset
  (p.parse (fun _ => .dropped) (fuel source) r).getD r

/-- What a finished parse gives its user. -/
def conclude (r : Run SettingValue (List Setting)) : Except Failure Parsed :=
  let report := r.session.report
  match report.error with
  | some d => .error (.parse d)
  | none => .ok ⟨r.context, report.info⟩

def parseWith (p : Parser) (source : Source) : Except Failure Parsed :=
  conclude (runFrom p source 0)

/-- Parses a settings text under some options. -/
def parse (o : Options) (source : Source) : Except Failure Parsed :=
  match grammar o with
  | .ok p => parseWith p source
  | .error e => .error (.config e)

end Settings

end Descent

import Descent.Grammar.Event
import Descent.Json.Codec
import Descent.Settings.Parse

/-!
# Outcomes

What a check writes, line by line, and its exit code. Settings go to the
standard output; everything else goes to the standard error output.
-/
namespace Descent

namespace Check

/-- Why a check stops. -/
inductive Stop where
  | config (e : ConfigError)
  | unreadable (path : String)
  deriving DecidableEq, Repr

def Stop.message : Stop → String
  | config e => e.message
  | unreadable path => s!"failed to read {path}"

def Stop.code : Stop → String
  | config e => e.code
  | unreadable _ => "trellis::cli::io"

inductive Entry where
  | output (text : String)
  | log (line : String)
  | info (text : String)
  | failure (path : String) (d : Diagnostic)
  | stop (s : Stop)
  deriving DecidableEq, Repr

structure Outcome where
  entries : List Entry
  exitCode : Nat
  deriving DecidableEq, Repr

def Entry.output? : Entry → Option String
  | output text => some text
  | _ => none

def Entry.log? : Entry → Option String
  | log line => some line
  | _ => none

def Entry.code? : Entry → Option String
  | stop s => some s.code
  | _ => none

namespace Outcome

def standardOutput (o : Outcome) : String := String.join (o.entries.filterMap Entry.output?)

def logLines (o : Outcome) : List String := o.entries.filterMap Entry.log?

/-- The code of the report that the outcome ends with. -/
def code? (o : Outcome) : Option String := (o.entries.filterMap Entry.code?).getLast?

end Outcome

inductive Colour where
  | green | red

def Colour.number : Colour → String
  | green => "32"
  | red => "31"

/-- A word in bold colour, for terminals that know colours. -/
def paint (colours : Bool) (colour : Colour) (word : String) : String :=
  if colours then s!"\x1b[0m\x1b[1m\x1b[{colour.number}m{word}\x1b[0m" else word

def renderValue : SettingValue → String
  | .number n => toString n.toNat
  | .word s => s
  | .quoted s => "\"" ++ s ++ "\""

/-- One line of the plain listing. -/
def settingLine (s : Setting) : String := s!"  {s.key} = {renderValue s.value}\n"

def plainListing (colours : Bool) (path : String) (settings : List Setting) : String :=
  paint colours .green "ok" ++ s!" {path} ({settings.length} settings)\n" ++
    String.join (settings.map settingLine)

def jsonListing (path : String) (settings : List Setting) : String :=
  (Json.ofFields [("file", .text path), ("settings", .array (settings.map Setting.toJson))]).pretty
    ++ "\n"

def failureLine (colours : Bool) (path : String) : String :=
  paint colours .red "failed" ++ " " ++ path

def eventLine (e : Event) : String :=
  s!"TRACE {e.target}: {e.message}" ++
    String.join (e.fields.map fun (name, n) => s!" {name}={n}")

def checkingLine (path : String) (bytes : Nat) : String :=
  s!"DEBUG trellis::cli: checking file={path} bytes={bytes}"

def finishedLine (files failed : Nat) : String :=
  s!"DEBUG trellis::cli: check finished files={files} failed={failed}"

/-- The lines of a text, without the carriage returns at their ends. -/
def linesOf (text : String) : List String :=
  ((text.toList.splitOn '\n').map fun line =>
    String.ofList (if line.getLast? = some '\r' then line.dropLast else line))

/-- The lines on the standard error output that are neither log nor report. -/
def Entry.plainLines (colours : Bool) : Entry → List String
  | info text => linesOf text
  | failure path _ => [failureLine colours path]
  | _ => []

def Outcome.plainLines (colours : Bool) (o : Outcome) : List String :=
  o.entries.flatMap (Entry.plainLines colours)

end Check

end Descent

import Descent.Settings.Basic

/-!
# Arguments

The command line: `check` with a path and options, preceded by options of the
program itself. Anything else is a usage error, found at the first argument
that does not fit.
-/
namespace Descent

namespace Check

/-- What `check` is asked to do. -/
structure Options where
  path : String
  extension : String := "conf"
  settings : Settings.Options := {}
  json : Bool := false
  /-- How much is logged: nothing, what is done, or every event. -/
  verbosity : Nat := 0
  deriving DecidableEq, Repr

inductive Request where
  | check (o : Options)
  | version
  | help
  | usageError
  deriving DecidableEq, Repr

/-- The options given so far, each at most once apart from the verbosity. -/
structure Given where
  path : Option String := none
  extension : Option String := none
  radix : Option Nat := none
  newlineIsBlank : Bool := false
  comment : Option String := none
  json : Bool := false
  verbosity : Nat := 0

/-- Either the request is settled, or reading goes on. -/
inductive Reading where
  | settled (r : Request)
  | more (g : Given) (rest : List String)

/-- A number of thirty-two bits in decimal digits, perhaps after a sign. -/
def radixOf? (s : String) : Option Nat :=
  let (negative, digits) := match s.toList with
    | '+' :: cs => (false, cs)
    | '-' :: cs => (true, cs)
    | cs => (false, cs)
  if digits.isEmpty || !digits.all Char.isDigit then none
  else
    let n := digits.foldl (fun n c => n * 10 + (c.toNat - '0'.toNat)) 0
    if n < UInt32.size ∧ (negative → n = 0) then some n else none

def setExtension (value : String) (g : Given) : Option Given :=
  if g.extension.isSome then none else some { g with extension := some value }

def setRadix (value : String) (g : Given) : Option Given :=
  if g.radix.isSome then none else (radixOf? value).map fun n => { g with radix := some n }

def setComment (value : String) (g : Given) : Option Given :=
  if g.comment.isSome then none else some { g with comment := some value }

/-- Options with a value. -/
def valued? : List Char → Option (String → Given → Option Given)
  | name =>
    match String.ofList name with
    | "ext" => some setExtension
    | "radix" => some setRadix
    | "comment" => some setComment
    | _ => none

def setPath (value : String) (g : Given) : Option Given :=
  if value.isEmpty || g.path.isSome then none else some { g with path := some value }

def settle (rest : List String) : Option Given → Reading
  | some g => .more g rest
  | none => .settled .usageError

/-- An option without a value. -/
def readFlag (name : List Char) (g : Given) (rest : List String) : Reading :=
  match String.ofList name with
  | "help" => .settled .help
  | "verbose" => .more { g with verbosity := g.verbosity + 1 } rest
  | "json" => if g.json then .settled .usageError else .more { g with json := true } rest
  | "eol-space" =>
    if g.newlineIsBlank then .settled .usageError
    else .more { g with newlineIsBlank := true } rest
  | _ => .settled .usageError

/-- An argument that starts with a hyphen but is not a hyphen alone. -/
def isOption (arg : String) : Bool :=
  match arg.toList with
  | '-' :: _ :: _ => true
  | _ => false

/-- After two hyphens; the value may stand after an equals sign or in the next argument. -/
def readLong (cs : List Char) (g : Given) (rest : List String) : Reading :=
  let name := cs.takeWhile (· != '=')
  match valued? name, cs.drop name.length, rest with
  | some set, '=' :: value, _ => settle rest (set (String.ofList value) g)
  | some set, _, value :: rest =>
    if isOption value then .settled .usageError else settle rest (set value g)
  | some _, _, [] => .settled .usageError
  | none, '=' :: _, _ => .settled .usageError
  | none, _, _ => readFlag name g rest

/-- After one hyphen; several letters may stand together. -/
def readShort (g : Given) (rest : List String) : List Char → Reading
  | [] => .more g rest
  | 'v' :: cs => readShort { g with verbosity := g.verbosity + 1 } rest cs
  | 'h' :: _ => .settled .help
  | _ => .settled .usageError

/-- What the options add up to, once all arguments are read. -/
def Given.finish (outer : Nat) (g : Given) : Request :=
  match g.path with
  | none => .usageError
  | some path =>
    let standard : Settings.Options := {}
    .check
      { path
        extension := g.extension.getD "conf"
        settings :=
          { radix := g.radix.getD standard.radix
            newlineIsBlank := g.newlineIsBlank
            comment := g.comment.getD standard.comment }
        json := g.json
        verbosity := if g.verbosity = 0 then outer else g.verbosity }

/-- After two hyphens on their own every argument is a path. -/
def readPaths (outer : Nat) (g : Given) : List String → Request
  | [] => g.finish outer
  | arg :: rest =>
    match setPath arg g with
    | some g => readPaths outer g rest
    | none => .usageError

/-- The arguments after `check`. An option may take the argument after it as well, so the number
of arguments is fuel enough. -/
def readCheck (outer : Nat) : Nat → Given → List String → Request
  | _, g, [] => g.finish outer
  | 0, _, _ => .usageError
  | fuel + 1, g, arg :: rest =>
    let reading : Reading := match arg.toList with
      | ['-', '-'] => .settled (readPaths outer g rest)
      | '-' :: '-' :: cs => readLong cs g rest
      | '-' :: c :: cs => readShort g rest (c :: cs)
      | _ => settle rest (setPath arg g)
    match reading with
    | .settled r => r
    | .more g rest => readCheck outer fuel g rest

/-- Letters after one hyphen before the command. -/
def readProgramShort (verbosity : Nat) : List Char → Except Request Nat
  | [] => .ok verbosity
  | 'v' :: cs => readProgramShort (verbosity + 1) cs
  | 'V' :: _ => .error .version
  | 'h' :: _ => .error .help
  | _ => .error .usageError

/-- The arguments before the command, and the command itself. -/
def readProgram (verbosity : Nat) : List String → Request
  | [] => .usageError
  | arg :: rest =>
    match arg with
    | "check" => readCheck verbosity rest.length {} rest
    | "help" => if rest.isEmpty || rest = ["check"] || rest = ["help"] then .help else .usageError
    | "--version" => .version
    | "--help" => .help
    | "--verbose" => readProgram (verbosity + 1) rest
    | arg =>
      match arg.toList with
      | '-' :: '-' :: _ => .usageError
      | '-' :: c :: cs =>
        match readProgramShort verbosity (c :: cs) with
        | .ok verbosity => readProgram verbosity rest
        | .error r => r
      | _ => .usageError

/-- Reads a command line. -/
def Request.ofArguments (args : List String) : Request := readProgram 0 args

end Check

end Descent

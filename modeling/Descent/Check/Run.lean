import Descent.Check.Arguments
import Descent.Check.FileTree
import Descent.Check.Outcome

/-!
# Checking files

A check looks at the options first, then finds the files, and then parses them
one after the other. It stops at a file that cannot be read; a file that does
not parse only counts as failed.
-/
namespace Descent

namespace Check

/-- A file to be checked: its path and what it holds, unless that cannot be read. -/
structure Input where
  path : String
  contents : Option String
  deriving DecidableEq, Repr

/-- The files that a path stands for: itself, or those below it with the extension. -/
def discover (path ext : String) (found : Option FileTree) : List Input :=
  match found with
  | none => [⟨path, none⟩]
  | some (.file contents) | some (.other contents) => [⟨path, contents⟩]
  | some tree => (tree.withExtension ext).map fun f => ⟨f.1.foldl FileTree.joinPath path, f.2⟩

def logged (o : Options) (level : Nat) (line : String) : List Entry :=
  if level ≤ o.verbosity then [.log line] else []

/-- What the parse of one file writes. -/
def report (o : Options) (colours : Bool) (path : String) :
    Except Settings.Failure Settings.Parsed → List Entry
  | .ok p =>
    let listing :=
      if o.json then jsonListing path p.settings else plainListing colours path p.settings
    .output listing :: if p.info.isEmpty then [] else [.info p.info]
  | .error (.parse d) => [.failure path d]
  | .error (.config e) => [.stop (.config e)]

/-- The entries of one file, and whether it has failed. -/
def checkFile (o : Options) (colours : Bool) (p : Settings.Parser) (path contents : String) :
    List Entry × Bool :=
  let r := Settings.runFrom p ⟨path, contents⟩ 0
  let parsed := Settings.conclude r
  (logged o 1 (checkingLine path contents.utf8ByteSize) ++
    (if 2 ≤ o.verbosity then r.trace.toList.map fun e => .log (eventLine e) else []) ++
    report o colours path parsed, !parsed.isOk)

/-- Checks files until one cannot be read: the entries, and the number of failures unless the
check has stopped. -/
def checkAll (o : Options) (colours : Bool) (p : Settings.Parser) (failed : Nat) :
    List Input → List Entry × Option Nat
  | [] => ([], some failed)
  | ⟨path, none⟩ :: _ => ([.stop (.unreadable path)], none)
  | ⟨path, some contents⟩ :: rest =>
    let (entries, hasFailed) := checkFile o colours p path contents
    let (more, total) := checkAll o colours p (if hasFailed then failed + 1 else failed) rest
    (entries ++ more, total)

/-- Runs a check, given what was found at its path. -/
def run (o : Options) (colours : Bool) (found : Option FileTree) : Outcome :=
  match Settings.grammar o.settings with
  | .error e => ⟨[.stop (.config e)], 2⟩
  | .ok p =>
    let inputs := discover o.path o.extension found
    match checkAll o colours p 0 inputs with
    | (entries, none) => ⟨entries, 2⟩
    | (entries, some failed) =>
      ⟨entries ++ logged o 1 (finishedLine inputs.length failed), if failed = 0 then 0 else 1⟩

/-- Name and version of the program. -/
def versionLine : String := "trellis 0.1.0\n"

def usage : String :=
  "Usage: trellis [-v]... check [--ext EXT] [--radix RADIX] [--eol-space] [--comment COMMENT] " ++
    "[--json] PATH\n"

/-- Runs a command line on a file tree. -/
def runArguments (args : List String) (colours : Bool) (root : FileTree) : Outcome :=
  match Request.ofArguments args with
  | .check o => run o colours (root.at? o.path)
  | .version => ⟨[.output versionLine], 0⟩
  | .help => ⟨[.output usage], 0⟩
  | .usageError => ⟨[.info usage], 2⟩

end Check

end Descent

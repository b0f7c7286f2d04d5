import Descent.Check.Run

/-!
# The program

Finds what is at the path of a check, runs the command line on it and writes
the outcome.
-/
namespace Descent

namespace Check

/-- The contents of a file, unless it cannot be read as text. -/
def loadFile (path : String) : IO FileTree := do
  try
    return .file (String.fromUTF8? (← IO.FS.readBinFile path))
  catch _ => return .file none

/-- What is at a path. Below a directory only the files with the extension are read. -/
partial def loadTree (ext path : String) : IO (Option FileTree) := do
  let place := (← IO.currentDir) / path
  if ← place.isDir then
    let mut entries := []
    for entry in ← place.readDir do
      let inner := FileTree.joinPath path entry.fileName
      match (← entry.path.symlinkMetadata).type with
      | .dir =>
        match ← loadTree ext inner with
        | some tree => entries := (entry.fileName, tree) :: entries
        | none => pure ()
      | .file =>
        if FileTree.extension? entry.fileName = some ext then
          entries := (entry.fileName, ← loadFile inner) :: entries
      | _ => entries := (entry.fileName, .other none) :: entries
    return some (.directory entries)
  else if ← place.pathExists then return some (← loadFile path)
  else return none

/-- Whether the terminal knows colours and its user wants them. -/
def wantsColours : IO Bool := do
  let term ← IO.getEnv "TERM"
  return term.isSome && term != some "dumb" && (← IO.getEnv "NO_COLOR").isNone

def Entry.write (colours : Bool) (e : Entry) : IO Unit := do
  match e with
  | .output text => IO.print text
  | .log line => IO.eprintln line
  | .info text => IO.eprintln text
  | .failure path d =>
    IO.eprintln (failureLine colours path)
    IO.eprintln (Diagnostic.code ++ "\n\n" ++ d.message)
  | .stop s => IO.eprintln (s.code ++ "\n\n" ++ s.message)

end Check

end Descent

open Descent in
/-- Runs the command line and returns its exit code. -/
def main (args : List String) : IO UInt32 := do
  let colours ← Check.wantsColours
  let outcome ← match Check.Request.ofArguments args with
    | .check o => pure (Check.run o colours (← Check.loadTree o.extension o.path))
    | _ => pure (Check.runArguments args colours default)
  outcome.entries.forM (Check.Entry.write colours)
  return outcome.exitCode.toUInt32

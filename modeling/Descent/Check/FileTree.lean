/-!
# File trees

A directory holds named files and directories, and perhaps links or devices,
which are passed over. Paths are texts with slashes; the path of a file below
a directory is the directory's own path as it was given, then the names that
lead to the file.
-/
namespace Descent

/-- A file whose bytes are no text has no contents here. -/
inductive FileTree where
  | file (contents : Option String)
  /-- Neither a regular file nor a directory, though something may be read from it. -/
  | other (contents : Option String)
  | directory (entries : List (String × FileTree))

namespace FileTree

instance : Inhabited FileTree := ⟨.directory []⟩

/-- The part of a file's name after its last dot; a name that only starts with a dot has none. -/
def extension? (name : String) : Option String :=
  let cs := name.toList
  let after := (cs.reverse.takeWhile (· != '.')).reverse
  let stem := cs.take (cs.length - after.length - 1)
  if stem.isEmpty || name = ".." then none else some (String.ofList after)

/-- A path with a name added to it. -/
def joinPath (path name : String) : String :=
  if path.isEmpty || path.toList.getLast? = some '/' then path ++ name else path ++ "/" ++ name

/-- The entry that a list of names leads to; the directories passed on the way are kept for `..`. -/
def walk? (passed : List FileTree) (here : FileTree) : List String → Option FileTree
  | [] => some here
  | name :: names =>
    match here with
    | file _ | other _ => none
    | directory entries =>
      if name = "" ∨ name = "." then walk? passed here names
      else if name = ".." then
        match passed with
        | outer :: passed => walk? passed outer names
        | [] => none
      else match entries.lookup name with
        | some next => walk? (here :: passed) next names
        | none => none

/-- What is at a path that starts from a directory. -/
def at? (root : FileTree) (path : String) : Option FileTree :=
  match path.toList with
  | [] => none
  | '/' :: _ => none
  | cs => walk? [] root ((cs.splitOn '/').map String.ofList)

mutual

/-- The files below, each with the names that lead to it. -/
def files : FileTree → List (List String × Option String)
  | file contents => [([], contents)]
  | other _ => []
  | directory entries => filesOf entries

def filesOf : List (String × FileTree) → List (List String × Option String)
  | [] => []
  | (name, tree) :: entries => (tree.files.map fun f => (name :: f.1, f.2)) ++ filesOf entries

end

/-- Whether a name comes before another, by the first character in which they differ. -/
def nameBefore (name name' : String) : Bool :=
  name.toList.lex name'.toList fun c c' => c.toNat < c'.toNat

/-- The files below with an extension, in the order of their names from the outermost on. -/
def withExtension (ext : String) (tree : FileTree) : List (List String × Option String) :=
  (tree.files.filter fun f => (f.1.getLast?.bind extension?) == some ext).mergeSort
    fun a b => !b.1.lex a.1 nameBefore

/-- The tree with something put at the end of a list of names; directories are made on the way. -/
def insertAt (here : FileTree) (names : List String) (new : FileTree) : FileTree :=
  match names with
  | [] =>
    match new, here with
    | directory [], directory entries => directory entries
    | _, _ => new
  | name :: names =>
    let entries := match here with
      | directory entries => entries
      | file _ | other _ => []
    let inner := (entries.lookup name).getD (directory [])
    directory ((name, inner.insertAt names new) :: entries.filter fun e => e.1 != name)

end FileTree

end Descent

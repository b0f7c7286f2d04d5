import Descent.Check.FileTree
import Mathlib.Data.List.Lex
import Mathlib.Data.List.Nodup
import Mathlib.Data.String.Basic

/-!
# The files below a directory

Every file of a tree is found once, with the names that lead to it. Those with
an extension come in the order of their names, from the outermost on, so the
order in which a directory lists its entries makes no difference.
-/
namespace Descent

namespace FileTree

/-- A regular file with its contents, at the end of a list of names. -/
inductive Holds : FileTree → List String → Option String → Prop
  | file (contents : Option String) : Holds (.file contents) [] contents
  | entry {entries : List (String × FileTree)} {name : String} {tree : FileTree}
      {names : List String} {contents : Option String} (hmem : (name, tree) ∈ entries)
      (h : Holds tree names contents) : Holds (.directory entries) (name :: names) contents

/-- What an entry of a directory may be called. -/
structure IsName (name : String) : Prop where
  nonempty : name ≠ ""
  notHere : name ≠ "."
  notUp : name ≠ ".."
  noSlash : '/' ∉ name.toList

instance (name : String) : Decidable (IsName name) :=
  decidable_of_iff (name ≠ "" ∧ name ≠ "." ∧ name ≠ ".." ∧ '/' ∉ name.toList)
    ⟨fun ⟨h, h', h'', h'''⟩ => ⟨h, h', h'', h'''⟩, fun ⟨h, h', h'', h'''⟩ => ⟨h, h', h'', h'''⟩⟩

/-- No directory lists a name twice. -/
inductive Proper : FileTree → Prop
  | file (contents : Option String) : Proper (.file contents)
  | other (contents : Option String) : Proper (.other contents)
  | directory (entries : List (String × FileTree)) (hnodup : (entries.map (·.1)).Nodup)
      (hnames : ∀ e ∈ entries, IsName e.1) (h : ∀ e ∈ entries, Proper e.2) :
      Proper (.directory entries)

theorem Proper.isName {tree : FileTree} {names : List String} {contents : Option String}
    (h : tree.Proper) (hholds : tree.Holds names contents) : ∀ name ∈ names, IsName name := by
  induction hholds with
  | file => simp
  | entry hmem _ ih =>
    cases h with
    | directory entries _ hnames h =>
      intro name hname
      rcases List.mem_cons.1 hname with rfl | hname
      · exact hnames _ hmem
      · exact ih (h _ hmem) name hname

section Listings

variable {entries entries' : List (String × FileTree)}

/-- The order in which a directory lists its entries does not matter. -/
theorem Proper.perm (h : (FileTree.directory entries).Proper) (hperm : entries.Perm entries') :
    (FileTree.directory entries').Proper := by
  cases h with
  | directory _ hnodup hnames h =>
    refine .directory entries' ((hperm.map _).nodup_iff.1 hnodup) ?_ ?_
    · exact fun e he => hnames e (hperm.mem_iff.2 he)
    · exact fun e he => h e (hperm.mem_iff.2 he)

theorem Holds.perm {names : List String} {contents : Option String}
    (h : (FileTree.directory entries).Holds names contents) (hperm : entries.Perm entries') :
    (FileTree.directory entries').Holds names contents := by
  cases h with
  | entry hmem h => exact .entry (hperm.mem_iff.1 hmem) h

end Listings

section Files

theorem filesOf_eq (entries : List (String × FileTree)) :
    filesOf entries = entries.flatMap fun e => e.2.files.map fun f => (e.1 :: f.1, f.2) := by
  induction entries with
  | nil => rfl
  | cons e entries ih =>
    obtain ⟨name, tree⟩ := e
    rw [filesOf, ih]
    rfl

theorem mem_filesOf {entries : List (String × FileTree)} {names : List String}
    {contents : Option String} : (names, contents) ∈ filesOf entries ↔
      ∃ name tree rest, (name, tree) ∈ entries ∧ (rest, contents) ∈ tree.files ∧
        names = name :: rest := by
  rw [filesOf_eq, List.mem_flatMap]
  constructor
  · rintro ⟨⟨name, tree⟩, hmem, hfile⟩
    obtain ⟨⟨rest, _⟩, hrest, heq⟩ := List.mem_map.1 hfile
    obtain ⟨rfl, rfl⟩ := Prod.mk.inj heq
    exact ⟨name, tree, rest, hmem, hrest, rfl⟩
  · rintro ⟨name, tree, rest, hmem, hrest, rfl⟩
    exact ⟨(name, tree), hmem, List.mem_map_of_mem hrest⟩

/-- The files listed are those that the tree holds. -/
theorem mem_files {tree : FileTree} {names : List String} {contents : Option String} :
    (names, contents) ∈ tree.files ↔ tree.Holds names contents := by
  constructor
  · intro h
    -- every directory on the way takes one name
    induction names generalizing tree with
    | nil =>
      cases tree with
      | file contents' =>
        obtain rfl : contents = contents' := by simpa [files] using h
        exact .file contents
      | other contents' => cases h
      | directory entries =>
        obtain ⟨_, _, _, -, -, hnames⟩ := mem_filesOf.1 h
        cases hnames
    | cons name names ih =>
      cases tree with
      | file contents' => simp [files] at h
      | other contents' => cases h
      | directory entries =>
        obtain ⟨_, tree, _, hmem, hfile, hnames⟩ := mem_filesOf.1 h
        obtain ⟨rfl, rfl⟩ := List.cons.inj hnames
        exact .entry hmem (ih hfile)
  · intro h
    induction h with
    | file contents => exact List.mem_singleton_self _
    | entry hmem _ ih => exact mem_filesOf.2 ⟨_, _, _, hmem, ih, rfl⟩

/-- No two files of a tree are at the end of the same names. -/
theorem Proper.nodup {tree : FileTree} (h : tree.Proper) : (tree.files.map (·.1)).Nodup := by
  induction h with
  | file contents => exact List.nodup_singleton _
  | other contents => exact List.nodup_nil
  | directory entries hnodup _ _ ih =>
    have hfiles : (FileTree.directory entries).files = filesOf entries := rfl
    rw [hfiles, filesOf_eq, List.map_flatMap, List.nodup_flatMap]
    constructor
    · intro e he
      rw [List.map_map]
      have hmap := (ih e he).map (List.cons_injective (a := e.1))
      rwa [List.map_map] at hmap
    · refine (List.pairwise_map.1 hnodup).imp fun {e e'} hne => ?_
      intro names hmem hmem'
      obtain ⟨f, hf, rfl⟩ := List.mem_map.1 hmem
      obtain ⟨f', hf', heq⟩ := List.mem_map.1 hmem'
      obtain ⟨g, -, rfl⟩ := List.mem_map.1 hf
      obtain ⟨g', -, rfl⟩ := List.mem_map.1 hf'
      exact hne (List.cons.inj heq).1.symm

end Files

section Extensions

/-- A name that goes on after its start with a dot and the extension. -/
def HasExtension (ext name : String) : Prop :=
  ∃ stem, stem ≠ "" ∧ name = stem ++ "." ++ ext ∧ '.' ∉ ext.toList

theorem takeWhile_reverse_of_notMem {cs : List Char} (h : '.' ∉ cs) (rest : List Char) :
    (cs.reverse ++ rest).takeWhile (· != '.') = cs.reverse ++ rest.takeWhile (· != '.') := by
  apply List.takeWhile_append_of_pos
  intro c hc
  rw [bne_iff_ne]
  rintro rfl
  exact h (List.mem_reverse.1 hc)

/-- What comes after the last dot is the extension, unless the dot comes first. -/
theorem extension?_of_split {name : String} {stem after : List Char}
    (hsplit : name.toList = stem ++ '.' :: after) (hafter : '.' ∉ after) (hup : name ≠ "..") :
    extension? name = if stem = [] then none else some (String.ofList after) := by
  have htake : name.toList.reverse.takeWhile (· != '.') = after.reverse := by
    rw [hsplit, List.reverse_append, List.reverse_cons, List.append_assoc,
      takeWhile_reverse_of_notMem hafter]
    simp
  have hstem : name.toList.take (name.toList.length - after.length - 1) = stem := by
    have hlength : name.toList.length - after.length - 1 = stem.length := by
      rw [hsplit, List.length_append, List.length_cons]
      omega
    rw [hlength, hsplit, List.take_left]
  simp only [extension?, htake, List.reverse_reverse, hstem]
  simp [hup]

theorem extension?_of_notMem {name : String} (h : '.' ∉ name.toList) : extension? name = none := by
  have htake := takeWhile_reverse_of_notMem h []
  rw [List.append_nil] at htake
  simp [extension?, htake]

/-- Of the names that entries may have, those with something before their last dot have an
extension. -/
theorem extension?_eq_some_iff {name ext : String} (h : IsName name) :
    extension? name = some ext ↔ HasExtension ext name := by
  constructor
  · intro hext
    by_cases hdot : '.' ∈ name.toList
    · obtain ⟨back, front, hsplit, hback⟩ :=
        List.eq_append_cons_of_mem (List.mem_reverse.2 hdot)
      have hname : name.toList = front.reverse ++ '.' :: back.reverse := by
        rw [← List.reverse_reverse name.toList, hsplit]
        simp
      have hback : '.' ∉ back.reverse := fun hmem => hback (List.mem_reverse.1 hmem)
      rw [extension?_of_split hname hback h.notUp] at hext
      obtain ⟨hne, hext⟩ := Option.ite_none_left_eq_some.1 hext
      obtain rfl := Option.some.inj hext
      refine ⟨String.ofList front.reverse, by simpa using hne, ?_, by simpa using hback⟩
      apply String.toList_inj.1
      simp [hname]
    · rw [extension?_of_notMem hdot] at hext
      cases hext
  · rintro ⟨stem, hstem, rfl, hdot⟩
    have hsplit : (stem ++ "." ++ ext).toList = stem.toList ++ '.' :: ext.toList := by simp
    rw [extension?_of_split hsplit hdot h.notUp, if_neg (by simpa using hstem),
      String.ofList_toList]

end Extensions

section Order

/-- Names are ordered by their first difference. -/
theorem nameBefore_iff {name name' : String} : nameBefore name name' = true ↔ name < name' := by
  rw [nameBefore, List.lex_eq_true_iff_lex, String.lt_iff_toList_lt]
  have hchar : (fun c c' : Char => decide (c.toNat < c'.toNat) = true) = fun c c' => c < c' := by
    funext c c'
    rw [decide_eq_true_eq]
    rfl
  rw [hchar]
  rfl

theorem lex_nameBefore_iff {names names' : List String} :
    names.lex names' nameBefore = true ↔ names < names' := by
  rw [List.lex_eq_true_iff_lex]
  have hname : (fun name name' : String => nameBefore name name' = true) =
      fun name name' => name < name' := by
    funext name name'
    rw [nameBefore_iff]
  rw [hname]
  rfl

theorem mergeSort_names_pairwise (files : List (List String × Option String)) :
    (files.mergeSort fun a b => !b.1.lex a.1 nameBefore).Pairwise fun a b => a.1 ≤ b.1 := by
  have hle : ∀ a b : List String × Option String,
      (!b.1.lex a.1 nameBefore) = true ↔ a.1 ≤ b.1 := by
    intro a b
    rw [Bool.not_eq_true', ← Bool.not_eq_true, lex_nameBefore_iff, not_lt]
  refine (List.pairwise_mergeSort ?_ ?_ files).imp fun {a b} h => (hle a b).1 h
  · intro a b c hab hbc
    exact (hle a c).2 (le_trans ((hle a b).1 hab) ((hle b c).1 hbc))
  · intro a b
    rw [Bool.or_eq_true, hle, hle]
    exact le_total a.1 b.1

variable {tree : FileTree} {ext : String} {names : List String} {contents : Option String}

theorem withExtension_perm (tree : FileTree) (ext : String) :
    (tree.withExtension ext).Perm
      (tree.files.filter fun f => (f.1.getLast?.bind extension?) == some ext) :=
  List.mergeSort_perm _ _

theorem mem_withExtension (h : tree.Proper) : (names, contents) ∈ tree.withExtension ext ↔
    tree.Holds names contents ∧ ∃ name ∈ names.getLast?, HasExtension ext name := by
  rw [(withExtension_perm tree ext).mem_iff, List.mem_filter, mem_files]
  refine and_congr_right fun hholds => ?_
  have hname := h.isName hholds
  rw [beq_iff_eq, Option.bind_eq_some_iff]
  constructor
  · rintro ⟨name, hlast, hext⟩
    exact ⟨name, hlast, (extension?_eq_some_iff (hname name (List.mem_of_getLast? hlast))).1 hext⟩
  · rintro ⟨name, hlast, hext⟩
    exact ⟨name, hlast, (extension?_eq_some_iff (hname name (List.mem_of_getLast? hlast))).2 hext⟩

/-- The files come in the order of their names, and none of them twice. -/
theorem withExtension_pairwise (h : tree.Proper) (ext : String) :
    (tree.withExtension ext).Pairwise fun f g => f.1 < g.1 := by
  have hnodup : ((tree.withExtension ext).map (·.1)).Nodup := by
    rw [((withExtension_perm tree ext).map _).nodup_iff]
    exact h.nodup.sublist (List.filter_sublist.map _)
  have hsorted : (tree.withExtension ext).Pairwise fun f g => f.1 ≤ g.1 :=
    mergeSort_names_pairwise _
  exact hsorted.imp₂ (fun f g hle hne => lt_of_le_of_ne hle hne) (List.pairwise_map.1 hnodup)

/-- The files are listed as they are once they are sorted. -/
theorem withExtension_eq_of_perm (h : tree.Proper) {sorted : List (List String × Option String)}
    (hperm : sorted.Perm (tree.files.filter fun f => (f.1.getLast?.bind extension?) == some ext))
    (hsorted : sorted.Pairwise fun f g => f.1 < g.1) : tree.withExtension ext = sorted :=
  ((withExtension_perm tree ext).trans hperm.symm).eq_of_pairwise
    (fun _ _ _ _ hfg hgf => absurd hgf (lt_asymm hfg)) (withExtension_pairwise h ext) hsorted

/-- Trees that hold the same files list them in the same order. -/
theorem withExtension_congr {tree' : FileTree} (h : tree.Proper) (h' : tree'.Proper)
    (hsame : ∀ names contents, tree.Holds names contents ↔ tree'.Holds names contents)
    (ext : String) : tree.withExtension ext = tree'.withExtension ext := by
  have hfiles : tree'.files.Perm tree.files := by
    refine (List.perm_ext_iff_of_nodup (h'.nodup.of_map _) (h.nodup.of_map _)).2 ?_
    intro ⟨names, contents⟩
    rw [mem_files, mem_files, hsame]
  refine withExtension_eq_of_perm h ?_ (withExtension_pairwise h' ext)
  exact (withExtension_perm tree' ext).trans (hfiles.filter _)

end Order

section Paths

/-- What a path starts from, where it says so. -/
def origin : List Char → List String
  | '/' :: _ => ["/"]
  | ['.'] | '.' :: '/' :: _ => ["."]
  | _ => []

/-- The names that a path leads through. Slashes only separate them, and past the start of a path a
dot leads nowhere. -/
def components (path : String) : List String :=
  origin path.toList ++
    ((path.toList.splitOn '/').map String.ofList).filter fun name => name ≠ "" ∧ name ≠ "."

/-- Whatever comes after a path, unless it goes on with the dot that the path is. -/
theorem origin_append {cs : List Char} (hne : cs ≠ []) {more : List Char}
    (h : cs ≠ ['.'] ∨ more.head? = some '/') : origin (cs ++ more) = origin cs := by
  obtain ⟨c, cs, rfl⟩ := List.exists_cons_of_ne_nil hne
  cases cs with
  | nil =>
    by_cases hdot : c = '.'
    · obtain ⟨rest, rfl⟩ := List.head?_eq_some_iff.1 (h.resolve_left (by simp [hdot]))
      rw [hdot]
      rfl
    · by_cases hslash : c = '/'
      · rw [hslash]
        rfl
      · unfold origin
        grind
  | cons d cs =>
    unfold origin
    grind

theorem joinPath_cases (path name : String) :
    path = "" ∧ joinPath path name = name ∨
      (∃ cs, path.toList = cs ++ ['/'] ∧ (joinPath path name).toList = cs ++ '/' :: name.toList) ∨
      path ≠ "" ∧ path.toList.getLast? ≠ some '/' ∧
        (joinPath path name).toList = path.toList ++ '/' :: name.toList := by
  by_cases hempty : path = ""
  · subst hempty
    left
    simp [joinPath]
  · right
    by_cases hslash : path.toList.getLast? = some '/'
    · obtain ⟨cs, hcs⟩ := List.getLast?_eq_some_iff.1 hslash
      left
      exact ⟨cs, hcs, by simp [joinPath, hcs]⟩
    · right
      exact ⟨hempty, hslash, by simp [joinPath, hempty, hslash]⟩

theorem splitOn_name {name : String} (h : IsName name) :
    (((name.toList.splitOn '/').map String.ofList).filter fun name => name ≠ "" ∧ name ≠ ".") =
      [name] := by
  rw [List.splitOn_eq_singleton h.noSlash]
  simp [h.nonempty, h.notHere]

theorem origin_name {name : String} (h : IsName name) : origin name.toList = [] := by
  have hslash := h.noSlash
  have hdot : name.toList ≠ ['.'] := fun hdot => h.notHere (String.toList_inj.1 hdot)
  unfold origin
  split <;> simp_all

/-- A name that is added to a path comes last. -/
theorem components_joinPath {path name : String} (h : IsName name) :
    components (joinPath path name) = components path ++ [name] := by
  rcases joinPath_cases path name with ⟨rfl, hjoin⟩ | ⟨cs, hpath, hjoin⟩ | ⟨hne, hlast, hjoin⟩
  · rw [hjoin, components, splitOn_name h, origin_name h]
    rfl
  · have horigin : origin (cs ++ '/' :: name.toList) = origin (cs ++ ['/']) := by
      have happend : cs ++ '/' :: name.toList = cs ++ ['/'] ++ name.toList := by simp
      rw [happend]
      exact origin_append (by simp) (.inl (by simp [List.append_eq_cons_iff]))
    rw [components, hjoin, components, hpath, List.splitOn_append_cons_self,
      List.splitOn_append_cons_self, List.map_append, List.map_append, List.filter_append,
      List.filter_append, splitOn_name h, horigin]
    simp
  · have horigin : origin (path.toList ++ '/' :: name.toList) = origin path.toList :=
      origin_append (by simpa using hne) (.inr rfl)
    rw [components, hjoin, components, List.splitOn_append_cons_self, List.map_append,
      List.filter_append, splitOn_name h, horigin, List.append_assoc]

theorem components_foldl_joinPath {names : List String} (h : ∀ name ∈ names, IsName name)
    (path : String) : components (names.foldl joinPath path) = components path ++ names := by
  induction names generalizing path with
  | nil => simp
  | cons name names ih =>
    obtain ⟨hname, hnames⟩ := List.forall_mem_cons.1 h
    rw [List.foldl_cons, ih hnames, components_joinPath hname, List.append_assoc,
      List.singleton_append]

end Paths

end FileTree

end Descent

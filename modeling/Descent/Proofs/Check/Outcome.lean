import Descent.Check.Run
import Descent.Proofs.Check.Files
import Descent.Proofs.Settings.Acceptance

/-!
# What a check comes to

A check goes over the files at its path in their order, up to the first that
cannot be read. What it says about each of them is what the parse of that file
alone comes to, and its exit code sums up the whole.
-/
namespace Descent

namespace Check

/-- What a file alone comes to, if it can be read. -/
def Input.parse? (o : Settings.Options) (input : Input) :
    Option (Except Settings.Failure Settings.Parsed) :=
  input.contents.map fun contents => Settings.parse o ⟨input.path, contents⟩

/-- What is printed about a file that parses. -/
def listing? (o : Options) (colours : Bool) (input : Input) : Option String :=
  match input.parse? o.settings with
  | some (.ok p) =>
    some (if o.json then jsonListing input.path p.settings
      else plainListing colours input.path p.settings)
  | _ => none

/-- What is wrong with a file that can be read but does not parse. -/
def failure? (o : Options) (input : Input) : Option (String × Diagnostic) :=
  match input.parse? o.settings with
  | some (.error (.parse d)) => some (input.path, d)
  | _ => none

/-- The plain lines on the standard error output about a file alone: the warnings about one that
parses, or the line that says that it has failed. -/
def remarks (o : Options) (colours : Bool) (input : Input) : List String :=
  match input.parse? o.settings with
  | some (.ok p) => if p.info.isEmpty then [] else linesOf p.info
  | some (.error (.parse _)) => [failureLine colours input.path]
  | _ => []

/-- The files up to the first that cannot be read. -/
def readable (inputs : List Input) : List Input := inputs.takeWhile (·.contents.isSome)

def Entry.failure? : Entry → Option (String × Diagnostic)
  | failure path d => some (path, d)
  | _ => none

/-- The files that are said to have failed, with what is wrong there. -/
def Outcome.failures (o : Outcome) : List (String × Diagnostic) :=
  o.entries.filterMap Entry.failure?

/-- A file that a check at a path is about. -/
def Sought (path ext : String) (found : Option FileTree) (input : Input) : Prop :=
  match found with
  | none => input = ⟨path, none⟩
  | some (.file contents) | some (.other contents) => input = ⟨path, contents⟩
  | some tree => ∃ names contents, tree.Holds names contents ∧
      (∃ name ∈ names.getLast?, FileTree.HasExtension ext name) ∧
      input = ⟨names.foldl FileTree.joinPath path, contents⟩

/-- What a check says about files, and its exit code. -/
structure Outcome.AccountsFor (o : Options) (colours : Bool) (inputs : List Input)
    (outcome : Outcome) : Prop where
  output : outcome.standardOutput = String.join ((readable inputs).filterMap (listing? o colours))
  failures : outcome.failures = (readable inputs).filterMap (failure? o)
  /-- Each failure writes one line that names its file, and nothing else but warnings is written
  beside the log and the reports. -/
  lines : outcome.plainLines colours = (readable inputs).flatMap (remarks o colours)
  /-- A file that can be read either parses or fails. -/
  either : ∀ input ∈ readable inputs,
    (failure? o input).isSome = true ↔ listing? o colours input = none
  exitCode : outcome.exitCode =
    if ∃ input ∈ inputs, input.contents = none then 2
    else if ∃ input ∈ inputs, (failure? o input).isSome = true then 1 else 0

section Files

variable {path ext : String} {found : Option FileTree}

theorem mem_discover (h : ∀ tree ∈ found, tree.Proper) (input : Input) :
    input ∈ discover path ext found ↔ Sought path ext found input := by
  match found, h with
  | none, _ => exact List.mem_singleton
  | some (.file contents), _ => exact List.mem_singleton
  | some (.other contents), _ => exact List.mem_singleton
  | some (.directory entries), h =>
    have hproper := h _ rfl
    simp only [discover, Sought, List.mem_map]
    constructor
    · rintro ⟨⟨names, contents⟩, hmem, rfl⟩
      obtain ⟨hholds, hext⟩ := (FileTree.mem_withExtension hproper).1 hmem
      exact ⟨names, contents, hholds, hext, rfl⟩
    · rintro ⟨names, contents, hholds, hext, rfl⟩
      exact ⟨(names, contents), (FileTree.mem_withExtension hproper).2 ⟨hholds, hext⟩, rfl⟩

/-- The files are ordered by the components of their paths, and none comes twice. -/
theorem discover_pairwise (h : ∀ tree ∈ found, tree.Proper) :
    (discover path ext found).Pairwise fun a b =>
      FileTree.components a.path < FileTree.components b.path := by
  match found, h with
  | none, _ => exact List.pairwise_singleton _ _
  | some (.file contents), _ => exact List.pairwise_singleton _ _
  | some (.other contents), _ => exact List.pairwise_singleton _ _
  | some (.directory entries), h =>
    have hproper := h _ rfl
    refine List.pairwise_map.2 ((FileTree.withExtension_pairwise hproper ext).imp_of_mem ?_)
    intro f g hf hg hlt
    have hnames := hproper.isName ((FileTree.mem_withExtension hproper).1 hf).1
    have hnames' := hproper.isName ((FileTree.mem_withExtension hproper).1 hg).1
    rw [FileTree.components_foldl_joinPath hnames, FileTree.components_foldl_joinPath hnames']
    exact List.append_left_lt hlt

/-- Directories that hold the same files are the same to a check. -/
theorem discover_congr {entries entries' : List (String × FileTree)}
    (h : (FileTree.directory entries).Proper) (h' : (FileTree.directory entries').Proper)
    (hsame : ∀ names contents, (FileTree.directory entries).Holds names contents ↔
      (FileTree.directory entries').Holds names contents) :
    discover path ext (some (.directory entries)) =
      discover path ext (some (.directory entries')) := by
  simp only [discover, FileTree.withExtension_congr h h' hsame ext]

end Files

section Checks

variable {o : Options} {p : Settings.Parser} (colours : Bool)

@[simp] theorem logged_output (level : Nat) (line : String) :
    (logged o level line).filterMap Entry.output? = [] := by
  unfold logged
  split <;> rfl

@[simp] theorem logged_failure (level : Nat) (line : String) :
    (logged o level line).filterMap Entry.failure? = [] := by
  unfold logged
  split <;> rfl

@[simp] theorem logged_lines (level : Nat) (line : String) :
    (logged o level line).flatMap (Entry.plainLines colours) = [] := by
  unfold logged
  split <;> rfl

/-- The events of a parse go to the log only. -/
theorem logged_events (events : List Event) :
    let entries := if 2 ≤ o.verbosity then events.map fun e => Entry.log (eventLine e) else []
    entries.filterMap Entry.output? = [] ∧ entries.filterMap Entry.failure? = [] ∧
      entries.flatMap (Entry.plainLines colours) = [] := by
  dsimp only
  split <;> simp [Entry.output?, Entry.failure?, Entry.plainLines]

variable (hgrammar : Settings.grammar o.settings = .ok p)

include hgrammar

/-- With a grammar for the options, a parse matches or fails at a place. -/
theorem parse_cases (source : Source) :
    (∃ parsed, Settings.parse o.settings source = .ok parsed) ∨
      ∃ d, Settings.parse o.settings source = .error (.parse d) := by
  rw [Settings.parse, hgrammar]
  simp only [Settings.parseWith, Settings.conclude]
  split
  · exact .inr ⟨_, rfl⟩
  · exact .inl ⟨_, rfl⟩

/-- What is said about one file is what its contents alone come to. -/
theorem checkFile_tells (path contents : String) :
    let input : Input := ⟨path, some contents⟩
    (checkFile o colours p path contents).1.filterMap Entry.output? =
        (listing? o colours input).toList ∧
      (checkFile o colours p path contents).1.filterMap Entry.failure? =
        (failure? o input).toList ∧
      (checkFile o colours p path contents).1.flatMap (Entry.plainLines colours) =
        remarks o colours input ∧
      (checkFile o colours p path contents).2 = (failure? o input).isSome := by
  have hparse : Settings.conclude (Settings.runFrom p ⟨path, contents⟩ 0) =
      Settings.parse o.settings ⟨path, contents⟩ := by
    rw [Settings.parse, hgrammar]
    rfl
  obtain ⟨houtput, hfailure, hlines⟩ :=
    logged_events (o := o) colours (Settings.runFrom p ⟨path, contents⟩ 0).trace.toList
  dsimp only
  simp only [checkFile, hparse, List.filterMap_append, List.flatMap_append, logged_output,
    logged_failure, logged_lines, houtput, hfailure, hlines, List.nil_append, listing?, failure?,
    remarks, Input.parse?, Option.map_some]
  rcases parse_cases hgrammar ⟨path, contents⟩ with ⟨parsed, hok⟩ | ⟨d, herror⟩
  · rw [hok]
    by_cases hinfo : parsed.info.isEmpty <;>
      simp [report, hinfo, Entry.output?, Entry.failure?, Entry.plainLines, Except.isOk,
        Except.toBool]
  · rw [herror]
    exact ⟨rfl, rfl, rfl, rfl⟩

/-- What is said about files, one after the other, and how many of them fail. -/
theorem checkAll_tells (inputs : List Input) (failed : Nat) :
    (checkAll o colours p failed inputs).1.filterMap Entry.output? =
        (readable inputs).filterMap (listing? o colours) ∧
      (checkAll o colours p failed inputs).1.filterMap Entry.failure? =
        (readable inputs).filterMap (failure? o) ∧
      (checkAll o colours p failed inputs).1.flatMap (Entry.plainLines colours) =
        (readable inputs).flatMap (remarks o colours) ∧
      (checkAll o colours p failed inputs).2 =
        if ∃ input ∈ inputs, input.contents = none then none
        else some (failed + inputs.countP fun input => (failure? o input).isSome) := by
  induction inputs generalizing failed with
  | nil => exact ⟨rfl, rfl, rfl, by simp [checkAll]⟩
  | cons input inputs ih =>
    obtain ⟨path, contents⟩ := input
    cases contents with
    | none => simp [checkAll, readable, Entry.output?, Entry.failure?, Entry.plainLines]
    | some contents =>
      obtain ⟨houtput, hfailure, hlines, hfailed⟩ :=
        checkFile_tells colours hgrammar path contents
      have hreadable : readable (⟨path, some contents⟩ :: inputs) =
          ⟨path, some contents⟩ :: readable inputs := rfl
      simp only [checkAll, List.filterMap_append, List.flatMap_append, houtput, hfailure, hlines,
        hfailed]
      obtain ⟨ihoutput, ihfailure, ihlines, ihfailed⟩ :=
        ih (if (failure? o ⟨path, some contents⟩).isSome then failed + 1 else failed)
      refine ⟨?_, ?_, ?_, ?_⟩
      · rw [ihoutput, hreadable, List.filterMap_cons]
        cases listing? o colours ⟨path, some contents⟩ <;> rfl
      · rw [ihfailure, hreadable, List.filterMap_cons]
        cases failure? o ⟨path, some contents⟩ <;> rfl
      · rw [ihlines, hreadable, List.flatMap_cons]
      · rw [ihfailed, List.countP_cons]
        simp only [List.mem_cons, exists_eq_or_imp, reduceCtorEq, false_or]
        split
        · rfl
        · congr 1
          split <;> omega

/-- A file that can be read either parses or fails. -/
theorem failure?_isSome_iff {input : Input} (h : input.contents.isSome = true) :
    (failure? o input).isSome = true ↔ listing? o colours input = none := by
  obtain ⟨contents, hcontents⟩ := Option.isSome_iff_exists.1 h
  have hparse : input.parse? o.settings =
      some (Settings.parse o.settings ⟨input.path, contents⟩) := by
    rw [Input.parse?, hcontents]
    rfl
  unfold failure? listing?
  rw [hparse]
  rcases parse_cases hgrammar ⟨input.path, contents⟩ with ⟨parsed, hok⟩ | ⟨d, herror⟩
  · simp [hok]
  · simp [herror]

/-- A check under a grammar accounts for all files at its path. -/
theorem run_accountsFor (found : Option FileTree) :
    (run o colours found).AccountsFor o colours (discover o.path o.extension found) := by
  unfold run
  rw [hgrammar]
  dsimp only
  generalize discover o.path o.extension found = inputs
  have heither : ∀ input ∈ readable inputs,
      (failure? o input).isSome = true ↔ listing? o colours input = none := by
    intro input hinput
    unfold readable at hinput
    have hsome := List.mem_takeWhile_imp hinput
    exact failure?_isSome_iff colours hgrammar hsome
  obtain ⟨houtput, hfailures, hlines, hfailed⟩ := checkAll_tells colours hgrammar inputs 0
  generalize checkAll o colours p 0 inputs = checked at houtput hfailures hlines hfailed
  obtain ⟨entries, total⟩ := checked
  by_cases hstop : ∃ input ∈ inputs, input.contents = none
  · obtain rfl : total = none := hfailed.trans (if_pos hstop)
    exact ⟨congrArg String.join houtput, hfailures, hlines, heither, (if_pos hstop).symm⟩
  · obtain rfl : total = some _ := hfailed.trans (if_neg hstop)
    refine ⟨?_, ?_, ?_, heither, ?_⟩
    · simpa [Outcome.standardOutput] using congrArg String.join houtput
    · simpa [Outcome.failures] using hfailures
    · simpa [Outcome.plainLines] using hlines
    · rw [if_neg hstop]
      dsimp only
      by_cases hfails : ∃ input ∈ inputs, (failure? o input).isSome = true
      · have hpos := List.countP_pos_iff.2 hfails
        rw [if_pos hfails, if_neg (by omega)]
      · have hzero := List.countP_pos_iff.not.2 hfails
        rw [if_neg hfails, if_pos (by omega)]

end Checks

/-- A check says what its options and the files at its path come to. Under options that have no
grammar it says nothing about any file. Otherwise it goes over the files in the order of their paths
and accounts for each of them. Directories that hold the same files are the same to it, in whatever
order their entries are listed. -/
theorem run_outcome (o : Options) (colours : Bool) (found : Option FileTree)
    (hfound : ∀ tree ∈ found, tree.Proper) :
    (¬o.settings.Valid →
      (run o colours found).exitCode = 2 ∧ (run o colours found).standardOutput = "") ∧
    (o.settings.Valid →
      let inputs := discover o.path o.extension found
      (∀ input, input ∈ inputs ↔ Sought o.path o.extension found input) ∧
      inputs.Pairwise (fun a b => FileTree.components a.path < FileTree.components b.path) ∧
      (run o colours found).AccountsFor o colours inputs) ∧
    ∀ entries entries', found = some (.directory entries) →
      (FileTree.directory entries').Proper →
      (∀ names contents, (FileTree.directory entries).Holds names contents ↔
        (FileTree.directory entries').Holds names contents) →
      run o colours (some (.directory entries')) = run o colours found := by
  refine ⟨?_, ?_, ?_⟩
  · intro hinvalid
    cases hgrammar : Settings.grammar o.settings with
    | ok p => exact absurd (Settings.valid_of_grammar hgrammar) hinvalid
    | error e =>
      unfold run
      rw [hgrammar]
      exact ⟨rfl, rfl⟩
  · intro hvalid
    obtain ⟨radix, comment, -, -, hgrammar⟩ := hvalid.grammar
    exact ⟨mem_discover hfound, discover_pairwise hfound, run_accountsFor colours hgrammar found⟩
  · rintro entries entries' rfl hproper' hsame
    unfold run
    rw [discover_congr (hfound _ rfl) hproper' hsame]

/-- The file below `a` comes before the one beside it, though its path does not as a text. The file
that cannot be read stops the check, so that the one after it is not looked at. -/
theorem run_outcome_nested :
    let entries : List (String × FileTree) :=
      [("c.conf", .file (some "k = 2")), ("b.conf", .file none), ("a.conf", .file (some "k 1")),
        ("link.conf", .other none),
        ("a", .directory [("notes.txt", .file (some "")), ("z.conf", .file (some "k = 1"))])]
    let o : Options := { path := "d" }
    let outcome := run o false (some (.directory entries))
    outcome.exitCode = 2 ∧ outcome.standardOutput = "ok d/a/z.conf (1 settings)\n  k = 1\n" ∧
      outcome.failures.map (·.1) = ["d/a.conf"] ∧
      outcome.plainLines false = ["failed d/a.conf"] ∧
      run o false (some (.directory entries.reverse)) = outcome ∧
      (run { o with settings.radix := 37 } false (some (.directory entries))).exitCode = 2 := by
  intro entries o outcome
  have hinner : (FileTree.directory
      [("notes.txt", .file (some "")), ("z.conf", .file (some "k = 1"))]).Proper := by
    refine .directory _ (by decide) (by decide) ?_
    simp only [List.forall_mem_cons, List.not_mem_nil, false_implies, implies_true, and_true]
    exact ⟨.file _, .file _⟩
  have hproper : (FileTree.directory entries).Proper := by
    refine .directory _ (by decide) (by decide) ?_
    simp only [entries, List.forall_mem_cons, List.not_mem_nil, false_implies, implies_true,
      and_true]
    exact ⟨.file _, .file _, .file _, .other _, hinner⟩
  have hperm : entries.Perm entries.reverse := entries.reverse_perm.symm
  have hdiscover : discover o.path o.extension (some (.directory entries)) =
      [⟨"d/a/z.conf", some "k = 1"⟩, ⟨"d/a.conf", some "k 1"⟩, ⟨"d/b.conf", none⟩,
        ⟨"d/c.conf", some "k = 2"⟩] := by
    have hlisted : (FileTree.directory entries).withExtension o.extension =
        [(["a", "z.conf"], some "k = 1"), (["a.conf"], some "k 1"), (["b.conf"], none),
          (["c.conf"], some "k = 2")] :=
      FileTree.withExtension_eq_of_perm hproper (by decide +kernel) (by decide +kernel)
    simp only [discover, hlisted]
    decide +kernel
  have hfound : ∀ tree ∈ some (FileTree.directory entries), tree.Proper := by
    rintro _ ⟨⟩
    exact hproper
  obtain ⟨-, hvalid, hsame⟩ := run_outcome o false (some (.directory entries)) hfound
  obtain ⟨-, -, haccounts⟩ := hvalid (by decide)
  obtain ⟨hinvalid, -, -⟩ :=
    run_outcome { o with settings.radix := 37 } false (some (.directory entries)) hfound
  rw [hdiscover] at haccounts
  obtain ⟨d, hfailed⟩ : ∃ d,
      Settings.parse {} ⟨"d/a.conf", "k 1"⟩ = .error (.parse d) :=
    Settings.parse_of_scan_left (o := {}) (by decide) ⟨"d/a.conf", "k 1"⟩ (by decide +kernel)
  have hscan : Settings.scan {} 0 "k = 1".toList = ([⟨"k", .number 1, 0⟩], []) := by
    decide +kernel
  have hparsed : Settings.parse {} ⟨"d/a/z.conf", "k = 1"⟩ = .ok ⟨[⟨"k", .number 1, 0⟩], ""⟩ := by
    rw [Settings.parse_of_scan (o := {}) (by decide) ⟨"d/a/z.conf", "k = 1"⟩
      (congrArg Prod.snd hscan), Settings.accepted]
    simp only [Source.chars, hscan]
    rfl
  have hreadable : readable [⟨"d/a/z.conf", some "k = 1"⟩, ⟨"d/a.conf", some "k 1"⟩,
      ⟨"d/b.conf", none⟩, ⟨"d/c.conf", some "k = 2"⟩] =
        [⟨"d/a/z.conf", some "k = 1"⟩, ⟨"d/a.conf", some "k 1"⟩] := rfl
  refine ⟨haccounts.exitCode, ?_, ?_, ?_, ?_, (hinvalid (by decide)).1⟩
  · rw [haccounts.output, hreadable]
    simp only [List.filterMap_cons, List.filterMap_nil, listing?, Input.parse?, Option.map_some, o,
      hparsed, hfailed]
    decide +kernel
  · rw [haccounts.failures, hreadable]
    simp [failure?, Input.parse?, o, hparsed, hfailed]
  · rw [haccounts.lines, hreadable]
    simp only [List.flatMap_cons, List.flatMap_nil, remarks, Input.parse?, Option.map_some, o,
      hparsed, hfailed]
    decide +kernel
  · exact hsame entries entries.reverse rfl (hproper.perm hperm)
      fun names contents => ⟨(·.perm hperm), (·.perm hperm.symm)⟩

end Check

end Descent

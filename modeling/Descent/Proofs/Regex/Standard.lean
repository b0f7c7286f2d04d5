import Descent.Proofs.Regex.Dialect
import Descent.Proofs.Regex.Interior
import Descent.Proofs.Regex.Search

/-!
# The dialect of this library

The readers and the search of this library make an engine whose dialect treats
groups and the start of the text as it has to. Of the anchor the reader knows no
more, when the group behind it is closed, than that there is a piece before it.
-/
namespace Descent

namespace Pattern

section Shapes

/-- All that decides whether the rest of a pattern can be read: the flags, the names that are taken,
the flags around the open groups, and whether the last piece can be repeated. -/
structure Shape where
  flags : Flags
  names : List (List Char)
  outer : List Flags
  last : Option Bool

def Progress.shape (p : Progress) : Shape :=
  ⟨p.flags, p.names, p.outer.map Prod.snd, p.level.pieces.head?.map Piece.repeatable⟩

/-- What was read, without the pieces. -/
def outline : Option (Progress × List Char) → Option (Shape × List Char) :=
  Option.map fun r => (r.1.shape, r.2)

variable {p q : Progress} (h : p.shape = q.shape)

theorem outline_bind {α : Type} {found : Option α} {next next' : α → Option (Progress × List Char)}
    (h : ∀ x, outline (next x) = outline (next' x)) :
    outline (found.bind next) = outline (found.bind next') := by
  cases found with
  | none => rfl
  | some x => exact h x

theorem outline_map {found found' : Option Progress}
    (h : found.map Progress.shape = found'.map Progress.shape) (cs : List Char) :
    outline (found.map (·, cs)) = outline (found'.map (·, cs)) := by
  have houtline (found : Option Progress) : outline (found.map (·, cs)) =
      (found.map Progress.shape).map (·, cs) := by
    cases found <;> rfl
  rw [houtline, houtline, h]

theorem outline_some {p q : Progress} (h : p.shape = q.shape) (cs : List Char) :
    outline (some (p, cs)) = outline (some (q, cs)) := by
  show some (p.shape, cs) = some (q.shape, cs)
  rw [h]

include h

theorem shape_flags : p.flags = q.flags := congrArg Shape.flags h

theorem shape_push (pattern : Pattern) (height : Nat) :
    (p.push pattern height).shape = (q.push pattern height).shape := by
  obtain ⟨hflags, hnames, houter, -⟩ := Shape.mk.inj h
  exact Shape.mk.injEq .. ▸ ⟨hflags, hnames, houter, rfl⟩

theorem shape_openGroup (flags : Flags) :
    (p.openGroup flags).shape = (q.openGroup flags).shape := by
  obtain ⟨hflags, hnames, houter, -⟩ := Shape.mk.inj h
  simp [Progress.shape, Progress.openGroup, hflags, hnames, houter]

theorem shape_closeGroup :
    p.closeGroup.map Progress.shape = q.closeGroup.map Progress.shape := by
  obtain ⟨level, outer, flags, names⟩ := p
  obtain ⟨level', outer', flags', names'⟩ := q
  cases outer <;> cases outer' <;> simp_all [Progress.shape, Progress.closeGroup, Level.push]

theorem shape_repeatLast (min : Nat) (max : Option Nat) (greedy : Bool) :
    (p.repeatLast min max greedy).map Progress.shape =
      (q.repeatLast min max greedy).map Progress.shape := by
  obtain ⟨⟨alternatives, pieces⟩, outer, flags, names⟩ := p
  obtain ⟨⟨alternatives', pieces'⟩, outer', flags', names'⟩ := q
  cases pieces <;> cases pieces' <;> simp_all [Progress.shape, Progress.repeatLast]

theorem shape_pushAtom (a : Atom) :
    (p.pushAtom a).map Progress.shape = (q.pushAtom a).map Progress.shape := by
  cases a with
  | char c byte =>
    simp only [Progress.pushAtom, Option.map_map, shape_flags h]
    exact Option.map_congr fun s _ => shape_push h (.set s) 0
  | set s => exact congrArg some (shape_push h _ _)
  | look l => exact congrArg some (shape_push h _ _)

theorem outline_openNamed (cs : List Char) :
    outline (p.openNamed cs) = outline (q.openNamed cs) := by
  obtain ⟨hflags, hnames, houter, -⟩ := Shape.mk.inj h
  refine outline_bind fun r => ?_
  show outline (if p.names.contains r.1 then none else some (_, r.2)) =
    outline (if q.names.contains r.1 then none else some (_, r.2))
  rw [hnames]
  split
  · rfl
  · exact outline_some (by simp [Progress.shape, Progress.openGroup, hflags, houter]) r.2

theorem outline_readFlags (cs : List Char) :
    outline (p.readFlags cs) = outline (q.readFlags cs) := by
  obtain ⟨hflags, hnames, houter, -⟩ := Shape.mk.inj h
  refine outline_bind fun r => ?_
  dsimp only
  rw [hflags]
  split
  · exact outline_some (shape_openGroup h _) r.2.2
  · split
    · rfl
    · exact outline_some (by simp [Progress.shape, Level.push, hnames, houter]) r.2.2

theorem outline_readOpening (cs : List Char) :
    outline (p.readOpening cs) = outline (q.readOpening cs) := by
  simp only [Progress.readOpening, Progress.readExtension, branch, shape_flags h]
  split
  · split
    · exact outline_openNamed h _
    · split
      · exact outline_openNamed h _
      · exact outline_readFlags h _
  · exact outline_some (shape_openGroup h _) _

theorem outline_step (cs : List Char) : outline (p.step cs) = outline (q.step cs) := by
  obtain ⟨hflags, hnames, houter, -⟩ := Shape.mk.inj h
  rw [Progress.step.eq_def, Progress.step.eq_def q, hflags]
  split
  · rfl
  · exact outline_readOpening h _
  · exact outline_map (shape_closeGroup h) _
  · exact outline_some (by simp [Progress.shape, Level.nextAlternative, hnames, houter]) _
  · exact outline_bind fun r => outline_some (shape_push h _ _) _
  · exact outline_map (shape_repeatLast h ..) _
  · exact outline_map (shape_repeatLast h ..) _
  · exact outline_map (shape_repeatLast h ..) _
  · exact outline_bind fun r => outline_map (shape_repeatLast h ..) _
  · exact outline_bind fun r => outline_map (shape_pushAtom h r.1) _
  · rw [Option.map_eq_bind, Option.map_eq_bind]
    exact outline_bind fun s => outline_some (shape_push h (.set s) 0) _
  · exact outline_some (shape_push h _ _) _
  · exact outline_some (shape_push h _ _) _
  · exact outline_map (shape_pushAtom h _) _

theorem run_end_isSome {cs : List Char} (hskip : p.flags.skip cs = []) (fuel : Nat) :
    (p.run fuel cs).isSome = (q.run fuel cs).isSome := by
  obtain ⟨hflags, -, houter, -⟩ := Shape.mk.inj h
  have hempty : p.outer.isEmpty = q.outer.isEmpty := by
    simpa only [List.isEmpty_map] using congrArg List.isEmpty houter
  rw [run_end fuel hskip, run_end fuel (hflags ▸ hskip), hempty]
  split <;> rfl

/-- Whether the rest of a pattern can be read does not depend on the pieces before it. -/
theorem run_isSome (fuel : Nat) (cs : List Char) :
    (p.run fuel cs).isSome = (q.run fuel cs).isSome := by
  induction fuel generalizing p q cs with
  | zero =>
    cases hskip : p.flags.skip cs with
    | nil => exact run_end_isSome h hskip 0
    | cons c s => rw [run_zero hskip, run_zero (shape_flags h ▸ hskip)]
  | succ fuel ih =>
    cases hskip : p.flags.skip cs with
    | nil => exact run_end_isSome h hskip (fuel + 1)
    | cons c s =>
      rw [run_more fuel hskip, run_more fuel (shape_flags h ▸ hskip)]
      have hstep := outline_step h (c :: s)
      cases hp : p.step (c :: s) with
      | none =>
        rw [hp] at hstep
        rw [Option.map_eq_none_iff.1 hstep.symm]
      | some r =>
        rw [hp] at hstep
        obtain ⟨r', hq, hr⟩ := Option.map_eq_some_iff.1 hstep.symm
        obtain ⟨hshape, hrest⟩ := Prod.mk.inj hr
        rw [hq, Option.bind_some, Option.bind_some, hrest]
        exact ih hshape.symm r.2

end Shapes
/-- What a pattern spells by itself. -/
def read? (text : String) : Option Piece := Progress.run text.toList.length {} text.toList

theorem parse?_eq (text : String) :
    parse? text = (read? text).bind fun piece =>
      if piece.height ≤ maxHeight then some piece.pattern else none := rfl

end Pattern

open Pattern Regex

/-- What is well formed is what can be read, and matches are preferred as backtracking tries
them. -/
def Dialect.standard : Dialect where
  WellFormed text := (read? text).isSome
  Fits text := ∀ piece ∈ read? text, piece.height ≤ maxHeight ∧ piece.pattern.cost ≤ maxCost
  matchAt text before rest := (read? text).bind fun piece =>
    backtrack before.getLast? rest [piece.pattern.toRegex]

namespace Dialect

/-- Reading goes on in the group that a pattern opens. -/
theorem read?_openGroup (text : String) :
    read? ("(?:" ++ text) =
      (({} : Progress).under [({}, {})]).run (text.toList.length + 2) text.toList := by
  have hopen : ("(?:" ++ text).toList = '(' :: '?' :: ':' :: text.toList := by
    simp [String.toList_append]
  rw [read?, hopen]
  rfl

/-- Behind an anchor the group is opened above the anchor. -/
theorem read?_openAnchored (text : String) :
    read? ("^(?:" ++ text) =
      (({} : Progress).under [(({} : Level).push ⟨.look .textStart, 0, true⟩, {})]).run
        (text.toList.length + 2) text.toList := by
  have hopen : ("^(?:" ++ text).toList = '^' :: '(' :: '?' :: ':' :: text.toList := by
    simp [String.toList_append]
  rw [read?, hopen]
  rfl

/-- A group holds what stands in it, unless its parenthesis falls into a comment. -/
theorem read?_group {inner : String} {piece : Piece} (h : read? inner = some piece) :
    (read? (group inner) = some ⟨piece.pattern, piece.height + 1, true⟩ ∧
        read? ("^" ++ group inner) =
          some ⟨.cat (.look .textStart) piece.pattern, piece.height + 2, true⟩ ∧
        read? (inner ++ ")") = none) ∨
      (read? (group inner) = none ∧ read? (inner ++ ")") = some piece) := by
  have hclose : (inner ++ ")").toList = inner.toList ++ [')'] := by simp [String.toList_append]
  have halone : read? (inner ++ ")") =
      Progress.run (inner.toList.length + 1) {} (inner.toList ++ [')']) := by
    rw [read?, hclose, List.length_append]
    rfl
  have hgroup : read? (group inner) = (({} : Progress).under [({}, {})]).run
      (inner.toList.length + 3) (inner.toList ++ [')']) := by
    rw [group, String.append_assoc, read?_openGroup, hclose, List.length_append]
    rfl
  have hanchored : read? ("^" ++ group inner) =
      (({} : Progress).under [(({} : Level).push ⟨.look .textStart, 0, true⟩, {})]).run
        (inner.toList.length + 3) (inner.toList ++ [')']) := by
    rw [← anchored_eq, Primitive.anchored, String.append_assoc, read?_openAnchored, hclose,
      List.length_append]
    rfl
  rw [halone, hgroup, hanchored]
  rcases run_enclosed {} h with ⟨hplain, hnone⟩ | hlost
  · rcases run_enclosed (({} : Level).push ⟨.look .textStart, 0, true⟩) h with
      ⟨hlook, -⟩ | ⟨-, hsome⟩
    · exact .inl ⟨hplain, hlook, hnone⟩
    · cases hnone.symm.trans hsome
  · exact .inr hlost

/-- The start of the text and a group behind it match at the start as what the group holds. -/
theorem backtrack_anchored (r : Regex) (before rest : List Char) :
    backtrack before.getLast? rest [.cat (.look .textStart) r] =
      if before = [] then backtrack before.getLast? rest [r] else none := by
  have hanchored : Regex.cat (.look .textStart) r = r.anchored := rfl
  rw [hanchored, ← matchFront_eq_backtrack]
  split
  · next hbefore =>
    subst hbefore
    rw [← matchFront_eq_backtrack]
    exact matchFront_anchored_none r rest
  · next hbefore =>
    rw [List.getLast?_eq_some_getLast hbefore]
    exact matchFront_anchored_some r _ rest

theorem standard_lawful : standard.Lawful where
  group_iff inner h := by
    obtain ⟨piece, hpiece⟩ := Option.isSome_iff_exists.1 h
    rcases read?_group hpiece with ⟨hgroup, -, halone⟩ | ⟨hgroup, halone⟩
    · simp [standard, hgroup, halone]
    · simp [standard, hgroup, halone]
  exists_of_group text h := by
    obtain ⟨piece, hpiece⟩ := Option.isSome_iff_exists.1 h
    rw [read?_openGroup] at hpiece
    obtain ⟨front, tail, hcut, hfront⟩ := exists_of_run_under (List.cons_ne_nil _ []) hpiece
    refine ⟨String.ofList front, String.ofList tail, String.toList_inj.1 ?_, ?_⟩
    · simpa [String.toList_append] using hcut
    · have hread := hfront front.length (Nat.le_refl _)
      rwa [← String.toList_ofList (l := front)] at hread
  matchAt_group inner h hgroup := by
    obtain ⟨piece, hpiece⟩ := Option.isSome_iff_exists.1 h
    rcases read?_group hpiece with ⟨hread, -⟩ | ⟨hread, -⟩
    · simp only [standard, hread, hpiece]
      rfl
    · simp [standard, hread] at hgroup
  anchor_iff text := by
    have hshape := run_isSome (p := ({} : Progress).under [({}, {})])
      (q := ({} : Progress).under [(({} : Level).push ⟨.look .textStart, 0, true⟩, {})]) rfl
      (text.toList.length + 2) text.toList
    simp only [standard, read?_openGroup, read?_openAnchored, hshape]
  matchAt_anchor inner h hgroup before rest := by
    obtain ⟨piece, hpiece⟩ := Option.isSome_iff_exists.1 h
    rcases read?_group hpiece with ⟨hread, hanchored, -⟩ | ⟨hread, -⟩
    · simp only [standard, hread, hanchored]
      exact backtrack_anchored _ before rest
    · simp [standard, hread] at hgroup

theorem ofPattern?_eq (text : String) :
    Regex.ofPattern? text = (read? text).bind fun piece =>
      if piece.height ≤ maxHeight ∧ piece.pattern.cost ≤ maxCost then some piece.pattern.toRegex
      else none := by
  rw [Regex.ofPattern?, parse?_eq]
  cases read? text with
  | none => rfl
  | some piece =>
    by_cases hheight : piece.height ≤ maxHeight
    · simp [hheight]
    · simp [hheight]

theorem standard_compiles_iff (text : String) :
    (Engine.standard text).isSome ↔ standard.WellFormed text ∧ standard.Fits text := by
  rw [Engine.standard, Option.isSome_map, ofPattern?_eq]
  simp only [standard]
  cases read? text with
  | none => simp
  | some piece =>
    by_cases hfits : piece.height ≤ maxHeight ∧ piece.pattern.cost ≤ maxCost
    · simp [hfits]
    · simp [hfits]

/-- A search goes on to the first place where there is a match. -/
theorem findFrom_eq_some_iff (r : Regex) (front rest : List Char) (start stop : Nat) :
    r.findFrom front.getLast? (byteLength front) rest = some (start, stop) ↔
      FirstMatch (fun before => r.matchFront before.getLast?) front rest start stop := by
  have hhere {front rest : List Char} {n : Nat}
      (hmatch : r.matchFront front.getLast? rest = some n) :
      some (byteLength front, byteLength front + n) = some (start, stop) ↔
        FirstMatch (fun before => r.matchFront before.getLast?) front rest start stop := by
    rw [firstMatch_here hmatch, Option.some.injEq, Prod.mk.injEq, eq_comm, @eq_comm _ _ stop]
  induction rest generalizing front with
  | nil =>
    rw [findFrom.eq_def]
    cases hmatch : r.matchFront front.getLast? [] with
    | some n => exact hhere hmatch
    | none => exact ⟨nofun, fun h => absurd h (not_firstMatch_nil hmatch)⟩
  | cons c rest ih =>
    rw [findFrom.eq_def]
    cases hmatch : r.matchFront front.getLast? (c :: rest) with
    | some n => exact hhere hmatch
    | none =>
      rw [firstMatch_cons hmatch]
      simpa using ih (front ++ [c])
theorem standard_follows : Engine.standard.Follows standard where
  compiles_iff := standard_compiles_iff
  finds_iff text matcher h cs start stop := by
    obtain ⟨r, hr, rfl⟩ := Option.map_eq_some_iff.1 h
    rw [ofPattern?_eq] at hr
    obtain ⟨piece, hpiece, hr⟩ := Option.bind_eq_some_iff.1 hr
    obtain ⟨-, hr⟩ := Option.ite_none_right_eq_some.1 hr
    obtain rfl := Option.some.inj hr
    have hmatch : standard.matchAt text = fun before =>
        piece.pattern.toRegex.matchFront before.getLast? := by
      funext before after
      simp only [standard, hpiece, matchFront_eq_backtrack]
      rfl
    rw [hmatch]
    exact findFrom_eq_some_iff piece.pattern.toRegex [] cs start stop

end Dialect

end Descent

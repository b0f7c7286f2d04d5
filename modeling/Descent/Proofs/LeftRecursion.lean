import Descent.Proofs.Advance
import Descent.Proofs.Fuel
import Mathlib.Data.Fintype.Card
import Mathlib.Order.Filter.AtTopBot.Basic
import Mathlib.Order.Filter.Finite
import Mathlib.Order.Interval.Finset.Nat

/-!
# Grammars without left recursion

A rule calls another one on the left when it may come to it before anything
has been read. If no rule comes back to itself by such calls, then every parse
ends: between two visits of a rule something is read, and a repetition whose
child reads nothing stops as soon as it has its number of rounds.
-/
namespace Descent

variable {V C : Type}

namespace Grammar

mutual

/-- The cells that a parse may come to before anything has been read. A repetition that is
allowed no round does not run its child. -/
def leftCalls : Grammar V C → List Nat
  | primitive .. | script _ => []
  | all subs _ => leftCallsOfRow subs
  | any subs _ | best subs _ => leftCallsOfEach subs
  | optional sub _ => sub.leftCalls
  | repeated sub _ max _ => if max = some 0 then [] else sub.leftCalls
  | reference cell _ => [cell]

/-- In a row, a child that has to read hides those after it. -/
def leftCallsOfRow : List (Grammar V C) → List Nat
  | [] => []
  | g :: gs => g.leftCalls ++ if g.mayBeEmpty then leftCallsOfRow gs else []

def leftCallsOfEach : List (Grammar V C) → List Nat
  | [] => []
  | g :: gs => g.leftCalls ++ leftCallsOfEach gs

end

theorem mem_leftCallsOfEach {gs : List (Grammar V C)} {g : Grammar V C} (hg : g ∈ gs) {cell : Nat}
    (h : cell ∈ g.leftCalls) : cell ∈ leftCallsOfEach gs := by
  induction gs with
  | nil => cases hg
  | cons g' gs ih =>
    rw [leftCallsOfEach, List.mem_append]
    rcases List.mem_cons.1 hg with rfl | hg
    · exact Or.inl h
    · exact Or.inr (ih hg)

end Grammar

/-- The rule of one cell calls that of another on the left. -/
def CallsLeft (env : Env V C) (cell cell' : Nat) : Prop :=
  ∃ g, env cell = .bound g ∧ cell' ∈ g.leftCalls

namespace Run

/-- The runs of a source with the cursor at an offset. -/
def Stands (source : Source) (offset : Nat) (r : Run V C) : Prop :=
  r.session.source = source ∧ r.session.cursor = offset

/-- The child ends from `start` on, provided that at `start` itself all the cells that it may come
to without reading satisfy `Cell`. -/
structure EndsFrom (child : Runner V C) (source : Source) (start : Nat) (Cell : Nat → Prop)
    (g : Grammar V C) : Prop where
  advances : Advances child g (g.mayBeEmpty = false)
  ends : ∀ (r : Run V C) offset, start ≤ offset → offset ≤ source.size → Stands source offset r →
    (offset = start → ∀ cell ∈ g.leftCalls, Cell cell) → ∃ r', child g r = some r'

variable {child : Runner V C} {source : Source} {start : Nat} {Cell : Nat → Prop}

/-- Where a child that has ended stands. -/
theorem EndsFrom.run {g : Grammar V C} (h : EndsFrom child source start Cell g) {r : Run V C}
    {offset : Nat} (hle : start ≤ offset) (hsize : offset ≤ source.size)
    (hr : Stands source offset r) (hcells : offset = start → ∀ cell ∈ g.leftCalls, Cell cell) :
    ∃ r' offset', child g r = some r' ∧ Stands source offset' r' ∧ offset ≤ offset' ∧
      offset' ≤ source.size ∧
      (r'.failed = false → g.mayBeEmpty = false → offset < offset') := by
  obtain ⟨r', hrun⟩ := h.ends r offset hle hsize hr hcells
  obtain ⟨rfl, rfl⟩ := hr
  obtain ⟨hsource, hmoved⟩ := h.advances r r' hsize hrun
  exact ⟨r', r'.session.cursor, hrun, ⟨hsource, rfl⟩, hmoved.start_le, hsource ▸ hmoved.le_size,
    fun hok hreads => hmoved.reads hreads hok⟩

section Loops

theorem all_halts (gs : List (Grammar V C))
    (hchild : ∀ g ∈ gs, EndsFrom child source start Cell g) (i : Nat) (r : Run V C) (offset : Nat)
    (hle : start ≤ offset) (hsize : offset ≤ source.size) (hr : Stands source offset r)
    (hcells : offset = start → ∀ cell ∈ Grammar.leftCallsOfRow gs, Cell cell) :
    ∃ r', Run.all child start i gs r = some r' := by
  induction gs generalizing i r offset with
  | nil => exact ⟨_, rfl⟩
  | cons g gs ih =>
    rw [Grammar.leftCallsOfRow] at hcells
    obtain ⟨s, offset', hrun, hs, hle', hsize', hread⟩ :=
      (hchild g List.mem_cons_self).run hle hsize hr
        fun hstart cell hcell => hcells hstart cell (List.mem_append_left _ hcell)
    rw [Run.all, hrun, Option.bind_eq_bind, Option.bind_some]
    split
    · exact ⟨_, rfl⟩
    · next hok =>
      refine ih (fun g' hg' => hchild g' (List.mem_cons_of_mem g hg')) (i + 1)
        (s.onSession Session.collect) offset' (hle.trans hle') hsize' hs ?_
      -- Still at the start only if the child may be empty, and then its calls go on.
      intro hstart cell hcell
      have hempty : g.mayBeEmpty = true := by
        by_contra hreads
        have := hread (Bool.eq_false_iff.2 hok) (Bool.eq_false_iff.2 hreads)
        omega
      refine hcells (by omega) cell (List.mem_append_right _ ?_)
      rwa [if_pos hempty]

/-- A child that is run from the start of its combinator. -/
theorem EndsFrom.run_moveTo {g : Grammar V C} (h : EndsFrom child source start Cell g)
    {r : Run V C} (hsize : start ≤ source.size) (hr : r.session.source = source)
    (hcells : ∀ cell ∈ g.leftCalls, Cell cell) :
    ∃ r', child g (r.onSession (Session.moveTo start)) = some r' ∧
      r'.session.source = source := by
  have hstands : Stands source start (r.onSession (Session.moveTo start)) :=
    ⟨hr, Nat.min_eq_left (by rwa [hr])⟩
  obtain ⟨s, offset', hrun, ⟨hsource, -⟩, -⟩ :=
    h.run (Nat.le_refl start) hsize hstands fun _ => hcells
  exact ⟨s, hrun, hsource⟩

variable (n : Nat)

theorem any_halts (gs : List (Grammar V C))
    (hchild : ∀ g ∈ gs, EndsFrom child source start Cell g)
    (hcells : ∀ g ∈ gs, ∀ cell ∈ g.leftCalls, Cell cell) (i : Nat) (r : Run V C)
    (hsize : start ≤ source.size) (hr : r.session.source = source) :
    ∃ r', Run.any child start n i gs r = some r' := by
  induction gs generalizing i r with
  | nil => exact ⟨_, rfl⟩
  | cons g gs ih =>
    obtain ⟨s, hrun, hsource⟩ := (hchild g List.mem_cons_self).run_moveTo hsize hr
      (hcells g List.mem_cons_self)
    rw [Run.any, hrun, Option.bind_eq_bind, Option.bind_some]
    split
    · exact ih (fun g' hg' => hchild g' (List.mem_cons_of_mem g hg'))
        (fun g' hg' => hcells g' (List.mem_cons_of_mem g hg')) (i + 1) _ hsource
    · exact ⟨_, rfl⟩

theorem best_halts (gs : List (Grammar V C))
    (hchild : ∀ g ∈ gs, EndsFrom child source start Cell g)
    (hcells : ∀ g ∈ gs, ∀ cell ∈ g.leftCalls, Cell cell) (found : Option (Nat × Result V))
    (r : Run V C) (hsize : start ≤ source.size) (hr : r.session.source = source) :
    ∃ r', Run.best child start n found gs r = some r' := by
  induction gs generalizing found r with
  | nil => cases found <;> exact ⟨_, rfl⟩
  | cons g gs ih =>
    have hrest := fun g' hg' => hchild g' (List.mem_cons_of_mem g hg')
    have hcells' := fun g' hg' => hcells g' (List.mem_cons_of_mem g hg')
    obtain ⟨s, hrun, hsource⟩ := (hchild g List.mem_cons_self).run_moveTo hsize hr
      (hcells g List.mem_cons_self)
    rw [Run.best, hrun, Option.bind_eq_bind, Option.bind_some]
    split
    · exact ih hrest hcells' found _ hsource
    · exact ih hrest hcells' _ _ hsource

theorem optional_halts (g : Grammar V C) (hchild : EndsFrom child source start Cell g)
    (hcells : ∀ cell ∈ g.leftCalls, Cell cell) (r : Run V C) (hsize : start ≤ source.size)
    (hr : Stands source start r) : ∃ r', Run.optional child start g r = some r' := by
  obtain ⟨s, offset, hrun, -⟩ := hchild.run (Nat.le_refl start) hsize hr fun _ => hcells
  rw [Run.optional, hrun, Option.bind_eq_bind, Option.bind_some]
  dsimp only
  split <;> exact ⟨_, rfl⟩

/-- Each round but the last reads something, or is one of the rounds insisted on. -/
theorem rounds_halts (g : Grammar V C) (hchild : EndsFrom child source start Cell g)
    (hcells : ∀ cell ∈ g.leftCalls, Cell cell) (min : Nat) (max : Option Nat) (fuel count : Nat)
    (r : Run V C) (offset : Nat) (hle : start ≤ offset) (hsize : offset ≤ source.size)
    (hr : Stands source offset r) (hfuel : (source.size - offset) + (min - count) < fuel) :
    ∃ t, rounds child g min max fuel count r = some t := by
  induction fuel generalizing count r offset with
  | zero => omega
  | succ fuel ih =>
    unfold rounds
    split
    · obtain ⟨s, offset', hrun, hs, hle', hsize', -⟩ := hchild.run hle hsize hr fun _ => hcells
      rw [hrun, Option.bind_eq_bind, Option.bind_some]
      split
      · exact ⟨_, rfl⟩
      · dsimp only
        split
        · exact ⟨_, rfl⟩
        · next hidle =>
          refine ih (count + 1) (s.onSession Session.collect) offset' (hle.trans hle') hsize' hs ?_
          simp only [onSession_session, Session.collect_cursor, hs.2, hr.2] at hidle
          omega
    · exact ⟨_, rfl⟩

theorem repeated_halts (g : Grammar V C) (hchild : EndsFrom child source start Cell g)
    (min : Nat) (max : Option Nat) (hcells : max ≠ some 0 → ∀ cell ∈ g.leftCalls, Cell cell)
    (fuel : Nat) (r : Run V C) (hsize : start ≤ source.size) (hr : Stands source start r)
    (hfuel : source.size + min < fuel) :
    ∃ r', Run.repeated child start g min max fuel r = some r' := by
  obtain ⟨t, ht⟩ : ∃ t, rounds child g min max fuel 0 r = some t := by
    by_cases hmax : max = some 0
    · obtain ⟨fuel, rfl⟩ : ∃ k, fuel = k + 1 := ⟨fuel - 1, by omega⟩
      exact ⟨(r, 0, none), by simp [rounds, mayGoOn, hmax]⟩
    · exact rounds_halts g hchild (hcells hmax) min max fuel 0 r start (Nat.le_refl start) hsize hr
        (by omega)
  rw [Run.repeated, ht]
  exact ⟨_, rfl⟩

end Loops

end Run

open Filter

/-- With enough fuel, whatever the rest of the session, the parse from an offset ends. -/
def Grammar.Halts (env : Env V C) (source : Source) (offset : Nat) (g : Grammar V C) : Prop :=
  ∀ᶠ fuel in atTop, ∀ r, Run.Stands source offset r → ∃ r', g.parse env fuel r = some r'

namespace Grammar

variable (env : Env V C) (source : Source)

/-- The rule of a cell, if there is one, ends at an offset. -/
def CellHalts (offset cell : Nat) : Prop :=
  ∀ g, env cell = .bound g → g.Halts env source offset

section LaterOffsets

variable (henv : HookedEnv Script.Modest env) {start : Nat}
  (hlater : ∀ offset, start < offset → offset ≤ source.size →
    ∀ g : Grammar V C, g.HookedBy Script.Modest → g.Halts env source offset)

include henv hlater

/-- When everything ends later on, a grammar is a child that ends from here on as soon as its left
calls allow that it ends here. -/
theorem eventually_endsFrom {g : Grammar V C} (hg : g.HookedBy Script.Modest)
    (hhere : (∀ cell ∈ g.leftCalls, CellHalts env source start cell) → g.Halts env source start) :
    ∀ᶠ fuel in atTop,
      Run.EndsFrom (parse env fuel) source start (CellHalts env source start) g := by
  have hlater' : ∀ᶠ fuel in atTop, ∀ offset ∈ Set.Ioc start source.size,
      ∀ r, Run.Stands source offset r → ∃ r', g.parse env fuel r = some r' :=
    (eventually_all_finite (Set.finite_Ioc _ _)).2 fun offset hoffset =>
      hlater offset hoffset.1 hoffset.2 g hg
  have hhere' : ∀ᶠ fuel in atTop, (∀ cell ∈ g.leftCalls, CellHalts env source start cell) →
      ∀ r, Run.Stands source start r → ∃ r', g.parse env fuel r = some r' := by
    by_cases hcells : ∀ cell ∈ g.leftCalls, CellHalts env source start cell
    · exact (hhere hcells).mono fun fuel hfuel _ => hfuel
    · exact Eventually.of_forall fun fuel h => absurd h hcells
  filter_upwards [hlater', hhere'] with fuel hlater hhere
  refine ⟨parse_advances env henv fuel g hg, fun r offset hle hsize hr hcells => ?_⟩
  rcases Nat.eq_or_lt_of_le hle with rfl | hlt
  · exact hhere (hcells rfl) r hr
  · exact hlater offset ⟨hlt, hsize⟩ r hr

theorem eventually_each_endsFrom (gs : List (Grammar V C))
    (hgs : ∀ g ∈ gs, g.HookedBy Script.Modest)
    (hhere : ∀ g ∈ gs, (∀ cell ∈ g.leftCalls, CellHalts env source start cell) →
      g.Halts env source start) :
    ∀ᶠ fuel in atTop, ∀ g ∈ gs,
      Run.EndsFrom (parse env fuel) source start (CellHalts env source start) g :=
  (eventually_all_finite (List.finite_toSet gs)).2 fun g hg =>
    eventually_endsFrom env source henv hlater (hgs g hg) (hhere g hg)

/-- When everything ends later on, a grammar ends here if all the rules that it calls on the left
do. -/
theorem halts_of_leftCalls (hsize : start ≤ source.size) {g : Grammar V C}
    (hg : g.HookedBy Script.Modest)
    (hcells : ∀ cell ∈ g.leftCalls, CellHalts env source start cell) :
    g.Halts env source start := by
  have hone := fun {g} => eventually_endsFrom env source henv hlater (g := g)
  have heach := eventually_each_endsFrom env source henv hlater
  induction hg with
  | primitive p hook hmodest =>
    exact eventually_of_succ (Eventually.of_forall fun fuel r hr => ⟨_, rfl⟩)
  | all subs hook hooked hmodest ih =>
    refine eventually_of_succ ((heach subs hooked ih).mono fun fuel hsubs r hr => ?_)
    obtain ⟨s, hs⟩ := Run.all_halts subs hsubs 0 (r.onSession Session.pushFrame) start
      (Nat.le_refl start) hsize hr fun _ => by simpa [leftCalls] using hcells
    exact ⟨s.finish hook, by simp [parse, hr.2, hs]⟩
  | any subs hook hooked hmodest ih =>
    refine eventually_of_succ ((heach subs hooked ih).mono fun fuel hsubs r hr => ?_)
    obtain ⟨s, hs⟩ := Run.any_halts subs.length subs hsubs
      (fun g hg cell hcell => hcells cell (by simpa [leftCalls] using mem_leftCallsOfEach hg hcell))
      0 (r.onSession Session.pushFrame) hsize hr.1
    exact ⟨s.finish hook, by simp [parse, hr.2, hs]⟩
  | best subs hook hooked hmodest ih =>
    refine eventually_of_succ ((heach subs hooked ih).mono fun fuel hsubs r hr => ?_)
    obtain ⟨s, hs⟩ := Run.best_halts subs.length subs hsubs
      (fun g hg cell hcell => hcells cell (by simpa [leftCalls] using mem_leftCallsOfEach hg hcell))
      none (r.onSession Session.pushFrame) hsize hr.1
    exact ⟨s.finish hook, by simp [parse, hr.2, hs]⟩
  | optional sub hook hooked hmodest ih =>
    refine eventually_of_succ ((hone hooked ih).mono fun fuel hsub r hr => ?_)
    obtain ⟨s, hs⟩ := Run.optional_halts sub hsub (by simpa [leftCalls] using hcells)
      (r.onSession Session.pushFrame) hsize hr
    exact ⟨s.finish hook, by simp [parse, hr.2, hs]⟩
  | repeated sub min max hook hooked hmodest ih =>
    refine eventually_of_succ ?_
    filter_upwards [hone hooked ih, eventually_gt_atTop (source.size + min)]
      with fuel hsub hfuel r hr
    obtain ⟨s, hs⟩ := Run.repeated_halts sub hsub min max
      (fun hmax => by simpa [leftCalls, hmax] using hcells) fuel (r.onSession Session.pushFrame)
      hsize hr hfuel
    exact ⟨s.finish hook, by simp [parse, hr.2, hs]⟩
  | reference cell owning =>
    cases hcell : env cell with
    | bound g =>
      have hg := hcells cell (by simp [leftCalls]) g hcell
      refine eventually_of_succ (hg.mono fun fuel hfuel r hr => ?_)
      obtain ⟨s, hs⟩ := hfuel r hr
      exact ⟨s, by simp [parse, hcell, hs]⟩
    | unbound =>
      exact eventually_of_succ (Eventually.of_forall fun fuel r _ => by simp [parse, hcell])
    | dropped =>
      exact eventually_of_succ (Eventually.of_forall fun fuel r _ => by simp [parse, hcell])

end LaterOffsets

/-- An acyclic relation on finitely many cells can be followed only finitely often. -/
theorem wellFounded_of_acyclic {P : Nat → Prop} (hfinite : {cell | P cell}.Finite)
    {calls : Nat → Nat → Prop} (hacyclic : ∀ cell, ¬Relation.TransGen calls cell cell) :
    WellFounded fun called cell : {cell // P cell} => calls cell called := by
  have : Finite {cell // P cell} := hfinite
  let reaches := fun called cell : {cell // P cell} => Relation.TransGen calls cell called
  have : IsTrans _ reaches := ⟨fun _ _ _ h h' => h'.trans h⟩
  have : Std.Irrefl reaches := ⟨fun cell h => hacyclic cell h⟩
  exact Subrelation.wf Relation.TransGen.single (Finite.wellFounded_of_trans_of_irrefl reaches)

/-- If no rule comes back to itself by left calls, every grammar ends at every offset: by induction
on what is left of the text, and at one offset along the left calls. -/
theorem halts_of_acyclic (henv : HookedEnv Script.Modest env)
    (hfinite : {cell | ∃ g, env cell = .bound g}.Finite)
    (hacyclic : ∀ cell, ¬Relation.TransGen (CallsLeft env) cell cell) (offset : Nat)
    (hsize : offset ≤ source.size) (g : Grammar V C) (hg : g.HookedBy Script.Modest) :
    g.Halts env source offset := by
  induction hleft : source.size - offset using Nat.strongRecOn generalizing offset g with
  | ind left ih =>
    have hlater : ∀ offset', offset < offset' → offset' ≤ source.size →
        ∀ g : Grammar V C, g.HookedBy Script.Modest → g.Halts env source offset' :=
      fun offset' hlt hle g hg => ih _ (by omega) offset' hle g hg rfl
    have hcells : ∀ cell, CellHalts env source offset cell := by
      intro cell
      by_cases hbound : ∃ g, env cell = .bound g
      · have hrule : ∀ rule : {cell // ∃ g, env cell = .bound g},
            CellHalts env source offset rule := by
          intro rule
          induction rule using (wellFounded_of_acyclic hfinite hacyclic).induction with
          | h rule ih =>
            intro g hg
            refine halts_of_leftCalls env source henv hlater hsize (henv rule g hg) ?_
            intro called hcalled g' hg'
            exact ih ⟨called, g', hg'⟩ ⟨g, hg, hcalled⟩ g' hg'
        exact hrule ⟨cell, hbound⟩
      · intro g hg
        exact absurd ⟨g, hg⟩ hbound
    exact halts_of_leftCalls env source henv hlater hsize hg fun cell _ => hcells cell

end Grammar

/-- Without left recursion every parse ends, whatever the text and the start, and however often its
repetitions run parsers that match without reading. -/
theorem parse_ends_of_acyclic (env : Env V C) (henv : HookedEnv Script.Modest env)
    (hfinite : {cell | ∃ g, env cell = .bound g}.Finite)
    (hacyclic : ∀ cell, ¬Relation.TransGen (CallsLeft env) cell cell) (g : Grammar V C)
    (hg : g.HookedBy Script.Modest) (r : Run V C)
    (hc : r.session.cursor ≤ r.session.source.size) :
    ∃ r' fuel, ∀ fuel' ≥ fuel, g.parse env fuel' r = some r' := by
  have hhalts := Grammar.halts_of_acyclic env r.session.source henv hfinite hacyclic
    r.session.cursor hc g hg
  obtain ⟨fuel, hfuel⟩ := hhalts.exists
  obtain ⟨r', hrun⟩ := hfuel r ⟨rfl, rfl⟩
  exact ⟨r', fuel, fun fuel' hle => Grammar.parse_mono env hle g r r' hrun⟩

section Groups

/-- Any number of groups, each of them perhaps missing. -/
def groups : Grammar Unit Unit := .many0 (.optional (.reference 1 true) .done) .done

/-- Two repetitions inside of each other that match nothing at the end of the text, then groups
in brackets. -/
def group : Grammar Unit Unit :=
  .all [.many0 (.many0 (.primitive .textEnd .done) .done) .done,
    .primitive (.literal ⟨"<", by decide⟩) .done, .reference 0 false,
    .primitive (.literal ⟨">", by decide⟩) (.act (.note .info 0 "closed" none) .done)] .done

def groupsEnv : Env Unit Unit
  | 0 => .bound groups
  | 1 => .bound group
  | _ => .unbound

theorem groupsEnv_bound {cell : Nat} {g : Grammar Unit Unit} (h : groupsEnv cell = .bound g) :
    (cell = 0 ∧ g = groups) ∨ (cell = 1 ∧ g = group) := by
  match cell, h with
  | 0, h => exact Or.inl ⟨rfl, (Target.bound.inj h).symm⟩
  | 1, h => exact Or.inr ⟨rfl, (Target.bound.inj h).symm⟩

/-- Groups call a group on the left, and a group calls nothing before its bracket. -/
theorem groupsEnv_callsLeft {cell called : Nat} (h : CallsLeft groupsEnv cell called) :
    cell < called := by
  obtain ⟨g, hbound, hcalled⟩ := h
  rcases groupsEnv_bound hbound with ⟨rfl, rfl⟩ | ⟨rfl, rfl⟩
  · obtain rfl : called = 1 := by
      simpa [groups, Grammar.many0, Grammar.leftCalls] using hcalled
    exact Nat.one_pos
  · simp [group, Grammar.many0, Grammar.leftCalls, Grammar.leftCallsOfRow, Grammar.mayBeEmpty,
      Primitive.mayBeEmpty] at hcalled

theorem groups_hookedBy : groups.HookedBy Script.Modest :=
  .repeated _ _ _ _ (.optional _ _ (.reference _ _) trivial) trivial

theorem group_hookedBy : group.HookedBy Script.Modest := by
  refine .all _ _ (fun g hg => ?_) trivial
  simp only [List.mem_cons, List.not_mem_nil, or_false] at hg
  obtain rfl | rfl | rfl | rfl := hg
  · exact .repeated _ _ _ _ (.repeated _ _ _ _ (.primitive _ _ trivial) trivial) trivial
  · exact .primitive _ _ trivial
  · exact .reference _ _
  · exact .primitive _ _ ⟨trivial, trivial⟩

def beforeGroups : Run Unit Unit := ⟨{ source := ⟨"groups", "<<>><>"⟩ }, (), #[]⟩

theorem parse_ends_of_acyclic_groups :
    ∃ r' fuel, (∀ fuel' ≥ fuel, groups.parse groupsEnv fuel' beforeGroups = some r') ∧
      r'.session.result.text = "<<>><>" := by
  obtain ⟨r', fuel, hfuel⟩ := parse_ends_of_acyclic groupsEnv
    (fun cell g h => by
      rcases groupsEnv_bound h with ⟨-, rfl⟩ | ⟨-, rfl⟩
      · exact groups_hookedBy
      · exact group_hookedBy)
    (Set.Finite.subset (Set.finite_le_nat 1) fun cell ⟨g, h⟩ => by
      rcases groupsEnv_bound h with ⟨rfl, -⟩ | ⟨rfl, -⟩ <;> simp)
    (fun cell h => by
      have hlt : ∀ called, Relation.TransGen (CallsLeft groupsEnv) cell called → cell < called := by
        intro called h
        induction h with
        | single h => exact groupsEnv_callsLeft h
        | tail _ h ih => exact ih.trans (groupsEnv_callsLeft h)
      exact Nat.lt_irrefl cell (hlt cell h))
    groups groups_hookedBy beforeGroups (by decide)
  refine ⟨r', fuel, hfuel, ?_⟩
  have htext : (groups.parse groupsEnv 20 beforeGroups).map (·.session.result.text) =
      some "<<>><>" := by decide +kernel
  obtain ⟨s, hs, hstext⟩ := Option.map_eq_some_iff.1 htext
  have hmore := Grammar.parse_mono groupsEnv (Nat.le_max_right fuel 20) groups beforeGroups s hs
  rw [hfuel _ (Nat.le_max_left fuel 20)] at hmore
  rwa [Option.some.inj hmore]

end Groups

end Descent

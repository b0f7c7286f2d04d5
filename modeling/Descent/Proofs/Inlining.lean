import Descent.Proofs.LeftRecursion
import Descent.Proofs.Simulation

/-!
# References are transparent

A reference to a bound cell may be replaced by the parser that the cell is
bound to, wherever it stands, and in the rules as well: parses end or do not
end as before, and come to the same state of the session, the context and the
trace. If the rules are acyclic, no reference to a rule need be left.
-/
namespace Descent

variable {V C : Type}

namespace Grammar

mutual

/-- The cells that a grammar refers to. -/
def references : Grammar V C → List Nat
  | primitive .. | script _ => []
  | all subs _ | any subs _ | best subs _ => referencesOfEach subs
  | optional sub _ | repeated sub _ _ _ => sub.references
  | reference cell _ => [cell]

def referencesOfEach : List (Grammar V C) → List Nat
  | [] => []
  | g :: gs => g.references ++ referencesOfEach gs

end

/-- Some references to bound cells are replaced by what these are bound to, at any depth of the
grammar and, again, of what has been put in. -/
inductive Inlines (env : Env V C) : Grammar V C → Grammar V C → Prop
  | alike {g g' : Grammar V C} (h : Alike (Inlines env) g g') : Inlines env g g'
  | keep (cell : Nat) (owning : Bool) :
      Inlines env (.reference cell owning) (.reference cell owning)
  | inline {cell : Nat} (owning : Bool) {target g' : Grammar V C} (h : env cell = .bound target)
      (hs : Inlines env target g') : Inlines env (.reference cell owning) g'

variable {env env' : Env V C}

theorem Inlines.refl (g : Grammar V C) : g.Inlines env g := by
  induction g using Grammar.induction with
  | primitive p hook => exact .alike (.primitive p hook)
  | all subs hook ih => exact .alike (.all (List.forall₂_same.2 ih) hook)
  | any subs hook ih => exact .alike (.any (List.forall₂_same.2 ih) hook)
  | best subs hook ih => exact .alike (.best (List.forall₂_same.2 ih) hook)
  | optional sub hook ih => exact .alike (.optional ih hook)
  | repeated sub min max hook ih => exact .alike (.repeated ih min max hook)
  | reference cell owning => exact .keep cell owning
  | script body => exact .alike (.script body)

/-- Along the rules that are put in place of one reference. -/
@[elab_as_elim]
theorem Inlines.chain {P : ∀ g g' : Grammar V C, g.Inlines env g' → Prop}
    (alike : ∀ {g g'} (h : Alike (Inlines env) g g'), P g g' (.alike h))
    (keep : ∀ cell owning, P _ _ (.keep cell owning))
    (inline : ∀ {cell} owning {target g'} (h : env cell = .bound target)
      (hs : target.Inlines env g'), P target g' hs →
        P (.reference cell owning) g' (.inline owning h hs))
    {g g' : Grammar V C} (h : g.Inlines env g') : P g g' h := by
  -- nothing is asked of the children, behind the two nested relations
  refine @Inlines.rec V C env P (fun _ _ _ => True) (fun _ _ _ => True)
    (fun h _ => alike h) keep (fun owning _ _ h hs ih => inline owning h hs ih)
    ?_ ?_ ?_ ?_ ?_ ?_ ?_ ?_ ?_ g g' h
  all_goals
    intros
    trivial

section Transparency

variable {env env' : Env V C} (henv : ∀ cell, (env cell).Alike (Inlines env) (env' cell))

include henv

/-- What is done before references are replaced can be done afterwards. -/
theorem Inlines.follows {g g' : Grammar V C} (h : g.Inlines env g') :
    Follows (Inlines env) env env' g g' := by
  cases h with
  | alike h => exact .alike h
  | keep cell owning => exact .reference owning owning (henv cell)
  | inline owning h hs => exact .enter owning h hs

/-- What is done after references have been replaced could be done before: along the rules that
were put in place of one reference. -/
theorem Inlines.followed {g g' : Grammar V C} (h : g.Inlines env g') :
    Follows (flip (Inlines env)) env' env g' g := by
  induction h using Inlines.chain with
  | alike h => exact .alike h.swap
  | keep cell owning => exact .reference owning owning (henv cell).swap
  | inline owning h _ ih => exact .leave owning h ih

theorem parse_inlines {g g' : Grammar V C} (h : g.Inlines env g') (r r' : Run V C) :
    (∃ fuel, g.parse env fuel r = some r') ↔ ∃ fuel, g'.parse env' fuel r = some r' := by
  constructor
  · rintro ⟨fuel, hrun⟩
    exact (parse_simulates (fun _ _ h => Inlines.follows henv h) fuel g g' h r r' hrun).exists
  · rintro ⟨fuel, hrun⟩
    exact (parse_simulates (fun _ _ h => Inlines.followed henv h) fuel g' g h r r' hrun).exists

end Transparency

end Grammar

/-- The rule of one cell refers to another one. -/
def Refers (env : Env V C) (cell cell' : Nat) : Prop :=
  ∃ g, env cell = .bound g ∧ cell' ∈ g.references

namespace Grammar

/-- The cells that a parse may come to. -/
def Reaches (env : Env V C) (g : Grammar V C) (cell : Nat) : Prop :=
  ∃ first ∈ g.references, Relation.ReflTransGen (Refers env) first cell

variable {env env' : Env V C}

theorem mem_referencesOfEach {gs : List (Grammar V C)} {cell : Nat} :
    cell ∈ referencesOfEach gs ↔ ∃ g ∈ gs, cell ∈ g.references := by
  induction gs with
  | nil => simp [referencesOfEach]
  | cons g gs ih => simp [referencesOfEach, ih]

/-- A parse depends on no rules but those that it can come to. -/
theorem parse_agrees {P : Nat → Prop}
    (hclosed : ∀ cell, P cell → ∀ cell', Refers env cell cell' → P cell')
    (hagree : ∀ cell, P cell → env' cell = env cell) {g : Grammar V C}
    (hg : ∀ cell ∈ g.references, P cell) {r r' : Run V C}
    (hrun : ∃ fuel, g.parse env fuel r = some r') : ∃ fuel, g.parse env' fuel r = some r' := by
  obtain ⟨fuel, hrun⟩ := hrun
  refine (parse_simulates (R := fun g g' => g = g' ∧ ∀ cell ∈ g.references, P cell) ?_
    fuel g g ⟨rfl, hg⟩ r r' hrun).exists
  rintro g _ ⟨rfl, hg⟩
  have heach : ∀ gs : List (Grammar V C), (∀ cell ∈ referencesOfEach gs, P cell) →
      List.Forall₂ (fun g g' => g = g' ∧ ∀ cell ∈ g.references, P cell) gs gs :=
    fun gs hgs => List.forall₂_same.2 fun g hmem =>
      ⟨rfl, fun cell hcell => hgs cell (mem_referencesOfEach.2 ⟨g, hmem, hcell⟩)⟩
  cases g with
  | primitive p hook => exact .alike (.primitive p hook)
  | all subs hook => exact .alike (.all (heach subs hg) hook)
  | any subs hook => exact .alike (.any (heach subs hg) hook)
  | best subs hook => exact .alike (.best (heach subs hg) hook)
  | optional sub hook => exact .alike (.optional ⟨rfl, hg⟩ hook)
  | repeated sub min max hook => exact .alike (.repeated ⟨rfl, hg⟩ min max hook)
  | reference cell owning =>
    have hcell : P cell := hg cell (List.mem_singleton_self cell)
    refine .reference owning owning ?_
    rw [hagree cell hcell]
    exact .of_rule fun target henv =>
      ⟨rfl, fun cell' hcell' => hclosed cell hcell cell' ⟨target, henv, hcell'⟩⟩
  | script body => exact .alike (.script body)

section Acyclic

/-- What is left of some references: cells that these lead to, and that are not bound. -/
def Remain (env : Env V C) (cells cells' : List Nat) : Prop :=
  ∀ cell' ∈ cells', (∃ cell ∈ cells, Relation.ReflTransGen (Refers env) cell cell') ∧
    ∀ target, env cell' ≠ .bound target

/-- All references to rules in the grammar can be replaced for good. -/
def Inlinable (env : Env V C) (g : Grammar V C) : Prop :=
  ∃ g', g.Inlines env g' ∧ Remain env g.references g'.references

theorem Remain.append {cells₁ cells₁' cells₂ cells₂' : List Nat}
    (h₁ : Remain env cells₁ cells₁') (h₂ : Remain env cells₂ cells₂') :
    Remain env (cells₁ ++ cells₂) (cells₁' ++ cells₂') := by
  intro cell' hcell'
  rcases List.mem_append.1 hcell' with hcell' | hcell'
  · obtain ⟨⟨cell, hcell, hreach⟩, hfree⟩ := h₁ cell' hcell'
    exact ⟨⟨cell, List.mem_append_left _ hcell, hreach⟩, hfree⟩
  · obtain ⟨⟨cell, hcell, hreach⟩, hfree⟩ := h₂ cell' hcell'
    exact ⟨⟨cell, List.mem_append_right _ hcell, hreach⟩, hfree⟩

theorem Remain.of_rule {cell : Nat} {target : Grammar V C} (h : env cell = .bound target)
    {cells' : List Nat} (hremain : Remain env target.references cells') :
    Remain env [cell] cells' := by
  intro cell' hcell'
  obtain ⟨⟨first, hfirst, hreach⟩, hfree⟩ := hremain cell' hcell'
  exact ⟨⟨cell, List.mem_singleton_self cell, hreach.head ⟨target, h, hfirst⟩⟩, hfree⟩

theorem exists_inlinesEach {P : Nat → Prop} {gs : List (Grammar V C)}
    (h : ∀ g ∈ gs, (∀ cell ∈ g.references, P cell) → g.Inlinable env)
    (hcells : ∀ cell ∈ referencesOfEach gs, P cell) :
    ∃ gs', List.Forall₂ (Inlines env) gs gs' ∧
      Remain env (referencesOfEach gs) (referencesOfEach gs') := by
  induction gs with
  | nil => exact ⟨[], .nil, nofun⟩
  | cons g gs ih =>
    obtain ⟨hg, hgs⟩ := List.forall_mem_append.1 hcells
    obtain ⟨g', hg', hremain⟩ := h g List.mem_cons_self hg
    obtain ⟨gs', hgs', hremains⟩ := ih (fun g' hmem => h g' (List.mem_cons_of_mem g hmem)) hgs
    exact ⟨g' :: gs', .cons hg' hgs', hremain.append hremains⟩

/-- If the rules that it refers to are inlinable, so is the grammar. -/
theorem inlinable_of_rules {g : Grammar V C}
    (hrules : ∀ cell ∈ g.references, ∀ target, env cell = .bound target → target.Inlinable env) :
    g.Inlinable env := by
  induction g using Grammar.induction with
  | primitive p hook => exact ⟨_, .refl _, nofun⟩
  | all subs hook ih =>
    obtain ⟨subs', hsubs, hremain⟩ := exists_inlinesEach ih hrules
    exact ⟨.all subs' hook, .alike (.all hsubs hook), hremain⟩
  | any subs hook ih =>
    obtain ⟨subs', hsubs, hremain⟩ := exists_inlinesEach ih hrules
    exact ⟨.any subs' hook, .alike (.any hsubs hook), hremain⟩
  | best subs hook ih =>
    obtain ⟨subs', hsubs, hremain⟩ := exists_inlinesEach ih hrules
    exact ⟨.best subs' hook, .alike (.best hsubs hook), hremain⟩
  | optional sub hook ih =>
    obtain ⟨sub', hsub, hremain⟩ := ih hrules
    exact ⟨.optional sub' hook, .alike (.optional hsub hook), hremain⟩
  | repeated sub min max hook ih =>
    obtain ⟨sub', hsub, hremain⟩ := ih hrules
    exact ⟨.repeated sub' min max hook, .alike (.repeated hsub min max hook), hremain⟩
  | reference cell owning =>
    by_cases hbound : ∃ target, env cell = .bound target
    · obtain ⟨target, hbound⟩ := hbound
      obtain ⟨g', hg', hremain⟩ := hrules cell (List.mem_singleton_self cell) target hbound
      exact ⟨g', .inline owning hbound hg', hremain.of_rule hbound⟩
    · refine ⟨_, .keep cell owning, fun cell' hcell' => ?_⟩
      exact ⟨⟨cell', hcell', .refl⟩, fun target h =>
        hbound ⟨target, List.mem_singleton.1 hcell' ▸ h⟩⟩
  | script body => exact ⟨_, .refl _, nofun⟩

/-- Along acyclic rules, everything is inlinable. -/
theorem inlinable_of_acyclic (hfinite : {cell | ∃ target, env cell = .bound target}.Finite)
    (hacyclic : ∀ cell, ¬Relation.TransGen (Refers env) cell cell) (g : Grammar V C) :
    g.Inlinable env := by
  have hrule : ∀ rule : {cell // ∃ target, env cell = .bound target},
      ∀ target, env rule = .bound target → target.Inlinable env := by
    intro rule
    induction rule using (wellFounded_of_acyclic hfinite hacyclic).induction with
    | h rule ih =>
      intro target hrule
      refine inlinable_of_rules fun called hcalled target' hbound => ?_
      exact ih ⟨called, target', hbound⟩ ⟨target, hrule, hcalled⟩ target' hbound
  exact inlinable_of_rules fun cell _ target hbound => hrule ⟨cell, target, hbound⟩ target hbound

end Acyclic

end Grammar

/-- References are transparent: with some of them replaced by what they are bound to, in the grammar
and in the rules, parses come to the same. If the rules are acyclic, all references to rules can be
replaced, and then no rule is needed any more. -/
theorem parse_transparent (env : Env V C) (g : Grammar V C) :
    (∀ g' env', g.Inlines env g' → (∀ cell, (env cell).Alike (Grammar.Inlines env) (env' cell)) →
      ∀ r r', (∃ fuel, g.parse env fuel r = some r') ↔ ∃ fuel, g'.parse env' fuel r = some r') ∧
    ({cell | ∃ target, env cell = .bound target}.Finite →
      (∀ cell, ¬Relation.TransGen (Refers env) cell cell) →
      ∃ g', g.Inlines env g' ∧
        (∀ cell ∈ g'.references, g.Reaches env cell ∧ ∀ target, env cell ≠ .bound target) ∧
        ((∀ cell, g.Reaches env cell → ∃ target, env cell = .bound target) → g'.references = []) ∧
        ∀ env', (∀ cell ∈ g'.references, env' cell = env cell) →
          ∀ r r', (∃ fuel, g.parse env fuel r = some r') ↔
            ∃ fuel, g'.parse env' fuel r = some r') := by
  constructor
  · intro g' env' hg henv r r'
    exact Grammar.parse_inlines henv hg r r'
  · intro hfinite hacyclic
    obtain ⟨g', hg, hremain⟩ := Grammar.inlinable_of_acyclic hfinite hacyclic g
    refine ⟨g', hg, hremain, fun hbound => ?_, fun env' hagree r r' => ?_⟩
    · refine List.eq_nil_iff_forall_not_mem.2 fun cell hcell => ?_
      obtain ⟨hreach, hfree⟩ := hremain cell hcell
      obtain ⟨target, h⟩ := hbound cell hreach
      exact hfree target h
    · -- nothing that is left is bound, so the cells that are left refer to nothing
      have hclosed : ∀ cell ∈ g'.references, ∀ cell', Refers env cell cell' →
          cell' ∈ g'.references :=
        fun cell hcell cell' ⟨target, h, _⟩ => absurd h ((hremain cell hcell).2 target)
      have hclosed' : ∀ cell ∈ g'.references, ∀ cell', Refers env' cell cell' →
          cell' ∈ g'.references :=
        fun cell hcell cell' ⟨target, h, _⟩ =>
          absurd (hagree cell hcell ▸ h) ((hremain cell hcell).2 target)
      have henv : ∀ cell, (env cell).Alike (Grammar.Inlines env) (env cell) :=
        fun cell => .of_rule fun target _ => .refl target
      rw [Grammar.parse_inlines henv hg r r']
      constructor
      · exact Grammar.parse_agrees hclosed hagree fun _ h => h
      · exact Grammar.parse_agrees hclosed' (fun cell hcell => (hagree cell hcell).symm)
          fun _ h => h

section Nests

def sign (mark : Mark) : Grammar Unit (List Nat) := .primitive (.literal mark) .done

/-- A block around a nest or around nothing; the hook logs how deep the nest is. -/
def nest (inner : Grammar Unit (List Nat)) : Grammar Unit (List Nat) :=
  .all [sign ⟨"do", by decide⟩, .optional inner .done, sign ⟨"od", by decide⟩]
    (.update fun v c => c ++ [v.depth])

def nestEnv : Env Unit (List Nat)
  | 0 => .bound (nest (.reference 0 false))
  | _ => .unbound

/-- The rule of nests with itself put in once. -/
def unrolledEnv : Env Unit (List Nat)
  | 0 => .bound (nest (nest (.reference 0 false)))
  | _ => .unbound

def nests : Grammar Unit (List Nat) := .many1 (.reference 0 true) .done

def unrolledNests : Grammar Unit (List Nat) := .many1 (nest (.reference 0 false)) .done

theorem nest_inlines {env : Env Unit (List Nat)} {inner inner' : Grammar Unit (List Nat)}
    (h : inner.Inlines env inner') : (nest inner).Inlines env (nest inner') :=
  .alike (.all (.cons (.refl _) (.cons (.alike (.optional h _)) (.cons (.refl _) .nil))) _)

/-- A range from one mark to another or to itself, in rules that are not recursive. -/
def rangeEnv : Env Unit (List Nat)
  | 0 => .bound (.any [sign ⟨"1", by decide⟩, sign ⟨"2", by decide⟩] .done)
  | 1 => .bound (.all [.reference 0 true,
      .optional (.all [sign ⟨"..", by decide⟩, .reference 0 false] .done) .done] .done)
  | _ => .unbound

def rangeList : Grammar Unit (List Nat) := .many0 (.reference 1 true) .done

theorem rangeEnv_refers {cell cell' : Nat} (h : Refers rangeEnv cell cell') :
    cell = 1 ∧ cell' = 0 := by
  obtain ⟨g, hbound, hrefers⟩ := h
  match cell, hbound with
  | 0, hbound =>
    obtain rfl := Target.bound.inj hbound
    simp [sign, Grammar.references, Grammar.referencesOfEach] at hrefers
  | 1, hbound =>
    obtain rfl := Target.bound.inj hbound
    simpa [sign, Grammar.references, Grammar.referencesOfEach] using hrefers

theorem rangeEnv_acyclic (cell : Nat) : ¬Relation.TransGen (Refers rangeEnv) cell cell := by
  have hlt : ∀ cell', Relation.TransGen (Refers rangeEnv) cell cell' → cell' < cell := by
    intro cell' h
    induction h with
    | single h =>
      have := rangeEnv_refers h
      omega
    | tail _ h ih =>
      have := rangeEnv_refers h
      omega
  exact fun h => Nat.lt_irrefl cell (hlt cell h)

theorem rangeEnv_finite : {cell | ∃ target, rangeEnv cell = .bound target}.Finite := by
  refine (Set.finite_le_nat 1).subset ?_
  rintro cell ⟨target, h⟩
  match cell, h with
  | 0, _ => exact Nat.zero_le 1
  | 1, _ => exact Nat.le_refl 1

theorem rangeList_reaches {cell : Nat} (h : rangeList.Reaches rangeEnv cell) :
    ∃ target, rangeEnv cell = .bound target := by
  obtain ⟨first, hfirst, hreach⟩ := h
  obtain rfl : first = 1 := by simpa [rangeList, Grammar.many0, Grammar.references] using hfirst
  induction hreach with
  | refl => exact ⟨_, rfl⟩
  | tail _ h _ =>
    obtain ⟨-, rfl⟩ := rangeEnv_refers h
    exact ⟨_, rfl⟩

def beforeNests : Run Unit (List Nat) := ⟨{ source := ⟨"nests", "dodoododdood"⟩ }, [], #[]⟩

def beforeRanges : Run Unit (List Nat) := ⟨{ source := ⟨"ranges", "1..22"⟩ }, [], #[]⟩

theorem parse_transparent_nests :
    (∃ fuel r', unrolledNests.parse unrolledEnv fuel beforeNests = some r' ∧
      r'.context = [3, 1, 1]) ∧
    ∃ g', rangeList.Inlines rangeEnv g' ∧ g'.references = [] ∧
      ∃ fuel r', g'.parse (fun _ => .unbound) fuel beforeRanges = some r' ∧
        r'.session.result.text = "1..22" := by
  constructor
  · have hcontext : (nests.parse nestEnv 20 beforeNests).map (·.context) = some [3, 1, 1] := by
      decide +kernel
    obtain ⟨r', hrun, hcontext⟩ := Option.map_eq_some_iff.1 hcontext
    have henv : ∀ cell, (nestEnv cell).Alike (Grammar.Inlines nestEnv) (unrolledEnv cell)
      | 0 => .bound (nest_inlines (.inline false rfl (.refl _)))
      | _ + 1 => .unbound
    have hnests : nests.Inlines nestEnv unrolledNests :=
      .alike (.repeated (.inline true rfl (.refl _)) _ _ _)
    have hsame := (parse_transparent nestEnv nests).1 unrolledNests unrolledEnv hnests henv
    obtain ⟨fuel, hrun⟩ := (hsame beforeNests r').1 ⟨20, hrun⟩
    exact ⟨fuel, r', hrun, hcontext⟩
  · obtain ⟨g', hg, -, hfree, hparse⟩ :=
      (parse_transparent rangeEnv rangeList).2 rangeEnv_finite rangeEnv_acyclic
    have hnone := hfree fun cell => rangeList_reaches
    have htext : (rangeList.parse rangeEnv 20 beforeRanges).map (·.session.result.text) =
        some "1..22" := by decide +kernel
    obtain ⟨r', hrun, htext⟩ := Option.map_eq_some_iff.1 htext
    obtain ⟨fuel, hrun⟩ := (hparse (fun _ => .unbound) (by simp [hnone]) beforeRanges r').1
      ⟨20, hrun⟩
    exact ⟨g', hg, hnone, fuel, r', hrun, htext⟩

end Nests

end Descent

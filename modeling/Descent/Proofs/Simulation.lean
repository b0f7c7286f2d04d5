import Descent.Proofs.Fuel
import Mathlib.Data.List.Forall2
import Mathlib.Order.Filter.AtTopBot.Basic

/-!
# Simulations

Grammars of the same make, whose children are related one by one, run alike as
soon as related children do. The two may need different fuel, so what one of
them comes to is what the other comes to with any fuel that is large enough.
-/
namespace Descent

variable {V C : Type}

open Filter

namespace Grammar

/-- A property of all grammars, from the children to the whole. -/
@[elab_as_elim]
theorem induction {P : Grammar V C → Prop}
    (primitive : ∀ p hook, P (.primitive p hook))
    (all : ∀ subs hook, (∀ g ∈ subs, P g) → P (.all subs hook))
    (any : ∀ subs hook, (∀ g ∈ subs, P g) → P (.any subs hook))
    (best : ∀ subs hook, (∀ g ∈ subs, P g) → P (.best subs hook))
    (optional : ∀ sub hook, P sub → P (.optional sub hook))
    (repeated : ∀ sub min max hook, P sub → P (.repeated sub min max hook))
    (reference : ∀ cell owning, P (.reference cell owning))
    (script : ∀ body, P (.script body)) : ∀ g, P g
  | .primitive p hook => primitive p hook
  | .all subs hook => all subs hook fun g _ =>
      induction primitive all any best optional repeated reference script g
  | .any subs hook => any subs hook fun g _ =>
      induction primitive all any best optional repeated reference script g
  | .best subs hook => best subs hook fun g _ =>
      induction primitive all any best optional repeated reference script g
  | .optional sub hook => optional sub hook
      (induction primitive all any best optional repeated reference script sub)
  | .repeated sub min max hook => repeated sub min max hook
      (induction primitive all any best optional repeated reference script sub)
  | .reference cell owning => reference cell owning
  | .script body => script body
termination_by g => sizeOf g

/-- Grammars of the same make and with the same hook, whose children are related one by one. -/
inductive Alike (R : Grammar V C → Grammar V C → Prop) : Grammar V C → Grammar V C → Prop
  | primitive (p : Primitive) (hook : Script V C) : Alike R (.primitive p hook) (.primitive p hook)
  | all {subs subs' : List (Grammar V C)} (h : List.Forall₂ R subs subs') (hook : Script V C) :
      Alike R (.all subs hook) (.all subs' hook)
  | any {subs subs' : List (Grammar V C)} (h : List.Forall₂ R subs subs') (hook : Script V C) :
      Alike R (.any subs hook) (.any subs' hook)
  | best {subs subs' : List (Grammar V C)} (h : List.Forall₂ R subs subs') (hook : Script V C) :
      Alike R (.best subs hook) (.best subs' hook)
  | optional {sub sub' : Grammar V C} (h : R sub sub') (hook : Script V C) :
      Alike R (.optional sub hook) (.optional sub' hook)
  | repeated {sub sub' : Grammar V C} (h : R sub sub') (min : Nat) (max : Option Nat)
      (hook : Script V C) : Alike R (.repeated sub min max hook) (.repeated sub' min max hook)
  | script (body : Script V C) : Alike R (.script body) (.script body)

theorem Alike.swap {R : Grammar V C → Grammar V C → Prop} {g g' : Grammar V C}
    (h : Alike R g g') : Alike (flip R) g' g := by
  cases h with
  | primitive p hook => exact .primitive p hook
  | all h hook => exact .all h.flip hook
  | any h hook => exact .any h.flip hook
  | best h hook => exact .best h.flip hook
  | optional h hook => exact .optional (R := flip R) h hook
  | repeated h min max hook => exact .repeated (R := flip R) h min max hook
  | script body => exact .script body

end Grammar

/-- Two cells that hold related rules, or no rule for the same reason. -/
inductive Target.Alike (R : Grammar V C → Grammar V C → Prop) : Target V C → Target V C → Prop
  | unbound : Alike R .unbound .unbound
  | dropped : Alike R .dropped .dropped
  | bound {g g' : Grammar V C} (h : R g g') : Alike R (.bound g) (.bound g')

theorem Target.Alike.swap {R : Grammar V C → Grammar V C → Prop} {target target' : Target V C}
    (h : Alike R target target') : Alike (flip R) target' target := by
  cases h with
  | unbound => exact .unbound
  | dropped => exact .dropped
  | bound h => exact .bound h

theorem Target.Alike.of_rule {R : Grammar V C → Grammar V C → Prop} {target : Target V C}
    (h : ∀ g, target = .bound g → R g g) : Alike R target target := by
  cases target with
  | unbound => exact .unbound
  | dropped => exact .dropped
  | bound g => exact .bound (h g rfl)

namespace Run

/-- What the runner comes to with a grammar, the related grammar comes to with enough fuel. -/
def Simulates (R : Grammar V C → Grammar V C → Prop) (child : Runner V C) (env : Env V C) : Prop :=
  ∀ g g', R g g' → ∀ r r', child g r = some r' →
    ∀ᶠ fuel in atTop, Grammar.parse env fuel g' r = some r'

variable {R : Grammar V C → Grammar V C → Prop} {child : Runner V C} {env : Env V C}
  (hsim : Simulates R child env) (start n : Nat)

include hsim

theorem all_simulates {gs gs' : List (Grammar V C)} (h : List.Forall₂ R gs gs') (i : Nat)
    (r r' : Run V C) (hrun : Run.all child start i gs r = some r') :
    ∀ᶠ fuel in atTop, Run.all (Grammar.parse env fuel) start i gs' r = some r' := by
  induction h generalizing i r with
  | nil => exact Eventually.of_forall fun _ => hrun
  | cons hg _ ih =>
    obtain ⟨s, hs, hrun⟩ := Option.bind_eq_some_iff.1 hrun
    have hchild := hsim _ _ hg r s hs
    split at hrun
    · next hfailed =>
      filter_upwards [hchild] with fuel hfuel
      rwa [Run.all, hfuel, Option.bind_eq_bind, Option.bind_some, if_pos hfailed]
    · next hmatched =>
      filter_upwards [hchild, ih (i + 1) _ hrun] with fuel hfuel hrest
      rwa [Run.all, hfuel, Option.bind_eq_bind, Option.bind_some, if_neg hmatched]

theorem any_simulates {gs gs' : List (Grammar V C)} (h : List.Forall₂ R gs gs') (i : Nat)
    (r r' : Run V C) (hrun : Run.any child start n i gs r = some r') :
    ∀ᶠ fuel in atTop, Run.any (Grammar.parse env fuel) start n i gs' r = some r' := by
  induction h generalizing i r with
  | nil => exact Eventually.of_forall fun _ => hrun
  | cons hg _ ih =>
    obtain ⟨s, hs, hrun⟩ := Option.bind_eq_some_iff.1 hrun
    have hchild := hsim _ _ hg _ s hs
    split at hrun
    · next hfailed =>
      filter_upwards [hchild, ih (i + 1) _ hrun] with fuel hfuel hrest
      rwa [Run.any, hfuel, Option.bind_eq_bind, Option.bind_some, if_pos hfailed]
    · next hmatched =>
      filter_upwards [hchild] with fuel hfuel
      rwa [Run.any, hfuel, Option.bind_eq_bind, Option.bind_some, if_neg hmatched]

theorem best_simulates {gs gs' : List (Grammar V C)} (h : List.Forall₂ R gs gs')
    (found : Option (Nat × Result V)) (r r' : Run V C)
    (hrun : Run.best child start n found gs r = some r') :
    ∀ᶠ fuel in atTop, Run.best (Grammar.parse env fuel) start n found gs' r = some r' := by
  induction h generalizing found r with
  | nil => exact Eventually.of_forall fun _ => hrun
  | cons hg _ ih =>
    obtain ⟨s, hs, hrun⟩ := Option.bind_eq_some_iff.1 hrun
    have hchild := hsim _ _ hg _ s hs
    split at hrun
    · next hfailed =>
      filter_upwards [hchild, ih _ _ hrun] with fuel hfuel hrest
      rwa [Run.best, hfuel, Option.bind_eq_bind, Option.bind_some, if_pos hfailed]
    · next hmatched =>
      filter_upwards [hchild, ih _ _ hrun] with fuel hfuel hrest
      rwa [Run.best, hfuel, Option.bind_eq_bind, Option.bind_some, if_neg hmatched]

theorem optional_simulates {g g' : Grammar V C} (h : R g g') (r r' : Run V C)
    (hrun : Run.optional child start g r = some r') :
    ∀ᶠ fuel in atTop, Run.optional (Grammar.parse env fuel) start g' r = some r' := by
  obtain ⟨s, hs, hrun⟩ := Option.bind_eq_some_iff.1 hrun
  filter_upwards [hsim g g' h r s hs] with fuel hfuel
  rwa [Run.optional, hfuel]

theorem rounds_simulates {g g' : Grammar V C} (h : R g g') (min : Nat) (max : Option Nat)
    (bound count : Nat) (r : Run V C) (t : Run V C × Nat × Option (Result V))
    (hrun : rounds child g min max bound count r = some t) :
    ∀ᶠ fuel in atTop, rounds (Grammar.parse env fuel) g' min max bound count r = some t := by
  induction bound generalizing count r with
  | zero => cases hrun
  | succ bound ih =>
    unfold rounds at hrun
    split at hrun
    · next hgo =>
      obtain ⟨s, hs, hrun⟩ := Option.bind_eq_some_iff.1 hrun
      have hchild := hsim g g' h r s hs
      split at hrun
      · next hfailed =>
        filter_upwards [hchild] with fuel hfuel
        rwa [rounds, if_pos hgo, hfuel, Option.bind_eq_bind, Option.bind_some, if_pos hfailed]
      · next hmatched =>
        dsimp only at hrun
        split at hrun
        · next hidle =>
          filter_upwards [hchild] with fuel hfuel
          rw [rounds, if_pos hgo, hfuel, Option.bind_eq_bind, Option.bind_some, if_neg hmatched]
          rwa [if_pos hidle]
        · next hidle =>
          filter_upwards [hchild, ih (count + 1) _ hrun] with fuel hfuel hrest
          rw [rounds, if_pos hgo, hfuel, Option.bind_eq_bind, Option.bind_some, if_neg hmatched]
          rwa [if_neg hidle]
    · next hstop =>
      refine Eventually.of_forall fun fuel => ?_
      rwa [rounds, if_neg hstop]

theorem repeated_simulates {g g' : Grammar V C} (h : R g g') (min : Nat) (max : Option Nat)
    (bound : Nat) (r r' : Run V C) (hrun : Run.repeated child start g min max bound r = some r') :
    ∀ᶠ fuel in atTop,
      Run.repeated (Grammar.parse env fuel) start g' min max fuel r = some r' := by
  obtain ⟨t, ht, hrun⟩ := Option.bind_eq_some_iff.1 hrun
  filter_upwards [rounds_simulates hsim h min max bound 0 r t ht, eventually_ge_atTop bound]
    with fuel hfuel hle
  rwa [Run.repeated, rounds_below steady_true (below_refl _) g' min max hle 0 r t trivial hfuel]

end Run

namespace Grammar

/-- Grammars of the same make come to the same if their children do. -/
theorem parse_alike {R : Grammar V C → Grammar V C → Prop} {env env' : Env V C} {fuel : Nat}
    (hsim : Run.Simulates R (parse env fuel) env') {g g' : Grammar V C} (h : Alike R g g')
    (r r' : Run V C) (hrun : g.parse env (fuel + 1) r = some r') :
    ∀ᶠ fuel in atTop, g'.parse env' fuel r = some r' := by
  refine eventually_of_succ ?_
  cases h with
  | primitive p hook => exact Eventually.of_forall fun _ => hrun
  | all h hook =>
    obtain ⟨s, hs, rfl⟩ := Option.map_eq_some_iff.1 hrun
    exact (Run.all_simulates hsim _ h _ _ _ hs).mono fun _ hs =>
      Option.map_eq_some_iff.2 ⟨s, hs, rfl⟩
  | any h hook =>
    obtain ⟨s, hs, rfl⟩ := Option.map_eq_some_iff.1 hrun
    rw [h.length_eq] at hs
    exact (Run.any_simulates hsim _ _ h _ _ _ hs).mono fun _ hs =>
      Option.map_eq_some_iff.2 ⟨s, hs, rfl⟩
  | best h hook =>
    obtain ⟨s, hs, rfl⟩ := Option.map_eq_some_iff.1 hrun
    rw [h.length_eq] at hs
    exact (Run.best_simulates hsim _ _ h _ _ _ hs).mono fun _ hs =>
      Option.map_eq_some_iff.2 ⟨s, hs, rfl⟩
  | optional h hook =>
    obtain ⟨s, hs, rfl⟩ := Option.map_eq_some_iff.1 hrun
    exact (Run.optional_simulates hsim _ h _ _ hs).mono fun _ hs =>
      Option.map_eq_some_iff.2 ⟨s, hs, rfl⟩
  | repeated h min max hook =>
    obtain ⟨s, hs, rfl⟩ := Option.map_eq_some_iff.1 hrun
    exact (Run.repeated_simulates hsim _ h min max _ _ _ hs).mono fun _ hs =>
      Option.map_eq_some_iff.2 ⟨s, hs, rfl⟩
  | script body => exact Eventually.of_forall fun _ => hrun

/-- The right grammar can do what the left one does: the two are of the same make, or references
that lead to no parser for the same reason, or one of them is a reference to a rule that goes on
like the other. Behind the left one stands `R` again, at the cost of fuel. -/
inductive Follows (R : Grammar V C → Grammar V C → Prop) (env env' : Env V C) :
    Grammar V C → Grammar V C → Prop
  | alike {g g' : Grammar V C} (h : Alike R g g') : Follows R env env' g g'
  | unbound {cell cell' : Nat} (owning owning' : Bool) (h : env cell = .unbound)
      (h' : env' cell' = .unbound) :
      Follows R env env' (.reference cell owning) (.reference cell' owning')
  | dropped {cell cell' : Nat} (owning owning' : Bool) (h : env cell = .dropped)
      (h' : env' cell' = .dropped) :
      Follows R env env' (.reference cell owning) (.reference cell' owning')
  | enter {cell : Nat} (owning : Bool) {target g' : Grammar V C} (h : env cell = .bound target)
      (hR : R target g') : Follows R env env' (.reference cell owning) g'
  | leave {cell' : Nat} (owning' : Bool) {g target' : Grammar V C}
      (h' : env' cell' = .bound target') (hg : Follows R env env' g target') :
      Follows R env env' g (.reference cell' owning')

variable {R : Grammar V C → Grammar V C → Prop} {env env' : Env V C}

/-- References to cells that are alike follow each other. -/
theorem Follows.reference {cell cell' : Nat} (owning owning' : Bool)
    (h : (env cell).Alike R (env' cell')) :
    Follows R env env' (.reference cell owning) (.reference cell' owning') := by
  generalize hcell : env cell = target at h
  generalize hcell' : env' cell' = target' at h
  cases h with
  | unbound => exact .unbound owning owning' hcell hcell'
  | dropped => exact .dropped owning owning' hcell hcell'
  | bound hR => exact .leave owning' hcell' (.enter owning hcell hR)

/-- Related grammars come to the same if related grammars always follow each other: by induction
on the fuel of the left one. -/
theorem parse_simulates (hR : ∀ g g', R g g' → Follows R env env' g g') (fuel : Nat) :
    Run.Simulates R (parse env fuel) env' := by
  induction fuel with
  | zero =>
    intro g g' _ r r' hrun
    cases hrun
  | succ fuel ih =>
    intro g g' h r r' hrun
    have hfollows := hR g g' h
    clear h
    induction hfollows with
    | alike h => exact parse_alike ih h r r' hrun
    | unbound owning owning' h h' =>
      refine eventually_of_succ (Eventually.of_forall fun _ => ?_)
      rw [parse, h] at hrun
      rwa [parse, h']
    | dropped owning owning' h h' =>
      refine eventually_of_succ (Eventually.of_forall fun _ => ?_)
      rw [parse, h] at hrun
      rwa [parse, h']
    | enter owning h hR =>
      rw [parse, h] at hrun
      exact ih _ _ hR r r' hrun
    | leave owning' h' _ ih =>
      refine eventually_of_succ ((ih hrun).mono fun fuel hfuel => ?_)
      rwa [parse, h']

end Grammar

end Descent

import Descent.Grammar.Run
import Mathlib.Order.Filter.AtTopBot.Basic
import Mathlib.Tactic.Common

/-!
# Runners in each other's place

A combinator comes to the same with another runner of its children, as long as
that runner comes to the same from the runs that it is given. So more fuel
does not change what a parse comes to.
-/
namespace Descent

variable {V C : Type}

/-- Computations that go the same way, and then on in the same way. -/
theorem bind_rel {α β γ δ : Type} {R : α → β → Prop} {S : γ → δ → Prop} {o : Option α}
    {o' : Option β} {k : α → Option γ} {k' : β → Option δ} (h : Option.Rel R o o')
    (hk : ∀ x y, o = some x → o' = some y → R x y → Option.Rel S (k x) (k' y)) :
    Option.Rel S (o.bind k) (o'.bind k') := by
  cases h with
  | none => exact .none
  | some hxy => exact hk _ _ rfl rfl hxy

theorem rel_map_right {α β γ : Type} {S : α → γ → Prop} {f : β → γ} {o : Option α}
    {o' : Option β} (h : Option.Rel (fun x y => S x (f y)) o o') : Option.Rel S o (o'.map f) := by
  cases h with
  | none => exact .none
  | some hxy => exact .some hxy

namespace Run

section Rounds

/-! The ways in which a round of a repetition goes. -/

variable {child : Runner V C} {g : Grammar V C} {min : Nat} {max : Option Nat} {count : Nat}
  {r s : Run V C}

theorem rounds_over (hgo : ¬ mayGoOn max count = true) (fuel : Nat) :
    rounds child g min max (fuel + 1) count r = some (r, count, none) := by
  rw [rounds, if_neg hgo]

theorem rounds_failed (hgo : mayGoOn max count = true) (hrun : child g r = some s)
    (hfailed : s.failed = true) (fuel : Nat) :
    rounds child g min max (fuel + 1) count r =
      some (s.onSession fun s => { s with result := {} }, count, some s.session.result) := by
  rw [rounds, if_pos hgo, hrun, Option.bind_eq_bind, Option.bind_some, if_pos hfailed]
  rfl

theorem rounds_idle (hgo : mayGoOn max count = true) (hrun : child g r = some s)
    (hmatch : ¬ s.failed = true)
    (hidle : s.session.cursor = r.session.cursor ∧ min ≤ count + 1) (fuel : Nat) :
    rounds child g min max (fuel + 1) count r =
      some (s.onSession Session.collect, count + 1, none) := by
  rw [rounds, if_pos hgo, hrun, Option.bind_eq_bind, Option.bind_some, if_neg hmatch]
  exact if_pos hidle

theorem rounds_busy (hgo : mayGoOn max count = true) (hrun : child g r = some s)
    (hmatch : ¬ s.failed = true)
    (hbusy : ¬ (s.session.cursor = r.session.cursor ∧ min ≤ count + 1)) (fuel : Nat) :
    rounds child g min max (fuel + 1) count r =
      rounds child g min max fuel (count + 1) (s.onSession Session.collect) := by
  rw [rounds, if_pos hgo, hrun, Option.bind_eq_bind, Option.bind_some, if_neg hmatch]
  exact if_neg hbusy

end Rounds

/-- From runs of a kind, one runner comes to whatever the other comes to, and the runs stay of
that kind. -/
def Below (I : Run V C → Prop) (child child' : Runner V C) : Prop :=
  ∀ g r r', I r → child g r = some r' → child' g r = some r' ∧ I r'

/-- A kind of runs that is not left between two children of a combinator. -/
structure Steady (I : Run V C → Prop) : Prop where
  moveTo : ∀ r start, I r → I (r.onSession (Session.moveTo start))
  collect : ∀ r, I r → I (r.onSession Session.collect)
  clear : ∀ r, I r → I (r.onSession fun s => { s with result := {} })

theorem steady_true : Steady fun _ : Run V C => True :=
  ⟨fun _ _ _ => trivial, fun _ _ => trivial, fun _ _ => trivial⟩

theorem below_refl (child : Runner V C) : Below (fun _ => True) child child :=
  fun _ _ _ _ h => ⟨h, trivial⟩

variable {I : Run V C → Prop} {child child' : Runner V C} (hI : Steady I)
  (hbelow : Below I child child') (start n : Nat)

include hI hbelow

theorem all_below (i : Nat) (gs : List (Grammar V C)) (r r' : Run V C) (h : I r)
    (hrun : Run.all child start i gs r = some r') : Run.all child' start i gs r = some r' := by
  induction gs generalizing i r with
  | nil => exact hrun
  | cons g gs ih =>
    obtain ⟨s, hs, hrun⟩ := Option.bind_eq_some_iff.1 hrun
    obtain ⟨hs', hI'⟩ := hbelow g r s h hs
    rw [Run.all, hs', Option.bind_eq_bind, Option.bind_some]
    split
    · next hfailed => rwa [if_pos hfailed] at hrun
    · next hfailed =>
      rw [if_neg hfailed] at hrun
      exact ih (i + 1) _ (hI.collect s hI') hrun

theorem any_below (i : Nat) (gs : List (Grammar V C)) (r r' : Run V C) (h : I r)
    (hrun : Run.any child start n i gs r = some r') :
    Run.any child' start n i gs r = some r' := by
  induction gs generalizing i r with
  | nil => exact hrun
  | cons g gs ih =>
    obtain ⟨s, hs, hrun⟩ := Option.bind_eq_some_iff.1 hrun
    obtain ⟨hs', hI'⟩ := hbelow g _ s (hI.moveTo r start h) hs
    rw [Run.any, hs', Option.bind_eq_bind, Option.bind_some]
    split
    · next hfailed =>
      rw [if_pos hfailed] at hrun
      exact ih (i + 1) _ (hI.collect s hI') hrun
    · next hfailed => rwa [if_neg hfailed] at hrun

theorem best_below (found : Option (Nat × Result V)) (gs : List (Grammar V C)) (r r' : Run V C)
    (h : I r) (hrun : Run.best child start n found gs r = some r') :
    Run.best child' start n found gs r = some r' := by
  induction gs generalizing found r with
  | nil => exact hrun
  | cons g gs ih =>
    obtain ⟨s, hs, hrun⟩ := Option.bind_eq_some_iff.1 hrun
    obtain ⟨hs', hI'⟩ := hbelow g _ s (hI.moveTo r start h) hs
    rw [Run.best, hs', Option.bind_eq_bind, Option.bind_some]
    split
    · next hfailed =>
      rw [if_pos hfailed] at hrun
      exact ih found _ (hI.collect s hI') hrun
    · next hfailed =>
      rw [if_neg hfailed] at hrun
      exact ih _ _ (hI.clear s hI') hrun

omit hI in
theorem optional_below (g : Grammar V C) (r r' : Run V C) (h : I r)
    (hrun : Run.optional child start g r = some r') : Run.optional child' start g r = some r' := by
  obtain ⟨s, hs, hrun⟩ := Option.bind_eq_some_iff.1 hrun
  rw [Run.optional, (hbelow g r s h hs).1]
  exact hrun

theorem rounds_below (g : Grammar V C) (min : Nat) (max : Option Nat) {fuel fuel' : Nat}
    (hle : fuel ≤ fuel') (count : Nat) (r : Run V C) (t : Run V C × Nat × Option (Result V))
    (h : I r) (hrun : rounds child g min max fuel count r = some t) :
    rounds child' g min max fuel' count r = some t := by
  induction fuel generalizing fuel' count r with
  | zero => cases hrun
  | succ fuel ih =>
    obtain ⟨fuel', rfl⟩ : ∃ k, fuel' = k + 1 := ⟨fuel' - 1, by omega⟩
    unfold rounds at hrun ⊢
    split
    · next hgo =>
      rw [if_pos hgo] at hrun
      obtain ⟨s, hs, hrun⟩ := Option.bind_eq_some_iff.1 hrun
      obtain ⟨hs', hI'⟩ := hbelow g r s h hs
      rw [hs', Option.bind_eq_bind, Option.bind_some]
      split
      · next hfailed => rwa [if_pos hfailed] at hrun
      · next hfailed =>
        rw [if_neg hfailed] at hrun
        dsimp only at hrun ⊢
        split
        · next hidle => rwa [if_pos hidle] at hrun
        · next hidle =>
          rw [if_neg hidle] at hrun
          exact ih (by omega) (count + 1) _ (hI.collect s hI') hrun
    · next hgo => rwa [if_neg hgo] at hrun

theorem repeated_below (g : Grammar V C) (min : Nat) (max : Option Nat) {fuel fuel' : Nat}
    (hle : fuel ≤ fuel') (r r' : Run V C) (h : I r)
    (hrun : Run.repeated child start g min max fuel r = some r') :
    Run.repeated child' start g min max fuel' r = some r' := by
  obtain ⟨t, ht, hrun⟩ := Option.bind_eq_some_iff.1 hrun
  rw [Run.repeated, rounds_below hI hbelow g min max hle 0 r t h ht]
  exact hrun

end Run

namespace Grammar

theorem parse_succ (env : Env V C) (fuel : Nat) :
    Run.Below (fun _ => True) (parse env fuel) (parse env (fuel + 1)) := by
  have hI : Run.Steady fun _ : Run V C => True := Run.steady_true
  induction fuel with
  | zero =>
    intro g r r' _ h
    cases h
  | succ fuel ih =>
    intro g r r' _ h
    refine ⟨?_, trivial⟩
    cases g with
    | primitive p hook => exact h
    | all subs hook =>
      obtain ⟨s, hs, rfl⟩ := Option.map_eq_some_iff.1 h
      exact Option.map_eq_some_iff.2 ⟨s, Run.all_below hI ih _ _ _ _ _ trivial hs, rfl⟩
    | any subs hook =>
      obtain ⟨s, hs, rfl⟩ := Option.map_eq_some_iff.1 h
      exact Option.map_eq_some_iff.2 ⟨s, Run.any_below hI ih _ _ _ _ _ _ trivial hs, rfl⟩
    | best subs hook =>
      obtain ⟨s, hs, rfl⟩ := Option.map_eq_some_iff.1 h
      exact Option.map_eq_some_iff.2 ⟨s, Run.best_below hI ih _ _ _ _ _ _ trivial hs, rfl⟩
    | optional sub hook =>
      obtain ⟨s, hs, rfl⟩ := Option.map_eq_some_iff.1 h
      exact Option.map_eq_some_iff.2 ⟨s, Run.optional_below ih _ _ _ _ trivial hs, rfl⟩
    | repeated sub min max hook =>
      obtain ⟨s, hs, rfl⟩ := Option.map_eq_some_iff.1 h
      exact Option.map_eq_some_iff.2
        ⟨s, Run.repeated_below hI ih _ _ _ _ (Nat.le_succ fuel) _ _ trivial hs, rfl⟩
    | reference cell owning =>
      simp only [parse] at h ⊢
      cases hcell : env cell with
      | bound target =>
        rw [hcell] at h
        exact (ih target r r' trivial h).1
      | unbound =>
        rw [hcell] at h
        exact h
      | dropped =>
        rw [hcell] at h
        exact h
    | script body => exact h

/-- More fuel does not change what a parse comes to. -/
theorem parse_mono (env : Env V C) {fuel fuel' : Nat} (hle : fuel ≤ fuel') (g : Grammar V C)
    (r r' : Run V C) (h : g.parse env fuel r = some r') : g.parse env fuel' r = some r' := by
  induction hle with
  | refl => exact h
  | step _ ih => exact (parse_succ env _ g r r' trivial ih).1

open Filter

theorem eventually_of_succ {p : Nat → Prop} (h : ∀ᶠ fuel in atTop, p (fuel + 1)) :
    ∀ᶠ fuel in atTop, p fuel := by
  rw [← map_add_atTop_eq_nat 1]
  exact h

/-- With fuel enough, the parse ends in that state. -/
def EndsIn (env : Env V C) (g : Grammar V C) (r r' : Run V C) : Prop :=
  ∃ fuel, g.parse env fuel r = some r'

theorem EndsIn.eventually {env : Env V C} {g : Grammar V C} {r r' : Run V C}
    (h : EndsIn env g r r') : ∀ᶠ fuel in atTop, g.parse env fuel r = some r' := by
  obtain ⟨fuel, hrun⟩ := h
  exact eventually_atTop.2 ⟨fuel, fun fuel' hle => parse_mono env hle g r r' hrun⟩

theorem EndsIn.unique {env : Env V C} {g : Grammar V C} {r s t : Run V C}
    (hs : EndsIn env g r s) (ht : EndsIn env g r t) : s = t := by
  obtain ⟨fuel, hs, ht⟩ := (hs.eventually.and ht.eventually).exists
  exact Option.some.inj (hs.symm.trans ht)

end Grammar

end Descent

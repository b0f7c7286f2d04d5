import Descent.Proofs.Depth

/-!
# What grammars come to

With fuel enough a parse comes to the same however much fuel there is, and
from everywhere to the same as from a fresh session. This is the meaning of a
grammar at a place of a source. The meaning of a combinator is put together
from the meanings of its children, with no fuel in between.
-/
namespace Descent

open Filter

variable {V C : Type}

namespace Grammar

variable (env : Env V C) (source : Source)

/-- What a grammar comes to at a place with fuel enough, if there is such an amount. -/
noncomputable def meaning : Evaluator V C := fun g start context =>
  open Classical in
  if h : ∃ o fuel, yield env fuel source g start context = some o then some h.choose else none

theorem yield_mono {fuel fuel' : Nat} (hle : fuel ≤ fuel') :
    Evaluator.Below (yield env fuel source) (yield env fuel' source) := by
  intro g start context o h
  obtain ⟨r, hr, rfl⟩ := Option.map_eq_some_iff.1 h
  exact Option.map_eq_some_iff.2 ⟨r, parse_mono env hle g _ r hr, rfl⟩

variable {env source}

theorem eventually_yield {g : Grammar V C} {start : Nat} {context : C} {o : Outcome V C}
    {fuel : Nat} (h : yield env fuel source g start context = some o) :
    ∀ᶠ fuel in atTop, yield env fuel source g start context = some o :=
  eventually_atTop.2 ⟨fuel, fun _ hle => yield_mono env source hle g start context o h⟩

theorem meaning_eq_some_iff {g : Grammar V C} {start : Nat} {context : C} {o : Outcome V C} :
    meaning env source g start context = some o ↔
      ∀ᶠ fuel in atTop, yield env fuel source g start context = some o := by
  constructor
  · intro h
    unfold meaning at h
    split at h
    · next hex =>
      obtain rfl := Option.some.inj h
      obtain ⟨fuel, hfuel⟩ := hex.choose_spec
      exact eventually_yield hfuel
    · cases h
  · intro h
    obtain ⟨fuel, hfuel⟩ := h.exists
    have hex : ∃ o fuel, yield env fuel source g start context = some o := ⟨o, fuel, hfuel⟩
    obtain ⟨fuel', hfuel'⟩ := hex.choose_spec
    obtain ⟨n, hn, hn'⟩ := (h.and (eventually_yield hfuel')).exists
    unfold meaning
    rw [dif_pos hex]
    exact hn'.symm.trans hn

theorem yield_below (fuel : Nat) :
    Evaluator.Below (yield env fuel source) (meaning env source) :=
  fun _ _ _ _ h => meaning_eq_some_iff.2 (eventually_yield h)

variable (env source) in
/-- A computation that comes to the same with the meanings as with fuel enough, since it needs
finitely many of them only. -/
structure Attains {α : Type} (F : Evaluator V C → Option α) : Prop where
  below : ∀ fuel x, F (yield env fuel source) = some x → F (meaning env source) = some x
  eventually : ∀ x, F (meaning env source) = some x →
    ∀ᶠ fuel in atTop, F (yield env fuel source) = some x

theorem attains_row (gs : List (Grammar V C)) (start : Nat) (context : C) :
    Attains env source fun ev => ev.row gs start context := by
  refine ⟨fun fuel row h => Evaluator.row_mono (yield_below fuel) gs start context row h, ?_⟩
  intro row h
  induction gs generalizing start context row with
  | nil => exact .of_forall fun _ => h
  | cons g gs ih =>
    obtain ⟨o, ho, h⟩ := Option.bind_eq_some_iff.1 h
    split at h
    · next hfailed =>
      obtain rfl := Option.some.inj h
      filter_upwards [meaning_eq_some_iff.1 ho] with fuel hfuel
      exact Evaluator.row_failed hfuel hfailed
    · next hmatch =>
      obtain ⟨row, hrow, h⟩ := Option.bind_eq_some_iff.1 h
      obtain rfl := Option.some.inj h
      filter_upwards [meaning_eq_some_iff.1 ho, ih _ _ _ hrow] with fuel hfuel hrest
      exact Evaluator.row_matched hfuel hmatch row hrest

theorem attains_choice (start : Nat) (gs : List (Grammar V C)) (context : C) :
    Attains env source fun ev => ev.choice start gs context := by
  refine ⟨fun fuel choice h => Evaluator.choice_mono (yield_below fuel) start gs context choice h,
    ?_⟩
  intro choice h
  induction gs generalizing context choice with
  | nil => exact .of_forall fun _ => h
  | cons g gs ih =>
    obtain ⟨o, ho, h⟩ := Option.bind_eq_some_iff.1 h
    split at h
    · next hfailed =>
      obtain ⟨choice, hchoice, h⟩ := Option.bind_eq_some_iff.1 h
      obtain rfl := Option.some.inj h
      filter_upwards [meaning_eq_some_iff.1 ho, ih _ _ hchoice] with fuel hfuel hrest
      exact Evaluator.choice_failed hfuel hfailed choice hrest
    · next hmatch =>
      obtain rfl := Option.some.inj h
      filter_upwards [meaning_eq_some_iff.1 ho] with fuel hfuel
      exact Evaluator.choice_matched hfuel hmatch

theorem attains_each (start : Nat) (gs : List (Grammar V C)) (context : C) :
    Attains env source fun ev => ev.each start gs context := by
  refine ⟨fun fuel x h => Evaluator.each_mono (yield_below fuel) start gs context x h, ?_⟩
  intro x h
  induction gs generalizing context x with
  | nil => exact .of_forall fun _ => h
  | cons g gs ih =>
    obtain ⟨o, ho, h⟩ := Option.bind_eq_some_iff.1 h
    obtain ⟨⟨outcomes, context'⟩, hrest, h⟩ := Option.bind_eq_some_iff.1 h
    obtain rfl := Option.some.inj h
    filter_upwards [meaning_eq_some_iff.1 ho, ih _ _ hrest] with fuel hfuel hrest
    exact Evaluator.each_cons hfuel outcomes context' hrest

/-- What one more unit of fuel makes of the children is what the meaning makes of theirs. -/
theorem meaning_of_yield_succ {α : Type} {F : Evaluator V C → Option α}
    (hF : Attains env source F) {f : α → Outcome V C} {g : Grammar V C} {start : Nat} {context : C}
    (h : ∀ fuel, yield env (fuel + 1) source g start context =
      (F (yield env fuel source)).map f) :
    meaning env source g start context = (F (meaning env source)).map f := by
  refine Option.ext fun o => ?_
  rw [Option.map_eq_some_iff]
  constructor
  · intro ho
    obtain ⟨fuel, hfuel, hle⟩ := ((meaning_eq_some_iff.1 ho).and (eventually_ge_atTop 1)).exists
    obtain ⟨fuel, rfl⟩ : ∃ k, fuel = k + 1 := ⟨fuel - 1, by omega⟩
    rw [h] at hfuel
    obtain ⟨x, hx, rfl⟩ := Option.map_eq_some_iff.1 hfuel
    exact ⟨x, hF.below fuel x hx, rfl⟩
  · rintro ⟨x, hx, rfl⟩
    refine meaning_eq_some_iff.2 (eventually_of_succ ?_)
    filter_upwards [hF.eventually x hx] with fuel hfuel
    rw [h, hfuel]
    rfl

section Parts

variable (henv : HookedEnv Script.Depthless env) {subs : List (Grammar V C)}
  (hsubs : ∀ g ∈ subs, g.HookedBy Script.Depthless) {start : Nat}
  (hstart : IsBoundary start source.chars) (context : C)

include henv hsubs hstart

theorem meaning_all : meaning env source (.all subs .done) start context =
    ((meaning env source).row subs start context).map (Row.outcome source start) := by
  refine meaning_of_yield_succ (attains_row subs start context) fun fuel => ?_
  have hleaves := Run.all_leaves (parse_balanced env fuel) subs
    (fun g hg => parse_reproduces henv fuel g (hsubs g hg))
    (Run.begins_fresh source hstart context)
  exact (Option.map_map _ _ _).trans
    (map_eq_of_rel hleaves fun row s hs => hs.finish_done.symm).symm

theorem meaning_any : meaning env source (.any subs .done) start context =
    ((meaning env source).choice start subs context).map
      (Choice.outcome source start subs.length) := by
  refine meaning_of_yield_succ (attains_choice start subs context) fun fuel => ?_
  have hleaves := Run.any_leaves (parse_balanced env fuel) subs
    (fun g hg => parse_reproduces henv fuel g (hsubs g hg))
    (Run.begins_fresh source hstart context)
  exact (Option.map_map _ _ _).trans
    (map_eq_of_rel hleaves fun choice s hs => hs.finish_done.symm).symm

theorem meaning_best : meaning env source (.best subs .done) start context =
    ((meaning env source).each start subs context).map
      fun x => .pick source start subs.length x.1 x.2 := by
  refine meaning_of_yield_succ (attains_each start subs context) fun fuel => ?_
  have hleaves := Run.best_leaves (parse_balanced env fuel) subs
    (fun g hg => parse_reproduces henv fuel g (hsubs g hg))
    (Run.begins_fresh source hstart context)
  exact (Option.map_map _ _ _).trans
    (map_eq_of_rel hleaves fun x s hs => hs.finish_done.symm).symm

end Parts

/-- A parse that ends at a place comes to the meaning there, and it does end if there is one. -/
theorem meaning_eq_some_iff_endsIn (henv : HookedEnv Script.Depthless env) {g : Grammar V C}
    (hg : g.HookedBy Script.Depthless) {start : Nat} {context : C} {r : Run V C}
    (h : r.Begins source start context) {o : Outcome V C} :
    meaning env source g start context = some o ↔ ∃ s, EndsIn env g r s ∧ s.outcome = o := by
  have hyield : ∀ fuel, yield env fuel source g start context =
      (g.parse env fuel r).map Run.outcome := fun fuel =>
    (parse_reproduces henv fuel g hg).map_outcome (parse_balanced env fuel) h
  constructor
  · intro ho
    obtain ⟨fuel, hfuel⟩ := (meaning_eq_some_iff.1 ho).exists
    rw [hyield] at hfuel
    obtain ⟨s, hs, houtcome⟩ := Option.map_eq_some_iff.1 hfuel
    exact ⟨s, ⟨fuel, hs⟩, houtcome⟩
  · rintro ⟨s, ⟨fuel, hs⟩, rfl⟩
    apply yield_below fuel
    rw [hyield, hs]
    rfl

theorem exists_endsIn_iff (henv : HookedEnv Script.Depthless env) {g : Grammar V C}
    (hg : g.HookedBy Script.Depthless) {start : Nat} {context : C} {r : Run V C}
    (h : r.Begins source start context) :
    (∃ s, EndsIn env g r s) ↔ (meaning env source g start context).isSome = true := by
  rw [Option.isSome_iff_exists]
  simp only [meaning_eq_some_iff_endsIn henv hg h]
  constructor
  · rintro ⟨s, hs⟩
    exact ⟨s.outcome, s, hs, rfl⟩
  · rintro ⟨_, s, hs, -⟩
    exact ⟨s, hs⟩

/-- A grammar ends at a boundary of the source. -/
theorem meaning_boundary (henv : HookedEnv Script.Depthless env) {g : Grammar V C}
    (hg : g.HookedBy Script.Depthless) {start : Nat} (hstart : IsBoundary start source.chars)
    {context : C} {o : Outcome V C} (h : meaning env source g start context = some o) :
    IsBoundary o.cursor source.chars := by
  have hbegins := Run.begins_fresh (V := V) source hstart context
  obtain ⟨s, ⟨fuel, hs⟩, rfl⟩ := (meaning_eq_some_iff_endsIn henv hg hbegins).1 h
  obtain ⟨-, hready, hbal, -⟩ :=
    (parse_reproduces henv fuel g hg).run (parse_balanced env fuel) hbegins.ready hs
  have hsource : s.session.source = source := hbal.1
  exact hsource ▸ hready.boundary

/-- What two grammars come to from the same run: both end, in related states, or neither does. -/
def Compares (env : Env V C) (R : Outcome V C → Outcome V C → Prop) (g g' : Grammar V C)
    (r : Run V C) : Prop :=
  ((∃ s, EndsIn env g r s) ↔ ∃ t, EndsIn env g' r t) ∧
    ∀ s t, EndsIn env g r s → EndsIn env g' r t → R s.outcome t.outcome

theorem compares_of_meaning (henv : HookedEnv Script.Depthless env) {g g' : Grammar V C}
    (hg : g.HookedBy Script.Depthless) (hg' : g'.HookedBy Script.Depthless) {start : Nat}
    {context : C} {r : Run V C} (h : r.Begins source start context)
    {R : Outcome V C → Outcome V C → Prop}
    (hrel : Option.Rel R (meaning env source g start context)
      (meaning env source g' start context)) : Compares env R g g' r := by
  refine ⟨?_, ?_⟩
  · rw [exists_endsIn_iff henv hg h, exists_endsIn_iff henv hg' h, rel_isSome hrel]
  · intro s t hs ht
    rw [(meaning_eq_some_iff_endsIn henv hg h).2 ⟨s, hs, rfl⟩,
      (meaning_eq_some_iff_endsIn henv hg' h).2 ⟨t, ht, rfl⟩] at hrel
    cases hrel with
    | some hR => exact hR

end Grammar

end Descent

import Descent.Proofs.Contract

/-!
# Fuel that is enough

A grammar without references ends when the fuel covers its nesting and the
length of the text. Only repetitions go round, and each of their rounds but
the last reads something, unless it is one of the rounds they insist on.
-/
namespace Descent

variable {V C : Type}

/-- A grammar without references and scripts that nests at most so many levels deep, and whose
repetitions insist on fewer rounds than that. -/
inductive Grammar.Nests : Nat → Grammar V C → Prop
  | primitive (depth : Nat) (p : Primitive) (hook : Script V C) :
      Nests (depth + 1) (.primitive p hook)
  | all (depth : Nat) (subs : List (Grammar V C)) (hook : Script V C)
      (hs : ∀ g ∈ subs, Nests depth g) : Nests (depth + 1) (.all subs hook)
  | any (depth : Nat) (subs : List (Grammar V C)) (hook : Script V C)
      (hs : ∀ g ∈ subs, Nests depth g) : Nests (depth + 1) (.any subs hook)
  | best (depth : Nat) (subs : List (Grammar V C)) (hook : Script V C)
      (hs : ∀ g ∈ subs, Nests depth g) : Nests (depth + 1) (.best subs hook)
  | optional (depth : Nat) (sub : Grammar V C) (hook : Script V C) (hs : Nests depth sub) :
      Nests (depth + 1) (.optional sub hook)
  | repeated (depth : Nat) (sub : Grammar V C) (min : Nat) (max : Option Nat)
      (hook : Script V C) (hs : Nests depth sub) (hmin : min < depth) :
      Nests (depth + 1) (.repeated sub min max hook)

namespace Run

/-- A child that ends wherever it starts in the source, and keeps the contract. -/
structure EndsOn (child : Runner V C) (source : Source) (g : Grammar V C) : Prop where
  obeys : ObeysAs child g
  ends : ∀ r : Run V C, r.session.source = source → IsBoundary r.session.cursor source.chars →
    ∃ r', child g r = some r'

variable {child : Runner V C} {source : Source}

/-- Where a child that has ended leaves the session. -/
theorem EndsOn.run {g : Grammar V C} (h : EndsOn child source g) {r : Run V C}
    (hsource : r.session.source = source) (hc : IsBoundary r.session.cursor source.chars) :
    ∃ r', child g r = some r' ∧ r'.session.source = source ∧
      IsBoundary r'.session.cursor source.chars ∧ r.session.cursor ≤ r'.session.cursor := by
  obtain ⟨r', hrun⟩ := h.ends r hsource hc
  subst hsource
  obtain ⟨hsource, hobeys⟩ := h.obeys r r' hc hrun
  have hbound := hobeys.boundary (hsource ▸ hc)
  rw [hsource] at hbound
  exact ⟨r', hrun, hsource, hbound⟩

section Loops

variable (start n : Nat)

theorem all_ends (gs : List (Grammar V C)) (hchild : ∀ g ∈ gs, EndsOn child source g) (i : Nat)
    (r : Run V C) (hsource : r.session.source = source)
    (hc : IsBoundary r.session.cursor source.chars) :
    ∃ r', Run.all child start i gs r = some r' := by
  induction gs generalizing i r with
  | nil => exact ⟨_, rfl⟩
  | cons g gs ih =>
    obtain ⟨s, hrun, hsource', hbound, -⟩ := (hchild g List.mem_cons_self).run hsource hc
    rw [Run.all, hrun, Option.bind_eq_bind, Option.bind_some]
    split
    · exact ⟨_, rfl⟩
    · exact ih (fun g' hg' => hchild g' (List.mem_cons_of_mem g hg')) (i + 1) _ hsource' hbound

/-- A child that is run from the start of its combinator. -/
theorem EndsOn.run_moveTo {g : Grammar V C} (h : EndsOn child source g) {r : Run V C}
    (hsource : r.session.source = source) (hs : IsBoundary start source.chars) :
    ∃ r', child g (r.onSession (Session.moveTo start)) = some r' ∧
      r'.session.source = source := by
  have hsize := source.le_size hs
  have hstart : min start r.session.source.size = start := by rw [hsource]; omega
  obtain ⟨r', hrun, hsource', -⟩ := h.run (r := r.onSession (Session.moveTo start))
    (by simpa using hsource) (by simpa [hstart] using hs)
  exact ⟨r', hrun, hsource'⟩

theorem any_ends (gs : List (Grammar V C)) (hchild : ∀ g ∈ gs, EndsOn child source g) (i : Nat)
    (r : Run V C) (hsource : r.session.source = source) (hs : IsBoundary start source.chars) :
    ∃ r', Run.any child start n i gs r = some r' := by
  induction gs generalizing i r with
  | nil => exact ⟨_, rfl⟩
  | cons g gs ih =>
    obtain ⟨s, hrun, hsource'⟩ := (hchild g List.mem_cons_self).run_moveTo start hsource hs
    rw [Run.any, hrun, Option.bind_eq_bind, Option.bind_some]
    split
    · exact ih (fun g' hg' => hchild g' (List.mem_cons_of_mem g hg')) (i + 1) _ hsource'
    · exact ⟨_, rfl⟩

theorem best_ends (gs : List (Grammar V C)) (hchild : ∀ g ∈ gs, EndsOn child source g)
    (found : Option (Nat × Result V)) (r : Run V C) (hsource : r.session.source = source)
    (hs : IsBoundary start source.chars) :
    ∃ r', Run.best child start n found gs r = some r' := by
  induction gs generalizing found r with
  | nil => cases found <;> exact ⟨_, rfl⟩
  | cons g gs ih =>
    have hrest := fun g' hg' => hchild g' (List.mem_cons_of_mem g hg')
    obtain ⟨s, hrun, hsource'⟩ := (hchild g List.mem_cons_self).run_moveTo start hsource hs
    rw [Run.best, hrun, Option.bind_eq_bind, Option.bind_some]
    split
    · exact ih hrest found _ hsource'
    · exact ih hrest _ _ hsource'

theorem optional_ends (g : Grammar V C) (hchild : EndsOn child source g) (r : Run V C)
    (hsource : r.session.source = source) (hc : IsBoundary r.session.cursor source.chars) :
    ∃ r', Run.optional child start g r = some r' := by
  obtain ⟨s, hrun, -⟩ := hchild.run hsource hc
  rw [Run.optional, hrun, Option.bind_eq_bind, Option.bind_some]
  dsimp only
  split <;> exact ⟨_, rfl⟩

/-- Each round but the last brings the end of the text or the number of rounds insisted on
nearer. -/
theorem rounds_ends (g : Grammar V C) (hchild : EndsOn child source g) (min : Nat)
    (max : Option Nat) (fuel count : Nat) (r : Run V C) (hsource : r.session.source = source)
    (hc : IsBoundary r.session.cursor source.chars)
    (hfuel : (source.size - r.session.cursor) + (min - count) < fuel) :
    ∃ t, rounds child g min max fuel count r = some t := by
  induction fuel generalizing count r with
  | zero => omega
  | succ fuel ih =>
    unfold rounds
    split
    · obtain ⟨s, hrun, hsource', hbound, hle⟩ := hchild.run hsource hc
      rw [hrun, Option.bind_eq_bind, Option.bind_some]
      split
      · exact ⟨_, rfl⟩
      · dsimp only
        split
        · exact ⟨_, rfl⟩
        · next hidle =>
          have hsize := source.le_size hbound
          refine ih (count + 1) (s.onSession Session.collect) hsource' hbound ?_
          simp only [onSession_session, Session.collect_cursor] at hidle ⊢
          omega
    · exact ⟨_, rfl⟩

end Loops

end Run

/-- With fuel for the nesting and for the text, a parse ends. -/
theorem Grammar.parse_ends (env : Env V C) (henv : HookedEnv Script.Modest env)
    (source : Source) (depth fuel : Nat) (hfuel : depth + source.size ≤ fuel) (g : Grammar V C)
    (hn : g.Nests depth) (hg : g.HookedBy Script.Modest) :
    Run.EndsOn (Grammar.parse env fuel) source g := by
  refine ⟨Grammar.parse_obeys env henv fuel g hg, ?_⟩
  induction fuel generalizing depth g with
  | zero => cases hn <;> omega
  | succ fuel ih =>
    intro r hsource hc
    have hchild : ∀ depth' g', depth' + 1 = depth → g'.Nests depth' →
        g'.HookedBy Script.Modest → Run.EndsOn (Grammar.parse env fuel) source g' :=
      fun depth' g' hdepth hn' hg' =>
        ⟨Grammar.parse_obeys env henv fuel g' hg', ih depth' (by omega) g' hn' hg'⟩
    cases hn with
    | primitive depth p hook => exact ⟨_, rfl⟩
    | all depth subs hook hsubs =>
      cases hg with
      | all _ _ hooked _ =>
        obtain ⟨s, h⟩ := Run.all_ends r.session.cursor subs
          (fun g hg => hchild depth g rfl (hsubs g hg) (hooked g hg)) 0
          (r.onSession Session.pushFrame) hsource hc
        exact ⟨_, congrArg (Option.map (Run.finish hook)) h⟩
    | any depth subs hook hsubs =>
      cases hg with
      | any _ _ hooked _ =>
        obtain ⟨s, h⟩ := Run.any_ends r.session.cursor subs.length subs
          (fun g hg => hchild depth g rfl (hsubs g hg) (hooked g hg)) 0
          (r.onSession Session.pushFrame) hsource hc
        exact ⟨_, congrArg (Option.map (Run.finish hook)) h⟩
    | best depth subs hook hsubs =>
      cases hg with
      | best _ _ hooked _ =>
        obtain ⟨s, h⟩ := Run.best_ends r.session.cursor subs.length subs
          (fun g hg => hchild depth g rfl (hsubs g hg) (hooked g hg)) none
          (r.onSession Session.pushFrame) hsource hc
        exact ⟨_, congrArg (Option.map (Run.finish hook)) h⟩
    | optional depth sub hook hsub =>
      cases hg with
      | optional _ _ hooked _ =>
        obtain ⟨s, h⟩ := Run.optional_ends r.session.cursor sub
          (hchild depth sub rfl hsub hooked) (r.onSession Session.pushFrame) hsource hc
        exact ⟨_, congrArg (Option.map (Run.finish hook)) h⟩
    | repeated depth sub min max hook hsub hmin =>
      cases hg with
      | repeated _ _ _ _ hooked _ =>
        obtain ⟨⟨s, count, failure⟩, h⟩ := Run.rounds_ends sub
          (hchild depth sub rfl hsub hooked) min max fuel 0 (r.onSession Session.pushFrame)
          hsource hc (by omega)
        exact ⟨(s.conclude r.session.cursor min max count failure).finish hook,
          by simp [Grammar.parse, Run.repeated, h]⟩

end Descent

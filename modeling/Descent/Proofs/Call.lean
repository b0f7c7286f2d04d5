import Descent.Proofs.Balance
import Descent.Proofs.Fuel

/-!
# Calls

A finished parse is a tree of calls. Each call of a parser makes the calls of
its children, one after the other, and settles on a match or a failure; a
match is then left to the hook. The tree is recorded along the run that the
parse makes, and the run is the same with and without it.
-/
namespace Descent

variable {V C : Type}

/-- One call of a parser. -/
structure Call (V C : Type) where
  parser : Grammar V C
  start : Run V C
  /-- The calls of the children in the order in which they were made. -/
  children : List (Call V C)
  /-- Where the parser stands before its hook. -/
  settled : Run V C
  stop : Run V C

/-- How a parser is run as a child when its call is recorded. -/
abbrev Recorder (V C : Type) := Grammar V C → Run V C → Option (Call V C)

namespace Call

def failed (c : Call V C) : Bool := c.stop.failed

def result (c : Call V C) : Result V := c.stop.session.result

/-- The calls that have matched. -/
def matched (calls : List (Call V C)) : List (Call V C) := calls.filter fun c => !c.failed

@[simp] theorem matched_nil : matched ([] : List (Call V C)) = [] := rfl

theorem matched_cons_failed {c : Call V C} (h : c.failed = true) (calls : List (Call V C)) :
    matched (c :: calls) = matched calls := List.filter_cons_of_neg (by simp [h])

theorem matched_cons_matched {c : Call V C} (h : ¬ c.failed = true) (calls : List (Call V C)) :
    matched (c :: calls) = c :: matched calls := List.filter_cons_of_pos (by simp [h])

theorem matched_eq_self {calls : List (Call V C)} (h : ∀ c ∈ calls, ¬ c.failed = true) :
    matched calls = calls := List.filter_eq_self.2 fun c hc => by simp [h c hc]

theorem matched_eq_nil {calls : List (Call V C)} (h : ∀ c ∈ calls, c.failed = true) :
    matched calls = [] := List.filter_eq_nil_iff.2 fun c hc => by simp [h c hc]

/-- A property of every call in a tree. -/
inductive Every (P : Call V C → Prop) : Call V C → Prop
  | node (c : Call V C) (h : P c) (hs : ∀ child ∈ c.children, Every P child) : Every P c

end Call

namespace Run

/-- Between two calls: the result of the last one is collected or dropped. -/
def leave (keep : Bool) (r : Run V C) : Run V C :=
  r.onSession fun s => if keep then s.collect else { s with result := {} }

/-- The state after some calls. -/
def after (keep : Bool → Bool) : List (Call V C) → Run V C → Run V C
  | [], r => r
  | c :: calls, _ => after keep calls (c.stop.leave (keep c.failed))

theorem Steady.leave {I : Run V C → Prop} (hI : Steady I) (keep : Bool) (r : Run V C) (h : I r) :
    I (r.leave keep) := by
  cases keep with
  | false => exact hI.clear r h
  | true => exact hI.collect r h

end Run

namespace Recorder

variable (child : Recorder V C)

/-- The run without the record. -/
def runner : Run.Runner V C := fun g r => (child g r).map Call.stop

/-- The calls of some parsers, one after the other, up to the first after which there is no
going on. -/
def series (enter : Run V C → Run V C) (keep goesOn : Bool → Bool) :
    List (Grammar V C) → Run V C → Option (List (Call V C))
  | [], _ => some []
  | g :: gs, r => do
    let c ← child g (enter r)
    if goesOn c.failed then
      return c :: (← series enter keep goesOn gs (c.stop.leave (keep c.failed)))
    else return [c]

/-- The calls of a repetition of which `count` rounds are over. -/
def rounds (g : Grammar V C) (min : Nat) (max : Option Nat) :
    Nat → Nat → Run V C → Option (List (Call V C))
  | 0, _, _ => none
  | fuel + 1, count, r =>
    if Run.mayGoOn max count then do
      let c ← child g r
      if c.failed then return [c]
      else if c.stop.session.cursor = r.session.cursor ∧ min ≤ count + 1 then return [c]
      else return c :: (← rounds g min max fuel (count + 1) (c.stop.leave true))
    else some []

end Recorder

namespace Grammar

/-- The hook of a parser; references and scripts have none. -/
def hook? : Grammar V C → Option (Script V C)
  | primitive _ hook | all _ hook | any _ hook | best _ hook | optional _ hook
  | repeated _ _ _ hook => some hook
  | reference .. | script _ => none

/-- The parsers that a parser runs as its children. -/
def parts (env : Env V C) : Grammar V C → List (Grammar V C)
  | primitive .. | script _ => []
  | all subs _ | any subs _ | best subs _ => subs
  | optional sub _ | repeated sub _ _ _ => [sub]
  | reference cell _ =>
    match env cell with
    | .bound target => [target]
    | _ => []

theorem HookedBy.parts {P : Script V C → Prop} {env : Env V C} (henv : HookedEnv P env)
    {g : Grammar V C} (h : g.HookedBy P) : ∀ g' ∈ g.parts env, g'.HookedBy P := by
  cases h with
  | primitive p hook hp => simp [Grammar.parts]
  | all subs hook hs hp => exact hs
  | any subs hook hs hp => exact hs
  | best subs hook hs hp => exact hs
  | optional sub hook hs hp => exact List.forall_mem_singleton.2 hs
  | repeated sub min max hook hs hp => exact List.forall_mem_singleton.2 hs
  | reference cell owning =>
    cases hcell : env cell with
    | bound target => simpa [Grammar.parts, hcell] using henv cell target hcell
    | unbound => simp [Grammar.parts, hcell]
    | dropped => simp [Grammar.parts, hcell]

/-- What a parser does before its hook. -/
def work (env : Env V C) (child : Run.Runner V C) (fuel : Nat) (g : Grammar V C) (r : Run V C) :
    Option (Run V C) :=
  let start := r.session.cursor
  let opened := r.onSession Session.pushFrame
  match g with
  | .primitive p _ => some (r.onSession (Session.scan p))
  | .all subs _ => Run.all child start 0 subs opened
  | .any subs _ => Run.any child start subs.length 0 subs opened
  | .best subs _ => Run.best child start subs.length none subs opened
  | .optional sub _ => Run.optional child start sub opened
  | .repeated sub min max _ => Run.repeated child start sub min max fuel opened
  | .reference cell _ =>
    match env cell with
    | .bound target => child target r
    | .unbound =>
      some (r.onSession (Session.unmatched 0 "forward parser used before being bound" none))
    | .dropped => some (r.onSession (Session.unmatched 0 "forward parser was dropped" none))
  | .script body => some (r.perform body)

/-- Leaves the work of a parser to its hook. -/
def close (g : Grammar V C) (r : Run V C) : Run V C :=
  match g.hook? with
  | some hook => r.finish hook
  | none => r

/-- The calls that a parser makes of its children. -/
def calls (env : Env V C) (child : Recorder V C) (fuel : Nat) (g : Grammar V C) (r : Run V C) :
    Option (List (Call V C)) :=
  let back := Run.onSession (Session.moveTo r.session.cursor)
  let opened := r.onSession Session.pushFrame
  match g with
  | .primitive .. | .script _ => some []
  | .all subs _ => child.series id not not subs opened
  | .any subs _ => child.series back id id subs opened
  | .best subs _ => child.series back id (fun _ => true) subs opened
  | .optional sub _ => (child sub opened).map ([·])
  | .repeated sub min max _ => child.rounds sub min max fuel 0 opened
  | .reference cell _ =>
    match env cell with
    | .bound target => (child target r).map ([·])
    | _ => some []

/-- Runs a grammar at the cursor and records its call. -/
def record (env : Env V C) : Nat → Recorder V C
  | 0, _, _ => none
  | fuel + 1, g, r => do
    let child := record env fuel
    let children ← g.calls env child fuel r
    let settled ← g.work env child.runner fuel r
    return { parser := g, start := r, children, settled, stop := g.close settled }

theorem parse_eq_work (env : Env V C) (fuel : Nat) (g : Grammar V C) (r : Run V C) :
    g.parse env (fuel + 1) r = (g.work env (parse env fuel) fuel r).map g.close := by
  cases g with
  | reference cell owning =>
    simp only [parse, work]
    cases env cell with
    | bound target => exact (Option.map_id' (x := parse env fuel target r)).symm
    | unbound => rfl
    | dropped => rfl
  | _ => rfl

/-- What a parser does before its hook does not depend on the hook. -/
theorem work_withHook (env : Env V C) (child : Run.Runner V C) (fuel : Nat) (g : Grammar V C)
    (hook : Script V C) (r : Run V C) :
    (g.withHook hook).work env child fuel r = g.work env child fuel r := by
  cases g <;> rfl

theorem close_withHook {g : Grammar V C} {h : Script V C} (hg : g.hook? = some h)
    (hook : Script V C) (r : Run V C) : (g.withHook hook).close r = r.finish hook := by
  cases g with
  | reference cell owning => cases hg
  | script body => cases hg
  | _ => rfl

end Grammar

namespace Recorder

variable {child : Recorder V C}

section Series

variable (enter : Run V C → Run V C) (keep goesOn : Bool → Bool)

theorem series_cons {g : Grammar V C} {gs : List (Grammar V C)} {r : Run V C} {c : Call V C}
    (hc : child g (enter r) = some c) (hgo : goesOn c.failed = true) (calls : List (Call V C))
    (hcalls : child.series enter keep goesOn gs (c.stop.leave (keep c.failed)) = some calls) :
    child.series enter keep goesOn (g :: gs) r = some (c :: calls) := by
  rw [series, hc, Option.bind_eq_bind, Option.bind_some, if_pos hgo, hcalls]
  rfl

theorem series_last {g : Grammar V C} {gs : List (Grammar V C)} {r : Run V C} {c : Call V C}
    (hc : child g (enter r) = some c) (hgo : ¬ goesOn c.failed = true) :
    child.series enter keep goesOn (g :: gs) r = some [c] := by
  rw [series, hc, Option.bind_eq_bind, Option.bind_some, if_neg hgo]
  rfl

/-- A series is empty, or goes on after its first call, or ends with it. -/
theorem series_cases {g : Grammar V C} {gs : List (Grammar V C)} {r : Run V C}
    {calls : List (Call V C)}
    (h : child.series enter keep goesOn (g :: gs) r = some calls) :
    ∃ c, child g (enter r) = some c ∧
      ((∃ later, goesOn c.failed = true ∧ calls = c :: later ∧
          child.series enter keep goesOn gs (c.stop.leave (keep c.failed)) = some later) ∨
        (¬ goesOn c.failed = true ∧ calls = [c])) := by
  obtain ⟨c, hc, h⟩ := Option.bind_eq_some_iff.1 h
  refine ⟨c, hc, ?_⟩
  split at h
  · next hgo =>
    obtain ⟨later, hlater, h⟩ := Option.bind_eq_some_iff.1 h
    exact Or.inl ⟨later, hgo, (Option.some.inj h).symm, hlater⟩
  · next hgo => exact Or.inr ⟨hgo, (Option.some.inj h).symm⟩

/-- Every call of a series starts from a run of a kind that is not left on the way. -/
theorem series_starts {I : Run V C → Prop} (hI : Run.Steady I)
    (henter : ∀ r, I r → I (enter r)) (gs : List (Grammar V C))
    (hchild : ∀ g ∈ gs, ∀ r c, I r → child g r = some c → I c.stop) (r : Run V C)
    (calls : List (Call V C)) (hr : I r) (h : child.series enter keep goesOn gs r = some calls) :
    I (Run.after keep calls r) ∧
      ∀ c ∈ calls, ∃ g ∈ gs, ∃ r', I r' ∧ child g r' = some c := by
  induction gs generalizing r calls with
  | nil =>
    obtain rfl := Option.some.inj h
    exact ⟨hr, by simp⟩
  | cons g gs ih =>
    obtain ⟨c, hc, h⟩ := series_cases enter keep goesOn h
    have hstop := hchild g List.mem_cons_self _ c (henter r hr) hc
    have hleave := hI.leave (keep c.failed) c.stop hstop
    have hfirst : ∃ g' ∈ g :: gs, ∃ r', I r' ∧ child g' r' = some c :=
      ⟨g, List.mem_cons_self, enter r, henter r hr, hc⟩
    rcases h with ⟨later, -, rfl, hlater⟩ | ⟨-, rfl⟩
    · obtain ⟨hafter, hcalls⟩ := ih (fun g' hg' => hchild g' (List.mem_cons_of_mem g hg'))
        (c.stop.leave (keep c.failed)) later hleave hlater
      refine ⟨hafter, ?_⟩
      intro c' hc'
      rcases List.mem_cons.1 hc' with rfl | hc'
      · exact hfirst
      · obtain ⟨g', hg', hrun⟩ := hcalls c' hc'
        exact ⟨g', List.mem_cons_of_mem g hg', hrun⟩
    · refine ⟨hleave, ?_⟩
      intro c' hc'
      obtain rfl := List.mem_singleton.1 hc'
      exact hfirst

/-- The parsers of a series are called in their order, from the first on. -/
theorem series_parsers (hparser : ∀ {g r c}, child g r = some c → c.parser = g)
    (gs : List (Grammar V C)) (r : Run V C) (calls : List (Call V C))
    (h : child.series enter keep goesOn gs r = some calls) :
    calls.map Call.parser <+: gs := by
  induction gs generalizing r calls with
  | nil =>
    obtain rfl := Option.some.inj h
    exact List.prefix_rfl
  | cons g gs ih =>
    obtain ⟨c, hc, h⟩ := series_cases enter keep goesOn h
    have hg := hparser hc
    rcases h with ⟨later, -, rfl, hlater⟩ | ⟨-, rfl⟩
    · rw [List.map_cons, hg]
      exact (List.prefix_cons_inj g).2 (ih _ later hlater)
    · rw [List.map_singleton, hg]
      exact (List.prefix_cons_inj g).2 List.nil_prefix

end Series

section Loops

/-! What the loops of a parse come to, told by the calls that they have made. -/

variable (start n : Nat)

theorem all_calls (i : Nat) (gs : List (Grammar V C)) (r s : Run V C)
    (h : Run.all child.runner start i gs r = some s) :
    ∃ calls, child.series id not not gs r = some calls ∧
      ((calls.length = gs.length ∧ (∀ c ∈ calls, ¬ c.failed = true) ∧
          Run.all child.runner start 0 [] (Run.after not calls r) = some s) ∨
        ∃ before last, calls = before ++ [last] ∧ (∀ c ∈ before, ¬ c.failed = true) ∧
          last.failed = true ∧
          s = (last.stop.emit (.allFailed start (i + before.length))).onSession fun t =>
            { t.popFrame.moveTo start with
              result := { t.result with position := start } }) := by
  induction gs generalizing i r with
  | nil => exact ⟨[], rfl, Or.inl ⟨rfl, by simp, h⟩⟩
  | cons g gs ih =>
    obtain ⟨t, ht, h⟩ := Option.bind_eq_some_iff.1 h
    obtain ⟨c, hc, rfl⟩ := Option.map_eq_some_iff.1 ht
    split at h
    · next hfailed =>
      have hkeep : c.failed = true := hfailed
      refine ⟨[c], series_last id not not hc (by simp [hkeep]), Or.inr ⟨[], c, rfl, by simp,
        hkeep, ?_⟩⟩
      exact (Option.some.inj h).symm
    · next hmatch =>
      have hkeep : c.failed = false := Bool.not_eq_true _ ▸ hmatch
      obtain ⟨calls, hcalls, hends⟩ := ih (i + 1) (c.stop.onSession Session.collect) h
      have hlater : child.series id not not gs (c.stop.leave (!c.failed)) = some calls := by
        rw [hkeep]
        exact hcalls
      refine ⟨c :: calls, series_cons id not not hc (by simp [hkeep]) calls hlater, ?_⟩
      rcases hends with ⟨hlength, hmatched, hs⟩ | ⟨before, last, rfl, hbefore, hlast, hs⟩
      · refine Or.inl ⟨congrArg (· + 1) hlength, List.forall_mem_cons.2 ⟨hmatch, hmatched⟩, ?_⟩
        rw [Run.after, hkeep]
        exact hs
      · refine Or.inr ⟨c :: before, last, rfl, List.forall_mem_cons.2 ⟨hmatch, hbefore⟩, hlast, ?_⟩
        rw [hs, List.length_cons, Nat.add_assoc, Nat.add_comm 1]

theorem any_calls (i : Nat) (gs : List (Grammar V C)) (r s : Run V C)
    (h : Run.any child.runner start n i gs r = some s) :
    ∃ calls, child.series (Run.onSession (Session.moveTo start)) id id gs r = some calls ∧
      ((calls.length = gs.length ∧ (∀ c ∈ calls, c.failed = true) ∧
          Run.any child.runner start n 0 [] (Run.after id calls r) = some s) ∨
        ∃ before last, calls = before ++ [last] ∧ (∀ c ∈ before, c.failed = true) ∧
          ¬ last.failed = true ∧
          s = (last.stop.emit (.anyMatched start (i + before.length))).onSession
            Session.popFrame) := by
  induction gs generalizing i r with
  | nil => exact ⟨[], rfl, Or.inl ⟨rfl, by simp, h⟩⟩
  | cons g gs ih =>
    obtain ⟨t, ht, h⟩ := Option.bind_eq_some_iff.1 h
    obtain ⟨c, hc, rfl⟩ := Option.map_eq_some_iff.1 ht
    split at h
    · next hfailed =>
      have hkeep : c.failed = true := hfailed
      obtain ⟨calls, hcalls, hends⟩ := ih (i + 1) (c.stop.onSession Session.collect) h
      have hlater : child.series (Run.onSession (Session.moveTo start)) id id gs
          (c.stop.leave c.failed) = some calls := by
        rw [hkeep]
        exact hcalls
      refine ⟨c :: calls, series_cons _ id id hc hkeep calls hlater, ?_⟩
      rcases hends with ⟨hlength, hall, hs⟩ | ⟨before, last, rfl, hbefore, hlast, hs⟩
      · refine Or.inl ⟨congrArg (· + 1) hlength, List.forall_mem_cons.2 ⟨hkeep, hall⟩, ?_⟩
        rw [Run.after, hkeep]
        exact hs
      · refine Or.inr ⟨c :: before, last, rfl, List.forall_mem_cons.2 ⟨hkeep, hbefore⟩, hlast, ?_⟩
        rw [hs, List.length_cons, Nat.add_assoc, Nat.add_comm 1]
    · next hmatch =>
      refine ⟨[c], series_last _ id id hc hmatch, Or.inr ⟨[], c, rfl, by simp, hmatch, ?_⟩⟩
      exact (Option.some.inj h).symm

theorem best_calls (found : Option (Nat × Result V)) (gs : List (Grammar V C)) (r s : Run V C)
    (h : Run.best child.runner start n found gs r = some s) :
    ∃ calls,
      child.series (Run.onSession (Session.moveTo start)) id (fun _ => true) gs r = some calls ∧
      calls.length = gs.length ∧
      Run.best child.runner start n ((Call.matched calls).foldl
        (fun found c => Run.further found c.stop.session.cursor c.result) found) []
        (Run.after id calls r) = some s := by
  induction gs generalizing found r with
  | nil => exact ⟨[], rfl, rfl, h⟩
  | cons g gs ih =>
    obtain ⟨t, ht, h⟩ := Option.bind_eq_some_iff.1 h
    obtain ⟨c, hc, rfl⟩ := Option.map_eq_some_iff.1 ht
    split at h
    · next hfailed =>
      have hkeep : c.failed = true := hfailed
      obtain ⟨calls, hcalls, hlength, hs⟩ := ih found (c.stop.leave true) h
      have hlater : child.series (Run.onSession (Session.moveTo start)) id (fun _ => true) gs
          (c.stop.leave (id c.failed)) = some calls := by
        rw [id, hkeep]
        exact hcalls
      refine ⟨c :: calls, series_cons _ id _ hc rfl calls hlater, congrArg (· + 1) hlength, ?_⟩
      rw [Call.matched_cons_failed hkeep, Run.after, id, hkeep]
      exact hs
    · next hmatch =>
      have hkeep : c.failed = false := Bool.not_eq_true _ ▸ hmatch
      obtain ⟨calls, hcalls, hlength, hs⟩ := ih _ (c.stop.leave false) h
      have hlater : child.series (Run.onSession (Session.moveTo start)) id (fun _ => true) gs
          (c.stop.leave (id c.failed)) = some calls := by
        rw [id, hkeep]
        exact hcalls
      refine ⟨c :: calls, series_cons _ id _ hc rfl calls hlater, congrArg (· + 1) hlength, ?_⟩
      rw [Call.matched_cons_matched hmatch, Run.after, id, hkeep]
      exact hs

end Loops

section Rounds

variable {g : Grammar V C} {min : Nat} {max : Option Nat} {fuel count : Nat} {r : Run V C}
  {c : Call V C}

theorem rounds_last (hgo : Run.mayGoOn max count = true) (hc : child g r = some c)
    (hlast : c.failed = true ∨ (c.stop.session.cursor = r.session.cursor ∧ min ≤ count + 1)) :
    child.rounds g min max (fuel + 1) count r = some [c] := by
  rw [rounds, if_pos hgo, hc, Option.bind_eq_bind, Option.bind_some]
  by_cases hfailed : c.failed = true
  · rw [if_pos hfailed]
    rfl
  · rw [if_neg hfailed, if_pos (hlast.resolve_left hfailed)]
    rfl

theorem rounds_cons (hgo : Run.mayGoOn max count = true) (hc : child g r = some c)
    (hmatch : ¬ c.failed = true)
    (hbusy : ¬ (c.stop.session.cursor = r.session.cursor ∧ min ≤ count + 1))
    (calls : List (Call V C))
    (hcalls : child.rounds g min max fuel (count + 1) (c.stop.leave true) = some calls) :
    child.rounds g min max (fuel + 1) count r = some (c :: calls) := by
  rw [rounds, if_pos hgo, hc, Option.bind_eq_bind, Option.bind_some, if_neg hmatch, if_neg hbusy,
    hcalls]
  rfl

/-- The rounds that count are the calls that have matched; the last call may have failed. -/
theorem rounds_calls (g : Grammar V C) (min : Nat) (max : Option Nat) (fuel count : Nat)
    (r t : Run V C) (count' : Nat) (failure : Option (Result V))
    (h : Run.rounds child.runner g min max fuel count r = some (t, count', failure)) :
    ∃ calls, child.rounds g min max fuel count r = some calls ∧
      t = Run.after not calls r ∧ count' = count + (Call.matched calls).length ∧
      failure = ((calls.filter Call.failed).head?.map Call.result) ∧
      ∀ m, max = some m → count ≤ m → count' ≤ m := by
  induction fuel generalizing count r with
  | zero => cases h
  | succ fuel ih =>
    unfold Run.rounds at h
    split at h
    · next hgo =>
      obtain ⟨u, hu, h⟩ := Option.bind_eq_some_iff.1 h
      obtain ⟨c, hc, rfl⟩ := Option.map_eq_some_iff.1 hu
      have hbound : ∀ m, max = some m → count + 1 ≤ m := by
        rintro m rfl
        exact Nat.succ_le_of_lt (by simpa [Run.mayGoOn] using hgo)
      split at h
      · next hfailed =>
        have hkeep : c.failed = true := hfailed
        obtain ⟨rfl, rfl, rfl⟩ : _ = t ∧ _ = count' ∧ _ = failure := by simpa using h
        refine ⟨[c], rounds_last hgo hc (Or.inl hkeep), ?_, ?_, ?_, fun _ _ hle => hle⟩
        · rw [Run.after, Run.after, hkeep]
          rfl
        · rw [Call.matched_cons_failed hkeep]
          rfl
        · rw [List.filter_cons_of_pos hkeep]
          rfl
      · next hstop =>
        have hmatch : ¬ c.failed = true := hstop
        have hkeep : c.failed = false := Bool.not_eq_true _ ▸ hstop
        dsimp only at h
        split at h
        · next hidle =>
          obtain ⟨rfl, rfl, rfl⟩ : _ = t ∧ _ = count' ∧ _ = failure := by simpa using h
          refine ⟨[c], rounds_last hgo hc (Or.inr hidle), ?_, ?_, ?_, fun m hm _ => hbound m hm⟩
          · rw [Run.after, Run.after, hkeep]
            rfl
          · rw [Call.matched_cons_matched hmatch]
            rfl
          · rw [List.filter_cons_of_neg hmatch]
            rfl
        · next hbusy =>
          obtain ⟨calls, hcalls, ht, hcount, hfailure, hmax⟩ := ih (count + 1) _ h
          refine ⟨c :: calls, rounds_cons hgo hc hmatch hbusy calls hcalls, ?_, ?_, ?_,
            fun m hm _ => hmax m hm (hbound m hm)⟩
          · rw [Run.after, hkeep]
            exact ht
          · rw [hcount, Call.matched_cons_matched hmatch, List.length_cons]
            omega
          · rw [List.filter_cons_of_neg hmatch]
            exact hfailure
    · next hfull =>
      obtain ⟨rfl, rfl, rfl⟩ : r = t ∧ count = count' ∧ none = failure := by simpa using h
      exact ⟨[], if_neg hfull, rfl, rfl, rfl, fun _ _ hle => hle⟩

/-- A repetition goes on after its first call, or ends with it, or is over. -/
theorem rounds_cases {calls : List (Call V C)}
    (h : child.rounds g min max (fuel + 1) count r = some calls) :
    calls = [] ∨ ∃ c, child g r = some c ∧
      ((∃ later, ¬ c.failed = true ∧ calls = c :: later ∧
          child.rounds g min max fuel (count + 1) (c.stop.leave true) = some later) ∨
        calls = [c]) := by
  unfold rounds at h
  split at h
  · obtain ⟨c, hc, h⟩ := Option.bind_eq_some_iff.1 h
    refine Or.inr ⟨c, hc, ?_⟩
    split at h
    · exact Or.inr (Option.some.inj h).symm
    · next hmatch =>
      split at h
      · exact Or.inr (Option.some.inj h).symm
      · obtain ⟨later, hlater, h⟩ := Option.bind_eq_some_iff.1 h
        exact Or.inl ⟨later, hmatch, (Option.some.inj h).symm, hlater⟩
  · exact Or.inl (Option.some.inj h).symm

/-- Every call of a repetition starts from a run of a kind that is not left on the way. -/
theorem rounds_starts {I : Run V C → Prop} (hI : Run.Steady I) (g : Grammar V C)
    (hchild : ∀ r c, I r → child g r = some c → I c.stop) (min : Nat) (max : Option Nat)
    (fuel count : Nat) (r : Run V C) (calls : List (Call V C)) (hr : I r)
    (h : child.rounds g min max fuel count r = some calls) :
    ∀ c ∈ calls, ∃ r', I r' ∧ child g r' = some c := by
  induction fuel generalizing count r calls with
  | zero => cases h
  | succ fuel ih =>
    rcases rounds_cases h with rfl | ⟨c, hc, ⟨later, -, rfl, hlater⟩ | rfl⟩
    · simp
    · have hleave := hI.leave true c.stop (hchild r c hr hc)
      exact List.forall_mem_cons.2 ⟨⟨r, hr, hc⟩, ih (count + 1) (c.stop.leave true) later hleave
        hlater⟩
    · intro c' hc'
      obtain rfl := List.mem_singleton.1 hc'
      exact ⟨r, hr, hc⟩

end Rounds

section Collected

/-! What the frame of a combinator holds after some calls. -/

variable (hbalance : Run.KeepsBalance child.runner)

include hbalance

theorem leave_frames {g : Grammar V C} {r : Run V C} {c : Call V C} (hc : child g r = some c)
    (keep : Bool) (frame : Frame V) (outer : List (Frame V))
    (hframes : r.session.frames = frame :: outer) :
    (c.stop.leave keep).session.frames =
      { frame with results := frame.results ++ if keep then [c.result] else [] } :: outer := by
  have hrun : child.runner g r = some c.stop := by rw [runner, hc]; rfl
  have hstop := (hbalance g r c.stop hrun).2.trans hframes
  cases keep with
  | false => simpa [Run.leave] using hstop
  | true => exact c.stop.session.collect_frames frame outer hstop

theorem series_collected (enter : Run V C → Run V C) (keep goesOn : Bool → Bool)
    (henter : ∀ r, (enter r).session.frames = r.session.frames) (gs : List (Grammar V C))
    (r : Run V C) (calls : List (Call V C)) (frame : Frame V) (outer : List (Frame V))
    (hframes : r.session.frames = frame :: outer)
    (h : child.series enter keep goesOn gs r = some calls) :
    (Run.after keep calls r).session.frames =
      { frame with
        results := frame.results ++ (calls.filter fun c => keep c.failed).map Call.result } ::
          outer := by
  induction gs generalizing r calls frame with
  | nil =>
    obtain rfl := Option.some.inj h
    rw [Run.after, hframes]
    simp
  | cons g gs ih =>
    obtain ⟨c, hc, h⟩ := series_cases enter keep goesOn h
    have hleave := leave_frames hbalance hc (keep c.failed) frame outer
      ((henter r).trans hframes)
    rcases h with ⟨later, -, rfl, hlater⟩ | ⟨-, rfl⟩
    · rw [Run.after, ih (c.stop.leave (keep c.failed)) later _ hleave hlater]
      by_cases hkeep : keep c.failed = true
      · simp [hkeep]
      · simp [hkeep]
    · rw [Run.after, Run.after, hleave]
      by_cases hkeep : keep c.failed = true
      · simp [hkeep]
      · simp [hkeep]

theorem rounds_collected (g : Grammar V C) (min : Nat) (max : Option Nat) (fuel count : Nat)
    (r : Run V C) (calls : List (Call V C)) (frame : Frame V) (outer : List (Frame V))
    (hframes : r.session.frames = frame :: outer)
    (h : child.rounds g min max fuel count r = some calls) :
    (Run.after not calls r).session.frames =
      { frame with results := frame.results ++ (Call.matched calls).map Call.result } ::
        outer := by
  induction fuel generalizing count r calls frame with
  | zero => cases h
  | succ fuel ih =>
    rcases rounds_cases h with rfl | ⟨c, hc, h⟩
    · rw [Run.after, hframes]
      simp
    · have hleave := leave_frames hbalance hc (!c.failed) frame outer hframes
      rcases h with ⟨later, hmatch, rfl, hlater⟩ | rfl
      · have hkeep : (!c.failed) = true := by simpa using hmatch
        rw [hkeep] at hleave
        rw [Run.after, hkeep, ih (count + 1) (c.stop.leave true) later _ hleave hlater,
          Call.matched_cons_matched hmatch]
        simp
      · rw [Run.after, Run.after, hleave]
        by_cases hfailed : c.failed = true
        · simp [hfailed, Call.matched_cons_failed hfailed]
        · simp [hfailed, Call.matched_cons_matched hfailed]

end Collected

end Recorder

namespace Grammar

variable {env : Env V C} {fuel : Nat}

/-- Where the work of a parser ends, the calls of its children can be told. -/
theorem calls_of_work {child : Recorder V C} {g : Grammar V C} {r s : Run V C}
    (h : g.work env child.runner fuel r = some s) :
    ∃ calls, g.calls env child fuel r = some calls := by
  cases g with
  | primitive p hook => exact ⟨[], rfl⟩
  | all subs hook =>
    obtain ⟨calls, hcalls, -⟩ := Recorder.all_calls _ _ _ _ _ h
    exact ⟨calls, hcalls⟩
  | any subs hook =>
    obtain ⟨calls, hcalls, -⟩ := Recorder.any_calls _ _ _ _ _ _ h
    exact ⟨calls, hcalls⟩
  | best subs hook =>
    obtain ⟨calls, hcalls, -⟩ := Recorder.best_calls _ _ _ _ _ _ h
    exact ⟨calls, hcalls⟩
  | optional sub hook =>
    obtain ⟨t, ht, -⟩ := Option.bind_eq_some_iff.1 h
    obtain ⟨c, hc, -⟩ := Option.map_eq_some_iff.1 ht
    exact ⟨[c], Option.map_eq_some_iff.2 ⟨c, hc, rfl⟩⟩
  | repeated sub min max hook =>
    obtain ⟨⟨t, count, failure⟩, ht, -⟩ := Option.bind_eq_some_iff.1 h
    obtain ⟨calls, hcalls, -⟩ := Recorder.rounds_calls _ _ _ _ _ _ _ _ _ ht
    exact ⟨calls, hcalls⟩
  | reference cell owning =>
    simp only [work] at h
    simp only [calls]
    cases hcell : env cell with
    | bound target =>
      rw [hcell] at h
      obtain ⟨c, hc, -⟩ := Option.map_eq_some_iff.1 h
      exact ⟨[c], Option.map_eq_some_iff.2 ⟨c, hc, rfl⟩⟩
    | unbound => exact ⟨[], rfl⟩
    | dropped => exact ⟨[], rfl⟩
  | script body => exact ⟨[], rfl⟩

/-- Recording changes nothing: a call stops where the parse does, and is told whenever the parse
ends. -/
theorem record_stop (env : Env V C) (fuel : Nat) (g : Grammar V C) (r : Run V C) :
    (record env fuel g r).map Call.stop = g.parse env fuel r := by
  induction fuel generalizing g r with
  | zero => rfl
  | succ fuel ih =>
    have hrunner : (record env fuel).runner = parse env fuel := funext fun g => funext (ih g)
    rw [parse_eq_work, ← hrunner]
    cases hwork : g.work env (record env fuel).runner fuel r with
    | none => simp [record, hwork]
    | some s =>
      obtain ⟨calls, hcalls⟩ := calls_of_work hwork
      simp [record, hwork, hcalls]

/-- All that a recorded call tells. -/
theorem record_cases {g : Grammar V C} {r : Run V C} {c : Call V C}
    (h : record env (fuel + 1) g r = some c) :
    ∃ children settled, g.calls env (record env fuel) fuel r = some children ∧
      g.work env (record env fuel).runner fuel r = some settled ∧
      c = { parser := g, start := r, children, settled, stop := g.close settled } := by
  obtain ⟨children, hchildren, h⟩ := Option.bind_eq_some_iff.1 h
  obtain ⟨settled, hsettled, h⟩ := Option.bind_eq_some_iff.1 h
  exact ⟨children, settled, hchildren, hsettled, (Option.some.inj h).symm⟩

theorem record_origin {g : Grammar V C} {r : Run V C} {c : Call V C}
    (h : record env fuel g r = some c) : c.parser = g ∧ c.start = r := by
  cases fuel with
  | zero => cases h
  | succ fuel =>
    obtain ⟨children, settled, -, -, rfl⟩ := record_cases h
    exact ⟨rfl, rfl⟩

theorem record_parse {g : Grammar V C} {r : Run V C} {c : Call V C}
    (h : record env fuel g r = some c) : g.parse env fuel r = some c.stop := by
  rw [← record_stop, h]
  rfl

theorem record_balanced (env : Env V C) (fuel : Nat) :
    Run.KeepsBalance (record env fuel).runner := by
  intro g r r' h
  apply parse_balanced env fuel g r r'
  rw [← record_stop]
  exact h

/-- The calls of the children are those of its parts, from runs of a kind that is not left on the
way. -/
theorem calls_start {I : Run V C → Prop} (hI : Run.Steady I) {child : Recorder V C}
    (g : Grammar V C) (hchild : ∀ g' ∈ g.parts env, ∀ r c, I r → child g' r = some c → I c.stop)
    (r : Run V C) (hr : I r) (hopen : I (r.onSession Session.pushFrame))
    (calls : List (Call V C)) (h : g.calls env child fuel r = some calls) :
    ∀ c ∈ calls, ∃ g' ∈ g.parts env, ∃ r', I r' ∧ child g' r' = some c := by
  have hback : ∀ r', I r' → I (r'.onSession (Session.moveTo r.session.cursor)) :=
    fun r' hr' => hI.moveTo r' _ hr'
  have honly : ∀ (g' : Grammar V C) (r' : Run V C), g' ∈ g.parts env → I r' →
      (child g' r').map ([·]) = some calls →
      ∀ c ∈ calls, ∃ g' ∈ g.parts env, ∃ r', I r' ∧ child g' r' = some c := by
    intro g' r' hg' hr' h c hc
    obtain ⟨c', hc', rfl⟩ := Option.map_eq_some_iff.1 h
    obtain rfl := List.mem_singleton.1 hc
    exact ⟨g', hg', r', hr', hc'⟩
  cases g with
  | primitive p hook =>
    obtain rfl := Option.some.inj h
    simp
  | all subs hook =>
    exact (Recorder.series_starts _ _ _ hI (fun _ hr' => hr') subs hchild _ calls hopen h).2
  | any subs hook => exact (Recorder.series_starts _ _ _ hI hback subs hchild _ calls hopen h).2
  | best subs hook => exact (Recorder.series_starts _ _ _ hI hback subs hchild _ calls hopen h).2
  | optional sub hook => exact honly sub _ List.mem_cons_self hopen h
  | repeated sub min max hook =>
    intro c hc
    exact ⟨sub, List.mem_cons_self, Recorder.rounds_starts hI sub
      (hchild sub List.mem_cons_self) min max fuel 0 _ calls hopen h c hc⟩
  | reference cell owning =>
    simp only [Grammar.calls] at h
    cases hcell : env cell with
    | bound target =>
      rw [hcell] at h
      exact honly target r (by simp [parts, hcell]) hr h
    | unbound =>
      rw [hcell] at h
      obtain rfl := Option.some.inj h
      simp
    | dropped =>
      rw [hcell] at h
      obtain rfl := Option.some.inj h
      simp
  | script body =>
    obtain rfl := Option.some.inj h
    simp

/-- A property of the calls of some grammars from runs of a kind is one of every call in the
tree. -/
theorem record_every {P : Call V C → Prop} {K : Grammar V C → Prop} {I : Run V C → Prop}
    (hI : Run.Steady I) (hopen : ∀ r, I r → I (r.onSession Session.pushFrame))
    (hparts : ∀ g, K g → ∀ g' ∈ g.parts env, K g')
    (hcall : ∀ fuel g r c, K g → I r → record env fuel g r = some c → I c.stop ∧ P c)
    (g : Grammar V C) (hg : K g) (r : Run V C) (hr : I r) (c : Call V C)
    (h : record env fuel g r = some c) : c.Every P := by
  induction fuel generalizing g r c with
  | zero => cases h
  | succ fuel ih =>
    refine .node c (hcall (fuel + 1) g r c hg hr h).2 ?_
    obtain ⟨children, settled, hcalls, -, rfl⟩ := record_cases h
    intro child hc
    obtain ⟨g', hg', r', hr', hrun⟩ := calls_start hI g
      (fun g' hg' r c hr hc => (hcall fuel g' r c (hparts g hg g' hg') hr hc).1) r hr
      (hopen r hr) children hcalls child hc
    exact ih g' (hparts g hg g' hg') r' hr' child hrun

end Grammar

end Descent

import Descent.Proofs.Advance
import Descent.Proofs.Refinement
import Descent.Proofs.Repetition
import Descent.Proofs.Restoration
import Mathlib.Order.Bounds.Defs

/-!
# Where a repetition stops

The child of a repetition takes its turns one after the other. There are three
reasons to stop: as many turns have matched as are allowed, the next one fails,
or the last one has taken nothing while enough of them have matched. A
repetition stops at the first number of turns at which there is a reason, and
what it comes to is told by this number and the turns up to it.
-/
namespace Descent

variable {V C : Type}

namespace Grammar

section Turns

variable (env : Env V C) (sub : Grammar V C) (r : Run V C)

/-- From `r` on the child has matched some times in a row: its results, and where that leads. -/
inductive Turns : List (Result V) → Run V C → Prop
  | none : Turns [] r
  | more (results : List (Result V)) (s t : Run V C) (h : Turns results s)
      (hrun : EndsIn env sub s t) (hmatch : ¬ t.failed = true) :
      Turns (results ++ [t.session.result]) (t.onSession Session.collect)

/-- The last turn has taken nothing, and there are as many as the repetition insists on. -/
def Stalls (least : Nat) (results : List (Result V)) (s : Run V C) : Prop :=
  least ≤ results.length ∧ ∃ before s₀, Turns env sub r before s₀ ∧
    results.length = before.length + 1 ∧ s.session.cursor = s₀.session.cursor

/-- There is a reason to stop after so many turns. -/
def Stops (least : Nat) (most : Option Nat) (k : Nat) : Prop :=
  ∃ results s, Turns env sub r results s ∧ results.length = k ∧
    (most = some k ∨ (∃ t, EndsIn env sub s t ∧ t.failed = true) ∨
      Stalls env sub r least results s)

/-- A turn that matches does not go back, and a turn that fails stays where it was. -/
def GoesForth : Prop :=
  ∀ results s t, Turns env sub r results s → EndsIn env sub s t →
    (¬ t.failed = true → s.session.cursor ≤ t.session.cursor) ∧
      (t.failed = true → t.session.cursor = s.session.cursor)

end Turns

variable {env : Env V C} {sub : Grammar V C} {r : Run V C}

/-- The turns are determined by their number. -/
theorem Turns.unique {results results' : List (Result V)} {s s' : Run V C}
    (h : Turns env sub r results s) (h' : Turns env sub r results' s')
    (hlength : results.length = results'.length) : results = results' ∧ s = s' := by
  induction h generalizing results' s' with
  | none =>
    cases h' with
    | none => exact ⟨rfl, rfl⟩
    | more => simp at hlength
  | more results s t h hrun hmatch ih =>
    cases h' with
    | none => simp at hlength
    | more results' s' t' h' hrun' hmatch' =>
      obtain ⟨rfl, rfl⟩ := ih h' (by simpa using hlength)
      obtain rfl := hrun.unique hrun'
      exact ⟨rfl, rfl⟩

theorem Turns.le (hforth : GoesForth env sub r) {results : List (Result V)} {s : Run V C}
    (h : Turns env sub r results s) : r.session.cursor ≤ s.session.cursor := by
  induction h with
  | none => exact Nat.le_refl _
  | more results s t h hrun hmatch ih =>
    exact Nat.le_trans ih ((hforth results s t h hrun).1 hmatch)

theorem Turns.keeps {P : Session V → Prop} (hP : Session.Kept P) (hr : P r.session)
    {results : List (Result V)} {s : Run V C} (h : Turns env sub r results s) : P s.session := by
  induction h with
  | none => exact hr
  | more results s t h hrun hmatch ih =>
    obtain ⟨fuel, hrun⟩ := hrun
    exact hP.collect (parse_keeps hP env fuel sub s t ih hrun)

/-- Grammars whose hooks set values, add feedback and reject go forth. -/
theorem goesForth_of_modest (henv : HookedEnv Script.Modest env) (hsub : sub.HookedBy Script.Modest)
    (hsize : r.session.cursor ≤ r.session.source.size) : GoesForth env sub r := by
  rintro results s t hturns ⟨fuel, hrun⟩
  obtain ⟨-, hmoved⟩ := parse_advances env henv fuel sub hsub s t
    (hturns.keeps Session.kept_cursor_le hsize) hrun
  exact ⟨fun _ => hmoved.start_le, hmoved.back⟩

section Stop

variable {least : Nat} {most : Option Nat} {results : List (Result V)} {s t : Run V C}

/-- Whether there is a reason to stop is seen at the turns themselves. -/
theorem Turns.stops_iff (h : Turns env sub r results s) :
    Stops env sub r least most results.length ↔
      most = some results.length ∨ (∃ t, EndsIn env sub s t ∧ t.failed = true) ∨
        Stalls env sub r least results s := by
  constructor
  · rintro ⟨results', s', h', hlength, hreason⟩
    obtain ⟨rfl, rfl⟩ := h'.unique h hlength
    exact hreason
  · exact fun hreason => ⟨results, s, h, rfl, hreason⟩

/-- After a turn that matches, the repetition stalls just when the turn has taken nothing. -/
theorem Turns.stalls_iff (h : Turns env sub r results s) (result : Result V) (t : Run V C) :
    Stalls env sub r least (results ++ [result]) t ↔
      least ≤ results.length + 1 ∧ t.session.cursor = s.session.cursor := by
  unfold Stalls
  rw [List.length_append, List.length_singleton]
  refine and_congr_right fun _ => ⟨?_, fun hcursor => ⟨results, s, h, rfl, hcursor⟩⟩
  rintro ⟨before, s₀, hbefore, hlength, hcursor⟩
  obtain ⟨-, rfl⟩ := hbefore.unique h (by omega)
  exact hcursor

/-- A turn that was made although others were there to stop is not the end. -/
theorem Turns.not_stops (h : Turns env sub r results s) (hmost : most ≠ some results.length)
    (hrun : EndsIn env sub s t) (hmatch : ¬ t.failed = true)
    (hbusy : ¬ Stalls env sub r least results s) :
    ¬ Stops env sub r least most results.length := by
  rw [h.stops_iff]
  rintro (hfull | ⟨t', hrun', hfailed⟩ | hstalls)
  · exact hmost hfull
  · obtain rfl := hrun'.unique hrun
    exact hmatch hfailed
  · exact hbusy hstalls

end Stop

/-- The first reason to stop. -/
theorem isLeast_stops {least : Nat} {most : Option Nat} {n : Nat}
    (hbefore : ∀ k < n, ¬ Stops env sub r least most k) (h : Stops env sub r least most n) :
    IsLeast {k | Stops env sub r least most k} n :=
  ⟨h, fun k hk => Nat.le_of_not_lt fun hlt => hbefore k hlt hk⟩

/-- The rounds of a repetition are turns of its child. Where there was no reason to stop before
them, they go on up to the first number of turns at which there is one. -/
theorem rounds_stop {least : Nat} {most : Option Nat} (fuel n : Nat) (s : Run V C)
    (results : List (Result V)) (calls : List (Call V C)) (hturns : Turns env sub r results s)
    (hmost : ∀ m, most = some m → results.length ≤ m)
    (hbefore : ∀ k < results.length, ¬ Stops env sub r least most k)
    (hbusy : ¬ Stalls env sub r least results s)
    (h : (record env fuel).rounds sub least most n results.length s = some calls) :
    (∃ s', Turns env sub r (results ++ (Call.matched calls).map Call.result) s' ∧
      s'.session.cursor = Call.reached s.session.cursor calls) ∧
    IsLeast {k | Stops env sub r least most k}
      (results.length + (Call.matched calls).length) ∧
    (∀ m, most = some m → results.length + (Call.matched calls).length ≤ m) ∧
    ∀ c ∈ calls, ∃ results' s', Turns env sub r results' s' ∧ record env fuel sub s' = some c := by
  induction n generalizing s results calls with
  | zero => cases h
  | succ n ih =>
    unfold Recorder.rounds at h
    split at h
    · next hgo =>
      have hnotFull := (Run.mayGoOn_iff hmost).1 hgo
      obtain ⟨c, hc, h⟩ := Option.bind_eq_some_iff.1 h
      have hrun : EndsIn env sub s c.stop := ⟨fuel, record_parse hc⟩
      split at h
      · next hfailed =>
        obtain rfl := Option.some.inj h
        have hstops : Stops env sub r least most results.length :=
          hturns.stops_iff.2 (Or.inr (Or.inl ⟨c.stop, hrun, hfailed⟩))
        rw [Call.reached, Call.matched_cons_failed hfailed]
        exact ⟨⟨s, by simpa using hturns, rfl⟩, isLeast_stops hbefore hstops, hmost,
          List.forall_mem_singleton.2 ⟨results, s, hturns, hc⟩⟩
      · next hmatch =>
        -- there was no reason to stop before this turn, so the next one is still to be looked at
        have hturns' : Turns env sub r (results ++ [c.result]) (c.stop.onSession Session.collect) :=
          .more results s c.stop hturns hrun hmatch
        have hlength : (results ++ [c.result]).length = results.length + 1 := by simp
        have hmost' : ∀ m, most = some m → results.length + 1 ≤ m := fun m hm =>
          Nat.lt_of_le_of_ne (hmost m hm) fun heq => hnotFull (heq ▸ hm)
        have hbefore' : ∀ k < results.length + 1, ¬ Stops env sub r least most k := by
          intro k hk
          rcases Nat.lt_succ_iff_lt_or_eq.1 hk with hlt | rfl
          · exact hbefore k hlt
          · exact hturns.not_stops hnotFull hrun hmatch hbusy
        have hstalls : Stalls env sub r least (results ++ [c.result])
            (c.stop.onSession Session.collect) ↔ _ := hturns.stalls_iff c.result _
        split at h
        · next hidle =>
          obtain rfl := Option.some.inj h
          have hstops : Stops env sub r least most (results ++ [c.result]).length ↔ _ :=
            hturns'.stops_iff
          rw [hlength] at hstops
          rw [Call.reached_cons_matched hmatch, Call.matched_cons_matched hmatch]
          exact ⟨⟨_, hturns', rfl⟩,
            isLeast_stops hbefore' (hstops.2 (Or.inr (Or.inr (hstalls.2 ⟨hidle.2, hidle.1⟩)))),
            hmost', List.forall_mem_singleton.2 ⟨results, s, hturns, hc⟩⟩
        · next hbusy' =>
          obtain ⟨later, hlater, h⟩ := Option.bind_eq_some_iff.1 h
          obtain rfl := Option.some.inj h
          rw [← hlength] at hmost' hbefore' hlater
          obtain ⟨⟨s', hs', hreached⟩, hleast, hmost'', hcalls⟩ := ih
            (c.stop.onSession Session.collect) (results ++ [c.result]) later hturns' hmost' hbefore'
            (fun h => hbusy' ⟨(hstalls.1 h).2, (hstalls.1 h).1⟩) hlater
          rw [Call.reached_cons_matched hmatch, Call.matched_cons_matched hmatch, List.map_cons,
            List.length_cons, ← Nat.add_assoc, Nat.add_right_comm, ← hlength]
          refine ⟨⟨s', by simpa using hs', hreached⟩, hleast, hmost'', ?_⟩
          exact List.forall_mem_cons.2 ⟨⟨results, s, hturns, hc⟩, hcalls⟩
    · next hfull =>
      obtain rfl := Option.some.inj h
      have hmost' : most = some results.length := by
        by_contra hne
        exact hfull ((Run.mayGoOn_iff hmost).2 hne)
      exact ⟨⟨s, by simpa using hturns, rfl⟩,
        isLeast_stops hbefore (hturns.stops_iff.2 (Or.inl hmost')), hmost, by simp⟩

/-- Each call but the last brings the end of the text or the number of turns insisted on nearer. -/
theorem rounds_length {least : Nat} {most : Option Nat} (fuel n count : Nat) (s : Run V C)
    (calls : List (Call V C)) (hsize : s.session.cursor ≤ s.session.source.size)
    (hforth : ∀ c ∈ calls, ¬ c.failed = true →
      c.start.session.cursor ≤ c.stop.session.cursor)
    (h : (record env fuel).rounds sub least most n count s = some calls) :
    calls.length ≤ (least - (count + 1)) + (s.session.source.size - s.session.cursor) + 1 := by
  induction n generalizing count s calls with
  | zero => cases h
  | succ n ih =>
    unfold Recorder.rounds at h
    split at h
    · obtain ⟨c, hc, h⟩ := Option.bind_eq_some_iff.1 h
      split at h
      · obtain rfl := Option.some.inj h
        exact Nat.le_add_left 1 _
      · next hmatch =>
        split at h
        · obtain rfl := Option.some.inj h
          exact Nat.le_add_left 1 _
        · next hbusy =>
          obtain ⟨later, hlater, h⟩ := Option.bind_eq_some_iff.1 h
          obtain rfl := Option.some.inj h
          obtain ⟨hfirst, hforth'⟩ := List.forall_mem_cons.1 hforth
          have hle := hfirst hmatch
          rw [(record_origin hc).2] at hle
          have hrun := record_parse hc
          have hsource : c.stop.session.source = s.session.source :=
            (parse_balanced env fuel sub s _ hrun).1
          have hsize' := parse_keeps Session.kept_cursor_le env fuel sub s _ hsize hrun
          have hlength := ih (count + 1) (c.stop.leave true) later hsize' hforth' hlater
          change later.length ≤ least - (count + 1 + 1) +
            (c.stop.session.source.size - c.stop.session.cursor) + 1 at hlength
          rw [hsource] at hlength hsize'
          rw [List.length_cons]
          omega
    · obtain rfl := Option.some.inj h
      exact Nat.zero_le _

open Filter

/-- Where every turn ends, so do the rounds. -/
theorem exists_rounds {least : Nat} {most : Option Nat} (hforth : GoesForth env sub r)
    (hends : ∀ results s, Turns env sub r results s → ∃ t, EndsIn env sub s t) (n : Nat)
    (results : List (Result V)) (s : Run V C) (hturns : Turns env sub r results s)
    (hsize : s.session.cursor ≤ s.session.source.size)
    (hn : (least - results.length) + (s.session.source.size - s.session.cursor) < n) :
    ∃ t, ∀ᶠ fuel in atTop,
      Run.rounds (parse env fuel) sub least most n results.length s = some t := by
  induction n generalizing results s with
  | zero => exact absurd hn (Nat.not_lt_zero _)
  | succ n ih =>
    by_cases hgo : Run.mayGoOn most results.length = true
    · obtain ⟨t, ht⟩ := hends results s hturns
      by_cases hfailed : t.failed = true
      · exact ⟨_, ht.eventually.mono fun fuel hrun => Run.rounds_failed hgo hrun hfailed n⟩
      · by_cases hidle : t.session.cursor = s.session.cursor ∧ least ≤ results.length + 1
        · exact ⟨_, ht.eventually.mono fun fuel hrun => Run.rounds_idle hgo hrun hfailed hidle n⟩
        · obtain ⟨bound, hrun⟩ := id ht
          have hsource : t.session.source = s.session.source :=
            (parse_balanced env bound sub s t hrun).1
          have hsize' := parse_keeps Session.kept_cursor_le env bound sub s t hsize hrun
          have hle := (hforth results s t hturns ht).1 hfailed
          have hlength : (results ++ [t.session.result]).length = results.length + 1 := by simp
          obtain ⟨u, hu⟩ := ih (results ++ [t.session.result]) (t.onSession Session.collect)
            (.more results s t hturns ht hfailed) hsize' (by
              rw [hlength, Run.onSession_session, Session.collect_source, Session.collect_cursor]
              rw [hsource] at hsize' ⊢
              omega)
          rw [hlength] at hu
          exact ⟨u, (ht.eventually.and hu).mono fun fuel hrun =>
            (Run.rounds_busy hgo hrun.1 hfailed hidle n).trans hrun.2⟩
    · exact ⟨_, Eventually.of_forall fun fuel => Run.rounds_over hgo n⟩

/-- Where every turn ends, so does the repetition. -/
theorem exists_repeated {least : Nat} {most : Option Nat} (hook : Script V C)
    (hsize : r.session.cursor ≤ r.session.source.size)
    (hforth : GoesForth env sub (r.onSession Session.pushFrame))
    (hends : ∀ results s, Turns env sub (r.onSession Session.pushFrame) results s →
      ∃ t, EndsIn env sub s t) :
    ∃ t, EndsIn env (.repeated sub least most hook) r t := by
  let opened := r.onSession Session.pushFrame
  obtain ⟨t, ht⟩ : ∃ t, ∀ᶠ fuel in atTop, Run.rounds (parse env fuel) sub least most
      (least + (r.session.source.size - r.session.cursor) + 1) 0 opened = some t :=
    exists_rounds hforth hends _ [] opened .none hsize (Nat.lt_succ_self _)
  obtain ⟨fuel, hrounds, hle⟩ := (ht.and (eventually_ge_atTop _)).exists
  have hrounds' := Run.rounds_below Run.steady_true (Run.below_refl (parse env fuel)) sub least
    most hle 0 _ t trivial hrounds
  exact ⟨_, fuel + 1, Option.map_eq_some_iff.2
    ⟨_, Option.bind_eq_some_iff.2 ⟨t, hrounds', rfl⟩, rfl⟩⟩

end Grammar

/-- What a repetition makes of rounds that have gone forth from its start. -/
theorem Run.conclude_ends (start least : Nat) (most : Option Nat) (failure : Option (Result V))
    (r : Run V C) (hle : start ≤ r.session.cursor)
    (hsize : r.session.cursor ≤ r.session.source.size)
    (hmost : ∀ m, most = some m → r.session.collected.length ≤ m) :
    let r' := r.conclude start least most r.session.collected.length failure
    (¬ r'.failed = true ↔ least ≤ r.session.collected.length) ∧
      (¬ r'.failed = true → r'.session.cursor = r.session.cursor ∧
        r'.session.result.value = Result.valueOf most r.session.collected) ∧
      (r'.failed = true → r'.session.cursor = start ∧
        r'.session.result.errorAt = some r.session.cursor) := by
  intro r'
  have hstart := Nat.le_trans hle hsize
  have hmax : max start r.session.cursor = r.session.cursor := Nat.max_eq_right hle
  by_cases hcount : least ≤ r.session.collected.length
  · obtain ⟨hmatch, hend, -⟩ := conclude_matched start least most _ failure r hcount hstart hsize
    have hmatch' : ¬ r'.failed = true := fun h => absurd (hmatch.symm.trans h) (by decide)
    have hgather := gather_eq
      ((r.session.moveTo start).popFrame.matched (r.session.cursor - start)) hmost rfl
    have hvalue : r'.session.result.value = Result.valueOf most r.session.collected := by
      unfold r' conclude
      dsimp only
      rw [if_pos hcount]
      simp only [onSession_session, emit_session, hgather]
    exact ⟨⟨fun _ => hcount, fun _ => hmatch'⟩, fun _ => ⟨hend.trans hmax, hvalue⟩,
      fun h => absurd h hmatch'⟩
  · obtain ⟨hmiss, herror⟩ := conclude_failed start least most _ failure r
      (Nat.lt_of_not_le hcount) hstart
    have hback := conclude_restores start least most _ failure r hstart hmiss
    exact ⟨⟨fun h => absurd hmiss h, fun h => absurd h hcount⟩, fun h => absurd hmiss h,
      fun _ => ⟨hback.1, herror.trans (congrArg some hmax)⟩⟩

/-- The calls of a repetition are the turns up to the first reason to stop, and leave the cursor
where these have come. -/
theorem Grammar.record_turns {env : Env V C} {sub : Grammar V C} {least : Nat}
    {most : Option Nat} {fuel : Nat} {r : Run V C} {calls : List (Call V C)}
    (hsize : r.session.cursor ≤ r.session.source.size) (hforth : GoesForth env sub r)
    (h : (record env fuel).rounds sub least most fuel 0 r = some calls) :
    (∃ s, Turns env sub r ((Call.matched calls).map Call.result) s ∧
      (Run.after not calls r).session.cursor = s.session.cursor) ∧
    IsLeast {k | Stops env sub r least most k} ((Call.matched calls).map Call.result).length ∧
    (∀ m, most = some m → ((Call.matched calls).map Call.result).length ≤ m) ∧
    calls.length ≤ least + (r.session.source.size - r.session.cursor) + 1 := by
  obtain ⟨⟨s, hturns, hreached⟩, hleast, hmost, hcalls⟩ := rounds_stop fuel fuel r [] calls .none
    (fun _ _ => Nat.zero_le _) (by simp) (by simp [Stalls]) h
  rw [List.length_nil, Nat.zero_add, ← List.length_map Call.result] at hleast
  have hmoves : ∀ c ∈ calls,
      (¬ c.failed = true → c.start.session.cursor ≤ c.stop.session.cursor) ∧
        (c.failed = true → c.stop.session.cursor = c.start.session.cursor) := by
    intro c hc
    obtain ⟨results, s', hturns', hc'⟩ := hcalls c hc
    rw [(record_origin hc').2]
    exact hforth results s' c.stop hturns' ⟨fuel, record_parse hc'⟩
  have hleft := Recorder.rounds_left (fun h => (record_origin h).2) sub least most fuel 0 r calls h
    fun c hc => (hmoves c hc).2
  have hlength := rounds_length fuel fuel 0 r calls hsize (fun c hc => (hmoves c hc).1) h
  refine ⟨⟨s, hturns, ?_⟩, hleast, by simpa using hmost, by omega⟩
  rw [Run.after_cursor, hleft, hreached]

/-- A repetition stops after the least number of turns at which it has a reason to: as many as are
allowed have matched, the next turn fails, or the last one has taken nothing while enough of them
have matched. It matches just when these turns are enough, up to where they have come and with
their values; otherwise it fails at the place where they have come. It makes no more calls than it
insists on, one for each byte that is left, and one more; so it ends if every turn does. Of the
child it is asked that a turn that matches does not go back and that a turn that fails stays. -/
theorem repeated_stops (env : Env V C) (sub : Grammar V C) (least : Nat) (most : Option Nat)
    (r : Run V C) (hsize : r.session.cursor ≤ r.session.source.size)
    (hforth : Grammar.GoesForth env sub (r.onSession Session.pushFrame)) :
    let opened := r.onSession Session.pushFrame
    (∀ fuel c, (Grammar.repeated sub least most .done).record env fuel r = some c →
      ∃ results s, Grammar.Turns env sub opened results s ∧
        IsLeast {k | Grammar.Stops env sub opened least most k} results.length ∧
        (¬ c.failed = true ↔ least ≤ results.length) ∧
        (¬ c.failed = true → c.stop.session.cursor = s.session.cursor ∧
          c.result.value = Result.valueOf most results) ∧
        (c.failed = true → c.stop.session.cursor = r.session.cursor ∧
          c.result.errorAt = some s.session.cursor) ∧
        c.children.length ≤ least + (r.session.source.size - r.session.cursor) + 1) ∧
    ((∀ results s, Grammar.Turns env sub opened results s → ∃ t, Grammar.EndsIn env sub s t) →
      ∃ fuel c, (Grammar.repeated sub least most .done).record env fuel r = some c) := by
  intro opened
  constructor
  · intro fuel c hc
    obtain _ | fuel := fuel
    · cases hc
    obtain ⟨hrounds, failure, hstop, hkeeps⟩ :=
      Grammar.record_repeated env fuel sub least most r c hc
    obtain ⟨⟨s, hturns, hcursor⟩, hleast, hmost, hlength⟩ :=
      Grammar.record_turns (r := opened) hsize hforth hrounds
    have hframes := Recorder.rounds_collected (Grammar.record_balanced env fuel) sub least most
      fuel 0 opened c.children _ _ rfl hrounds
    have hafter := hkeeps Session.kept_cursor_le hsize
    have hle := hturns.le hforth
    refine ⟨_, s, hturns, hleast, ?_⟩
    rw [← hcursor] at hle ⊢
    have hcollected : (Run.after not c.children opened).session.collected =
        (Call.matched c.children).map Call.result := by
      simp [Session.collected, hframes]
    rw [← hcollected] at hmost ⊢
    rw [← List.length_map Call.result, ← hcollected, Run.finish_done] at hstop
    obtain ⟨hmatch, hends, hfails⟩ := Run.conclude_ends r.session.cursor least most failure _ hle
      hafter hmost
    rw [Call.failed, Call.result, hstop]
    exact ⟨hmatch, hends, hfails, hlength⟩
  · intro hends
    obtain ⟨t, fuel, ht⟩ := Grammar.exists_repeated .done hsize hforth hends
    obtain ⟨c, hc, -⟩ := Option.map_eq_some_iff.1 ((Grammar.record_stop env fuel _ r).trans ht)
    exact ⟨fuel, c, hc⟩

section Twins

/-- The word `ox` or nothing, with what was read as the value. -/
def twin : Grammar Unit Unit :=
  .optional (.primitive (.literal ⟨"ox", by decide⟩) .done) <|
    .look fun v _ => .act (.setValue (.text v.result.text)) .done

theorem twin_modest : twin.HookedBy Script.Modest :=
  .optional _ _ (.primitive _ _ trivial) fun _ _ => ⟨trivial, trivial⟩

def beforeTwins : Run Unit Unit := ⟨{ source := ⟨"twins", "!oxox!"⟩, cursor := 1 }, (), #[]⟩

/-- The third turn takes nothing, and is the last because three are enough. -/
theorem repeated_stops_twins :
    let opened := beforeTwins.onSession Session.pushFrame
    ∃ c results s, (Grammar.repeated twin 3 (some 5) .done).record unboundCells 6 beforeTwins =
        some c ∧
      Grammar.Turns unboundCells twin opened results s ∧ s.session.cursor = 5 ∧
      IsLeast {k | Grammar.Stops unboundCells twin opened 3 (some 5) k} 3 ∧
      c.result.value = .list (results.map (·.value)) ∧ c.children.length ≤ 9 := by
  intro opened
  have hcall : ((Grammar.repeated twin 3 (some 5) .done).record unboundCells 6 beforeTwins).map
      (fun c => decide (¬ c.failed = true ∧ c.stop.session.cursor = 5 ∧
        c.result.value.list?.map List.length = some 3)) = some true := by decide +kernel
  obtain ⟨c, hc, hcall⟩ := Option.map_eq_some_iff.1 hcall
  obtain ⟨hmatch, hstop, hvalues⟩ := of_decide_eq_true hcall
  have hforth : Grammar.GoesForth unboundCells twin opened :=
    Grammar.goesForth_of_modest nofun twin_modest (by decide)
  obtain ⟨results, s, hturns, hleast, -, hends, -, hlength⟩ :=
    (repeated_stops unboundCells twin 3 (some 5) beforeTwins (by decide) hforth).1 6 c hc
  obtain ⟨hcursor, hvalue⟩ := hends hmatch
  have hthree : results.length = 3 := by simpa [hvalue, Result.valueOf, Value.list?] using hvalues
  rw [hthree] at hleast
  exact ⟨c, results, s, hc, hturns, hcursor.symm.trans hstop, hleast, hvalue, hlength⟩

end Twins

end Descent

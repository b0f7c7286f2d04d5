import Descent.Proofs.Repetition
import Descent.Proofs.Restoration

/-!
# An option is a repetition of at most one round

An optional child gives its result as it is. A repetition makes a match of its
own, from the cursor and from what its frame has collected. With at most one
round both come to the same wherever the child tells its span.
-/
namespace Descent

variable {V C : Type}

namespace Run

/-- A match tells where the run began and what it has read; a failure has gone back. -/
structure TellsSpan (r s : Run V C) : Prop where
  position : ¬ s.failed = true → s.session.result.position = r.session.cursor
  le : ¬ s.failed = true → r.session.cursor ≤ s.session.cursor
  text : ¬ s.failed = true → s.session.result.text =
    r.session.source.textBetween r.session.cursor s.session.cursor
  back : s.failed = true → s.session.cursor = r.session.cursor

instance (r s : Run V C) : Decidable (TellsSpan r s) :=
  decidable_of_iff
    ((¬ s.failed = true → s.session.result.position = r.session.cursor) ∧
      (¬ s.failed = true → r.session.cursor ≤ s.session.cursor) ∧
      (¬ s.failed = true → s.session.result.text =
        r.session.source.textBetween r.session.cursor s.session.cursor) ∧
      (s.failed = true → s.session.cursor = r.session.cursor))
    ⟨fun h => ⟨h.1, h.2.1, h.2.2.1, h.2.2.2⟩, fun h => ⟨h.position, h.le, h.text, h.back⟩⟩

/-- The runs have ended in the same way, whatever was told on the way. -/
def EndsAlike (r s : Run V C) : Prop := r.session = s.session ∧ r.context = s.context

section OneRound

variable {child : Runner V C} {g : Grammar V C} {r s : Run V C}

theorem optional_matched (hrun : child g r = some s) (hmatch : ¬ s.failed = true) (start : Nat) :
    Run.optional child start g r = some (s.onSession Session.popFrame) := by
  rw [Run.optional, hrun, Option.bind_eq_bind, Option.bind_some]
  exact if_neg hmatch

/-- After a first round that matches there is no other, whether it has read something or not. -/
theorem rounds_of_matched (hrun : child g r = some s) (hmatch : ¬ s.failed = true) (fuel : Nat) :
    rounds child g 0 (some 1) (fuel + 2) 0 r = some (s.onSession Session.collect, 1, none) := by
  by_cases hidle : s.session.cursor = r.session.cursor ∧ 0 ≤ 0 + 1
  · exact rounds_idle (by decide) hrun hmatch hidle (fuel + 1)
  · rw [rounds_busy (by decide) hrun hmatch hidle (fuel + 1)]
    exact rounds_over (by decide) fuel

/-- A repetition of at most one round matches as far as it has come, with the value and the
feedback of its round. -/
theorem conclude_oneRound (start count : Nat) (failure : Option (Result V)) (r : Run V C)
    (hstart : start ≤ r.session.cursor) (hsize : r.session.cursor ≤ r.session.source.size) :
    (r.conclude start 0 (some 1) count failure).finish .done =
      ((r.emit (.repeatMatched start count (r.session.cursor - start))).onSession fun s =>
        { s with
          result :=
            { position := start
              text := s.source.textBetween start s.cursor
              value := (s.collected.head?.map (·.value)).getD .none
              feedback := (s.collected.head?.map (·.feedback)).getD [] }
          subResults := []
          frames := s.frames.tail }) := by
  have hback : min start r.session.source.size = start := by omega
  have hstop : min (start + (r.session.cursor - start)) r.session.source.size =
      r.session.cursor := by omega
  rw [finish_done]
  unfold conclude
  cases hcollected : r.session.collected <;>
    simp [mayGoOn, Session.gatherOne, Session.matched, Session.moveTo, Session.popFrame, emit,
      onSession, hback, hstop, hcollected]

/-- From one call of the child, the two combinators come to the same. -/
theorem optional_endsAlike (hrun : child g r = some s) (htells : TellsSpan r s)
    (hbalance : Balanced r s) (hsize : r.session.cursor ≤ r.session.source.size)
    (hsize' : s.session.cursor ≤ s.session.source.size) (outer : List (Frame V))
    (hframes : r.session.frames = { start := r.session.cursor } :: outer) (fuel : Nat) :
    ∃ t t', Run.optional child r.session.cursor g r = some t ∧
      Run.repeated child r.session.cursor g 0 (some 1) (fuel + 2) r = some t' ∧
      EndsAlike (t.finish .done) (t'.finish .done) := by
  obtain ⟨hsource, hframes'⟩ := hbalance
  rw [hframes] at hframes'
  by_cases hfailed : s.failed = true
  · have hback := htells.back hfailed
    have hstart : min r.session.cursor s.session.source.size = r.session.cursor :=
      Nat.min_eq_left (hsource ▸ hsize)
    refine ⟨_, (s.onSession fun s => { s with result := {} }).conclude r.session.cursor 0 (some 1)
      0 (some s.session.result), optional_forgets _ g r s hrun hfailed, ?_, ?_⟩
    · rw [Run.repeated, rounds_failed (by decide) hrun hfailed]
      rfl
    · rw [finish_done, conclude_oneRound _ _ _ (s.onSession fun s => { s with result := {} })
        (Nat.le_of_eq hback.symm) hsize']
      refine ⟨?_, rfl⟩
      simp [Session.collected, Session.moveTo, Session.popFrame, hframes', hback, hstart]
  · refine ⟨_, (s.onSession Session.collect).conclude r.session.cursor 0 (some 1) 1 none,
      optional_matched hrun hfailed _, ?_, ?_⟩
    · rw [Run.repeated, rounds_of_matched hrun hfailed]
      rfl
    · have hcollected : s.session.collect.collected = [s.session.result] := by
        simp [Session.collected, Session.collect_frames _ _ _ hframes']
      have hresult : s.session.result =
          { position := r.session.cursor
            text := s.session.source.textBetween r.session.cursor s.session.cursor
            value := s.session.result.value
            feedback := s.session.result.feedback } := by
        rw [hsource, ← htells.text hfailed, ← htells.position hfailed,
          ← show s.session.result.errorAt = none by simpa [failed] using hfailed]
      rw [finish_done, conclude_oneRound _ _ _ (s.onSession Session.collect) (htells.le hfailed)
        hsize']
      refine ⟨?_, rfl⟩
      simp [hcollected, Session.popFrame, ← hresult]

end OneRound

end Run

namespace Grammar

variable {env : Env V C} {sub : Grammar V C} {r : Run V C}

theorem EndsIn.of_optional {hook : Script V C} {t : Run V C}
    (h : EndsIn env (.optional sub hook) r t) :
    ∃ s, EndsIn env sub (r.onSession Session.pushFrame) s := by
  obtain ⟨_ | fuel, h⟩ := h
  · cases h
  · obtain ⟨u, hu, -⟩ := Option.map_eq_some_iff.1 h
    obtain ⟨s, hs, -⟩ := Option.bind_eq_some_iff.1 hu
    exact ⟨s, fuel, hs⟩

/-- A repetition that may go on runs its child. -/
theorem EndsIn.of_repeated {hook : Script V C} {least : Nat} {most : Option Nat} {t : Run V C}
    (hgo : Run.mayGoOn most 0 = true) (h : EndsIn env (.repeated sub least most hook) r t) :
    ∃ s, EndsIn env sub (r.onSession Session.pushFrame) s := by
  obtain ⟨_ | _ | fuel, h⟩ := h
  · cases h
  · cases h
  · obtain ⟨u, hu, -⟩ := Option.map_eq_some_iff.1 h
    obtain ⟨v, hv, -⟩ := Option.bind_eq_some_iff.1 hu
    rw [Run.rounds, if_pos hgo] at hv
    obtain ⟨s, hs, -⟩ := Option.bind_eq_some_iff.1 hv
    exact ⟨s, fuel + 1, hs⟩

end Grammar

/-- An optional parser and a repetition of at most one round, neither with a hook of its own, end
on the same inputs, in the same session and the same context. Of the child it is only asked that it
tells its span and that it goes back when it fails; its own hooks may do what they like. -/
theorem optional_eq_repeated (env : Env V C) (sub : Grammar V C) (r : Run V C)
    (hsize : r.session.cursor ≤ r.session.source.size)
    (htells : ∀ s, Grammar.EndsIn env sub (r.onSession Session.pushFrame) s →
      Run.TellsSpan (r.onSession Session.pushFrame) s) :
    (∀ t, Grammar.EndsIn env (.optional sub .done) r t →
      ∃ t', Grammar.EndsIn env (.repeated sub 0 (some 1) .done) r t' ∧ Run.EndsAlike t t') ∧
    ∀ t', Grammar.EndsIn env (.repeated sub 0 (some 1) .done) r t' →
      ∃ t, Grammar.EndsIn env (.optional sub .done) r t ∧ Run.EndsAlike t t' := by
  have hboth : ∀ s, Grammar.EndsIn env sub (r.onSession Session.pushFrame) s →
      ∃ t t', Grammar.EndsIn env (.optional sub .done) r t ∧
        Grammar.EndsIn env (.repeated sub 0 (some 1) .done) r t' ∧ Run.EndsAlike t t' := by
    intro s hs
    obtain ⟨fuel, hrun⟩ := hs
    have hrun' := Grammar.parse_mono env (Nat.le_add_right fuel 2) sub _ s hrun
    obtain ⟨t, t', ht, ht', halike⟩ := Run.optional_endsAlike hrun' (htells s ⟨fuel, hrun⟩)
      (Grammar.parse_balanced env _ sub _ s hrun') hsize
      (Grammar.parse_keeps Session.kept_cursor_le env _ sub
        (r.onSession Session.pushFrame) s hsize hrun')
      r.session.frames rfl fuel
    exact ⟨t.finish .done, t'.finish .done,
      ⟨fuel + 3, Option.map_eq_some_iff.2 ⟨t, ht, rfl⟩⟩,
      ⟨fuel + 3, Option.map_eq_some_iff.2 ⟨t', ht', rfl⟩⟩, halike⟩
  constructor
  · intro t ht
    obtain ⟨s, hs⟩ := ht.of_optional
    obtain ⟨t₁, t', ht₁, ht', halike⟩ := hboth s hs
    obtain rfl := ht.unique ht₁
    exact ⟨t', ht', halike⟩
  · intro t' ht'
    obtain ⟨s, hs⟩ := ht'.of_repeated rfl
    obtain ⟨t, t₁', ht, ht₁', halike⟩ := hboth s hs
    obtain rfl := ht'.unique ht₁'
    exact ⟨t, ht, halike⟩

section Signed

/-- A sign that counts itself in the context and leaves a remark. -/
def signed : Grammar Unit Nat :=
  .primitive (.literal ⟨"-", by decide⟩) <|
    .look fun v n => .setContext (n + 1) <| .act (.note .info v.cursor "signed" none) .done

def beforeSigned : Run Unit Nat := ⟨{ source := ⟨"signed", "--1"⟩ }, 0, #[]⟩

/-- Of two signs both take the first, with its remark. -/
theorem optional_eq_repeated_signed :
    ∃ t t', Grammar.EndsIn (fun _ => .unbound) (.optional signed .done) beforeSigned t ∧
      Grammar.EndsIn (fun _ => .unbound) (.repeated signed 0 (some 1) .done) beforeSigned t' ∧
      t.session = t'.session ∧ t.context = t'.context ∧
      t.session.cursor = 1 ∧ t.session.result.feedback.length = 1 ∧ t.context = 1 := by
  have htells : ∀ s, Grammar.EndsIn (fun _ => .unbound) signed
      (beforeSigned.onSession Session.pushFrame) s →
      Run.TellsSpan (beforeSigned.onSession Session.pushFrame) s := by
    intro s hs
    have hchild : (signed.parse (fun _ => .unbound) 1
        (beforeSigned.onSession Session.pushFrame)).map (fun s => decide
          (Run.TellsSpan (beforeSigned.onSession Session.pushFrame) s)) = some true := by
      decide +kernel
    obtain ⟨s', hs', htells⟩ := Option.map_eq_some_iff.1 hchild
    obtain rfl := hs.unique ⟨1, hs'⟩
    exact of_decide_eq_true htells
  have hoption : ((Grammar.optional signed .done).parse (fun _ => .unbound) 2 beforeSigned).map
      (fun t => decide (t.session.cursor = 1 ∧ t.session.result.feedback.length = 1 ∧
        t.context = 1)) = some true := by decide +kernel
  obtain ⟨t, ht, hend⟩ := Option.map_eq_some_iff.1 hoption
  obtain ⟨t', ht', hsession, hcontext⟩ :=
    (optional_eq_repeated (fun _ => .unbound) signed beforeSigned (by decide) htells).1 t ⟨2, ht⟩
  exact ⟨t, t', ⟨2, ht⟩, ht', hsession, hcontext, of_decide_eq_true hend⟩

end Signed

end Descent

import Descent.Proofs.Call
import Descent.Proofs.Reached
import Descent.Proofs.Scanning

/-!
# What a repetition spans

A repetition measures its match by the cursor that its last round has left
behind. Where every round that matches covers its span, the match is the text
of these rounds just when the round that failed, if there is one, has left the
cursor no further than they came. A round that fails far ahead leaves text in
the match that no round has matched.
-/
namespace Descent

variable {V C : Type}

theorem slice?_trans {m n p : Nat} {cs front back : List Char}
    (hfront : slice? m n cs = some front) (hback : slice? n p cs = some back) :
    slice? m p cs = some (front ++ back) := by
  obtain ⟨before, after, rfl, rfl, rfl⟩ := slice?_eq_some_iff.1 hfront
  obtain ⟨before', after', hcut, hbefore', rfl⟩ := slice?_eq_some_iff.1 hback
  have hdrop : dropBytes? (byteLength before + byteLength front) (before ++ (front ++ after)) =
      some after := by
    rw [← byteLength_append, ← List.append_assoc, dropBytes?_byteLength]
  rw [hcut, ← hbefore', dropBytes?_byteLength, Option.some.injEq] at hdrop
  subst hdrop
  exact slice?_eq_some_iff.2 ⟨before, after', by simp, rfl, by rw [byteLength_append]; omega⟩

theorem slice?_self {n : Nat} {cs : List Char} (h : IsBoundary n cs) : slice? n n cs = some [] := by
  obtain ⟨before, after, rfl, rfl⟩ := h
  exact slice?_eq_some_iff.2 ⟨before, after, rfl, rfl, rfl⟩

theorem isBoundary_of_slice? {m n : Nat} {cs mid : List Char} (h : slice? m n cs = some mid) :
    IsBoundary m cs ∧ IsBoundary n cs := by
  obtain ⟨before, after, rfl, rfl, rfl⟩ := slice?_eq_some_iff.1 h
  exact ⟨⟨before, mid ++ after, rfl, rfl⟩, ⟨before ++ mid, after, by simp, by simp⟩⟩

namespace Call

/-- The result of a match tells where the call began and what it has read. -/
def Covers (c : Call V C) : Prop :=
  c.result.position = c.start.session.cursor ∧
    slice? c.start.session.cursor c.stop.session.cursor c.start.session.source.chars =
      some c.result.text.toList

/-- Where the last of the calls that match has ended. -/
def reached (start : Nat) (calls : List (Call V C)) : Nat :=
  ((matched calls).getLast?.map fun c => c.stop.session.cursor).getD start

/-- Where the last call has left the cursor. -/
def left (start : Nat) (calls : List (Call V C)) : Nat :=
  (calls.getLast?.map fun c => c.stop.session.cursor).getD start

theorem left_cons (start : Nat) (c : Call V C) (calls : List (Call V C)) :
    left start (c :: calls) = left c.stop.session.cursor calls := by
  unfold left
  rw [List.getLast?_cons]
  cases calls.getLast? <;> rfl

theorem reached_cons_matched {c : Call V C} (h : ¬ c.failed = true) (start : Nat)
    (calls : List (Call V C)) :
    reached start (c :: calls) = reached c.stop.session.cursor calls := by
  unfold reached
  rw [matched_cons_matched h, List.getLast?_cons]
  cases (matched calls).getLast? <;> rfl

end Call

theorem Run.after_cursor (keep : Bool → Bool) (calls : List (Call V C)) (r : Run V C) :
    (Run.after keep calls r).session.cursor = Call.left r.session.cursor calls := by
  induction calls generalizing r with
  | nil => rfl
  | cons c calls ih =>
    rw [Run.after, ih, Call.left_cons]
    cases keep c.failed <;> rfl

namespace Recorder

variable {child : Recorder V C} (horigin : ∀ {g r c}, child g r = some c → c.start = r)

include horigin

/-- Rounds that cover their spans cover, all together, the text up to where they came. -/
theorem rounds_cover (hbalance : Run.KeepsBalance child.runner) (g : Grammar V C) (min : Nat)
    (max : Option Nat) (fuel count : Nat) (r : Run V C)
    (calls : List (Call V C)) (h : child.rounds g min max fuel count r = some calls)
    (hcover : ∀ c ∈ calls, ¬ c.failed = true → c.Covers)
    (hstart : IsBoundary r.session.cursor r.session.source.chars) :
    slice? r.session.cursor (Call.reached r.session.cursor calls) r.session.source.chars =
      some ((Call.matched calls).flatMap fun c => c.result.text.toList) := by
  have hempty := slice?_self hstart
  induction fuel generalizing count r calls with
  | zero => cases h
  | succ fuel ih =>
    rcases rounds_cases h with rfl | ⟨c, hc, ⟨later, hmatch, rfl, hlater⟩ | rfl⟩
    · exact hempty
    · obtain rfl := horigin hc
      have hrun : child.runner g c.start = some c.stop := by rw [runner, hc]; rfl
      have hsource : c.stop.session.source = c.start.session.source := (hbalance _ _ _ hrun).1
      obtain ⟨hc', hlater'⟩ := List.forall_mem_cons.1 hcover
      have hfirst := (hc' hmatch).2
      have hstop := (isBoundary_of_slice? hfirst).2
      rw [← hsource] at hstop
      have hrest := ih (count + 1) (c.stop.leave true) later hlater hlater' hstop
        (slice?_self hstop)
      rw [Call.reached_cons_matched hmatch, Call.matched_cons_matched hmatch, List.flatMap_cons]
      refine slice?_trans hfirst ?_
      rw [← hsource]
      exact hrest
    · by_cases hfailed : c.failed = true
      · rw [Call.reached, Call.matched_cons_failed hfailed]
        exact hempty
      · have hcover' := (hcover c List.mem_cons_self hfailed).2
        rw [horigin hc] at hcover'
        rw [Call.reached_cons_matched hfailed, Call.matched_cons_matched hfailed]
        simpa [Call.reached] using hcover'

/-- From inside of a character no round covers a span. -/
theorem rounds_uncovered (g : Grammar V C) (min : Nat) (max : Option Nat) (fuel count : Nat)
    (r : Run V C) (calls : List (Call V C))
    (h : child.rounds g min max fuel count r = some calls)
    (hcover : ∀ c ∈ calls, ¬ c.failed = true → c.Covers)
    (hstart : ¬ IsBoundary r.session.cursor r.session.source.chars) :
    Call.matched calls = [] := by
  cases fuel with
  | zero => cases h
  | succ fuel =>
    rcases rounds_cases h with rfl | ⟨c, hc, h⟩
    · rfl
    · have hfailed : c.failed = true := by
        by_contra hmatch
        have hmem : c ∈ calls := by rcases h with ⟨later, -, rfl, -⟩ | rfl <;> simp
        have hcover' := (hcover c hmem hmatch).2
        rw [horigin hc] at hcover'
        exact hstart (isBoundary_of_slice? hcover').1
      rcases h with ⟨later, hmatch, -, -⟩ | rfl
      · exact absurd hfailed hmatch
      · rw [Call.matched_cons_failed hfailed]
        rfl

/-- The rounds that match have come no further back than their start, and the text up to there is
theirs. -/
theorem rounds_text (hbalance : Run.KeepsBalance child.runner) (g : Grammar V C) (min : Nat)
    (max : Option Nat) (fuel count : Nat) (r : Run V C) (calls : List (Call V C))
    (h : child.rounds g min max fuel count r = some calls)
    (hcover : ∀ c ∈ calls, ¬ c.failed = true → c.Covers) :
    r.session.cursor ≤ Call.reached r.session.cursor calls ∧
      (r.session.source.textBetween r.session.cursor
        (Call.reached r.session.cursor calls)).toList =
          (Call.matched calls).flatMap fun c => c.result.text.toList := by
  by_cases hstart : IsBoundary r.session.cursor r.session.source.chars
  · have hslice := rounds_cover horigin hbalance g min max fuel count r calls h hcover hstart
    obtain ⟨before, after, -, -, hlength⟩ := slice?_eq_some_iff.1 hslice
    refine ⟨Nat.le.intro hlength, ?_⟩
    rw [Source.textBetween, hslice, Option.getD_some, String.toList_ofList]
  · have hnone := rounds_uncovered horigin g min max fuel count r calls h hcover hstart
    have hreached : Call.reached r.session.cursor calls = r.session.cursor := by
      rw [Call.reached, hnone]
      rfl
    rw [hreached, hnone, Source.textBetween_self]
    exact ⟨Nat.le_refl _, rfl⟩

/-- A round that fails at the place where it began leaves the cursor where the rounds before it
came. -/
theorem rounds_left (g : Grammar V C) (min : Nat) (max : Option Nat) (fuel count : Nat)
    (r : Run V C) (calls : List (Call V C))
    (h : child.rounds g min max fuel count r = some calls)
    (hback : ∀ c ∈ calls, c.failed = true → c.stop.session.cursor = c.start.session.cursor) :
    Call.left r.session.cursor calls = Call.reached r.session.cursor calls := by
  induction fuel generalizing count r calls with
  | zero => cases h
  | succ fuel ih =>
    rcases rounds_cases h with rfl | ⟨c, hc, ⟨later, hmatch, rfl, hlater⟩ | rfl⟩
    · rfl
    · rw [Call.left_cons, Call.reached_cons_matched hmatch]
      exact ih (count + 1) (c.stop.leave true) later hlater fun c' hc' =>
        hback c' (List.mem_cons_of_mem c hc')
    · rw [Call.left_cons]
      by_cases hfailed : c.failed = true
      · rw [Call.reached, Call.matched_cons_failed hfailed]
        exact (hback c List.mem_cons_self hfailed).trans (by rw [horigin hc]; rfl)
      · rw [Call.reached_cons_matched hfailed]
        rfl

end Recorder

namespace Run

variable (start least : Nat) (most : Option Nat) (count : Nat) (failure : Option (Result V))
  (r : Run V C)

/-- With rounds enough, a repetition matches up to where they have left the cursor. -/
theorem conclude_matched (hcount : least ≤ count) (hstart : start ≤ r.session.source.size)
    (hleft : r.session.cursor ≤ r.session.source.size) :
    let r' := r.conclude start least most count failure
    r'.failed = false ∧ r'.session.cursor = max start r.session.cursor ∧
      r'.session.result.text =
        r.session.source.textBetween start (max start r.session.cursor) := by
  have hback : min start r.session.source.size = start := Nat.min_eq_left hstart
  have hstop : min (start + (r.session.cursor - start)) r.session.source.size =
      max start r.session.cursor := by
    omega
  unfold conclude
  by_cases hmost : mayGoOn most 1 = true
  · simp [hcount, hmost, Session.gather, failed, hback, hstop]
  · cases r.session.collected <;>
      simp [hcount, hmost, Session.gatherOne, failed, hback, hstop]

/-- With too few rounds, a repetition fails at the place where they have left the cursor. -/
theorem conclude_failed (hcount : count < least) (hstart : start ≤ r.session.source.size) :
    let r' := r.conclude start least most count failure
    r'.failed = true ∧ r'.session.result.errorAt = some (max start r.session.cursor) := by
  have hback : min start r.session.source.size = start := Nat.min_eq_left hstart
  have hstop : start + (r.session.cursor - start) = max start r.session.cursor := by omega
  unfold conclude
  simp [Nat.not_le.2 hcount, Session.addFeedback, failed, Result.failed, hback, hstop]

end Run

theorem Session.kept_source (source : Source) :
    Kept fun s : Session V => s.source = source where
  locate s offset h := by simpa using h
  moveTo _ _ h := h
  update _ _ _ _ h := h

/-- Between two children of a combinator only such steps are made. -/
theorem Session.Kept.steady {P : Session V → Prop} (hP : Session.Kept P) :
    Run.Steady fun r : Run V C => P r.session where
  moveTo _ start h := hP.moveTo _ start h
  collect _ h := hP.collect h
  clear _ h := hP.result h _

/-- The call of a repetition without a hook of its own, by the calls of its rounds. -/
theorem Grammar.record_repeated (env : Env V C) (fuel : Nat) (sub : Grammar V C) (least : Nat)
    (most : Option Nat) (r : Run V C) (c : Call V C)
    (hc : (Grammar.repeated sub least most .done).record env (fuel + 1) r = some c) :
    (record env fuel).rounds sub least most fuel 0 (r.onSession Session.pushFrame) =
        some c.children ∧
      ∃ failure, c.stop = ((Run.after not c.children (r.onSession Session.pushFrame)).conclude
        r.session.cursor least most (Call.matched c.children).length failure).finish .done ∧
      ∀ {P : Session V → Prop}, Session.Kept P → P r.session →
        P (Run.after not c.children (r.onSession Session.pushFrame)).session := by
  obtain ⟨children, settled, hcalls, hwork, rfl⟩ := record_cases hc
  obtain ⟨⟨t, count, failure⟩, ht, hsettled⟩ := Option.bind_eq_some_iff.1 hwork
  obtain rfl := Option.some.inj hsettled
  obtain ⟨calls, hcalls', rfl, hcount, -, -⟩ := Recorder.rounds_calls _ _ _ _ _ _ _ _ _ ht
  obtain rfl : calls = children := Option.some.inj (hcalls'.symm.trans hcalls)
  rw [Nat.zero_add] at hcount
  subst hcount
  refine ⟨hcalls, failure, rfl, fun hP hr => ?_⟩
  have hopen := hP.frames hr (r.onSession Session.pushFrame).session.frames
  refine Run.rounds_keeps hP (fun g s s' hs hrun => ?_) sub least most fuel 0
    (r.onSession Session.pushFrame) _ _ _ hopen ht
  exact parse_keeps hP env fuel g s s' hs (by rw [← record_stop]; exact hrun)

/-- A repetition whose matching rounds cover their spans fails when they are too few. It goes as
far as its last round has left the cursor, which is the end of its match or the place of its
failure; so it is made of the rounds that match, and of nothing else, just when the cursor was left
where these came. That is so when a round that fails goes back to where it began. -/
theorem repeated_reaches (env : Env V C) (fuel : Nat) (sub : Grammar V C) (least : Nat)
    (most : Option Nat) (r : Run V C) (c : Call V C)
    (hc : (Grammar.repeated sub least most .done).record env (fuel + 1) r = some c)
    (hsize : r.session.cursor ≤ r.session.source.size)
    (hcover : ∀ round ∈ c.children, ¬ round.failed = true → round.Covers) :
    let start := r.session.cursor
    let rounds := Call.matched c.children
    let reached := Call.reached start c.children
    let left := Call.left start c.children
    (c.failed = true ↔ rounds.length < least) ∧
      (¬ c.failed = true →
        c.stop.session.cursor = max start left ∧
        c.result.text = r.session.source.textBetween start (max start left) ∧
        (c.stop.session.cursor = reached ∧
            c.result.text.toList = (rounds.flatMap fun round => round.result.text.toList) ↔
          max start left = reached)) ∧
      (c.failed = true → c.result.errorAt = some (max start left)) ∧
      ((∀ round ∈ c.children, round.failed = true →
          round.stop.session.cursor = round.start.session.cursor) →
        max start left = reached) := by
  intro start rounds reached left
  obtain ⟨hrounds, failure, hstop, hkeeps⟩ :=
    Grammar.record_repeated env fuel sub least most r c hc
  obtain ⟨hreached, htext⟩ := Recorder.rounds_text (fun h => (Grammar.record_origin h).2)
    (Grammar.record_balanced env fuel) sub least most fuel 0 _ c.children hrounds hcover
  have hcursor := Run.after_cursor not c.children (r.onSession Session.pushFrame)
  have hsource := hkeeps (Session.kept_source r.session.source) rfl
  have hafter := hkeeps Session.kept_cursor_le hsize
  have hback : (∀ round ∈ c.children, round.failed = true →
      round.stop.session.cursor = round.start.session.cursor) → max start left = reached := by
    intro hback
    have hleft := Recorder.rounds_left (fun h => (Grammar.record_origin h).2) sub least most fuel 0
      _ c.children hrounds hback
    exact (congrArg (max start) hleft).trans (Nat.max_eq_right hreached)
  generalize Run.after not c.children (r.onSession Session.pushFrame) = after at *
  have hstart : start ≤ after.session.source.size := by rwa [hsource]
  rw [Run.finish_done] at hstop
  have hfailed : c.failed = c.stop.failed := rfl
  have hresult : c.result = c.stop.session.result := rfl
  rw [hfailed, hresult, hstop]
  by_cases hcount : least ≤ rounds.length
  · obtain ⟨hmatch, hend, htext'⟩ := Run.conclude_matched start least most rounds.length failure
      after hcount hstart hafter
    rw [hcursor, hsource] at htext'
    rw [hcursor] at hend
    refine ⟨⟨fun h => absurd (hmatch.symm.trans h) (by decide), fun h => absurd h (by omega)⟩,
      fun _ => ⟨hend, htext', ?_, ?_⟩, fun h => absurd (hmatch.symm.trans h) (by decide), hback⟩
    · exact fun h => hend.symm.trans h.1
    · intro h
      refine ⟨hend.trans h, ?_⟩
      calc _ = (r.session.source.textBetween start (max start left)).toList :=
            congrArg String.toList htext'
        _ = (r.session.source.textBetween start reached).toList := by rw [h]
        _ = _ := htext
  · obtain ⟨hmiss, herror⟩ := Run.conclude_failed start least most rounds.length failure after
      (Nat.lt_of_not_le hcount) hstart
    rw [hcursor] at herror
    exact ⟨⟨fun _ => Nat.lt_of_not_le hcount, fun _ => hmiss⟩, fun h => absurd hmiss h,
      fun _ => herror, hback⟩

section Couples

instance (c : Call V C) : Decidable c.Covers := inferInstanceAs (Decidable (_ ∧ _))

def unboundCells : Env Unit Unit := fun _ => .unbound

def beforeCouples (text : String) : Run Unit Unit := ⟨{ source := ⟨"couples", text⟩ }, (), #[]⟩

/-- A `u` and a `w`. -/
def couple : Grammar Unit Unit :=
  .all [.primitive (.literal ⟨"u", by decide⟩) .done, .primitive (.literal ⟨"w", by decide⟩) .done]
    .done

/-- The third round reads one character before it fails, and gives it back. -/
theorem repeated_reaches_couples :
    ∃ c, (Grammar.repeated couple 2 none .done).record unboundCells 8 (beforeCouples "uwuwu") =
        some c ∧
      c.failed = false ∧ c.stop.session.cursor = 4 ∧ c.result.text = "uwuw" := by
  have hcall : ((Grammar.repeated couple 2 none .done).record unboundCells 8
      (beforeCouples "uwuwu")).map (fun c => decide (
        (∀ round ∈ c.children, ¬ round.failed = true → round.Covers) ∧ c.failed = false ∧
        (∀ round ∈ c.children, round.failed = true →
          round.stop.session.cursor = round.start.session.cursor) ∧
        Call.reached 0 c.children = 4)) = some true := by decide +kernel
  obtain ⟨c, hc, hcall⟩ := Option.map_eq_some_iff.1 hcall
  obtain ⟨hcover, hmatch, hback, hreached⟩ := of_decide_eq_true hcall
  obtain ⟨-, hends, -, hlaw⟩ :=
    repeated_reaches unboundCells 7 couple 2 none (beforeCouples "uwuwu") c hc (by decide) hcover
  obtain ⟨hcursor, htext, -⟩ := hends (by simp [hmatch])
  have hleft := (hlaw hback).trans hreached
  rw [hleft] at hcursor htext
  exact ⟨c, hc, hmatch, hcursor, htext⟩

/-- A literal that is made a failure by its hook, which does not go back. -/
def abandoned : Grammar Unit Unit :=
  .primitive (.literal ⟨"ab", by decide⟩) <|
    .look fun v _ => .act (.setResult { v.result with errorAt := some v.cursor }) .done

/-- The only round fails, so no round counts, and still the repetition matches its text. -/
theorem repeated_takes_failed_text :
    ∃ c, (Grammar.many0 abandoned .done).record unboundCells 3 (beforeCouples "ab") = some c ∧
      (∀ round ∈ c.children, ¬ round.failed = true → round.Covers) ∧ ¬ c.failed = true ∧
      ¬ (c.stop.session.cursor = Call.reached 0 c.children ∧
        c.result.text.toList =
          (Call.matched c.children).flatMap fun round => round.result.text.toList) := by
  have hcall : ((Grammar.many0 abandoned .done).record unboundCells 3 (beforeCouples "ab")).map
      (fun c => decide (
        (∀ round ∈ c.children, ¬ round.failed = true → round.Covers) ∧ ¬ c.failed = true ∧
        ¬ (c.stop.session.cursor = Call.reached 0 c.children ∧
          c.result.text.toList =
            (Call.matched c.children).flatMap fun round => round.result.text.toList))) =
      some true := by decide +kernel
  obtain ⟨c, hc, hcall⟩ := Option.map_eq_some_iff.1 hcall
  exact ⟨c, hc, of_decide_eq_true hcall⟩

end Couples

end Descent

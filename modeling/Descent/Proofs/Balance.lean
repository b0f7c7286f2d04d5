import Descent.Proofs.Hooks

/-!
# Frames are balanced

Whatever the hooks and scripts of a grammar do, a finished parse leaves the
source and the stack of frames as they were. Each loop closes the frame that
it works in.
-/
namespace Descent

variable {V C : Type}

namespace Run

@[simp] theorem onSession_session (f : Session V → Session V) (r : Run V C) :
    (r.onSession f).session = f r.session := rfl
@[simp] theorem onSession_context (f : Session V → Session V) (r : Run V C) :
    (r.onSession f).context = r.context := rfl
@[simp] theorem emit_session (e : Event) (r : Run V C) : (r.emit e).session = r.session := rfl
@[simp] theorem emit_context (e : Event) (r : Run V C) : (r.emit e).context = r.context := rfl

/-- The source is the same, and the frames are those below the innermost one. -/
def Closed (r r' : Run V C) : Prop :=
  r'.session.source = r.session.source ∧ r'.session.frames = r.session.frames.tail

/-- The source and the frames are the same. -/
def Balanced (r r' : Run V C) : Prop :=
  r'.session.source = r.session.source ∧ r'.session.frames = r.session.frames

/-- Whatever is run as a child leaves the source and the frames alone. -/
def KeepsBalance (child : Runner V C) : Prop := ∀ g r r', child g r = some r' → Balanced r r'

theorem closed_of_balanced {r s t : Run V C} (h : Balanced r s)
    (hs : t.session.source = s.session.source)
    (hf : t.session.frames = s.session.frames.tail) : Closed r t :=
  ⟨hs.trans h.1, by rw [hf, h.2]⟩

theorem closed_trans {r s t : Run V C} (hs : s.session.source = r.session.source)
    (hf : s.session.frames.tail = r.session.frames.tail) (h : Closed s t) : Closed r t :=
  ⟨h.1.trans hs, h.2.trans hf⟩

@[simp] theorem gather_source (results : List (Result V)) (s : Session V) :
    (s.gather results).source = s.source := rfl
@[simp] theorem gather_frames (results : List (Result V)) (s : Session V) :
    (s.gather results).frames = s.frames := rfl
@[simp] theorem gatherOne_source (results : List (Result V)) (s : Session V) :
    (s.gatherOne results).source = s.source := by cases results <;> rfl
@[simp] theorem gatherOne_frames (results : List (Result V)) (s : Session V) :
    (s.gatherOne results).frames = s.frames := by cases results <;> rfl
@[simp] theorem addFeedback_source (items : List Feedback.Item) (s : Session V) :
    (s.addFeedback items).source = s.source := rfl
@[simp] theorem addFeedback_frames (items : List Feedback.Item) (s : Session V) :
    (s.addFeedback items).frames = s.frames := rfl
@[simp] theorem addFeedback_subResults (items : List Feedback.Item) (s : Session V) :
    (s.addFeedback items).subResults = s.subResults := rfl

/-- What is true of the match that was kept and of the next one is true of the one that is kept
then. -/
theorem further_keeps {P : Nat → Result V → Prop} {found : Option (Nat × Result V)} {stop : Nat}
    {result : Result V} (hfound : ∀ stop result, found = some (stop, result) → P stop result)
    (h : P stop result) :
    ∀ stop' result', further found stop result = some (stop', result') → P stop' result' := by
  intro stop' result' hfurther
  unfold further at hfurther
  split at hfurther
  · obtain ⟨rfl, rfl⟩ := Prod.mk.inj (Option.some.inj hfurther)
    exact h
  · split at hfurther
    · obtain ⟨rfl, rfl⟩ := Prod.mk.inj (Option.some.inj hfurther)
      exact h
    · exact hfound stop' result' hfurther

/-- A hook that does nothing leaves all but the results of the children. -/
theorem finish_done (r : Run V C) :
    r.finish .done = r.onSession fun s => { s with subResults := [] } := by
  unfold finish
  split <;> rfl

theorem finish_balanced (hook : Script V C) (r : Run V C) : Balanced r (r.finish hook) := by
  unfold Balanced finish perform
  split <;> simp

variable {child : Runner V C} (start n : Nat)

theorem all_closed (hchild : KeepsBalance child) (i : Nat) (gs : List (Grammar V C))
    (r r' : Run V C) (h : Run.all child start i gs r = some r') : Closed r r' := by
  induction gs generalizing i r with
  | nil =>
    obtain rfl := Option.some.inj h
    constructor <;> simp
  | cons g gs ih =>
    obtain ⟨s, hs, h⟩ := Option.bind_eq_some_iff.1 h
    have hb := hchild g r s hs
    split at h
    · obtain rfl := Option.some.inj h
      exact closed_of_balanced hb (by simp) (by simp)
    · exact closed_trans (by simpa using hb.1) (by simp [hb.2]) (ih (i + 1) _ h)

theorem any_closed (hchild : KeepsBalance child) (i : Nat) (gs : List (Grammar V C))
    (r r' : Run V C) (h : Run.any child start n i gs r = some r') : Closed r r' := by
  induction gs generalizing i r with
  | nil =>
    obtain rfl := Option.some.inj h
    constructor <;> simp
  | cons g gs ih =>
    obtain ⟨s, hs, h⟩ := Option.bind_eq_some_iff.1 h
    have hb := hchild g _ s hs
    split at h
    · exact closed_trans (by simpa using hb.1) (by simp [hb.2]) (ih (i + 1) _ h)
    · obtain rfl := Option.some.inj h
      exact closed_of_balanced hb (by simp) (by simp)

theorem best_closed (hchild : KeepsBalance child) (found : Option (Nat × Result V))
    (gs : List (Grammar V C)) (r r' : Run V C)
    (h : Run.best child start n found gs r = some r') : Closed r r' := by
  induction gs generalizing found r with
  | nil =>
    cases found with
    | none =>
      obtain rfl := Option.some.inj h
      constructor <;> simp
    | some found =>
      obtain rfl := Option.some.inj h
      constructor <;> simp
  | cons g gs ih =>
    obtain ⟨s, hs, h⟩ := Option.bind_eq_some_iff.1 h
    have hb := hchild g _ s hs
    split at h
    · exact closed_trans (by simpa using hb.1) (by simp [hb.2]) (ih _ _ h)
    · exact closed_trans (by simpa using hb.1) (by simp [hb.2]) (ih _ _ h)

theorem optional_closed (hchild : KeepsBalance child) (g : Grammar V C) (r r' : Run V C)
    (h : Run.optional child start g r = some r') : Closed r r' := by
  obtain ⟨s, hs, h⟩ := Option.bind_eq_some_iff.1 h
  have hb := hchild g r s hs
  dsimp only at h
  split at h
  · obtain rfl := Option.some.inj h
    exact closed_of_balanced hb (by simp) (by simp)
  · obtain rfl := Option.some.inj h
    exact closed_of_balanced hb (by simp) (by simp)

theorem rounds_outer (hchild : KeepsBalance child) (g : Grammar V C) (min : Nat)
    (max : Option Nat) (fuel count : Nat) (r r' : Run V C) (count' : Nat)
    (failure : Option (Result V))
    (h : rounds child g min max fuel count r = some (r', count', failure)) :
    r'.session.source = r.session.source ∧ r'.session.frames.tail = r.session.frames.tail := by
  induction fuel generalizing count r with
  | zero => simp [rounds] at h
  | succ fuel ih =>
    unfold rounds at h
    split at h
    · obtain ⟨s, hs, h⟩ := Option.bind_eq_some_iff.1 h
      have hb := hchild g r s hs
      split at h
      · obtain ⟨rfl, -, -⟩ : _ = r' ∧ _ := by simpa using h
        exact ⟨hb.1, by rw [← hb.2]; rfl⟩
      · dsimp only at h
        split at h
        · obtain ⟨rfl, -, -⟩ : _ = r' ∧ _ := by simpa using h
          exact ⟨by simpa using hb.1, by simp [hb.2]⟩
        · have := ih (count + 1) _ h
          exact ⟨by simpa [hb.1] using this.1, by simpa [hb.2] using this.2⟩
    · obtain ⟨rfl, -, -⟩ : r = r' ∧ _ := by simpa using h
      exact ⟨rfl, rfl⟩

theorem conclude_closed (min : Nat) (max : Option Nat) (count : Nat)
    (failure : Option (Result V)) (r : Run V C) :
    Closed r (r.conclude start min max count failure) := by
  unfold conclude Closed
  dsimp only
  split
  · by_cases hm : mayGoOn max 1 <;> simp [hm]
  · simp

theorem repeated_closed (hchild : KeepsBalance child) (g : Grammar V C) (min : Nat)
    (max : Option Nat) (fuel : Nat) (r r' : Run V C)
    (h : Run.repeated child start g min max fuel r = some r') : Closed r r' := by
  obtain ⟨⟨s, count, failure⟩, hs, h⟩ := Option.bind_eq_some_iff.1 h
  obtain rfl := Option.some.inj h
  have ho := rounds_outer hchild g min max fuel 0 r s count failure hs
  exact closed_trans ho.1 ho.2 (conclude_closed start min max count failure s)

/-- A combinator that opens a frame and closes it again keeps the balance. -/
theorem balanced_of_closed {r s : Run V C} (hook : Script V C)
    (h : Closed (r.onSession Session.pushFrame) s) : Balanced r (s.finish hook) := by
  have hf := finish_balanced hook s
  exact ⟨hf.1.trans h.1, hf.2.trans h.2⟩

end Run

/-- Every finished parse leaves the source and the frames as they were. -/
theorem Grammar.parse_balanced (env : Env V C) (fuel : Nat) :
    Run.KeepsBalance (Grammar.parse env fuel) := by
  induction fuel with
  | zero => intro g r r' h; simp [Grammar.parse] at h
  | succ fuel ih =>
    intro g r r' h
    cases g with
    | primitive p hook =>
      obtain rfl := Option.some.inj h
      have hf := Run.finish_balanced hook (r.onSession (Session.scan p))
      have hs : Run.Balanced r (r.onSession (Session.scan p)) := by
        unfold Run.Balanced Session.scan
        simp only [Run.onSession_session]
        split <;> simp
      exact ⟨hf.1.trans hs.1, hf.2.trans hs.2⟩
    | all subs hook =>
      obtain ⟨s, hs, rfl⟩ := Option.map_eq_some_iff.1 h
      exact Run.balanced_of_closed hook (Run.all_closed _ ih _ _ _ _ hs)
    | any subs hook =>
      obtain ⟨s, hs, rfl⟩ := Option.map_eq_some_iff.1 h
      exact Run.balanced_of_closed hook (Run.any_closed _ _ ih _ _ _ _ hs)
    | best subs hook =>
      obtain ⟨s, hs, rfl⟩ := Option.map_eq_some_iff.1 h
      exact Run.balanced_of_closed hook (Run.best_closed _ _ ih _ _ _ _ hs)
    | optional sub hook =>
      obtain ⟨s, hs, rfl⟩ := Option.map_eq_some_iff.1 h
      exact Run.balanced_of_closed hook (Run.optional_closed _ ih _ _ _ hs)
    | repeated sub min max hook =>
      obtain ⟨s, hs, rfl⟩ := Option.map_eq_some_iff.1 h
      exact Run.balanced_of_closed hook (Run.repeated_closed _ ih _ _ _ _ _ _ hs)
    | reference cell owning =>
      simp only [Grammar.parse] at h
      split at h
      · exact ih _ r r' h
      · obtain rfl := Option.some.inj h; constructor <;> simp
      · obtain rfl := Option.some.inj h; constructor <;> simp
    | script body =>
      obtain rfl := Option.some.inj h
      constructor <;> simp [Run.perform]

end Descent

import Descent.Proofs.Balance
import Descent.Proofs.Scanning

/-!
# How far a parse goes

Wherever the cursor is, on a boundary or not, a match ends at or after its
start, and a failure is back at it. A grammar that cannot match the empty text
goes past its start. Hooks that set values, add feedback and reject do not
change this.
-/
namespace Descent

variable {V C : Type}

section Emptiness

/-- Whether a match of the empty text is not ruled out. -/
def Primitive.mayBeEmpty : Primitive → Bool
  | textEnd | regexp .. => true
  | _ => false

namespace Grammar

mutual

/-- Whether a match of the empty text is not ruled out. References and scripts may do
anything. -/
def mayBeEmpty : Grammar V C → Bool
  | primitive p _ => p.mayBeEmpty
  | all subs _ => allMayBeEmpty subs
  | any subs _ | best subs _ => someMayBeEmpty subs
  | optional .. | reference .. | script _ => true
  | repeated sub min _ _ => min == 0 || sub.mayBeEmpty

def allMayBeEmpty : List (Grammar V C) → Bool
  | [] => true
  | g :: gs => g.mayBeEmpty && allMayBeEmpty gs

def someMayBeEmpty : List (Grammar V C) → Bool
  | [] => false
  | g :: gs => g.mayBeEmpty || someMayBeEmpty gs

end

theorem mayBeEmpty_of_some {gs : List (Grammar V C)} (h : someMayBeEmpty gs = false)
    (g : Grammar V C) (hg : g ∈ gs) : g.mayBeEmpty = false := by
  induction gs with
  | nil => cases hg
  | cons g' gs ih =>
    rw [someMayBeEmpty, Bool.or_eq_false_iff] at h
    rcases List.mem_cons.1 hg with rfl | hg
    · exact h.1
    · exact ih h.2 hg

end Grammar

end Emptiness

section Primitives

theorem Primitive.nonemptyMatch_pos (found : List Char) (miss : Miss) (m : Match V)
    (h : nonemptyMatch found miss = .ok m) : 0 < m.length := by
  cases found with
  | nil => simp [nonemptyMatch] at h
  | cons c cs =>
    obtain rfl : _ = m := by simpa [nonemptyMatch] using h
    exact Nat.add_pos_left c.utf8Size_pos _

theorem Primitive.scan_pos (p : Primitive) (hp : p.mayBeEmpty = false) (rest : List Char)
    (m : Match V) (h : p.scan rest = .ok m) : 0 < m.length := by
  cases p with
  | literal mark =>
    simp only [scan] at h
    split at h
    · obtain rfl : _ = m := by simpa using h
      exact mark.size_pos
    · cases h
  | identifier first following => exact nonemptyMatch_pos _ _ m h
  | natural radix =>
    simp only [scan] at h
    split at h
    · cases h
    · next hnonempty =>
      split at h
      · obtain rfl : _ = m := by simpa using h
        refine Nat.pos_of_ne_zero fun hzero => hnonempty ?_
        rw [byteLength_eq_zero.1 hzero, List.isEmpty_nil]
      · cases h
  | blanks newlines => exact nonemptyMatch_pos _ _ m h
  | textEnd => cases hp
  | regexp pattern regex => cases hp
  | lineComment start =>
    simp only [scan] at h
    split at h
    · obtain rfl : _ = m := by simpa using h
      exact Nat.add_pos_left start.size_pos _
    · cases h
  | blockComment start stop =>
    simp only [scan] at h
    split at h
    · split at h
      · obtain rfl : _ = m := by simpa using h
        exact Nat.add_pos_left start.size_pos _
      · cases h
    · cases h

/-- What is left of a text fits behind the cursor, even if that cuts a character. -/
theorem Source.add_byteLength_restFrom_le (source : Source) {p : Nat} (hp : p ≤ source.size) :
    p + byteLength (source.restFrom p) ≤ source.size := by
  cases hrest : dropBytes? p source.chars with
  | none => simpa [restFrom, hrest] using hp
  | some rest =>
    have hboundary : IsBoundary p source.chars := isBoundary_iff.2 (by simp [hrest])
    exact Nat.le_of_eq (source.add_byteLength_restFrom hboundary)

end Primitives

namespace Session

/-- The session after a parse that began at `start`, and that `reads` something if it matches. -/
structure Moved (s : Session V) (start : Nat) (reads : Prop) : Prop where
  position : s.result.position = start
  start_le : start ≤ s.cursor
  le_size : s.cursor ≤ s.source.size
  back : s.result.failed = true → s.cursor = start
  reads : reads → s.result.failed = false → start < s.cursor

variable {s : Session V} {start : Nat} {reads : Prop}

theorem Moved.congr (h : s.Moved start reads) {t : Session V} (hs : t.source = s.source)
    (hc : t.cursor = s.cursor) (hp : t.result.position = s.result.position)
    (he : t.result.errorAt = s.result.errorAt) : t.Moved start reads := by
  obtain ⟨position, start_le, le_size, back, hreads⟩ := h
  rw [← hp] at position
  rw [← hc] at start_le back hreads
  rw [← hc, ← hs] at le_size
  rw [Result.failed, ← he] at back hreads
  exact ⟨position, start_le, le_size, back, hreads⟩

theorem Moved.mono {reads' : Prop} (h : s.Moved start reads) (himp : reads' → reads) :
    s.Moved start reads' :=
  ⟨h.position, h.start_le, h.le_size, h.back, fun hr => h.reads (himp hr)⟩

/-- A failure that is back at its start. -/
theorem moved_of_failed (hs : start ≤ s.source.size) (hp : s.result.position = start)
    (hc : s.cursor = start) (hf : s.result.failed = true) : s.Moved start reads := by
  refine ⟨hp, Nat.le_of_eq hc.symm, hc ▸ hs, fun _ => hc, fun _ hok => ?_⟩
  rw [hf] at hok
  cases hok

variable (reads) in
theorem moved_unmatched (delta : Nat) (message : String) (cause : Option String)
    (h : s.cursor ≤ s.source.size) :
    (s.unmatched delta message cause).Moved s.cursor reads :=
  moved_of_failed (by simpa using h) (by simp) (by simp) (by simp [Result.failed])

variable (reads) in
theorem moved_matched (n : Nat) (hn : s.cursor + n ≤ s.source.size) (hreads : reads → 0 < n) :
    (s.matched n).Moved s.cursor reads := by
  have hcursor : (s.matched n).cursor = s.cursor + n := Nat.min_eq_left hn
  refine ⟨rfl, by omega, Nat.min_le_right _ _, fun hf => ?_, fun hr _ => ?_⟩
  · simp [Result.failed] at hf
  · have := hreads hr
    omega

theorem moved_scan (p : Primitive) (h : s.cursor ≤ s.source.size) :
    (s.scan p).Moved s.cursor (p.mayBeEmpty = false) := by
  unfold scan
  split
  · next found hfound =>
    have hlength := (p.scan_isBoundary s.rest found hfound).le_byteLength
    have hrest : s.cursor + byteLength s.rest ≤ s.source.size :=
      s.source.add_byteLength_restFrom_le h
    have hmatched := moved_matched (s := s) (p.mayBeEmpty = false) found.length (by omega)
      (fun hp => p.scan_pos hp s.rest found hfound)
    exact hmatched.congr rfl rfl rfl rfl
  · exact moved_unmatched _ _ _ _ h

theorem Moved.perform {action : Action V} (hmodest : action.Modest) (h : s.Moved start reads) :
    (action.perform s).Moved start reads := by
  cases action with
  | setValue value => exact h.congr rfl rfl rfl rfl
  | note kind offset message cause =>
    refine h.congr (note_source ..) (note_cursor ..) ?_ ?_ <;> simp [Action.perform]
  | reject message =>
    have hsize := h.le_size
    have hle := h.start_le
    have hcursor : (s.reject message).cursor = start := by
      rw [reject_cursor, h.position]
      omega
    refine moved_of_failed ?_ ?_ hcursor ?_
    · rw [show (Action.reject message).perform s = s.reject message from rfl, reject_source]
      omega
    · simpa [Action.perform] using h.position
    · simp [Action.perform, Result.failed]
  | _ => cases hmodest

theorem Moved.run {script : Script V C} (hmodest : script.Modest) (c : C)
    (h : s.Moved start reads) : (script.run s c).1.Moved start reads := by
  induction script generalizing s c with
  | done => exact h
  | act action next ih => exact ih hmodest.2 c (h.perform hmodest.1)
  | setContext c' next ih => exact ih hmodest c' h
  | look next ih => exact ih _ _ (hmodest _ _) c h
  | locate offset next ih =>
    have hresult := s.locate_result offset
    exact ih _ (hmodest _) c (h.congr (locate_source ..) (locate_cursor ..)
      (congrArg Result.position hresult) (congrArg Result.errorAt hresult))
  | report next ih => exact ih _ (hmodest _) c h

end Session

namespace Run

/-- From any place in the text, the child ends at or after it in the same text. -/
def Advances (child : Runner V C) (g : Grammar V C) (reads : Prop) : Prop :=
  ∀ r r' : Run V C, r.session.cursor ≤ r.session.source.size → child g r = some r' →
    r'.session.source = r.session.source ∧ r'.session.Moved r.session.cursor reads

theorem finish_moved (hook : Script V C) (hmodest : hook.Modest) (r : Run V C) {start : Nat}
    {reads : Prop} (h : r.session.Moved start reads) :
    (r.finish hook).session.Moved start reads := by
  unfold finish
  split
  · exact h.congr rfl rfl rfl rfl
  · exact (h.run hmodest r.context).congr rfl rfl rfl rfl

variable {child : Runner V C} (start n : Nat) {reads : Prop}

section Loops

/-- A row reads something if it has done so, or if one of the children left has to. -/
theorem all_moved (gs : List (Grammar V C))
    (hchild : ∀ g ∈ gs, Advances child g (g.mayBeEmpty = false)) (i : Nat) (r r' : Run V C)
    (hs : start ≤ r.session.cursor) (hc : r.session.cursor ≤ r.session.source.size)
    (h : Run.all child start i gs r = some r') :
    r'.session.source = r.session.source ∧ r'.session.Moved start
      (start < r.session.cursor ∨ Grammar.allMayBeEmpty gs = false) := by
  induction gs generalizing i r with
  | nil =>
    obtain rfl := Option.some.inj h
    have hstart : (r.session.moveTo start).popFrame.cursor = start :=
      Nat.min_eq_left (hs.trans hc)
    have hmatched := Session.moved_matched (s := (r.session.moveTo start).popFrame)
      (start < r.session.cursor) (r.session.cursor - start)
      (by rw [hstart]; simp; omega) (by omega)
    rw [hstart] at hmatched
    refine ⟨rfl, (hmatched.mono ?_).congr rfl rfl rfl rfl⟩
    rintro (hread | hempty)
    · exact hread
    · cases hempty
  | cons g gs ih =>
    obtain ⟨s, hrun, h⟩ := Option.bind_eq_some_iff.1 h
    obtain ⟨hsource, hmoved⟩ := hchild g List.mem_cons_self r s hc hrun
    split at h
    · next hfailed =>
      obtain rfl := Option.some.inj h
      have hsize : start ≤ s.session.source.size := by rw [hsource]; omega
      refine ⟨hsource, Session.moved_of_failed hsize rfl ?_ hfailed⟩
      exact Nat.min_eq_left hsize
    · next hok =>
      have hle := hmoved.start_le
      obtain ⟨hsource', hmoved'⟩ := ih (fun g' hg' => hchild g' (List.mem_cons_of_mem g hg'))
        (i + 1) (s.onSession Session.collect) (by simp; omega) hmoved.le_size h
      refine ⟨hsource'.trans hsource, hmoved'.mono ?_⟩
      have hread := hmoved.reads
      rw [Grammar.allMayBeEmpty, Bool.and_eq_false_iff]
      rintro (hlt | hempty | hrest)
      · exact Or.inl (by simp; omega)
      · have hlt := hread hempty (Bool.eq_false_iff.2 hok)
        exact Or.inl (by simp; omega)
      · exact Or.inr hrest

theorem giveUp_moved (message : String) (items : List Feedback.Item) (s : Session V)
    (hs : start ≤ s.source.size) :
    (((s.moveTo start).unmatched 0 message none).addFeedback items).Moved start reads := by
  have hstart : (s.moveTo start).cursor = start := Nat.min_eq_left hs
  have hmoved := Session.moved_unmatched (s := s.moveTo start) reads 0 message none
    (by rw [hstart]; exact hs)
  rw [hstart] at hmoved
  exact hmoved.congr rfl rfl rfl rfl

/-- A child that is run from the start of its combinator. -/
theorem Advances.from_start {g : Grammar V C} (hchild : Advances child g reads) (r s : Run V C)
    (hs : start ≤ r.session.source.size)
    (h : child g (r.onSession (Session.moveTo start)) = some s) :
    s.session.source = r.session.source ∧ s.session.Moved start reads := by
  have hstart : (r.session.moveTo start).cursor = start := Nat.min_eq_left hs
  obtain ⟨hsource, hmoved⟩ := hchild (r.onSession (Session.moveTo start)) s
    (by rw [onSession_session, hstart]; exact hs) h
  rw [onSession_session, hstart] at hmoved
  exact ⟨hsource, hmoved⟩

theorem any_moved (gs : List (Grammar V C)) (hchild : ∀ g ∈ gs, Advances child g reads) (i : Nat)
    (r r' : Run V C) (hs : start ≤ r.session.source.size)
    (h : Run.any child start n i gs r = some r') :
    r'.session.source = r.session.source ∧ r'.session.Moved start reads := by
  induction gs generalizing i r with
  | nil =>
    obtain rfl := Option.some.inj h
    exact ⟨by simp, giveUp_moved start _ _ r.session.popFrame hs⟩
  | cons g gs ih =>
    obtain ⟨s, hrun, h⟩ := Option.bind_eq_some_iff.1 h
    obtain ⟨hsource, hmoved⟩ := (hchild g List.mem_cons_self).from_start start r s hs hrun
    split at h
    · obtain ⟨hsource', hmoved'⟩ := ih (fun g' hg' => hchild g' (List.mem_cons_of_mem g hg'))
        (i + 1) (s.onSession Session.collect) (by simpa [hsource] using hs) h
      exact ⟨hsource'.trans hsource, hmoved'⟩
    · obtain rfl := Option.some.inj h
      exact ⟨hsource, hmoved.congr rfl rfl rfl rfl⟩

/-- The best match so far is what some child has left. -/
theorem best_moved (gs : List (Grammar V C)) (hchild : ∀ g ∈ gs, Advances child g reads)
    (found : Option (Nat × Result V)) (r r' : Run V C) (hs : start ≤ r.session.source.size)
    (hfound : ∀ stop result, found = some (stop, result) → ∃ s : Session V,
      s.source = r.session.source ∧ s.cursor = stop ∧ s.result = result ∧ s.Moved start reads)
    (h : Run.best child start n found gs r = some r') :
    r'.session.source = r.session.source ∧ r'.session.Moved start reads := by
  induction gs generalizing found r with
  | nil =>
    cases found with
    | none =>
      obtain rfl := Option.some.inj h
      exact ⟨by simp, giveUp_moved start _ _ r.session.popFrame hs⟩
    | some found =>
      obtain rfl := Option.some.inj h
      obtain ⟨s, hsource, hstop, hresult, hmoved⟩ := hfound found.1 found.2 rfl
      have hsize := hmoved.le_size
      rw [hsource, hstop] at hsize
      exact ⟨rfl, hmoved.congr hsource.symm ((Nat.min_eq_left hsize).trans hstop.symm)
        (congrArg _ hresult.symm) (congrArg _ hresult.symm)⟩
  | cons g gs ih =>
    have hrest := fun g' hg' => hchild g' (List.mem_cons_of_mem g hg')
    obtain ⟨s, hrun, h⟩ := Option.bind_eq_some_iff.1 h
    obtain ⟨hsource, hmoved⟩ := (hchild g List.mem_cons_self).from_start start r s hs hrun
    have hs' : start ≤ s.session.source.size := by rwa [hsource]
    rw [← hsource] at hfound
    split at h
    · obtain ⟨hsource', hmoved'⟩ :=
        ih hrest found (s.onSession Session.collect) hs' hfound h
      exact ⟨hsource'.trans hsource, hmoved'⟩
    · have hfound' := further_keeps (P := fun stop result => ∃ t : Session V,
        t.source = s.session.source ∧ t.cursor = stop ∧ t.result = result ∧ t.Moved start reads)
        hfound ⟨s.session, rfl, rfl, rfl, hmoved⟩
      obtain ⟨hsource', hmoved'⟩ :=
        ih hrest _ (s.onSession fun s => { s with result := {} }) hs' hfound' h
      exact ⟨hsource'.trans hsource, hmoved'⟩

theorem optional_moved (g : Grammar V C) (hchild : Advances child g reads) (r r' : Run V C)
    (hc : r.session.cursor ≤ r.session.source.size)
    (h : Run.optional child r.session.cursor g r = some r') :
    r'.session.source = r.session.source ∧ r'.session.Moved r.session.cursor False := by
  obtain ⟨s, hrun, h⟩ := Option.bind_eq_some_iff.1 h
  obtain ⟨hsource, hmoved⟩ := hchild r s hc hrun
  dsimp only at h
  split at h
  · obtain rfl := Option.some.inj h
    have hcursor : min r.session.cursor s.session.source.size = r.session.cursor := by
      rw [hsource]
      exact Nat.min_eq_left hc
    refine ⟨hsource, rfl, Nat.le_of_eq hcursor.symm, ?_, fun _ => hcursor, False.elim⟩
    exact Nat.min_le_right _ _
  · obtain rfl := Option.some.inj h
    exact ⟨hsource, (hmoved.mono False.elim).congr rfl rfl rfl rfl⟩

theorem rounds_moved (g : Grammar V C) (hchild : Advances child g reads) (min : Nat)
    (max : Option Nat) (fuel count : Nat) (r r' : Run V C) (count' : Nat)
    (failure : Option (Result V)) (hc : r.session.cursor ≤ r.session.source.size)
    (h : rounds child g min max fuel count r = some (r', count', failure)) :
    r'.session.source = r.session.source ∧ r.session.cursor ≤ r'.session.cursor ∧
      r'.session.cursor ≤ r'.session.source.size ∧
      (reads → count < count' → r.session.cursor < r'.session.cursor) := by
  induction fuel generalizing count r with
  | zero => cases h
  | succ fuel ih =>
    unfold rounds at h
    split at h
    · obtain ⟨s, hrun, h⟩ := Option.bind_eq_some_iff.1 h
      obtain ⟨hsource, hmoved⟩ := hchild r s hc hrun
      split at h
      · obtain ⟨rfl, rfl, -⟩ : _ = r' ∧ count = count' ∧ _ := by simpa using h
        exact ⟨hsource, hmoved.start_le, hmoved.le_size, fun _ hlt => absurd hlt (Nat.lt_irrefl _)⟩
      · next hok =>
        have hread := fun hr => hmoved.reads hr (Bool.eq_false_iff.2 hok)
        dsimp only at h
        split at h
        · obtain ⟨rfl, rfl, -⟩ : _ = r' ∧ count + 1 = count' ∧ _ := by simpa using h
          exact ⟨hsource, hmoved.start_le, hmoved.le_size, fun hr _ => hread hr⟩
        · obtain ⟨hsource', hle, hsize, -⟩ :=
            ih (count + 1) (s.onSession Session.collect) hmoved.le_size h
          have hstart := hmoved.start_le
          simp only [onSession_session, Session.collect_cursor] at hle
          refine ⟨hsource'.trans hsource, by omega, hsize, fun hr _ => ?_⟩
          have := hread hr
          omega
    · obtain ⟨rfl, rfl, -⟩ : r = r' ∧ count = count' ∧ _ := by simpa using h
      exact ⟨rfl, Nat.le_refl _, hc, fun _ hlt => absurd hlt (Nat.lt_irrefl _)⟩

theorem conclude_moved (min : Nat) (max : Option Nat) (count : Nat) (failure : Option (Result V))
    (r : Run V C) (hs : start ≤ r.session.cursor)
    (hc : r.session.cursor ≤ r.session.source.size)
    (hreads : reads → min ≤ count → start < r.session.cursor) :
    (r.conclude start min max count failure).session.Moved start reads := by
  have hstart : (r.session.moveTo start).popFrame.cursor = start :=
    Nat.min_eq_left (hs.trans hc)
  unfold conclude
  dsimp only
  split
  · next hmin =>
    have hmatched := Session.moved_matched (s := (r.session.moveTo start).popFrame)
      reads (r.session.cursor - start) (by rw [hstart]; simp; omega)
      (fun hr => Nat.sub_pos_of_lt (hreads hr hmin))
    rw [hstart] at hmatched
    simp only [onSession_session, emit_session]
    split
    · exact hmatched.congr rfl rfl rfl rfl
    · cases r.session.collected <;> exact hmatched.congr rfl rfl rfl rfl
  · have hmoved := Session.moved_unmatched (s := (r.session.moveTo start).popFrame)
      reads (r.session.cursor - start)
      s!"at least {min} matches expected but got only {count}" none
      (by rw [hstart]; exact hs.trans hc)
    rw [hstart] at hmoved
    exact hmoved.congr rfl rfl rfl rfl

theorem repeated_moved (g : Grammar V C) (hchild : Advances child g reads) (min : Nat)
    (max : Option Nat) (fuel : Nat) (r r' : Run V C)
    (hc : r.session.cursor ≤ r.session.source.size)
    (h : Run.repeated child r.session.cursor g min max fuel r = some r') :
    r'.session.source = r.session.source ∧
      r'.session.Moved r.session.cursor (min ≠ 0 ∧ reads) := by
  obtain ⟨⟨s, count, failure⟩, hs, h⟩ := Option.bind_eq_some_iff.1 h
  obtain rfl := Option.some.inj h
  obtain ⟨hsource, hle, hsize, hread⟩ :=
    rounds_moved g hchild min max fuel 0 r s count failure hc hs
  refine ⟨(conclude_closed _ min max count failure s).1.trans hsource, ?_⟩
  refine conclude_moved _ min max count failure s hle hsize ?_
  rintro ⟨hmin, hr⟩ hcount
  exact hread hr (by omega)

end Loops

end Run

/-- A parse goes on from its start or comes back to it, and goes on for sure when it matches with
a grammar that cannot match the empty text. -/
theorem Grammar.parse_advances (env : Env V C) (henv : HookedEnv Script.Modest env) (fuel : Nat)
    (g : Grammar V C) (hg : g.HookedBy Script.Modest) :
    Run.Advances (Grammar.parse env fuel) g (g.mayBeEmpty = false) := by
  induction fuel generalizing g with
  | zero => intro r r' _ h; cases h
  | succ fuel ih =>
    intro r r' hc h
    refine ⟨(Grammar.parse_balanced env (fuel + 1) g r r' h).1, ?_⟩
    have hsubs : ∀ subs : List (Grammar V C), (∀ g ∈ subs, g.HookedBy Script.Modest) →
        ∀ g ∈ subs, Run.Advances (Grammar.parse env fuel) g
          (Grammar.someMayBeEmpty subs = false) := by
      intro subs hooked g hg r r' hc h
      obtain ⟨hsource, hmoved⟩ := ih g (hooked g hg) r r' hc h
      exact ⟨hsource, hmoved.mono fun hsome => Grammar.mayBeEmpty_of_some hsome g hg⟩
    cases hg with
    | primitive p hook hmodest =>
      obtain rfl := Option.some.inj h
      exact Run.finish_moved hook hmodest _ (Session.moved_scan p hc)
    | all subs hook hooked hmodest =>
      obtain ⟨s, hs, rfl⟩ := Option.map_eq_some_iff.1 h
      obtain ⟨-, hmoved⟩ := Run.all_moved r.session.cursor subs (fun g hg => ih g (hooked g hg)) 0
        (r.onSession Session.pushFrame) s (Nat.le_refl _) hc hs
      exact Run.finish_moved hook hmodest s (hmoved.mono Or.inr)
    | any subs hook hooked hmodest =>
      obtain ⟨s, hs, rfl⟩ := Option.map_eq_some_iff.1 h
      obtain ⟨-, hmoved⟩ := Run.any_moved
        r.session.cursor subs.length subs (hsubs subs hooked) 0 (r.onSession Session.pushFrame) s
        hc hs
      exact Run.finish_moved hook hmodest s hmoved
    | best subs hook hooked hmodest =>
      obtain ⟨s, hs, rfl⟩ := Option.map_eq_some_iff.1 h
      obtain ⟨-, hmoved⟩ := Run.best_moved
        r.session.cursor subs.length subs (hsubs subs hooked) none (r.onSession Session.pushFrame)
        s hc (fun stop result hnone => by cases hnone) hs
      exact Run.finish_moved hook hmodest s hmoved
    | optional sub hook hooked hmodest =>
      obtain ⟨s, hs, rfl⟩ := Option.map_eq_some_iff.1 h
      obtain ⟨-, hmoved⟩ := Run.optional_moved sub (ih sub hooked) (r.onSession Session.pushFrame)
        s hc hs
      exact Run.finish_moved hook hmodest s (hmoved.mono fun hempty => by cases hempty)
    | repeated sub min max hook hooked hmodest =>
      obtain ⟨s, hs, rfl⟩ := Option.map_eq_some_iff.1 h
      obtain ⟨-, hmoved⟩ := Run.repeated_moved sub (ih sub hooked) min max fuel
        (r.onSession Session.pushFrame) s hc hs
      refine Run.finish_moved hook hmodest s (hmoved.mono fun hempty => ?_)
      simpa [Grammar.mayBeEmpty] using hempty
    | reference cell owning =>
      have hanything : ¬(Grammar.reference cell owning : Grammar V C).mayBeEmpty = false := by
        simp [Grammar.mayBeEmpty]
      simp only [Grammar.parse] at h
      split at h
      · next target hbound =>
        exact (ih target (henv cell target hbound) r r' hc h).2.mono fun hempty =>
          absurd hempty hanything
      · obtain rfl := Option.some.inj h
        exact Session.moved_unmatched _ 0 _ none hc
      · obtain rfl := Option.some.inj h
        exact Session.moved_unmatched _ 0 _ none hc

end Descent

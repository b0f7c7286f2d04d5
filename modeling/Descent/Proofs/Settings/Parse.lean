import Descent.Proofs.Refinement
import Descent.Proofs.Settings.Evaluation
import Descent.Proofs.Termination
import Descent.Settings.Parse

/-!
# Parsing settings is scanning them

The settings grammar ends on every text, and its run comes to the evaluation
of the grammar. So a text is accepted when the scan over its items reaches the
end, and the settings are the entries that the scan has seen.
-/
namespace Descent

namespace Settings

theorem valueHook_pure (f : Result SettingValue → Option SettingValue) :
    Script.Pure (valueHook f) := by
  refine ⟨fun v _ => ?_, fun v v' _ hresult _ => by dsimp only; rw [hresult], fun v _ => ?_⟩
  · dsimp only
    split
    · exact ⟨trivial, trivial⟩
    · trivial
  · dsimp only
    split <;> trivial

theorem addEntry_pure (key : Result SettingValue) (value : SettingValue)
    (settings : List Setting) : Script.Pure (addEntry key value settings) := by
  unfold addEntry Script.Pure
  dsimp only
  split <;> simp [Script.ActsBy, Action.Modest, Script.Local]

theorem collectEntry_pure : Script.Pure collectEntry := by
  refine ⟨fun v settings => ?_, fun v v' _ _ hsubs => by dsimp only; rw [hsubs],
    fun v settings => ?_⟩
  · dsimp only
    split
    · exact (addEntry_pure _ _ _).1
    · trivial
  · dsimp only
    split
    · exact (addEntry_pure _ _ _).2
    · trivial

variable (radix : Radix) (newlines : Bool) (comment : Mark)

section Hooks

variable {P : Hook → Prop} (hdone : P .done) (hvalue : ∀ f, P (valueHook f))
  (hentry : P collectEntry)

include hdone hvalue in
theorem value_hookedBy : (value radix).HookedBy P := by
  refine .best _ _ ?_ hdone
  simp only [List.forall_mem_cons, List.not_mem_nil, false_implies, implies_true, and_true]
  exact ⟨.primitive _ _ (hvalue _), .primitive _ _ (hvalue _), .primitive _ _ (hvalue _)⟩

include hdone in
theorem gap_hookedBy : (gap newlines).HookedBy P :=
  .optional _ _ (.primitive _ _ hdone) hdone

include hdone hvalue hentry

theorem entry_hookedBy : (entry radix newlines).HookedBy P := by
  have hgap := gap_hookedBy newlines hdone
  refine .all _ _ ?_ hentry
  simp only [List.forall_mem_cons, List.not_mem_nil, false_implies, implies_true, and_true]
  exact ⟨.primitive _ _ hdone, hgap, .primitive _ _ hdone, hgap,
    value_hookedBy radix hdone hvalue, hgap⟩

theorem item_hookedBy : (item radix newlines comment).HookedBy P := by
  refine .any _ _ ?_ hdone
  simp only [List.forall_mem_cons, List.not_mem_nil, false_implies, implies_true, and_true]
  exact ⟨.primitive _ _ hdone, .primitive _ _ hdone, .primitive _ _ hdone,
    entry_hookedBy radix newlines hdone hvalue hentry⟩

theorem file_hookedBy : (file radix newlines comment).HookedBy P := by
  have hend : Grammar.HookedBy P
      (.any [.primitive .textEnd .done, entry radix newlines] .done) := by
    refine .any _ _ ?_ hdone
    simp only [List.forall_mem_cons, List.not_mem_nil, false_implies, implies_true, and_true]
    exact ⟨.primitive _ _ hdone, entry_hookedBy radix newlines hdone hvalue hentry⟩
  refine .all _ _ ?_ hdone
  simp only [List.forall_mem_cons, List.not_mem_nil, false_implies, implies_true, and_true]
  exact ⟨.repeated _ _ _ _ (item_hookedBy radix newlines comment hdone hvalue hentry) hdone, hend⟩

end Hooks

theorem file_pure : (file radix newlines comment).HookedBy Script.Pure :=
  file_hookedBy radix newlines comment ⟨trivial, trivial⟩ valueHook_pure collectEntry_pure

theorem noCells_hookedBy (P : Hook → Prop) : HookedEnv P noCells := by
  intro cell g hg
  cases hg

theorem file_nests : (file radix newlines comment).Nests 6 := by
  have hgap : ∀ depth, (gap newlines).Nests (depth + 2) :=
    fun depth => .optional _ _ _ (.primitive depth _ _)
  have hvalue : ∀ depth, (value radix).Nests (depth + 2) := by
    intro depth
    refine .best _ _ _ ?_
    simp only [List.forall_mem_cons, List.not_mem_nil, false_implies, implies_true, and_true]
    exact ⟨.primitive _ _ _, .primitive _ _ _, .primitive _ _ _⟩
  have hentry : ∀ depth, (entry radix newlines).Nests (depth + 3) := by
    intro depth
    refine .all _ _ _ ?_
    simp only [List.forall_mem_cons, List.not_mem_nil, false_implies, implies_true, and_true]
    exact ⟨.primitive _ _ _, hgap _, .primitive _ _ _, hgap _, hvalue _, hgap _⟩
  have hitem : (item radix newlines comment).Nests 4 := by
    refine .any _ _ _ ?_
    simp only [List.forall_mem_cons, List.not_mem_nil, false_implies, implies_true, and_true]
    exact ⟨.primitive _ _ _, .primitive _ _ _, .primitive _ _ _, hentry 0⟩
  have hend : Grammar.Nests 5
      (.any [.primitive .textEnd .done, entry radix newlines] .done : Parser) := by
    refine .any _ _ _ ?_
    simp only [List.forall_mem_cons, List.not_mem_nil, false_implies, implies_true, and_true]
    exact ⟨.primitive _ _ _, hentry 1⟩
  refine .all _ _ _ ?_
  simp only [List.forall_mem_cons, List.not_mem_nil, false_implies, implies_true, and_true]
  exact ⟨.repeated _ _ _ _ _ hitem (by omega), hend⟩

/-- With fuel for the text, the run of a settings grammar ends, and comes to the evaluation of the
grammar. -/
theorem file_run (fuel : Nat) (r : Run SettingValue (List Setting)) (hr : r.session.Ready)
    (hfuel : 6 + r.session.source.size ≤ fuel) :
    ∃ r', (file radix newlines comment).parse noCells fuel r = some r' ∧
      Grammar.eval noCells fuel r.session.source (file radix newlines comment) r.session.cursor
        r.context = some r'.outcome ∧ Run.Balanced r r' := by
  have hkeeps : (file radix newlines comment).HookedBy Script.Modest :=
    (file_pure radix newlines comment).mono fun hook hp => hp.1
  obtain ⟨r', hrun⟩ := (Grammar.parse_ends noCells (noCells_hookedBy _) r.session.source 6 fuel
    hfuel _ (file_nests radix newlines comment) hkeeps).ends r rfl hr.boundary
  obtain ⟨heval, -, hbalanced, -⟩ := (Grammar.parse_refines noCells (noCells_hookedBy _) fuel _
    (file_pure radix newlines comment)).run (Grammar.parse_balanced noCells fuel) hr hrun
  exact ⟨r', hrun, heval, hbalanced⟩

theorem start_ready (source : Source) (offset : Nat) (hc : IsBoundary offset source.chars) :
    (start source offset).session.Ready ∧ (start source offset).session.cursor = offset := by
  have hmin : min offset source.size = offset := Nat.min_eq_left (source.le_size hc)
  have hready := Session.ready_fresh (V := SettingValue) source offset hc
  rw [start, Session.moveTo, hmin]
  exact ⟨hready, rfl⟩

/-- The run from an offset on comes to the evaluation of the grammar there. -/
theorem runFrom_eval (source : Source) (offset : Nat) (hc : IsBoundary offset source.chars) :
    Grammar.eval noCells (fuel source) source (file radix newlines comment) offset [] =
      some ⟨(runFrom (file radix newlines comment) source offset).session.result,
        (runFrom (file radix newlines comment) source offset).session.cursor,
        (runFrom (file radix newlines comment) source offset).context⟩ := by
  obtain ⟨hready, hcursor⟩ := start_ready source offset hc
  have hfuel : 6 + (start source offset).session.source.size ≤ fuel source := by
    show 6 + source.size ≤ source.size + 16
    omega
  obtain ⟨r', hrun, heval, -⟩ :=
    file_run radix newlines comment (fuel source) (start source offset) hready hfuel
  have hrunFrom : runFrom (file radix newlines comment) source offset = r' :=
    congrArg (·.getD (start source offset)) hrun
  rw [hcursor] at heval
  rw [hrunFrom]
  exact heval

section Reports

variable {s : Session SettingValue}

theorem report_of_failed (h : s.result.failed = true) : ∃ d, s.report.error = some d := by
  obtain ⟨offset, hoffset⟩ := Option.isSome_iff_exists.1 h
  unfold Session.report
  dsimp only
  rw [hoffset]
  cases (Feedback.split s.result.feedback).2 <;> exact ⟨_, rfl⟩

theorem report_of_matched (h : s.result.errorAt = none)
    (hfeedback : ∀ item ∈ s.result.feedback, item.isError = false) : s.report.error = none := by
  have hsplit : (Feedback.split s.result.feedback).2 = none := by
    have hnil : s.result.feedback.filter Feedback.Item.isError = [] :=
      List.filter_eq_nil_iff.2 fun item hitem => by simp [hfeedback item hitem]
    unfold Feedback.split
    rw [hnil]
    rfl
  unfold Session.report
  dsimp only
  rw [hsplit, h]
  rfl

theorem notices_not_error (source : Source) (before settings : List Setting) :
    ∀ item ∈ notices source before settings, item.isError = false := by
  induction settings generalizing before with
  | nil => simp [notices]
  | cons setting settings ih =>
    intro item hitem
    rcases List.mem_append.1 hitem with h | h
    · unfold notice at h
      split at h
      · obtain rfl := List.mem_singleton.1 h
        rfl
      · cases h
    · exact ih _ item h

end Reports

/-- Options under which there is a grammar. -/
def Options.Valid (o : Options) : Prop := 2 ≤ o.radix ∧ o.radix ≤ 36 ∧ o.comment ≠ ""

instance (o : Options) : Decidable o.Valid := inferInstanceAs (Decidable (_ ∧ _ ∧ _))

theorem Options.Valid.grammar {o : Options} (h : o.Valid) :
    ∃ radix comment, radix.base = o.radix ∧ Mark.ofString? o.comment = some comment ∧
      Settings.grammar o = .ok (file radix o.newlineIsBlank comment) := by
  have hradix : Radix.ofNat? o.radix = some ⟨o.radix, h.1, h.2.1⟩ := dif_pos ⟨h.1, h.2.1⟩
  have hmark : Mark.ofString? o.comment = some ⟨o.comment, h.2.2⟩ := dif_neg h.2.2
  refine ⟨⟨o.radix, h.1, h.2.1⟩, ⟨o.comment, h.2.2⟩, rfl, hmark, ?_⟩
  unfold Settings.grammar
  rw [hradix, hmark]

theorem valid_of_grammar {o : Options} {p : Parser} (h : grammar o = .ok p) : o.Valid := by
  unfold grammar at h
  split at h
  · next radix comment hradix hcomment =>
    obtain ⟨hbounds, -⟩ := Option.dite_none_right_eq_some.1 hradix
    obtain ⟨hne, -⟩ := Option.dite_none_left_eq_some.1 hcomment
    exact ⟨hbounds.1, hbounds.2, hne⟩
  · cases h
  · cases h

/-- A text is accepted when the scan over its items reaches the end, and then the settings are
the entries of the scan. -/
theorem parse_eq_scan (o : Options) (h : o.Valid) (source : Source) :
    ((∃ p, parse o source = .ok p) ↔ (scan o 0 source.chars).2 = []) ∧
      ∀ p, parse o source = .ok p → p.settings = (scan o 0 source.chars).1 := by
  obtain ⟨radix, comment, hradix, hmark, hgrammar⟩ := h.grammar
  have hparse : parse o source =
      conclude (runFrom (file radix o.newlineIsBlank comment) source 0) := by
    unfold parse
    rw [hgrammar]
    rfl
  have heval := runFrom_eval radix o.newlineIsBlank comment source 0 (isBoundary_zero _)
  generalize runFrom (file radix o.newlineIsBlank comment) source 0 = r at hparse heval
  have hsize : byteLength source.chars ≤ source.size + 10 := by
    rw [← source.size_eq]
    omega
  by_cases hend : (scan o 0 source.chars).2 = []
  · obtain ⟨result, stop, heval', herror, hfeedback⟩ :=
      file_eval (n := source.size + 10) [] source.at_zero hradix hmark hsize hend
    obtain ⟨rfl, -, hcontext⟩ : _ ∧ _ ∧ _ := by
      simpa only [Option.some.injEq, Outcome.mk.injEq] using heval'.symm.trans heval
    have hreport := report_of_matched herror (by
      rw [hfeedback]
      exact notices_not_error source [] _)
    rw [hparse, conclude, hreport]
    refine ⟨⟨fun _ => hend, fun _ => ⟨_, rfl⟩⟩, ?_⟩
    intro p hp
    obtain rfl := Except.ok.inj hp
    exact hcontext.symm
  · obtain ⟨failure, hfailed, heval'⟩ :=
      file_fails (n := source.size + 10) [] source.at_zero hradix hmark hsize hend
    obtain ⟨rfl, -, -⟩ : _ ∧ _ ∧ _ := by
      simpa only [Option.some.injEq, Outcome.mk.injEq] using heval'.symm.trans heval
    obtain ⟨d, hreport⟩ := report_of_failed hfailed
    rw [hparse, conclude, hreport]
    refine ⟨⟨?_, fun h => absurd h hend⟩, ?_⟩
    · rintro ⟨p, hp⟩
      cases hp
    · intro p hp
      cases hp

/-- Comments are passed over, and a key that comes twice gives two entries. -/
theorem parse_eq_scan_twice :
    ∃ p, parse {} ⟨"twice", "# one\nkey = 1 /* two */ other=\"q\"\nkey = w"⟩ = .ok p ∧
      p.settings =
        [⟨"key", .number 1, 6⟩, ⟨"other", .quoted "q", 24⟩, ⟨"key", .word "w", 34⟩] := by
  have hscan : scan {} 0 "# one\nkey = 1 /* two */ other=\"q\"\nkey = w".toList =
      ([⟨"key", .number 1, 6⟩, ⟨"other", .quoted "q", 24⟩, ⟨"key", .word "w", 34⟩], []) := by
    decide +kernel
  obtain ⟨haccepts, hsettings⟩ := parse_eq_scan {} (by decide)
    ⟨"twice", "# one\nkey = 1 /* two */ other=\"q\"\nkey = w"⟩
  obtain ⟨p, hp⟩ := haccepts.2 (congrArg Prod.snd hscan)
  exact ⟨p, hp, (hsettings p hp).trans (congrArg Prod.fst hscan)⟩

end Settings

end Descent

import Descent.Proofs.Settings.Parse

/-!
# Accepted settings texts

A text is accepted exactly when the scan over its items reaches the end. What
it gives is the entries of the scan and the text of the warnings about them.
-/
namespace Descent

namespace Settings

section Conclusions

variable {r : Run SettingValue (List Setting)}

theorem conclude_matched (h : r.session.result.errorAt = none)
    (hfeedback : ∀ item ∈ r.session.result.feedback, item.isError = false) :
    conclude r = .ok ⟨r.context, Feedback.displayAll r.session.result.feedback⟩ := by
  have hinfo : r.session.report.info = Feedback.displayAll r.session.result.feedback := by
    have hself : r.session.result.feedback.filter (fun item => !item.isError) =
        r.session.result.feedback :=
      List.filter_eq_self.2 fun item hitem => by simp [hfeedback item hitem]
    show Feedback.displayAll (r.session.result.feedback.filter fun item => !item.isError) = _
    rw [hself]
  rw [conclude, report_of_matched h hfeedback, hinfo]

theorem conclude_failed (h : r.session.result.failed = true) :
    ∃ d, conclude r = .error (.parse d) := by
  obtain ⟨d, hd⟩ := report_of_failed h
  exact ⟨d, by rw [conclude, hd]⟩

end Conclusions

/-- Parsing a text concludes a run that comes to the evaluation of the grammar. -/
theorem parse_eq_conclude {o : Options} (h : o.Valid) (source : Source) :
    ∃ radix comment r, radix.base = o.radix ∧ Mark.ofString? o.comment = some comment ∧
      parse o source = conclude r ∧
      Grammar.eval noCells (fuel source) source (file radix o.newlineIsBlank comment) 0 [] =
        some r.outcome := by
  obtain ⟨radix, comment, hradix, hmark, hgrammar⟩ := h.grammar
  refine ⟨radix, comment, runFrom (file radix o.newlineIsBlank comment) source 0, hradix, hmark, ?_,
    runFrom_eval radix o.newlineIsBlank comment source 0 (isBoundary_zero _)⟩
  rw [parse, hgrammar]
  rfl

/-- What an accepted text gives. -/
def accepted (o : Options) (source : Source) : Parsed :=
  ⟨(scan o 0 source.chars).1,
    Feedback.displayAll (notices source [] (scan o 0 source.chars).1)⟩

theorem parse_of_scan {o : Options} (h : o.Valid) (source : Source)
    (hend : (scan o 0 source.chars).2 = []) : parse o source = .ok (accepted o source) := by
  obtain ⟨radix, comment, r, hradix, hmark, hparse, heval⟩ := parse_eq_conclude h source
  have hsize : byteLength source.chars ≤ source.size + 10 := by
    rw [← source.size_eq]
    omega
  obtain ⟨result, stop, heval', herror, hfeedback⟩ :=
    file_eval (n := source.size + 10) [] source.at_zero hradix hmark hsize hend
  obtain ⟨rfl, -, hcontext⟩ : _ ∧ _ ∧ _ := by
    simpa only [Run.outcome, Option.some.injEq, Outcome.mk.injEq] using heval'.symm.trans heval
  have hnotices := notices_not_error source [] (scan o 0 source.chars).1
  rw [← hfeedback] at hnotices
  rw [hparse, conclude_matched herror hnotices, ← hcontext, hfeedback]
  rfl

theorem parse_of_scan_left {o : Options} (h : o.Valid) (source : Source)
    (hend : (scan o 0 source.chars).2 ≠ []) : ∃ d, parse o source = .error (.parse d) := by
  obtain ⟨radix, comment, r, hradix, hmark, hparse, heval⟩ := parse_eq_conclude h source
  have hsize : byteLength source.chars ≤ source.size + 10 := by
    rw [← source.size_eq]
    omega
  obtain ⟨failure, hfailed, heval'⟩ :=
    file_fails (n := source.size + 10) [] source.at_zero hradix hmark hsize hend
  obtain ⟨rfl, -, -⟩ : _ ∧ _ ∧ _ := by
    simpa only [Run.outcome, Option.some.injEq, Outcome.mk.injEq] using heval'.symm.trans heval
  obtain ⟨d, hd⟩ := conclude_failed hfailed
  exact ⟨d, hparse.trans hd⟩

/-- A text is accepted when the scan reaches the end, and only then. -/
theorem parse_ok_iff {o : Options} (h : o.Valid) {source : Source} {p : Parsed} :
    parse o source = .ok p ↔ (scan o 0 source.chars).2 = [] ∧ p = accepted o source := by
  constructor
  · intro hp
    by_cases hend : (scan o 0 source.chars).2 = []
    · exact ⟨hend, Except.ok.inj (hp.symm.trans (parse_of_scan h source hend))⟩
    · obtain ⟨d, hd⟩ := parse_of_scan_left h source hend
      cases hp.symm.trans hd
  · rintro ⟨hend, rfl⟩
    exact parse_of_scan h source hend

end Settings

end Descent

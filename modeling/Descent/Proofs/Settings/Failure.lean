import Descent.Proofs.Settings.Parse

/-!
# Where a settings text goes wrong

A settings grammar fails exactly where the scan over the items of the text
stops before the end. The failure tells that place and what is missing there;
the entries before it stay in the context, and nothing else is left of them.
-/
namespace Descent

namespace Settings

/-- A run that has failed before `left`, at the offset `stop`, after some entries. -/
structure StopsBefore (o : Options) (r r' : Run SettingValue (List Setting))
    (entries : List Setting) (stop : Nat) (left : List Char) : Prop where
  place : r.session.source.At stop left
  noItem : itemAt? o stop left = none
  errorAt : r'.session.result.errorAt = some stop
  cursor : r'.session.cursor = r.session.cursor
  position : r'.session.result.position = r.session.cursor
  text : r'.session.result.text = ""
  frames : r'.session.frames = r.session.frames
  /-- The entries before the fault are added, and that is all. -/
  context : r'.context = r.context ++ entries
  /-- The errors about the text that is left come before those about the part of an entry that is
  missing. -/
  feedback : ∃ distance part, missing? o left = some (distance, part) ∧
    r'.session.result.feedback =
      r.session.source.item .error stop "any subparser should match; all 2 failed" none ::
        r.session.source.item .error stop
          s!"expecting end of input but still got {byteLength left} bytes" none ::
            part.errors r.session.source (stop + distance)
  errors : ∀ item ∈ r'.session.result.feedback, item.kind = .error

theorem stopsBefore_of_missed {o : Options} {r r' : Run SettingValue (List Setting)}
    {entries : List Setting} {stop : Nat} {left : List Char}
    (hplace : r.session.source.At stop left) (hitem : itemAt? o stop left = none)
    (hframes : r'.session.frames = r.session.frames)
    (houtcome : r'.outcome = missed r.session.cursor stop
      (leftover o r.session.source stop left) (r.context ++ entries)) :
    StopsBefore o r r' entries stop left := by
  have hresult := congrArg Outcome.result houtcome
  have hfeedback : r'.session.result.feedback = leftover o r.session.source stop left :=
    congrArg Result.feedback hresult
  obtain ⟨-, -, -, hentry⟩ := itemAt?_eq_none_iff.1 hitem
  obtain ⟨⟨distance, part⟩, hmissing⟩ := Option.isSome_iff_exists.1 (entryAt?_eq_none_iff.1 hentry)
  constructor
  case place => exact hplace
  case noItem => exact hitem
  case errorAt => exact congrArg Result.errorAt hresult
  case cursor => exact congrArg Outcome.cursor houtcome
  case position => exact congrArg Result.position hresult
  case text => exact congrArg Result.text hresult
  case frames => exact hframes
  case context => exact congrArg Outcome.context houtcome
  case feedback =>
    refine ⟨distance, part, hmissing, ?_⟩
    rw [hfeedback, leftover, hmissing]
    rfl
  case errors =>
    rw [hfeedback]
    intro item h
    simpa [Feedback.Item.isError] using leftover_isError o r.session.source stop left item h

/-- From any place of any text, a settings grammar fails when the scan over the items stops before
the end, and the failure is about what is left there. -/
theorem failure_of_scan (o : Options) (h : o.Valid) :
    ∃ p, grammar o = .ok p ∧
      ∀ (fuel : Nat) (r : Run SettingValue (List Setting)), r.session.Ready →
        6 + r.session.source.size ≤ fuel →
        ∃ r', p.parse noCells fuel r = some r' ∧
          (r'.session.result.errorAt ≠ none ↔
            (scan o r.session.cursor r.session.rest).2 ≠ []) ∧
          (r'.session.result.errorAt ≠ none →
            ∃ stop, StopsBefore o r r' (scan o r.session.cursor r.session.rest).1 stop
              (scan o r.session.cursor r.session.rest).2) := by
  obtain ⟨radix, comment, hradix, hmark, hgrammar⟩ := h.grammar
  refine ⟨_, hgrammar, fun fuel r hr hfuel => ?_⟩
  obtain ⟨r', hrun, heval, -, hframes⟩ :=
    file_run radix o.newlineIsBlank comment fuel r hr hfuel
  refine ⟨r', hrun, ?_⟩
  obtain ⟨n, rfl⟩ : ∃ n, fuel = n + 6 := ⟨fuel - 6, by omega⟩
  have hcut := r.session.source.exists_cut hr.boundary
  have hlength := r.session.source.add_byteLength_restFrom hr.boundary
  have hat : r.session.source.At r.session.cursor r.session.rest := hcut
  have hn : byteLength r.session.rest ≤ n := by
    show byteLength (r.session.source.restFrom r.session.cursor) ≤ n
    omega
  by_cases hend : (scan o r.session.cursor r.session.rest).2 = []
  · obtain ⟨result, stop, heval', hmatch, -⟩ :=
      file_eval (n := n) r.context hat hradix hmark hn hend
    have houtcome := Option.some.inj (heval.symm.trans heval')
    have hnone : r'.session.result.errorAt = none := by
      rw [← hmatch]
      exact congrArg (·.result.errorAt) houtcome
    exact ⟨⟨fun hne => absurd hnone hne, fun hne => absurd hend hne⟩,
      fun hne => absurd hnone hne⟩
  · obtain ⟨stop, hplace, hitem, heval'⟩ :=
      file_misses (n := n) r.context hat hradix hmark hn hend
    have hstops := stopsBefore_of_missed hplace hitem hframes
      (Option.some.inj (heval.symm.trans heval'))
    have herror : r'.session.result.errorAt ≠ none := by
      rw [hstops.errorAt]
      exact Option.some_ne_none stop
    exact ⟨⟨fun _ => hend, fun _ => herror⟩, fun _ => ⟨stop, hstops⟩⟩

/-- The quotes of the last value are not closed. -/
def unclosedQuote : Source := ⟨"unclosed", "é a = 1\n# c\na = w\nb = \"x"⟩

/-- After two entries with the same key, the third is incomplete: its value is missing. -/
theorem failure_of_scan_unclosedQuote :
    ∃ p r', grammar {} = .ok p ∧ p.parse noCells 40 (start unclosedQuote 2) = some r' ∧
      r'.session.result.errorAt = some 19 ∧ r'.session.cursor = 2 ∧ r'.session.frames = [] ∧
      r'.context = [⟨"a", .number 1, 3⟩, ⟨"a", .word "w", 13⟩] ∧
      r'.session.result.feedback.map (·.offset) = [19, 19, 23, 23, 23, 23] := by
  have hscan : scan {} 2 " a = 1\n# c\na = w\nb = \"x".toList =
      ([⟨"a", .number 1, 3⟩, ⟨"a", .word "w", 13⟩], "b = \"x".toList) := by
    decide +kernel
  have hmissing : missing? {} "b = \"x".toList = some (4, .value false) := by decide +kernel
  have hrest : (start unclosedQuote 2).session.rest = " a = 1\n# c\na = w\nb = \"x".toList := by
    decide +kernel
  obtain ⟨hready, hcursor⟩ := start_ready unclosedQuote 2 (by decide)
  obtain ⟨p, hgrammar, hruns⟩ := failure_of_scan {} (by decide)
  obtain ⟨r', hrun, hfails, hstops⟩ := hruns 40 (start unclosedQuote 2) hready (by decide)
  rw [hcursor, hrest, hscan] at hfails hstops
  obtain ⟨stop, h⟩ := hstops (hfails.2 (by decide))
  obtain rfl : stop = 19 := by
    have hsize : stop + 6 = 25 := h.place.add_byteLength
    omega
  obtain ⟨distance, part, hpart, hfeedback⟩ := h.feedback
  obtain ⟨rfl, rfl⟩ := Prod.mk.inj (Option.some.inj (hmissing.symm.trans hpart))
  refine ⟨p, r', hgrammar, hrun, h.errorAt, h.cursor.trans hcursor, h.frames, h.context, ?_⟩
  rw [hfeedback]
  rfl

end Settings

end Descent

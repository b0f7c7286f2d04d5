import Descent.Proofs.Uncached

/-!
# What a report tells

Error position and items are independent of each other: scripts set and clear
the one, and add or drop the others, as they like. Whatever they have left, a
report tells each item once, and a diagnostic is missing only if nothing has
failed and no error has been noted. To ask for it changes nothing.
-/
namespace Descent

namespace Feedback

/-- The items of some kinds in their order, a line for each. -/
def told (kinds : List Kind) (items : List Item) : String :=
  "\n".intercalate ((items.filter fun item => item.kind ∈ kinds).map fun item =>
    item.kind.label ++ ": " ++ item.message)

theorem Item.display_eq (item : Item) :
    item.display = item.kind.label ++ ": " ++ item.message := rfl

theorem Item.display_ne_empty (item : Item) : item.display ≠ "" := by
  rw [Item.display_eq]
  cases item.kind <;> simp [Kind.label]

/-- No item is displayed by nothing, so nothing is displayed only for no items. -/
theorem displayAll_eq_empty_iff {items : List Item} : displayAll items = "" ↔ items = [] := by
  constructor
  · intro h
    cases items with
    | nil => rfl
    | cons item items =>
      cases items with
      | nil => exact absurd (by simpa [displayAll] using h) item.display_ne_empty
      | cons next items => simp [displayAll, item.display_ne_empty] at h
  · rintro rfl
    exact String.intercalate_nil

theorem isError_iff {item : Item} : item.isError = true ↔ item.kind = .error := by
  cases h : item.kind <;> simp [Item.isError, h]

theorem told_error (items : List Item) :
    told [.error] items = displayAll (items.filter Item.isError) := by
  have hkinds : (fun item : Item => decide (item.kind ∈ [Kind.error])) = Item.isError := by
    funext item
    cases h : item.kind <;> simp [Item.isError, h]
  rw [told, hkinds]
  rfl

theorem told_remarks (items : List Item) :
    told [.info, .warning] items = displayAll (items.filter fun item => !item.isError) := by
  have hkinds : (fun item : Item => decide (item.kind ∈ [Kind.info, Kind.warning])) =
      fun item => !item.isError := by
    funext item
    cases h : item.kind <;> simp [Item.isError, h]
  rw [told, hkinds]
  rfl

/-- The two texts that items are split into; that of the errors is there if there are errors. -/
theorem split_eq (items : List Item) : split items =
    (told [.info, .warning] items,
      if ∃ item ∈ items, item.kind = .error then some (told [.error] items) else none) := by
  have hempty : (displayAll (items.filter Item.isError)).isEmpty = true ↔
      ¬ ∃ item ∈ items, item.kind = .error := by
    rw [String.isEmpty_iff, displayAll_eq_empty_iff, List.filter_eq_nil_iff]
    simp [isError_iff]
  rw [split, told_remarks, told_error]
  by_cases herror : ∃ item ∈ items, item.kind = .error
  · simp [hempty, herror]
  · simp [hempty, herror]

end Feedback

variable {V C : Type}

/-- What a user can rely on in the report of a session. -/
structure Report.Accounts (report : Report) (s : Session V) : Prop where
  /-- The informative items, and nothing else, in their order. -/
  info : report.info = Feedback.told [.info, .warning] s.result.feedback
  /-- No failure and no error is hidden, and nothing else makes a diagnostic. -/
  error : report.error.isSome = true ↔
    s.result.errorAt.isSome = true ∨ ∃ item ∈ s.result.feedback, item.kind = .error
  /-- The error items, and nothing else, in their order. -/
  message : (∃ item ∈ s.result.feedback, item.kind = .error) →
    ∀ d ∈ report.error, d.message = Feedback.told [.error] s.result.feedback
  /-- A failure that nobody explained is told with its place. -/
  unexplained : (¬ ∃ item ∈ s.result.feedback, item.kind = .error) →
    ∀ offset ∈ s.result.errorAt, ∀ d ∈ report.error,
      d.message = "ERROR: " ++
        (Location.ofOffset s.source.chars offset).describe s.source.name ++ "parsing failed."
  /-- The span of a failure begins at its place, or at the end of the text if that comes first. -/
  span : ∀ d ∈ report.error, (d.span.isSome = true ↔ s.result.errorAt.isSome = true) ∧
    ∀ start length, d.span = some (start, length) →
      (∀ offset ∈ s.result.errorAt, start = min offset s.source.size) ∧
        start + length ≤ s.source.size
  source : ∀ d ∈ report.error, d.source = s.source.name

namespace Script

/-- A script that only asks: what the session shows, where a place is, what there is to report. -/
inductive Asks : Script V C → Prop
  | done : Asks .done
  | look (next : View V → C → Script V C) (h : ∀ v c, Asks (next v c)) : Asks (.look next)
  | locate (offset : Nat) (next : Location → Script V C) (h : ∀ l, Asks (next l)) :
      Asks (.locate offset next)
  | report (next : Report → Script V C) (h : ∀ r, Asks (next r)) : Asks (.report next)

/-- Asking changes nothing but the line cache. -/
theorem Asks.run {script : Script V C} (h : script.Asks) (s : Session V) (c : C) :
    (script.run s c).1.uncached = s.uncached ∧ (script.run s c).2 = c := by
  induction h generalizing s with
  | done => exact ⟨rfl, rfl⟩
  | look next _ ih => exact ih s.view c s
  | locate offset next _ ih =>
    obtain ⟨cache, hcache⟩ := s.locate_snd offset
    have hrun := ih (s.locate offset).1 (s.locate offset).2
    rw [hcache] at hrun
    rw [run_locate, hcache]
    exact hrun
  | report next _ ih => exact ih s.report s

end Script

namespace Session

variable {s : Session V}

/-- The marked place does not reach beyond the end of the text. -/
theorem marked_le (offset size : Nat) :
    min offset size + (if offset < size then 1 else 0) ≤ size := by
  split <;> omega

theorem report_eq (h : s.CacheFits) :
    s.report =
      { info := Feedback.told [.info, .warning] s.result.feedback
        error :=
          ((if ∃ item ∈ s.result.feedback, item.kind = .error then
              some (Feedback.told [.error] s.result.feedback) else none) <|>
            s.result.errorAt.map fun offset => "ERROR: " ++
              (Location.ofOffset s.source.chars offset).describe s.source.name ++
                "parsing failed.").map fun message =>
          { message
            span := s.result.errorAt.map fun offset =>
              (min offset s.source.size, if offset < s.source.size then 1 else 0)
            source := s.source.name } } := by
  have hlocate := fun offset => (s.locate_of_cacheFits offset h).1
  unfold report
  simp only [hlocate, Feedback.split_eq]
  rfl

theorem accounts_of_cacheFits (h : s.CacheFits) : s.report.Accounts s := by
  rw [report_eq h]
  by_cases herror : ∃ item ∈ s.result.feedback, item.kind = .error
  · rw [if_pos herror]
    exact
      { info := rfl
        error := by simp [herror]
        message := by simp
        unexplained := fun hnone => absurd herror hnone
        span := by
          cases s.result.errorAt <;> simp [marked_le]
        source := by simp }
  · rw [if_neg herror]
    cases hat : s.result.errorAt with
    | none =>
      exact
        { info := rfl
          error := by simp [hat, herror]
          message := by simp
          unexplained := by simp
          span := by simp
          source := by simp }
    | some offset =>
      exact
        { info := rfl
          error := by simp [hat]
          message := fun hsome => absurd hsome herror
          unexplained := by simp [hat]
          span := by simp [hat, marked_le]
          source := by simp }

end Session

/-- In every session that comes up, at any point of any run, the report accounts for the error
position and for all items, whatever they are. The session goes on from it as it was, line cache
included; and after any number of further questions the report is still the same. -/
theorem report_accounts (s : Session V) (h : s.Reached) :
    s.report.Accounts s ∧
      (∀ (next : Report → Script V C) (c : C),
        (Script.report next).run s c = (next s.report).run s c) ∧
      ∀ (script : Script V C) (c : C), script.Asks →
        (script.run s c).1.report = s.report ∧
          (script.run s c).1.uncached = s.uncached ∧ (script.run s c).2 = c := by
  refine ⟨Session.accounts_of_cacheFits h.cacheFits, fun _ _ => rfl, fun script c hasks => ?_⟩
  obtain ⟨hsession, hcontext⟩ := hasks.run s c
  have hreached : (script.run s c).1.Reached := Session.kept_reached.run h script c
  refine ⟨?_, hsession, hcontext⟩
  calc (script.run s c).1.report = (script.run s c).1.uncached.report :=
        (Session.uncached_report hreached.cacheFits).symm
    _ = s.uncached.report := by rw [hsession]
    _ = s.report := Session.uncached_report h.cacheFits

section Unexplained

/-- A warning, and then an error position beyond the end, with no word about it. -/
def failSilently : Script Unit Unit :=
  .act (.note .warning 1 "odd" none) <| .look fun v _ =>
    .act (.setResult { v.result with errorAt := some 99 }) .done

def afterSilence : Session Unit := (failSilently.run { source := ⟨"notes", "é\nab"⟩ } ()).1

/-- Two reports, with the search for a place in between. -/
def reportTwice : Script Unit Unit := .report fun _ => .locate 1 fun _ => .report fun _ => .done

theorem report_accounts_silence :
    afterSilence.report.info = "WARNING: File 'notes', line 1, column 2:\né\nodd." ∧
      (∃ d, afterSilence.report.error = some d ∧
        d.message = "ERROR: File 'notes', line 2, column 3:\nab\nparsing failed." ∧
        ∃ length, d.span = some (5, length) ∧ 5 + length ≤ 5) ∧
      (reportTwice.run afterSilence ()).1.report = afterSilence.report := by
  have hreached : afterSilence.Reached := Session.kept_reached.run (.fresh _) failSilently ()
  obtain ⟨haccounts, -, hasked⟩ := report_accounts (C := Unit) afterSilence hreached
  have hat : afterSilence.result.errorAt = some 99 := by decide +kernel
  have hnone : ¬ ∃ item ∈ afterSilence.result.feedback, item.kind = .error := by decide +kernel
  have hasks : reportTwice.Asks := .report _ fun _ => .locate 1 _ fun _ => .report _ fun _ => .done
  obtain ⟨d, hd⟩ := Option.isSome_iff_exists.1 (haccounts.error.2 (Or.inl (by rw [hat]; rfl)))
  obtain ⟨hspan, hinside⟩ := haccounts.span d hd
  obtain ⟨⟨start, length⟩, hmark⟩ := Option.isSome_iff_exists.1 (hspan.2 (by rw [hat]; rfl))
  obtain ⟨hstart, hend⟩ := hinside start length hmark
  obtain rfl : start = 5 := (hstart 99 hat).trans (by decide +kernel)
  exact ⟨haccounts.info.trans (by decide +kernel),
    ⟨d, hd, (haccounts.unexplained hnone 99 hat d hd).trans (by decide +kernel), length, hmark,
      hend.trans_eq (by decide +kernel)⟩,
    (hasked reportTwice () hasks).1⟩

end Unexplained

end Descent

import Descent.Grammar.Workbench
import Descent.Proofs.Supervision
import Descent.Proofs.Uncached

/-!
# What a workbench shows of the line cache

Nothing: the commands of a workbench come to the same with and without the
line caches of its sessions, and every message names the place that a scan
from the start of the text finds.
-/
namespace Descent

variable {V C : Type}

namespace Workbench

/-- The workbench without the line caches of its sessions. -/
def uncached (w : Workbench V C) : Workbench V C :=
  { w with session := w.session.uncached, saved := w.saved.map Session.uncached }

/-- All sessions of the workbench are such as come up while sources are parsed. -/
def Reached (w : Workbench V C) : Prop := w.session.Reached ∧ ∀ s ∈ w.saved, s.Reached

/-- Carries out commands one after the other, and gives the answers to them. -/
def runAll (fuel : Nat) :
    List (Command V C) → Workbench V C → Option (Workbench V C × List Answer)
  | [], w => some (w, [])
  | command :: commands, w => do
    let (w, answer) ← w.step fuel command
    let (w, answers) ← w.runAll fuel commands
    return (w, answer :: answers)

theorem parse_uncached (fuel : Nat) (g : Grammar V C) (w : Workbench V C) (h : w.Reached) :
    w.uncached.parse fuel g = (w.parse fuel g).map uncached := by
  have hparse := g.parse_uncached w.store.env fuel ⟨w.session, w.context, w.trace⟩ h.1.cacheFits
  have hparse' : g.parse w.uncached.store.env fuel
      ⟨w.uncached.session, w.uncached.context, w.uncached.trace⟩ =
        (g.parse w.store.env fuel ⟨w.session, w.context, w.trace⟩).map Run.uncached := hparse
  rw [parse, parse, hparse']
  cases g.parse w.store.env fuel ⟨w.session, w.context, w.trace⟩ <;> rfl

theorem parse_reached (fuel : Nat) (g : Grammar V C) (w w' : Workbench V C) (h : w.Reached)
    (hparse : w.parse fuel g = some w') : w'.Reached := by
  obtain ⟨r, hr, hw'⟩ := Option.bind_eq_some_iff.1 hparse
  obtain rfl := Option.some.inj hw'
  exact ⟨Grammar.parse_keeps Session.kept_reached w.store.env fuel g _ r h.1 hr, h.2⟩

/-- The workbench with other sessions. -/
def withSessions (session : Session V) (saved : List (Session V)) (w : Workbench V C) :
    Workbench V C := { w with session, saved }

/-- A change that may be refused, and has nothing to do with the sessions. -/
def Aside (change : Workbench V C → Except BlueprintError (Workbench V C)) : Prop :=
  ∀ session saved w,
    change (w.withSessions session saved) = (change w).map (withSessions session saved)

namespace Aside

variable {change : Workbench V C → Except BlueprintError (Workbench V C)}
  (hchange : Aside change) (w : Workbench V C)

include hchange

/-- The sessions stay as they are. -/
theorem kept (w' : Workbench V C) (h : change w = .ok w') :
    w'.withSessions w.session w.saved = w' := by
  have hsame : change w = (change w).map (withSessions w.session w.saved) := hchange _ _ w
  rw [h] at hsame
  exact (Except.ok.inj hsame).symm

theorem settle_uncached : w.uncached.settle (change w.uncached) =
    Prod.map Workbench.uncached id (w.settle (change w)) := by
  have hother : change w.uncached = (change w).map
      (withSessions w.session.uncached (w.saved.map Session.uncached)) := hchange _ _ w
  rw [hother]
  cases h : change w with
  | error e => rfl
  | ok w' =>
    rw [← hchange.kept w w' h]
    rfl

theorem settle_reached (h : w.Reached) : (w.settle (change w)).1.Reached := by
  cases hw : change w with
  | error e => exact h
  | ok w' =>
    rw [← hchange.kept w w' hw]
    exact h

end Aside

theorem aside_define (name : String) (b : Blueprint V C) : Aside (define name b) := by
  intro session saved w
  have hbuild : (w.withSessions session saved).build b = w.build b := rfl
  rw [define, define, hbuild]
  cases w.build b <;> rfl

theorem aside_bind (name : String) (b : Blueprint V C) : Aside (bind name b) := by
  intro session saved w
  have hbuild : (w.withSessions session saved).build b = w.build b := rfl
  have hhandle : (w.withSessions session saved).handle? = w.handle? := rfl
  have hstore : (w.withSessions session saved).store = w.store := rfl
  rw [bind, bind, hbuild, hhandle, hstore]
  cases w.build b with
  | error e => rfl
  | ok g =>
    dsimp only [Bind.bind, Except.bind]
    cases w.handle? name with
    | none => rfl
    | some handle =>
      dsimp only
      split
      · cases w.store.bind handle.cell g <;> rfl
      · rfl

theorem step_uncached (fuel : Nat) (w : Workbench V C) (command : Command V C) (h : w.Reached) :
    w.uncached.step fuel command = (w.step fuel command).map (Prod.map uncached id) := by
  have hhandle : w.uncached.handle? = w.handle? := rfl
  cases command with
  | perform script =>
    have hrun := Session.uncached_run h.1.cacheFits script w.context
    exact congrArg (fun t : Session V × C =>
      some ({ w.uncached with session := t.1, context := t.2 }, Answer.nothing)) hrun
  | define name b => exact congrArg some ((aside_define name b).settle_uncached w)
  | bind name b => exact congrArg some ((aside_bind name b).settle_uncached w)
  | run name =>
    have hparser : w.uncached.parser? name = w.parser? name := rfl
    simp only [step, hparser]
    cases w.parser? name with
    | none => rfl
    | some g =>
      dsimp only
      rw [parse_uncached fuel g w h]
      cases w.parse fuel g <;> rfl
  | save => rfl
  | restore =>
    cases hsaved : w.saved <;> simp [step, uncached, hsaved]
  | create name => rfl
  | clone name copy =>
    simp only [step, hhandle]
    cases w.handle? name <;> rfl
  | weaken name copy =>
    simp only [step, hhandle]
    cases w.handle? name <;> rfl
  | isBound name =>
    simp only [step, hhandle]
    cases w.handle? name <;> rfl
  | drop name => rfl

theorem step_reached (fuel : Nat) (w w' : Workbench V C) (command : Command V C)
    (answer : Answer) (h : w.Reached) (hstep : w.step fuel command = some (w', answer)) :
    w'.Reached := by
  cases command with
  | perform script =>
    cases hstep
    exact ⟨Session.kept_reached.run h.1 script w.context, h.2⟩
  | define name b =>
    have hsettle := (aside_define name b).settle_reached w h
    rwa [Option.some.inj hstep] at hsettle
  | bind name b =>
    have hsettle := (aside_bind name b).settle_reached w h
    rwa [Option.some.inj hstep] at hsettle
  | run name =>
    simp only [step] at hstep
    cases hparser : w.parser? name with
    | none =>
      rw [hparser] at hstep
      cases hstep
      exact h
    | some g =>
      rw [hparser] at hstep
      obtain ⟨v, hv, hpair⟩ := Option.map_eq_some_iff.1 hstep
      cases hpair
      exact parse_reached fuel g w w' h hv
  | save =>
    cases hstep
    refine ⟨h.1, fun s hs => ?_⟩
    rcases List.mem_cons.1 hs with rfl | hs
    · exact h.1
    · exact h.2 s hs
  | restore =>
    simp only [step] at hstep
    cases hsaved : w.saved with
    | nil =>
      rw [hsaved] at hstep
      cases hstep
      exact h
    | cons session saved =>
      have hall : ∀ s ∈ session :: saved, s.Reached := hsaved ▸ h.2
      rw [hsaved] at hstep
      cases hstep
      exact ⟨hall session List.mem_cons_self, fun s hs => hall s (List.mem_cons_of_mem _ hs)⟩
  | create name => cases hstep; exact h
  | clone name copy =>
    simp only [step] at hstep
    cases hhandle : w.handle? name <;> rw [hhandle] at hstep <;> cases hstep <;> exact h
  | weaken name copy =>
    simp only [step] at hstep
    cases hhandle : w.handle? name <;> rw [hhandle] at hstep <;> cases hstep <;> exact h
  | isBound name =>
    simp only [step] at hstep
    cases hhandle : w.handle? name <;> rw [hhandle] at hstep <;> cases hstep <;> exact h
  | drop name => cases hstep; exact h

theorem runAll_uncached (fuel : Nat) (commands : List (Command V C)) (w : Workbench V C)
    (h : w.Reached) :
    w.uncached.runAll fuel commands =
      (w.runAll fuel commands).map (Prod.map uncached id) := by
  induction commands generalizing w with
  | nil => rfl
  | cons command commands ih =>
    rw [runAll, runAll, step_uncached fuel w command h]
    cases hstep : w.step fuel command with
    | none => rfl
    | some t =>
      obtain ⟨v, answer⟩ := t
      have hrest := ih v (step_reached fuel w v command answer h hstep)
      simp only [Option.map_some, Option.bind_eq_bind, Option.bind_some, Prod.map, id, hrest]
      cases v.runAll fuel commands <;> rfl

theorem runAll_reached (fuel : Nat) (commands : List (Command V C)) (w w' : Workbench V C)
    (answers : List Answer) (h : w.Reached)
    (hrun : w.runAll fuel commands = some (w', answers)) : w'.Reached := by
  induction commands generalizing w answers with
  | nil =>
    cases hrun
    exact h
  | cons command commands ih =>
    obtain ⟨⟨v, answer⟩, hstep, hrun⟩ := Option.bind_eq_some_iff.1 hrun
    obtain ⟨⟨v', rest⟩, hrest, hpair⟩ := Option.bind_eq_some_iff.1 hrun
    cases hpair
    exact ih v rest (step_reached fuel w v command answer h hstep) hrest

end Workbench

section Observation

open Classical

/-- Sessions with and without a line cache cannot be told apart. The commands of a workbench come
to the same without it, answers, contexts and traces included, and so do the reports after them.
Every session that scripts, hooks and parsers see on the way is `Reached`, and whatever such a
session tells about a place is what a scan from the start of the text finds there: the location,
which its line cache always finds, and the items of notes, failures and rejections with their
messages. -/
theorem cache_unobservable (fuel : Nat) (commands : List (Command V C)) (w : Workbench V C)
    (h : w.Reached) :
    w.uncached.runAll fuel commands =
        (w.runAll fuel commands).map (Prod.map Workbench.uncached id) ∧
      (∀ w' answers, w.runAll fuel commands = some (w', answers) →
        w'.Reached ∧ w'.session.uncached.report = w'.session.report) ∧
      (∀ (r : Run V C), r.session.Reached →
        (∀ script : Script V C, script.runIf Session.Reached r.session r.context =
          some (script.run r.session r.context)) ∧
        ∀ (env : Env V C) (g : Grammar V C),
          g.supervised (AtDepth Session.Reached r.session.depth) env fuel 0 r =
            g.parse env fuel r) ∧
      (∀ (s : Session V), s.Reached → ∀ kind offset delta message cause,
        (∃ cache next, s.cache = some cache ∧
          cache.resolve? s.source.chars offset =
            some (Location.ofOffset s.source.chars offset, next) ∧
          s.locate offset =
            (Location.ofOffset s.source.chars offset, { s with cache := some next })) ∧
        (s.note kind offset message cause).result.feedback =
          s.result.feedback ++ [s.source.item kind offset message cause] ∧
        (s.unmatched delta message cause).result.feedback =
          [s.source.item .error (s.cursor + delta) message cause] ∧
        (s.reject message).result.feedback =
          s.result.feedback ++ [s.source.item .error s.result.position message none]) ∧
      ∀ (source : Source) kind offset message cause,
        let l := Location.ofOffset source.chars offset
        source.item kind offset message cause =
          { kind, offset
            message := "File '" ++ source.name ++ "', line " ++ toString l.line ++ ", column " ++
              toString l.column ++ ":\n" ++ l.lineText ++ "\n" ++ message ++
              cause.elim "" (": " ++ ·) ++ "." } := by
  refine ⟨w.runAll_uncached fuel commands h, ?_, ?_, ?_, ?_⟩
  · intro w' answers hrun
    have hreached := w.runAll_reached fuel commands w' answers h hrun
    exact ⟨hreached, Session.uncached_report hreached.1.cacheFits⟩
  · intro r hr
    have hkept := Session.kept_reached (V := V)
    refine ⟨fun script => ?_, fun env g => Option.ext fun r' => ⟨?_, fun hrun => ?_⟩⟩
    · exact script.runIf_eq_run (fun action s hs => hkept.perform hs action) hkept.locate
        r.session r.context hr
    · exact Grammar.parse_of_supervised _ env fuel 0 g r r'
    · exact Grammar.supervised_of_parse hkept env fuel g r r' ⟨rfl, hr⟩ hrun
  · intro s hs kind offset delta message cause
    have hfits := hs.cacheFits
    obtain ⟨cache, hcache, hfound⟩ := hs.locate_found
    obtain ⟨next, hresolve, hlocate⟩ := hfound offset
    refine ⟨⟨cache, next, hcache, hresolve, hlocate⟩, ?_, ?_, ?_⟩
    · rw [Session.note_result, s.item_of_cacheFits kind offset message cause hfits]
    · rw [s.unmatched_result_of_cacheFits delta message cause hfits, Source.failure]
    · rw [Session.reject_result, s.item_of_cacheFits _ _ message none hfits]
  · intro source kind offset message cause
    simp only [Source.item, Location.describe, String.append_assoc]
    rfl

/-- Two notes, the later place first. -/
def noteBackwards : Script Unit Nat :=
  .act (.note .info 3 "later" none) (.act (.note .warning 1 "earlier" (some "why")) .done)

/-- A line, and then another that the first alternative does not match. -/
def twoLines : Blueprint Unit Nat :=
  .all [.literal "a\n" .done, .any [.literal "x" .done, .literal "b" noteBackwards] .done] .done

/-- The lines are parsed twice, the second time from a copy that has seen neither the first parse
nor the note after it. -/
def lineCommands : List (Command Unit Nat) :=
  [.define "lines" twoLines, .save, .run "lines",
    .perform (.act (.note .error 2 "seen" none) .done), .restore, .run "lines", .run "line"]

def lineBench : Workbench Unit Nat :=
  { session := { source := ⟨"lines", "a\nbc"⟩ }, context := 0 }

theorem cache_unobservable_lines :
    ∃ w' answers, lineBench.runAll 4 lineCommands = some (w', answers) ∧
      lineBench.uncached.runAll 4 lineCommands = some (w'.uncached, answers) ∧
      w'.session.uncached.report = w'.session.report ∧
      answers.getLast? = some (.refused (.unknownName "line")) ∧
      w'.session.result.feedback.map (·.message) =
        ["File 'lines', line 2, column 2:\nbc\nlater.",
          "File 'lines', line 1, column 2:\na\nearlier: why."] := by
  have hreached : lineBench.Reached := ⟨.fresh _, by simp [lineBench]⟩
  obtain ⟨huncached, hafter, -⟩ := cache_unobservable 4 lineCommands lineBench hreached
  obtain ⟨⟨w', answers⟩, hrun⟩ : ∃ t, lineBench.runAll 4 lineCommands = some t :=
    Option.isSome_iff_exists.1 (by decide +kernel)
  have hlast : (lineBench.runAll 4 lineCommands).map (fun t =>
      (t.2.getLast?, t.1.session.result.feedback.map (·.message))) =
        some (some (.refused (.unknownName "line")),
          ["File 'lines', line 2, column 2:\nbc\nlater.",
            "File 'lines', line 1, column 2:\na\nearlier: why."]) := by decide +kernel
  rw [hrun] at huncached hlast
  obtain ⟨hanswer, hmessages⟩ := Prod.ext_iff.1 (Option.some.inj hlast)
  exact ⟨w', answers, hrun, huncached, (hafter w' answers hrun).2, hanswer, hmessages⟩

end Observation

end Descent

import Descent.Proofs.Matches

/-!
# The discipline of hooks

A hook runs once after each match of its parser, and never after a failure. It
is shown the results of the children that the match is made of, and of nothing
else; they are gone when the call is over, whatever the hook has made of them.
-/
namespace Descent

variable {V C : Type}

/-- The action does not write the results of the children. -/
def Action.SparesSubResults : Action V → Prop
  | setSubResults _ => False
  | _ => True

theorem Action.perform_subResults {a : Action V} (h : a.SparesSubResults) (s : Session V) :
    (a.perform s).subResults = s.subResults := by
  cases a with
  | setSubResults results => exact absurd h id
  | _ => simp [perform, Session.rewind]

/-- The script does not write the results of the children. -/
abbrev Script.SparesSubResults (script : Script V C) : Prop :=
  script.ActsBy Action.SparesSubResults

theorem Script.run_subResults (script : Script V C) (h : script.SparesSubResults) (s : Session V)
    (c : C) : (script.run s c).1.subResults = s.subResults := by
  induction script generalizing s c with
  | done => rfl
  | act action next ih =>
    exact (ih h.2 (action.perform s) c).trans (action.perform_subResults h.1 s)
  | setContext c' next ih => exact ih h s c'
  | look next ih => exact ih _ _ (h _ _) s c
  | locate offset next ih =>
    exact (ih _ (h _) (s.locate offset).2 c).trans (s.locate_subResults offset)
  | report next ih => exact ih _ (h _) s c

/-- A grammar with any hooks, in which the scripts in the place of parsers satisfy `P`. -/
inductive Grammar.ScriptedBy (P : Script V C → Prop) : Grammar V C → Prop
  | primitive (p : Primitive) (hook : Script V C) : ScriptedBy P (.primitive p hook)
  | all (subs : List (Grammar V C)) (hook : Script V C) (hs : ∀ g ∈ subs, ScriptedBy P g) :
      ScriptedBy P (.all subs hook)
  | any (subs : List (Grammar V C)) (hook : Script V C) (hs : ∀ g ∈ subs, ScriptedBy P g) :
      ScriptedBy P (.any subs hook)
  | best (subs : List (Grammar V C)) (hook : Script V C) (hs : ∀ g ∈ subs, ScriptedBy P g) :
      ScriptedBy P (.best subs hook)
  | optional (sub : Grammar V C) (hook : Script V C) (hs : ScriptedBy P sub) :
      ScriptedBy P (.optional sub hook)
  | repeated (sub : Grammar V C) (min : Nat) (max : Option Nat) (hook : Script V C)
      (hs : ScriptedBy P sub) : ScriptedBy P (.repeated sub min max hook)
  | reference (cell : Nat) (owning : Bool) : ScriptedBy P (.reference cell owning)
  | script (body : Script V C) (hp : P body) : ScriptedBy P (.script body)

/-- Every grammar that is bound to a cell is scripted by `P`. -/
def ScriptedEnv (P : Script V C → Prop) (env : Env V C) : Prop :=
  ∀ cell g, env cell = .bound g → g.ScriptedBy P

theorem Grammar.ScriptedBy.parts {P : Script V C → Prop} {env : Env V C}
    (henv : ScriptedEnv P env) {g : Grammar V C} (h : g.ScriptedBy P) :
    ∀ g' ∈ g.parts env, g'.ScriptedBy P := by
  cases h with
  | primitive p hook => simp [Grammar.parts]
  | all subs hook hs => exact hs
  | any subs hook hs => exact hs
  | best subs hook hs => exact hs
  | optional sub hook hs => exact List.forall_mem_singleton.2 hs
  | repeated sub min max hook hs => exact List.forall_mem_singleton.2 hs
  | reference cell owning =>
    cases hcell : env cell with
    | bound target => simpa [Grammar.parts, hcell] using henv cell target hcell
    | unbound => simp [Grammar.parts, hcell]
    | dropped => simp [Grammar.parts, hcell]
  | script body hp => simp [Grammar.parts]

/-- No results of children are left over. -/
def Run.Clean (r : Run V C) : Prop := r.session.subResults = []

theorem Run.steady_clean : Run.Steady (Run.Clean (V := V) (C := C)) :=
  ⟨fun _ _ h => h, fun _ h => h, fun _ h => h⟩

theorem Run.Clean.unmatched {r : Run V C} (h : r.Clean) (message : String) :
    (r.onSession (Session.unmatched 0 message none)).Clean := by
  unfold Run.Clean at *
  simpa using h

@[simp] theorem Run.finish_clean (hook : Script V C) (r : Run V C) : (r.finish hook).Clean := rfl

namespace Call

/-- What the hook of a match is shown: the results of all children in order after a sequence, those
of the rounds that count after a repetition, and otherwise nothing. -/
def Shows (c : Call V C) : Prop :=
  match c.parser with
  | .all subs _ =>
    c.children.map Call.parser = subs ∧ (∀ child ∈ c.children, ¬ child.failed = true) ∧
      c.settled.session.subResults = c.children.map Call.result
  | .repeated sub _ _ _ =>
    (∀ child ∈ c.children, child.parser = sub) ∧
      c.settled.session.subResults = (matched c.children).map Call.result
  | .primitive .. | .any .. | .best .. | .optional .. => c.settled.session.subResults = []
  | .reference .. | .script _ => True

/-- A call as it should be. Whatever hook stands in the place of that of the parser, it is run
once, on the match that the parser has settled on, and after a failure it is not run. -/
structure Disciplined (env : Env V C) (c : Call V C) : Prop where
  clean_start : c.start.session.subResults = []
  clean_stop : c.stop.session.subResults = []
  once : ∃ fuel, c.parser.parse env fuel c.start = some c.stop ∧
    ∀ hook, c.parser.hook? ≠ none →
      (c.parser.withHook hook).parse env fuel c.start =
        some ((if c.settled.failed then c.settled else c.settled.perform hook).onSession
          fun s => { s with subResults := [] })
  shows : ¬ c.settled.failed = true → c.Shows

end Call

section Discipline

variable {env : Env V C} {fuel : Nat}

theorem Session.scan_subResults (p : Primitive) (s : Session V) :
    (s.scan p).subResults = s.subResults := by
  unfold Session.scan
  split <;> simp

/-- A call from a clean state leaves a clean state, and shows its hook what it should. -/
theorem Grammar.record_clean (henv : ScriptedEnv Script.SparesSubResults env) (g : Grammar V C)
    (hg : g.ScriptedBy Script.SparesSubResults) (r : Run V C) (hr : r.Clean) (c : Call V C)
    (h : g.record env fuel r = some c) :
    c.stop.Clean ∧ (¬ c.settled.failed = true → c.Shows) := by
  induction fuel generalizing g r c with
  | zero => cases h
  | succ fuel ih =>
    obtain ⟨children, settled, hcalls, hwork, rfl⟩ := record_cases h
    have hbalance := record_balanced env fuel
    have hchild : ∀ g' ∈ g.parts env, ∀ r c, r.Clean → record env fuel g' r = some c →
        c.stop.Clean := fun g' hg' r c hr hc => (ih g' (hg.parts henv g' hg') r hr c hc).1
    have hopen : (r.onSession Session.pushFrame).Clean := hr
    have hcleans : ∀ child ∈ children, child.stop.Clean := by
      intro child hc
      obtain ⟨g', hg', r', hr', hrun⟩ :=
        calls_start Run.steady_clean g hchild r hr hopen children hcalls child hc
      exact hchild g' hg' r' child hr' hrun
    cases hg with
    | primitive p hook =>
      obtain rfl := Option.some.inj hwork
      exact ⟨rfl, fun _ => (Session.scan_subResults p r.session).trans hr⟩
    | all subs hook hs =>
      refine ⟨rfl, fun hmatch => ?_⟩
      obtain ⟨hlength, hmatched, hsubs, -⟩ :=
        Recorder.all_matched hbalance subs hcalls hwork hmatch
      have hparsers := Recorder.series_parsers id not not (fun hc => (record_origin hc).1) subs _
        children hcalls
      exact ⟨hparsers.eq_of_length (by rw [List.length_map, hlength]), hmatched, hsubs⟩
    | any subs hook hs =>
      refine ⟨rfl, fun hmatch => ?_⟩
      obtain ⟨before, winner, rfl, -, -, hsubs, -⟩ :=
        Recorder.any_matched subs hcalls hwork hmatch
      exact hsubs.trans (hcleans winner (by simp))
    | best subs hook hs =>
      refine ⟨rfl, fun hmatch => ?_⟩
      obtain ⟨winner, -, hsubs, -⟩ := Recorder.best_matched subs hcalls hwork hmatch
      have hback : ∀ r' : Run V C, r'.Clean →
          (r'.onSession (Session.moveTo r.session.cursor)).Clean := fun _ h => h
      exact hsubs.trans (Recorder.series_starts _ _ _ Run.steady_clean hback subs hchild _ children
        hopen hcalls).1
    | optional sub hook hs =>
      refine ⟨rfl, fun _ => ?_⟩
      obtain ⟨c, rfl, hsubs, -⟩ := Recorder.optional_matched sub hcalls hwork
      exact hsubs.trans (hcleans c List.mem_cons_self)
    | repeated sub min max hook hs =>
      refine ⟨rfl, fun hmatch => ?_⟩
      obtain ⟨hsubs, -⟩ :=
        Recorder.repeated_matched hbalance sub min max fuel hcalls hwork hmatch
      refine ⟨fun child hc => ?_, hsubs⟩
      obtain ⟨g', hg', r', -, hrun⟩ :=
        calls_start Run.steady_clean _ hchild r hr hopen children hcalls child hc
      rw [(record_origin hrun).1]
      exact List.mem_singleton.1 hg'
    | reference cell owning =>
      refine ⟨?_, fun _ => trivial⟩
      simp only [work] at hwork
      show settled.Clean
      cases hcell : env cell with
      | bound target =>
        rw [hcell] at hwork
        obtain ⟨c, hc, rfl⟩ := Option.map_eq_some_iff.1 hwork
        exact hchild target (by simp [parts, hcell]) r c hr hc
      | unbound =>
        rw [hcell] at hwork
        obtain rfl := Option.some.inj hwork
        exact hr.unmatched _
      | dropped =>
        rw [hcell] at hwork
        obtain rfl := Option.some.inj hwork
        exact hr.unmatched _
    | script body hp =>
      obtain rfl := Option.some.inj hwork
      have hbody : (r.perform body).Clean :=
        (body.run_subResults hp r.session r.context).trans hr
      exact ⟨hbody, fun _ => trivial⟩

theorem Grammar.record_disciplined (henv : ScriptedEnv Script.SparesSubResults env)
    (g : Grammar V C) (hg : g.ScriptedBy Script.SparesSubResults) (r : Run V C) (hr : r.Clean)
    (c : Call V C) (h : g.record env fuel r = some c) : c.Disciplined env := by
  obtain ⟨hclean, hshows⟩ := record_clean henv g hg r hr c h
  cases fuel with
  | zero => cases h
  | succ fuel =>
    obtain ⟨children, settled, -, hwork, rfl⟩ := record_cases h
    have hrunner : (record env fuel).runner = parse env fuel :=
      funext fun g => funext (record_stop env fuel g)
    rw [hrunner] at hwork
    refine ⟨hr, hclean, ⟨fuel + 1, record_parse h, fun hook hhook => ?_⟩, hshows⟩
    obtain ⟨own, hown⟩ := Option.ne_none_iff_exists'.1 hhook
    rw [parse_eq_work, work_withHook, hwork, Option.map_some, close_withHook hown]
    rfl

end Discipline

/-- Every call in the course of a parse keeps the discipline: results of children are there for the
hook of the parser that has run them, and for nobody else. -/
theorem hooks_keep_discipline (env : Env V C) (fuel : Nat) (g : Grammar V C) (r : Run V C)
    (henv : ScriptedEnv Script.SparesSubResults env) (hg : g.ScriptedBy Script.SparesSubResults)
    (hr : r.session.subResults = []) :
    (g.record env fuel r).map Call.stop = g.parse env fuel r ∧
      ∀ c, g.record env fuel r = some c → c.parser = g ∧ c.start = r ∧
        c.Every (Call.Disciplined env) := by
  refine ⟨Grammar.record_stop env fuel g r, fun c h => ?_⟩
  obtain ⟨hparser, hstart⟩ := Grammar.record_origin h
  refine ⟨hparser, hstart, ?_⟩
  apply Grammar.record_every Run.steady_clean (fun _ hopen => hopen)
    (fun g' hg' => hg'.parts henv) ?_ g hg r hr c h
  intro fuel' g' r' c' hg' hr' h'
  exact ⟨(Grammar.record_clean henv g' hg' r' hr' c' h').1,
    Grammar.record_disciplined henv g' hg' r' hr' c' h'⟩

section Tally

/-- Notes how many results of children it is shown, and leaves two of its own behind. -/
def tally : Script Unit (List Nat) :=
  .look fun v counts =>
    .setContext (v.subResults.length :: counts) (.act (.setSubResults [{}, {}]) .done)

def tallied (mark : Mark) : Grammar Unit (List Nat) := .primitive (.literal mark) tally

/-- Letters, then a mark, then perhaps the parser of cell 0. -/
def tallies : Grammar Unit (List Nat) :=
  .all [.many0 (tallied ⟨"x", by decide⟩) tally,
    .any [.script (.act (.unmatched 0 "nothing here" none) .done), tallied ⟨"|", by decide⟩] tally,
    .optional (.reference 0 false) tally] tally

def talliesEnv : Env Unit (List Nat)
  | 0 => .bound tallies
  | _ => .unbound

def beforeTallies : Run Unit (List Nat) := ⟨{ source := ⟨"tallies", "xx|"⟩ }, [], #[]⟩

theorem tallies_scriptedBy : tallies.ScriptedBy Script.SparesSubResults := by
  refine .all _ _ ?_
  simp only [List.forall_mem_cons, List.not_mem_nil, false_implies, implies_true, and_true]
  refine ⟨.repeated _ _ _ _ (.primitive _ _), .any _ _ ?_, .optional _ _ (.reference 0 false)⟩
  simp only [List.forall_mem_cons, List.not_mem_nil, false_implies, implies_true, and_true]
  exact ⟨.script _ ⟨trivial, trivial⟩, .primitive _ _⟩

/-- The last hook is shown three results, that of the letters two, and all others nothing, among
them that of the letters in the inner call, which then fails. -/
theorem hooks_keep_discipline_tallies :
    ∃ c, tallies.record talliesEnv 8 beforeTallies = some c ∧
      c.stop.context = [3, 0, 0, 0, 0, 2, 0, 0] ∧ c.Every (Call.Disciplined talliesEnv) := by
  have henv : ScriptedEnv Script.SparesSubResults talliesEnv := by
    intro cell g hg
    match cell with
    | 0 => obtain rfl := Target.bound.inj hg; exact tallies_scriptedBy
  have hends : (tallies.parse talliesEnv 8 beforeTallies).map (·.context) =
      some [3, 0, 0, 0, 0, 2, 0, 0] := by decide +kernel
  obtain ⟨r', hparse, hcontext⟩ := Option.map_eq_some_iff.1 hends
  obtain ⟨hstop, hevery⟩ :=
    hooks_keep_discipline talliesEnv 8 tallies beforeTallies henv tallies_scriptedBy rfl
  obtain ⟨c, hc, rfl⟩ := Option.map_eq_some_iff.1 (hstop.trans hparse)
  exact ⟨c, hc, hcontext, (hevery c hc).2.2⟩

end Tally

end Descent

import Descent.Proofs.Call
import Descent.Proofs.Reached
import Descent.Proofs.Repetition
import Descent.Proofs.Settings.Parse

/-!
# Where the text ends

A parser for the end of the text sees nothing but what is left at the cursor.
Nothing is left at the end, and nothing either at a cursor inside of a
character, where no text can be cut off. There the end is found although bytes
remain, and a settings grammar that begins there accepts the text unread.
-/
namespace Descent

/-- What is left is empty at the end of the text and inside of a character, and nowhere else. -/
theorem Source.restFrom_eq_nil_iff (source : Source) (offset : Nat) :
    source.restFrom offset = [] ↔ offset = source.size ∨ ¬ IsBoundary offset source.chars := by
  by_cases hb : IsBoundary offset source.chars
  · have hsize := source.add_byteLength_restFrom hb
    rw [← byteLength_eq_zero]
    constructor
    · exact fun h => Or.inl (by omega)
    · rintro (h | h)
      · omega
      · exact absurd hb h
  · have hdrop : dropBytes? offset source.chars = none :=
      Option.not_isSome_iff_eq_none.1 fun h => hb (isBoundary_iff.2 h)
    simp [restFrom, hdrop, hb]

variable {V C : Type}

/-- A parser for the end of the text, before its hook, matches where nothing is left, and stays
there. -/
theorem Session.scan_textEnd (s : Session V) (hsize : s.cursor ≤ s.source.size) :
    (¬ (s.scan .textEnd).result.failed = true ↔
        s.cursor = s.source.size ∨ ¬ IsBoundary s.cursor s.source.chars) ∧
      (s.scan .textEnd).cursor = s.cursor := by
  rw [← s.source.restFrom_eq_nil_iff]
  unfold Session.scan Primitive.scan Session.rest
  by_cases hrest : s.source.restFrom s.cursor = []
  · simp [hrest, Result.failed, hsize]
  · simp [hrest, Result.failed]

namespace Call

/-- Before its hook, a call of a parser for the end of the text has matched just at the end or
inside of a character. -/
def FindsEnd (c : Call V C) : Prop :=
  ∀ hook, c.parser = .primitive .textEnd hook →
    (¬ c.settled.failed = true ↔ c.start.session.cursor = c.start.session.source.size ∨
      ¬ IsBoundary c.start.session.cursor c.start.session.source.chars) ∧
    c.settled.session.cursor = c.start.session.cursor

end Call

/-- Every call in a parse that begins with a reachable session finds the end so. -/
theorem Grammar.record_findsEnd (env : Env V C) (fuel : Nat) (g : Grammar V C) (r : Run V C)
    (hr : r.session.Reached) (c : Call V C) (hc : g.record env fuel r = some c) :
    c.Every Call.FindsEnd := by
  have hkept := Session.kept_reached (V := V)
  refine record_every (K := fun _ => True) hkept.steady (fun r h => hkept.frames h _)
    (fun _ _ _ _ => trivial) ?_ g trivial r hr c hc
  intro fuel g r c _ hr hc
  refine ⟨parse_keeps hkept env fuel g r _ hr (record_parse hc), ?_⟩
  intro hook hparser
  cases fuel with
  | zero => cases hc
  | succ fuel =>
    obtain ⟨children, settled, -, hwork, rfl⟩ := record_cases hc
    obtain rfl : g = .primitive .textEnd hook := hparser
    obtain rfl := Option.some.inj hwork
    exact r.session.scan_textEnd hr.cursor_le

namespace Run

/-- Nothing is left to read. -/
structure AtRest (r : Run V C) : Prop where
  rest : r.session.rest = []
  le_size : r.session.cursor ≤ r.session.source.size

/-- The run has failed, or has matched, at the place where it began. -/
structure StaysAs (failed : Bool) (r r' : Run V C) : Prop where
  failed : r'.failed = failed
  source : r'.session.source = r.session.source
  cursor : r'.session.cursor = r.session.cursor

/-- Where nothing is left to read, the child fails on the spot, or matches there. -/
def SettlesAtRest (failed : Bool) (child : Runner V C) (g : Grammar V C) : Prop :=
  ∀ r, r.AtRest → ∃ r', child g r = some r' ∧ StaysAs failed r r'

theorem AtRest.congr {r r' : Run V C} (h : r.AtRest)
    (hsource : r'.session.source = r.session.source)
    (hcursor : r'.session.cursor = r.session.cursor) : r'.AtRest := by
  obtain ⟨hrest, hsize⟩ := h
  exact ⟨by rwa [Session.rest, hsource, hcursor], by rwa [hsource, hcursor]⟩

theorem AtRest.moveTo {r : Run V C} (h : r.AtRest) :
    (r.onSession (Session.moveTo r.session.cursor)).session.cursor = r.session.cursor :=
  Nat.min_eq_left h.le_size

/-- A hook has no say in a failure, and a hook that does nothing has none at all. -/
theorem StaysAs.finish {b : Bool} {r r' : Run V C} (h : StaysAs b r r') (hook : Script V C)
    (hb : b = true ∨ hook = .done) : StaysAs b r (r'.finish hook) := by
  have hfinish : r'.finish hook = r'.onSession fun s => { s with subResults := [] } := by
    rcases hb with rfl | rfl
    · rw [Run.finish, if_pos h.failed]
    · exact finish_done r'
  rw [hfinish]
  exact ⟨h.failed, h.source, h.cursor⟩

section Loops

variable {child : Runner V C}

/-- Children that all match at rest make a row that matches nothing. -/
theorem all_matches_atRest (gs : List (Grammar V C))
    (hgs : ∀ g ∈ gs, SettlesAtRest false child g) (i : Nat) (r : Run V C) (hr : r.AtRest) :
    ∃ r', Run.all child r.session.cursor i gs r = some r' ∧ StaysAs false r r' := by
  induction gs generalizing i r with
  | nil =>
    refine ⟨_, rfl, rfl, rfl, ?_⟩
    simp [Session.gather, hr.le_size]
  | cons g gs ih =>
    obtain ⟨s, hrun, hs⟩ := hgs g List.mem_cons_self r hr
    obtain ⟨t, ht, hstays⟩ := ih (fun g' hg' => hgs g' (List.mem_cons_of_mem g hg')) (i + 1)
      (s.onSession Session.collect) (hr.congr hs.source hs.cursor)
    rw [onSession_session, Session.collect_cursor, hs.cursor] at ht
    refine ⟨t, ?_, hstays.failed, hstays.source.trans hs.source, hstays.cursor.trans hs.cursor⟩
    rw [Run.all, hrun, Option.bind_eq_bind, Option.bind_some, if_neg (by simp [hs.failed])]
    exact ht

theorem all_fails_atRest {g : Grammar V C} (hg : SettlesAtRest true child g)
    (gs : List (Grammar V C)) (i : Nat) (r : Run V C) (hr : r.AtRest) :
    ∃ r', Run.all child r.session.cursor i (g :: gs) r = some r' ∧ StaysAs true r r' := by
  obtain ⟨s, hrun, hs⟩ := hg r hr
  rw [Run.all, hrun, Option.bind_eq_bind, Option.bind_some, if_pos hs.failed]
  exact ⟨_, rfl, hs.failed, hs.source, by simp [hs.source, hr.le_size]⟩

theorem any_matches_atRest {g : Grammar V C} (hg : SettlesAtRest false child g)
    (gs : List (Grammar V C)) (n i : Nat) (r : Run V C) (hr : r.AtRest) :
    ∃ r', Run.any child r.session.cursor n i (g :: gs) r = some r' ∧ StaysAs false r r' := by
  obtain ⟨s, hrun, hs⟩ := hg (r.onSession (Session.moveTo r.session.cursor))
    (hr.congr rfl hr.moveTo)
  rw [Run.any, hrun, Option.bind_eq_bind, Option.bind_some, if_neg (by simp [hs.failed])]
  exact ⟨_, rfl, hs.failed, hs.source, hs.cursor.trans hr.moveTo⟩

/-- Alternatives that all fail at rest leave a choice that fails there. -/
theorem any_fails_atRest (gs : List (Grammar V C)) (hgs : ∀ g ∈ gs, SettlesAtRest true child g)
    (n i : Nat) (r : Run V C) (hr : r.AtRest) :
    ∃ r', Run.any child r.session.cursor n i gs r = some r' ∧ StaysAs true r r' := by
  induction gs generalizing i r with
  | nil =>
    refine ⟨_, rfl, ?_, ?_, ?_⟩ <;>
      simp [failed, Result.failed, Session.addFeedback, hr.le_size]
  | cons g gs ih =>
    obtain ⟨s, hrun, hs⟩ := hgs g List.mem_cons_self (r.onSession (Session.moveTo r.session.cursor))
      (hr.congr rfl hr.moveTo)
    have hcursor : s.session.cursor = r.session.cursor := hs.cursor.trans hr.moveTo
    obtain ⟨t, ht, hstays⟩ := ih (fun g' hg' => hgs g' (List.mem_cons_of_mem g hg')) (i + 1)
      (s.onSession Session.collect) (hr.congr hs.source hcursor)
    rw [onSession_session, Session.collect_cursor, hcursor] at ht
    refine ⟨t, ?_, hstays.failed, hstays.source.trans hs.source, hstays.cursor.trans hcursor⟩
    rw [Run.any, hrun, Option.bind_eq_bind, Option.bind_some, if_pos hs.failed]
    exact ht

/-- A child that fails at rest is not repeated. -/
theorem repeated_matches_atRest {g : Grammar V C} (hg : SettlesAtRest true child g)
    {most : Option Nat} (hgo : mayGoOn most 0 = true) (fuel : Nat) (r : Run V C) (hr : r.AtRest) :
    ∃ r', Run.repeated child r.session.cursor g 0 most (fuel + 1) r = some r' ∧
      StaysAs false r r' := by
  obtain ⟨s, hrun, hs⟩ := hg r hr
  obtain ⟨-, hsize⟩ := hr.congr hs.source hs.cursor
  let t := s.onSession fun s => { s with result := {} }
  have hround : rounds child g 0 most (fuel + 1) 0 r = some (t, 0, some s.session.result) :=
    rounds_failed hgo hrun hs.failed fuel
  obtain ⟨hmatch, hcursor, -⟩ := conclude_matched r.session.cursor 0 most 0
    (some s.session.result) t (Nat.le_refl 0) (hs.source ▸ hr.le_size) hsize
  have hclosed := conclude_closed r.session.cursor 0 most 0 (some s.session.result) t
  refine ⟨_, by rw [Run.repeated, hround]; rfl, hmatch, hclosed.1.trans hs.source, ?_⟩
  rw [hcursor]
  exact (congrArg (max r.session.cursor) hs.cursor).trans (Nat.max_self _)

end Loops

end Run

namespace Grammar

open Run

variable {env : Env V C} {n : Nat} {b : Bool}

/-- What the work of a parser comes to at rest, its hook does not change. -/
theorem settlesAtRest_of_work {g : Grammar V C} {hook : Script V C} (hg : g.hook? = some hook)
    (hb : b = true ∨ hook = .done)
    (h : ∀ r, r.AtRest → ∃ s, g.work env (parse env n) n r = some s ∧ StaysAs b r s) :
    SettlesAtRest b (parse env (n + 1)) g := by
  intro r hr
  obtain ⟨s, hwork, hs⟩ := h r hr
  refine ⟨s.finish hook, ?_, hs.finish hook hb⟩
  rw [parse_eq_work, hwork]
  simp [close, hg]

theorem primitive_failsAtRest {p : Primitive} (hook : Script V C) (miss : Miss)
    (hscan : (p.scan [] : Except Miss (Match V)) = .error miss) :
    SettlesAtRest true (parse env (n + 1)) (.primitive p hook) := by
  refine settlesAtRest_of_work rfl (Or.inl rfl) fun r hr => ⟨_, rfl, ?_⟩
  have hfails : r.session.scan p = r.session.unmatched miss.delta miss.message miss.cause := by
    rw [Session.scan, hr.rest, hscan]
  constructor <;> simp [failed, hfails, Result.failed]

theorem textEnd_matchesAtRest :
    SettlesAtRest false (parse env (n + 1)) (.primitive .textEnd (.done : Script V C)) := by
  refine settlesAtRest_of_work rfl (Or.inr rfl) fun r hr => ⟨_, rfl, ?_⟩
  obtain ⟨hmatch, hcursor⟩ := r.session.scan_textEnd hr.le_size
  have hfound := hmatch.2 ((r.session.source.restFrom_eq_nil_iff _).1 hr.rest)
  exact ⟨Bool.not_eq_true _ ▸ hfound, (Session.kept_source r.session.source).scan rfl .textEnd,
    hcursor⟩

/-- What a combinator comes to at rest is what its loop comes to there. -/
theorem settlesAtRest_of_loop {g : Grammar V C} {hook : Script V C} (hg : g.hook? = some hook)
    (hb : b = true ∨ hook = .done) (loop : Run V C → Option (Run V C))
    (hloop : ∀ r, g.work env (parse env n) n r = loop (r.onSession Session.pushFrame))
    (h : ∀ r, r.AtRest → ∃ s, loop r = some s ∧ StaysAs b r s) :
    SettlesAtRest b (parse env (n + 1)) g := by
  refine settlesAtRest_of_work hg hb fun r hr => ?_
  obtain ⟨s, hs, hstays⟩ := h (r.onSession Session.pushFrame) (hr.congr rfl rfl)
  exact ⟨s, (hloop r).trans hs, hstays.failed, hstays.source, hstays.cursor⟩

theorem all_failsAtRest {g : Grammar V C} (hg : SettlesAtRest true (parse env n) g)
    (gs : List (Grammar V C)) (hook : Script V C) :
    SettlesAtRest true (parse env (n + 1)) (.all (g :: gs) hook) :=
  settlesAtRest_of_loop rfl (Or.inl rfl) (fun r => Run.all _ r.session.cursor 0 _ r)
    (fun _ => rfl) (all_fails_atRest hg gs 0)

theorem all_matchesAtRest {gs : List (Grammar V C)}
    (hgs : ∀ g ∈ gs, SettlesAtRest false (parse env n) g) :
    SettlesAtRest false (parse env (n + 1)) (.all gs .done) :=
  settlesAtRest_of_loop rfl (Or.inr rfl) (fun r => Run.all _ r.session.cursor 0 _ r)
    (fun _ => rfl) (all_matches_atRest gs hgs 0)

theorem any_failsAtRest {gs : List (Grammar V C)}
    (hgs : ∀ g ∈ gs, SettlesAtRest true (parse env n) g) (hook : Script V C) :
    SettlesAtRest true (parse env (n + 1)) (.any gs hook) :=
  settlesAtRest_of_loop rfl (Or.inl rfl) (fun r => Run.any _ r.session.cursor _ 0 _ r)
    (fun _ => rfl) (any_fails_atRest gs hgs _ 0)

theorem any_matchesAtRest {g : Grammar V C} (hg : SettlesAtRest false (parse env n) g)
    (gs : List (Grammar V C)) : SettlesAtRest false (parse env (n + 1)) (.any (g :: gs) .done) :=
  settlesAtRest_of_loop rfl (Or.inr rfl) (fun r => Run.any _ r.session.cursor _ 0 _ r)
    (fun _ => rfl) (any_matches_atRest hg gs _ 0)

theorem many0_matchesAtRest {g : Grammar V C} (hg : SettlesAtRest true (parse env (n + 1)) g) :
    SettlesAtRest false (parse env (n + 2)) (.many0 g .done) :=
  settlesAtRest_of_loop rfl (Or.inr rfl) (fun r => Run.repeated _ r.session.cursor _ 0 none _ r)
    (fun _ => rfl) (repeated_matches_atRest hg rfl n)

end Grammar

theorem Mark.after?_nil (m : Mark) : m.after? [] = none := by
  simp [Mark.after?, m.chars_ne_nil]

namespace Settings

open Grammar

variable (radix : Radix) (newlines : Bool) (comment : Mark) (n : Nat)

theorem entry_failsAtRest :
    Run.SettlesAtRest true (Grammar.parse noCells (n + 2)) (entry radix newlines) :=
  all_failsAtRest (primitive_failsAtRest .done .identifier rfl) _ _

theorem item_failsAtRest :
    Run.SettlesAtRest true (Grammar.parse noCells (n + 3)) (item radix newlines comment) := by
  refine any_failsAtRest ?_ _
  simp only [List.forall_mem_cons, List.not_mem_nil, false_implies, implies_true, and_true]
  refine ⟨primitive_failsAtRest .done .blanks rfl,
    primitive_failsAtRest .done .lineComment ?_,
    primitive_failsAtRest .done (.blockComment openMark "") ?_,
    entry_failsAtRest radix newlines n⟩
  · simp [Primitive.scan, Mark.after?_nil]
  · simp [Primitive.scan, Mark.after?_nil]

/-- Where nothing is left to read, a settings grammar matches on the spot. -/
theorem file_matchesAtRest :
    Run.SettlesAtRest false (Grammar.parse noCells (n + 5)) (file radix newlines comment) := by
  refine all_matchesAtRest ?_
  simp only [List.forall_mem_cons, List.not_mem_nil, false_implies, implies_true, and_true]
  exact ⟨many0_matchesAtRest (item_failsAtRest radix newlines comment n),
    any_matchesAtRest textEnd_matchesAtRest _⟩

section Runs

variable {o : Options} {p : Parser} (source : Source) (offset : Nat)

theorem start_clamped :
    start source (start source offset).session.cursor = start source offset := by
  simp [start, Session.moveTo]

/-- A settings grammar that begins between two characters matches when the scan over the items
reaches the end of the text, and then it has read all of the text. -/
theorem runFrom_reads (hp : grammar o = .ok p)
    (hb : IsBoundary (start source offset).session.cursor source.chars) :
    (¬ (runFrom p source offset).failed = true ↔
      (scan o (start source offset).session.cursor (start source offset).session.rest).2 = []) ∧
    (¬ (runFrom p source offset).failed = true →
      (runFrom p source offset).session.cursor = source.size) := by
  obtain ⟨radix, comment, hradix, hmark, hgrammar⟩ := (valid_of_grammar hp).grammar
  obtain rfl : _ = p := Except.ok.inj (hgrammar.symm.trans hp)
  have heval := runFrom_eval radix o.newlineIsBlank comment source _ hb
  have hclamped : runFrom (file radix o.newlineIsBlank comment) source
        (start source offset).session.cursor =
      runFrom (file radix o.newlineIsBlank comment) source offset := by
    rw [runFrom, runFrom, start_clamped]
  rw [hclamped] at heval
  have hat : source.At (start source offset).session.cursor (start source offset).session.rest :=
    source.exists_cut hb
  have hn : byteLength (start source offset).session.rest ≤ source.size + 10 := by
    have hlength := hat.add_byteLength
    omega
  by_cases hend :
      (scan o (start source offset).session.cursor (start source offset).session.rest).2 = []
  · obtain ⟨result, stop, heval', hmatch, -, hstop⟩ := file_reads [] hat hradix hmark hn hend
    obtain ⟨hresult, hcursor, -⟩ := Outcome.mk.inj (Option.some.inj (heval.symm.trans heval'))
    have hmatch' :
        ¬ (runFrom (file radix o.newlineIsBlank comment) source offset).failed = true := by
      simp [Run.failed, Result.failed, hresult, hmatch]
    exact ⟨⟨fun _ => hend, fun _ => hmatch'⟩, fun _ => hcursor.trans hstop.add_byteLength⟩
  · obtain ⟨failure, hfailed, heval'⟩ := file_fails [] hat hradix hmark hn hend
    obtain ⟨hresult, -⟩ := Outcome.mk.inj (Option.some.inj (heval.symm.trans heval'))
    have hfailed' := (congrArg Result.failed hresult).trans hfailed
    exact ⟨⟨fun h => absurd hfailed' h, fun h => absurd h hend⟩, fun h => absurd hfailed' h⟩

/-- A settings grammar that begins inside of a character matches there and reads nothing. -/
theorem runFrom_inside (hp : grammar o = .ok p)
    (hb : ¬ IsBoundary (start source offset).session.cursor source.chars) :
    ¬ (runFrom p source offset).failed = true ∧
      (runFrom p source offset).session.cursor = (start source offset).session.cursor := by
  obtain ⟨radix, comment, -, -, hgrammar⟩ := (valid_of_grammar hp).grammar
  obtain rfl : _ = p := Except.ok.inj (hgrammar.symm.trans hp)
  have hrest : (start source offset).AtRest :=
    ⟨(source.restFrom_eq_nil_iff _).2 (Or.inr hb), Nat.min_le_right offset source.size⟩
  obtain ⟨r, hrun, hstays⟩ := file_matchesAtRest radix o.newlineIsBlank comment (source.size + 11)
    (start source offset) hrest
  have hrunFrom : runFrom (file radix o.newlineIsBlank comment) source offset = r :=
    congrArg (·.getD (start source offset)) hrun
  rw [hrunFrom]
  exact ⟨by simp [hstays.failed], hstays.cursor⟩

end Runs

end Settings

/-- A parser for the end of the text matches, before its hook, at the end and inside of characters,
and nowhere else; and it stays there. This is so in every parse, whatever hooks and scripts do with
the cursor. So a settings grammar that begins between two characters has read all of the text when
it matches; one that begins inside of a character matches at once and reads nothing. -/
theorem textEnd_found (env : Env V C) (g : Grammar V C) (o : Settings.Options) (source : Source) :
    (∀ (fuel : Nat) (r : Run V C) (c : Call V C), r.session.Reached →
      g.record env fuel r = some c → c.Every Call.FindsEnd) ∧
    ∀ (p : Settings.Parser) (offset : Nat), Settings.grammar o = .ok p →
      let start := (Settings.start source offset).session.cursor
      let r := Settings.runFrom p source offset
      (IsBoundary start source.chars → ¬ r.failed = true → r.session.cursor = source.size) ∧
        (¬ IsBoundary start source.chars → ¬ r.failed = true ∧ r.session.cursor = start) := by
  refine ⟨fun fuel r c hr hc => Grammar.record_findsEnd env fuel g r hr c hc, ?_⟩
  intro p offset hp
  exact ⟨fun hb => (Settings.runFrom_reads source offset hp hb).2,
    Settings.runFrom_inside source offset hp⟩

section Accents

/-- A character of two bytes and an entry. -/
def accented : Source := ⟨"accented", "é a=1"⟩

def beforeAccented (offset : Nat) : Run Unit Unit :=
  ⟨({ source := accented } : Session Unit).moveTo offset, (), #[]⟩

theorem beforeAccented_reached (offset : Nat) : (beforeAccented offset).session.Reached :=
  .moveTo _ offset (.fresh accented)

def atEnd : Grammar Unit Unit := .primitive .textEnd .done

/-- Behind the character a settings grammar reads up to the end; in the midst of it, nothing. -/
theorem textEnd_found_accented :
    (∃ c, (Grammar.many0 atEnd .done).record unboundCells 4 (beforeAccented 6) = some c ∧
      c.Every Call.FindsEnd) ∧
    ∃ p, Settings.grammar {} = .ok p ∧ (Settings.runFrom p accented 2).session.cursor = 6 ∧
      (Settings.runFrom p accented 1).session.cursor = 1 := by
  obtain ⟨hfinds, hreads⟩ := textEnd_found unboundCells (.many0 atEnd .done) {} accented
  constructor
  · have hcall : ((Grammar.many0 atEnd .done).record unboundCells 4 (beforeAccented 6)).isSome =
        true := by decide +kernel
    obtain ⟨c, hc⟩ := Option.isSome_iff_exists.1 hcall
    exact ⟨c, hc, hfinds 4 _ c (beforeAccented_reached 6) hc⟩
  · obtain ⟨radix, comment, hradix, hmark, hp⟩ :=
      Settings.Options.Valid.grammar (o := {}) (by decide)
    have hscan : Settings.scan {} (Settings.start accented 2).session.cursor
        (Settings.start accented 2).session.rest = ([⟨"a", .number 1, 3⟩], []) := by
      decide +kernel
    have hmatch := ((Settings.runFrom_reads accented 2 hp (by decide +kernel)).1.2
      (congrArg Prod.snd hscan))
    exact ⟨_, hp, (hreads _ 2 hp).1 (by decide +kernel) hmatch,
      ((hreads _ 1 hp).2 (by decide +kernel)).2⟩

/-- In the midst of the character the end is found, with five bytes to come, and a settings grammar
takes the entry for read. -/
theorem textEnd_found_early :
    (∃ (r : Run Unit Unit) (c : Call Unit Unit), r.session.Reached ∧
      atEnd.record unboundCells 1 r = some c ∧ ¬ c.settled.failed = true ∧
      c.settled.session.cursor ≠ r.session.source.size) ∧
    ∃ p, Settings.grammar {} = .ok p ∧ ¬ (Settings.runFrom p accented 1).failed = true ∧
      (Settings.runFrom p accented 1).session.cursor ≠ accented.size := by
  constructor
  · have hcall : (atEnd.record unboundCells 1 (beforeAccented 1)).map (fun c => decide
        (¬ c.settled.failed = true ∧ c.settled.session.cursor ≠ accented.size)) = some true := by
      decide +kernel
    obtain ⟨c, hc, hcall⟩ := Option.map_eq_some_iff.1 hcall
    obtain ⟨hmatch, hcursor⟩ := of_decide_eq_true hcall
    exact ⟨beforeAccented 1, c, beforeAccented_reached 1, hc, hmatch, hcursor⟩
  · obtain ⟨radix, comment, -, -, hp⟩ := Settings.Options.Valid.grammar (o := {}) (by decide)
    obtain ⟨hmatch, hcursor⟩ := Settings.runFrom_inside accented 1 hp (by decide +kernel)
    refine ⟨_, hp, hmatch, ?_⟩
    rw [hcursor]
    decide +kernel

end Accents

end Descent

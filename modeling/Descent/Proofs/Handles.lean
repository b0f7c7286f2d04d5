import Descent.Proofs.Names
import Descent.Proofs.Observation

/-!
# Handles

All handles of a cell reach the one parser that was bound to it first, under
whatever names they go and wherever they stand. A cell without owning handles
is dropped, and once dropped it stays dropped.
-/
namespace Descent

variable {V C : Type}

/-- A failure at the cursor, which stays where it is. -/
structure Run.FailedFrom (r' r : Run V C) (message : String) : Prop where
  session : r'.session = r.session.unmatched 0 message none
  context : r'.context = r.context
  failed : r'.failed = true
  cursor : r'.session.cursor = r.session.cursor

theorem Run.failedFrom (r : Run V C) (message : String) :
    (r.onSession (Session.unmatched 0 message none)).FailedFrom r message :=
  ⟨rfl, rfl, by simp [failed, Result.failed], by simp⟩

namespace Workbench

variable {w u v : Workbench V C} {bound : List (Nat × Grammar V C)}

section Steps

/-- The bind that a step has made. -/
def binding? (w : Workbench V C) : Command V C → Answer → Option (Nat × Grammar V C)
  | .bind name b, .nothing =>
    (w.handle? name).bind fun h => (w.build b).toOption.map fun g => (h.cell, g)
  | _, _ => none

/-- The binds that succeed on the way through commands, the first one first. -/
def bindings (fuel : Nat) : List (Command V C) → Workbench V C → List (Nat × Grammar V C)
  | [], _ => []
  | command :: commands, w =>
    match w.step fuel command with
    | some (v, answer) => (w.binding? command answer).toList ++ bindings fuel commands v
    | none => []

/-- Nothing has happened to cells, or to what owns them. -/
structure SameCells (w v : Workbench V C) : Prop where
  store : v.store = w.store
  handles : v.handles = w.handles
  definitions : v.definitions = w.definitions
  pinned : v.pinned = w.pinned

theorem SameCells.refl (w : Workbench V C) : w.SameCells w := ⟨rfl, rfl, rfl, rfl⟩

theorem bind_of_handle? {name : String} {b : Blueprint V C} {cell : Nat} {g : Grammar V C}
    (hname : w.handle? name = some ⟨cell, true⟩) (hbuild : w.build b = .ok g) :
    w.bind name b =
      match w.store.bind cell g with
      | .ok s => .ok { w with store := s }.sweep
      | .error e => .error (.config e) := by
  rw [bind, hbuild]
  simp only [Bind.bind, Except.bind, hname]
  rfl

variable {fuel : Nat} {command : Command V C} {answer : Answer}

theorem Prepares.unbound (h : w.Prepares bound u) (hnone : w.binding? command answer = none) :
    w.Prepares (bound ++ (w.binding? command answer).toList) u := by
  rw [hnone]
  simpa using h

/-- What a step does: nothing to the cells, or something that is followed by a sweep. -/
theorem Sound.step_cases (h : w.Sound bound) (hstep : w.step fuel command = some (v, answer)) :
    w.binding? command answer = none ∧ w.SameCells v ∨
      ∃ u, v = u.sweep ∧ w.Prepares (bound ++ (w.binding? command answer).toList) u := by
  cases command with
  | perform script =>
    cases hstep
    exact .inl ⟨rfl, rfl, rfl, rfl, rfl⟩
  | define name b =>
    simp only [step, settle] at hstep
    cases hdefine : w.define name b with
    | error e =>
      rw [hdefine] at hstep
      cases hstep
      exact .inl ⟨rfl, .refl w⟩
    | ok v' =>
      rw [hdefine] at hstep
      cases hstep
      obtain ⟨g, hg, hdefine⟩ := exists_of_bind_ok hdefine
      refine .inr ⟨_, (Except.ok.inj hdefine).symm, .unbound (h.prepares_of_holds rfl rfl ?_) rfl⟩
      rintro handle (hnamed | ⟨name', g', hmem, hmention⟩)
      · exact .inl hnamed
      · rcases mem_put.1 hmem with ⟨-, rfl⟩ | ⟨hmem, -⟩
        · exact holds_of_mentions hg hmention
        · exact .inr ⟨name', g', hmem, hmention⟩
  | bind name b =>
    simp only [step, settle] at hstep
    cases hbind : w.bind name b with
    | error e =>
      rw [hbind] at hstep
      cases hstep
      exact .inl ⟨rfl, .refl w⟩
    | ok v' =>
      rw [hbind] at hstep
      cases hstep
      obtain ⟨g, cell, s, hg, hname, hs, hv⟩ := bind_ok hbind
      refine .inr ⟨_, hv, ?_⟩
      have hbinding : w.binding? (.bind name b) .nothing = some (cell, g) := by
        simp [binding?, hname, hg, Except.toOption]
      rw [hbinding]
      exact h.prepares_bind (holds_of_handle? hname) (fun _ => holds_of_mentions hg) hs
  | run name =>
    simp only [step] at hstep
    cases hparser : w.parser? name with
    | none =>
      rw [hparser] at hstep
      cases hstep
      exact .inl ⟨rfl, .refl w⟩
    | some g =>
      rw [hparser] at hstep
      obtain ⟨v', hv, hpair⟩ := Option.map_eq_some_iff.1 hstep
      cases hpair
      obtain ⟨r, -, hv⟩ := Option.bind_eq_some_iff.1 hv
      cases hv
      exact .inl ⟨rfl, rfl, rfl, rfl, rfl⟩
  | save =>
    cases hstep
    exact .inl ⟨rfl, rfl, rfl, rfl, rfl⟩
  | restore =>
    simp only [step] at hstep
    cases hsaved : w.saved <;> rw [hsaved] at hstep <;> cases hstep <;>
      exact .inl ⟨rfl, rfl, rfl, rfl, rfl⟩
  | create name =>
    cases hstep
    exact .inr ⟨_, rfl, (h.prepares_create name).unbound rfl⟩
  | clone name copy =>
    simp only [step] at hstep
    cases hname : w.handle? name with
    | none =>
      rw [hname] at hstep
      cases hstep
      exact .inl ⟨rfl, .refl w⟩
    | some handle =>
      rw [hname] at hstep
      cases hstep
      refine .inr ⟨_, rfl, .unbound (h.prepares_of_holds rfl rfl fun handle' hheld => ?_) rfl⟩
      rcases holds_of_put (w := w) hheld rfl rfl with rfl | hheld
      · exact holds_of_handle? hname
      · exact hheld
  | weaken name copy =>
    simp only [step] at hstep
    cases hname : w.handle? name with
    | none =>
      rw [hname] at hstep
      cases hstep
      exact .inl ⟨rfl, .refl w⟩
    | some handle =>
      rw [hname] at hstep
      cases hstep
      refine .inr ⟨_, rfl,
        .unbound (h.prepares_of_owning rfl rfl (fun cell hheld => ?_) fun handle' hheld => ?_) rfl⟩
      · rcases holds_of_put (w := w) hheld rfl rfl with heq | hheld
        · cases congrArg Handle.owning heq
        · exact hheld
      · rcases holds_of_put (w := w) hheld rfl rfl with rfl | hheld
        · exact h.created handle (.inl (holds_of_handle? hname))
        · exact h.created handle' (.inl hheld)
  | isBound name =>
    simp only [step] at hstep
    cases hname : w.handle? name <;> rw [hname] at hstep <;> cases hstep <;>
      exact .inl ⟨rfl, .refl w⟩
  | drop name =>
    cases hstep
    refine .inr ⟨_, rfl, .unbound (h.prepares_of_holds rfl rfl ?_) rfl⟩
    rintro handle (⟨name', hmem⟩ | ⟨name', g, hmem, hmention⟩)
    · exact .inl ⟨name', (mem_remove.1 hmem).1⟩
    · exact .inr ⟨name', g, (mem_remove.1 hmem).1, hmention⟩

theorem SameCells.sound (hsame : w.SameCells v) (h : w.Sound bound) : v.Sound bound := by
  obtain ⟨session, context, trace, saved, store, handles, definitions, pinned⟩ := v
  obtain ⟨rfl, rfl, rfl, rfl⟩ := hsame
  exact ⟨⟨h.once, h.bound_iff, h.owned, h.created, h.bound_created, h.pinned⟩, h.stable⟩

theorem Sound.sound_step (h : w.Sound bound) (hstep : w.step fuel command = some (v, answer)) :
    v.Sound (bound ++ (w.binding? command answer).toList) := by
  rcases h.step_cases hstep with ⟨hnone, hsame⟩ | ⟨u, rfl, hprepares⟩
  · rw [hnone, Option.toList_none, List.append_nil]
    exact hsame.sound h
  · exact hprepares.prepared.sweep

/-- Cells are never taken away, and what has been dropped stays dropped. -/
theorem Sound.step_dropped (h : w.Sound bound)
    (hstep : w.step fuel command = some (v, answer)) :
    w.store.cells.length ≤ v.store.cells.length ∧
      ∀ cell < w.store.cells.length, w.Dropped cell → v.Dropped cell := by
  rcases h.step_cases hstep with ⟨-, hsame⟩ | ⟨u, rfl, hprepares⟩
  · unfold Dropped
    rw [hsame.store]
    exact ⟨le_rfl, fun _ _ hdropped => hdropped⟩
  · refine ⟨hprepares.grows.trans_eq (Store.sweep_length _ _).symm, fun cell hlt hdropped => ?_⟩
    rcases Store.sweep_env u.roots u.store cell with hswept | hsame
    · exact hswept
    · exact hsame.trans ((hprepares.dropped_iff cell hlt).2 hdropped)

/-- Cells that have handles left, or own one another, are not dropped. -/
theorem Sound.step_kept (h : w.Sound bound) (hstep : w.step fuel command = some (v, answer))
    {S : Set Nat} (hS : ∀ cell ∈ S, ¬w.Dropped cell ∧ (v.Holds ⟨cell, true⟩ ∨
      ∃ owner ∈ S, ∃ g, (owner, g) ∈ bound ∧ g.Mentions ⟨cell, true⟩)) :
    ∀ cell ∈ S, ¬v.Dropped cell := by
  rcases h.step_cases hstep with ⟨-, hsame⟩ | ⟨u, rfl, hprepares⟩
  · unfold Dropped
    rw [hsame.store]
    exact fun cell hcell => (hS cell hcell).1
  · have halive : ∀ cell ∈ S, ¬u.Dropped cell := by
      intro cell hcell
      have halive := (hS cell hcell).1
      exact (hprepares.dropped_iff cell (Store.lt_of_env_ne halive)).not.2 halive
    have hsupported : u.store.Supported u.roots S := by
      intro cell hcell
      refine ⟨halive cell hcell, (hS cell hcell).2.imp ?_ ?_⟩
      · exact (mem_roots hprepares.prepared.pinned).2
      · rintro ⟨owner, howner, g, hbound, hmention⟩
        have hbound' := List.mem_append_left (w.binding? command answer).toList hbound
        exact ⟨owner, howner, g,
          (hprepares.prepared.bound_iff owner g (halive owner howner)).2 hbound', hmention⟩
    intro cell hcell
    have hsame : u.sweep.store.env cell = u.store.env cell := hsupported.sweepTimes_env _ hcell
    rw [Dropped, hsame]
    exact halive cell hcell

theorem Sound.sound_runAll (h : w.Sound bound) {commands : List (Command V C)}
    {answers : List Answer} (hrun : w.runAll fuel commands = some (v, answers)) :
    v.Sound (bound ++ w.bindings fuel commands) := by
  induction commands generalizing w bound answers with
  | nil =>
    cases hrun
    simpa [bindings] using h
  | cons command commands ih =>
    obtain ⟨⟨u, answer⟩, hstep, hrun⟩ := Option.bind_eq_some_iff.1 hrun
    obtain ⟨⟨v', rest⟩, hrest, hpair⟩ := Option.bind_eq_some_iff.1 hrun
    cases hpair
    rw [bindings, hstep]
    simpa using ih (h.sound_step hstep) hrest

theorem Sound.runAll_dropped (h : w.Sound bound) {commands : List (Command V C)}
    {answers : List Answer} (hrun : w.runAll fuel commands = some (v, answers)) :
    ∀ cell < w.store.cells.length, w.Dropped cell → v.Dropped cell := by
  induction commands generalizing w bound answers with
  | nil =>
    cases hrun
    exact fun _ _ hdropped => hdropped
  | cons command commands ih =>
    obtain ⟨⟨u, answer⟩, hstep, hrun⟩ := Option.bind_eq_some_iff.1 hrun
    obtain ⟨⟨v', rest⟩, hrest, hpair⟩ := Option.bind_eq_some_iff.1 hrun
    cases hpair
    obtain ⟨hgrows, hdropped⟩ := h.step_dropped hstep
    exact fun cell hlt hcell => ih (h.sound_step hstep) hrest cell (hlt.trans_le hgrows)
      (hdropped cell hlt hcell)

end Steps

/-- Nothing has been created or defined yet. -/
structure Fresh (w : Workbench V C) : Prop where
  cells : w.store.cells = []
  handles : w.handles = []
  definitions : w.definitions = []
  pinned : w.pinned = []

theorem Fresh.sound (h : w.Fresh) : w.Sound [] := by
  have hdropped : ∀ cell, w.store.env cell = .dropped := by
    intro cell
    simp [Store.env, h.cells]
  have hholds : ∀ handle, ¬w.Holds handle := by
    intro handle
    simp [Holds, h.handles, h.definitions]
  refine ⟨⟨List.nodup_nil, ?bound_iff, ?owned, ?created, ?bound_created, h.pinned⟩, ?stable⟩
  case bound_iff =>
    intro cell g halive
    exact absurd (hdropped cell) halive
  case owned =>
    rintro cell (hroot | ⟨owner, g, hbound, -⟩)
    · exact absurd ((mem_roots h.pinned).1 hroot) (hholds _)
    · rw [hdropped] at hbound
      cases hbound
  case created =>
    rintro handle (hheld | ⟨p, hp, -⟩)
    · exact absurd hheld (hholds handle)
    · cases hp
  case bound_created =>
    intro p hp
    cases hp
  case stable =>
    intro cell halive
    exact absurd (hdropped cell) halive

/-- What handles come to when the binds in `bound` have succeeded. -/
structure Faithful (fuel : Nat) (bound : List (Nat × Grammar V C)) (w : Workbench V C) :
    Prop where
  /-- A new handle owns a cell of its own. -/
  create : ∀ name, ∃ v, w.step fuel (.create name) = some (v, .nothing) ∧
    v.under name = (some ⟨w.store.cells.length, true⟩, w.definitions.lookup name) ∧
    ∀ g, (w.store.cells.length, g) ∉ bound
  clone : ∀ name copy h, w.handle? name = some h → ∃ v,
    w.step fuel (.clone name copy) = some (v, .nothing) ∧
      v.under copy = (some h, w.definitions.lookup copy)
  weaken : ∀ name copy h, w.handle? name = some h → ∃ v,
    w.step fuel (.weaken name copy) = some (v, .nothing) ∧
      v.under copy = (some ⟨h.cell, false⟩, w.definitions.lookup copy)
  define : ∀ name b g, w.build b = .ok g → ∃ v, w.step fuel (.define name b) = some (v, .nothing) ∧
    v.under name = (w.handle? name, some g)
  drop : ∀ name, ∃ v, w.step fuel (.drop name) = some (v, .nothing) ∧ v.under name = (none, none)
  elsewhere : ∀ command v answer, w.step fuel command = some (v, answer) →
    ∀ name, command.named? ≠ some name → v.under name = w.under name
  /-- In a grammar that is built now, a name is the handle that it stands for now. -/
  reference : ∀ name h, w.handle? name = some h →
    w.build (.reference name) = .ok (.reference h.cell h.owning)
  run_definition : ∀ name g, w.definitions.lookup name = some g →
    w.step fuel (.run name) = (w.parse fuel g).map (·, .nothing)
  run_handle : ∀ name h, w.under name = (some h, none) →
    w.step fuel (.run name) = (w.parse fuel (.reference h.cell h.owning)).map (·, .nothing)
  /-- Handles of one cell run the same, whether they own it or not. -/
  aliases : ∀ name name' h h', w.under name = (some h, none) → w.under name' = (some h', none) →
    h.cell = h'.cell → w.step fuel (.run name) = w.step fuel (.run name')
  isBound : ∀ name cell, w.handle? name = some ⟨cell, true⟩ → ∃ b,
    w.step fuel (.isBound name) = some (w, .bound b) ∧ (b = true ↔ ∃ g, (cell, g) ∈ bound)
  once : (bound.map (·.1)).Nodup
  /-- Handles are made of cells that are there, in grammars as well. -/
  created : ∀ h, (w.Holds h ∨ ∃ p ∈ bound, p.2.Mentions h) → h.cell < w.store.cells.length
  bind_first : ∀ name b cell g, w.handle? name = some ⟨cell, true⟩ → w.build b = .ok g →
    (∀ g', (cell, g') ∉ bound) → ∃ v, w.step fuel (.bind name b) = some (v, .nothing)
  bind_again : ∀ name b cell g, w.handle? name = some ⟨cell, true⟩ → w.build b = .ok g →
    (∃ g', (cell, g') ∈ bound) →
      w.step fuel (.bind name b) = some (w, .refused (.config .forwardAlreadyBound))
  refused : ∀ command v e, w.step fuel command = some (v, .refused e) → v = w
  parse_bound : ∀ cell g, ¬w.Dropped cell → (cell, g) ∈ bound → ∀ owning n r,
    (Grammar.reference cell owning).parse w.store.env (n + 1) r = g.parse w.store.env n r
  parse_unbound : ∀ cell, ¬w.Dropped cell → (∀ g, (cell, g) ∉ bound) → ∀ owning n r,
    ∃ r', (Grammar.reference cell owning).parse w.store.env (n + 1) r = some r' ∧
      r'.FailedFrom r "forward parser used before being bound"
  parse_dropped : ∀ cell, w.Dropped cell → ∀ owning n r,
    ∃ r', (Grammar.reference cell owning).parse w.store.env (n + 1) r = some r' ∧
      r'.FailedFrom r "forward parser was dropped"
  /-- A cell is dropped when no name, no definition and no target of a cell that lives itself has
  an owning handle of it. -/
  dropped_iff : ∀ cell, w.Dropped cell ↔ ¬w.Holds ⟨cell, true⟩ ∧
    ∀ owner g, (owner, g) ∈ bound → g.Mentions ⟨cell, true⟩ → w.Dropped owner
  /-- Live cells that a step leaves owned, if only by the targets of one another, live on. -/
  kept : ∀ command v answer, w.step fuel command = some (v, answer) → ∀ S : Set Nat,
    (∀ cell ∈ S, ¬w.Dropped cell ∧ (v.Holds ⟨cell, true⟩ ∨
      ∃ owner ∈ S, ∃ g, (owner, g) ∈ bound ∧ g.Mentions ⟨cell, true⟩)) →
    ∀ cell ∈ S, ¬v.Dropped cell

theorem Sound.env_unbound (h : w.Sound bound) {cell : Nat} (halive : ¬w.Dropped cell)
    (hunbound : ∀ g, (cell, g) ∉ bound) : w.store.env cell = .unbound := by
  cases htarget : w.store.env cell with
  | unbound => rfl
  | bound g => exact absurd ((h.bound_iff cell g halive).1 htarget) (hunbound g)
  | dropped => exact absurd htarget halive

theorem Sound.isBound_iff (h : w.Sound bound) {cell : Nat} (halive : ¬w.Dropped cell) :
    w.store.isBound cell = true ↔ ∃ g, (cell, g) ∈ bound := by
  simp only [← h.bound_iff cell _ halive]
  cases htarget : w.store.env cell with
  | unbound =>
    obtain ⟨c, hc, -, hnone⟩ := Store.env_eq_unbound_iff.1 htarget
    simp [Store.isBound, hc, hnone]
  | bound g =>
    obtain ⟨c, hc, -, hsome⟩ := Store.env_eq_bound_iff.1 htarget
    simp [Store.isBound, hc, hsome]
  | dropped => exact absurd htarget halive

theorem step_run_handle {name : String} {handle : Handle}
    (hunder : w.under name = (some handle, none)) :
    w.step fuel (.run name) =
      (w.parse fuel (.reference handle.cell handle.owning)).map (·, .nothing) := by
  obtain ⟨hname, hdefinition⟩ := Prod.ext_iff.1 hunder
  have hparser : w.parser? name = some (.reference handle.cell handle.owning) := by
    rw [parser?, show w.definitions.lookup name = none from hdefinition,
      show w.handle? name = some handle from hname]
    rfl
  simp only [step, hparser]

theorem Sound.faithful (h : w.Sound bound) (fuel : Nat) : w.Faithful fuel bound where
  create name :=
    ⟨_, rfl, Prod.ext (lookup_put_same _ _ _) rfl,
      fun g hmem => absurd (h.bound_created _ hmem) (lt_irrefl _)⟩
  clone name copy handle hname := by
    refine ⟨w.setHandle copy handle, ?_, Prod.ext (lookup_put_same _ _ _) rfl⟩
    simp only [step, hname]
  weaken name copy handle hname := by
    refine ⟨w.setHandle copy ⟨handle.cell, false⟩, ?_, Prod.ext (lookup_put_same _ _ _) rfl⟩
    simp only [step, hname]
  define name b g hbuild := by
    have hunder : ({ w with definitions := put name g w.definitions } :
        Workbench V C).sweep.under name = (w.handle? name, some g) :=
      Prod.ext rfl (lookup_put_same _ _ _)
    refine ⟨_, ?_, hunder⟩
    simp only [step, Workbench.define, hbuild]
    rfl
  drop name := ⟨_, rfl, Prod.ext (lookup_remove_same _ _) (lookup_remove_same _ _)⟩
  elsewhere _ _ _ hstep _ hname := step_elsewhere hstep hname
  reference name handle hname := by
    simp only [build, Blueprint.build, hname]
  run_definition name g hname := by
    have hparser : w.parser? name = some g := by
      rw [parser?, hname]
      rfl
    simp only [step, hparser]
  run_handle _ _ hunder := step_run_handle hunder
  aliases name name' handle handle' hunder hunder' hcell := by
    rw [step_run_handle hunder, step_run_handle hunder', hcell]
    cases fuel <;> rfl
  isBound name cell hname := by
    refine ⟨_, ?_, h.isBound_iff (h.alive_of_holds (holds_of_handle? hname))⟩
    simp only [step, hname]
  once := h.once
  created := h.created
  bind_first name b cell g hname hbuild hfirst := by
    have halive := h.alive_of_holds (holds_of_handle? hname)
    obtain ⟨s, hs, -⟩ := Store.bind_of_unbound (g := g) (h.env_unbound halive hfirst)
    refine ⟨{ w with store := s }.sweep, ?_⟩
    simp only [step, bind_of_handle? hname hbuild, hs, settle]
  bind_again name b cell g hname hbuild hagain := by
    obtain ⟨g', hmem⟩ := hagain
    have halive := h.alive_of_holds (holds_of_handle? hname)
    have hs := Store.bind_of_bound (g := g) ((h.bound_iff cell g' halive).2 hmem)
    simp only [step, bind_of_handle? hname hbuild, hs, settle]
  refused _ _ _ hstep := step_refused hstep
  parse_bound cell g halive hmem owning n r := by
    have htarget := (h.bound_iff cell g halive).2 hmem
    simp only [Grammar.parse, htarget]
  parse_unbound cell halive hunbound owning n r := by
    have htarget := h.env_unbound halive hunbound
    exact ⟨_, by simp only [Grammar.parse, htarget], r.failedFrom _⟩
  parse_dropped cell hdropped owning n r := by
    rw [Dropped] at hdropped
    exact ⟨_, by simp only [Grammar.parse, hdropped], r.failedFrom _⟩
  dropped_iff cell := by
    constructor
    · intro hdropped
      refine ⟨fun hholds => h.alive_of_holds hholds hdropped, fun owner g hmem hmention => ?_⟩
      by_contra halive
      have htarget := (h.bound_iff owner g halive).2 hmem
      exact h.owned cell (.inr ⟨owner, g, htarget, hmention⟩) hdropped
    · rintro ⟨hholds, howners⟩
      by_contra halive
      rcases h.stable cell halive with hroot | ⟨owner, g, htarget, hmention⟩
      · exact hholds ((mem_roots h.pinned).1 hroot)
      · have howner : ¬w.Dropped owner := by simp [Dropped, htarget]
        exact howner (howners owner g ((h.bound_iff owner g howner).1 htarget) hmention)
  kept _ _ _ hstep _ := h.step_kept hstep

/-- Whatever is done with handles, a cell is bound by the first bind through one of its owning
handles and by no other, all its handles reach what it is bound to, and it is dropped when no
owning handle is left, for good. -/
theorem runAll_faithful (fuel : Nat) (commands : List (Command V C)) (w v : Workbench V C)
    (answers : List Answer) (hfresh : w.Fresh)
    (hrun : w.runAll fuel commands = some (v, answers)) :
    v.Faithful fuel (w.bindings fuel commands) ∧
      ∀ more v' answers', v.runAll fuel more = some (v', answers') →
        ∀ cell < v.store.cells.length, v.Dropped cell → v'.Dropped cell := by
  have hsound : v.Sound (w.bindings fuel commands) := hfresh.sound.sound_runAll hrun
  exact ⟨hsound.faithful fuel, fun _ _ _ hmore => hsound.runAll_dropped hmore⟩

/-- The second cell is owned by the target of the first only, and goes with it. The third has a
target that owns it. -/
def handleCommands : List (Command Unit Unit) :=
  [.create "x", .create "y", .weaken "y" "y'", .bind "x" (.reference "y"), .drop "y",
    .bind "x" (.reference "x"), .drop "x", .create "z", .weaken "z" "z'",
    .bind "z" (.optional (.reference "z") .done)]

def handleBench : Workbench Unit Unit := { session := { source := ⟨"names", ""⟩ }, context := () }

/-- Without its last owning handle the third cell lives on. -/
theorem runAll_faithful_cycle :
    ∃ v v' answers, handleBench.runAll 1 handleCommands = some (v, answers) ∧
      answers[5]? = some (.refused (.config .forwardAlreadyBound)) ∧
      v.Dropped 0 ∧ v.Dropped 1 ∧ v.step 1 (.drop "z") = some (v', .nothing) ∧
      v'.handles = [("z'", ⟨2, false⟩), ("y'", ⟨1, false⟩)] ∧ v'.Dropped 1 ∧ ¬v'.Dropped 2 := by
  obtain ⟨v, answers, hrun, hanswer, hhandles, hdefinitions⟩ : ∃ v answers,
      handleBench.runAll 1 handleCommands = some (v, answers) ∧
      answers[5]? = some (.refused (.config .forwardAlreadyBound)) ∧
      v.handles = [("z'", ⟨2, false⟩), ("z", ⟨2, true⟩), ("y'", ⟨1, false⟩)] ∧
      v.definitions = [] := ⟨_, _, rfl, rfl, rfl, rfl⟩
  have hbindings : handleBench.bindings 1 handleCommands =
      [(0, .reference 1 true), (2, .optional (.reference 2 true) .done)] := rfl
  obtain ⟨hfaithful, hlater⟩ :=
    runAll_faithful 1 handleCommands handleBench v answers ⟨rfl, rfl, rfl, rfl⟩ hrun
  rw [hbindings] at hfaithful
  have hholds : ∀ cell, v.Holds ⟨cell, true⟩ ↔ cell = 2 := by
    intro cell
    simp [Holds, hhandles, hdefinitions]
  have hmentions : ∀ cell owner g,
      (owner, g) ∈ [(0, (.reference 1 true : Grammar Unit Unit)),
        (2, .optional (.reference 2 true) .done)] →
      g.Mentions ⟨cell, true⟩ → owner = 0 ∧ cell = 1 ∨ owner = 2 ∧ cell = 2 := by
    simp only [List.mem_cons, List.not_mem_nil, or_false, Prod.mk_inj, ← Grammar.mem_owned]
    rintro cell owner g (⟨rfl, rfl⟩ | ⟨rfl, rfl⟩) hcell <;> simpa [Grammar.owned] using hcell
  have hfirst : v.Dropped 0 := by
    refine (hfaithful.dropped_iff 0).2 ⟨by simp [hholds], fun owner g hmem hmention => ?_⟩
    simpa using hmentions 0 owner g hmem hmention
  have hsecond : v.Dropped 1 := by
    refine (hfaithful.dropped_iff 1).2 ⟨by simp [hholds], fun owner g hmem hmention => ?_⟩
    obtain rfl : owner = 0 := by simpa using hmentions 1 owner g hmem hmention
    exact hfirst
  have hthird : ¬v.Dropped 2 := fun hdropped =>
    ((hfaithful.dropped_iff 2).1 hdropped).1 ((hholds 2).2 rfl)
  have hcreated := hfaithful.created ⟨1, false⟩ (.inl (.inl ⟨"y'", by simp [hhandles]⟩))
  have hstep : v.step 1 (.drop "z") = some (_, .nothing) := rfl
  refine ⟨v, _, answers, hrun, hanswer, hfirst, hsecond, hstep, ?_, ?_, ?_⟩
  · simp [Workbench.sweep, remove, hhandles]
  · exact hlater [.drop "z"] _ [.nothing] rfl 1 hcreated hsecond
  · refine hfaithful.kept _ _ _ hstep {2} ?_ 2 rfl
    rintro cell rfl
    exact ⟨hthird, .inr ⟨2, rfl, _, .tail _ (.head _), .optional _ .reference⟩⟩

end Workbench

end Descent

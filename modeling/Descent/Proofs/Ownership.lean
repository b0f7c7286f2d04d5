import Descent.Proofs.Sweep

/-!
# Owning cells

Owning handles are left under names, in definitions and in the targets of live
cells. No command makes one of a cell that has been dropped, since a grammar is
built with the handles that have names. So what is owned is alive before a
sweep, and after it nothing else is.
-/
namespace Descent

variable {V C : Type}

theorem exists_of_bind_ok {ε α β : Type} {x : Except ε α} {f : α → Except ε β} {b : β}
    (h : (x >>= f) = .ok b) : ∃ a, x = .ok a ∧ f a = .ok b := by
  cases x with
  | error e => cases h
  | ok a => exact ⟨a, rfl, h⟩

namespace Blueprint

theorem checked_ok {p : Except ConfigError Primitive} {hook : Script V C} {g : Grammar V C}
    (h : checked p hook = .ok g) : ∃ q, g = .primitive q hook := by
  cases p with
  | ok q => exact ⟨q, (Except.ok.inj h).symm⟩
  | error e => cases h

variable {handles : String → Option Handle} {compile : Engine} {h : Handle}

mutual

/-- A grammar mentions the handles that it was built with, and no others. -/
theorem mentions_of_build {b : Blueprint V C} {g : Grammar V C}
    (hbuild : b.build handles compile = .ok g) (hg : g.Mentions h) :
    ∃ name, handles name = some h := by
  match b with
  | literal .. | natural .. | regexp .. | lineComment .. | blockComment .. =>
    obtain ⟨q, rfl⟩ := checked_ok hbuild
    cases hg
  | identifier .. | blanks .. | textEnd .. | script .. =>
    obtain rfl := Except.ok.inj hbuild
    cases hg
  | all subs hook | any subs hook | best subs hook =>
    obtain ⟨gs, hgs, hbuild⟩ := exists_of_bind_ok hbuild
    obtain rfl := Except.ok.inj hbuild
    cases hg
    next hsub hmem => exact mentions_of_buildAll hgs hmem hsub
  | optional sub hook | repeated sub min max hook =>
    obtain ⟨g, hg', hbuild⟩ := exists_of_bind_ok hbuild
    obtain rfl := Except.ok.inj hbuild
    cases hg
    next hsub => exact mentions_of_build hg' hsub
  | reference name =>
    rw [build] at hbuild
    split at hbuild
    · next h' hname =>
      obtain rfl := Except.ok.inj hbuild
      obtain ⟨cell, owning⟩ := h'
      cases hg
      exact ⟨name, hname⟩
    · cases hbuild

theorem mentions_of_buildAll {bs : List (Blueprint V C)} {gs : List (Grammar V C)}
    (hbuild : buildAll handles bs compile = .ok gs) {g : Grammar V C} (hmem : g ∈ gs)
    (hg : g.Mentions h) : ∃ name, handles name = some h := by
  match bs with
  | [] =>
    obtain rfl := Except.ok.inj hbuild
    cases hmem
  | b :: bs =>
    obtain ⟨first, hfirst, hbuild⟩ := exists_of_bind_ok hbuild
    obtain ⟨rest, hrest, hbuild⟩ := exists_of_bind_ok hbuild
    obtain rfl := Except.ok.inj hbuild
    rcases List.mem_cons.1 hmem with rfl | hmem
    · exact mentions_of_build hfirst hg
    · exact mentions_of_buildAll hrest hmem hg

end

end Blueprint

section Cells

variable {s : Store V C} {cell : Nat} {g : Grammar V C}

theorem Store.env_eq_unbound_iff : s.env cell = .unbound ↔
    ∃ c, s.cells[cell]? = some c ∧ c.alive = true ∧ c.target = none := by
  unfold env Cell.view
  cases s.cells[cell]? with
  | none => simp
  | some c => cases h : c.alive <;> cases h' : c.target <;> simp [h, h']

theorem Store.create_env (s : Store V C) (cell : Nat) :
    s.create.2.env cell = if cell = s.cells.length then .unbound else s.env cell := by
  unfold create env
  rcases lt_trichotomy cell s.cells.length with hlt | rfl | hlt
  · rw [if_neg hlt.ne, List.getElem?_append_left hlt]
  · simp [Cell.view]
  · rw [if_neg hlt.ne', List.getElem?_eq_none (by simp; omega), List.getElem?_eq_none hlt.le]

theorem Store.bind_of_bound {g' : Grammar V C} (h : s.env cell = .bound g') :
    s.bind cell g = .error .forwardAlreadyBound := by
  obtain ⟨c, hc, -, htarget⟩ := env_eq_bound_iff.1 h
  simp [bind, isBound, hc, htarget]

theorem Store.bind_of_unbound (h : s.env cell = .unbound) :
    ∃ s', s.bind cell g = .ok s' ∧ s'.cells.length = s.cells.length ∧
      ∀ cell', s'.env cell' = if cell' = cell then .bound g else s.env cell' := by
  obtain ⟨c, hc, halive, htarget⟩ := env_eq_unbound_iff.1 h
  have hbound : s.isBound cell = false := by simp [isBound, hc, htarget]
  refine ⟨_, if_neg (by simp [hbound]), List.length_modify _ _ _, fun cell' => ?_⟩
  unfold env
  rw [List.getElem?_modify]
  by_cases hcell : cell' = cell
  · simp [hcell, hc, halive, Cell.view]
  · simp [hcell, Ne.symm hcell]

end Cells

namespace Workbench

theorem mem_put {α : Type} {name name' : String} {a a' : α} {entries : List (String × α)} :
    (name', a') ∈ put name a entries ↔
      name' = name ∧ a' = a ∨ (name', a') ∈ entries ∧ name' ≠ name := by
  simp [put]

theorem mem_remove {α : Type} {name name' : String} {a' : α} {entries : List (String × α)} :
    (name', a') ∈ remove name entries ↔ (name', a') ∈ entries ∧ name' ≠ name := by
  simp [remove]

/-- A handle that has a name, or that a definition mentions. -/
def Holds (h : Handle) (w : Workbench V C) : Prop :=
  (∃ name, (name, h) ∈ w.handles) ∨ ∃ name g, (name, g) ∈ w.definitions ∧ g.Mentions h

/-- Nothing is left of the cell. Cells that are not there yet count as well. -/
def Dropped (w : Workbench V C) (cell : Nat) : Prop := w.store.env cell = .dropped

variable {w u v : Workbench V C} {bound : List (Nat × Grammar V C)}

theorem holds_of_handle? {name : String} {h : Handle} (hname : w.handle? name = some h) :
    w.Holds h := by
  obtain ⟨before, after, hentries, -⟩ := List.lookup_eq_some_iff.1 hname
  exact .inl ⟨name, by simp [hentries]⟩

theorem holds_of_mentions {b : Blueprint V C} {g : Grammar V C}
    (hbuild : w.build b = .ok g) {h : Handle} (hmention : g.Mentions h) : w.Holds h := by
  obtain ⟨name, hname⟩ := Blueprint.mentions_of_build hbuild hmention
  exact holds_of_handle? hname

theorem holds_of_put {name : String} {h h' : Handle} (hholds : u.Holds h')
    (hhandles : u.handles = put name h w.handles) (hdefinitions : u.definitions = w.definitions) :
    h' = h ∨ w.Holds h' := by
  rcases hholds with ⟨name', hmem⟩ | hdefined
  · rw [hhandles] at hmem
    rcases mem_put.1 hmem with ⟨-, rfl⟩ | ⟨hmem, -⟩
    · exact .inl rfl
    · exact .inr (.inl ⟨name', hmem⟩)
  · rw [hdefinitions] at hdefined
    exact .inr (.inr hdefined)

theorem mem_roots (hpinned : w.pinned = []) {cell : Nat} :
    cell ∈ w.roots ↔ w.Holds ⟨cell, true⟩ := by
  unfold roots Holds
  rw [hpinned, List.nil_append, List.mem_append, List.mem_filterMap, List.mem_flatMap]
  refine or_congr ⟨?_, ?_⟩ ⟨?_, ?_⟩
  · rintro ⟨⟨name, handle⟩, hmem, hcell⟩
    obtain ⟨howning, hcell⟩ := Option.ite_none_right_eq_some.1 hcell
    obtain ⟨cell', owning⟩ := handle
    obtain rfl : cell' = cell := Option.some.inj hcell
    obtain rfl : owning = true := howning
    exact ⟨name, hmem⟩
  · rintro ⟨name, hmem⟩
    exact ⟨(name, ⟨cell, true⟩), hmem, rfl⟩
  · rintro ⟨⟨name, g⟩, hmem, hcell⟩
    exact ⟨name, g, hmem, Grammar.mem_owned.1 hcell⟩
  · rintro ⟨name, g, hmem, hmention⟩
    exact ⟨(name, g), hmem, Grammar.mem_owned.2 hmention⟩

theorem bind_ok {name : String} {b : Blueprint V C} (hbind : w.bind name b = .ok v) :
    ∃ g cell s, w.build b = .ok g ∧ w.handle? name = some ⟨cell, true⟩ ∧
      w.store.bind cell g = .ok s ∧ v = { w with store := s }.sweep := by
  obtain ⟨g, hg, hbind⟩ := exists_of_bind_ok hbind
  split at hbind
  · next handle hname =>
    obtain ⟨cell, owning⟩ := handle
    split at hbind
    · next howning =>
      obtain rfl : owning = true := howning
      split at hbind
      · next s hs => exact ⟨g, cell, s, hg, hname, hs, (Except.ok.inj hbind).symm⟩
      · cases hbind
    · cases hbind
  · cases hbind

/-- What holds of the cells before a sweep, if the binds in `bound` have succeeded. -/
structure Prepared (bound : List (Nat × Grammar V C)) (w : Workbench V C) : Prop where
  once : (bound.map (·.1)).Nodup
  bound_iff : ∀ cell g, ¬w.Dropped cell → (w.store.env cell = .bound g ↔ (cell, g) ∈ bound)
  owned : ∀ cell, w.store.Owned w.roots cell → ¬w.Dropped cell
  created : ∀ h, (w.Holds h ∨ ∃ p ∈ bound, p.2.Mentions h) → h.cell < w.store.cells.length
  bound_created : ∀ p ∈ bound, p.1 < w.store.cells.length
  pinned : w.pinned = []

/-- What holds of them after it. -/
structure Sound (bound : List (Nat × Grammar V C)) (w : Workbench V C) : Prop
    extends Prepared bound w where
  stable : ∀ cell, ¬w.Dropped cell → w.store.Owned w.roots cell

theorem Prepared.sweep (h : w.Prepared bound) : w.sweep.Sound bound where
  once := h.once
  bound_iff cell g halive := by
    have hsame : w.sweep.store.env cell = w.store.env cell :=
      (Store.sweep_env _ _ _).resolve_left halive
    rw [Dropped, hsame] at halive
    rw [hsame]
    exact h.bound_iff cell g halive
  owned cell := (Store.sweep_live_iff h.owned cell).2
  created handle hholds := (h.created handle hholds).trans_eq (Store.sweep_length _ _).symm
  bound_created p hp := (h.bound_created p hp).trans_eq (Store.sweep_length _ _).symm
  pinned := h.pinned
  stable cell := (Store.sweep_live_iff h.owned cell).1

/-- What a step does to the cells before it drops those that are not owned any more. -/
structure Prepares (bound : List (Nat × Grammar V C)) (w u : Workbench V C) : Prop where
  prepared : u.Prepared bound
  grows : w.store.cells.length ≤ u.store.cells.length
  dropped_iff : ∀ cell < w.store.cells.length, u.Dropped cell ↔ w.Dropped cell

namespace Sound

variable (h : w.Sound bound)

include h

theorem alive_of_holds {cell : Nat} (hholds : w.Holds ⟨cell, true⟩) : ¬w.Dropped cell :=
  h.owned cell (.inl ((mem_roots h.pinned).2 hholds))

/-- Handles come and go, but none owns a cell that was not owned before. -/
theorem prepares_of_owning (hstore : u.store = w.store) (hpinned : u.pinned = w.pinned)
    (howning : ∀ cell, u.Holds ⟨cell, true⟩ → w.Holds ⟨cell, true⟩)
    (hcreated : ∀ handle, u.Holds handle → handle.cell < w.store.cells.length) :
    w.Prepares bound u := by
  have hdropped : u.Dropped = w.Dropped := by
    unfold Dropped
    rw [hstore]
  have hpinned' : u.pinned = [] := hpinned.trans h.pinned
  refine ⟨⟨h.once, ?bound_iff, ?owned, ?created, hstore ▸ h.bound_created, hpinned'⟩,
    by rw [hstore], by simp [hdropped]⟩
  case bound_iff =>
    rw [hdropped, hstore]
    exact h.bound_iff
  case owned =>
    rintro cell (hroot | howned)
    · rw [hdropped]
      exact h.alive_of_holds (howning cell ((mem_roots hpinned').1 hroot))
    · rw [hstore] at howned
      rw [hdropped]
      exact h.owned cell (.inr howned)
  case created =>
    rw [hstore]
    rintro handle (hholds | hmention)
    · exact hcreated handle hholds
    · exact h.created handle (.inr hmention)

theorem prepares_of_holds (hstore : u.store = w.store) (hpinned : u.pinned = w.pinned)
    (hholds : ∀ handle, u.Holds handle → w.Holds handle) : w.Prepares bound u :=
  h.prepares_of_owning hstore hpinned (fun cell => hholds ⟨cell, true⟩)
    fun handle hheld => h.created handle (.inl (hholds handle hheld))

theorem prepares_create (name : String) :
    w.Prepares bound { w with
      store := w.store.create.2, handles := put name ⟨w.store.create.1, true⟩ w.handles } := by
  set n := w.store.cells.length with hn
  set u : Workbench V C := { w with
    store := w.store.create.2, handles := put name ⟨w.store.create.1, true⟩ w.handles } with hu
  have henv : ∀ cell, u.store.env cell = if cell = n then .unbound else w.store.env cell :=
    w.store.create_env
  have hlength : u.store.cells.length = n + 1 := by simp [hu, Store.create, hn]
  have hpinned : u.pinned = [] := h.pinned
  have hholds : ∀ handle, u.Holds handle → handle = ⟨n, true⟩ ∨ w.Holds handle :=
    fun _ hheld => holds_of_put hheld rfl rfl
  have hkept : ∀ cell, cell ≠ n → (u.Dropped cell ↔ w.Dropped cell) := by
    intro cell hne
    rw [Dropped, Dropped, henv, if_neg hne]
  have hnew : ¬u.Dropped n := by simp [Dropped, henv]
  refine ⟨⟨h.once, ?bound_iff, ?owned, ?created, ?bound_created, hpinned⟩, by omega,
    fun cell hlt => hkept cell hlt.ne⟩
  case bound_iff =>
    intro cell g halive
    by_cases hcell : cell = n
    · rw [henv, if_pos hcell]
      refine ⟨nofun, fun hmem => ?_⟩
      exact absurd (h.bound_created _ hmem) (by simp [hcell, hn])
    · rw [henv, if_neg hcell]
      exact h.bound_iff cell g ((hkept cell hcell).not.1 halive)
  case owned =>
    intro cell howned
    by_cases hcell : cell = n
    · exact hcell ▸ hnew
    · rw [hkept cell hcell]
      apply h.owned cell
      rcases howned with hroot | ⟨owner, g, hbound, hmention⟩
      · rcases hholds _ ((mem_roots hpinned).1 hroot) with heq | hheld
        · exact absurd (congrArg Handle.cell heq) hcell
        · exact .inl ((mem_roots h.pinned).2 hheld)
      · -- the new cell is not bound, so the owner is an old one
        rw [henv] at hbound
        split at hbound
        · cases hbound
        · exact .inr ⟨owner, g, hbound, hmention⟩
  case created =>
    rintro handle (hheld | hmention)
    · rcases hholds handle hheld with rfl | hheld
      · simp [hlength]
      · have hlt := h.created handle (.inl hheld)
        omega
    · have hlt := h.created handle (.inr hmention)
      omega
  case bound_created =>
    intro p hp
    have hlt := h.bound_created p hp
    omega

/-- Only the cell that is bound changes. -/
theorem prepares_bind {cell : Nat} {g : Grammar V C} {s : Store V C} (hholds : w.Holds ⟨cell, true⟩)
    (hmentions : ∀ handle, g.Mentions handle → w.Holds handle)
    (hbind : w.store.bind cell g = .ok s) :
    w.Prepares (bound ++ [(cell, g)]) { w with store := s } := by
  have halive := h.alive_of_holds hholds
  cases htarget : w.store.env cell with
  | dropped => exact absurd htarget halive
  | bound g' => cases hbind.symm.trans (Store.bind_of_bound htarget)
  | unbound =>
    obtain ⟨s', hbind', hlength, henv⟩ := Store.bind_of_unbound (g := g) htarget
    obtain rfl : s' = s := Except.ok.inj (hbind'.symm.trans hbind)
    have hdropped : ∀ cell', s'.env cell' = .dropped ↔ w.Dropped cell' := by
      intro cell'
      rw [henv]
      split
      · next hcell => simpa [hcell] using halive
      · rfl
    have hfirst : ∀ g', (cell, g') ∉ bound := by
      intro g' hmem
      cases htarget.symm.trans ((h.bound_iff cell g' halive).2 hmem)
    refine ⟨⟨?once, ?bound_iff, ?owned, ?created, ?bound_created, h.pinned⟩, hlength.ge,
      fun cell' _ => hdropped cell'⟩
    case once =>
      rw [List.map_append, List.map_singleton, ← List.concat_eq_append]
      refine h.once.concat fun hmem => ?_
      obtain ⟨⟨cell', g'⟩, hpair, heq⟩ := List.mem_map.1 hmem
      obtain rfl : cell' = cell := heq
      exact hfirst g' hpair
    case bound_iff =>
      intro cell' g' halive'
      have hbound := h.bound_iff cell' g' ((hdropped cell').not.1 halive')
      rw [List.mem_append, List.mem_singleton, Prod.mk_inj, ← hbound, henv]
      split
      · next hcell => simp [hcell, htarget, eq_comm]
      · next hcell => simp [hcell]
    case owned =>
      intro cell' howned
      refine (hdropped cell').not.2 ?_
      rcases howned with hroot | ⟨owner, g', hbound, hmention⟩
      · exact h.owned cell' (.inl hroot)
      · have hbound' : s'.env owner = .bound g' := hbound
        rw [henv] at hbound'
        split at hbound'
        · obtain rfl : g = g' := by simpa using hbound'
          exact h.alive_of_holds (hmentions _ hmention)
        · exact h.owned cell' (.inr ⟨owner, g', hbound', hmention⟩)
    case created =>
      intro handle hhandle
      refine (h.created handle ?_).trans_eq hlength.symm
      rcases hhandle with hheld | ⟨p, hp, hmention⟩
      · exact .inl hheld
      · rcases List.mem_append.1 hp with hp | hp
        · exact .inr ⟨p, hp, hmention⟩
        · obtain rfl := List.mem_singleton.1 hp
          exact .inl (hmentions handle hmention)
    case bound_created =>
      intro p hp
      refine lt_of_lt_of_eq ?_ hlength.symm
      rcases List.mem_append.1 hp with hp | hp
      · exact h.bound_created p hp
      · obtain rfl := List.mem_singleton.1 hp
        exact Store.lt_of_env_ne halive

end Sound

end Workbench

end Descent

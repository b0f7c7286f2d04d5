import Descent.Grammar.Workbench
import Descent.Proofs.Simulation
import Mathlib.Data.Finset.Card

/-!
# Dropping what nothing owns

A sweep drops cells round by round. It comes to an end, and what is left then
is the largest set of cells that were alive before and of which each is a root
or is owned by the target of one of them, perhaps of its own.
-/
namespace Descent

variable {V C : Type}

namespace Grammar

/-- A reference that is made through a handle stands in the grammar, at any depth. -/
inductive Mentions (h : Handle) : Grammar V C → Prop
  | all {sub : Grammar V C} {subs : List (Grammar V C)} (hook : Script V C) (hmem : sub ∈ subs)
      (hsub : Mentions h sub) : Mentions h (.all subs hook)
  | any {sub : Grammar V C} {subs : List (Grammar V C)} (hook : Script V C) (hmem : sub ∈ subs)
      (hsub : Mentions h sub) : Mentions h (.any subs hook)
  | best {sub : Grammar V C} {subs : List (Grammar V C)} (hook : Script V C) (hmem : sub ∈ subs)
      (hsub : Mentions h sub) : Mentions h (.best subs hook)
  | optional {sub : Grammar V C} (hook : Script V C) (hsub : Mentions h sub) :
      Mentions h (.optional sub hook)
  | repeated {sub : Grammar V C} (min : Nat) (max : Option Nat) (hook : Script V C)
      (hsub : Mentions h sub) : Mentions h (.repeated sub min max hook)
  | reference : Mentions h (.reference h.cell h.owning)

theorem mem_ownedByAll {cell : Nat} {gs : List (Grammar V C)} :
    cell ∈ ownedByAll gs ↔ ∃ g ∈ gs, cell ∈ g.owned := by
  induction gs with
  | nil => simp [ownedByAll]
  | cons g gs ih => simp [ownedByAll, ih]

/-- A grammar owns the cells that it mentions through owning handles. -/
theorem mem_owned {cell : Nat} {g : Grammar V C} : cell ∈ g.owned ↔ g.Mentions ⟨cell, true⟩ := by
  constructor
  · intro h
    induction g using Grammar.induction with
    | primitive p hook => cases h
    | all subs hook ih =>
      obtain ⟨g, hmem, hg⟩ := mem_ownedByAll.1 h
      exact .all hook hmem (ih g hmem hg)
    | any subs hook ih =>
      obtain ⟨g, hmem, hg⟩ := mem_ownedByAll.1 h
      exact .any hook hmem (ih g hmem hg)
    | best subs hook ih =>
      obtain ⟨g, hmem, hg⟩ := mem_ownedByAll.1 h
      exact .best hook hmem (ih g hmem hg)
    | optional sub hook ih => exact .optional hook (ih h)
    | repeated sub min max hook ih => exact .repeated min max hook (ih h)
    | reference cell' owning =>
      cases owning with
      | true =>
        obtain rfl := List.mem_singleton.1 h
        exact .reference
      | false => cases h
    | script body => cases h
  · intro h
    induction h with
    | all _ hmem _ ih | any _ hmem _ ih | best _ hmem _ ih =>
      exact mem_ownedByAll.2 ⟨_, hmem, ih⟩
    | optional _ _ ih | repeated _ _ _ _ ih => exact ih
    | reference => exact List.mem_singleton_self _

end Grammar

namespace Store

variable {s : Store V C} {roots : List Nat} {cell : Nat} {g : Grammar V C}

/-- A cell that is a root, or that the target of a live cell owns. -/
def Owned (roots : List Nat) (s : Store V C) (cell : Nat) : Prop :=
  cell ∈ roots ∨ ∃ owner g, s.env owner = .bound g ∧ g.Mentions ⟨cell, true⟩

theorem env_eq_bound_iff : s.env cell = .bound g ↔
    ∃ c, s.cells[cell]? = some c ∧ c.alive = true ∧ c.target = some g := by
  unfold env Cell.view
  cases s.cells[cell]? with
  | none => simp
  | some c => cases h : c.alive <;> cases h' : c.target <;> simp [h, h']

theorem lt_of_env_ne (h : s.env cell ≠ .dropped) : cell < s.cells.length := by
  by_contra hle
  exact h (by simp [env, List.getElem?_eq_none (not_lt.1 hle)])

theorem mem_owned {c : Cell V C} :
    cell ∈ c.owned ↔ ∃ g, c.alive = true ∧ c.target = some g ∧ g.Mentions ⟨cell, true⟩ := by
  unfold Cell.owned
  cases h : c.alive <;> cases c.target <;> simp [Grammar.mem_owned]

theorem owned_iff :
    s.Owned roots cell ↔ cell ∈ roots ++ s.cells.flatMap Cell.owned := by
  rw [List.mem_append, List.mem_flatMap]
  refine or_congr_right ⟨?_, ?_⟩
  · rintro ⟨owner, g, hbound, hmention⟩
    obtain ⟨c, hc, halive, htarget⟩ := env_eq_bound_iff.1 hbound
    exact ⟨c, List.mem_of_getElem? hc, mem_owned.2 ⟨g, halive, htarget, hmention⟩⟩
  · rintro ⟨c, hmem, howned⟩
    obtain ⟨g, halive, htarget, hmention⟩ := mem_owned.1 howned
    obtain ⟨owner, hc⟩ := List.mem_iff_getElem?.1 hmem
    exact ⟨owner, g, env_eq_bound_iff.2 ⟨c, hc, halive, htarget⟩, hmention⟩

section Rounds

theorem sweepOnce_env_of_owned (h : s.Owned roots cell) :
    (s.sweepOnce roots).env cell = s.env cell := by
  unfold env sweepOnce Cell.view
  rw [List.getElem?_mapIdx]
  cases s.cells[cell]? with
  | none => rfl
  | some c => simp [owned_iff.1 h]

theorem sweepOnce_env_of_not_owned (h : ¬s.Owned roots cell) :
    (s.sweepOnce roots).env cell = .dropped := by
  unfold env sweepOnce Cell.view
  rw [List.getElem?_mapIdx]
  cases s.cells[cell]? with
  | none => rfl
  | some c => simp [owned_iff.not.1 h]

@[simp] theorem sweepOnce_length (roots : List Nat) (s : Store V C) :
    (s.sweepOnce roots).cells.length = s.cells.length :=
  List.length_mapIdx

@[simp] theorem sweepTimes_length (roots : List Nat) (n : Nat) (s : Store V C) :
    (s.sweepTimes roots n).cells.length = s.cells.length := by
  induction n generalizing s with
  | zero => rfl
  | succ n ih => rw [sweepTimes, ih, sweepOnce_length]

theorem sweepTimes_env (roots : List Nat) (n : Nat) (s : Store V C) (cell : Nat) :
    (s.sweepTimes roots n).env cell = .dropped ∨
      (s.sweepTimes roots n).env cell = s.env cell := by
  induction n generalizing s with
  | zero => exact .inr rfl
  | succ n ih =>
    rw [sweepTimes]
    by_cases h : s.Owned roots cell
    · rw [← sweepOnce_env_of_owned h]
      exact ih (s.sweepOnce roots)
    · left
      rcases ih (s.sweepOnce roots) with hdropped | hsame
      · exact hdropped
      · exact hsame.trans (sweepOnce_env_of_not_owned h)

/-- Live cells, each of which is a root or is owned by the target of one of them. -/
def Supported (roots : List Nat) (s : Store V C) (S : Set Nat) : Prop :=
  ∀ cell ∈ S, s.env cell ≠ .dropped ∧
    (cell ∈ roots ∨ ∃ owner ∈ S, ∃ g, s.env owner = .bound g ∧ g.Mentions ⟨cell, true⟩)

variable {S : Set Nat}

theorem Supported.owned (h : s.Supported roots S) (hcell : cell ∈ S) : s.Owned roots cell :=
  (h cell hcell).2.imp_right fun ⟨owner, _, g, hbound, hmention⟩ => ⟨owner, g, hbound, hmention⟩

theorem Supported.sweepOnce (h : s.Supported roots S) : (s.sweepOnce roots).Supported roots S := by
  intro cell hcell
  obtain ⟨halive, hsupport⟩ := h cell hcell
  rw [sweepOnce_env_of_owned (h.owned hcell)]
  refine ⟨halive, hsupport.imp_right ?_⟩
  rintro ⟨owner, howner, g, hbound, hmention⟩
  exact ⟨owner, howner, g, (sweepOnce_env_of_owned (h.owned howner)).trans hbound, hmention⟩

/-- Cells that support one another stay as they are. -/
theorem Supported.sweepTimes_env (h : s.Supported roots S) (n : Nat) (hcell : cell ∈ S) :
    (s.sweepTimes roots n).env cell = s.env cell := by
  induction n generalizing s with
  | zero => rfl
  | succ n ih => rw [sweepTimes, ih h.sweepOnce, sweepOnce_env_of_owned (h.owned hcell)]

end Rounds

section Stability

/-- No cell is left to drop. -/
def Stable (roots : List Nat) (s : Store V C) : Prop :=
  ∀ cell, s.env cell ≠ .dropped → s.Owned roots cell

theorem Stable.sweepOnce_env (h : s.Stable roots) (cell : Nat) :
    (s.sweepOnce roots).env cell = s.env cell := by
  by_cases hdropped : s.env cell = .dropped
  · by_cases howned : s.Owned roots cell
    · exact sweepOnce_env_of_owned howned
    · rw [sweepOnce_env_of_not_owned howned, hdropped]
  · exact sweepOnce_env_of_owned (h cell hdropped)

theorem Stable.sweepTimes (h : s.Stable roots) (n : Nat) : (s.sweepTimes roots n).Stable roots := by
  induction n generalizing s with
  | zero => exact h
  | succ n ih =>
    refine ih fun cell halive => ?_
    have henv : (s.sweepOnce roots).env = s.env := funext h.sweepOnce_env
    rw [henv] at halive
    simpa only [Owned, henv] using h cell halive

open Classical in
/-- The cells that have not been dropped. -/
noncomputable def live (s : Store V C) : Finset Nat :=
  (Finset.range s.cells.length).filter fun cell => s.env cell ≠ .dropped

theorem mem_live : cell ∈ s.live ↔ s.env cell ≠ .dropped := by
  simp only [live, Finset.mem_filter, Finset.mem_range, and_iff_right_iff_imp]
  exact lt_of_env_ne

open Classical in
theorem card_live_le (s : Store V C) : s.live.card ≤ s.cells.length :=
  (Finset.card_filter_le _ _).trans_eq (Finset.card_range _)

/-- A round that does not come to the end drops a cell. -/
theorem live_sweepOnce_ssubset (h : ¬s.Stable roots) : (s.sweepOnce roots).live ⊂ s.live := by
  unfold Stable at h
  push Not at h
  obtain ⟨cell, halive, howned⟩ := h
  refine (Finset.ssubset_iff_of_subset ?_).2 ⟨cell, mem_live.2 halive, ?_⟩
  · intro cell hcell
    rw [mem_live] at hcell ⊢
    intro hdropped
    rcases sweepTimes_env roots 1 s cell with h | h
    · exact hcell h
    · exact hcell (h.trans hdropped)
  · rw [mem_live, not_not]
    exact sweepOnce_env_of_not_owned howned

theorem sweepTimes_stable (n : Nat) (s : Store V C) (h : s.live.card ≤ n) :
    (s.sweepTimes roots n).Stable roots := by
  induction n generalizing s with
  | zero =>
    intro cell halive
    have hempty : s.live = ∅ := Finset.card_eq_zero.1 (Nat.le_zero.1 h)
    exact absurd (mem_live.2 halive) (by simp [hempty, sweepTimes])
  | succ n ih =>
    by_cases hstable : s.Stable roots
    · exact hstable.sweepTimes (n + 1)
    · apply ih
      have hlt := Finset.card_lt_card (live_sweepOnce_ssubset hstable)
      omega

end Stability

section Sweep

theorem sweep_length (roots : List Nat) (s : Store V C) :
    (s.sweep roots).cells.length = s.cells.length := sweepTimes_length roots _ s

theorem sweep_env (roots : List Nat) (s : Store V C) (cell : Nat) :
    (s.sweep roots).env cell = .dropped ∨ (s.sweep roots).env cell = s.env cell :=
  sweepTimes_env roots _ s cell

/-- What is left after a sweep is owned by what is left. -/
theorem sweep_stable (roots : List Nat) (s : Store V C) : (s.sweep roots).Stable roots :=
  sweepTimes_stable _ s s.card_live_le

/-- If roots and targets own nothing but live cells, a sweep leaves exactly what is owned. -/
theorem sweep_live_iff (h : ∀ cell, s.Owned roots cell → s.env cell ≠ .dropped) (cell : Nat) :
    (s.sweep roots).env cell ≠ .dropped ↔ (s.sweep roots).Owned roots cell := by
  refine ⟨sweep_stable roots s cell, fun howned => ?_⟩
  have hkept : ∀ {cell target}, (s.sweep roots).env cell = .bound target →
      s.env cell = .bound target := by
    intro cell target hbound
    rcases sweep_env roots s cell with hdropped | hsame
    · cases hbound.symm.trans hdropped
    · exact hsame.symm.trans hbound
  -- the cells that are owned in the end support one another from the start
  have hsupported : s.Supported roots {cell | (s.sweep roots).Owned roots cell} := by
    intro cell hcell
    refine ⟨h cell (hcell.imp_right ?_), hcell.imp_right ?_⟩
    · rintro ⟨owner, g, hbound, hmention⟩
      exact ⟨owner, g, hkept hbound, hmention⟩
    · rintro ⟨owner, g, hbound, hmention⟩
      exact ⟨owner, sweep_stable roots s owner (by simp [hbound]), g, hkept hbound, hmention⟩
  rw [sweep, hsupported.sweepTimes_env _ howned]
  exact (hsupported cell howned).1

end Sweep

end Store

end Descent

import Descent.Proofs.Ownership

/-!
# Names

Handles and definitions stand under names. A command changes what stands under
the name that it gives or takes away, and leaves the other names as they are;
so a clone is the same handle under a second name, whatever happens to the
first.
-/
namespace Descent

variable {V C : Type}

/-- The name that a command gives, or takes away. -/
def Command.named? : Command V C → Option String
  | .create name | .define name _ | .drop name => some name
  | .clone _ copy | .weaken _ copy => some copy
  | .perform _ | .run _ | .save | .restore | .bind .. | .isBound _ => none

namespace Workbench

section Entries

variable {α : Type} {name other : String} (a : α) (entries : List (String × α))

theorem lookup_remove_other (h : other ≠ name) :
    (remove name entries).lookup other = entries.lookup other := by
  induction entries with
  | nil => rfl
  | cons e entries ih =>
    obtain ⟨key, a⟩ := e
    have hcons : remove name ((key, a) :: entries) =
        if key = name then remove name entries else (key, a) :: remove name entries := by
      simp [remove, List.filter_cons]
    rw [hcons]
    split
    · next hkey =>
      rw [ih, List.lookup_cons, beq_eq_false_iff_ne.2 (hkey ▸ h)]
    · rw [List.lookup_cons, List.lookup_cons, ih]

@[simp] theorem lookup_remove_same (name : String) : (remove name entries).lookup name = none :=
  List.lookup_eq_none_iff.2 fun _ he => bne_iff_ne.2 (mem_remove.1 he).2.symm

@[simp] theorem lookup_put_same (name : String) : (put name a entries).lookup name = some a := by
  simp [put]

theorem lookup_put_other (h : other ≠ name) :
    (put name a entries).lookup other = entries.lookup other := by
  rw [put, List.lookup_cons, beq_eq_false_iff_ne.2 h]
  exact lookup_remove_other entries h

end Entries

/-- What stands under a name: a handle, a definition, both or neither. -/
def under (w : Workbench V C) (name : String) : Option Handle × Option (Grammar V C) :=
  (w.handle? name, w.definitions.lookup name)

variable {w v : Workbench V C} {fuel : Nat} {command : Command V C} {answer : Answer}

/-- A command that is refused changes nothing. -/
theorem step_refused {e : BlueprintError} (hstep : w.step fuel command = some (v, .refused e)) :
    v = w := by
  cases command with
  | perform | save | create | drop => cases hstep
  | define name b =>
    simp only [step, settle] at hstep
    split at hstep <;> cases hstep
    rfl
  | bind name b =>
    simp only [step, settle] at hstep
    split at hstep <;> cases hstep
    rfl
  | run name =>
    simp only [step] at hstep
    split at hstep
    · obtain ⟨v', -, hpair⟩ := Option.map_eq_some_iff.1 hstep
      cases hpair
    · cases hstep
      rfl
  | restore =>
    simp only [step] at hstep
    split at hstep <;> cases hstep
  | clone | weaken | isBound =>
    simp only [step] at hstep
    split at hstep <;> cases hstep
    rfl

/-- A command leaves all names alone but the one that it gives or takes away. -/
theorem step_elsewhere (hstep : w.step fuel command = some (v, answer)) {name : String}
    (hname : command.named? ≠ some name) : v.under name = w.under name := by
  have hother : ∀ {name'}, command.named? = some name' → name ≠ name' := by
    rintro _ hnamed rfl
    exact hname hnamed
  cases command with
  | perform | save => cases hstep; rfl
  | run name' =>
    simp only [step] at hstep
    split at hstep
    · obtain ⟨v', hv, hpair⟩ := Option.map_eq_some_iff.1 hstep
      obtain ⟨r, -, hr⟩ := Option.bind_eq_some_iff.1 hv
      cases hpair
      cases hr
      rfl
    · cases hstep
      rfl
  | restore | isBound =>
    simp only [step] at hstep
    split at hstep <;> cases hstep <;> rfl
  | bind name' b =>
    simp only [step, settle] at hstep
    split at hstep
    · next w' hbind =>
      cases hstep
      obtain ⟨g, cell, s, -, -, -, rfl⟩ := bind_ok hbind
      rfl
    · cases hstep
      rfl
  | define name' b =>
    simp only [step, settle] at hstep
    split at hstep
    · next w' hdefine =>
      cases hstep
      obtain ⟨g, -, hdefine⟩ := exists_of_bind_ok hdefine
      obtain rfl := Except.ok.inj hdefine
      exact Prod.ext rfl (lookup_put_other _ _ (hother rfl))
    · cases hstep
      rfl
  | create name' =>
    cases hstep
    exact Prod.ext (lookup_put_other _ _ (hother rfl)) rfl
  | clone name' copy | weaken name' copy =>
    simp only [step] at hstep
    split at hstep <;> cases hstep
    · exact Prod.ext (lookup_put_other _ _ (hother rfl)) rfl
    · rfl
  | drop name' =>
    cases hstep
    exact Prod.ext (lookup_remove_other _ (hother rfl)) (lookup_remove_other _ (hother rfl))

end Workbench

end Descent

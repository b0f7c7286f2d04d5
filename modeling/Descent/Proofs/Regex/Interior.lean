import Descent.Proofs.Regex.Trimming

/-!
# The inside of a group

The text between the parentheses of a group is an expression by itself: each
construct in it is read without the text after the parenthesis, and the run that
comes to the parenthesis is at the end of the expression there.
-/
namespace Descent

namespace Pattern

section Repetitions

variable (flags : Flags) {m : Nat}

theorem readGreed_trims :
    Trims m (fun cs => some (readGreed cs)) fun cs => some (readGreed cs) := by
  simp only [readGreed, apply_branch some]
  exact .branch ['?'] (trimsIf_some false) (trimsIf_some true)

theorem readDigits_trims (fuel fuel' : Nat) (value : Option Nat) :
    Trims fuel' (readDigits flags fuel value) (readDigits flags fuel' value) := by
  induction fuel generalizing fuel' value with
  | zero => exact trimsIf_none
  | succ fuel ih =>
    intro cs x rest h
    cases cs with
    | nil =>
      obtain ⟨rfl, rfl⟩ := Prod.mk.inj (Option.some.inj h)
      exact ⟨List.suffix_refl _, fun front left tail _ _ hleft => absurd hleft (by simp)⟩
    | cons c cs =>
      by_cases hdigit : c.isDigit = true
      · rw [readDigits, if_pos hdigit] at h
        have hrest := (TrimsIf.skip flags (ih 0 _) cs x rest h).1
        refine ⟨hrest.trans (List.suffix_cons c cs), ?_⟩
        rintro front left tail hshort hcs rfl hok
        obtain ⟨front, rfl, rfl⟩ := exists_of_cons_suffix hcs hrest
        rw [List.length_cons] at hshort
        obtain ⟨fuel', rfl⟩ : ∃ n, fuel' = n + 1 := ⟨fuel' - 1, by omega⟩
        rw [readDigits, if_pos hdigit]
        exact (TrimsIf.skip flags (ih fuel' _) _ x _ h).2 front left tail (by omega) rfl rfl hok
      · rw [readDigits, if_neg hdigit] at h
        obtain ⟨rfl, rfl⟩ := Prod.mk.inj (Option.some.inj h)
        refine ⟨List.suffix_refl _, ?_⟩
        rintro front left tail hshort hcs hleft -
        obtain rfl := List.append_cancel_right (hcs.symm.trans hleft)
        obtain ⟨fuel', rfl⟩ : ∃ n, fuel' = n + 1 := ⟨fuel' - 1, by omega⟩
        cases front with
        | nil => rfl
        | cons c' front =>
          obtain ⟨rfl, -⟩ := List.cons.inj hcs
          rw [readDigits, if_neg hdigit]

theorem dropBlanks_close (front tail : List Char) :
    (front ++ ')' :: tail).dropWhile isBlank = front.dropWhile isBlank ++ ')' :: tail := by
  have hclose : isBlank ')' = false := by decide
  induction front with
  | nil => simp [hclose]
  | cons c front ih =>
    rw [List.cons_append, List.dropWhile_cons, List.dropWhile_cons, ih]
    split <;> rfl

theorem TrimsIf.dropBlanks {α : Type} {ok : α → List Char → Prop}
    {read read' : List Char → Option (α × List Char)} (h : TrimsIf m ok read read') :
    TrimsIf m ok (fun cs => read (cs.dropWhile isBlank))
      fun cs => read' (cs.dropWhile isBlank) := by
  intro cs x rest hx
  obtain ⟨hrest, htrim⟩ := h _ x rest hx
  refine ⟨hrest.trans (List.dropWhile_suffix isBlank), ?_⟩
  rintro front left tail hshort rfl rfl hok
  have hle := (List.dropWhile_suffix isBlank (l := front)).length_le
  exact htrim _ left tail (by omega) (dropBlanks_close front tail) rfl hok

theorem readDecimal_trims : Trims m (readDecimal flags) (readDecimal flags) := by
  have hdigits : Trims m (fun cs => readDigits flags (cs.length + 1) none cs)
      fun cs => readDigits flags (cs.length + 1) none cs :=
    .of_fuel fun fuel fuel' => readDigits_trims flags fuel fuel' none
  have hblanks (n : Nat) : Trims m (fun rest => some (n, flags.skip (rest.dropWhile isBlank)))
      fun rest => some (n, flags.skip (rest.dropWhile isBlank)) :=
    TrimsIf.dropBlanks (TrimsIf.skip flags (trimsIf_some n))
  exact TrimsIf.dropBlanks (hdigits.bind fun value =>
    .bindOption value fun n => .ite _ (hblanks n) trimsIf_none)

theorem closeCounts_trims (counts : Counts) : Trims m (closeCounts counts) (closeCounts counts) :=
  .branch ['\x7d'] (trimsIf_some counts) trimsIf_none

theorem readMax_trims (min : Nat) : Trims m (readMax flags min) (readMax flags min) :=
  (readDecimal_trims flags).bind fun _ => .ite _ (closeCounts_trims _) trimsIf_none

theorem readUpper_trims (min : Nat) : Trims m (readUpper flags min) (readUpper flags min) :=
  TrimsIf.skip flags (.branch ['\x7d'] (trimsIf_some (min, none)) (readMax_trims flags min))

theorem readCounts_trims : Trims m (readCounts flags) (readCounts flags) :=
  TrimsIf.skip flags ((readDecimal_trims flags).bind fun min =>
    .branch [','] (readUpper_trims flags min) (closeCounts_trims (min, some min)))

theorem repeatLast_trims (p : Progress) (min : Nat) (max : Option Nat) :
    Trims m
      (fun cs => (some (readGreed cs)).bind fun r => (p.repeatLast min max r.1).map (·, r.2))
      fun cs => (some (readGreed cs)).bind fun r => (p.repeatLast min max r.1).map (·, r.2) :=
  readGreed_trims.bind fun greedy => trimsIf_mapOption (p.repeatLast min max greedy) id

end Repetitions

section Openings

variable {m : Nat} (p : Progress)

theorem readGroupName_trims : Trims m readGroupName readGroupName := by
  refine trims_of_taken fun cs name rest h => ?_
  rw [readGroupName] at h
  split at h
  · next c name' after hsplit =>
    split at h
    · next hname =>
      obtain ⟨rfl, rfl⟩ := Prod.mk.inj (Option.some.inj h)
      obtain ⟨rfl, hbracket⟩ := splitAt?_eq_some.1 hsplit
      refine ⟨(c :: name') ++ ['>'], by simp, fun more => ?_⟩
      have hsplit' : splitAt? ['>'] (c :: name' ++ ['>'] ++ more) = some (c :: name', more) :=
        splitAt?_eq_some.2 ⟨by simp, hbracket⟩
      rw [readGroupName, hsplit']
      exact if_pos hname
    · cases h
  · cases h

theorem openNamed_trims : Trims m p.openNamed p.openNamed :=
  readGroupName_trims.bind fun _ => .ite _ trimsIf_none (trimsIf_some _)

theorem readFlagItems_taken {items items' : List (Option Char)} {cs rest : List Char} {stop : Char}
    (h : readFlagItems items cs = some (items', stop, rest)) :
    ∃ taken, cs = taken ++ rest ∧
      ∀ more, readFlagItems items (taken ++ more) = some (items', stop, more) := by
  induction cs generalizing items with
  | nil => cases h
  | cons c cs ih =>
    rw [readFlagItems] at h
    by_cases hstop : c = ':' ∨ c = ')'
    · by_cases hhyphen : items.getLast? = some none
      · rw [if_pos hstop, if_pos hhyphen] at h
        cases h
      · rw [if_pos hstop, if_neg hhyphen] at h
        cases h
        refine ⟨[stop], rfl, fun more => ?_⟩
        rw [List.singleton_append, readFlagItems, if_pos hstop, if_neg hhyphen]
    · rw [if_neg hstop] at h
      split at h
      · cases h
      · next hnew =>
        split at h
        · next hflag =>
          obtain ⟨taken, rfl, htaken⟩ := ih h
          refine ⟨c :: taken, rfl, fun more => ?_⟩
          rw [List.cons_append, readFlagItems, if_neg hstop, if_neg hnew, if_pos hflag, htaken]
        · cases h

theorem readFlags_trims : Trims m p.readFlags p.readFlags := by
  refine trims_of_taken fun cs q rest h => ?_
  obtain ⟨⟨items, stop, after⟩, hitems, hq⟩ := Option.bind_eq_some_iff.1 h
  obtain ⟨taken, rfl, htaken⟩ := readFlagItems_taken hitems
  have hread (more : List Char) : p.readFlags (taken ++ more) =
      if stop = ':' then some (p.openGroup (p.flags.apply true items), more)
      else if items.isEmpty then none
      else some ({ p with
        flags := p.flags.apply true items
        level := p.level.push ⟨.empty, 0, false⟩ }, more) := by
    rw [Progress.readFlags, htaken]
    rfl
  rw [hread] at h
  split at h
  · next hstop =>
    cases h
    exact ⟨taken, rfl, fun more => (hread more).trans (if_pos hstop)⟩
  · next hstop =>
    split at h
    · cases h
    · next hsome =>
      cases h
      refine ⟨taken, rfl, fun more => ?_⟩
      rw [hread, if_neg hstop, if_neg hsome]

theorem readExtension_trims : Trims m p.readExtension p.readExtension :=
  .branch ['<'] (openNamed_trims p) (.branch ['P', '<'] (openNamed_trims p) (readFlags_trims p))

theorem readOpening_trims : Trims m p.readOpening p.readOpening :=
  TrimsIf.skip p.flags (.branch ['?'] (readExtension_trims p) (trimsIf_some (p.openGroup p.flags)))

end Openings

section Steps

variable {m : Nat} (p : Progress)

theorem readCounted_trims :
    Trims m
      (fun cs => (readCounts p.flags cs).bind fun r =>
        (some (readGreed (p.flags.skip r.2))).bind fun g =>
          (p.repeatLast r.1.1 r.1.2 g.1).map (·, g.2))
      fun cs => (readCounts p.flags cs).bind fun r =>
        (some (readGreed (p.flags.skip r.2))).bind fun g =>
          (p.repeatLast r.1.1 r.1.2 g.1).map (·, g.2) :=
  (readCounts_trims p.flags).bind fun bounds =>
    TrimsIf.skip p.flags (repeatLast_trims p bounds.1 bounds.2)

theorem readEscaped_trims :
    TrimsIf m (fun q left => ¬ q.flags.Stuck left)
      (fun cs => (readEscape p.flags cs).bind fun r => (p.pushAtom r.1).map (·, r.2))
      fun cs => (readEscape p.flags cs).bind fun r => (p.pushAtom r.1).map (·, r.2) := by
  have hescape : TrimsIf m (fun a left => a.IsLook → ¬ p.flags.Stuck left) (readEscape p.flags)
      (readEscape p.flags) :=
    TrimsIf.mono (.uncons rfl (readEscape_trims p.flags)) (Nat.le_succ m) fun _ _ h => h
  refine hescape.bind (fun a => trimsIf_mapOption (p.pushAtom a) id) ?_
  intro a left q left' h hstuck hlook
  cases a with
  | look l =>
    obtain ⟨q, hq, hx⟩ := Option.map_eq_some_iff.1 h
    obtain ⟨rfl, rfl⟩ := Prod.mk.inj hx
    obtain rfl := Option.some.inj hq
    exact hstuck
  | char c byte => exact absurd hlook id
  | set s => exact absurd hlook id

theorem step_trims (c : Char) :
    TrimsIf m (fun q left => ¬ q.flags.Stuck left) (fun cs => p.step (c :: cs))
      fun cs => p.step (c :: cs) := by
  have htrims {read : List Char → Option (Progress × List Char)} (h : Trims m read read) :
      TrimsIf m (fun q left => ¬ q.flags.Stuck left) read read :=
    TrimsIf.mono h (Nat.le_refl m) fun _ _ _ => trivial
  by_cases hopen : c = '('
  · subst hopen
    exact htrims (readOpening_trims p)
  by_cases hclose : c = ')'
  · subst hclose
    exact htrims (trimsIf_mapOption p.closeGroup id)
  by_cases hbar : c = '|'
  · subst hbar
    exact htrims (trimsIf_some _)
  by_cases hbracket : c = '['
  · subst hbracket
    exact htrims ((readClass_trims p.flags).bind fun part => trimsIf_some _)
  by_cases hoptional : c = '?'
  · subst hoptional
    exact htrims (repeatLast_trims p 0 (some 1))
  by_cases hstar : c = '*'
  · subst hstar
    exact htrims (repeatLast_trims p 0 none)
  by_cases hplus : c = '+'
  · subst hplus
    exact htrims (repeatLast_trims p 1 none)
  by_cases hbrace : c = '\x7b'
  · subst hbrace
    exact htrims (readCounted_trims p)
  by_cases hbackslash : c = '\\'
  · subst hbackslash
    exact readEscaped_trims p
  by_cases hdot : c = '.'
  · subst hdot
    have hread : (fun cs => p.step ('.' :: cs)) = fun cs =>
        (dot? p.flags).map fun s => (p.push (.set s) 0, cs) := rfl
    rw [hread]
    exact htrims (trimsIf_mapOption (dot? p.flags) fun s => p.push (.set s) 0)
  by_cases hcaret : c = '^'
  · subst hcaret
    exact htrims (trimsIf_some _)
  by_cases hdollar : c = '$'
  · subst hdollar
    exact htrims (trimsIf_some _)
  · have hread : (fun cs => p.step (c :: cs)) = fun cs =>
        (p.pushAtom (.char c false)).map (·, cs) :=
      funext fun cs => Progress.step.eq_14 p c cs hopen hclose hbar hbracket hoptional hstar hplus
        hbrace hbackslash hdot hcaret hdollar
    rw [hread]
    exact htrims (trimsIf_mapOption (p.pushAtom (.char c false)) id)

end Steps

section Runs

variable {p : Progress} {cs : List Char}

/-- Nothing can be read from a brace that there is nothing in. -/
theorem run_stuck {left : List Char} (h : p.flags.Stuck left) (fuel : Nat) :
    p.run fuel left = none := by
  obtain ⟨inner, rfl, hinner⟩ := h
  have hskip := skip_cons p.flags (show isBlank '\x7b' = false by decide) (by decide) inner
  cases fuel with
  | zero => exact run_zero hskip
  | succ fuel =>
    have hcounts : readCounts p.flags inner = none := by
      rw [readCounts, hinner]
      rfl
    have hstep : p.step ('\x7b' :: inner) = none := by
      rw [Progress.step, hcounts]
      rfl
    rw [run_more fuel hskip, hstep]
    rfl

/-- A step inside of other groups that does not close the innermost of them is a step without
them. -/
theorem exists_of_step_under {base : List (Level × Flags)} {c : Char} {s rest : List Char}
    {q' : Progress} (h : (p.under base).step (c :: s) = some (q', rest))
    (hopen : c = ')' → p.outer ≠ []) :
    ∃ q, p.step (c :: s) = some (q, rest) ∧ q' = q.under base := by
  by_cases hclose : c = ')'
  · subst hclose
    obtain ⟨level, outer, flags, names⟩ := p
    cases outer with
    | nil => exact absurd rfl (hopen rfl)
    | cons last outer =>
      obtain ⟨rfl, rfl⟩ := Prod.mk.inj (Option.some.inj h)
      exact ⟨_, rfl, rfl⟩
  · have hne (after : List Char) (heq : c :: s = ')' :: after) : False :=
      hclose (List.cons.inj heq).1
    rw [step_under_of_ne base p hne] at h
    obtain ⟨⟨q, rest⟩, hstep, hx⟩ := Option.map_eq_some_iff.1 h
    obtain ⟨rfl, rfl⟩ := Prod.mk.inj hx
    exact ⟨q, hstep, rfl⟩

theorem run_under_end {base : List (Level × Flags)} (hbase : base ≠ [])
    (h : p.flags.skip cs = []) (fuel : Nat) : (p.under base).run fuel cs = none := by
  have hopen : ¬ (p.under base).outer.isEmpty = true := by simp [Progress.under, hbase]
  rw [run_end (p := p.under base) fuel h, if_neg hopen]

/-- A run inside of another group comes to the parenthesis that closes it, and up to there it is a
run by itself. -/
theorem exists_of_run_under {base : List (Level × Flags)} (hbase : base ≠ []) {fuel : Nat}
    {piece : Piece} (h : (p.under base).run fuel cs = some piece) :
    ∃ front tail, cs = front ++ ')' :: tail ∧
      ∀ fuel', front.length ≤ fuel' → (p.run fuel' front).isSome := by
  induction fuel generalizing p cs with
  | zero =>
    cases hskip : p.flags.skip cs with
    | nil => cases (run_under_end hbase hskip 0).symm.trans h
    | cons c s => cases (run_zero (p := p.under base) hskip).symm.trans h
  | succ fuel ih =>
    cases hskip : p.flags.skip cs with
    | nil => cases (run_under_end hbase hskip (fuel + 1)).symm.trans h
    | cons c s =>
      rw [run_more (p := p.under base) fuel hskip] at h
      by_cases hclose : c = ')' ∧ p.outer = []
      · obtain ⟨rfl, houter⟩ := hclose
        have hskip : p.flags.skip cs = [] ++ ')' :: s := hskip
        obtain ⟨front, rfl, hfront⟩ := exists_of_skip p.flags hskip
        refine ⟨front, s, rfl, fun fuel' _ => ?_⟩
        rw [run_end fuel' hfront, houter]
        rfl
      · obtain ⟨⟨q', rest⟩, hunder, hrun⟩ := Option.bind_eq_some_iff.1 h
        obtain ⟨q, hstep, rfl⟩ := exists_of_step_under hunder fun hc houter => hclose ⟨hc, houter⟩
        obtain ⟨left, tail, rfl, hleft⟩ := ih hrun
        obtain ⟨hrest, htrim⟩ := step_trims p (m := s.length) c s q _ hstep
        obtain ⟨front', rfl⟩ := exists_of_suffix hrest
        have hskip : p.flags.skip cs = c :: front' ++ ')' :: tail := hskip
        obtain ⟨front, rfl, hfront⟩ := exists_of_skip p.flags hskip
        have hstuck : ¬ q.flags.Stuck left := by
          intro hstuck
          have hsome := hleft _ (Nat.le_refl _)
          rw [run_stuck hstuck] at hsome
          cases hsome
        have hstep' : p.step (c :: front') = some (q, left) :=
          htrim front' left tail (by simp) rfl rfl hstuck
        refine ⟨front, tail, rfl, fun fuel' hfuel => ?_⟩
        have hle := (skip_suffix p.flags front).length_le
        have hle' := hrest.length_le
        rw [hfront] at hle
        simp only [List.length_cons, List.length_append] at hle hle'
        obtain ⟨fuel', rfl⟩ : ∃ n, fuel' = n + 1 := ⟨fuel' - 1, by omega⟩
        rw [run_more fuel' hfront, hstep']
        exact hleft fuel' (by omega)

end Runs

end Pattern

end Descent

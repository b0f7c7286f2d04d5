import Descent.Proofs.Regex.Reading

/-!
# Reading inside a group

A pattern is read between the parentheses of a group as it is read by itself:
each construct is the same there, with the group's levels below its own. So the
group holds what the pattern spells, unless the pattern ends in a comment, which
takes the closing parenthesis in.
-/
namespace Descent

namespace Pattern

section Repetitions

variable (flags : Flags) {cs cs' : List Char}

theorem readGreed_shuts (h : Shut cs cs') :
    Shuts (some (readGreed cs)) (some (readGreed cs')) := by
  simp only [readGreed, apply_branch some]
  exact .branch h ['?'] (by decide) (by decide) (fun s => shuts_some false (.kept s))
    (shuts_some true h)

theorem readDigits_shuts {fuel fuel' : Nat} (value : Option Nat) (hfuel : fuel ≤ fuel')
    (h : Shut cs cs') :
    Shuts (readDigits flags fuel value cs) (readDigits flags fuel' value cs') := by
  induction fuel generalizing fuel' value cs cs' with
  | zero => exact shuts_none _
  | succ fuel ih =>
    obtain ⟨fuel', rfl⟩ : ∃ n, fuel' = n + 1 := ⟨fuel' - 1, by omega⟩
    cases h with
    | lost => exact shuts_some value .lost
    | kept =>
      cases cs with
      | nil => exact shuts_some value (.kept [])
      | cons c cs =>
        rw [List.cons_append, readDigits, readDigits]
        split
        · exact ih _ (by omega) ((Shut.kept cs).skip flags)
        · exact shuts_some value (.kept (c :: cs))

theorem dropBlanks_append (cs : List Char) :
    (cs ++ [')']).dropWhile isBlank = cs.dropWhile isBlank ++ [')'] := by
  induction cs with
  | nil => rfl
  | cons c cs ih =>
    rw [List.cons_append, List.dropWhile_cons, List.dropWhile_cons, ih]
    split <;> rfl

theorem Shut.dropBlanks (h : Shut cs cs') :
    Shut (cs.dropWhile isBlank) (cs'.dropWhile isBlank) := by
  cases h with
  | kept =>
    rw [dropBlanks_append]
    exact .kept _
  | lost => exact .lost

theorem Shut.length_le (h : Shut cs cs') : cs.length ≤ cs'.length := by
  cases h with
  | kept => simp
  | lost => exact Nat.le_refl _

theorem readDecimal_shuts (h : Shut cs cs') :
    Shuts (readDecimal flags cs) (readDecimal flags cs') := by
  refine (readDigits_shuts flags none (Nat.succ_le_succ h.dropBlanks.length_le) h.dropBlanks).bind
    fun value rest rest' hrest => .bindOption value fun n => ?_
  split
  · exact shuts_some n (hrest.dropBlanks.skip flags)
  · exact shuts_none _

theorem closeCounts_shuts (counts : Counts) (h : Shut cs cs') :
    Shuts (closeCounts counts cs) (closeCounts counts cs') :=
  .branch h ['\x7d'] (by decide) (by decide) (fun s => shuts_some counts (.kept s)) (shuts_none _)

theorem readMax_shuts (min : Nat) (h : Shut cs cs') :
    Shuts (readMax flags min cs) (readMax flags min cs') := by
  refine (readDecimal_shuts flags h).bind fun max rest rest' hrest => ?_
  dsimp only
  split
  · exact closeCounts_shuts _ hrest
  · exact shuts_none _

theorem readUpper_shuts (min : Nat) (h : Shut cs cs') :
    Shuts (readUpper flags min cs) (readUpper flags min cs') :=
  .branch (h.skip flags) ['\x7d'] (by decide) (by decide) (fun s => shuts_some _ (.kept s))
    (readMax_shuts flags min (h.skip flags))

theorem readCounts_shuts (h : Shut cs cs') :
    Shuts (readCounts flags cs) (readCounts flags cs') :=
  (readDecimal_shuts flags (h.skip flags)).bind fun min _ _ hrest =>
    .branch hrest [','] (by decide) (by decide) (fun s => readUpper_shuts flags min (.kept s))
      (closeCounts_shuts (min, some min) hrest)

end Repetitions

section Openings

variable {cs cs' : List Char}

theorem readFlagItems_append {items items' : List (Option Char)} {c : Char} {rest : List Char}
    (h : readFlagItems items cs = some (items', c, rest)) :
    readFlagItems items (cs ++ [')']) = some (items', c, rest ++ [')']) := by
  induction cs generalizing items with
  | nil => cases h
  | cons d cs ih =>
    revert h
    rw [List.cons_append, readFlagItems, readFlagItems]
    split
    · split
      · exact fun h => nomatch h
      · rintro ⟨⟩
        rfl
    · split
      · exact fun h => nomatch h
      · split
        · exact ih
        · exact fun h => nomatch h

theorem bindFlagItems_shuts {α : Type} (items : List (Option Char)) (cs : List Char)
    {next : List (Option Char) × Char × List Char → Option (α × List Char)}
    (h : ∀ items c rest, Shuts (next (items, c, rest)) (next (items, c, rest ++ [')']))) :
    Shuts ((readFlagItems items cs).bind next) ((readFlagItems items (cs ++ [')'])).bind next) := by
  cases hread : readFlagItems items cs with
  | none => exact shuts_none _
  | some r =>
    obtain ⟨items', c, rest⟩ := r
    rw [readFlagItems_append hread]
    exact h items' c rest

theorem readGroupName_shuts (cs : List Char) :
    Shuts (readGroupName cs) (readGroupName (cs ++ [')'])) := by
  have hbracket : '>' ≠ ')' := by decide
  rw [readGroupName, readGroupName, splitAt?_append hbracket]
  rcases splitAt? ['>'] cs with _ | ⟨_ | ⟨c, name⟩, rest⟩
  · exact shuts_none _
  · exact shuts_none _
  · dsimp only [Option.map_some]
    split
    · exact shuts_some _ (.kept rest)
    · exact shuts_none _

theorem openNamed_shuts (p : Progress) (cs : List Char) :
    Shuts (p.openNamed cs) (p.openNamed (cs ++ [')'])) := by
  rw [Progress.openNamed, Progress.openNamed]
  refine (readGroupName_shuts cs).bind fun name rest rest' hrest => ?_
  dsimp only
  split
  · exact shuts_none _
  · exact shuts_some _ hrest

theorem readFlags_shuts (p : Progress) (cs : List Char) :
    Shuts (p.readFlags cs) (p.readFlags (cs ++ [')'])) := by
  refine bindFlagItems_shuts [] cs fun items stop rest => ?_
  dsimp only
  split
  · exact shuts_some _ (.kept rest)
  · split
    · exact shuts_none _
    · exact shuts_some _ (.kept rest)

theorem readExtension_shuts (p : Progress) (cs : List Char) :
    Shuts (p.readExtension cs) (p.readExtension (cs ++ [')'])) :=
  .branch (.kept cs) ['<'] (by decide) (by decide) (openNamed_shuts p)
    (.branch (.kept cs) ['P', '<'] (by decide) (by decide) (openNamed_shuts p)
      (readFlags_shuts p cs))

theorem readOpening_shuts (p : Progress) (h : Shut cs cs') :
    Shuts (p.readOpening cs) (p.readOpening cs') :=
  .branch (h.skip p.flags) ['?'] (by decide) (by decide) (readExtension_shuts p)
    (shuts_some _ (h.skip p.flags))

end Openings

section Steps

theorem repeatLast_shuts (p : Progress) (min : Nat) (max : Option Nat) {cs cs' : List Char}
    (h : Shut cs cs') :
    Shuts
      ((some (readGreed cs)).bind fun r => (p.repeatLast min max r.1).map (·, r.2))
      ((some (readGreed cs')).bind fun r => (p.repeatLast min max r.1).map (·, r.2)) :=
  (readGreed_shuts h).bind fun greedy _ _ hrest =>
    shuts_mapOption (p.repeatLast min max greedy) id hrest

theorem step_shuts (p : Progress) {cs cs' : List Char} (h : Shut cs cs') :
    Shuts (p.step cs) (p.step cs') := by
  cases h with
  | lost => exact shuts_none _
  | kept =>
    rw [Progress.step.eq_def]
    split
    · exact shuts_none _
    · next cs => exact readOpening_shuts p (.kept cs)
    · next cs => exact shuts_mapOption p.closeGroup id (.kept cs)
    · next cs => exact shuts_some _ (.kept cs)
    · next cs =>
      exact (readClass_shuts p.flags ('[' :: cs)).bind fun part _ _ hrest => shuts_some _ hrest
    · next cs => exact repeatLast_shuts p 0 (some 1) (.kept cs)
    · next cs => exact repeatLast_shuts p 0 none (.kept cs)
    · next cs => exact repeatLast_shuts p 1 none (.kept cs)
    · next cs =>
      exact (readCounts_shuts p.flags (.kept cs)).bind fun bounds _ _ hrest =>
        repeatLast_shuts p bounds.1 bounds.2 (hrest.skip p.flags)
    · next cs =>
      exact (readEscape_shuts p.flags (.kept cs)).bind fun atom _ _ hrest =>
        shuts_mapOption (p.pushAtom atom) id hrest
    · next cs => exact shuts_mapOption (dot? p.flags) (fun s => p.push (.set s) 0) (.kept cs)
    · next cs => exact shuts_some _ (.kept cs)
    · next cs => exact shuts_some _ (.kept cs)
    · next c cs h₁ h₂ h₃ h₄ h₅ h₆ h₇ h₈ h₉ h₁₀ h₁₁ h₁₂ =>
      rw [List.cons_append, Progress.step.eq_14 p c _ h₁ h₂ h₃ h₄ h₅ h₆ h₇ h₈ h₉ h₁₀ h₁₁ h₁₂]
      exact shuts_mapOption (p.pushAtom (.char c false)) id (.kept cs)

end Steps

section Frame

variable (base : List (Level × Flags)) (p : Progress)

/-- The same inside of other groups. -/
def Progress.under : Progress := { p with outer := p.outer ++ base }

theorem bind_map {α β γ : Type} {found : Option α} {next : α → Option β} {next' : α → Option γ}
    {g : β → γ} (h : ∀ x, next' x = (next x).map g) :
    found.bind next' = (found.bind next).map g := by
  cases found with
  | none => rfl
  | some x => exact h x

theorem openNamed_under (cs : List Char) :
    (p.under base).openNamed cs = (p.openNamed cs).map fun r => (r.1.under base, r.2) := by
  rw [Progress.openNamed, Progress.openNamed]
  refine bind_map fun r => ?_
  show (if p.names.contains r.1 then _ else _) =
    Option.map _ (if p.names.contains r.1 then _ else _)
  split <;> rfl

theorem readExtension_under (cs : List Char) :
    (p.under base).readExtension cs = (p.readExtension cs).map fun r => (r.1.under base, r.2) := by
  simp only [Progress.readExtension, branch]
  split
  · exact openNamed_under base p _
  · split
    · exact openNamed_under base p _
    · refine bind_map fun r => ?_
      dsimp only
      split
      · rfl
      · split <;> rfl

theorem readOpening_under (cs : List Char) :
    (p.under base).readOpening cs = (p.readOpening cs).map fun r => (r.1.under base, r.2) := by
  have hflags : (p.under base).flags = p.flags := rfl
  simp only [Progress.readOpening, branch, hflags]
  split
  · exact readExtension_under base p _
  · rfl

theorem pushAtom_under (atom : Atom) :
    (p.under base).pushAtom atom = (p.pushAtom atom).map (·.under base) := by
  cases atom with
  | char c byte =>
    show (charSet? p.flags c byte).map _ = ((charSet? p.flags c byte).map _).map _
    cases charSet? p.flags c byte <;> rfl
  | set s => rfl
  | look l => rfl

theorem repeatLast_under (min : Nat) (max : Option Nat) (greedy : Bool) :
    (p.under base).repeatLast min max greedy =
      (p.repeatLast min max greedy).map (·.under base) := by
  have hlevel : (p.under base).level = p.level := rfl
  rw [Progress.repeatLast, Progress.repeatLast, hlevel]
  split
  · split <;> rfl
  · rfl

/-- Inside of other groups there are more parentheses to be closed. -/
theorem closeGroup_under {q : Progress} (h : p.closeGroup = some q) :
    (p.under base).closeGroup = some (q.under base) := by
  obtain ⟨level, outer, flags, names⟩ := p
  cases outer with
  | nil => cases h
  | cons last outer =>
    obtain rfl := Option.some.inj h
    rfl

theorem map_under {found found' : Option Progress} (h : found' = found.map (·.under base))
    (cs : List Char) :
    found'.map (·, cs) = (found.map (·, cs)).map fun r => (r.1.under base, r.2) := by
  subst h
  cases found <;> rfl

/-- What a step does that does not close a group, it does inside of other groups too. -/
theorem step_under_of_ne {cs : List Char} (h : ∀ after, cs ≠ ')' :: after) :
    (p.under base).step cs = (p.step cs).map fun r => (r.1.under base, r.2) := by
  rw [Progress.step.eq_def p cs]
  split
  · rfl
  · exact readOpening_under base p _
  · exact absurd rfl (h _)
  · rfl
  · exact bind_map fun r => rfl
  · exact map_under base (repeatLast_under base p ..) _
  · exact map_under base (repeatLast_under base p ..) _
  · exact map_under base (repeatLast_under base p ..) _
  · exact bind_map fun r => map_under base (repeatLast_under base p ..) _
  · exact bind_map fun r => map_under base (pushAtom_under base p r.1) _
  · rw [Option.map_map]
    rfl
  · rfl
  · rfl
  · next c cs h₁ h₂ h₃ h₄ h₅ h₆ h₇ h₈ h₉ h₁₀ h₁₁ h₁₂ =>
    rw [Progress.step.eq_14 _ c _ h₁ h₂ h₃ h₄ h₅ h₆ h₇ h₈ h₉ h₁₀ h₁₁ h₁₂]
    exact map_under base (pushAtom_under base p (.char c false)) _

theorem step_under {cs rest : List Char} {q : Progress} (h : p.step cs = some (q, rest)) :
    (p.under base).step cs = some (q.under base, rest) := by
  by_cases hclose : ∃ after, cs = ')' :: after
  · obtain ⟨after, rfl⟩ := hclose
    obtain ⟨q', hclose, heq⟩ := Option.map_eq_some_iff.1 h
    obtain ⟨rfl, rfl⟩ := Prod.mk.inj heq
    exact Option.map_eq_some_iff.2 ⟨_, closeGroup_under base p hclose, rfl⟩
  · rw [step_under_of_ne base p fun after heq => hclose ⟨after, heq⟩, h]
    rfl

end Frame

section Runs

variable {p : Progress} {cs cs' : List Char} {piece : Piece}

theorem run_end (fuel : Nat) (h : p.flags.skip cs = []) :
    p.run fuel cs = if p.outer.isEmpty then some p.level.finish else none := by
  rw [Progress.run.eq_def, h]

theorem run_more (fuel : Nat) {c : Char} {s : List Char} (h : p.flags.skip cs = c :: s) :
    p.run (fuel + 1) cs = (p.step (c :: s)).bind fun r => r.1.run fuel r.2 := by
  rw [Progress.run.eq_def, h]
  rfl

theorem run_zero {c : Char} {s : List Char} (h : p.flags.skip cs = c :: s) :
    p.run 0 cs = none := by
  rw [Progress.run.eq_def, h]

/-- A run begins with the blanks that it may skip. -/
theorem run_skip (fuel : Nat) {s : List Char} (h : p.flags.skip cs = p.flags.skip s) :
    p.run fuel cs = p.run fuel s := by
  rw [Progress.run.eq_def, Progress.run.eq_def fuel p s, h]

theorem skip_of_shut_nil (flags : Flags) (h : Shut [] cs) : flags.skip cs = cs := by
  unfold Flags.skip
  cases h with
  | kept => split <;> rfl
  | lost => split <;> rfl

/-- The runs of a pattern inside of groups, with the parenthesis after it, come to where the
pattern has been read. -/
def Completes (fuel : Nat) (p : Progress) (cs : List Char) (piece : Piece) : Prop :=
  ∃ (q : Progress) (last : List Char) (n : Nat),
    q.outer = [] ∧ q.level.finish = piece ∧ Shut [] last ∧
      ∀ base more, (p.under base).run (fuel + more) cs = (q.under base).run (n + more) last

theorem completes_of_end {fuel : Nat} (h : Shut cs cs') (hcs : p.flags.skip cs = [])
    (hread : p.run fuel cs = some piece) : Completes fuel p cs' piece := by
  have hlast := h.skip p.flags
  rw [hcs] at hlast
  rw [run_end fuel hcs] at hread
  split at hread
  · next houter =>
    refine ⟨p, p.flags.skip cs', fuel, List.isEmpty_iff.1 houter, Option.some.inj hread, hlast, ?_⟩
    intro base more
    exact run_skip _ (skip_of_shut_nil p.flags hlast).symm
  · cases hread

/-- A pattern that is read to its end is read in the same way inside of other groups. -/
theorem run_shuts {fuel : Nat} (h : Shut cs cs') (hread : p.run fuel cs = some piece) :
    Completes fuel p cs' piece := by
  induction fuel generalizing p cs cs' with
  | zero =>
    cases hcs : p.flags.skip cs with
    | nil => exact completes_of_end h hcs hread
    | cons c s =>
      rw [run_zero hcs] at hread
      cases hread
  | succ fuel ih =>
    cases hcs : p.flags.skip cs with
    | nil => exact completes_of_end h hcs hread
    | cons c s =>
      rw [run_more fuel hcs] at hread
      obtain ⟨⟨p', rest⟩, hstep, hread⟩ := Option.bind_eq_some_iff.1 hread
      have hskip := h.skip p.flags
      rw [hcs] at hskip
      obtain ⟨rest', hstep', hrest⟩ := step_shuts p hskip p' rest hstep
      obtain ⟨q, last, n, houter, hfinish, hlast, hrun⟩ := ih hrest hread
      refine ⟨q, last, n, houter, hfinish, hlast, fun base more => ?_⟩
      generalize hcs' : p.flags.skip cs' = s' at hskip hstep'
      cases hskip
      rw [List.cons_append] at hcs' hstep'
      rw [show fuel + 1 + more = fuel + more + 1 by omega,
        run_more (p := p.under base) (fuel + more) hcs', step_under base p hstep']
      exact hrun base more

/-- At the parenthesis the last group is closed, if there is one. -/
theorem run_close (n : Nat) (p : Progress) :
    p.run (n + 1) [')'] = p.closeGroup.bind fun q => q.run n [] := by
  rw [run_more n (skip_of_shut_nil p.flags (.kept []))]
  show (p.closeGroup.map (·, [])).bind _ = _
  cases p.closeGroup <;> rfl

theorem run_nil (n : Nat) (p : Progress) :
    p.run n [] = if p.outer.isEmpty then some p.level.finish else none :=
  run_end n (skip_of_shut_nil p.flags .lost)

/-- Either the parenthesis closes the group, and cannot stand behind the pattern alone; or it falls
into a comment in both. -/
theorem run_enclosed {fuel : Nat} (level : Level) (hread : Progress.run fuel {} cs = some piece) :
    ((({} : Progress).under [(level, {})]).run (fuel + 3) (cs ++ [')']) =
          some (level.push ⟨piece.pattern, piece.height + 1, true⟩).finish ∧
        Progress.run (fuel + 1) {} (cs ++ [')']) = none) ∨
      ((({} : Progress).under [(level, {})]).run (fuel + 3) (cs ++ [')']) = none ∧
        Progress.run (fuel + 1) {} (cs ++ [')']) = some piece) := by
  obtain ⟨q, last, n, houter, hfinish, hlast, hrun⟩ := run_shuts (.kept cs) hread
  have halone : Progress.run (fuel + 1) {} (cs ++ [')']) = (q.under []).run (n + 1) last :=
    hrun [] 1
  rw [hrun [(level, {})] 3, halone]
  obtain ⟨level', outer, flags, names⟩ := q
  obtain rfl : outer = [] := houter
  obtain rfl : level'.finish = piece := hfinish
  cases hlast with
  | kept =>
    refine .inl ⟨?_, ?_⟩
    · rw [List.nil_append, run_close]
      exact run_nil _ _
    · rw [List.nil_append, run_close]
      rfl
  | lost =>
    refine .inr ⟨?_, ?_⟩
    · rw [run_nil]
      rfl
    · rw [run_nil]
      rfl

end Runs

end Pattern

end Descent

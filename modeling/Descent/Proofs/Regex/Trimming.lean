import Descent.Proofs.Regex.Groups

/-!
# Reading in front of a parenthesis

A reader takes a front of the text and leaves the rest. Where it leaves a
closing parenthesis, it would have taken the same from a text that ends before
the parenthesis: no reader looks further than to the character that it stops
at, and to none of them is a closing parenthesis different from the end of the
text. So what stands in a group is an expression by itself.
-/
namespace Descent

namespace Pattern

section Texts

/-- Between the text and what is left of it, the parenthesis is still there. -/
theorem exists_of_suffix {middle left tail : List Char}
    (h : left ++ ')' :: tail <:+ middle) : ∃ front, middle = front ++ ')' :: tail := by
  obtain ⟨before, rfl⟩ := h
  exact ⟨before ++ left, by simp⟩

/-- What stands before the text that is left over belongs to the front. -/
theorem exists_of_append_suffix (taken : List Char) {cs front left tail : List Char}
    (h : taken ++ cs = front ++ ')' :: tail) (hleft : left ++ ')' :: tail <:+ cs) :
    ∃ front', front = taken ++ front' ∧ cs = front' ++ ')' :: tail := by
  obtain ⟨front', rfl⟩ := exists_of_suffix hleft
  rw [← List.append_assoc] at h
  exact ⟨front', (List.append_cancel_right h).symm, rfl⟩

theorem exists_of_cons_suffix {c : Char} {cs front left tail : List Char}
    (h : c :: cs = front ++ ')' :: tail) (hleft : left ++ ')' :: tail <:+ cs) :
    ∃ front', front = c :: front' ∧ cs = front' ++ ')' :: tail :=
  exists_of_append_suffix [c] h hleft

theorem exists_of_cons_ne {c : Char} {cs front tail : List Char} (hc : c ≠ ')')
    (h : c :: cs = front ++ ')' :: tail) :
    ∃ front', front = c :: front' ∧ cs = front' ++ ')' :: tail := by
  cases front with
  | nil => exact absurd (List.cons.inj h).1 hc
  | cons c' front =>
    obtain ⟨rfl, rfl⟩ := List.cons.inj h
    exact ⟨front, rfl, rfl⟩

/-- What is left of a text after a parenthesis does not hold the parenthesis. -/
theorem suffix_ne {rest tail : List Char} (h : rest <:+ tail) (left : List Char) :
    rest ≠ left ++ ')' :: tail := by
  rintro rfl
  have hle := h.length_le
  simp at hle
  omega

end Texts

section Readers

variable {α β γ : Type} {m : Nat} {ok : α → List Char → Prop} {ok' : β → List Char → Prop}
  {read read' : List Char → Option (α × List Char)}

/-- A reader takes a front of each text. Where it leaves a closing parenthesis, the second reader
takes the same from the text that ends before the parenthesis and is shorter than `m` characters, if
what is left of that is `ok`. -/
def TrimsIf (m : Nat) (ok : α → List Char → Prop)
    (read read' : List Char → Option (α × List Char)) : Prop :=
  ∀ cs x rest, read cs = some (x, rest) → rest <:+ cs ∧
    ∀ front left tail, front.length < m → cs = front ++ ')' :: tail → rest = left ++ ')' :: tail →
      ok x left → read' front = some (x, left)

abbrev Trims (m : Nat) (read read' : List Char → Option (α × List Char)) : Prop :=
  TrimsIf m (fun _ _ => True) read read'

theorem TrimsIf.mono {m' : Nat} {ok₂ : α → List Char → Prop} (h : TrimsIf m ok read read')
    (hm : m' ≤ m) (hok : ∀ x left, ok₂ x left → ok x left) : TrimsIf m' ok₂ read read' := by
  intro cs x rest hx
  obtain ⟨hrest, htrim⟩ := h cs x rest hx
  exact ⟨hrest, fun front left tail hshort hcs hleft hx =>
    htrim front left tail (Nat.lt_of_lt_of_le hshort hm) hcs hleft (hok x left hx)⟩

theorem TrimsIf.zero {ok₂ : α → List Char → Prop} {other : List Char → Option (α × List Char)}
    (h : TrimsIf m ok read read') : TrimsIf 0 ok₂ read other :=
  fun cs x rest hx => ⟨(h cs x rest hx).1, fun _ _ _ hshort => absurd hshort (Nat.not_lt_zero _)⟩

/-- A reader with fuel, of which one more than the length of the text is enough. -/
theorem TrimsIf.of_fuel {read : Nat → List Char → Option (α × List Char)}
    (h : ∀ fuel fuel', TrimsIf fuel' ok (read fuel) (read fuel')) :
    TrimsIf m ok (fun cs => read (cs.length + 1) cs) fun cs => read (cs.length + 1) cs := by
  intro cs x rest hx
  refine ⟨(h _ 0 cs x rest hx).1, fun front left tail _ hcs hleft hok => ?_⟩
  exact (h _ (front.length + 1) cs x rest hx).2 front left tail (Nat.lt_succ_self _) hcs hleft hok

theorem trimsIf_none : TrimsIf m ok (fun _ => none) read' := by
  intro cs x rest h
  cases h

theorem trimsIf_some (x : α) : TrimsIf m ok (fun cs => some (x, cs)) fun cs => some (x, cs) := by
  intro cs y rest h
  obtain ⟨rfl, rfl⟩ := Prod.mk.inj (Option.some.inj h)
  refine ⟨List.suffix_refl _, ?_⟩
  rintro front left tail - rfl h -
  obtain rfl := List.append_cancel_right h
  rfl

/-- One reader after another; the second one shows that what the first one left was all right. -/
theorem TrimsIf.bind {next next' : α × List Char → Option (β × List Char)}
    (h : TrimsIf m ok read read')
    (hnext : ∀ x, TrimsIf m ok' (fun rest => next (x, rest)) fun rest => next' (x, rest))
    (hok : ∀ x left y left', next' (x, left) = some (y, left') → ok' y left' → ok x left) :
    TrimsIf m ok' (fun cs => (read cs).bind next) fun cs => (read' cs).bind next' := by
  intro cs y rest hy
  obtain ⟨⟨x, middle⟩, hx, hy⟩ := Option.bind_eq_some_iff.1 hy
  obtain ⟨hmiddle, htrim⟩ := h cs x middle hx
  obtain ⟨hrest, htrim'⟩ := hnext x middle y rest hy
  refine ⟨hrest.trans hmiddle, ?_⟩
  rintro front left tail hshort rfl rfl hleft
  obtain ⟨front', rfl⟩ := exists_of_suffix hrest
  have hshort' : front'.length < m := by
    have hle := hmiddle.length_le
    simp only [List.length_append, List.length_cons] at hle
    omega
  have hnext := htrim' front' left tail hshort' rfl rfl hleft
  exact Option.bind_eq_some_iff.2
    ⟨_, htrim front front' tail hshort rfl rfl (hok x front' _ _ hnext hleft), hnext⟩

theorem Trims.bind {next next' : α × List Char → Option (β × List Char)} (h : Trims m read read')
    (hnext : ∀ x, TrimsIf m ok' (fun rest => next (x, rest)) fun rest => next' (x, rest)) :
    TrimsIf m ok' (fun cs => (read cs).bind next) fun cs => (read' cs).bind next' :=
  TrimsIf.bind h hnext fun _ _ _ _ _ _ => trivial

theorem TrimsIf.bindOption (o : Option γ) {next next' : γ → List Char → Option (β × List Char)}
    (h : ∀ y, TrimsIf m ok' (next y) (next' y)) :
    TrimsIf m ok' (fun cs => o.bind fun y => next y cs) fun cs => o.bind fun y => next' y cs := by
  cases o with
  | none => exact trimsIf_none
  | some y => exact h y

theorem TrimsIf.ite {next next' : List Char → Option (α × List Char)} (p : Prop) [Decidable p]
    (h : TrimsIf m ok read read') (hnext : TrimsIf m ok next next') :
    TrimsIf m ok (fun cs => if p then read cs else next cs)
      fun cs => if p then read' cs else next' cs := by
  by_cases hp : p
  · simpa only [if_pos hp] using h
  · simpa only [if_neg hp] using hnext

theorem TrimsIf.map (g : α → β) (h : TrimsIf m (fun x => ok' (g x)) read read') :
    TrimsIf m ok' (fun cs => (read cs).map fun r => (g r.1, r.2))
      fun cs => (read' cs).map fun r => (g r.1, r.2) := by
  intro cs y rest hy
  obtain ⟨⟨x, rest⟩, hx, hy⟩ := Option.map_eq_some_iff.1 hy
  obtain ⟨rfl, rfl⟩ := Prod.mk.inj hy
  obtain ⟨hrest, htrim⟩ := h cs x rest hx
  refine ⟨hrest, fun front left tail hshort hcs hleft hok => ?_⟩
  exact Option.map_eq_some_iff.2 ⟨_, htrim front left tail hshort hcs hleft hok, rfl⟩

theorem trimsIf_mapOption (o : Option γ) (g : γ → α) :
    TrimsIf m ok (fun cs => o.map fun y => (g y, cs)) fun cs => o.map fun y => (g y, cs) := by
  cases o with
  | none => exact trimsIf_none
  | some y => exact trimsIf_some (g y)

/-- A reader that takes a character first. -/
theorem TrimsIf.uncons (hnil : read [] = none)
    (h : ∀ c, TrimsIf m ok (fun cs => read (c :: cs)) fun cs => read' (c :: cs)) :
    TrimsIf (m + 1) ok read read' := by
  intro cs x rest hx
  cases cs with
  | nil =>
    rw [hnil] at hx
    cases hx
  | cons c cs =>
    obtain ⟨hrest, htrim⟩ := h c cs x rest hx
    refine ⟨hrest.trans (List.suffix_cons c cs), ?_⟩
    rintro front left tail hshort hcs rfl hok
    obtain ⟨front, rfl, hcut⟩ := exists_of_cons_suffix hcs hrest
    exact htrim front left tail (Nat.lt_of_succ_lt_succ hshort) hcut rfl hok

/-- A reader that takes the same characters before every text. -/
theorem trims_of_taken (h : ∀ cs x rest, read cs = some (x, rest) →
      ∃ taken, cs = taken ++ rest ∧ ∀ more, read (taken ++ more) = some (x, more)) :
    Trims m read read := by
  intro cs x rest hx
  obtain ⟨taken, rfl, htaken⟩ := h cs x rest hx
  refine ⟨List.suffix_append taken rest, ?_⟩
  rintro front left tail - hcs rfl -
  rw [← List.append_assoc] at hcs
  rw [← List.append_cancel_right hcs]
  exact htaken left

/-- A reader that does one thing after some characters and another without them. -/
theorem TrimsIf.orElse {next next' other other' : List Char → Option (α × List Char)}
    (taken : List Char) (hnext : TrimsIf m ok next next') (hother : TrimsIf m ok other other')
    (htaken : ∀ cs, read (taken ++ cs) = next cs) (htaken' : ∀ cs, read' (taken ++ cs) = next' cs)
    (helse : ∀ cs, (∀ rest, cs = taken ++ rest → False) → read cs = other cs)
    (helse' : ∀ cs, (∀ rest, cs = taken ++ rest → False) → read' cs = other' cs) :
    TrimsIf m ok read read' := by
  intro cs x rest hx
  by_cases hpre : ∃ rest, cs = taken ++ rest
  · obtain ⟨cs, rfl⟩ := hpre
    rw [htaken] at hx
    obtain ⟨hrest, htrim⟩ := hnext cs x rest hx
    refine ⟨hrest.trans (List.suffix_append _ _), ?_⟩
    rintro front left tail hshort hcs rfl hok
    obtain ⟨front, rfl, hcut⟩ := exists_of_append_suffix taken hcs hrest
    rw [List.length_append] at hshort
    rw [htaken']
    exact htrim front left tail (by omega) hcut rfl hok
  · rw [helse cs fun rest hcs => hpre ⟨rest, hcs⟩] at hx
    obtain ⟨hrest, htrim⟩ := hother cs x rest hx
    refine ⟨hrest, ?_⟩
    rintro front left tail hshort rfl hleft hok
    rw [helse' front fun rest hfront => hpre ⟨_, by rw [hfront, List.append_assoc]⟩]
    exact htrim front left tail hshort rfl hleft hok

theorem TrimsIf.branch {next next' other other' : List Char → Option (α × List Char)}
    (taken : List Char) (hnext : TrimsIf m ok next next') (hother : TrimsIf m ok other other') :
    TrimsIf m ok (branch taken next other) (branch taken next' other') :=
  .orElse taken hnext hother (fun cs => branch_append taken cs next other)
    (fun cs => branch_append taken cs next' other') (fun _ => branch_of_ne next other)
    fun _ => branch_of_ne next' other'

end Readers

section Blanks

theorem skipBlanks_suffix (inComment : Bool) (cs : List Char) : skipBlanks inComment cs <:+ cs := by
  induction cs generalizing inComment with
  | nil => exact List.suffix_refl _
  | cons c cs ih =>
    have hlater : ∀ inComment, skipBlanks inComment cs <:+ c :: cs :=
      fun inComment => (ih inComment).trans (List.suffix_cons c cs)
    simp only [skipBlanks]
    split
    · exact hlater _
    · split
      · exact hlater _
      · split
        · exact hlater _
        · exact List.suffix_refl _

/-- Either all of a text is skipped and the skipping goes on behind it, or what is not skipped stays
in front of what follows. -/
theorem skipBlanks_append (inComment : Bool) (front more : List Char) :
    (∃ inComment', skipBlanks inComment front = [] ∧
      skipBlanks inComment (front ++ more) = skipBlanks inComment' more) ∨
    (skipBlanks inComment front ≠ [] ∧
      skipBlanks inComment (front ++ more) = skipBlanks inComment front ++ more) := by
  induction front generalizing inComment with
  | nil => exact .inl ⟨inComment, rfl, rfl⟩
  | cons c front ih =>
    simp only [List.cons_append, skipBlanks]
    split
    · exact ih _
    · split
      · exact ih _
      · split
        · exact ih _
        · exact .inr ⟨List.cons_ne_nil _ _, rfl⟩

/-- A parenthesis is skipped in a comment only. -/
theorem skipBlanks_close (inComment : Bool) (tail : List Char) :
    skipBlanks inComment (')' :: tail) = ')' :: tail ∨
      skipBlanks inComment (')' :: tail) <:+ tail := by
  have hblank : isBlank ')' = false := by decide
  cases inComment with
  | true => exact .inr (skipBlanks_suffix _ tail)
  | false => exact .inl (by simp [skipBlanks, hblank])

variable (flags : Flags)

/-- What is not skipped at the end of a text is not skipped in front of another one. -/
theorem skip_append {front : List Char} (h : flags.skip front ≠ []) (more : List Char) :
    flags.skip (front ++ more) = flags.skip front ++ more := by
  unfold Flags.skip at *
  split at h
  · next hverbose =>
    rw [if_pos hverbose, if_pos hverbose]
    rcases skipBlanks_append false front more with ⟨-, hnil, -⟩ | ⟨-, hmore⟩
    · exact absurd hnil h
    · exact hmore
  · next hverbose => rw [if_neg hverbose, if_neg hverbose]

theorem exists_cons_of_skip_append {front more s : List Char} {c : Char}
    (h : flags.skip (front ++ more) = c :: s) (hfront : flags.skip front ≠ []) :
    ∃ s', flags.skip front = c :: s' := by
  rw [skip_append flags hfront] at h
  cases hs : flags.skip front with
  | nil => exact absurd hs hfront
  | cons c' s' =>
    rw [hs] at h
    obtain ⟨rfl, -⟩ := List.cons.inj h
    exact ⟨s', rfl⟩

theorem standsAlone_skip_append {front : List Char} (h : flags.skip front ≠ [])
    (more : List Char) :
    StandsAlone (flags.skip (front ++ more)) ↔ StandsAlone (flags.skip front) := by
  rw [skip_append flags h]
  cases hs : flags.skip front with
  | nil => exact absurd hs h
  | cons c s => exact Iff.rfl

theorem skip_cons {c : Char} (hblank : isBlank c = false) (hc : c ≠ '#') (cs : List Char) :
    flags.skip (c :: cs) = c :: cs := by
  unfold Flags.skip
  split
  · simp [skipBlanks, hblank, hc]
  · rfl

theorem skip_suffix (cs : List Char) : flags.skip cs <:+ cs := by
  unfold Flags.skip
  split
  · exact skipBlanks_suffix false cs
  · exact List.suffix_refl _

theorem skip_trims {front left tail : List Char}
    (h : flags.skip (front ++ ')' :: tail) = left ++ ')' :: tail) : flags.skip front = left := by
  unfold Flags.skip at *
  split at h
  · next hverbose =>
    rw [if_pos hverbose]
    rcases skipBlanks_append false front (')' :: tail) with ⟨inComment, hnil, hskip⟩ | ⟨-, hskip⟩
    · rw [hskip] at h
      rcases skipBlanks_close inComment tail with hclose | hclose
      · exact hnil.trans (List.append_cancel_right (hclose.symm.trans h))
      · exact absurd h (suffix_ne hclose left)
    · exact List.append_cancel_right (hskip.symm.trans h)
  · next hverbose =>
    rw [if_neg hverbose]
    exact List.append_cancel_right h

theorem exists_of_skip {cs left tail : List Char} (h : flags.skip cs = left ++ ')' :: tail) :
    ∃ front, cs = front ++ ')' :: tail ∧ flags.skip front = left := by
  obtain ⟨front, rfl⟩ := exists_of_suffix (h ▸ skip_suffix flags cs)
  exact ⟨front, rfl, skip_trims flags h⟩

theorem TrimsIf.skip {α : Type} {m : Nat} {ok : α → List Char → Prop}
    {read read' : List Char → Option (α × List Char)} (h : TrimsIf m ok read read') :
    TrimsIf m ok (fun cs => read (flags.skip cs)) fun cs => read' (flags.skip cs) := by
  intro cs x rest hx
  obtain ⟨hrest, htrim⟩ := h _ x rest hx
  refine ⟨hrest.trans (skip_suffix flags cs), ?_⟩
  rintro front left tail hshort rfl rfl hok
  obtain ⟨front', hfront'⟩ := exists_of_suffix hrest
  have hskip := skip_trims flags hfront'
  have hle := (skip_suffix flags front).length_le
  rw [hskip] at hle
  show read' (flags.skip front) = some (x, left)
  rw [hskip]
  exact htrim front' left tail (by omega) hfront' rfl hok

end Blanks

section Escapes

variable (flags : Flags) {m : Nat}

theorem readHexDigits_trims (n value : Nat) :
    Trims m (readHexDigits flags n value) (readHexDigits flags n value) := by
  induction n generalizing value with
  | zero => exact trimsIf_some value
  | succ n ih =>
    refine TrimsIf.mono (.uncons rfl fun c => ?_) (Nat.le_succ m) fun _ _ h => h
    exact .bindOption (hexWeight? c) fun d => (ih (value * 16 + d)).skip flags

theorem readPiece_trims {more more' : List Char → Option (List Char × List Char)}
    (h : Trims m more more') : Trims (m + 1) (readPiece more) (readPiece more') :=
  .uncons rfl fun c => .ite _ (trimsIf_some []) (.map (c :: ·) h)

theorem readBraced_trims (fuel fuel' : Nat) :
    Trims fuel' (readBraced flags fuel) (readBraced flags fuel') := by
  induction fuel generalizing fuel' with
  | zero => exact trimsIf_none
  | succ fuel ih =>
    have hsucc (fuel' : Nat) :
        Trims (fuel' + 1) (readBraced flags (fuel + 1)) (readBraced flags (fuel' + 1)) :=
      TrimsIf.skip flags (readPiece_trims (ih fuel'))
    cases fuel' with
    | zero => exact (hsucc 0).zero
    | succ fuel' => exact hsucc fuel'

theorem bracedName_trims :
    Trims m (fun cs => readBraced flags (cs.length + 1) cs)
      fun cs => readBraced flags (cs.length + 1) cs :=
  .of_fuel (readBraced_trims flags)

theorem readHexPlain_trims (digits : Nat) :
    Trims m (readHexPlain flags digits) (readHexPlain flags digits) :=
  (readHexDigits_trims flags digits 0).bind fun value =>
    .bindOption (charOfScalar? value) fun c => trimsIf_some (Atom.char c (digits == 2))

theorem readHexBraced_trims : Trims m (readHexBraced flags) (readHexBraced flags) :=
  (bracedName_trims flags).bind fun inner => .bindOption (inner.mapM hexWeight?) fun _ =>
    .ite _ trimsIf_none (.bindOption _ fun c => (trimsIf_some (Atom.char c false)).skip flags)

theorem readHex_trims (digits : Nat) : Trims m (readHex flags digits) (readHex flags digits) :=
  TrimsIf.skip flags
    (.branch ['\x7b'] (readHexBraced_trims flags) (readHexPlain_trims flags digits))

theorem readLetterQuery_trims : Trims m (readLetterQuery flags) (readLetterQuery flags) :=
  TrimsIf.mono (.uncons rfl fun c => .ite _ trimsIf_none ((trimsIf_some [c]).skip flags))
    (Nat.le_succ m) fun _ _ h => h

theorem readQuery_trims : Trims m (readQuery flags) (readQuery flags) :=
  TrimsIf.skip flags (.branch ['\x7b'] (bracedName_trims flags) (readLetterQuery_trims flags))

theorem readProperty_trims (negated : Bool) :
    Trims m (readProperty flags negated) (readProperty flags negated) :=
  .ite _ trimsIf_none ((readQuery_trims flags).bind fun query =>
    .bindOption (propertyQuery? query) fun _ => trimsIf_some _)

theorem readBoundary_brace {inner s : List Char} {c : Char} (h : flags.skip inner = c :: s) :
    readBoundary flags ('\x7b' :: inner) =
      if c.isAlpha || c == '-' then
        (readBraced flags (inner.length + 1) inner).bind fun r =>
          (boundary? (!flags.unicode) r.1).map (·, r.2)
      else some (.wordBoundary !flags.unicode, '\x7b' :: inner) := by
  rw [readBoundary, h]
  rfl

/-- What is left begins with a brace, and there is nothing in it. -/
def Flags.Stuck (left : List Char) : Prop := ∃ inner, left = '\x7b' :: inner ∧ flags.skip inner = []

/-- A name in braces is looked for after a boundary. Where the text ends at the brace, the boundary
is read only with a parenthesis after it, and then the brace is left. -/
theorem readBoundary_trims :
    TrimsIf m (fun _ left => ¬ flags.Stuck left) (readBoundary flags) (readBoundary flags) := by
  intro cs l rest h
  by_cases hbrace : ∃ inner, cs = '\x7b' :: inner
  · obtain ⟨inner, rfl⟩ := hbrace
    cases hskip : flags.skip inner with
    | nil =>
      rw [readBoundary, hskip] at h
      cases h
    | cons c s =>
      rw [readBoundary_brace flags hskip] at h
      split at h
      · next hname =>
        obtain ⟨⟨name, rest⟩, hread, hl⟩ := Option.bind_eq_some_iff.1 h
        obtain ⟨l, hlook, hl⟩ := Option.map_eq_some_iff.1 hl
        obtain ⟨rfl, rfl⟩ := Prod.mk.inj hl
        obtain ⟨hrest, htrim⟩ := bracedName_trims flags (m := inner.length + 1) _ _ _ hread
        refine ⟨hrest.trans (List.suffix_cons _ _), ?_⟩
        rintro front left tail - hcs rfl -
        obtain ⟨inner', rfl, rfl⟩ := exists_of_cons_ne (by decide) hcs
        have hshort : inner'.length < (inner' ++ ')' :: tail).length + 1 := by
          rw [List.length_append]
          omega
        have hread' : readBraced flags (inner'.length + 1) inner' = some (name, left) :=
          htrim inner' left tail hshort rfl rfl trivial
        have hsome : flags.skip inner' ≠ [] := by
          intro hnil
          rw [readBraced, hnil] at hread'
          cases hread'
        obtain ⟨s', hfront⟩ := exists_cons_of_skip_append flags hskip hsome
        rw [readBoundary_brace flags hfront, if_pos hname, hread']
        exact Option.map_eq_some_iff.2 ⟨l, hlook, rfl⟩
      · next hname =>
        obtain ⟨rfl, rfl⟩ := Prod.mk.inj (Option.some.inj h)
        refine ⟨List.suffix_refl _, ?_⟩
        rintro front left tail - hcs hleft hok
        obtain rfl := List.append_cancel_right (hcs.symm.trans hleft)
        obtain ⟨inner', rfl, rfl⟩ := exists_of_cons_ne (by decide) hcs
        obtain ⟨s', hfront⟩ :=
          exists_cons_of_skip_append flags hskip fun hnil => hok ⟨inner', rfl, hnil⟩
        rw [readBoundary_brace flags hfront, if_neg hname]
  · have hbrace (cs' : List Char) (hpre : cs' <+: cs) (inner : List Char)
        (h : cs' = '\x7b' :: inner) : False := by
      subst h
      obtain ⟨rest, rfl⟩ := hpre
      exact hbrace ⟨_, rfl⟩
    rw [readBoundary.eq_2 flags cs (hbrace cs List.prefix_rfl)] at h
    obtain ⟨rfl, rfl⟩ := Prod.mk.inj (Option.some.inj h)
    refine ⟨List.suffix_refl _, ?_⟩
    rintro front left tail - rfl hleft -
    obtain rfl := List.append_cancel_right hleft
    exact readBoundary.eq_2 flags front (hbrace front (List.prefix_append _ _))

def Atom.IsLook : Atom → Prop
  | .look _ => True
  | _ => False

/-- What follows a backslash, up to the brace that is left after a boundary. -/
theorem readEscape_trims (c : Char) :
    TrimsIf m (fun a left => a.IsLook → ¬ flags.Stuck left) (fun cs => readEscape flags (c :: cs))
      fun cs => readEscape flags (c :: cs) := by
  by_cases hc : c = 'b'
  · subst hc
    exact .map Atom.look ((readBoundary_trims flags).mono (Nat.le_refl m) fun _ _ h => h trivial)
  · refine TrimsIf.mono ?_ (Nat.le_refl m) fun _ _ _ => trivial
    by_cases hdigit : c.isDigit = true
    · simpa only [readEscape, if_pos hdigit] using trimsIf_none
    · by_cases hescapable : isEscapable c = true
      · simpa only [readEscape, if_neg hdigit, if_pos hescapable] using
          trimsIf_some (Atom.char c false)
      · simp only [readEscape, if_neg hdigit, if_neg hescapable]
        split
        case h_1 => exact readHex_trims flags 2
        case h_2 => exact readHex_trims flags 4
        case h_3 => exact readHex_trims flags 8
        case h_4 => exact readProperty_trims flags false
        case h_5 => exact readProperty_trims flags true
        case h_14 => exact absurd rfl hc
        case h_18 => exact trimsIf_mapOption _ fun set => Atom.set set
        all_goals exact trimsIf_some _

end Escapes

section Classes

variable (flags : Flags) {m : Nat}

theorem readItem_cons_trims (c : Char) :
    TrimsIf m (fun a _ => ¬ a.IsLook) (fun cs => readItem flags (c :: cs))
      fun cs => readItem flags (c :: cs) := by
  by_cases hc : c = '\\'
  · subst hc
    have hescape : TrimsIf m (fun a _ => ¬ a.IsLook) (readEscape flags) (readEscape flags) :=
      TrimsIf.mono (.uncons rfl (readEscape_trims flags)) (Nat.le_succ m)
        fun a left ha hlook => absurd hlook ha
    exact hescape
  · have hplain (cs : List Char) : readItem flags (c :: cs) = some (.char c false, cs) :=
      readItem.eq_3 _ _ _ hc
    simpa only [hplain] using trimsIf_some (Atom.char c false)

theorem readItem_trims :
    TrimsIf m (fun a _ => ¬ a.IsLook) (readItem flags) (readItem flags) :=
  TrimsIf.mono (.uncons rfl (readItem_cons_trims flags)) (Nat.le_succ m) fun _ _ h => h

/-- There is more of a class to read, also behind a hyphen. -/
def GoesOn (cs : List Char) : Prop :=
  flags.skip cs ≠ [] ∧ ∀ after, cs = '-' :: after → flags.skip after ≠ []

variable {flags} in
theorem Atom.not_isLook_of_char? {a : Atom} {c : Char} (h : a.char? flags = some c) :
    ¬ a.IsLook := by
  cases a with
  | char c byte => exact id
  | set s => exact id
  | look l => cases h

theorem readLast_trims (first : Atom) : Trims m (readLast flags first) (readLast flags first) := by
  refine (readItem_trims flags).bind (fun last => .bindOption (first.char? flags) fun lo =>
    .bindOption (last.char? flags) fun hi => .ite _ trimsIf_none (trimsIf_some _)) ?_
  intro last left y left' h _
  obtain ⟨lo, -, h⟩ := Option.bind_eq_some_iff.1 h
  obtain ⟨hi, hhi, -⟩ := Option.bind_eq_some_iff.1 h
  exact Atom.not_isLook_of_char? hhi

theorem readRangeEnd_trims (first : Atom) :
    TrimsIf m (fun _ left => GoesOn flags left) (readRangeEnd flags first)
      (readRangeEnd flags first) := by
  intro s set rest h
  by_cases hhyphen : ∃ after, s = '-' :: after
  · obtain ⟨after, rfl⟩ := hhyphen
    rw [readRangeEnd] at h
    split at h
    · next hstands =>
      obtain ⟨set, hset, hx⟩ := Option.map_eq_some_iff.1 h
      obtain ⟨rfl, rfl⟩ := Prod.mk.inj hx
      refine ⟨List.suffix_refl _, ?_⟩
      rintro front left tail - hs hleft hon
      obtain rfl := List.append_cancel_right (hs.symm.trans hleft)
      obtain ⟨after, rfl, rfl⟩ := exists_of_cons_ne (by decide) hs
      rw [standsAlone_skip_append flags (hon.2 after rfl)] at hstands
      rw [readRangeEnd, if_pos hstands, hset]
      rfl
    · next hstands =>
      obtain ⟨hrest, htrim⟩ :=
        TrimsIf.skip flags (readLast_trims flags first (m := m)) after set _ h
      refine ⟨hrest.trans (List.suffix_cons '-' after), ?_⟩
      rintro front left tail hshort hs rfl -
      obtain ⟨after, rfl, rfl⟩ := exists_of_cons_ne (by decide) hs
      have hlast : readLast flags first (flags.skip after) = some (set, left) :=
        htrim after left tail (Nat.lt_of_succ_lt hshort) rfl rfl trivial
      have hsome : flags.skip after ≠ [] := by
        intro hnil
        rw [hnil] at hlast
        cases hlast
      rw [standsAlone_skip_append flags hsome] at hstands
      rw [readRangeEnd, if_neg hstands]
      exact hlast
  · have hhyphen (cs' : List Char) (hpre : cs' <+: s) (after : List Char)
        (h : cs' = '-' :: after) : False := by
      subst h
      obtain ⟨rest, rfl⟩ := hpre
      exact hhyphen ⟨_, rfl⟩
    cases s with
    | nil => cases h
    | cons c s =>
      rw [readRangeEnd.eq_3 flags first _ (List.cons_ne_nil c s) (hhyphen _ List.prefix_rfl)] at h
      obtain ⟨set, hset, hx⟩ := Option.map_eq_some_iff.1 h
      obtain ⟨rfl, rfl⟩ := Prod.mk.inj hx
      refine ⟨List.suffix_refl _, ?_⟩
      rintro front left tail - hs hleft hon
      obtain rfl := List.append_cancel_right (hs.symm.trans hleft)
      have hnil : front ≠ [] := by
        rintro rfl
        exact hon.1 (List.eq_nil_of_suffix_nil (skip_suffix flags []))
      rw [readRangeEnd.eq_3 flags first _ hnil (hhyphen _ (hs ▸ List.prefix_append _ _)), hset]
      rfl

theorem readRangeEnd_look (l : Look) (s : List Char) : readRangeEnd flags (.look l) s = none := by
  rw [readRangeEnd.eq_def]
  split
  · rfl
  · split
    · rfl
    · rw [readLast]
      cases readItem flags _ <;> rfl
  · rfl

theorem readRange_trims (c : Char) :
    TrimsIf m (fun _ left => GoesOn flags left) (fun cs => readRange flags (c :: cs))
      fun cs => readRange flags (c :: cs) := by
  refine (readItem_cons_trims flags c).bind
    (fun first => (readRangeEnd_trims flags first).skip flags) ?_
  intro first left y left' h _ hlook
  cases first with
  | look l =>
    cases (readRangeEnd_look flags l _).symm.trans h
  | char c byte => exact hlook
  | set s => exact hlook

theorem splitAt?_eq_some {q : Char} {cs front rest : List Char} :
    splitAt? [q] cs = some (front, rest) ↔ cs = front ++ q :: rest ∧ q ∉ front := by
  induction cs generalizing front rest with
  | nil => simp [splitAt?]
  | cons c cs ih =>
    by_cases hc : q = c
    · subst hc
      cases front with
      | nil => simp [splitAt?]
      | cons c front => simp +contextual [splitAt?]
    · have hlater : splitAt? [q] (c :: cs) = (splitAt? [q] cs).map fun r => (c :: r.1, r.2) := by
        simp [splitAt?, hc]
      rw [hlater]
      constructor
      · intro h
        obtain ⟨⟨front, rest⟩, hsplit, hx⟩ := Option.map_eq_some_iff.1 h
        obtain ⟨rfl, rfl⟩ := Prod.mk.inj hx
        obtain ⟨rfl, hq⟩ := ih.1 hsplit
        exact ⟨rfl, by simp [hc, hq]⟩
      · rintro ⟨heq, hq⟩
        cases front with
        | nil => exact absurd (List.cons.inj heq).1.symm hc
        | cons c' front =>
          obtain ⟨rfl, rfl⟩ := List.cons.inj heq
          have hfront := ih.2 ⟨rfl, fun hmem => hq (List.mem_cons_of_mem _ hmem)⟩
          exact Option.map_eq_some_iff.2 ⟨_, hfront, rfl⟩

theorem exists_of_readClassName {cs rest : List Char} {set : CharSet} {negated negated' : Bool}
    (h : readClassName negated cs = some (set, negated', rest)) :
    ∃ taken, taken ≠ [] ∧ cs = taken ++ rest ∧ negated' = negated ∧
      ∀ more, readClassName negated (taken ++ more) = some (set, negated, more) := by
  obtain ⟨⟨name, after⟩, hsplit, hclass⟩ := Option.bind_eq_some_iff.1 h
  obtain ⟨rfl, hcolon⟩ := splitAt?_eq_some.1 hsplit
  dsimp only at hclass
  split at hclass
  · next rest' =>
    obtain ⟨set', hset, hx⟩ := Option.map_eq_some_iff.1 hclass
    cases hx
    refine ⟨name ++ [':', ']'], by simp, by simp, rfl, fun more => ?_⟩
    have hsplit' : splitAt? [':'] (name ++ [':', ']'] ++ more) = some (name, ']' :: more) :=
      splitAt?_eq_some.2 ⟨by simp, hcolon⟩
    rw [readClassName, hsplit']
    exact Option.map_eq_some_iff.2 ⟨set, hset, rfl⟩
  · cases hclass

/-- The text of a class that is named in ASCII only, after the bracket that opens it. -/
theorem exists_of_readAsciiClass? {cs rest : List Char} {set : CharSet} {negated : Bool}
    (h : readAsciiClass? cs = some (set, negated, rest)) :
    ∃ taken, cs = taken ++ rest ∧
      ∀ more, readAsciiClass? (taken ++ more) = some (set, negated, more) := by
  rw [readAsciiClass?.eq_def] at h
  split at h
  · next after =>
    obtain ⟨taken, -, rfl, rfl, hname⟩ := exists_of_readClassName h
    exact ⟨':' :: '^' :: taken, rfl, hname⟩
  · next after hcaret =>
    obtain ⟨taken, hsome, rfl, rfl, hname⟩ := exists_of_readClassName h
    refine ⟨':' :: taken, rfl, fun more => ?_⟩
    have hcaret' (later : List Char) (heq : taken ++ more = '^' :: later) : False := by
      cases taken with
      | nil => exact hsome rfl
      | cons c taken =>
        obtain ⟨rfl, -⟩ := List.cons.inj heq
        exact hcaret _ rfl
    rw [List.cons_append, readAsciiClass?.eq_2 _ hcaret']
    exact hname more
  · cases h

theorem readNegation_trims :
    Trims m (fun cs => some (readNegation flags cs)) fun cs => some (readNegation flags cs) := by
  simp only [readNegation, apply_branch some]
  exact TrimsIf.skip flags (.branch ['^'] (trimsIf_some true) (trimsIf_some false))

/-- What is not a bracket, an operator or a hyphen begins a member of the class. -/
theorem readRound_eq_readMember (next : ClassReader) (stack : List Pending) (parts : List Part)
    (leading : Bool) {c : Char} {cs : List Char} (hopen : c ≠ '[') (hclose : c ≠ ']')
    (hhyphen : c ≠ '-') (hinter : c = '&' → ∀ rest, cs ≠ '&' :: rest)
    (hsymmDiff : c = '~' → ∀ rest, cs ≠ '~' :: rest) :
    readRound flags next stack parts leading (c :: cs) =
      readMember flags next stack parts (c :: cs) := by
  refine readRound.eq_7 flags next stack parts leading _ (List.cons_ne_nil c cs) ?_ ?_ ?_ ?_ ?_
  · rintro rest ⟨⟩
    exact hopen rfl
  · rintro rest ⟨⟩
    exact hclose rfl
  · rintro rest ⟨⟩
    exact hinter rfl rest rfl
  · rintro rest ⟨⟩
    exact hsymmDiff rfl rest rfl
  · rintro rest ⟨⟩
    exact hhyphen rfl

section Rounds

variable {next next' : ClassReader}
  (hnext : ∀ stack parts leading, Trims m (next stack parts leading) (next' stack parts leading))

include hnext

theorem readOperator_trims (stack : List Pending) (parts : List Part) (op : SetOp) :
    Trims m (readOperator flags next stack parts op) (readOperator flags next' stack parts op) :=
  .bindOption _ fun left => hnext (.operand op left.1 :: left.2) [] false

theorem readClosing_trims (stack : List Pending) (parts : List Part) :
    Trims m (readClosing flags next stack parts) (readClosing flags next' stack parts) := by
  refine .bindOption (joinOperand? flags (Part.unionAll parts) stack) fun inner => ?_
  obtain ⟨inner, stack⟩ := inner
  cases stack with
  | nil => exact trimsIf_none
  | cons pending stack =>
    cases pending with
    | operand op left => exact trimsIf_none
    | opened outer negated =>
      refine .bindOption (flags.close? negated inner.set) fun set => ?_
      exact .ite _ (trimsIf_some _) (hnext _ _ false)

theorem readBracket_trims (stack : List Pending) (parts : List Part) :
    Trims m (readBracket flags next stack parts) (readBracket flags next' stack parts) := by
  have hnested : Trims m
      (fun cs => (some (readNegation flags cs)).bind fun r =>
        next (.opened parts r.1 :: stack) [] true r.2)
      (fun cs => (some (readNegation flags cs)).bind fun r =>
        next' (.opened parts r.1 :: stack) [] true r.2) :=
    (readNegation_trims flags).bind fun negated => hnext (.opened parts negated :: stack) [] true
  intro cs x rest h
  rw [readBracket] at h
  cases stack with
  | nil =>
    exact hnested cs x rest h
  | cons pending stack =>
    cases hnamed : readAsciiClass? cs with
    | none =>
      rw [List.isEmpty_cons, if_neg Bool.false_ne_true, hnamed] at h
      obtain ⟨hrest, htrim⟩ := hnested cs x rest h
      refine ⟨hrest, ?_⟩
      rintro front left tail hshort rfl hleft hok
      have hnamed' : readAsciiClass? front = none := by
        cases hfront : readAsciiClass? front with
        | none => rfl
        | some named =>
          obtain ⟨set, negated, after⟩ := named
          obtain ⟨taken, rfl, htaken⟩ := exists_of_readAsciiClass? hfront
          rw [List.append_assoc, htaken] at hnamed
          cases hnamed
      rw [readBracket, List.isEmpty_cons, if_neg Bool.false_ne_true, hnamed']
      exact htrim front left tail hshort rfl hleft hok
    | some named =>
      obtain ⟨set, negated, after⟩ := named
      obtain ⟨taken, rfl, htaken⟩ := exists_of_readAsciiClass? hnamed
      rw [List.isEmpty_cons, if_neg Bool.false_ne_true, hnamed] at h
      obtain ⟨s, hs, h⟩ := Option.bind_eq_some_iff.1 h
      obtain ⟨hrest, htrim⟩ := hnext _ _ false after x rest h
      refine ⟨hrest.trans (List.suffix_append taken after), ?_⟩
      rintro front left tail hshort hcs rfl hok
      obtain ⟨after', rfl, rfl⟩ := exists_of_append_suffix taken hcs hrest
      rw [List.length_append] at hshort
      rw [readBracket, List.isEmpty_cons, if_neg Bool.false_ne_true, htaken]
      exact Option.bind_eq_some_iff.2
        ⟨s, hs, htrim after' left tail (by omega) rfl rfl hok⟩

variable (hon : ∀ stack parts left y, next' stack parts false left = some y → GoesOn flags left)

include hon

theorem readMember_trims (stack : List Pending) (parts : List Part) (c : Char) :
    Trims m (fun cs => readMember flags next stack parts (c :: cs))
      fun cs => readMember flags next' stack parts (c :: cs) :=
  (readRange_trims flags c).bind (fun _ => hnext _ _ false) fun _ _ _ _ h _ => hon _ _ _ _ h

theorem readHyphen_trims (stack : List Pending) (parts : List Part) :
    Trims m (readHyphen flags next stack parts) (readHyphen flags next' stack parts) := by
  exact .branch ['-'] (readOperator_trims flags hnext stack parts .diff)
    (readMember_trims flags hnext hon stack parts '-')

theorem readRound_trims (stack : List Pending) (parts : List Part) (leading : Bool) :
    Trims (m + 1) (readRound flags next stack parts leading)
      (readRound flags next' stack parts leading) := by
  refine .uncons rfl fun c => ?_
  have hmember := readMember_trims flags hnext hon stack parts c
  by_cases hopen : c = '['
  · subst hopen
    exact readBracket_trims flags hnext stack parts
  by_cases hclose : c = ']'
  · subst hclose
    exact .ite _ (hnext _ _ false) (readClosing_trims flags hnext stack parts)
  by_cases hhyphen : c = '-'
  · subst hhyphen
    exact .ite _ (hnext _ _ true) (readHyphen_trims flags hnext hon stack parts)
  by_cases hinter : c = '&'
  · subst hinter
    have helse (next : ClassReader) (cs : List Char) (h : ∀ rest, cs ≠ '&' :: rest) :=
      readRound_eq_readMember flags next stack parts leading hopen hclose hhyphen (fun _ => h)
        fun heq => absurd heq (by decide)
    exact .orElse ['&'] (readOperator_trims flags hnext stack parts .inter) hmember
      (fun _ => rfl) (fun _ => rfl) (helse next) (helse next')
  by_cases hsymmDiff : c = '~'
  · subst hsymmDiff
    have helse (next : ClassReader) (cs : List Char) (h : ∀ rest, cs ≠ '~' :: rest) :=
      readRound_eq_readMember flags next stack parts leading hopen hclose hhyphen
        (fun heq => absurd heq (by decide)) fun _ => h
    exact .orElse ['~'] (readOperator_trims flags hnext stack parts .symmDiff) hmember
      (fun _ => rfl) (fun _ => rfl) (helse next) (helse next')
  · have helse (next : ClassReader) (cs : List Char) :
        readRound flags next stack parts leading (c :: cs) =
          readMember flags next stack parts (c :: cs) :=
      readRound_eq_readMember flags next stack parts leading hopen hclose hhyphen
        (fun heq => absurd heq hinter) fun heq => absurd heq hsymmDiff
    simpa only [helse] using hmember

end Rounds

/-- While a class is being read, it goes on; a hyphen cannot end it. -/
theorem goesOn_of_readClassWith {fuel : Nat} {stack : List Pending} {parts : List Part}
    {cs : List Char} {y : Part × List Char}
    (h : readClassWith flags fuel stack parts false cs = some y) : GoesOn flags cs := by
  cases fuel with
  | zero => cases h
  | succ fuel =>
    have h :
        readRound flags (readClassWith flags fuel) stack parts false (flags.skip cs) = some y := h
    refine ⟨fun hnil => ?_, ?_⟩
    · rw [hnil] at h
      cases h
    · rintro after rfl hnil
      rw [skip_cons flags (by decide) (by decide)] at h
      by_cases hhyphen : ∃ rest, after = '-' :: rest
      · obtain ⟨rest, rfl⟩ := hhyphen
        rw [skip_cons flags (by decide) (by decide)] at hnil
        cases hnil
      · have hhyphen (rest : List Char) (heq : after = '-' :: rest) : False := hhyphen ⟨rest, heq⟩
        have h : readHyphen flags (readClassWith flags fuel) stack parts after = some y := h
        rw [readHyphen, branch_of_ne _ _ hhyphen] at h
        obtain ⟨r, hrange, -⟩ := Option.bind_eq_some_iff.1 h
        have hrange : readRangeEnd flags (.char '-' false) (flags.skip after) = some r := hrange
        rw [hnil] at hrange
        cases hrange

theorem readClassWith_trims (fuel fuel' : Nat) (stack : List Pending) (parts : List Part)
    (leading : Bool) :
    Trims fuel' (readClassWith flags fuel stack parts leading)
      (readClassWith flags fuel' stack parts leading) := by
  induction fuel generalizing fuel' stack parts leading with
  | zero => exact trimsIf_none
  | succ fuel ih =>
    have hsucc (fuel' : Nat) :
        Trims (fuel' + 1) (readClassWith flags (fuel + 1) stack parts leading)
          (readClassWith flags (fuel' + 1) stack parts leading) :=
      TrimsIf.skip flags (readRound_trims flags (ih fuel')
        (fun _ _ _ _ h => goesOn_of_readClassWith flags h) stack parts leading)
    cases fuel' with
    | zero => exact (hsucc 0).zero
    | succ fuel' => exact hsucc fuel'

theorem readClass_trims :
    Trims m (fun cs => readClass flags ('[' :: cs)) fun cs => readClass flags ('[' :: cs) := by
  have hread : (fun cs => readClass flags ('[' :: cs)) = fun cs =>
      readBracket flags (readClassWith flags (cs.length + 1)) [] [] cs := by
    funext cs
    show readRound flags _ [] [] false (flags.skip ('[' :: cs)) = _
    rw [skip_cons flags (by decide) (by decide)]
    rfl
  have hbracket (fuel fuel' : Nat) :=
    readBracket_trims flags (readClassWith_trims flags fuel fuel') [] []
  rw [hread]
  exact .of_fuel hbracket

end Classes

end Pattern

end Descent

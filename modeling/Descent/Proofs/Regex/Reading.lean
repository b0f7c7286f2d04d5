import Descent.Regex.Reader
import Mathlib.Tactic.Common

/-!
# Reading up to a parenthesis

What is read from a pattern is the same when a closing parenthesis follows it,
and the parenthesis is left over, unless it falls into a comment. This holds for
each construct, as none of them takes a parenthesis that it does not need; so it
holds for all of them together.
-/
namespace Descent

namespace Pattern

section Texts

/-- What is left of a text, and of the same text with a parenthesis after it: the parenthesis is
still there, or it was lost in a comment. -/
inductive Shut : List Char → List Char → Prop
  | kept (cs : List Char) : Shut cs (cs ++ [')'])
  | lost : Shut [] []

/-- A comment goes on to the end of the text, or what is left does not depend on the parenthesis. -/
theorem skipBlanks_shut (inComment : Bool) (cs : List Char) :
    Shut (skipBlanks inComment cs) (skipBlanks inComment (cs ++ [')'])) := by
  induction cs generalizing inComment with
  | nil =>
    cases inComment with
    | true => exact .lost
    | false => exact .kept []
  | cons c cs ih =>
    simp only [List.cons_append, skipBlanks]
    split
    · exact ih _
    · split
      · exact ih _
      · split
        · exact ih _
        · exact .kept (c :: cs)

theorem Shut.skip {cs cs' : List Char} (h : Shut cs cs') (flags : Flags) :
    Shut (flags.skip cs) (flags.skip cs') := by
  unfold Flags.skip
  split
  · cases h with
    | kept => exact skipBlanks_shut false cs
    | lost => exact .lost
  · exact h

@[elab_as_elim]
theorem Shut.skip_cases {motive : List Char → List Char → Prop} {cs cs' : List Char}
    (h : Shut cs cs') (flags : Flags) (kept : ∀ s, motive s (s ++ [')']))
    (lost : motive [] []) : motive (flags.skip cs) (flags.skip cs') := by
  have h := h.skip flags
  generalize flags.skip cs = s at h ⊢
  generalize flags.skip cs' = s' at h ⊢
  cases h with
  | kept => exact kept s
  | lost => exact lost

/-- A text that does not begin with some characters does not do so with a parenthesis after it. -/
theorem append_ne_append (front : List Char) {s : List Char} (hfront : ')' ∉ front)
    (h : ∀ rest, s = front ++ rest → False) (rest : List Char) : s ++ [')'] ≠ front ++ rest := by
  intro heq
  rcases List.append_eq_append_iff.1 heq with ⟨middle, rfl, hmiddle⟩ | ⟨middle, rfl, -⟩
  · cases middle with
    | nil => exact h [] (by simp)
    | cons c middle =>
      obtain rfl := (List.cons.inj hmiddle).1
      simp at hfront
  · exact h middle rfl

theorem splitAt?_append {q : Char} (hq : q ≠ ')') (cs : List Char) :
    splitAt? [q] (cs ++ [')']) = (splitAt? [q] cs).map fun r => (r.1, r.2 ++ [')']) := by
  induction cs with
  | nil => simp [splitAt?, hq]
  | cons c cs ih =>
    by_cases hc : q = c
    · simp [splitAt?, hc]
    · simp [splitAt?, hc, ih, Function.comp_def]

end Texts

section Results

variable {α β : Type} {cs cs' : List Char}

/-- What a reader finds in a text, if anything, is found with a parenthesis after the text too. -/
def Shuts (found found' : Option (α × List Char)) : Prop :=
  ∀ x rest, found = some (x, rest) → ∃ rest', found' = some (x, rest') ∧ Shut rest rest'

theorem shuts_none (found' : Option (α × List Char)) : Shuts none found' := by
  intro x rest h
  cases h

theorem shuts_some (x : α) (h : Shut cs cs') : Shuts (some (x, cs)) (some (x, cs')) := by
  intro y rest heq
  obtain ⟨rfl, rfl⟩ := Prod.mk.inj (Option.some.inj heq)
  exact ⟨cs', rfl, h⟩

theorem Shuts.bind {found found' : Option (α × List Char)}
    {next next' : α × List Char → Option (β × List Char)} (h : Shuts found found')
    (hnext : ∀ x rest rest', Shut rest rest' → Shuts (next (x, rest)) (next' (x, rest'))) :
    Shuts (found.bind next) (found'.bind next') := by
  intro y last hy
  obtain ⟨⟨x, rest⟩, hx, hy⟩ := Option.bind_eq_some_iff.1 hy
  obtain ⟨rest', hx', hrest⟩ := h x rest hx
  obtain ⟨last', hy', hlast⟩ := hnext x rest rest' hrest y last hy
  exact ⟨last', Option.bind_eq_some_iff.2 ⟨_, hx', hy'⟩, hlast⟩

theorem Shuts.bindOption {γ : Type} (o : Option γ) {next next' : γ → Option (β × List Char)}
    (h : ∀ y, Shuts (next y) (next' y)) : Shuts (o.bind next) (o.bind next') := by
  cases o with
  | none => exact shuts_none _
  | some y => exact h y

theorem Shuts.map {found found' : Option (α × List Char)} (h : Shuts found found') (g : α → β) :
    Shuts (found.map fun r => (g r.1, r.2)) (found'.map fun r => (g r.1, r.2)) := by
  simp only [Option.map_eq_bind]
  exact h.bind fun x _ _ hrest => shuts_some (g x) hrest

theorem shuts_mapOption {γ : Type} (o : Option γ) (g : γ → α) (h : Shut cs cs') :
    Shuts (o.map fun y => (g y, cs)) (o.map fun y => (g y, cs')) := by
  cases o with
  | none => exact shuts_none _
  | some y => exact shuts_some (g y) h

/-- Where characters are looked for, none of them a closing parenthesis. -/
theorem Shuts.branch {next next' other other' : List Char → Option (α × List Char)}
    (h : Shut cs cs') (taken : List Char) (hne : taken ≠ []) (hclose : ')' ∉ taken)
    (hnext : ∀ s, Shuts (next s) (next' (s ++ [')'])))
    (hother : Shuts (other cs) (other' cs')) :
    Shuts (branch taken next other cs) (branch taken next' other' cs') := by
  cases h with
  | lost =>
    have hnil (rest : List Char) : [] ≠ taken ++ rest := fun heq =>
      hne (List.append_eq_nil_iff.1 heq.symm).1
    rw [branch_of_ne _ _ hnil, branch_of_ne _ _ hnil]
    exact hother
  | kept =>
    by_cases hpre : ∃ rest, cs = taken ++ rest
    · obtain ⟨s, rfl⟩ := hpre
      rw [List.append_assoc, branch_append, branch_append]
      exact hnext s
    · have hcs (rest : List Char) (heq : cs = taken ++ rest) : False := hpre ⟨rest, heq⟩
      rw [branch_of_ne _ _ hcs, branch_of_ne _ _ (append_ne_append taken hclose hcs)]
      exact hother

end Results

section Escapes

variable (flags : Flags) {cs cs' : List Char}

theorem readHexDigits_shuts (n value : Nat) (h : Shut cs cs') :
    Shuts (readHexDigits flags n value cs) (readHexDigits flags n value cs') := by
  induction n generalizing value cs cs' with
  | zero => exact shuts_some value h
  | succ n ih =>
    cases h with
    | lost => exact shuts_none _
    | kept =>
      cases cs with
      | nil => exact shuts_none _
      | cons c cs =>
        exact .bindOption (hexWeight? c) fun d => ih (value * 16 + d) ((Shut.kept cs).skip flags)

theorem readPiece_shuts {more more' : List Char → Option (List Char × List Char)}
    (hmore : ∀ s, Shuts (more s) (more' (s ++ [')']))) (h : Shut cs cs') :
    Shuts (readPiece more cs) (readPiece more' cs') := by
  cases h with
  | lost => exact shuts_none _
  | kept =>
    cases cs with
    | nil => exact shuts_none _
    | cons c s =>
      rw [List.cons_append, readPiece, readPiece]
      split
      · exact shuts_some [] (.kept s)
      · exact (hmore s).map (c :: ·)

theorem readBraced_shuts {fuel fuel' : Nat} (hfuel : fuel ≤ fuel') (h : Shut cs cs') :
    Shuts (readBraced flags fuel cs) (readBraced flags fuel' cs') := by
  induction fuel generalizing fuel' cs cs' with
  | zero => exact shuts_none _
  | succ fuel ih =>
    obtain ⟨fuel', rfl⟩ : ∃ n, fuel' = n + 1 := ⟨fuel' - 1, by omega⟩
    exact readPiece_shuts (fun s => ih (by omega) (.kept s)) (h.skip flags)

theorem readHexPlain_shuts (digits : Nat) (h : Shut cs cs') :
    Shuts (readHexPlain flags digits cs) (readHexPlain flags digits cs') :=
  (readHexDigits_shuts flags digits 0 h).bind fun value _ _ hrest =>
    .bindOption (charOfScalar? value) fun _ => shuts_some _ hrest

theorem readHexBraced_shuts (cs : List Char) :
    Shuts (readHexBraced flags cs) (readHexBraced flags (cs ++ [')'])) := by
  refine (readBraced_shuts flags (by simp) (.kept cs)).bind fun text rest rest' hrest => ?_
  refine .bindOption (text.mapM hexWeight?) fun weights => ?_
  split
  · exact shuts_none _
  · exact .bindOption _ fun c => shuts_some _ (hrest.skip flags)

theorem readHex_shuts (digits : Nat) (h : Shut cs cs') :
    Shuts (readHex flags digits cs) (readHex flags digits cs') := by
  exact .branch (h.skip flags) ['\x7b'] (by decide) (by decide) (readHexBraced_shuts flags)
    (readHexPlain_shuts flags digits (h.skip flags))

theorem readLetterQuery_shuts (h : Shut cs cs') :
    Shuts (readLetterQuery flags cs) (readLetterQuery flags cs') := by
  cases h with
  | lost => exact shuts_none _
  | kept =>
    cases cs with
    | nil => exact shuts_none _
    | cons c s =>
      rw [List.cons_append, readLetterQuery, readLetterQuery]
      split
      · exact shuts_none _
      · exact shuts_some [c] ((Shut.kept s).skip flags)

theorem readQuery_shuts (h : Shut cs cs') :
    Shuts (readQuery flags cs) (readQuery flags cs') :=
  .branch (h.skip flags) ['\x7b'] (by decide) (by decide)
    (fun inner => readBraced_shuts flags (by simp) (.kept inner))
    (readLetterQuery_shuts flags (h.skip flags))

theorem readProperty_shuts (negated : Bool) (h : Shut cs cs') :
    Shuts (readProperty flags negated cs) (readProperty flags negated cs') := by
  rw [readProperty, readProperty]
  split
  · exact shuts_none _
  · exact (readQuery_shuts flags h).bind fun query _ _ hrest =>
      .bindOption (propertyQuery? query) fun q => shuts_some _ hrest

theorem readBoundary_shuts (h : Shut cs cs') :
    Shuts (readBoundary flags cs) (readBoundary flags cs') := by
  cases h with
  | lost => exact shuts_some _ .lost
  | kept =>
    by_cases hbrace : ∃ inner, cs = '\x7b' :: inner
    · obtain ⟨inner, rfl⟩ := hbrace
      rw [List.cons_append, readBoundary, readBoundary]
      refine (Shut.kept inner).skip_cases flags (fun s => ?_) (shuts_none _)
      cases s with
      | nil => exact shuts_none _
      | cons c s =>
        dsimp only [List.cons_append]
        split
        · exact (readBraced_shuts flags (by simp) (.kept inner)).bind fun name _ _ hrest =>
            shuts_mapOption (boundary? _ name) id hrest
        · exact shuts_some _ (.kept ('\x7b' :: inner))
    · have hbrace (inner : List Char) (h : cs = ['\x7b'] ++ inner) : False := hbrace ⟨inner, h⟩
      rw [readBoundary.eq_2 flags cs hbrace,
        readBoundary.eq_2 flags _ (append_ne_append ['\x7b'] (by decide) hbrace)]
      exact shuts_some _ (.kept cs)

theorem readEscape_shuts (h : Shut cs cs') :
    Shuts (readEscape flags cs) (readEscape flags cs') := by
  cases h with
  | lost => exact shuts_none _
  | kept =>
    cases cs with
    | nil => exact shuts_none _
    | cons c cs =>
      have hrest := Shut.kept cs
      rw [List.cons_append, readEscape.eq_def, readEscape.eq_def flags (c :: (cs ++ [')']))]
      dsimp only
      split
      · exact shuts_none _
      · split
        · exact shuts_some _ hrest
        · split
          case h_1 => exact readHex_shuts flags 2 hrest
          case h_2 => exact readHex_shuts flags 4 hrest
          case h_3 => exact readHex_shuts flags 8 hrest
          case h_4 => exact readProperty_shuts flags false hrest
          case h_5 => exact readProperty_shuts flags true hrest
          case h_14 => exact (readBoundary_shuts flags hrest).map fun l => Atom.look l
          case h_18 => exact shuts_mapOption _ (fun set => Atom.set set) hrest
          all_goals exact shuts_some _ hrest

end Escapes

section Classes

variable (flags : Flags) {cs cs' : List Char}

theorem readItem_shuts (h : Shut cs cs') : Shuts (readItem flags cs) (readItem flags cs') := by
  cases h with
  | lost => exact shuts_none _
  | kept =>
    cases cs with
    | nil => exact shuts_none _
    | cons c cs =>
      rw [List.cons_append]
      by_cases hc : c = '\\'
      · subst hc
        exact readEscape_shuts flags (.kept cs)
      · rw [readItem.eq_3 _ _ _ hc, readItem.eq_3 _ _ _ hc]
        exact shuts_some _ (.kept cs)

theorem readLast_shuts (first : Atom) (h : Shut cs cs') :
    Shuts (readLast flags first cs) (readLast flags first cs') := by
  refine (readItem_shuts flags h).bind fun last _ _ hrest => ?_
  refine .bindOption (first.char? flags) fun lo => .bindOption (last.char? flags) fun hi => ?_
  split
  · exact shuts_none _
  · exact shuts_some _ hrest

theorem readRangeEnd_shuts (first : Atom) (h : Shut cs cs') :
    Shuts (readRangeEnd flags first cs) (readRangeEnd flags first cs') := by
  cases h with
  | lost => exact shuts_none _
  | kept =>
    rw [readRangeEnd.eq_def]
    split
    · exact shuts_none _
    · next after =>
      rw [List.cons_append, readRangeEnd]
      refine (Shut.kept after).skip_cases flags (fun u => ?_) (shuts_none _)
      cases u with
      | nil => exact shuts_none _
      | cons c u =>
        by_cases hc : StandsAlone (c :: u)
        · rw [if_pos hc, if_pos (show StandsAlone (c :: u ++ [')']) from hc)]
          exact shuts_mapOption (first.item? flags) id (.kept ('-' :: after))
        · rw [if_neg hc, if_neg (show ¬ StandsAlone (c :: u ++ [')']) from hc)]
          exact readLast_shuts flags first (.kept (c :: u))
    · next hnil hhyphen =>
      rw [readRangeEnd.eq_3 flags first _ (by simp) (append_ne_append ['-'] (by decide) hhyphen)]
      exact shuts_mapOption (first.item? flags) id (.kept cs)

theorem readRange_shuts (h : Shut cs cs') :
    Shuts (readRange flags cs) (readRange flags cs') :=
  (readItem_shuts flags h).bind fun first _ _ hrest =>
    readRangeEnd_shuts flags first (hrest.skip flags)

theorem bind_append {α β : Type} {found found' : Option (α × List Char)}
    {next : α × List Char → Option β} {g : β → β}
    (h : found' = found.map fun r => (r.1, r.2 ++ [')']))
    (hnext : ∀ x rest, next (x, rest ++ [')']) = (next (x, rest)).map g) :
    found'.bind next = (found.bind next).map g := by
  subst h
  cases found with
  | none => rfl
  | some r => exact hnext r.1 r.2

theorem readClassName_append (negated : Bool) (cs : List Char) :
    readClassName negated (cs ++ [')']) =
      (readClassName negated cs).map fun r => (r.1, r.2.1, r.2.2 ++ [')']) := by
  have hcolon : ':' ≠ ')' := by decide
  refine bind_append (splitAt?_append hcolon cs) fun name rest => Eq.symm ?_
  dsimp only
  split
  · rw [Option.map_map]
    rfl
  · next hbracket =>
    split
    · next heq => exact absurd heq (append_ne_append [']'] (by decide) hbracket _)
    · rfl

theorem readAsciiClass?_append (cs : List Char) :
    readAsciiClass? (cs ++ [')']) =
      (readAsciiClass? cs).map fun r => (r.1, r.2.1, r.2.2 ++ [')']) := by
  rw [readAsciiClass?.eq_def cs]
  split
  · next cs => exact readClassName_append true cs
  · next cs hcaret =>
    rw [List.cons_append, readAsciiClass?.eq_2 _ (append_ne_append ['^'] (by decide) hcaret)]
    exact readClassName_append false cs
  · next hcaret hmark =>
    rw [readAsciiClass?.eq_3 _ (append_ne_append [':', '^'] (by decide) hcaret)
      (append_ne_append [':'] (by decide) hmark)]
    rfl

theorem readNegation_shuts (h : Shut cs cs') :
    Shuts (some (readNegation flags cs)) (some (readNegation flags cs')) := by
  simp only [readNegation, apply_branch some]
  exact .branch (h.skip flags) ['^'] (by decide) (by decide)
    (fun s => shuts_some true (.kept s)) (shuts_some false (h.skip flags))

section Rounds

variable {next next' : ClassReader}
  (hnext : ∀ stack parts leading cs cs', Shut cs cs' →
    Shuts (next stack parts leading cs) (next' stack parts leading cs'))

include hnext

theorem readOperator_shuts (stack : List Pending) (parts : List Part) (op : SetOp)
    (h : Shut cs cs') :
    Shuts (readOperator flags next stack parts op cs)
      (readOperator flags next' stack parts op cs') :=
  .bindOption _ fun _ => hnext _ [] false _ _ h

theorem readMember_shuts (stack : List Pending) (parts : List Part) (h : Shut cs cs') :
    Shuts (readMember flags next stack parts cs) (readMember flags next' stack parts cs') :=
  (readRange_shuts flags h).bind fun _ _ _ hrest => hnext _ _ false _ _ hrest

theorem readClosing_shuts (stack : List Pending) (parts : List Part) (h : Shut cs cs') :
    Shuts (readClosing flags next stack parts cs) (readClosing flags next' stack parts cs') := by
  refine .bindOption (joinOperand? flags (Part.unionAll parts) stack) fun inner => ?_
  dsimp only
  split
  · refine .bindOption _ fun set => ?_
    split
    · exact shuts_some _ h
    · exact hnext _ _ false _ _ h
  · exact shuts_none _

/-- After an opening bracket comes a named class or a nested one. -/
theorem readBracket_shuts (stack : List Pending) (parts : List Part) (cs : List Char) :
    Shuts (readBracket flags next stack parts cs)
      (readBracket flags next' stack parts (cs ++ [')'])) := by
  have hnested (outer : List Pending) :
      Shuts
        ((some (readNegation flags cs)).bind fun r => next (.opened parts r.1 :: outer) [] true r.2)
        ((some (readNegation flags (cs ++ [')']))).bind fun r =>
          next' (.opened parts r.1 :: outer) [] true r.2) :=
    (readNegation_shuts flags (.kept cs)).bind fun negated _ _ hrest => hnext _ [] true _ _ hrest
  rw [readBracket, readBracket]
  cases stack with
  | nil => exact hnested []
  | cons pending stack =>
    simp only [List.isEmpty_cons, Bool.false_eq_true, if_false, readAsciiClass?_append]
    cases readAsciiClass? cs with
    | none => exact hnested (pending :: stack)
    | some named => exact .bindOption _ fun set => hnext _ _ false _ _ (.kept named.2.2)

/-- A hyphen subtracts a class if another one follows it. -/
theorem readHyphen_shuts (stack : List Pending) (parts : List Part) (cs : List Char) :
    Shuts (readHyphen flags next stack parts cs)
      (readHyphen flags next' stack parts (cs ++ [')'])) := by
  exact .branch (.kept cs) ['-'] (by decide) (by decide)
    (fun s => readOperator_shuts flags hnext stack parts .diff (.kept s))
    (readMember_shuts flags hnext stack parts (.kept ('-' :: cs)))

theorem readRound_shuts (stack : List Pending) (parts : List Part) (leading : Bool)
    (h : Shut cs cs') :
    Shuts (readRound flags next stack parts leading cs)
      (readRound flags next' stack parts leading cs') := by
  cases h with
  | lost => exact shuts_none _
  | kept =>
    rw [readRound.eq_def]
    split
    · exact shuts_none _
    · next rest => exact readBracket_shuts flags hnext stack parts rest
    · next rest =>
      rw [List.cons_append, readRound]
      split
      · exact hnext _ _ false _ _ (.kept rest)
      · exact readClosing_shuts flags hnext stack parts (.kept rest)
    · next rest => exact readOperator_shuts flags hnext stack parts .inter (.kept rest)
    · next rest => exact readOperator_shuts flags hnext stack parts .symmDiff (.kept rest)
    · next rest =>
      rw [List.cons_append, readRound]
      split
      · exact hnext _ _ true _ _ (.kept rest)
      · exact readHyphen_shuts flags hnext stack parts rest
    · next hnil hopen hclose hinter hsymmDiff hhyphen =>
      rw [readRound.eq_7 _ _ _ _ _ _ (by simp) (append_ne_append ['['] (by decide) hopen)
        (append_ne_append [']'] (by decide) hclose)
        (append_ne_append ['&', '&'] (by decide) hinter)
        (append_ne_append ['~', '~'] (by decide) hsymmDiff)
        (append_ne_append ['-'] (by decide) hhyphen)]
      exact readMember_shuts flags hnext stack parts (.kept cs)

end Rounds

theorem readClassWith_shuts {fuel fuel' : Nat} (hfuel : fuel ≤ fuel') (stack : List Pending)
    (parts : List Part) (leading : Bool) (h : Shut cs cs') :
    Shuts (readClassWith flags fuel stack parts leading cs)
      (readClassWith flags fuel' stack parts leading cs') := by
  induction fuel generalizing fuel' stack parts leading cs cs' with
  | zero => exact shuts_none _
  | succ fuel ih =>
    obtain ⟨fuel', rfl⟩ : ∃ n, fuel' = n + 1 := ⟨fuel' - 1, by omega⟩
    exact readRound_shuts flags (fun stack parts leading _ _ => ih (by omega) stack parts leading)
      stack parts leading (h.skip flags)

theorem readClass_shuts (cs : List Char) :
    Shuts (readClass flags cs) (readClass flags (cs ++ [')'])) :=
  readClassWith_shuts flags (by simp) [] [] false (.kept cs)

end Classes

end Pattern

end Descent

import Descent.Proofs.Reached

/-!
# Cuts and differences

A text can be cut between two characters only, and an offset can be subtracted
from a later one only. The search for a line and three of the scanners do both
with offsets that they have computed. Here they are written by such offsets
alone, and stop with a fault at the first cut or difference that is not
defined, or when a loop has used up its rounds. They never do, and they find
what the search and the scanners find that walk along the text.
-/
namespace Descent

inductive Fault where
  /-- The offsets are not in order, or not both boundaries of the text. -/
  | cut (start stop : Nat)
  | minus (a b : Nat)
  /-- A loop is not at its end after the rounds that it was given. -/
  | endless
  deriving DecidableEq, Repr

@[simp] theorem Fault.ok_bind {α β : Type} (a : α) (f : α → Except Fault β) :
    (Except.ok a >>= f) = f a := rfl

/-- The text between two offsets. -/
def cut (start stop : Nat) (cs : List Char) : Except Fault (List Char) :=
  if start ≤ stop ∧ IsBoundary start cs ∧ IsBoundary stop cs then
    .ok ((slice? start stop cs).getD [])
  else .error (.cut start stop)

def minus (a b : Nat) : Except Fault Nat := if b ≤ a then .ok (a - b) else .error (.minus a b)

/-- Offset of the first character with a property. -/
def firstAt? (p : Char → Bool) : List Char → Option Nat
  | [] => none
  | c :: cs => if p c then some 0 else (firstAt? p cs).map (c.utf8Size + ·)

/-- Offset of the last character with a property. -/
def lastAt? (p : Char → Bool) : List Char → Option Nat
  | [] => none
  | c :: cs =>
    match lastAt? p cs with
    | some n => some (c.utf8Size + n)
    | none => if p c then some 0 else none

section Operations

variable {start stop a b c : Nat} {cs mid : List Char}

theorem exists_slice? (hle : start ≤ stop) (hstart : IsBoundary start cs)
    (hstop : IsBoundary stop cs) : ∃ mid, slice? start stop cs = some mid := by
  obtain ⟨front, rest, rfl, rfl⟩ := hstart
  obtain ⟨front', after, hcut, rfl⟩ := hstop
  rcases List.append_eq_append_iff.1 hcut with ⟨mid, rfl, rfl⟩ | ⟨mid, rfl, rfl⟩
  · exact ⟨mid, slice?_eq_some_iff.2 ⟨front, after, rfl, rfl, (byteLength_append ..).symm⟩⟩
  · have hnone : byteLength mid = 0 := by rw [byteLength_append] at hle; omega
    obtain rfl := byteLength_eq_zero.1 hnone
    exact ⟨[], slice?_eq_some_iff.2 ⟨front' ++ [], rest, rfl, rfl, by simp⟩⟩

/-- A text is cut between two boundaries in order, and nowhere else. -/
theorem cut_eq_ok_iff : cut start stop cs = .ok mid ↔ slice? start stop cs = some mid := by
  constructor
  · intro h
    rw [cut] at h
    split at h
    · next hends =>
      obtain ⟨mid', hmid⟩ := exists_slice? hends.1 hends.2.1 hends.2.2
      rw [hmid] at h ⊢
      exact congrArg some (Except.ok.inj h)
    · cases h
  · intro h
    obtain ⟨before, after, hcut, hstart, hstop⟩ := slice?_eq_some_iff.1 h
    have hfront : IsBoundary start cs := ⟨before, mid ++ after, hcut, hstart⟩
    have hback : IsBoundary stop cs :=
      ⟨before ++ mid, after, by rw [hcut, List.append_assoc], by rw [byteLength_append]; omega⟩
    rw [cut, if_pos ⟨by omega, hfront, hback⟩, h, Option.getD_some]

example : cut 1 2 "é".toList = .error (.cut 1 2) := by decide

/-- The text from an offset on, up to its end. -/
theorem cut_of_dropBytes? (h : dropBytes? start cs = some mid) :
    cut start (byteLength cs) cs = .ok mid := by
  obtain ⟨before, rfl, hstart⟩ := dropBytes?_eq_some_iff.1 h
  exact cut_eq_ok_iff.2 (slice?_eq_some_iff.2 ⟨before, [], by simp, hstart, by simp [hstart]⟩)

/-- The text up to an offset. -/
theorem cut_of_takeBytes? (h : takeBytes? stop cs = some mid) : cut 0 stop cs = .ok mid := by
  obtain ⟨after, rfl, hstop⟩ := takeBytes?_eq_some_iff.1 h
  exact cut_eq_ok_iff.2 (slice?_eq_some_iff.2 ⟨[], after, rfl, rfl, by simpa using hstop⟩)

theorem minus_of_sub? (h : sub? a b = some c) : minus a b = .ok c := by
  have hsum := sub?_eq_some_iff.1 h
  rw [minus, if_pos (by omega), hsum, Nat.add_sub_cancel_left]

end Operations

section Finding

variable {p : Char → Bool}

/-- Up to the first character with a property, or to the end, no character has it. -/
theorem firstAt?_getD (cs : List Char) :
    (firstAt? p cs).getD (byteLength cs) = byteLength (cs.takeWhile fun c => !p c) := by
  induction cs with
  | nil => rfl
  | cons c cs ih =>
    by_cases hc : p c = true
    · simp [firstAt?, hc]
    · cases hat : firstAt? p cs with
      | none => simpa [firstAt?, hc, hat] using ih
      | some n => simpa [firstAt?, hc, hat] using ih

theorem lastAt?_eq_none {cs : List Char} (h : ∀ c ∈ cs, p c = false) : lastAt? p cs = none := by
  induction cs with
  | nil => rfl
  | cons c cs ih =>
    obtain ⟨hc, hcs⟩ := List.forall_mem_cons.1 h
    simp [lastAt?, ih hcs, hc]

/-- The last character with a property is the one that only others come after. -/
theorem lastAt?_append {c : Char} (hc : p c = true) {after : List Char}
    (hafter : ∀ d ∈ after, p d = false) (before : List Char) :
    lastAt? p (before ++ c :: after) = some (byteLength before) := by
  induction before with
  | nil => simp [lastAt?, lastAt?_eq_none hafter, hc]
  | cons d before ih => simp [lastAt?, ih]

end Finding

def isNewline (c : Char) : Bool := decide (c = '\n')

/-- A line goes up to its newline, or to the end of the text. -/
theorem firstAt?_newline (start : Nat) (rest : List Char) :
    ((firstAt? isNewline rest).map (start + ·)).getD (start + byteLength rest) =
      start + byteLength (firstLine rest) := by
  have hline : (rest.takeWhile fun c => !isNewline c) = firstLine rest := by
    simp [firstLine, isNewline]
  rw [← hline, ← firstAt?_getD]
  cases firstAt? isNewline rest <;> rfl

/-- A line starts one past the newline before it, or at the start of the text. -/
theorem lastAt?_newline (back : List Char) :
    ((lastAt? isNewline back.reverse).map (· + 1)).getD 0 + byteLength (firstLine back) =
      byteLength back := by
  obtain ⟨tail, hback, htail, hline⟩ := firstLine_split back
  have hno : ∀ c ∈ (firstLine back).reverse, isNewline c = false := by
    intro c hc
    rw [isNewline, decide_eq_false_iff_not]
    rintro rfl
    exact hline (List.mem_reverse.1 hc)
  generalize firstLine back = line at hback hno
  subst hback
  rcases htail with rfl | ⟨tail, rfl⟩
  · simp [lastAt?_eq_none hno]
  · have hlast := lastAt?_append (p := isNewline) (c := '\n') rfl hno tail.reverse
    simp [hlast]
    omega

/-- What can be dropped after a line begins with its newline. -/
theorem line_of_dropBytes? {cs tail : List Char}
    (h : dropBytes? (byteLength (firstLine cs) + 1) cs = some tail) :
    cs = firstLine cs ++ '\n' :: tail ∧ cs.count '\n' = tail.count '\n' + 1 := by
  obtain ⟨tail', hsplit, htail, hline⟩ := firstLine_split cs
  obtain ⟨front, hfront, hlength⟩ := dropBytes?_eq_some_iff.1 h
  have hwhole := congrArg byteLength hsplit
  have hparts := congrArg byteLength hfront
  rw [byteLength_append] at hwhole hparts
  rcases htail with rfl | ⟨tail', rfl⟩
  · simp only [byteLength_nil] at hwhole
    omega
  · have hdrop : dropBytes? (byteLength (firstLine cs) + 1) cs = some tail' :=
      dropBytes?_eq_some_iff.2 ⟨firstLine cs ++ ['\n'], by rw [List.append_assoc]; exact hsplit,
        by simp⟩
    obtain rfl := Option.some.inj (h.symm.trans hdrop)
    refine ⟨hsplit, ?_⟩
    conv_lhs => rw [hsplit]
    simp [List.count_eq_zero.2 hline]

namespace LineCache

variable (content : List Char) (offset : Nat)

/-- The answer for an offset in the line between two others. -/
def hitAt (start stop number : Nat) : Except Fault (Location × LineCache) := do
  let column ← minus offset start
  let text ← cut start stop content
  return (⟨number, column + 1, String.ofList text⟩, ⟨start, number⟩)

/-- The search forward, at most so many rounds. -/
def forwardFrom : Nat → Nat → Nat → Except Fault (Location × LineCache)
  | 0, _, _ => .error .endless
  | rounds + 1, start, number => do
    let rest ← cut start (byteLength content) content
    let stop := ((firstAt? isNewline rest).map (start + ·)).getD (byteLength content)
    if offset ≤ stop then hitAt content offset start stop number
    else forwardFrom rounds (stop + 1) (number + 1)

/-- The search backward, at most so many rounds. -/
def backwardFrom : Nat → Nat → Nat → Except Fault (Location × LineCache)
  | 0, _, _ => .error .endless
  | rounds + 1, stop, number => do
    let before ← cut 0 stop content
    let start := ((lastAt? isNewline before).map (· + 1)).getD 0
    let number ← minus number 1
    if start ≤ offset then hitAt content offset start stop number
    else do
      let stop ← minus start 1
      backwardFrom rounds stop number

/-- Resolves an offset as `resolve?` does, by offsets alone. -/
def resolveIn (rounds : Nat) (cache : LineCache) : Except Fault (Location × LineCache) :=
  if content.isEmpty then .ok (⟨1, 1, ""⟩, cache)
  else
    let offset := min offset (byteLength content)
    if cache.start ≤ offset then forwardFrom content offset rounds cache.start cache.number
    else do
      let boundary ← minus cache.start 1
      let gap ← minus boundary offset
      if offset ≤ gap then forwardFrom content offset rounds 0 1
      else do
        let stop ← minus cache.start 1
        backwardFrom content offset rounds stop cache.number

variable {content offset} {answer : Location × LineCache}

theorem hitAt_of_hit? {start stop number : Nat}
    (h : hit? content start stop number offset = some answer) :
    hitAt content offset start stop number = .ok answer := by
  obtain ⟨text, htext, h⟩ := Option.bind_eq_some_iff.1 h
  obtain ⟨column, hcolumn, h⟩ := Option.bind_eq_some_iff.1 h
  obtain rfl := Option.some.inj h
  rw [hitAt, minus_of_sub? hcolumn, Fault.ok_bind, cut_eq_ok_iff.2 htext]
  rfl

/-- Where the search along the text finds a line, the search by offsets finds it too, in no more
rounds than there are lines left. -/
theorem forwardFrom_of_forward? {rounds number : Nat} {before rest : List Char}
    (hcontent : content = before ++ rest) (hrounds : rest.count '\n' < rounds)
    (h : forward? content offset rest (byteLength before) number = some answer) :
    forwardFrom content offset rounds (byteLength before) number = .ok answer := by
  -- each round moves one line from `rest` to `before`
  induction rounds generalizing before rest number with
  | zero => omega
  | succ rounds ih =>
    have hcut : cut (byteLength before) (byteLength content) content = .ok rest :=
      cut_of_dropBytes? (dropBytes?_eq_some_iff.2 ⟨before, hcontent, rfl⟩)
    have hsize : byteLength content = byteLength before + byteLength rest := by
      rw [hcontent, byteLength_append]
    rw [forward?] at h
    rw [forwardFrom, hcut, Fault.ok_bind]
    dsimp only at h ⊢
    rw [hsize, firstAt?_newline]
    by_cases hle : offset ≤ byteLength before + byteLength (firstLine rest)
    · rw [if_pos hle] at h ⊢
      exact hitAt_of_hit? h
    · rw [if_neg hle] at h ⊢
      have hskip : byteLength before + byteLength (firstLine rest) + 1 - byteLength before =
          byteLength (firstLine rest) + 1 := by omega
      rw [hskip] at h
      cases hdrop : dropBytes? (byteLength (firstLine rest) + 1) rest with
      | none => simp [hdrop] at h
      | some tail =>
        rw [hdrop] at h
        obtain ⟨hsplit, hcount⟩ := line_of_dropBytes? hdrop
        have hnext : content = (before ++ (firstLine rest ++ ['\n'])) ++ tail := by
          rw [List.append_assoc, List.append_assoc, List.singleton_append, ← hsplit, hcontent]
        have hstart : byteLength (before ++ (firstLine rest ++ ['\n'])) =
            byteLength before + byteLength (firstLine rest) + 1 := by
          simp [Nat.add_assoc]
        rw [← hstart] at h ⊢
        exact ih hnext (by omega) h

/-- Likewise for the search backward. -/
theorem backwardFrom_of_backward? {rounds number : Nat} {back after : List Char}
    (hcontent : content = back.reverse ++ after) (hrounds : back.count '\n' < rounds)
    (h : backward? content offset back (byteLength back) number = some answer) :
    backwardFrom content offset rounds (byteLength back) number = .ok answer := by
  -- each round moves one line from `back` to `after`
  induction rounds generalizing back after number with
  | zero => omega
  | succ rounds ih =>
    have hcut : cut 0 (byteLength back) content = .ok back.reverse :=
      cut_of_takeBytes? (takeBytes?_eq_some_iff.2 ⟨after, hcontent, byteLength_reverse back⟩)
    have hstart := lastAt?_newline back
    rw [backward?] at h
    rw [backwardFrom, hcut, Fault.ok_bind]
    dsimp only
    split at h
    · next start number' hs hn =>
      obtain rfl : ((lastAt? isNewline back.reverse).map (· + 1)).getD 0 = start := by
        rw [sub?_eq_some_iff] at hs
        omega
      rw [minus_of_sub? hn, Fault.ok_bind]
      split at h
      · next hle =>
        rw [if_pos hle]
        exact hitAt_of_hit? h
      · next hle =>
        rw [if_neg hle]
        split at h
        · next stop tail hp hdrop =>
          obtain ⟨hsplit, hcount⟩ := line_of_dropBytes? hdrop
          obtain rfl : byteLength tail = stop := by
            have hparts := congrArg byteLength hsplit
            rw [byteLength_append, byteLength_cons, utf8Size_newline] at hparts
            rw [sub?_eq_some_iff] at hp
            omega
          have hnext : content = tail.reverse ++ ('\n' :: (firstLine back).reverse ++ after) := by
            rw [hcontent]
            conv_lhs => rw [hsplit]
            simp
          rw [minus_of_sub? hp, Fault.ok_bind]
          exact ih hnext (by omega) h
        · cases h
    · cases h

/-- No search goes through more lines than there are. -/
theorem resolveIn_of_resolve? {rounds : Nat} {cache : LineCache}
    (hrounds : content.count '\n' < rounds) (h : cache.resolve? content offset = some answer) :
    resolveIn content offset rounds cache = .ok answer := by
  rw [resolve?] at h
  rw [resolveIn]
  by_cases hempty : content.isEmpty = true
  · rw [if_pos hempty] at h ⊢
    rw [Option.some.inj h]
  · rw [if_neg hempty] at h ⊢
    dsimp only at h ⊢
    generalize min offset (byteLength content) = offset at h ⊢
    by_cases hlater : cache.start ≤ offset
    · rw [if_pos hlater] at h ⊢
      obtain ⟨rest, hdrop, h⟩ := Option.bind_eq_some_iff.1 h
      obtain ⟨before, hcontent, hstart⟩ := dropBytes?_eq_some_iff.1 hdrop
      rw [← hstart] at h ⊢
      refine forwardFrom_of_forward? hcontent ?_ h
      rw [hcontent, List.count_append] at hrounds
      omega
    · rw [if_neg hlater] at h ⊢
      obtain ⟨boundary, hboundary, h⟩ := Option.bind_eq_some_iff.1 h
      obtain ⟨gap, hgap, h⟩ := Option.bind_eq_some_iff.1 h
      rw [minus_of_sub? hboundary, Fault.ok_bind, minus_of_sub? hgap, Fault.ok_bind]
      by_cases hnear : offset ≤ gap
      · rw [if_pos hnear] at h ⊢
        have hcontent : content = [] ++ content := rfl
        exact forwardFrom_of_forward? hcontent hrounds h
      · rw [if_neg hnear] at h ⊢
        obtain ⟨before, htake, h⟩ := Option.bind_eq_some_iff.1 h
        obtain ⟨after, hcontent, hlength⟩ := takeBytes?_eq_some_iff.1 htake
        rw [Fault.ok_bind]
        rw [← hlength, ← byteLength_reverse before] at h ⊢
        have hback : content = before.reverse.reverse ++ after := by
          rw [List.reverse_reverse, hcontent]
        refine backwardFrom_of_backward? hback ?_ h
        rw [hcontent, List.count_append] at hrounds
        rw [List.count_reverse]
        omega

end LineCache

namespace Primitive

variable {V : Type}

/-- The length of a comment's body with its end mark, found at the offsets where the characters of
the body start; `cs` is what is left of the body at offset `i`. -/
def bodyIn (stop body : List Char) : Quoting → Nat → List Char → Except Fault (Option Nat)
  | _, _, [] => .ok none
  | state, i, c :: cs =>
    if state = .outside ∧ isQuote c = false then do
      let here ← cut i (byteLength body) body
      if stop.isPrefixOf here then return some (i + byteLength stop)
      else bodyIn stop body (state.step c) (i + c.utf8Size) cs
    else bodyIn stop body (state.step c) (i + c.utf8Size) cs

/-- Scans as `scan` does, with the text cut by offsets. -/
def scanIn (rest : List Char) : Primitive → Except Fault (Except Miss (Match V))
  | natural radix =>
    let n := (firstAt? (fun c => !isDigit radix.base c) rest).getD (byteLength rest)
    if 0 < n then do
      let token ← cut 0 n rest
      match readNumeral? radix.base token with
      | some value => return .ok { length := n, value := .natural value }
      | none => return .error (.natural true)
    else .ok (.error (.natural false))
  | lineComment start =>
    if start.chars.isPrefixOf rest then do
      let body ← cut start.size (byteLength rest) rest
      let n := ((firstAt? isNewline body).map (start.size + ·)).getD (byteLength rest)
      return .ok { length := n, value := .text "" }
    else .ok (.error .lineComment)
  | blockComment start stop =>
    if start.chars.isPrefixOf rest then do
      let body ← cut start.size (byteLength rest) rest
      match ← bodyIn stop.chars body .outside 0 body with
      | some n => return .ok { length := start.size + n, value := .text "" }
      | none => return .error (.unclosedComment start stop)
    else .ok (.error (.blockComment start (String.ofList (rest.take start.chars.length))))
  | p => .ok (p.scan rest)

/-- An end mark is looked for at characters that are not quotes only. -/
theorem bodyLength?_cons (stop : List Char) (state : Quoting) (c : Char) (cs : List Char) :
    bodyLength? stop state (c :: cs) =
      if (state = .outside ∧ isQuote c = false) ∧ stop.isPrefixOf (c :: cs) then
        some (byteLength stop)
      else (bodyLength? stop (state.step c) cs).map (c.utf8Size + ·) := by
  rw [bodyLength?]
  simp only [and_assoc]

/-- The offset of a character of the body is that of what is left from it. -/
theorem bodyIn_eq (stop before cs : List Char) (state : Quoting) :
    bodyIn stop (before ++ cs) state (byteLength before) cs =
      .ok ((bodyLength? stop state cs).map (byteLength before + ·)) := by
  induction cs generalizing before state with
  | nil => rfl
  | cons c cs ih =>
    have hcut : cut (byteLength before) (byteLength (before ++ c :: cs)) (before ++ c :: cs) =
        .ok (c :: cs) := cut_of_dropBytes? (dropBytes?_byteLength before (c :: cs))
    have hlater :
        bodyIn stop (before ++ c :: cs) (state.step c) (byteLength before + c.utf8Size) cs =
          .ok (((bodyLength? stop (state.step c) cs).map (c.utf8Size + ·)).map
            (byteLength before + ·)) := by
      have hnext := ih (before ++ [c]) (state.step c)
      rw [List.append_assoc, List.singleton_append, byteLength_append] at hnext
      simpa [Function.comp_def, Nat.add_assoc] using hnext
    rw [bodyIn, bodyLength?_cons]
    by_cases hplain : state = .outside ∧ isQuote c = false
    · rw [if_pos hplain, hcut, Fault.ok_bind]
      by_cases hstop : stop.isPrefixOf (c :: cs) = true
      · rw [if_pos hstop, if_pos ⟨hplain, hstop⟩]
        rfl
      · rw [if_neg hstop, if_neg fun h => hstop h.2, hlater]
    · rw [if_neg hplain, if_neg fun h => hplain h.1, hlater]

/-- After a mark, the text is cut where the mark ends. -/
theorem cut_of_isPrefixOf {start : Mark} {rest : List Char}
    (h : start.chars.isPrefixOf rest = true) :
    ∃ body, start.after? rest = some body ∧ cut start.size (byteLength rest) rest = .ok body ∧
      byteLength rest = start.size + byteLength body := by
  obtain ⟨body, rfl⟩ := List.isPrefixOf_iff_prefix.1 h
  exact ⟨body, Mark.after?_eq_some_iff.2 rfl,
    cut_of_dropBytes? (dropBytes?_byteLength start.chars body), byteLength_append ..⟩

theorem after?_of_not_isPrefixOf {start : Mark} {rest : List Char}
    (h : ¬ start.chars.isPrefixOf rest = true) : start.after? rest = none := if_neg h

theorem scanIn_natural (radix : Radix) (rest : List Char) :
    (natural radix).scanIn rest = .ok ((natural radix).scan rest : Except Miss (Match V)) := by
  have hlength : (firstAt? (fun c => !isDigit radix.base c) rest).getD (byteLength rest) =
      byteLength (rest.takeWhile (isDigit radix.base)) := by
    simpa using firstAt?_getD (p := fun c => !isDigit radix.base c) rest
  have hcut : cut 0 (byteLength (rest.takeWhile (isDigit radix.base))) rest =
      .ok (rest.takeWhile (isDigit radix.base)) :=
    cut_of_takeBytes? (takeBytes?_eq_some_iff.2
      ⟨rest.dropWhile (isDigit radix.base), List.takeWhile_append_dropWhile.symm, rfl⟩)
  rw [scanIn, scan, hlength]
  generalize rest.takeWhile (isDigit radix.base) = token at hcut
  by_cases hempty : token = []
  · subst hempty
    rfl
  · have hpos : 0 < byteLength token :=
      Nat.pos_of_ne_zero fun h => hempty (byteLength_eq_zero.1 h)
    rw [if_pos hpos, hcut, Fault.ok_bind, if_neg (by simpa using hempty)]
    cases readNumeral? radix.base token <;> rfl

theorem scanIn_lineComment (start : Mark) (rest : List Char) :
    (lineComment start).scanIn rest =
      .ok ((lineComment start).scan rest : Except Miss (Match V)) := by
  rw [scanIn, scan]
  by_cases hstart : start.chars.isPrefixOf rest = true
  · obtain ⟨body, hafter, hcut, hsize⟩ := cut_of_isPrefixOf hstart
    rw [if_pos hstart, hcut, Fault.ok_bind, hafter]
    dsimp only
    rw [hsize, firstAt?_newline]
    rfl
  · rw [if_neg hstart, after?_of_not_isPrefixOf hstart]

theorem scanIn_blockComment (start stop : Mark) (rest : List Char) :
    (blockComment start stop).scanIn rest =
      .ok ((blockComment start stop).scan rest : Except Miss (Match V)) := by
  rw [scanIn, scan]
  by_cases hstart : start.chars.isPrefixOf rest = true
  · obtain ⟨body, hafter, hcut, -⟩ := cut_of_isPrefixOf hstart
    have hbody : bodyIn stop.chars body .outside 0 body =
        .ok (bodyLength? stop.chars .outside body) := by
      simpa using bodyIn_eq stop.chars [] body .outside
    rw [if_pos hstart, hcut, Fault.ok_bind, hafter, hbody, Fault.ok_bind]
    dsimp only
    cases bodyLength? stop.chars .outside body <;> rfl
  · rw [if_neg hstart, after?_of_not_isPrefixOf hstart]

/-- No scanner cuts a text where it cannot be cut. -/
theorem scanIn_eq (p : Primitive) (rest : List Char) :
    p.scanIn rest = .ok (p.scan rest : Except Miss (Match V)) := by
  cases p with
  | natural radix => exact scanIn_natural radix rest
  | lineComment start => exact scanIn_lineComment start rest
  | blockComment start stop => exact scanIn_blockComment start stop rest
  | literal | identifier | blanks | textEnd | regexp => rfl

end Primitive

variable {V : Type}

/-- Wherever a session comes to, every offset is found, and every text scanned, without a fault. -/
theorem cuts_without_fault (s : Session V) (h : s.Reached) :
    (∃ cache, s.cache = some cache ∧
      ∀ offset rounds, s.source.chars.count '\n' < rounds →
        ∃ l next, cache.resolveIn s.source.chars offset rounds = .ok (l, next) ∧
          s.locate offset = (l, { s with cache := some next }) ∧ 1 ≤ l.line ∧ 1 ≤ l.column) ∧
    ∀ (p : Primitive) (cursor : Nat),
      p.scanIn (s.source.restFrom cursor) =
        .ok (p.scan (s.source.restFrom cursor) : Except Miss (Match V)) := by
  obtain ⟨cache, hcache, hfound⟩ := h.locate_found
  refine ⟨⟨cache, hcache, fun offset rounds hrounds => ?_⟩, fun p cursor => p.scanIn_eq _⟩
  obtain ⟨next, hresolve, hlocate⟩ := hfound offset
  refine ⟨Location.ofOffset s.source.chars offset, next,
    LineCache.resolveIn_of_resolve? hrounds hresolve, hlocate, ?_, ?_⟩
  · exact Nat.le_add_left 1 _
  · exact Nat.le_add_left 1 _

section Backward

/-- The cache stands at the last line, which begins with a comment; its quoted part holds an end
mark. -/
def atLastLine : Session Unit :=
  (Session.locate 6 { source := ⟨"notes", "a\nbé\n/*'*/'*/7F"⟩ }).2

/-- The offset lies inside of the last character of the line before. -/
theorem cuts_without_fault_backward :
    (∃ next, LineCache.resolveIn atLastLine.source.chars 4 3 ⟨6, 3⟩ =
      .ok (⟨2, 3, "bé"⟩, next)) ∧
    (Primitive.blockComment ⟨"/*", by decide⟩ ⟨"*/", by decide⟩).scanIn
      (atLastLine.source.restFrom 6) = .ok (.ok (⟨8, .text ""⟩ : Match Unit)) ∧
    (Primitive.natural ⟨16, by decide, by decide⟩).scanIn (atLastLine.source.restFrom 14) =
      .ok (.ok (⟨2, .natural 0x7F⟩ : Match Unit)) := by
  have hreached : atLastLine.Reached := .locate _ 6 (.fresh _)
  obtain ⟨⟨cache, hcache, hresolve⟩, hscan⟩ := cuts_without_fault atLastLine hreached
  obtain rfl : ⟨6, 3⟩ = cache :=
    Option.some.inj ((by decide +kernel : atLastLine.cache = some ⟨6, 3⟩).symm.trans hcache)
  obtain ⟨l, next, hfound, hlocate, -⟩ := hresolve 4 3 (by decide +kernel)
  have hl : (atLastLine.locate 4).1 = ⟨2, 3, "bé"⟩ := by decide +kernel
  rw [hlocate] at hl
  obtain rfl : l = ⟨2, 3, "bé"⟩ := hl
  have hcomment : atLastLine.source.restFrom 6 = "/*'*/'*/7F".toList := by decide +kernel
  have hnatural : atLastLine.source.restFrom 14 = "7F".toList := by decide +kernel
  refine ⟨⟨next, hfound⟩, (hscan _ 6).trans ?_, (hscan _ 14).trans ?_⟩
  · rw [hcomment]
    rfl
  · rw [hnatural]
    rfl

end Backward

end Descent

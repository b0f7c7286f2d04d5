import Descent.Proofs.Balance
import Descent.Proofs.Scanning
import Mathlib.Data.Set.Basic

/-!
# The longest match

Identifiers, runs of blanks and line comments are three languages of texts. The
parser of each takes the longest front of what is left that belongs to its
language, and fails where there is none, or only the empty one. So what comes
after a match never continues it.
-/
namespace Descent

section Longest

variable {language : Set (List Char)} {cs : List Char}

/-- A language with a front of a text has a longest one. -/
theorem exists_longestFront {text : List Char} (hmem : text ∈ language) (hfront : text <+: cs) :
    ∃ front, LongestFront language cs front ∧ text.length ≤ front.length := by
  -- as long as there is a longer front, go on with it: none is longer than the text
  induction hn : cs.length - text.length using Nat.strong_induction_on generalizing text with
  | _ n ih =>
    by_cases hlonger : ∃ other ∈ language, other <+: cs ∧ text.length < other.length
    · obtain ⟨other, hother, hprefix, hlt⟩ := hlonger
      have hle := hprefix.length_le
      obtain ⟨front, hlongest, hge⟩ := ih (cs.length - other.length) (by omega) hother hprefix rfl
      exact ⟨front, hlongest, by omega⟩
    · refine ⟨text, ⟨hfront, hmem, fun other hother hprefix => ?_⟩, Nat.le_refl _⟩
      by_contra hlt
      exact hlonger ⟨other, hother, hprefix, by omega⟩

/-- The character after the longest front does not continue it. -/
theorem LongestFront.not_continued {front : List Char} (h : LongestFront language cs front) :
    ∀ c ∈ (cs.drop front.length).head?, front ++ [c] ∉ language := by
  intro c hc hmem
  obtain ⟨after, rfl⟩ := h.isPrefix
  obtain ⟨tail, htail⟩ := List.head?_eq_some_iff.1 hc
  rw [List.drop_left] at htail
  have hle := h.longest (front ++ [c]) hmem ⟨tail, by simp [htail]⟩
  rw [List.length_append, List.length_singleton] at hle
  omega

end Longest

namespace Primitive

/-- The empty text, and a letter or one of `first` with letters, numbers or any of `following`
after it. -/
def identifierTexts (first following : String) : Set (List Char) :=
  {text | (∀ c ∈ text.head?, isAlphabetic c = true ∨ c ∈ first.toList) ∧
    ∀ c ∈ text.tail, isAlphabetic c = true ∨ isNumeric c = true ∨ c ∈ following.toList}

def blankTexts (newlines : Bool) : Set (List Char) :=
  {text | ∀ c ∈ text, isBlank c = true ∧ (newlines = true ∨ c ≠ '\n')}

/-- The start mark, which may hold newlines itself, and then no newline. -/
def lineCommentTexts (start : Mark) : Set (List Char) :=
  {text | ∃ line, text = start.chars ++ line ∧ '\n' ∉ line}

section Identifiers

variable (first following : String)

theorem startsIdentifier_iff {c : Char} :
    startsIdentifier first c = true ↔ isAlphabetic c = true ∨ c ∈ first.toList := by
  simp [startsIdentifier]

theorem continuesIdentifier_iff {c : Char} : continuesIdentifier following c = true ↔
    isAlphabetic c = true ∨ isNumeric c = true ∨ c ∈ following.toList := by
  simp [continuesIdentifier, or_assoc]

theorem cons_mem_identifierTexts {c : Char} {cs : List Char} :
    c :: cs ∈ identifierTexts first following ↔
      startsIdentifier first c = true ∧ ∀ d ∈ cs, continuesIdentifier following d = true := by
  simp only [identifierTexts, Set.mem_ofPred_eq, startsIdentifier_iff, continuesIdentifier_iff,
    List.head?_cons, Option.mem_some_iff, forall_eq', List.tail_cons]

theorem nil_mem_identifierTexts : [] ∈ identifierTexts first following := by
  simp [identifierTexts]

theorem longestFront_identifier (cs : List Char) :
    LongestFront (identifierTexts first following) cs (identifierPrefix first following cs) where
  isPrefix := identifierPrefix_isPrefix first following cs
  mem := by
    cases cs with
    | nil => exact nil_mem_identifierTexts first following
    | cons c cs =>
      by_cases hc : startsIdentifier first c = true
      · rw [identifierPrefix, if_pos hc, cons_mem_identifierTexts]
        exact ⟨hc, fun d hd => List.mem_takeWhile_imp hd⟩
      · rw [identifierPrefix, if_neg hc]
        exact nil_mem_identifierTexts first following
  longest other hother hfront := by
    cases other with
    | nil => exact Nat.zero_le _
    | cons c other =>
      obtain ⟨rest, rfl⟩ := hfront
      obtain ⟨hc, hother⟩ := (cons_mem_identifierTexts first following).1 hother
      rw [List.cons_append, identifierPrefix, if_pos hc]
      exact Nat.succ_le_succ (isPrefix_takeWhile (List.prefix_append other rest) hother).length_le

end Identifiers

section Blanks

theorem blankTexts_eq (newlines : Bool) : blankTexts newlines =
    {text | ∀ c ∈ text, (isBlank c && (newlines || c != '\n')) = true} := by
  simp [blankTexts]

theorem longestFront_blanks (newlines : Bool) (cs : List Char) :
    LongestFront (blankTexts newlines) cs (blankPrefix newlines cs) := by
  rw [blankTexts_eq]
  exact longestFront_takeWhile _ cs

/-- Without newlines, the run of blanks is cut before the first of them. -/
theorem blankPrefix_eq (newlines : Bool) (cs : List Char) : blankPrefix newlines cs =
    if newlines = true then cs.takeWhile isBlank else firstLine (cs.takeWhile isBlank) := by
  cases newlines with
  | true => simp [blankPrefix]
  | false =>
    rw [if_neg Bool.false_ne_true, firstLine, blankPrefix, List.takeWhile_takeWhile]
    congr 1
    funext c
    by_cases hc : c = '\n' <;> simp [hc]

end Blanks

section LineComments

variable (start : Mark)

theorem longestFront_lineComment {line after : List Char} (hline : '\n' ∉ line)
    (hafter : StopsLine after) :
    LongestFront (lineCommentTexts start) (start.chars ++ (line ++ after))
      (start.chars ++ line) where
  isPrefix := ⟨after, by simp⟩
  mem := ⟨line, rfl, hline⟩
  longest other hother hfront := by
    obtain ⟨line', rfl, hline'⟩ := hother
    have hrest : line' <+: line ++ after := (List.prefix_append_right_inj start.chars).1 hfront
    have hfirst : line' <+: firstLine (line ++ after) :=
      isPrefix_takeWhile hrest fun c hc => decide_eq_true fun h => hline' (h ▸ hc)
    rw [firstLine_append line after hline hafter] at hfirst
    simpa using hfirst.length_le

end LineComments

section Reading

variable {V : Type}

/-- A primitive takes the longest front of a text in a language, and misses where there is none
but the empty one. -/
structure Reads (p : Primitive) (language : Set (List Char)) (value : Value V) (miss : Miss) :
    Prop where
  taken : ∀ {rest text}, LongestFront language rest text → text ≠ [] →
    p.scan rest = .ok ⟨byteLength text, value⟩
  missed : ∀ {rest}, (∀ text ∈ language, text <+: rest → text = []) →
    (p.scan rest : Except Miss (Match V)) = .error miss

/-- A primitive that takes a front of the text unless it is empty, and always the longest. -/
theorem reads_of_nonemptyMatch {p : Primitive} {language : Set (List Char)} {miss : Miss}
    {found : List Char → List Char}
    (hscan : ∀ rest, (p.scan rest : Except Miss (Match V)) = nonemptyMatch (found rest) miss)
    (hfound : ∀ rest, LongestFront language rest (found rest)) :
    p.Reads language (.none : Value V) miss where
  taken := by
    intro rest text hfront hne
    obtain rfl := (hfound rest).unique hfront
    rw [hscan, nonemptyMatch, if_neg (by simpa using hne)]
  missed := by
    intro rest hempty
    rw [hscan, hempty _ (hfound rest).mem (hfound rest).isPrefix]
    rfl

theorem identifier_reads (first following : String) :
    (identifier first following).Reads (identifierTexts first following) (.none : Value V)
      .identifier :=
  reads_of_nonemptyMatch (fun _ => rfl) (longestFront_identifier first following)

theorem blanks_reads (newlines : Bool) :
    (blanks newlines).Reads (blankTexts newlines) (.none : Value V) .blanks :=
  reads_of_nonemptyMatch (fun _ => rfl) (longestFront_blanks newlines)

theorem lineComment_reads (start : Mark) :
    (lineComment start).Reads (lineCommentTexts start) (.text "" : Value V) .lineComment where
  taken := by
    intro rest text hfront _
    obtain ⟨line, rfl, hline⟩ := hfront.mem
    obtain ⟨after, rfl⟩ := hfront.isPrefix
    obtain ⟨tail, hsplit, htail, hfirst⟩ := firstLine_split (line ++ after)
    have hlongest := longestFront_lineComment start hfirst htail
    rw [← hsplit, ← List.append_assoc] at hlongest
    have hline : line = firstLine (line ++ after) :=
      List.append_cancel_left (hfront.unique hlongest)
    have hafter := Mark.after?_eq_some_iff.2 (List.append_assoc start.chars line after)
    rw [scan, hafter]
    dsimp only
    rw [← hline, byteLength_append]
    rfl
  missed := by
    intro rest hempty
    have hafter : start.after? rest = none := by
      rw [Option.eq_none_iff_forall_ne_some]
      intro body hbody
      obtain rfl := Mark.after?_eq_some_iff.1 hbody
      exact start.chars_ne_nil
        (hempty start.chars ⟨[], by simp, by simp⟩ (List.prefix_append start.chars body))
    rw [scan, hafter]

end Reading

end Primitive

variable {V C : Type}

theorem Session.scan_source (s : Session V) (p : Primitive) : (s.scan p).source = s.source := by
  unfold scan
  split <;> simp

/-- At a run, a primitive matches the longest front of what is left in a language, byte for byte,
and otherwise fails on the spot. -/
structure Run.TakesLongest (p : Primitive) (language : Set (List Char)) (value : Value V)
    (miss : Miss) (r : Run V C) : Prop where
  /-- It fails where there is no front in the language but the empty one. -/
  fails_iff : (r.onSession (Session.scan p)).failed = true ↔
    ∀ text ∈ language, text <+: r.session.rest → text = []
  /-- The longest front is taken whole, and is not continued by what comes after it. -/
  takes : ¬ (r.onSession (Session.scan p)).failed = true →
    ∃ text, LongestFront language r.session.rest text ∧
      (r.session.scan p).cursor = r.session.cursor + byteLength text ∧
      (r.session.scan p).result =
        { position := r.session.cursor, text := String.ofList text, value } ∧
      IsBoundary (r.session.scan p).cursor r.session.source.chars ∧
      ∀ c ∈ (r.session.scan p).rest.head?, text ++ [c] ∉ language
  stays : (r.onSession (Session.scan p)).failed = true →
    (r.session.scan p).cursor = r.session.cursor ∧
      (r.session.scan p).result =
        { position := r.session.cursor
          errorAt := some (r.session.cursor + miss.delta)
          feedback := [r.session.item .error (r.session.cursor + miss.delta) miss.message
            miss.cause] }

theorem Primitive.Reads.takesLongest {p : Primitive} {language : Set (List Char)}
    {value : Value V} {miss : Miss} (h : p.Reads language value miss) (r : Run V C)
    (hr : IsBoundary r.session.cursor r.session.source.chars) :
    r.TakesLongest p language value miss := by
  by_cases hempty : ∀ text ∈ language, text <+: r.session.rest → text = []
  · obtain ⟨hcursor, hresult⟩ := Session.scan_missed (s := r.session) (h.missed hempty)
    have hfailed : (r.onSession (Session.scan p)).failed = true := by
      simp [Run.failed, Result.failed, hresult]
    exact ⟨⟨fun _ => hempty, fun _ => hfailed⟩, fun hmatch => absurd hfailed hmatch,
      fun _ => ⟨hcursor, hresult⟩⟩
  · obtain ⟨text, hmem, hfront, hne⟩ : ∃ text ∈ language, text <+: r.session.rest ∧ text ≠ [] := by
      simpa using hempty
    obtain ⟨front, hlongest, hlength⟩ := exists_longestFront hmem hfront
    have hfront_ne : front ≠ [] := by
      rintro rfl
      exact hne (List.eq_nil_of_length_eq_zero (Nat.le_zero.1 hlength))
    obtain ⟨after, hcut⟩ := hlongest.isPrefix
    obtain ⟨hcursor, hresult⟩ :=
      Session.scan_taken hr hcut.symm (h.taken hlongest hfront_ne)
    have hmatch : ¬ (r.onSession (Session.scan p)).failed = true := by
      simp [Run.failed, Result.failed, hresult]
    have hat : r.session.source.At r.session.cursor r.session.rest := r.session.source.exists_cut hr
    have hrest : (r.session.scan p).rest = r.session.rest.drop front.length := by
      rw [Session.rest, Session.scan_source, hcursor]
      exact (hat.drop hlongest.isPrefix).restFrom
    refine ⟨⟨fun hfailed => absurd hfailed hmatch, fun h => absurd h hempty⟩, fun _ => ?_,
      fun hfailed => absurd hfailed hmatch⟩
    refine ⟨front, hlongest, hcursor, hresult, ?_, ?_⟩
    · rw [hcursor]
      exact r.session.source.isBoundary_add hr (isBoundary_of_isPrefix hlongest.isPrefix)
    · rw [hrest]
      exact hlongest.not_continued

open Primitive (identifierTexts blankTexts lineCommentTexts)

/-- Identifiers, blanks and line comments are matched to the longest. Where newlines are not among
the blanks, the run of blanks is cut before the first of them. A line comment matches just where its
start mark stands, and goes up to the first newline after the mark, or to the end of the text. -/
theorem scans_longest (env : Env V C) (fuel : Nat) (hook : Script V C) (r : Run V C)
    (hr : IsBoundary r.session.cursor r.session.source.chars) :
    (∀ p : Primitive, (Grammar.primitive p hook).parse env (fuel + 1) r =
      some ((r.onSession (Session.scan p)).finish hook)) ∧
    (∀ first following, r.TakesLongest (.identifier first following)
      (identifierTexts first following) .none .identifier) ∧
    (∀ newlines, r.TakesLongest (.blanks newlines) (blankTexts newlines) .none .blanks ∧
      ∀ run, LongestFront {text | ∀ c ∈ text, isBlank c = true} r.session.rest run →
        LongestFront (blankTexts newlines) r.session.rest
          (if newlines = true then run else firstLine run)) ∧
    ∀ start : Mark,
      r.TakesLongest (.lineComment start) (lineCommentTexts start) (.text "") .lineComment ∧
      (¬ (r.onSession (Session.scan (.lineComment start))).failed = true ↔
        start.chars <+: r.session.rest) ∧
      ∀ line after, r.session.rest = start.chars ++ (line ++ after) → '\n' ∉ line →
        StopsLine after →
        LongestFront (lineCommentTexts start) r.session.rest (start.chars ++ line) := by
  refine ⟨fun _ => rfl, fun first following => ?_, fun newlines => ⟨?_, fun run hrun => ?_⟩,
    fun start => ?_⟩
  · exact (Primitive.identifier_reads first following).takesLongest r hr
  · exact (Primitive.blanks_reads newlines).takesLongest r hr
  · obtain rfl := (longestFront_takeWhile isBlank r.session.rest).unique hrun
    rw [← Primitive.blankPrefix_eq]
    exact Primitive.longestFront_blanks newlines r.session.rest
  · have htakes := (Primitive.lineComment_reads (V := V) start).takesLongest r hr
    refine ⟨htakes, ?_, fun line after hrest hline hafter => ?_⟩
    · rw [htakes.fails_iff]
      constructor
      · intro hfound
        obtain ⟨_, ⟨line, rfl, -⟩, hfront, -⟩ : ∃ text ∈ lineCommentTexts start,
            text <+: r.session.rest ∧ text ≠ [] := by simpa using hfound
        exact (List.prefix_append start.chars line).trans hfront
      · intro hmark hempty
        exact start.chars_ne_nil (hempty start.chars ⟨[], by simp, by simp⟩ hmark)
    · rw [hrest]
      exact Primitive.longestFront_lineComment start hline hafter

section Words

def unboundWords : Env Unit Unit := fun _ => .unbound

/-- At an offset of a name, a wide blank and a comment. -/
def wordsFrom (offset : Nat) : Run Unit Unit :=
  ⟨{ source := ⟨"words", "xé1-\u3000\n// é\n"⟩, cursor := offset }, (), #[]⟩

/-- The name begins with a letter of two bytes, the blank has three bytes and is followed by a
newline, and so is the comment. -/
theorem scans_longest_words :
    (∃ text, LongestFront (identifierTexts "_" "-") (wordsFrom 1).session.rest text ∧
      5 = 1 + byteLength text) ∧
    (∃ text, LongestFront (blankTexts false) (wordsFrom 5).session.rest text ∧
      8 = 5 + byteLength text) ∧
    LongestFront (lineCommentTexts ⟨"//", by decide⟩) (wordsFrom 9).session.rest
      "// é".toList := by
  obtain ⟨-, hwords, -, -⟩ := scans_longest unboundWords 0 .done (wordsFrom 1) (by decide +kernel)
  obtain ⟨-, -, hblanks, -⟩ := scans_longest unboundWords 0 .done (wordsFrom 5) (by decide +kernel)
  obtain ⟨-, -, -, hcomments⟩ :=
    scans_longest unboundWords 0 .done (wordsFrom 9) (by decide +kernel)
  obtain ⟨name, hname, hafter, -⟩ := (hwords "_" "-").takes (by decide +kernel)
  obtain ⟨blank, hblank, hafter', -⟩ := (hblanks false).1.takes (by decide +kernel)
  refine ⟨⟨name, hname, ?_⟩, ⟨blank, hblank, ?_⟩, ?_⟩
  · exact Eq.trans (by decide +kernel) hafter
  · exact Eq.trans (by decide +kernel) hafter'
  · exact (hcomments ⟨"//", by decide⟩).2.2 " é".toList ['\n'] (by decide +kernel)
      (by decide +kernel) (Or.inr ⟨[], rfl⟩)

end Words

end Descent

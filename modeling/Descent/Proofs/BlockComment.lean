import Descent.Proofs.Balance
import Descent.Proofs.Scanning
import Mathlib.Data.Nat.Find
import Mathlib.Order.Bounds.Basic

/-!
# Where block comments end

A block comment ends with the first end mark that stands outside of strings.
Which positions are outside is told by the places where strings open and shut;
the scan knows it from one state, which it carries from character to character.
An end mark that begins with a quote opens a string itself wherever it stands
outside, so a comment with such an end mark never ends.
-/
namespace Descent

namespace Primitive

section Strings

/-- In a string, a backslash escapes the character after it, unless it is escaped itself. -/
def Escaped (body : List Char) (opening : Nat) : Nat → Prop
  | 0 => False
  | k + 1 => opening < k ∧ body[k]? = some '\\' ∧ ¬ Escaped body opening k

/-- A string is shut by a later quote of its kind; unless they are backquotes, by one that is not
escaped. -/
def Shuts (body : List Char) (opening : Nat) (quote : Char) (k : Nat) : Prop :=
  opening < k ∧ body[k]? = some quote ∧ (quote = '\x60' ∨ ¬ Escaped body opening k)

/-- A position is outside of strings when each string that was opened before it, at a position
outside of strings, has been shut before it too. -/
def Outside (body : List Char) (i : Nat) : Prop :=
  ∀ j quote, j < i → Outside body j → body[j]? = some quote → isQuote quote = true →
    ∃ k < i, Shuts body j quote k
termination_by i

/-- At a position, a string is open that was opened before it. -/
structure Open (body : List Char) (i : Nat) (quote : Char) (opening : Nat) : Prop where
  lt : opening < i
  outside : Outside body opening
  opens : body[opening]? = some quote
  isQuote : isQuote quote = true
  unshut : ∀ k < i, ¬ Shuts body opening quote k

/-- What the state of a scan tells about its position. -/
def Quoting.Stands (body : List Char) (i : Nat) : Quoting → Prop
  | outside => Outside body i
  | inside quote => ∃ opening, Open body i quote opening ∧
      (quote = '\x60' ∨ ¬ Escaped body opening i)
  | escaped quote => ∃ opening, Open body i quote opening ∧
      quote ≠ '\x60' ∧ Escaped body opening i

variable {body : List Char} {i opening : Nat} {c quote : Char}

theorem Open.not_outside (h : Open body i quote opening) : ¬ Outside body i := by
  intro houtside
  rw [Outside] at houtside
  obtain ⟨k, hk, hshuts⟩ := houtside opening quote h.lt h.outside h.opens h.isQuote
  exact h.unshut k hk hshuts

/-- A string that the next character does not shut stays open. -/
theorem Open.next (h : Open body i quote opening) (hshut : ¬ Shuts body opening quote i) :
    Open body (i + 1) quote opening where
  lt := Nat.lt_succ_of_lt h.lt
  outside := h.outside
  opens := h.opens
  isQuote := h.isQuote
  unshut k hk := by
    rcases Nat.lt_succ_iff_lt_or_eq.1 hk with hlt | rfl
    · exact h.unshut k hlt
    · exact hshut

/-- After the quote that shuts a string one is outside, as no other string has been opened in it. -/
theorem Open.shut (h : Open body i quote opening) (hshut : Shuts body opening quote i) :
    Outside body (i + 1) := by
  rw [Outside]
  intro j quote' hj houtside hopens hquote
  rcases Nat.lt_trichotomy j opening with hlt | rfl | hgt
  · have hbefore := h.outside
    rw [Outside] at hbefore
    obtain ⟨k, hk, hshuts⟩ := hbefore j quote' hlt houtside hopens hquote
    exact ⟨k, Nat.lt_succ_of_lt (Nat.lt_trans hk h.lt), hshuts⟩
  · obtain rfl := Option.some.inj (h.opens.symm.trans hopens)
    exact ⟨i, Nat.lt_succ_self i, hshut⟩
  · -- within the string no position is outside, so no other one was opened there
    have hopen : Open body j quote opening :=
      ⟨hgt, h.outside, h.opens, h.isQuote, fun k hk => h.unshut k (by omega)⟩
    exact absurd houtside hopen.not_outside

theorem Outside.next (h : Outside body i) (hc : body[i]? = some c) (hquote : isQuote c = false) :
    Outside body (i + 1) := by
  rw [Outside] at h ⊢
  intro j quote hj houtside hopens hisQuote
  rcases Nat.lt_succ_iff_lt_or_eq.1 hj with hlt | rfl
  · obtain ⟨k, hk, hshuts⟩ := h j quote hlt houtside hopens hisQuote
    exact ⟨k, Nat.lt_succ_of_lt hk, hshuts⟩
  · obtain rfl := Option.some.inj (hc.symm.trans hopens)
    rw [hquote] at hisQuote
    cases hisQuote

theorem Outside.opens (h : Outside body i) (hc : body[i]? = some c) (hquote : isQuote c = true) :
    Open body (i + 1) c i where
  lt := Nat.lt_succ_self i
  outside := h
  opens := hc
  isQuote := hquote
  unshut k hk hshuts := absurd hshuts.1 (by omega)

theorem ne_backslash_of_isQuote (h : isQuote c = true) : c ≠ '\\' := by
  rintro rfl
  exact absurd h (by decide)

theorem outside_zero (body : List Char) : Outside body 0 := by
  rw [Outside]
  exact fun j _ hj => absurd hj (Nat.not_lt_zero j)

/-- What the state tells is so after one character more. -/
theorem Quoting.Stands.step {state : Quoting} (h : state.Stands body i)
    (hc : body[i]? = some c) : (state.step c).Stands body (i + 1) := by
  cases state with
  | outside =>
    cases hquote : isQuote c with
    | false =>
      have hstay : outside.step c = outside := by simp [Quoting.step, hquote]
      rw [hstay]
      exact Outside.next h hc hquote
    | true =>
      have henter : outside.step c = inside c := by simp [Quoting.step, hquote]
      rw [henter]
      exact ⟨i, Outside.opens h hc hquote, Or.inr fun hescaped => Nat.lt_irrefl i hescaped.1⟩
  | inside quote =>
    obtain ⟨opening, hopen, hplain⟩ := h
    by_cases hback : c = '\\' ∧ quote ≠ '\x60'
    · obtain ⟨rfl, hkind⟩ := hback
      have hshut : ¬ Shuts body opening quote i := fun hshuts =>
        ne_backslash_of_isQuote hopen.isQuote (Option.some.inj (hshuts.2.1.symm.trans hc))
      have hescape : (inside quote).step '\\' = escaped quote := by simp [Quoting.step, hkind]
      rw [hescape]
      exact ⟨opening, hopen.next hshut, hkind, hopen.lt, hc, hplain.resolve_left hkind⟩
    · by_cases hsame : c = quote
      · subst hsame
        -- the quote is not escaped here, so it shuts the string that it has opened
        have hleave : (inside c).step c = outside := by simp [Quoting.step, hback]
        rw [hleave]
        exact hopen.shut ⟨hopen.lt, hc, hplain⟩
      · have hshut : ¬ Shuts body opening quote i := fun hshuts =>
          hsame (Option.some.inj (hc.symm.trans hshuts.2.1))
        have hstay : (inside quote).step c = inside quote := by simp [Quoting.step, hback, hsame]
        rw [hstay]
        refine ⟨opening, hopen.next hshut, ?_⟩
        by_cases hkind : quote = '\x60'
        · exact Or.inl hkind
        · exact Or.inr fun hescaped =>
            hback ⟨Option.some.inj (hc.symm.trans hescaped.2.1), hkind⟩
  | escaped quote =>
    obtain ⟨opening, hopen, hkind, hescaped⟩ := h
    have hshut : ¬ Shuts body opening quote i := fun hshuts =>
      hshuts.2.2.resolve_left hkind hescaped
    exact ⟨opening, hopen.next hshut, Or.inr fun hescaped' => hescaped'.2.2 hescaped⟩

/-- The state after some characters. -/
def Quoting.after (state : Quoting) (cs : List Char) : Quoting := cs.foldl step state

theorem stands_after (hi : i ≤ body.length) :
    (Quoting.outside.after (body.take i)).Stands body i := by
  induction i with
  | zero => exact outside_zero body
  | succ i ih =>
    have hc : body[i]? = some body[i] := List.getElem?_eq_getElem hi
    have hstep := (ih (Nat.le_of_succ_le hi)).step hc
    rwa [List.take_succ_eq_append_getElem hi, Quoting.after, List.foldl_append]

/-- The scan is outside of strings just at the positions that are. -/
theorem outside_iff (hi : i ≤ body.length) :
    Outside body i ↔ Quoting.outside.after (body.take i) = .outside := by
  have hstands := stands_after hi
  constructor
  · intro houtside
    cases hstate : Quoting.outside.after (body.take i) with
    | outside => rfl
    | inside quote =>
      rw [hstate] at hstands
      obtain ⟨opening, hopen, -⟩ := hstands
      exact absurd houtside hopen.not_outside
    | escaped quote =>
      rw [hstate] at hstands
      obtain ⟨opening, hopen, -⟩ := hstands
      exact absurd houtside hopen.not_outside
  · intro hstate
    rwa [hstate] at hstands

end Strings

section Ends

/-- The end mark stands at a position outside of strings. -/
def EndsAt (stop body : List Char) (i : Nat) : Prop := Outside body i ∧ stop <+: body.drop i

/-- The positions at which a scan can end that begins in some state. -/
def Quoting.ends (state : Quoting) (stop cs : List Char) : Set Nat :=
  {i | state.after (cs.take i) = .outside ∧ stop <+: cs.drop i}

theorem isLeast_succ {S : Set Nat} (h : 0 ∉ S) {i : Nat} :
    IsLeast S (i + 1) ↔ IsLeast {k | k + 1 ∈ S} i := by
  constructor
  · rintro ⟨hi, hleast⟩
    exact ⟨hi, fun k hk => Nat.le_of_succ_le_succ (hleast hk)⟩
  · rintro ⟨hi, hleast⟩
    refine ⟨hi, fun k hk => ?_⟩
    cases k with
    | zero => exact absurd hk h
    | succ k => exact Nat.succ_le_succ (hleast hk)

theorem exists_isLeast {S : Set Nat} (h : ∃ i, i ∈ S) : ∃ i, IsLeast S i := by
  classical
  exact ⟨Nat.find h, Nat.find_spec h, fun k hk => Nat.find_min' h hk⟩

variable {stop : List Char} (hne : stop ≠ [])

include hne

/-- Outside of strings is where the end mark ends the comment. -/
theorem ends_outside (body : List Char) :
    Quoting.outside.ends stop body = {i | EndsAt stop body i} := by
  ext i
  refine and_congr_left fun hstop => (outside_iff ?_).symm
  by_contra hlong
  rw [List.drop_eq_nil_of_le (by omega)] at hstop
  exact hne (List.prefix_nil.1 hstop)

/-- A scan takes the first of the places where it can end. -/
theorem bodyLength?_eq_some_iff (hplain : ∀ c ∈ stop.head?, isQuote c = false) (state : Quoting)
    (cs : List Char) (n : Nat) :
    bodyLength? stop state cs = some n ↔ ∃ i, IsLeast (state.ends stop cs) i ∧
      n = byteLength (cs.take i) + byteLength stop := by
  induction cs generalizing state n with
  | nil =>
    constructor
    · intro h
      cases h
    · rintro ⟨i, ⟨⟨-, hstop⟩, -⟩, -⟩
      rw [List.drop_nil] at hstop
      exact absurd (List.prefix_nil.1 hstop) hne
  | cons c cs ih =>
    rw [bodyLength?]
    by_cases hhere : state = .outside ∧ isQuote c = false ∧ stop.isPrefixOf (c :: cs) = true
    · rw [if_pos hhere]
      have hleast : IsLeast (state.ends stop (c :: cs)) 0 :=
        ⟨⟨hhere.1, List.isPrefixOf_iff_prefix.1 hhere.2.2⟩, fun _ _ => Nat.zero_le _⟩
      constructor
      · intro h
        exact ⟨0, hleast, by simpa using (Option.some.inj h).symm⟩
      · rintro ⟨i, hi, rfl⟩
        obtain rfl := hi.unique hleast
        simp
    · rw [if_neg hhere, Option.map_eq_some_iff]
      -- an end mark right here does not begin with a quote, so it would have been taken
      have hzero : 0 ∉ state.ends stop (c :: cs) := by
        rintro ⟨houtside, hstop⟩
        obtain ⟨d, ds, rfl⟩ := List.exists_cons_of_ne_nil hne
        obtain ⟨rfl, -⟩ := List.cons_prefix_cons.1 hstop
        exact hhere ⟨houtside, hplain d rfl, List.isPrefixOf_iff_prefix.2 hstop⟩
      constructor
      · rintro ⟨m, hm, rfl⟩
        obtain ⟨i, hi, rfl⟩ := (ih _ _).1 hm
        exact ⟨i + 1, (isLeast_succ hzero).2 hi, by simp [Nat.add_assoc]⟩
      · rintro ⟨i, hi, rfl⟩
        cases i with
        | zero => exact absurd hi.1 hzero
        | succ i =>
          exact ⟨_, (ih _ _).2 ⟨i, (isLeast_succ hzero).1 hi, rfl⟩, by simp [Nat.add_assoc]⟩

omit hne in
/-- An end mark that begins with a quote is never found. -/
theorem bodyLength?_of_quote {quote : Char} (hhead : stop.head? = some quote)
    (hquote : isQuote quote = true) (state : Quoting) (cs : List Char) :
    bodyLength? stop state cs = none := by
  induction cs generalizing state with
  | nil => rfl
  | cons c cs ih =>
    rw [bodyLength?, if_neg, ih, Option.map_none]
    rintro ⟨-, hplain, hstop⟩
    obtain ⟨ds, rfl⟩ := List.head?_eq_some_iff.1 hhead
    obtain ⟨rfl, -⟩ := List.cons_prefix_cons.1 (List.isPrefixOf_iff_prefix.1 hstop)
    rw [hquote] at hplain
    cases hplain

end Ends

section Scan

variable {V : Type} {start stop : Mark} {rest body : List Char}

theorem scan_of_least (hplain : ∀ c ∈ stop.chars.head?, isQuote c = false)
    (hbody : rest = start.chars ++ body) {i : Nat}
    (hi : IsLeast {i | EndsAt stop.chars body i} i) :
    ((blockComment start stop).scan rest : Except Miss (Match V)) =
      .ok ⟨byteLength (start.chars ++ body.take i ++ stop.chars), .text ""⟩ := by
  rw [← ends_outside stop.chars_ne_nil] at hi
  have hlength := (bodyLength?_eq_some_iff stop.chars_ne_nil hplain .outside body _).2 ⟨i, hi, rfl⟩
  simp [scan, Mark.after?_eq_some_iff.2 hbody, hlength, Mark.size]

theorem scan_of_unclosed (hbody : rest = start.chars ++ body)
    (hlength : bodyLength? stop.chars .outside body = none) :
    ((blockComment start stop).scan rest : Except Miss (Match V)) =
      .error (.unclosedComment start stop) := by
  simp [scan, Mark.after?_eq_some_iff.2 hbody, hlength]

theorem bodyLength?_eq_none (hplain : ∀ c ∈ stop.chars.head?, isQuote c = false)
    (h : ¬ ∃ i, EndsAt stop.chars body i) : bodyLength? stop.chars .outside body = none := by
  rw [Option.eq_none_iff_forall_ne_some]
  intro n hn
  obtain ⟨i, hi, -⟩ := (bodyLength?_eq_some_iff stop.chars_ne_nil hplain .outside body n).1 hn
  rw [ends_outside stop.chars_ne_nil] at hi
  exact h ⟨i, hi.1⟩

variable (start stop)

/-- The comment without a body is closed by the first end mark that there can be. -/
theorem scan_of_empty (hplain : ∀ c ∈ stop.chars.head?, isQuote c = false) (after : List Char) :
    ((blockComment start stop).scan (start.chars ++ stop.chars ++ after) :
      Except Miss (Match V)) = .ok ⟨byteLength (start.chars ++ stop.chars), .text ""⟩ := by
  have hleast : IsLeast {i | EndsAt stop.chars (stop.chars ++ after) i} 0 :=
    ⟨⟨outside_zero _, List.prefix_append _ _⟩, fun _ _ => Nat.zero_le _⟩
  have hbody := List.append_assoc start.chars stop.chars after
  have hscan := scan_of_least (V := V) hplain hbody hleast
  rwa [List.take_zero, List.append_nil] at hscan

/-- With an end mark that begins with a quote no comment is closed. -/
theorem scan_of_quote {quote : Char} (hhead : stop.chars.head? = some quote)
    (hquote : isQuote quote = true) (rest : List Char) :
    ∃ miss, ((blockComment start stop).scan rest : Except Miss (Match V)) = .error miss := by
  rw [scan]
  cases hafter : start.after? rest with
  | none => exact ⟨_, rfl⟩
  | some body => exact ⟨.unclosedComment start stop, by simp [bodyLength?_of_quote hhead hquote]⟩

theorem scan_of_absent (h : ¬ start.chars <+: rest) :
    ∃ got, ((blockComment start stop).scan rest : Except Miss (Match V)) =
      .error (.blockComment start got) := by
  have hafter : start.after? rest = none := by
    rw [Option.eq_none_iff_forall_ne_some]
    intro body hbody
    exact h ⟨body, (Mark.after?_eq_some_iff.1 hbody).symm⟩
  exact ⟨_, by rw [scan, hafter]⟩

theorem blockComment?_eq_ok_iff {start stop : String} {p : Primitive} :
    blockComment? start stop = .ok p ↔
      ∃ (h : start ≠ "") (h' : stop ≠ ""), p = .blockComment ⟨start, h⟩ ⟨stop, h'⟩ := by
  by_cases h : start = "" <;> by_cases h' : stop = "" <;>
    simp [blockComment?, Mark.ofString?, h, h', eq_comm]

end Scan

end Primitive

open Primitive (EndsAt)

variable {V C : Type}

/-- Where an end mark does not begin with a quote, a block comment matches just when an end mark
stands outside of strings, and takes the text up to the first one of them. Otherwise it fails after
its start mark, or on the spot if there is none. -/
theorem blockComment_ends (env : Env V C) (fuel : Nat) (start stop : Mark) (hook : Script V C)
    (hplain : ∀ c ∈ stop.chars.head?, Primitive.isQuote c = false) (r : Run V C)
    (hr : IsBoundary r.session.cursor r.session.source.chars) :
    let s := r.onSession (Session.scan (.blockComment start stop))
    let p := r.session.cursor
    (Grammar.primitive (.blockComment start stop) hook).parse env (fuel + 1) r =
        some (s.finish hook) ∧
      (∀ body, r.session.rest = start.chars ++ body →
        (¬ s.failed = true ↔ ∃ i, EndsAt stop.chars body i) ∧
        (∀ i, IsLeast {i | EndsAt stop.chars body i} i →
          s.session.cursor = p + (start.size + byteLength (body.take i) + stop.size) ∧
          s.session.result =
            { position := p
              text := String.ofList (start.chars ++ body.take i ++ stop.chars)
              value := .text "" }) ∧
        (s.failed = true →
          s.session.cursor = p ∧ s.session.result.errorAt = some (p + start.size))) ∧
      (¬ start.chars <+: r.session.rest →
        s.failed = true ∧ s.session.cursor = p ∧ s.session.result.errorAt = some p) := by
  intro s p
  refine ⟨rfl, fun body hbody => ?_, fun habsent => ?_⟩
  · by_cases hends : ∃ i, EndsAt stop.chars body i
    · obtain ⟨i, hi⟩ := Primitive.exists_isLeast hends
      obtain ⟨after, hcut⟩ := hi.1.2
      have hrest : r.session.rest = start.chars ++ body.take i ++ stop.chars ++ after := by
        rw [hbody, List.append_assoc, hcut, List.append_assoc, List.take_append_drop]
      obtain ⟨hcursor, hresult⟩ :=
        Session.scan_taken hr hrest (Primitive.scan_of_least hplain hbody hi)
      have hmatch : ¬ s.failed = true := by
        simp [s, Run.failed, Result.failed, hresult]
      refine ⟨⟨fun _ => hends, fun _ => hmatch⟩, fun i' hi' => ?_,
        fun hfailed => absurd hfailed hmatch⟩
      obtain rfl := hi.unique hi'
      exact ⟨hcursor.trans (by simp [p, Mark.size, Nat.add_assoc]), hresult⟩
    · obtain ⟨hcursor, hresult⟩ := Session.scan_missed (V := V)
        (Primitive.scan_of_unclosed hbody (Primitive.bodyLength?_eq_none hplain hends))
      have hfailed : s.failed = true := by simp [s, Run.failed, Result.failed, hresult]
      exact ⟨⟨fun hmatch => absurd hfailed hmatch, fun h => absurd h hends⟩,
        fun i hi => absurd ⟨i, hi.1⟩ hends, fun _ => ⟨hcursor, congrArg Result.errorAt hresult⟩⟩
  · obtain ⟨got, hscan⟩ := Primitive.scan_of_absent (V := V) start stop habsent
    obtain ⟨hcursor, hresult⟩ := Session.scan_missed hscan
    exact ⟨by simp [s, Run.failed, Result.failed, hresult], hcursor,
      congrArg Result.errorAt hresult⟩

section Marks

def unboundMarks : Env Unit Unit := fun _ => .unbound

/-- At an offset of a text. -/
def beforeMarks (text : String) (offset : Nat) : Run Unit Unit :=
  ⟨{ source := ⟨"marks", text⟩, cursor := offset }, (), #[]⟩

/-- The body holds end marks in a string, in which a quote is escaped, and one after the comment. -/
theorem blockComment_ends_quoted :
    let r := beforeMarks "é/*'*/\\'' */ */" 2
    let comment : Primitive := .blockComment ⟨"/*", by decide⟩ ⟨"*/", by decide⟩
    (∃ i, IsLeast {i | EndsAt "*/".toList "'*/\\'' */ */".toList i} i) ∧
      (r.onSession (Session.scan comment)).session.cursor = 13 ∧
      ∀ i, IsLeast {i | EndsAt "*/".toList "'*/\\'' */ */".toList i} i →
        13 = 2 + (2 + byteLength ("'*/\\'' */ */".toList.take i) + 2) := by
  intro r comment
  obtain ⟨-, hends, -⟩ := blockComment_ends unboundMarks 0 ⟨"/*", by decide⟩ ⟨"*/", by decide⟩
    .done (by rintro c ⟨⟩; decide) r (by decide +kernel)
  obtain ⟨hclosed, hfirst, -⟩ := hends "'*/\\'' */ */".toList (by decide +kernel)
  have hcursor : (r.onSession (Session.scan comment)).session.cursor = 13 := by decide +kernel
  exact ⟨Primitive.exists_isLeast (hclosed.1 (by decide +kernel)), hcursor,
    fun i hi => hcursor.symm.trans (hfirst i hi).1⟩

end Marks

/-- All pairs of marks that are not empty are accepted. With an accepted pair, the end mark right
after the start mark closes the comment just when it does not begin with a quote; an end mark that
does is taken for the beginning of a string wherever it stands, and the comment never matches. -/
theorem blockComment_closable (env : Env V C) (fuel : Nat) (start stop : String)
    (hook : Script V C) :
    ((∃ p, Primitive.blockComment? start stop = .ok p) ↔ start ≠ "" ∧ stop ≠ "") ∧
    ∀ p, Primitive.blockComment? start stop = .ok p → ∀ r : Run V C,
      let s := r.onSession (Session.scan p)
      (Grammar.primitive p hook).parse env (fuel + 1) r = some (s.finish hook) ∧
        (∀ after, IsBoundary r.session.cursor r.session.source.chars →
          r.session.rest = start.toList ++ stop.toList ++ after →
          (∀ c ∈ stop.toList.head?, Primitive.isQuote c = false) →
          ¬ s.failed = true ∧
            s.session.cursor = r.session.cursor + (start.utf8ByteSize + stop.utf8ByteSize) ∧
            s.session.result =
              { position := r.session.cursor, text := start ++ stop, value := .text "" }) ∧
        ((∃ c ∈ stop.toList.head?, Primitive.isQuote c = true) →
          s.failed = true ∧ s.session.cursor = r.session.cursor) := by
  simp only [Primitive.blockComment?_eq_ok_iff]
  refine ⟨⟨fun ⟨_, h, h', _⟩ => ⟨h, h'⟩, fun ⟨h, h'⟩ => ⟨_, h, h', rfl⟩⟩, ?_⟩
  rintro _ ⟨h, h', rfl⟩ r
  refine ⟨rfl, fun after hr hrest hplain => ?_, fun ⟨quote, hhead, hquote⟩ => ?_⟩
  · have hscan := Primitive.scan_of_empty (V := V) ⟨start, h⟩ ⟨stop, h'⟩ hplain after
    obtain ⟨hcursor, hresult⟩ := Session.scan_taken hr hrest (hrest ▸ hscan)
    refine ⟨by simp [Run.failed, Result.failed, hresult], hcursor.trans ?_, hresult.trans ?_⟩
    · simp [byteLength_toList]
    · simp [String.ofList_append, String.ofList_toList]
  · obtain ⟨miss, hmiss⟩ := Primitive.scan_of_quote (V := V) ⟨start, h⟩ ⟨stop, h'⟩ hhead
      hquote r.session.rest
    obtain ⟨hcursor, hresult⟩ := Session.scan_missed hmiss
    exact ⟨by simp [Run.failed, Result.failed, hresult], hcursor⟩

section Quotes

/-- Quotes may stand in the start mark and further back in the end mark. -/
theorem blockComment_closable_apostrophes :
    ∃ p, Primitive.blockComment? "'" "\\'" = .ok p ∧
      ¬ ((beforeMarks "é'\\'\"" 2).onSession (Session.scan p)).failed = true ∧
      ((beforeMarks "é'\\'\"" 2).onSession (Session.scan p)).session.cursor = 5 := by
  obtain ⟨haccepted, hcloses⟩ :=
    blockComment_closable unboundMarks 0 "'" "\\'" (.done : Script Unit Unit)
  obtain ⟨p, hp⟩ := haccepted.2 ⟨by decide, by decide⟩
  obtain ⟨-, hclosed, -⟩ := hcloses p hp (beforeMarks "é'\\'\"" 2)
  obtain ⟨hmatch, hcursor, -⟩ :=
    hclosed ['"'] (by decide +kernel) (by decide +kernel) (by rintro c ⟨⟩; decide)
  exact ⟨p, hp, hmatch, hcursor.trans (by decide +kernel)⟩

/-- A comment between triple quotes is accepted, and does not match the two marks alone. -/
theorem blockComment_never_closed :
    ∃ p, Primitive.blockComment? "'''" "'''" = .ok p ∧
      (beforeMarks "''''''" 0).session.rest = "'''".toList ++ "'''".toList ∧
      ((Grammar.primitive p .done).parse unboundMarks 1 (beforeMarks "''''''" 0)).map
        Run.failed = some true :=
  ⟨_, rfl, by decide +kernel, by decide +kernel⟩

end Quotes

end Descent

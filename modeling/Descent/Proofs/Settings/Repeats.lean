import Descent.Proofs.Settings.Acceptance
import Mathlib.Data.List.Induction

/-!
# Keys that come twice

An entry whose key an earlier entry has is warned about, at its own place. Of
the entries with one key, the last one counts.
-/
namespace Descent

namespace Settings

/-- The entries whose key an earlier entry has. -/
def repeats (settings : List Setting) : List Setting :=
  (settings.zipIdx.filter fun (s, i) => ∃ s' ∈ settings.take i, s'.key = s.key).map (·.1)

/-- The text of the warning about a key that is known already. -/
def repeatWarning (source : Source) (s : Setting) : String :=
  let l := Location.ofOffset source.chars s.offset
  s!"WARNING: File '{source.name}', line {l.line}, column {l.column}:\n{l.lineText}\n" ++
    s!"key '{s.key}' is defined more than once."

section Lookup

variable {settings : List Setting} {key : String}

/-- The value of a key is that of the last entry with the key. -/
theorem get?_eq_some_iff {value : SettingValue} :
    get? settings key = some value ↔ ∃ before s after, settings = before ++ s :: after ∧
      s.key = key ∧ s.value = value ∧ ∀ s' ∈ after, s'.key ≠ key := by
  rw [get?, Option.map_eq_some_iff]
  constructor
  · rintro ⟨s, hs, hvalue⟩
    obtain ⟨hkey, after, before, hsplit, hafter⟩ := List.find?_eq_some_iff_append.1 hs
    refine ⟨before.reverse, s, after.reverse, ?_, by simpa using hkey, hvalue, ?_⟩
    · rw [← List.reverse_reverse settings, hsplit]
      simp
    · intro s' hs'
      simpa using hafter s' (List.mem_reverse.1 hs')
  · rintro ⟨before, s, after, rfl, hkey, hvalue, hafter⟩
    refine ⟨s, List.find?_eq_some_iff_append.2 ⟨by simpa using hkey, after.reverse,
      before.reverse, by simp, ?_⟩, hvalue⟩
    intro s' hs'
    simpa using hafter s' (List.mem_reverse.1 hs')

theorem get?_eq_none_iff : get? settings key = none ↔ ∀ s ∈ settings, s.key ≠ key := by
  simp [get?]

theorem get?_isSome_iff : (get? settings key).isSome = true ↔ ∃ s ∈ settings, s.key = key := by
  simp [get?]

end Lookup

/-- The last entry adds itself, if its key is known. -/
theorem repeats_append_singleton (settings : List Setting) (s : Setting) :
    repeats (settings ++ [s]) =
      repeats settings ++ if ∃ s' ∈ settings, s'.key = s.key then [s] else [] := by
  have hfront : (settings.zipIdx.filter fun (s', i) =>
      ∃ s'' ∈ (settings ++ [s]).take i, s''.key = s'.key) =
        settings.zipIdx.filter fun (s', i) => ∃ s'' ∈ settings.take i, s''.key = s'.key := by
    refine List.filter_congr fun (s', i) hmem => ?_
    dsimp only
    have hi : i < settings.length := by
      have := (List.mem_zipIdx hmem).2.1
      omega
    rw [List.take_append_of_le_length (Nat.le_of_lt hi)]
  have hlast : (settings ++ [s]).take settings.length = settings := List.take_left
  rw [repeats, List.zipIdx_append, List.filter_append, List.map_append, hfront, ← repeats]
  congr 1
  simp only [List.zipIdx_cons, List.zipIdx_nil, Nat.zero_add, List.filter_cons, hlast]
  split <;> simp_all

/-- The warning about a setting, as it is displayed. -/
theorem display_repeat (source : Source) (s : Setting) :
    (source.item .warning s.offset s!"key '{s.key}' is defined more than once" none).display =
      repeatWarning source s := by
  have hself : ∀ text : String, toString text = text := fun _ => rfl
  have hlabel : "WARNING: File '" = "WARNING" ++ (": " ++ "File '") := rfl
  have hstop : "' is defined more than once." = "' is defined more than once" ++ ("" ++ ".") := rfl
  unfold Feedback.Item.display Source.item repeatWarning Location.describe
  simp only [Feedback.Kind.label, Option.elim, hself, hlabel, hstop, String.append_assoc]

/-- The warnings that an accepted text gives are those about the keys that come again. -/
theorem display_notices (source : Source) (settings : List Setting) :
    (notices source [] settings).map Feedback.Item.display =
      (repeats settings).map (repeatWarning source) := by
  -- entries are added at the end, as a warning depends on the entries before
  induction settings using List.reverseRecOn with
  | nil => rfl
  | append_singleton settings s ih =>
    have hlast : (notice source settings s).map Feedback.Item.display =
        (if ∃ s' ∈ settings, s'.key = s.key then [s] else []).map (repeatWarning source) := by
      simp only [notice, get?_isSome_iff]
      split
      · rw [List.map_singleton, List.map_singleton, display_repeat]
      · rfl
    rw [notices_append, List.nil_append, notices, notices, List.append_nil, List.map_append, ih,
      hlast, repeats_append_singleton, List.map_append]

/-- What is known about an accepted text besides its settings is one warning for each entry whose
key an earlier entry has, in the order of the entries, about the place of that entry. The value of
a key is that of the last entry with the key. -/
theorem parse_warns_of_repeats (o : Options) (h : o.Valid) (source : Source) (p : Parsed)
    (hp : parse o source = .ok p) :
    p.info = "\n".intercalate ((repeats p.settings).map (repeatWarning source)) ∧
      (∀ key value, get? p.settings key = some value ↔
        ∃ before s after, p.settings = before ++ s :: after ∧ s.key = key ∧ s.value = value ∧
          ∀ s' ∈ after, s'.key ≠ key) ∧
      ∀ key, get? p.settings key = none ↔ ∀ s ∈ p.settings, s.key ≠ key := by
  obtain ⟨-, rfl⟩ := (parse_ok_iff h).1 hp
  refine ⟨?_, fun key value => get?_eq_some_iff, fun key => get?_eq_none_iff⟩
  exact congrArg "\n".intercalate (display_notices source _)

/-- The key `a` comes three times, and the key `b` twice in one line. -/
theorem parse_warns_of_repeats_thrice :
    ∃ p, parse {} ⟨"thrice", "a = 1\nb = x b = y\n# c\n a=\"z\"\na = 2"⟩ = .ok p ∧
      p.info = "WARNING: File 'thrice', line 2, column 7:\nb = x b = y\n" ++
        "key 'b' is defined more than once.\n" ++
        "WARNING: File 'thrice', line 4, column 2:\n a=\"z\"\n" ++
        "key 'a' is defined more than once.\n" ++
        "WARNING: File 'thrice', line 5, column 1:\na = 2\nkey 'a' is defined more than once." ∧
      get? p.settings "a" = some (.number 2) ∧ get? p.settings "b" = some (.word "y") ∧
      get? p.settings "c" = none := by
  let source : Source := ⟨"thrice", "a = 1\nb = x b = y\n# c\n a=\"z\"\na = 2"⟩
  have hscan : scan {} 0 source.chars =
      ([⟨"a", .number 1, 0⟩, ⟨"b", .word "x", 6⟩, ⟨"b", .word "y", 12⟩, ⟨"a", .quoted "z", 23⟩,
        ⟨"a", .number 2, 29⟩], []) := by
    decide +kernel
  have hp := parse_of_scan (o := {}) (by decide) source (congrArg Prod.snd hscan)
  have hsettings : (accepted {} source).settings = _ := congrArg Prod.fst hscan
  obtain ⟨hinfo, hvalue, hnone⟩ := parse_warns_of_repeats {} (by decide) source _ hp
  rw [hsettings] at hinfo hvalue hnone
  refine ⟨_, hp, hinfo.trans (by decide +kernel), ?_, ?_, ?_⟩
  · rw [hsettings, hvalue]
    exact ⟨[_, _, _, _], _, [], rfl, rfl, rfl, by simp⟩
  · rw [hsettings, hvalue]
    exact ⟨[_, _], _, [_, _], rfl, rfl, rfl, by simp⟩
  · rw [hsettings, hnone]
    simp

end Settings

end Descent

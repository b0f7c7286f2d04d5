import Descent.Proofs.Session
import Descent.Proofs.Settings.Language

/-!
# What is missing from an entry

Where no entry can be read, one of its parts is the first that is missing. The
errors about it are those of the parsers that look for it.
-/
namespace Descent

/-- The error about what a primitive misses at an offset. -/
def Source.miss (source : Source) (offset : Nat) (miss : Miss) : Feedback.Item :=
  source.item .error (offset + miss.delta) miss.message miss.cause

namespace Settings

/-- A part without which there is no entry. -/
inductive Part where
  | key
  | equals
  /-- Where there are digits in its place, their number is too large. -/
  | value (digits : Bool)
  deriving DecidableEq, Repr

/-- The errors about a part that is missing at an offset. -/
def Part.errors (source : Source) (offset : Nat) : Part → List Feedback.Item
  | key => [source.miss offset .identifier]
  | equals => [source.miss offset (.literal equalsMark.text)]
  | value digits =>
    source.item .error offset "best subparser should match; all 3 failed" none ::
      [.natural digits, .identifier, .regexp quotedPattern].map (source.miss offset)

/-- The first part of an entry that is missing from a text, and how far from its start. -/
def missing? (o : Options) (cs : List Char) : Option (Nat × Part) :=
  let blanks := Primitive.blankPrefix o.newlineIsBlank
  match identifierAt? cs with
  | none => some (0, .key)
  | some key =>
    let left := blanks (cs.drop key.length)
    match equalsMark.after? ((cs.drop key.length).drop left.length) with
    | none => some (byteLength (key ++ left), .equals)
    | some rest =>
      let right := blanks rest
      let place := rest.drop right.length
      match valueAt? o.radix place with
      | none =>
        some (byteLength (key ++ left ++ equalsMark.chars ++ right),
          .value !(place.takeWhile (isDigit o.radix)).isEmpty)
      | some _ => none

/-- There is an entry unless a part of it is missing. -/
theorem entryAt?_eq_none_iff {o : Options} {offset : Nat} {cs : List Char} :
    entryAt? o offset cs = none ↔ (missing? o cs).isSome = true := by
  unfold entryAt? missing?
  cases identifierAt? cs with
  | none => simp
  | some key =>
    simp only [Option.bind_eq_bind, Option.bind_some]
    cases equalsMark.after? ((cs.drop key.length).drop
        (Primitive.blankPrefix o.newlineIsBlank (cs.drop key.length)).length) with
    | none => simp
    | some rest =>
      simp only [Option.bind_some]
      cases valueAt? o.radix
          (rest.drop (Primitive.blankPrefix o.newlineIsBlank rest).length) with
      | none => simp
      | some v => simp

/-- Where there is no longest value, there is no value. -/
theorem valuesAt_eq_nil {radix : Nat} {cs : List Char} (h : valueAt? radix cs = none) :
    valuesAt radix cs = [] := by
  by_contra hne
  obtain ⟨v, hv⟩ := List.exists_mem_of_ne_nil _ hne
  obtain ⟨longest, hlongest⟩ := Option.isSome_iff_exists.1
    (List.isSome_max?_of_mem (List.mem_map_of_mem (f := fun v => byteLength v.1) hv))
  obtain ⟨hmem, hmax⟩ := List.max?_eq_some_iff.1 hlongest
  obtain ⟨w, hw, rfl⟩ := List.mem_map.1 hmem
  have hall : (valuesAt radix cs).all (fun v => byteLength v.1 ≤ byteLength w.1) = true := by
    simpa using fun text value hv => hmax _ (List.mem_map_of_mem (f := fun v => byteLength v.1) hv)
  exact absurd hall (List.find?_eq_none.1 h w hw)

theorem valueAt?_eq_none {radix : Nat} {cs : List Char} (h : valueAt? radix cs = none) :
    numberAt? radix cs = none ∧ wordAt? cs = none ∧ quotedAt? cs = none := by
  have hnil := valuesAt_eq_nil h
  simpa [valuesAt, List.append_eq_nil_iff, and_assoc] using hnil

/-- Whatever is missing makes errors, and nothing but errors. -/
theorem Part.errors_isError (source : Source) (offset : Nat) (part : Part) :
    ∀ item ∈ part.errors source offset, item.isError = true := by
  have hmisses : ∀ misses : List Miss, ∀ item ∈ misses.map (source.miss offset),
      item.isError = true := by
    intro misses item hitem
    obtain ⟨miss, -, rfl⟩ := List.mem_map.1 hitem
    rfl
  cases part with
  | key => exact hmisses [.identifier]
  | equals => exact hmisses [.literal equalsMark.text]
  | value digits =>
    exact List.forall_mem_cons.2
      ⟨rfl, hmisses [.natural digits, .identifier, .regexp quotedPattern]⟩

/-- The errors where a text goes on at an offset, but not with an item. -/
def leftover (o : Options) (source : Source) (offset : Nat) (cs : List Char) :
    List Feedback.Item :=
  source.item .error offset "any subparser should match; all 2 failed" none ::
    source.item .error offset s!"expecting end of input but still got {byteLength cs} bytes" none ::
      (missing? o cs).elim [] fun (distance, part) => part.errors source (offset + distance)

theorem leftover_isError (o : Options) (source : Source) (offset : Nat) (cs : List Char) :
    ∀ item ∈ leftover o source offset cs, item.isError = true := by
  have hmissing : ∀ item ∈ (missing? o cs).elim [] fun (distance, part) =>
      part.errors source (offset + distance), item.isError = true := by
    cases missing? o cs with
    | none => simp
    | some place => exact place.2.errors_isError source (offset + place.1)
  exact List.forall_mem_cons.2 ⟨rfl, List.forall_mem_cons.2 ⟨rfl, hmissing⟩⟩

end Settings

end Descent

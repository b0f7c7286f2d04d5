import Descent.Regex.Property
import Descent.Text.CaseFold

/-!
# Character sets

What a single step of a regular expression reads: a set of characters, built
from ranges and properties by the operations that bracketed classes offer.
-/
namespace Descent

inductive CharSet where
  | empty
  | range (lo hi : Nat)
  | property (p : Property)
  | union (a b : CharSet)
  | inter (a b : CharSet)
  | compl (a : CharSet)
  /-- Every character that has a case variant in the set. -/
  | anyCase (a : CharSet)
  deriving DecidableEq, Repr

namespace CharSet

def contains : CharSet → Char → Bool
  | empty, _ => false
  | range lo hi, c => lo ≤ c.toNat && c.toNat ≤ hi
  | property p, c => p.contains c
  | union a b, c => a.contains c || b.contains c
  | inter a b, c => a.contains c && b.contains c
  | compl a, c => !a.contains c
  | anyCase a, c => (caseVariants c).any a.contains

def single (c : Char) : CharSet := range c.toNat c.toNat

def full : CharSet := compl empty

def diff (a b : CharSet) : CharSet := inter a (compl b)

def symmDiff (a b : CharSet) : CharSet := diff (union a b) (inter a b)

/-- The set as a class writes it: closed under case first, complemented last. -/
def build (ignoreCase negated : Bool) (a : CharSet) : CharSet :=
  let a := if ignoreCase then anyCase a else a
  if negated then compl a else a

def ofRanges (ranges : List (Char × Char)) : CharSet :=
  ranges.foldr (fun r a => union (range r.1.toNat r.2.toNat) a) empty

@[simp] theorem contains_compl (a : CharSet) (c : Char) :
    (compl a).contains c = !a.contains c := rfl
@[simp] theorem contains_union (a b : CharSet) (c : Char) :
    (union a b).contains c = (a.contains c || b.contains c) := rfl
@[simp] theorem contains_inter (a b : CharSet) (c : Char) :
    (inter a b).contains c = (a.contains c && b.contains c) := rfl
@[simp] theorem contains_full (c : Char) : full.contains c = true := rfl

theorem contains_single (a c : Char) : (single a).contains c = true ↔ c = a := by
  simp only [single, contains, Bool.and_eq_true, decide_eq_true_eq]
  constructor
  · intro h; exact Char.toNat_inj.1 (by omega)
  · rintro rfl; omega

end CharSet

end Descent

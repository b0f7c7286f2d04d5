/-!
# Text measured in bytes

Text is a list of characters, and every offset into it counts bytes of its
UTF-8 form. A cut that falls inside a character, or past the end, is refused.
-/
namespace Descent

/-- Length of the UTF-8 form. -/
def byteLength : List Char → Nat
  | [] => 0
  | c :: cs => c.utf8Size + byteLength cs

@[simp] theorem byteLength_nil : byteLength [] = 0 := rfl
@[simp] theorem byteLength_cons (c : Char) (cs : List Char) :
    byteLength (c :: cs) = c.utf8Size + byteLength cs := rfl

@[simp] theorem byteLength_append (xs ys : List Char) :
    byteLength (xs ++ ys) = byteLength xs + byteLength ys := by
  induction xs with
  | nil => simp
  | cons c cs ih => simp [ih]; omega

theorem byteLength_eq_zero {cs : List Char} : byteLength cs = 0 ↔ cs = [] := by
  cases cs with
  | nil => simp
  | cons c cs => have := c.utf8Size_pos; simp; omega

@[simp] theorem utf8ByteSize_ofList (cs : List Char) :
    (String.ofList cs).utf8ByteSize = byteLength cs := by
  induction cs with
  | nil => rfl
  | cons c cs ih => simp [String.ofList_cons, String.utf8ByteSize_append, ih]

theorem byteLength_toList (s : String) : byteLength s.toList = s.utf8ByteSize := by
  rw [← utf8ByteSize_ofList, String.ofList_toList]

/-- The text without its first `n` bytes. -/
def dropBytes? : Nat → List Char → Option (List Char)
  | 0, cs => some cs
  | _ + 1, [] => none
  | n + 1, c :: cs => if c.utf8Size ≤ n + 1 then dropBytes? (n + 1 - c.utf8Size) cs else none

/-- The first `n` bytes of the text. -/
def takeBytes? : Nat → List Char → Option (List Char)
  | 0, _ => some []
  | _ + 1, [] => none
  | n + 1, c :: cs =>
    if c.utf8Size ≤ n + 1 then (takeBytes? (n + 1 - c.utf8Size) cs).map (c :: ·) else none

/-- The text between two offsets. -/
def slice? (start stop : Nat) (cs : List Char) : Option (List Char) :=
  if start ≤ stop then (dropBytes? start cs).bind (takeBytes? (stop - start)) else none

/-- An offset at which a character starts, or the end of the text. -/
def IsBoundary (n : Nat) (cs : List Char) : Prop :=
  ∃ before after, cs = before ++ after ∧ byteLength before = n

@[simp] theorem dropBytes?_zero (cs : List Char) : dropBytes? 0 cs = some cs := by
  cases cs <;> rfl

@[simp] theorem dropBytes?_byteLength (xs ys : List Char) :
    dropBytes? (byteLength xs) (xs ++ ys) = some ys := by
  induction xs with
  | nil => simp
  | cons c cs ih =>
    obtain ⟨k, hk⟩ : ∃ k, c.utf8Size + byteLength cs = k + 1 :=
      ⟨_, (Nat.succ_pred_eq_of_pos (Nat.add_pos_left c.utf8Size_pos _)).symm⟩
    simp only [byteLength_cons, List.cons_append, hk, dropBytes?]
    rw [if_pos (by omega), show k + 1 - c.utf8Size = byteLength cs by omega, ih]

theorem eq_append_of_dropBytes? {n : Nat} {cs rest : List Char}
    (h : dropBytes? n cs = some rest) : ∃ before, cs = before ++ rest ∧ byteLength before = n := by
  fun_induction dropBytes? n cs with
  | case1 => exact ⟨[], by simpa using h, rfl⟩
  | case2 => simp at h
  | case3 n c cs hc ih =>
    obtain ⟨before, rfl, hb⟩ := ih h
    exact ⟨c :: before, rfl, by simp [hb]; omega⟩
  | case4 => simp at h

/-- Dropping succeeds exactly at a boundary, and cuts the text there. -/
theorem dropBytes?_eq_some_iff {n : Nat} {cs rest : List Char} :
    dropBytes? n cs = some rest ↔ ∃ before, cs = before ++ rest ∧ byteLength before = n :=
  ⟨eq_append_of_dropBytes?, by rintro ⟨before, rfl, rfl⟩; simp⟩

@[simp] theorem takeBytes?_byteLength (xs ys : List Char) :
    takeBytes? (byteLength xs) (xs ++ ys) = some xs := by
  induction xs with
  | nil => cases ys <;> rfl
  | cons c cs ih =>
    obtain ⟨k, hk⟩ : ∃ k, c.utf8Size + byteLength cs = k + 1 :=
      ⟨_, (Nat.succ_pred_eq_of_pos (Nat.add_pos_left c.utf8Size_pos _)).symm⟩
    simp only [byteLength_cons, List.cons_append, hk, takeBytes?]
    rw [if_pos (by omega), show k + 1 - c.utf8Size = byteLength cs by omega, ih, Option.map_some]

theorem eq_append_of_takeBytes? {n : Nat} {cs front : List Char}
    (h : takeBytes? n cs = some front) : ∃ after, cs = front ++ after ∧ byteLength front = n := by
  fun_induction takeBytes? n cs generalizing front with
  | case1 cs => exact ⟨cs, by simp_all, by simp_all⟩
  | case2 => simp at h
  | case3 n c cs hc ih =>
    obtain ⟨rest, hr, rfl⟩ := Option.map_eq_some_iff.1 h
    obtain ⟨after, rfl, hb⟩ := ih hr
    exact ⟨after, rfl, by simp [hb]; omega⟩
  | case4 => simp at h

theorem takeBytes?_eq_some_iff {n : Nat} {cs front : List Char} :
    takeBytes? n cs = some front ↔ ∃ after, cs = front ++ after ∧ byteLength front = n :=
  ⟨eq_append_of_takeBytes?, by rintro ⟨after, rfl, rfl⟩; simp⟩

/-- A slice is the middle of the text it was cut from. -/
theorem slice?_eq_some_iff {start stop : Nat} {cs mid : List Char} :
    slice? start stop cs = some mid ↔
      ∃ before after, cs = before ++ (mid ++ after) ∧ byteLength before = start ∧
        start + byteLength mid = stop := by
  unfold slice?
  split
  · next h =>
    rw [Option.bind_eq_some_iff]
    constructor
    · rintro ⟨rest, hd, ht⟩
      obtain ⟨before, rfl, hb⟩ := dropBytes?_eq_some_iff.1 hd
      obtain ⟨after, rfl, hm⟩ := takeBytes?_eq_some_iff.1 ht
      exact ⟨before, after, rfl, hb, by omega⟩
    · rintro ⟨before, after, rfl, hb, hm⟩
      refine ⟨mid ++ after, dropBytes?_eq_some_iff.2 ⟨before, rfl, hb⟩, ?_⟩
      exact takeBytes?_eq_some_iff.2 ⟨after, rfl, by omega⟩
  · next h =>
    constructor
    · intro h'; simp at h'
    · rintro ⟨before, after, rfl, hb, hm⟩; omega

theorem isBoundary_iff {n : Nat} {cs : List Char} :
    IsBoundary n cs ↔ (dropBytes? n cs).isSome := by
  constructor
  · rintro ⟨before, after, rfl, rfl⟩; simp
  · intro h
    obtain ⟨rest, hr⟩ := Option.isSome_iff_exists.1 h
    obtain ⟨before, rfl, hb⟩ := dropBytes?_eq_some_iff.1 hr
    exact ⟨before, rest, rfl, hb⟩

instance (n : Nat) (cs : List Char) : Decidable (IsBoundary n cs) :=
  decidable_of_iff _ isBoundary_iff.symm

theorem isBoundary_zero (cs : List Char) : IsBoundary 0 cs := ⟨[], cs, rfl, rfl⟩

theorem isBoundary_of_isPrefix {front cs : List Char} (h : front <+: cs) :
    IsBoundary (byteLength front) cs := by
  obtain ⟨after, rfl⟩ := h
  exact ⟨front, after, rfl, rfl⟩

theorem IsBoundary.le_byteLength {n : Nat} {cs : List Char} (h : IsBoundary n cs) :
    n ≤ byteLength cs := by
  obtain ⟨before, after, rfl, rfl⟩ := h
  simp

theorem IsBoundary.append {n : Nat} (front : List Char) {cs : List Char} (h : IsBoundary n cs) :
    IsBoundary (byteLength front + n) (front ++ cs) := by
  obtain ⟨before, after, rfl, rfl⟩ := h
  exact ⟨front ++ before, after, by simp, by simp⟩

theorem IsBoundary.cons {n : Nat} (c : Char) {cs : List Char} (h : IsBoundary n cs) :
    IsBoundary (c.utf8Size + n) (c :: cs) := h.append [c]

end Descent

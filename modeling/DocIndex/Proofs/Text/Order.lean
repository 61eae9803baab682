import DocIndex.Search.Ranking
import Mathlib.Data.List.TakeWhile

/-!
# The code-point order of texts

Texts are ordered by their code points, a lone surrogate by its code unit. A stand-in's
unit is the code point of no character, so no two characters share a code point, and
`compareText` is a strict total order in which only equal texts compare equal. Postings and
stored keys are kept in this order. A text encodes as UTF-8 exactly when it holds no
stand-in.
-/

namespace DocIndex.Text

/-- A stand-in lies its unit plus the offset, and the unit is a surrogate. -/
theorem surrogateOf?_eq_some
    {c : Char} {unit : Nat}
    (standIn : surrogateOf? c = some unit) :
    c.toNat = unit + standInOffset ∧ 0xD800 ≤ unit ∧ unit ≤ 0xDFFF := by
  unfold surrogateOf? at standIn
  split at standIn
  · rename_i bounds
    have found := Option.some.inj standIn
    -- the offset stays a name: unfolding it under a subtraction sends `whnf` down
    -- a million successors
    have offset : standInOffset = 0x100000 := rfl
    simp only [isSurrogate, Bool.and_eq_true, decide_eq_true_eq, ge_iff_le] at bounds
    omega
  · cases standIn

/-- A character's number lies outside the surrogate block. -/
theorem toNat_valid (c : Char) :
    c.toNat < 0xD800 ∨ (0xDFFF < c.toNat ∧ c.toNat < 0x110000) := by
  have valid := c.valid
  simpa [UInt32.isValidChar, Nat.isValidChar, Char.toNat_val] using valid

/-- No two characters stand for the same code point. -/
theorem codePoint_injective : Function.Injective codePoint := by
  intro left right same
  have leftValid := toNat_valid left
  have rightValid := toNat_valid right
  have offset : standInOffset = 0x100000 := rfl
  apply Char.toNat_inj.mp
  unfold codePoint at same
  cases leftUnit : surrogateOf? left with
  | none =>
    cases rightUnit : surrogateOf? right with
    | none => simpa [leftUnit, rightUnit] using same
    | some unit =>
      have := surrogateOf?_eq_some rightUnit
      simp only [leftUnit, rightUnit, Option.getD_none, Option.getD_some] at same
      omega
  | some unit =>
    have := surrogateOf?_eq_some leftUnit
    cases rightUnit : surrogateOf? right with
    | none =>
      simp only [leftUnit, rightUnit, Option.getD_none, Option.getD_some] at same
      omega
    | some other =>
      have := surrogateOf?_eq_some rightUnit
      simp only [leftUnit, rightUnit, Option.getD_some] at same
      omega

/-- A text encodes exactly when it holds no stand-in. -/
theorem encodeRefusal?_eq_none_iff (text : String) :
    encodeRefusal? text = none ↔ ∀ c ∈ text.toList, isStandIn c = false := by
  have noRun : ((text.toList.dropWhile fun c => !isStandIn c).takeWhile isStandIn = []) ↔
      text.toList.dropWhile (fun c => !isStandIn c) = [] := by
    cases rest : text.toList.dropWhile fun c => !isStandIn c with
    | nil => simp
    | cons c others =>
      have first := @List.head_dropWhile_not _ (fun c => !isStandIn c) text.toList
        (by rw [rest]; exact List.cons_ne_nil _ _)
      simp only [rest, List.head_cons, Bool.not_eq_false'] at first
      rw [List.takeWhile_cons_of_pos first]
      simp
  have allVisible : text.toList.dropWhile (fun c => !isStandIn c) = [] ↔
      ∀ c ∈ text.toList, isStandIn c = false := by
    simp [List.dropWhile_eq_nil_iff]
  unfold encodeRefusal?
  split
  · rename_i empty
    simpa using allVisible.mp (noRun.mp empty)
  · rename_i c single
    simp only [reduceCtorEq, false_iff]
    intro visible
    rw [(noRun.mpr (allVisible.mpr visible))] at single
    cases single
  · rename_i run notEmpty notSingle
    simp only [reduceCtorEq, false_iff]
    intro visible
    exact notEmpty (noRun.mpr (allVisible.mpr visible))

end DocIndex.Text

namespace DocIndex.Search

open DocIndex.Text

/-- Only equal texts compare equal. -/
@[simp]
theorem compareText_eq_iff {a b : String} : compareText a b = .eq ↔ a = b := by
  unfold compareText
  rw [Std.LawfulEqOrd.compare_eq_iff_eq,
    List.map_inj_right fun _ _ => @codePoint_injective _ _]
  exact String.toList_inj

/-- A text compares equal to itself. -/
@[simp]
theorem compareText_self (a : String) : compareText a a = .eq :=
  compareText_eq_iff.mpr rfl

/-- Comparing the other way round swaps the answer. -/
theorem compareText_swap (a b : String) : compareText b a = (compareText a b).swap := by
  unfold compareText
  exact Std.OrientedCmp.eq_swap

/-- The strict code-point order is transitive. -/
theorem compareText_lt_trans
    {a b c : String}
    (first : compareText a b = .lt)
    (second : compareText b c = .lt) :
    compareText a c = .lt := by
  unfold compareText at *
  exact Std.TransCmp.lt_trans first second

/-- The code-point order with equal texts allowed is transitive. -/
theorem compareText_isLE_trans
    {a b c : String}
    (first : (compareText a b).isLE)
    (second : (compareText b c).isLE) :
    (compareText a c).isLE := by
  unfold compareText at *
  exact Std.TransCmp.isLE_trans first second

/-- Any two texts compare one way round or the other. -/
theorem compareText_isLE_total (a b : String) :
    ((compareText a b).isLE || (compareText b a).isLE) = true := by
  rw [compareText_swap a b]
  cases compareText a b <;> rfl

/-- Between distinct texts, the order with equal texts allowed is the strict one. -/
theorem compareText_lt_of_isLE
    {a b : String}
    (before : (compareText a b).isLE)
    (apart : a ≠ b) :
    compareText a b = .lt := by
  cases ordered : compareText a b with
  | lt => rfl
  | eq => exact absurd (compareText_eq_iff.mp ordered) apart
  | gt =>
    rw [ordered] at before
    cases before

end DocIndex.Search

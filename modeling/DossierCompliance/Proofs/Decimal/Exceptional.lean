import DossierCompliance.Dossier.Basic
import Mathlib

/-!
What is not a number. A result that is rounded is a number, or too large and
then infinite, so that sums, products and quotients of numbers fail to be
numbers only where infinities meet. Two numbers compare one way or the other;
what is not a number compares with nothing.
-/

namespace DossierCompliance.Decimal

open Float.Model Float.Model.UnpackedFloat

/-! ### Storing a result -/

theorem isNaN_unpack_iff {b : BitVec Format.binary64.numBits} :
    (unpack .binary64 b).isNaN = true ↔ unpackExponent b = -1#11 ∧ unpackMantissa b ≠ 0#52 := by
  rw [UnpackedFloat.unpack]
  dsimp only
  split_ifs <;> simp_all [UnpackedFloat.isNaN]

/-- A result is stored as what is not a number only if it is none: what is too
large is stored as an infinity. -/
theorem isNaN_stored (u : UnpackedFloat) : (Float.Model.pack u).isNaN = u.isNaN := by
  change (unpack .binary64 (pack .binary64 u)).isNaN = u.isNaN
  cases u with
  | notANumber => rfl
  | infinity s => cases s <;> rfl
  | zero s => cases s <;> rfl
  | finite s m e hpos =>
    refine Bool.eq_false_iff.mpr fun hnan => ?_
    obtain ⟨hexponent, hmantissa⟩ := isNaN_unpack_iff.mp hnan
    rw [UnpackedFloat.pack] at hexponent hmantissa
    dsimp only at hexponent hmantissa
    split_ifs at hexponent hmantissa with hlarge hnormal
    · exact hmantissa unpackMantissa_packComponents
    · rw [unpackExponent_packComponents] at hexponent
      have hbits := congrArg BitVec.toNat hexponent
      rw [BitVec.toNat_ofNat, Nat.mod_eq_of_lt (by omega)] at hbits
      simp at hbits
      omega
    · rw [unpackExponent_packComponents] at hexponent
      exact absurd hexponent (by decide)

theorem isNaN_roundWithAccuracy (s : Sign) (m : Nat) (e : Int) (a : Accuracy) :
    (roundWithAccuracy .binary64 s m e a).isNaN = false := by
  rw [roundWithAccuracy]
  dsimp only
  split <;> rfl

theorem isNaN_normalize (m e : Int) (s : Sign) : (normalize .binary64 m e s).isNaN = false := by
  rw [UnpackedFloat.normalize]
  split
  · exact isNaN_roundWithAccuracy _ _ _ _
  · rfl
  · exact isNaN_roundWithAccuracy _ _ _ _

/-! ### Comparing -/

theorem compare_swap (u v : UnpackedFloat) : u.compare v = (v.compare u).map Ordering.swap := by
  have hsign (s t : Sign) : compare s t = (compare t s).swap := by
    cases s <;> cases t <;> rfl
  have hparts (m n : Nat) (e f : Int) :
      (compare e f).then (compare m n) = ((compare f e).then (compare n m)).swap := by
    rw [Ordering.swap_then, ← Std.OrientedOrd.eq_swap, ← Std.OrientedOrd.eq_swap]
  cases u with
  | notANumber => cases v <;> rfl
  | infinity s =>
    cases v with
    | infinity t => exact congrArg some (hsign s t)
    | _ => cases s <;> rfl
  | zero s =>
    cases v with
    | infinity t => cases t <;> rfl
    | finite t => cases t <;> rfl
    | _ => rfl
  | finite s m e hm =>
    cases v with
    | notANumber => rfl
    | infinity t => cases s <;> cases t <;> rfl
    | zero t => cases s <;> rfl
    | finite t n f hn =>
      cases s <;> cases t
      · exact congrArg (fun o => some o.swap) (hparts m n e f)
      · rfl
      · rfl
      · exact congrArg some (hparts m n e f)

theorem compare_eq_none_iff {u v : UnpackedFloat} :
    u.compare v = none ↔ u.isNaN = true ∨ v.isNaN = true := by
  rw [UnpackedFloat.compare.eq_def]
  split <;> simp_all [UnpackedFloat.isNaN]

variable {x y : Float}

theorem lt_iff : x < y ↔ x.toModel.unpack.compare y.toModel.unpack = some .lt := by
  change decide ((x.toModel.unpack.compare y.toModel.unpack == some .lt) = true) = true ↔ _
  rw [decide_eq_true_iff, beq_iff_eq]

theorem le_iff_compare :
    x ≤ y ↔ (x.toModel.unpack.compare y.toModel.unpack).any (·.isLE) = true := by
  change decide ((x.toModel.unpack.compare y.toModel.unpack).any (·.isLE) = true) = true ↔ _
  rw [decide_eq_true_iff]

/-- Numbers compare one way or the other, and what is not a number in no way. -/
theorem le_iff : y ≤ x ↔ x.isNaN = false ∧ y.isNaN = false ∧ ¬ x < y := by
  have hnumbers : x.isNaN = false ∧ y.isNaN = false ↔
      x.toModel.unpack.compare y.toModel.unpack ≠ none := by
    rw [ne_eq, compare_eq_none_iff, not_or, Bool.not_eq_true, Bool.not_eq_true]
    rfl
  rw [← and_assoc, hnumbers, le_iff_compare, lt_iff, compare_swap]
  cases x.toModel.unpack.compare y.toModel.unpack with
  | none => simp
  | some o => cases o <;> simp

theorem isNaN_of_lt (h : x < y) : x.isNaN = false ∧ y.isNaN = false := by
  have hsome : x.toModel.unpack.compare y.toModel.unpack ≠ none := by
    rw [lt_iff.mp h]
    exact nofun
  rwa [ne_eq, compare_eq_none_iff, not_or, Bool.not_eq_true, Bool.not_eq_true] at hsome

theorem isInf_of_isFinite (h : x.isFinite = true) : x.isInf = false := by
  change x.toModel.unpack.isFinite = true at h
  change x.toModel.unpack.isInf = false
  generalize x.toModel.unpack = u at *
  cases u with
  | infinity s => cases h
  | _ => rfl

/-- The numbers above zero. -/
theorem pos_iff : 0.0 < x ↔ x.toModel.unpack = .infinity .positive ∨
    ∃ m e hm, x.toModel.unpack = .finite .positive m e hm := by
  have hzero : (0.0 : Float).toModel.unpack = .zero .positive := rfl
  rw [lt_iff, hzero]
  rcases x.toModel.unpack with s | _ | s | ⟨s, m, e, hm⟩
  · cases s <;> simp [UnpackedFloat.compare]
  · simp [UnpackedFloat.compare]
  · simp [UnpackedFloat.compare]
  · cases s <;> simp [UnpackedFloat.compare, hm]

/-! ### Arithmetic -/

/-- A finite number is added to any number. -/
theorem isNaN_add (hx : x.isNaN = false) (hy : y.isFinite = true) : (x + y).isNaN = false := by
  have hsum : (x + y).isNaN =
      (UnpackedFloat.add .binary64 x.toModel.unpack y.toModel.unpack).isNaN := isNaN_stored _
  have hx : x.toModel.unpack.isNaN = false := hx
  have hy : y.toModel.unpack.isFinite = true := hy
  rw [hsum]
  generalize x.toModel.unpack = u at *
  generalize y.toModel.unpack = v at *
  cases v with
  | notANumber => cases hy
  | infinity t => cases hy
  | zero t =>
    cases u with
    | notANumber => cases hx
    | zero s => cases s <;> cases t <;> rfl
    | _ => rfl
  | finite t n f hn =>
    cases u with
    | notANumber => cases hx
    | finite s m e hm => exact isNaN_normalize _ _ _
    | _ => rfl

/-- A number is divided by one above zero, but not an infinity by an infinity. -/
theorem isNaN_div_iff (hx : x.isNaN = false) (hy : 0.0 < y) :
    (x / y).isNaN = true ↔ x.isInf = true ∧ y.isInf = true := by
  have hquotient : (x / y).isNaN =
      (UnpackedFloat.div .binary64 x.toModel.unpack y.toModel.unpack).isNaN := isNaN_stored _
  have hx : x.toModel.unpack.isNaN = false := hx
  change _ ↔ x.toModel.unpack.isInf = true ∧ y.toModel.unpack.isInf = true
  rw [hquotient]
  generalize x.toModel.unpack = u at *
  rcases pos_iff.mp hy with hy | ⟨n, f, hn, hy⟩
  · rw [hy]
    cases u with
    | notANumber => cases hx
    | _ => simp [UnpackedFloat.div, UnpackedFloat.isNaN, UnpackedFloat.isInf]
  · rw [hy]
    cases u with
    | notANumber => cases hx
    | finite s m e hm => simp [UnpackedFloat.div, isNaN_roundWithAccuracy, UnpackedFloat.isInf]
    | _ => simp [UnpackedFloat.div, UnpackedFloat.isNaN, UnpackedFloat.isInf]

/-- A finite factor above zero makes no number of what is none, or the other way. -/
theorem isNaN_mul (hy : 0.0 < y) (hfinite : y.isFinite = true) : (x * y).isNaN = x.isNaN := by
  have hproduct : (x * y).isNaN =
      (UnpackedFloat.mul .binary64 x.toModel.unpack y.toModel.unpack).isNaN := isNaN_stored _
  have hfinite : y.toModel.unpack.isFinite = true := hfinite
  change _ = x.toModel.unpack.isNaN
  rw [hproduct]
  rcases pos_iff.mp hy with hy | ⟨n, f, hn, hy⟩
  · rw [hy] at hfinite
    cases hfinite
  · rw [hy]
    cases x.toModel.unpack with
    | finite s m e hm => exact isNaN_roundWithAccuracy _ _ _ _
    | _ => rfl

end DossierCompliance.Decimal

import DossierCompliance.Decimal.Integral
import Mathlib

/-!
Whole numbers among the binary64 numbers. A whole number of at most `2 ^ 53` is
a binary64 number, and taken as one it equals the number it came from. Such a
number has a mantissa of 53 digits, which it fills when it is doubled often
enough, so that no digit is rounded away.
-/

namespace DossierCompliance.Decimal

open Float.Model Float.Model.UnpackedFloat

/-! ### Rounding what is exact -/

theorem log2_mul_two_pow {m : Nat} (h : m ≠ 0) (k : Nat) : (m * 2 ^ k).log2 = m.log2 + k := by
  obtain ⟨hlow, hhigh⟩ := (Nat.log2_eq_iff h).mp rfl
  have hpos : 0 < 2 ^ k := Nat.two_pow_pos k
  rw [Nat.log2_eq_iff (Nat.mul_ne_zero h hpos.ne')]
  constructor
  · rw [Nat.pow_add]
    exact Nat.mul_le_mul_right _ hlow
  · rw [Nat.add_right_comm, Nat.pow_add]
    exact Nat.mul_lt_mul_of_pos_right hhigh hpos

/-- No digit is lost where zeros are shifted out. -/
theorem shiftRight_mul_two_pow (m k : Nat) :
    (⟨m * 2 ^ k, false, false⟩ : ExtendedMantissa) >>> k = ⟨m, false, false⟩ := by
  change k.repeat ExtendedMantissa.shiftRightOne _ = _
  induction k generalizing m with
  | zero => simp [Nat.repeat]
  | succ k ih =>
    rw [Nat.repeat, Nat.pow_succ', ← Nat.mul_assoc, ih]
    simp [ExtendedMantissa.shiftRightOne]

variable {m : Nat} {e : Int}

theorem shiftToTargetExponent_exact (hlog : m.log2 = 52) (hlow : -1074 ≤ e) (k : Nat) :
    shiftToTargetExponent .binary64 (m * 2 ^ k) (e - k) .exact = (⟨m, false, false⟩, e) := by
  have hpos : m ≠ 0 := by
    rintro rfl
    simp at hlog
  have htarget : Format.binary64.targetExponent (totalExponent (m * 2 ^ k) (e - k)) = e := by
    rw [totalExponent, log2_mul_two_pow hpos, hlog]
    simp [Format.targetExponent, Format.mantissaBits, Format.minExponent]
    omega
  have hshift : (e - (e - k)).toNat = k := by omega
  rw [shiftToTargetExponent, htarget, shiftToExponent, hshift,
    ExtendedMantissa.ofMantissaAndAccuracy, shiftRight_mul_two_pow]
  simp

/-- What has a mantissa of 53 digits but for zeros behind it is not rounded. -/
theorem roundWithAccuracy_exact (hlog : m.log2 = 52) (hlow : -1074 ≤ e) (hpos : 0 < m) (s : Sign)
    (k : Nat) :
    roundWithAccuracy .binary64 s (m * 2 ^ k) (e - k) .exact = .finite s m e hpos := by
  have hrest := shiftToTargetExponent_exact hlog hlow 0
  have hrounded : ExtendedMantissa.roundedMantissa ⟨m, false, false⟩ = m := rfl
  rw [pow_zero, Nat.mul_one, Nat.cast_zero, Int.sub_zero] at hrest
  rw [roundWithAccuracy, shiftToTargetExponent_exact hlog hlow]
  dsimp only
  rw [hrounded, hrest]
  exact dif_neg hpos.ne'

/-! ### Packing -/

theorem toNat_implicit_append {w : Nat} (v : BitVec w) : (1#1 ++ v).toNat = 2 ^ w + v.toNat := by
  rw [BitVec.toNat_append, ← Nat.shiftLeft_add_eq_or_of_lt v.isLt]
  simp [Nat.shiftLeft_eq]

/-- A number with a mantissa of 53 digits is unpacked as it was packed. -/
theorem unpack_pack_normal (hlog : m.log2 = 52) (hlow : -1074 ≤ e) (hhigh : e ≤ 971) (hpos : 0 < m)
    (s : Sign) : unpack .binary64 (pack .binary64 (.finite s m e hpos)) = .finite s m e hpos := by
  obtain ⟨hmlow, hmhigh⟩ := (Nat.log2_eq_iff hpos.ne').mp hlog
  obtain ⟨biased, hbiased⟩ : ∃ b : Nat, (b : Int) = e + 1075 := ⟨(e + 1075).toNat, by omega⟩
  have hfield : (e + Format.binary64.exponentBias +
      Format.binary64.mantissaBitsWithoutImplicit).toNat = biased := by
    simp [Format.exponentBias]
    omega
  have hexponent : (BitVec.ofNat 11 biased).toNat = biased := by
    rw [BitVec.toNat_ofNat, Nat.mod_eq_of_lt (by omega)]
  have hmantissa : (1#1 ++ BitVec.ofNat 52 m).toNat = m := by
    rw [toNat_implicit_append, BitVec.toNat_ofNat]
    omega
  have hmax : BitVec.ofNat 11 biased ≠ -1#11 := by
    intro h
    have hbits := hexponent ▸ congrArg BitVec.toNat h
    simp at hbits
    omega
  have hmin : BitVec.ofNat 11 biased ≠ 0#11 := by
    intro h
    have hbits := hexponent ▸ congrArg BitVec.toNat h
    simp at hbits
    omega
  have hpacked : pack .binary64 (.finite s m e hpos) =
      packComponents .binary64 s (BitVec.ofNat 11 biased) (BitVec.ofNat 52 m) := by
    rw [UnpackedFloat.pack]
    dsimp only
    rw [hfield, hlog, if_neg (by omega), if_pos (by decide)]
  rw [hpacked, UnpackedFloat.unpack]
  simp only [unpackMantissa_packComponents, unpackExponent_packComponents,
    unpackSign_packComponents, Sign.ofBitVec_toBitVec, if_neg hmax, if_neg hmin, hmantissa,
    hexponent]
  congr 1
  simp [Format.exponentBias]
  omega

/-- The bits of a number in their format. -/
def packed (x : Float) : BitVec Format.binary64.numBits :=
  x.toBits.toBitVec

/-- The bits of a number are those of what they unpack to. -/
theorem toBits_eq_pack {x : Float} {u : UnpackedFloat} (h : unpack .binary64 (packed x) = u) :
    x.toBits = (Float.Model.pack u).toBits := by
  subst h
  exact congrArg UInt64.ofBitVec (pack_unpack_of_valid x.toModel.valid).symm

theorem beq_self_of_isFinite {x : Float} (h : x.isFinite = true) : (x == x) = true := by
  rw [Float.beq_self_iff]
  rintro rfl
  exact absurd h (by decide)

/-! ### Whole numbers as binary64 numbers -/

/-- A number that fills the mantissa when it is doubled is taken as it is. -/
theorem toModel_ofNat {n k : Nat} (hlog : (n * 2 ^ k).log2 = 52) (hpos : 0 < n * 2 ^ k) :
    (Float.ofNat n).toModel = .pack (.finite .positive (n * 2 ^ k) (-k) hpos) := by
  have hn : 0 < n := Nat.pos_of_mul_pos_right hpos
  have hdigits : n.log2 + k = 52 := (log2_mul_two_pow hn.ne' k).symm.trans hlog
  have hsmall : n < 2 ^ 53 := (Nat.log2_lt hn.ne').mp (by omega)
  have hround : UnpackedFloat.round .binary64 .positive n 0 =
      .finite .positive (n * 2 ^ k) (-k) hpos := by
    have htarget : Format.binary64.targetExponent (totalExponent n 0) = -k := by
      simp [Format.targetExponent, totalExponent, Format.mantissaBits, Format.minExponent]
      omega
    have hshift : (0 - -(k : Int)).toNat = k := by omega
    have hexact := roundWithAccuracy_exact hlog (e := -k) (by omega) hpos .positive 0
    rw [UnpackedFloat.round, htarget, decreaseExponent, hshift, Nat.shiftLeft_eq]
    simpa using hexact
  have hsource : n.toUInt64.toFloat.toModel =
      .pack (.finite .positive (n * 2 ^ k) (-k) hpos) := by
    have hbits : n.toUInt64.toNat = n := by
      simp
      omega
    change Float.Model.pack (UnpackedFloat.ofUInt64 .binary64 n.toUInt64) = _
    rw [UnpackedFloat.ofUInt64, hbits, UnpackedFloat.ofNat, UnpackedFloat.ofInt,
      UnpackedFloat.normalize, Int.compare_eq_gt.mpr (by omega)]
    dsimp only
    rw [Int.toNat_natCast, hround]
  -- Its decimal exponent is zero, so the number is multiplied by one.
  have hone : (Float.ofBits 0x3FF0000000000000).toModel.unpack =
      .finite .positive (2 ^ 52) (-52) (by decide) := rfl
  have hfactors : Float.ofNat n = n.toUInt64.toFloat * Float.ofBits 0x3FF0000000000000 := by
    rw [Float.ofNat]
    change Float.ofScientific n false 0 = _
    rw [Float.ofScientific, dif_pos ⟨hsmall, by omega⟩]
    rfl
  have hunpacked : Float.Model.unpack (.pack (.finite .positive (n * 2 ^ k) (-k) hpos)) =
      .finite .positive (n * 2 ^ k) (-k) hpos :=
    unpack_pack_normal hlog (by omega) (by omega) hpos .positive
  rw [hfactors]
  change Float.Model.pack (UnpackedFloat.mul .binary64 n.toUInt64.toFloat.toModel.unpack
    (Float.ofBits 0x3FF0000000000000).toModel.unpack) = _
  rw [hsource, hone, hunpacked, UnpackedFloat.mul]
  exact congrArg _ (roundWithAccuracy_exact hlog (by omega) hpos .positive 52)

theorem toModel_ofNat_largest :
    (Float.ofNat (2 ^ 53)).toModel = .pack (.finite .positive (2 ^ 52) 1 (by decide)) := by
  decide

/-- A multiple of a mantissa that does not exceed `2 ^ 53` is that number itself. -/
theorem multiple_eq_largest {k : Nat} (hm : 2 ^ 52 ≤ m) (hpos : 0 < e) (hk : k ≤ 2 ^ 53)
    (hvalue : m * 2 ^ e.toNat = k) : m = 2 ^ 52 ∧ e = 1 ∧ k = 2 ^ 53 := by
  obtain ⟨j, hj⟩ : ∃ j, e.toNat = j + 1 := ⟨e.toNat - 1, by omega⟩
  rw [hj, Nat.pow_succ, ← Nat.mul_assoc] at hvalue
  have hscaled : m ≤ m * 2 ^ j := Nat.le_mul_of_pos_right m (Nat.two_pow_pos j)
  have hnone : j = 0 := by
    by_contra hj
    have htwo : 2 ^ 1 ≤ 2 ^ j := Nat.pow_le_pow_right (by omega) (by omega)
    have hdouble : m * 2 ≤ m * 2 ^ j := Nat.mul_le_mul_left m htwo
    omega
  subst hnone
  omega

/-- A whole number up to `2 ^ 53` is taken as it is. -/
theorem toModel_ofNat_of_value {k : Nat} (hlog : m.log2 = 52) (hpos : 0 < m) (hk : k ≤ 2 ^ 53)
    (hvalue : m * 2 ^ e.toNat = k * 2 ^ (-e).toNat) :
    (Float.ofNat k).toModel = .pack (.finite .positive m e hpos) := by
  rcases le_or_gt e 0 with hleft | hright
  · obtain ⟨j, rfl⟩ : ∃ j : Nat, e = -j := ⟨(-e).toNat, by omega⟩
    obtain rfl : m = k * 2 ^ j := by simpa using hvalue
    exact toModel_ofNat hlog hpos
  · have hnone : (-e).toNat = 0 := by omega
    rw [hnone, Nat.pow_zero, Nat.mul_one] at hvalue
    have hm := (Nat.log2_eq_iff hpos.ne').mp hlog
    obtain ⟨rfl, rfl, rfl⟩ := multiple_eq_largest hm.1 hright hk hvalue
    exact toModel_ofNat_largest

theorem toModel_ofInt {n : Nat} (hlog : m.log2 = 52) (hlow : -1074 ≤ e) (hhigh : e ≤ 971)
    (hpos : 0 < m) (hn : (Float.ofNat n).toModel = .pack (.finite .positive m e hpos)) (s : Sign) :
    (Float.ofInt (s.apply n)).toModel = .pack (.finite s m e hpos) := by
  cases s with
  | positive => exact hn
  | negative =>
    have hunpacked : (Float.ofNat n).toModel.unpack = .finite .positive m e hpos := by
      rw [hn]
      exact unpack_pack_normal hlog hlow hhigh hpos .positive
    cases n with
    | zero => cases hunpacked
    | succ n =>
      change Float.Model.pack (Float.ofNat (n + 1)).toModel.unpack.neg = _
      rw [hunpacked]
      rfl

/-! ### Binary64 numbers as whole numbers -/

section Parts

variable (x : Float)

theorem toNat_unpackExponent : (unpackExponent (packed x)).toNat =
    x.toBits.toNat / Nat.pow 2 52 % Nat.pow 2 11 := by
  rw [unpackExponent_def, BitVec.extractLsb'_toNat, Nat.shiftRight_eq_div_pow, packed,
    UInt64.toNat_toBitVec]
  rfl

theorem toNat_unpackMantissa : (unpackMantissa (packed x)).toNat =
    x.toBits.toNat % Nat.pow 2 52 := by
  rw [unpackMantissa_def, BitVec.extractLsb'_toNat, Nat.shiftRight_zero, packed,
    UInt64.toNat_toBitVec]
  rfl

/-- The sign that is unpacked, as a factor. -/
theorem apply_unpackSign (n : Nat) : (Sign.ofBitVec (unpackSign (packed x))).apply n =
    (if x.toBits.toNat / Nat.pow 2 63 == 1 then -1 else 1) * n := by
  have hbits : x.toBits.toNat < 2 ^ 64 := x.toBits.toBitVec.isLt
  have hsign : (unpackSign (packed x)).toNat = x.toBits.toNat / Nat.pow 2 63 := by
    rw [unpackSign_def, BitVec.extractLsb'_toNat, Nat.shiftRight_eq_div_pow, packed,
      UInt64.toNat_toBitVec]
    norm_num
    omega
  rw [← hsign]
  obtain hzero | hone : unpackSign (packed x) = 0#1 ∨ unpackSign (packed x) = 1#1 := by
    generalize unpackSign (packed x) = v
    revert v
    decide
  · simp [hzero, Sign.ofBitVec, Sign.apply]
  · simp [hone, Sign.ofBitVec, Sign.apply]

end Parts

section Unpacking

variable {b : BitVec Format.binary64.numBits}

theorem unpack_zero (hexponent : (unpackExponent b).toNat = 0)
    (hmantissa : (unpackMantissa b).toNat = 0) :
    unpack .binary64 b = .zero (Sign.ofBitVec (unpackSign b)) := by
  have hmin : unpackExponent b = 0#11 := BitVec.eq_of_toNat_eq hexponent
  have hnone : unpackMantissa b = 0#52 := BitVec.eq_of_toNat_eq hmantissa
  have hmax : unpackExponent b ≠ -1#11 := by
    rw [hmin]
    decide
  rw [UnpackedFloat.unpack]
  dsimp only
  rw [if_neg hmax, if_pos hmin, dif_pos hnone]

theorem unpack_normal (hmin : 0 < (unpackExponent b).toNat)
    (hmax : (unpackExponent b).toNat < 2047) :
    ∃ hpos : 0 < 2 ^ 52 + (unpackMantissa b).toNat, unpack .binary64 b =
      .finite (Sign.ofBitVec (unpackSign b)) (2 ^ 52 + (unpackMantissa b).toNat)
        ((unpackExponent b).toNat - 1075) hpos := by
  have hnotMax : unpackExponent b ≠ -1#11 := by
    intro h
    rw [h] at hmax
    exact absurd hmax (by decide)
  have hnotMin : unpackExponent b ≠ 0#11 := by
    intro h
    rw [h] at hmin
    exact absurd hmin (by decide)
  refine ⟨by omega, ?_⟩
  rw [UnpackedFloat.unpack]
  dsimp only
  rw [if_neg hnotMax, if_neg hnotMin]
  congr 1
  exact toNat_implicit_append (unpackMantissa b)

end Unpacking

/-- A whole number is a multiple or a quotient of its mantissa by a power of two. -/
theorem parts_of_whole? {x : Float} {n : Int} (h : whole? x = some n) :
    let exponent := (unpackExponent (packed x)).toNat
    let fraction := (unpackMantissa (packed x)).toNat
    let mantissa := if exponent = 0 then fraction else 2 ^ 52 + fraction
    let shift := max exponent 1
    exponent ≠ 2047 ∧ ∃ k : Nat, n = (Sign.ofBitVec (unpackSign (packed x))).apply k ∧
      mantissa * 2 ^ (shift - 1075) = k * 2 ^ (1075 - shift) := by
  intro exponent fraction mantissa shift
  have hparts : (if exponent == 2047 then none
      else if 1075 ≤ shift then some ((Sign.ofBitVec (unpackSign (packed x))).apply
        (mantissa * Nat.pow 2 (shift - 1075) : Nat))
      else if mantissa % Nat.pow 2 (1075 - shift) == 0 then
        some ((Sign.ofBitVec (unpackSign (packed x))).apply
          (mantissa / Nat.pow 2 (1075 - shift) : Nat))
      else none) = some n := by
    simp only [exponent, fraction, mantissa, shift, apply_unpackSign, toNat_unpackExponent,
      toNat_unpackMantissa, ← h, whole?, beq_iff_eq]
    rfl
  split_ifs at hparts with hmax hlarge hwhole
  · refine ⟨by simpa using hmax, _, (Option.some.inj hparts).symm, ?_⟩
    have hnone : 1075 - shift = 0 := by omega
    rw [hnone, Nat.pow_zero, Nat.mul_one]
    rfl
  · refine ⟨by simpa using hmax, _, (Option.some.inj hparts).symm, ?_⟩
    have hnone : shift - 1075 = 0 := by omega
    rw [hnone, Nat.pow_zero, Nat.mul_one]
    exact (Nat.div_mul_cancel (Nat.dvd_of_mod_eq_zero (by simpa using hwhole))).symm

/-- A whole number is zero, or its mantissa has 53 digits: one that has fewer is
too small to be whole. -/
theorem unpack_of_whole? {x : Float} {n : Int} (h : whole? x = some n) :
    (∃ s, unpack .binary64 (packed x) = .zero s ∧ n = 0) ∨
      ∃ (s : Sign) (m : Nat) (e : Int) (k : Nat) (hpos : 0 < m),
        unpack .binary64 (packed x) = .finite s m e hpos ∧ m.log2 = 52 ∧
          -1074 ≤ e ∧ e ≤ 971 ∧ n = s.apply k ∧ m * 2 ^ e.toNat = k * 2 ^ (-e).toNat := by
  obtain ⟨hmax, k, hn, hvalue⟩ := parts_of_whole? h
  have hexponent : (unpackExponent (packed x)).toNat < 2 ^ 11 := (unpackExponent (packed x)).isLt
  have hfraction : (unpackMantissa (packed x)).toNat < 2 ^ 52 := (unpackMantissa (packed x)).isLt
  rcases Nat.eq_zero_or_pos (unpackExponent (packed x)).toNat with hzero | hpos
  · have hk : k = 0 := by
      rw [hzero, if_pos rfl, Nat.sub_eq_zero_of_le (by omega), Nat.pow_zero, Nat.mul_one] at hvalue
      by_contra hk
      have hlarge : 2 ^ 52 ≤ k * 2 ^ (1075 - max 0 1) :=
        (Nat.pow_le_pow_right (by omega) (by omega)).trans
          (Nat.le_mul_of_pos_left _ (Nat.pos_of_ne_zero hk))
      omega
    subst hk
    have hnone : (unpackMantissa (packed x)).toNat = 0 := by
      rw [hzero, if_pos rfl, Nat.zero_mul] at hvalue
      simpa using hvalue
    refine .inl ⟨_, unpack_zero hzero hnone, ?_⟩
    rw [hn, apply_unpackSign]
    simp
  · obtain ⟨hmantissa, hunpack⟩ := unpack_normal hpos (by omega)
    rw [if_neg hpos.ne', max_eq_left hpos] at hvalue
    generalize (unpackExponent (packed x)).toNat = exponent at *
    refine .inr ⟨_, _, _, k, hmantissa, hunpack, ?_, by omega, by omega, hn, ?_⟩
    · rw [Nat.log2_eq_iff hmantissa.ne']
      omega
    · have hright : ((exponent : Int) - 1075).toNat = exponent - 1075 := by omega
      have hleft : (-((exponent : Int) - 1075)).toNat = 1075 - exponent := by omega
      rw [hright, hleft]
      exact hvalue

theorem isFinite_of_whole? {x : Float} {n : Int} (h : whole? x = some n) : x.isFinite = true := by
  change UnpackedFloat.isFinite (unpack .binary64 (packed x)) = true
  rcases unpack_of_whole? h with ⟨s, hunpack, -⟩ | ⟨s, m, e, k, hpos, hunpack, -⟩
  · rw [hunpack]
    rfl
  · rw [hunpack]
    rfl

/-- A whole number up to `2 ^ 53` equals the binary64 number that it is of. -/
theorem ofInt_beq {x : Float} {n : Int} (h : whole? x = some n) (hn : n.natAbs ≤ 2 ^ 53) :
    (Float.ofInt n == x) = true := by
  rcases unpack_of_whole? h with ⟨s, hunpack, rfl⟩ |
    ⟨s, m, e, k, hpos, hunpack, hlog, hlow, hhigh, rfl, hvalue⟩
  · change (UnpackedFloat.beq (Float.ofInt 0).toModel.unpack (unpack .binary64 (packed x))) = true
    rw [hunpack]
    cases s <;> decide
  · have hk : k ≤ 2 ^ 53 := by
      cases s <;> simpa [Sign.apply] using hn
    have hsource := toModel_ofNat_of_value hlog hpos hk hvalue
    have hbits : (Float.ofInt (s.apply k)).toBits = x.toBits :=
      (congrArg Float.Model.toBits (toModel_ofInt hlog hlow hhigh hpos hsource s)).trans
        (toBits_eq_pack hunpack).symm
    have hfinite : x.isFinite = true := by
      change UnpackedFloat.isFinite (unpack .binary64 (packed x)) = true
      rw [hunpack]
      rfl
    rw [Float.toBits_inj.mp hbits]
    exact beq_self_of_isFinite hfinite

end DossierCompliance.Decimal

import DossierCompliance.Proofs.Decimal.Exceptional
import DossierCompliance.Proofs.Decimal.Whole

/-!
Sums of binary64 numbers that are not too large. Amounts are counted in units of
the least number above zero, `2 ^ -1074`. A sum is rounded to a multiple of some
power of two, and so does not exceed any bound that is such a multiple and that
the exact sum does not exceed; adding many numbers below a power of two, the
bound grows by this power with each.
-/

namespace DossierCompliance.Decimal

open Float.Model Float.Model.UnpackedFloat

/-- The amount is at most so many units, and the mantissa has all of its digits
unless the exponent is the least one. -/
def Within (bound : Nat) : UnpackedFloat → Prop
  | .zero _ => True
  | .finite _ m e _ => ∃ t : Nat, e = t - 1074 ∧ (t = 0 ∨ 2 ^ 52 ≤ m) ∧ m * 2 ^ t ≤ bound
  | _ => False

theorem Within.mono {u : UnpackedFloat} {a b : Nat} (h : Within a u) (hab : a ≤ b) :
    Within b u := by
  cases u with
  | finite s m e hm =>
    obtain ⟨t, he, hdigits, hbound⟩ := h
    exact ⟨t, he, hdigits, hbound.trans hab⟩
  | _ => exact h

/-! ### Rounding a mantissa -/

theorem mantissa_shiftRight (em : ExtendedMantissa) (k : Nat) :
    (em >>> k).mantissa = em.mantissa / 2 ^ k := by
  change (k.repeat ExtendedMantissa.shiftRightOne em).mantissa = _
  induction k with
  | zero => simp [Nat.repeat]
  | succ k ih =>
    rw [Nat.repeat, ExtendedMantissa.shiftRightOne, ih, Nat.div_div_eq_div_mul, Nat.pow_succ]

theorem roundedMantissa_between (em : ExtendedMantissa) :
    em.mantissa ≤ em.roundedMantissa ∧ em.roundedMantissa ≤ em.mantissa + 1 := by
  obtain ⟨m, round, sticky⟩ := em
  cases round <;> cases sticky <;>
    simp [ExtendedMantissa.roundedMantissa, ExtendedMantissa.accuracy,
      Accuracy.roundToNearestEven]
  omega

/-- What is dropped is rounded up to the next mantissa at most, and not at all
where nothing is dropped. -/
theorem roundedMantissa_shiftRight_le {m k c : Nat} (h : m ≤ c * 2 ^ k) :
    ((⟨m, false, false⟩ : ExtendedMantissa) >>> k).roundedMantissa ≤ c := by
  have hpower : 0 < 2 ^ k := Nat.two_pow_pos k
  by_cases hdrop : 2 ^ k ∣ m
  · obtain ⟨n, rfl⟩ := hdrop
    rw [Nat.mul_comm, shiftRight_mul_two_pow]
    rw [Nat.mul_comm] at h
    exact Nat.le_of_mul_le_mul_right h hpower
  · have hrounded := (roundedMantissa_between ((⟨m, false, false⟩ : ExtendedMantissa) >>> k)).2
    rw [mantissa_shiftRight] at hrounded
    have hbelow : m / 2 ^ k < c := by
      rw [Nat.div_lt_iff_lt_mul hpower]
      refine lt_of_le_of_ne h ?_
      rintro rfl
      exact hdrop (Nat.dvd_mul_left _ _)
    exact hrounded.trans hbelow

/-! ### Rounding a number -/

theorem targetExponent_totalExponent (m : Nat) (e : Int) :
    Format.binary64.targetExponent (totalExponent m e) = max (m.log2 + e - 52) (-1074) := by
  simp [Format.targetExponent, totalExponent, Format.mantissaBits, Format.minExponent]
  omega

variable {m t : Nat}

/-- What has the exponent that it is to have is not rounded. -/
theorem roundWithAccuracy_fixed {e : Int} (he : max (m.log2 + e - 52) (-1074) = e) (hpos : 0 < m)
    (s : Sign) : roundWithAccuracy .binary64 s m e .exact = .finite s m e hpos := by
  have hshift : shiftToTargetExponent .binary64 m e .exact = (⟨m, false, false⟩, e) := by
    rw [shiftToTargetExponent, targetExponent_totalExponent, he, shiftToExponent, Int.sub_self]
    exact congrArg _ (Int.add_zero e)
  have hrounded : ExtendedMantissa.roundedMantissa ⟨m, false, false⟩ = m := rfl
  rw [roundWithAccuracy, hshift]
  dsimp only
  rw [hrounded, hshift]
  exact dif_neg hpos.ne'

/-- A rounded mantissa that has become a power of two has its last digit taken away. -/
theorem exists_shiftToTargetExponent {q : Nat} (hlow : 2 ^ 52 ≤ m) (hhigh : m ≤ 2 ^ 53) :
    ∃ m' q' : Nat, shiftToTargetExponent .binary64 m (q - 1074) .exact =
        (⟨m', false, false⟩, (q' : Int) - 1074) ∧
      2 ^ 52 ≤ m' ∧ m' * 2 ^ q' = m * 2 ^ q := by
  rcases hhigh.eq_or_lt with rfl | hhigh
  · have hshift := shiftToTargetExponent_exact (m := 2 ^ 52) (e := ((q + 1 : Nat) : Int) - 1074)
      (Nat.log2_two_pow) (by omega) 1
    have hexponent : ((q + 1 : Nat) : Int) - 1074 - (1 : Nat) = q - 1074 := by omega
    rw [hexponent] at hshift
    refine ⟨2 ^ 52, q + 1, hshift, le_rfl, ?_⟩
    rw [← Nat.pow_add, ← Nat.pow_add]
    congr 1
    omega
  · have hlog : m.log2 = 52 := (Nat.log2_eq_iff (by omega)).mpr ⟨hlow, hhigh⟩
    have hshift := shiftToTargetExponent_exact (e := (q : Int) - 1074) hlog (by omega) 0
    rw [Nat.pow_zero, Nat.mul_one, Nat.cast_zero, Int.sub_zero] at hshift
    exact ⟨m, q, hshift, hlow, rfl⟩

/-- Of a mantissa of more than 53 digits the ones behind the first 53 are dropped. -/
theorem shiftToTargetExponent_long {q : Nat} (hlog : m.log2 + t = 52 + q) (hq : t ≤ q) :
    shiftToTargetExponent .binary64 m (t - 1074) .exact =
      ((⟨m, false, false⟩ : ExtendedMantissa) >>> (q - t), (q : Int) - 1074) := by
  have hshift : (max (m.log2 + (t - 1074 : Int) - 52) (-1074) - (t - 1074)).toNat = q - t := by
    omega
  rw [shiftToTargetExponent, targetExponent_totalExponent, shiftToExponent, hshift]
  refine congrArg _ ?_
  omega

theorem leading_digits {k : Nat} (hm : m ≠ 0) (hlog : m.log2 = 52 + k) :
    2 ^ 52 ≤ m / 2 ^ k ∧ m / 2 ^ k < 2 ^ 53 := by
  have hpower : 0 < 2 ^ k := Nat.two_pow_pos k
  obtain ⟨hlow, hhigh⟩ := (Nat.log2_eq_iff hm).mp hlog
  rw [Nat.le_div_iff_mul_le hpower, Nat.div_lt_iff_lt_mul hpower, ← Nat.pow_add, ← Nat.pow_add]
  exact ⟨hlow, hhigh.trans_eq (congrArg _ (by omega))⟩

/-- A mantissa of more than 53 digits is rounded to the first 53. -/
theorem within_roundWithAccuracy {q c : Nat} (hlog : m.log2 + t = 52 + q) (hq : t ≤ q)
    (hm : m ≠ 0) (hbound : m ≤ c * 2 ^ (q - t)) (s : Sign) :
    Within (c * 2 ^ q) (roundWithAccuracy .binary64 s m (t - 1074) .exact) := by
  have hrounded := roundedMantissa_shiftRight_le hbound
  obtain ⟨hlow, hhigh⟩ := leading_digits (k := q - t) hm (by omega)
  obtain ⟨hleast, hmost⟩ :=
    roundedMantissa_between ((⟨m, false, false⟩ : ExtendedMantissa) >>> (q - t))
  rw [mantissa_shiftRight] at hleast hmost
  -- The rounded mantissa may have one digit too many, and is then shifted once more.
  obtain ⟨m', q', hsecond, hm', hvalue⟩ :=
    exists_shiftToTargetExponent (q := q) (hlow.trans hleast) (hmost.trans hhigh)
  have hpos : 0 < m' := by omega
  have hresult : roundWithAccuracy .binary64 s m (t - 1074) .exact =
      .finite s m' (q' - 1074) hpos := by
    rw [roundWithAccuracy, shiftToTargetExponent_long hlog hq]
    dsimp only
    rw [hsecond]
    exact dif_neg hpos.ne'
  rw [hresult]
  exact ⟨q', rfl, .inr hm', hvalue.trans_le (Nat.mul_le_mul_right _ hrounded)⟩

section Bounded

-- A bound of 53 digits with zeros behind them.
variable {bound K : Nat} (hmultiple : 2 ^ K ∣ bound) (hlarge : bound < 2 ^ (53 + K))

include hmultiple hlarge

/-- A number is not rounded above a bound that is a number of 53 digits itself. -/
theorem within_round (hm : m ≠ 0) (hbound : m * 2 ^ t ≤ bound) (s : Sign) :
    Within bound (round .binary64 s m (t - 1074)) := by
  have hlog : m.log2 + t < 53 + K := by
    rw [← log2_mul_two_pow hm, Nat.log2_lt (Nat.mul_ne_zero hm (Nat.two_pow_pos t).ne')]
    exact hbound.trans_lt hlarge
  -- The exponent that the number is to have, counted from the least one.
  obtain ⟨q, hq⟩ : ∃ q, q = m.log2 + t - 52 := ⟨_, rfl⟩
  have htarget : max (m.log2 + (t - 1074 : Int) - 52) (-1074) = (q : Int) - 1074 := by omega
  have hshift : ((t : Int) - 1074 - (q - 1074)).toNat = t - q := by omega
  rw [UnpackedFloat.round, targetExponent_totalExponent, htarget, decreaseExponent, hshift,
    Nat.shiftLeft_eq]
  dsimp only
  rcases Nat.lt_or_ge t q with htq | hqt
  · have hexponent : (t : Int) - 1074 - (t - q : Nat) = t - 1074 := by omega
    obtain ⟨c, hc⟩ : 2 ^ q ∣ bound := (Nat.pow_dvd_pow 2 (by omega)).trans hmultiple
    have hmantissa : m ≤ c * 2 ^ (q - t) := by
      refine Nat.le_of_mul_le_mul_right ?_ (Nat.two_pow_pos t)
      rwa [Nat.mul_assoc, ← Nat.pow_add, Nat.sub_add_cancel htq.le, Nat.mul_comm c, ← hc]
    rw [hexponent, Nat.sub_eq_zero_of_le htq.le, Nat.pow_zero, Nat.mul_one, hc, Nat.mul_comm _ c]
    exact within_roundWithAccuracy (by omega) htq.le hm hmantissa s
  · have hexponent : (t : Int) - 1074 - (t - q : Nat) = q - 1074 := by omega
    have hpos : 0 < m * 2 ^ (t - q) := Nat.mul_pos (Nat.pos_of_ne_zero hm) (Nat.two_pow_pos _)
    have hdigits : (m * 2 ^ (t - q)).log2 = m.log2 + (t - q) := log2_mul_two_pow hm _
    have hvalue : m * 2 ^ (t - q) * 2 ^ q = m * 2 ^ t := by
      rw [Nat.mul_assoc, ← Nat.pow_add, Nat.sub_add_cancel hqt]
    rw [hexponent, roundWithAccuracy_fixed (by omega) hpos]
    refine ⟨q, rfl, ?_, hvalue.trans_le hbound⟩
    rcases Nat.eq_zero_or_pos q with hzero | hq'
    · exact .inl hzero
    · exact .inr ((Nat.le_log2 hpos.ne').mp (by omega))

theorem within_normalize {n : Int} (hbound : n.natAbs * 2 ^ t ≤ bound) (s : Sign) :
    Within bound (normalize .binary64 n (t - 1074) s) := by
  rw [UnpackedFloat.normalize]
  split
  · next hneg =>
    have hn := Int.compare_eq_lt.mp hneg
    have habs : (-n).toNat = n.natAbs := by omega
    rw [habs]
    exact within_round hmultiple hlarge (by omega) hbound _
  · trivial
  · next hpos =>
    have hn := Int.compare_eq_gt.mp hpos
    have habs : n.toNat = n.natAbs := by omega
    rw [habs]
    exact within_round hmultiple hlarge (by omega) hbound _

/-- A sum is not rounded above such a bound if the exact one is not above it. -/
theorem within_add {a b : Nat} (hbound : a + b ≤ bound) {u v : UnpackedFloat} (hu : Within a u)
    (hv : Within b v) : Within bound (UnpackedFloat.add .binary64 u v) := by
  cases u with
  | notANumber => cases hu
  | infinity => cases hu
  | zero s =>
    cases v with
    | zero t => cases s <;> cases t <;> trivial
    | _ => exact hv.mono (by omega)
  | finite s m e hm =>
    cases v with
    | notANumber => cases hv
    | infinity => cases hv
    | zero t => exact hu.mono (by omega)
    | finite s' m' e' hm' =>
      obtain ⟨t, rfl, -, hu⟩ := hu
      obtain ⟨t', rfl, -, hv⟩ := hv
      -- Both are brought to the smaller exponent, where nothing is rounded yet.
      obtain ⟨t₀, ht₀⟩ : ∃ t₀, t₀ = min t t' := ⟨_, rfl⟩
      have hmin : min ((t : Int) - 1074) (t' - 1074) = t₀ - 1074 := by omega
      have hshift : ((t : Int) - 1074 - (t₀ - 1074)).toNat = t - t₀ := by omega
      have hshift' : ((t' : Int) - 1074 - (t₀ - 1074)).toNat = t' - t₀ := by omega
      rw [UnpackedFloat.add, hmin, decreaseExponent, decreaseExponent, hshift, hshift',
        Nat.shiftLeft_eq, Nat.shiftLeft_eq]
      refine within_normalize hmultiple hlarge ?_ .positive
      have happly (s : Sign) (n : Nat) : (s.apply n).natAbs = n := by
        cases s <;> simp [Sign.apply]
      have habs := Int.natAbs_add_le (s.apply (m * 2 ^ (t - t₀) : Nat))
        (s'.apply (m' * 2 ^ (t' - t₀) : Nat))
      rw [happly, happly] at habs
      have hvalue {n r : Nat} (hr : t₀ ≤ r) : n * 2 ^ (r - t₀) * 2 ^ t₀ = n * 2 ^ r := by
        rw [Nat.mul_assoc, ← Nat.pow_add, Nat.sub_add_cancel hr]
      calc _ ≤ (m * 2 ^ (t - t₀) + m' * 2 ^ (t' - t₀)) * 2 ^ t₀ := Nat.mul_le_mul_right _ habs
        _ = m * 2 ^ t + m' * 2 ^ t' := by
          rw [Nat.add_mul, hvalue (by omega), hvalue (by omega)]
        _ ≤ bound := by omega

end Bounded

/-- A mantissa that is stored with the least exponent is read as so many units. -/
theorem within_unpack_least (s : Sign) (f : BitVec 52) :
    Within f.toNat (unpack .binary64 (packComponents .binary64 s 0#11 f)) := by
  rw [UnpackedFloat.unpack]
  simp only [unpackMantissa_packComponents, unpackExponent_packComponents,
    unpackSign_packComponents, Sign.ofBitVec_toBitVec]
  rw [if_neg (by decide), if_pos trivial]
  split
  · trivial
  · exact ⟨0, rfl, .inl rfl, by rw [Nat.pow_zero, Nat.mul_one]⟩

/-- What is below the greatest numbers is stored as a number, within the same bound. -/
theorem within_stored {bound K : Nat} (hlarge : bound < 2 ^ (53 + K)) (hK : K ≤ 2045)
    {u : UnpackedFloat} (h : Within bound u) : Within bound (Float.Model.pack u).unpack := by
  change Within bound (unpack .binary64 (pack .binary64 u))
  cases u with
  | notANumber => cases h
  | infinity => cases h
  | zero s => cases s <;> trivial
  | finite s m e hpos =>
    obtain ⟨t, rfl, hdigits, hbound⟩ := h
    have ht : t ≤ 2045 := by
      rcases hdigits with rfl | hdigits
      · exact Nat.zero_le _
      · have hpower : 2 ^ (52 + t) < 2 ^ (53 + K) := by
          rw [Nat.pow_add]
          exact ((Nat.mul_le_mul_right _ hdigits).trans hbound).trans_lt hlarge
        have hexponent := (Nat.pow_lt_pow_iff_right (by decide)).mp hpower
        omega
    by_cases hlog : m.log2 = 52
    · rw [unpack_pack_normal hlog (by omega) (by omega)]
      exact ⟨t, rfl, hdigits, hbound⟩
    · have hfield : ((t : Int) - 1074 + Format.binary64.exponentBias +
          Format.binary64.mantissaBitsWithoutImplicit).toNat = t + 1 := by
        simp [Format.exponentBias]
        omega
      have hpacked : pack .binary64 (.finite s m (t - 1074) hpos) =
          packComponents .binary64 s 0#11 (BitVec.ofNat 52 m) := by
        rw [UnpackedFloat.pack]
        dsimp only
        rw [hfield, if_neg (by omega), if_neg]
        exact fun hdigits => hlog (Nat.succ.inj hdigits)
      have hfew : (BitVec.ofNat 52 m).toNat ≤ m := by
        rw [BitVec.toNat_ofNat]
        exact Nat.mod_le _ _
      rw [hpacked]
      exact (within_unpack_least s _).mono
        (hfew.trans ((Nat.le_mul_of_pos_right m (Nat.two_pow_pos t)).trans hbound))

/-! ### Adding up -/

/-- With each number that is added, the bound grows by as much as bounds that number. -/
theorem within_foldl {K : Nat} (hK : K ≤ 2045) {hours : List Float} {x : Float} {n : Nat}
    (hx : Within (n * 2 ^ K) x.toModel.unpack) (h : ∀ y ∈ hours, Within (2 ^ K) y.toModel.unpack)
    (hcount : n + hours.length < 2 ^ 53) :
    Within ((n + hours.length) * 2 ^ K) (hours.foldl (· + ·) x).toModel.unpack := by
  induction hours generalizing x n with
  | nil => exact hx
  | cons y hours ih =>
    rw [List.length_cons] at hcount ⊢
    have hpower : 0 < 2 ^ K := Nat.two_pow_pos K
    have hlarge : (n + 1) * 2 ^ K < 2 ^ (53 + K) := by
      rw [Nat.pow_add]
      exact Nat.mul_lt_mul_of_pos_right (by omega) hpower
    have hsum : Within ((n + 1) * 2 ^ K) (x + y).toModel.unpack :=
      within_stored hlarge hK (within_add (Nat.dvd_mul_left _ _) hlarge
        (Nat.succ_mul n _).ge hx (h y List.mem_cons_self))
    rw [List.foldl_cons, ← Nat.add_assoc, Nat.add_right_comm]
    exact ih hsum (fun z hz => h z (List.mem_cons_of_mem _ hz)) (by omega)

theorem isFinite_of_within {bound : Nat} {x : Float} (h : Within bound x.toModel.unpack) :
    x.isFinite = true := by
  change x.toModel.unpack.isFinite = true
  generalize x.toModel.unpack = u at h
  cases u with
  | notANumber => cases h
  | infinity => cases h
  | _ => rfl

/-! ### Numbers within a bound -/

/-- The mantissa that is unpacked has 53 digits, unless the exponent is the least one. -/
theorem digits_of_unpack {b : BitVec Format.binary64.numBits} {s : Sign} {m : Nat} {e : Int}
    {hm : 0 < m} (h : unpack .binary64 b = .finite s m e hm) :
    m < 2 ^ 53 ∧ ∃ t : Nat, e = t - 1074 ∧ (t = 0 ∨ 2 ^ 52 ≤ m) := by
  have hmantissa : (unpackMantissa b).toNat < 2 ^ 52 := (unpackMantissa b).isLt
  rw [UnpackedFloat.unpack] at h
  dsimp only at h
  split_ifs at h with hmax hinf hmin hzero
  · cases h
    refine ⟨by omega, 0, ?_, .inl rfl⟩
    rw [hmin]
    rfl
  · cases h
    have hexponent : (unpackExponent b).toNat ≠ 0 :=
      fun hnone => hmin (BitVec.eq_of_toNat_eq hnone)
    have himplicit : (1#1 ++ unpackMantissa b).toNat = 2 ^ 52 + (unpackMantissa b).toNat :=
      toNat_implicit_append _
    rw [himplicit]
    refine ⟨by omega, (unpackExponent b).toNat - 1, ?_, .inr (by omega)⟩
    simp [Format.exponentBias]
    omega

theorem mul_two_pow_le {k : Nat} (hm : m < 2 ^ 53) (ht : t ≤ k) : m * 2 ^ t ≤ 2 ^ (53 + k) := by
  rw [Nat.pow_add]
  exact Nat.mul_le_mul hm.le (Nat.pow_le_pow_right (by decide) ht)

theorem within_of_between {x : Float} (hlow : -1e292 ≤ x) (hhigh : x ≤ 1e292) :
    Within (2 ^ (53 + 1992)) x.toModel.unpack := by
  have hbits : (1e292 : Float) = Float.ofBits 0x7C9008896BCF54FA := by decide +kernel
  obtain ⟨m₀, hm₀, hgreatest, hleast⟩ : ∃ m hm,
      (1e292 : Float).toModel.unpack = .finite .positive m 918 hm ∧
        (-1e292 : Float).toModel.unpack = .finite .negative m 918 hm := by
    rw [hbits]
    exact ⟨_, _, rfl, rfl⟩
  rw [le_iff_compare, hleast] at hlow
  rw [le_iff_compare, hgreatest] at hhigh
  cases hx : x.toModel.unpack with
  | notANumber =>
    rw [hx] at hhigh
    cases hhigh
  | infinity s =>
    rw [hx] at hlow hhigh
    cases s with
    | negative => cases hlow
    | positive => cases hhigh
  | zero s => trivial
  | finite s m e hm =>
    rw [hx] at hlow hhigh
    -- What is not above the bound has no greater exponent.
    have hexponent : e ≤ 918 := by
      by_contra habove
      cases s with
      | negative =>
        rw [UnpackedFloat.compare, Int.compare_eq_lt.mpr (by omega)] at hlow
        cases hlow
      | positive =>
        rw [UnpackedFloat.compare, Int.compare_eq_gt.mpr (by omega)] at hhigh
        cases hhigh
    obtain ⟨hsmall, t, rfl, hdigits⟩ := digits_of_unpack hx
    exact ⟨t, rfl, hdigits, mul_two_pow_le hsmall (by omega)⟩

end DossierCompliance.Decimal

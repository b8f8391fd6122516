import FrameGrabber.Proofs.Numbers
import FrameGrabber.Span

/-!
# Seconds as floating-point numbers

The seconds of a span are a sum, and one of its terms a quotient; the conversions, the
quotient and the sum are each rounded. What is rounded away is never everything: a
number of all the bits that a mantissa has stays one when it is rounded, and the
naturals, their quotient by a thousand million and the sum are such numbers. So the
seconds of a span are zero only if the span is empty, and whoever divides by them after
looking at the span need not look at the seconds.
-/

namespace FrameGrabber

open Float.Model (Format UnpackedFloat totalExponent)
open Float.Model.UnpackedFloat

/-- The numbers with a whole mantissa and at least this exponent; and what is beyond all
numbers. -/
inductive IsNormal (least : Int) : UnpackedFloat → Prop
  | infinity : IsNormal least (.infinity .positive)
  | finite {m : Nat} {e : Int} (hlow : 2 ^ 52 ≤ m) (hhigh : m < 2 ^ 53) (he : least ≤ e)
      (hpos : 0 < m) : IsNormal least (.finite .positive m e hpos)

theorem IsNormal.mono {least least' : Int} {u : UnpackedFloat} (h : IsNormal least u)
    (hle : least' ≤ least) : IsNormal least' u := by
  cases h with
  | infinity => exact .infinity
  | finite hlow hhigh he hpos => exact .finite hlow hhigh (Int.le_trans hle he) hpos

theorem IsNormal.isAbove {least : Int} {u : UnpackedFloat} (h : IsNormal least u) :
    IsAbove u := by
  cases h with
  | infinity => exact .infinity
  | finite hlow hhigh he hpos => exact .finite _ _ hpos

theorem log2_mantissa {m : Nat} (hlow : 2 ^ 52 ≤ m) (hhigh : m < 2 ^ 53) : m.log2 = 52 :=
  (Nat.log2_eq_iff (by omega)).2 ⟨hlow, hhigh⟩

/-! ## Rounding -/

theorem targetExponent_eq {t : Int} (h : -1074 ≤ t - 53) :
    Format.binary64.targetExponent t = t - 53 := by
  have hmin : Format.binary64.minExponent = -1074 := by decide
  have hbits : Format.binary64.mantissaBits = 53 := by decide
  rw [Format.targetExponent, hmin, hbits]
  omega

theorem mantissa_shiftRight (x : ExtendedMantissa) (k : Nat) :
    (x >>> k).mantissa = x.mantissa / 2 ^ k := by
  induction k with
  | zero => exact (Nat.div_one _).symm
  | succ k ih =>
      show (x >>> k).mantissa / 2 = _
      rw [ih, Nat.div_div_eq_div_mul, Nat.pow_succ]

theorem mantissa_ofAccuracy (m : Nat) (a : Accuracy) :
    (ExtendedMantissa.ofMantissaAndAccuracy m a).mantissa = m := by
  rcases a with _ | order
  · rfl
  · cases order <;> rfl

/-- Rounding takes nothing from a mantissa and adds at most one. -/
theorem roundedMantissa_bounds (x : ExtendedMantissa) :
    x.mantissa ≤ x.roundedMantissa ∧ x.roundedMantissa ≤ x.mantissa + 1 := by
  rcases x with ⟨m, round, sticky⟩
  cases round <;> cases sticky <;>
    simp [ExtendedMantissa.roundedMantissa, ExtendedMantissa.accuracy,
      Accuracy.roundToNearestEven]
  omega

/-- As many bits of a mantissa as a number has room for. -/
theorem leadingBits {m : Nat} (hbits : 52 ≤ m.log2) :
    2 ^ 52 ≤ m / 2 ^ (m.log2 - 52) ∧ m / 2 ^ (m.log2 - 52) < 2 ^ 53 := by
  have hm : m ≠ 0 := by
    rintro rfl
    simp at hbits
  have hlow : 2 ^ 52 * 2 ^ (m.log2 - 52) ≤ m := by
    rw [← Nat.pow_add, Nat.add_sub_cancel' hbits]
    exact Nat.log2_self_le hm
  have hhigh : m < 2 ^ 53 * 2 ^ (m.log2 - 52) := by
    rw [← Nat.pow_add, show 53 + (m.log2 - 52) = m.log2 + 1 by omega]
    exact Nat.lt_log2_self
  exact ⟨(Nat.le_div_iff_mul_le (Nat.two_pow_pos _)).2 hlow,
    (Nat.div_lt_iff_lt_mul (Nat.two_pow_pos _)).2 hhigh⟩

/-- A mantissa with enough bits is shifted until it has as many as there is room for. -/
theorem shiftToTargetExponent_eq {m : Nat} {e : Int} (hbits : 52 ≤ m.log2)
    (hleast : -1074 ≤ m.log2 + e - 52) (a : Accuracy) :
    (shiftToTargetExponent .binary64 m e a).1.mantissa = m / 2 ^ (m.log2 - 52) ∧
      (shiftToTargetExponent .binary64 m e a).2 = m.log2 + e - 52 := by
  have htarget : Format.binary64.targetExponent (totalExponent m e) = m.log2 + e - 52 := by
    rw [targetExponent_eq (by rw [totalExponent]; omega), totalExponent]
    omega
  have hshift : (m.log2 + e - 52 - e).toNat = m.log2 - 52 := by omega
  rw [shiftToTargetExponent, htarget, shiftToExponent]
  simp only [hshift, mantissa_shiftRight, mantissa_ofAccuracy, true_and]
  omega

/-- Rounding happens once. A second shift makes room if it gave the mantissa a bit more. -/
theorem roundWithAccuracy_isNormal {m : Nat} {e : Int} (hbits : 52 ≤ m.log2)
    (hleast : -1074 ≤ m.log2 + e - 52) (a : Accuracy) :
    IsNormal (m.log2 + e - 52) (roundWithAccuracy .binary64 .positive m e a) := by
  obtain ⟨hfirst, hexponent⟩ := shiftToTargetExponent_eq hbits hleast a
  obtain ⟨hlow, -⟩ := leadingBits hbits
  rcases hshifted : shiftToTargetExponent .binary64 m e a with ⟨x, e₁⟩
  simp only [hshifted] at hfirst hexponent
  rw [← hfirst] at hlow
  obtain ⟨hrounded, -⟩ := roundedMantissa_bounds x
  have hrest : 52 ≤ x.roundedMantissa.log2 := by
    rw [Nat.le_log2 (by omega)]
    omega
  have hleast₁ : -1074 ≤ x.roundedMantissa.log2 + e₁ - 52 := by omega
  obtain ⟨hsecond, hexponent₁⟩ := shiftToTargetExponent_eq hrest hleast₁ .exact
  obtain ⟨hlow₁, hhigh₁⟩ := leadingBits hrest
  rw [← hsecond] at hlow₁ hhigh₁
  rw [roundWithAccuracy, hshifted]
  dsimp only
  rw [dif_neg (by omega)]
  exact .finite hlow₁ hhigh₁ (by omega) _

theorem log2_shiftLeft {m : Nat} (hm : 0 < m) (k : Nat) : (m <<< k).log2 = m.log2 + k := by
  have hpos : 0 < m * 2 ^ k := Nat.mul_pos hm (Nat.two_pow_pos k)
  rw [Nat.shiftLeft_eq, Nat.log2_eq_iff (Nat.ne_of_gt hpos), Nat.pow_add,
    Nat.add_right_comm, Nat.pow_add]
  exact ⟨Nat.mul_le_mul_right _ (Nat.log2_self_le (Nat.ne_of_gt hm)),
    Nat.mul_lt_mul_of_pos_right Nat.lt_log2_self (Nat.two_pow_pos k)⟩

theorem round_isNormal {m : Nat} {e : Int} (hm : 0 < m) (hleast : -1074 ≤ m.log2 + e - 52) :
    IsNormal (m.log2 + e - 52) (UnpackedFloat.round .binary64 .positive m e) := by
  have htarget : Format.binary64.targetExponent (totalExponent m e) = m.log2 + e - 52 := by
    rw [targetExponent_eq (by rw [totalExponent]; omega), totalExponent]
    omega
  simp only [UnpackedFloat.round, htarget, decreaseExponent]
  generalize hshift : (e - (m.log2 + e - 52)).toNat = shift
  have hlog : (m <<< shift).log2 = m.log2 + shift := log2_shiftLeft hm shift
  have hsum : ((m <<< shift).log2 : Int) + (e - shift) - 52 = m.log2 + e - 52 := by omega
  have hrounded : IsNormal ((m <<< shift).log2 + (e - shift) - 52)
      (roundWithAccuracy .binary64 .positive (m <<< shift) (e - shift) .exact) :=
    roundWithAccuracy_isNormal (by omega) (by omega) .exact
  rwa [hsum] at hrounded

/-! ## Bits -/

theorem mantissa_bounds (w : BitVec 52) :
    2 ^ 52 ≤ (1#1 ++ w).toNat ∧ (1#1 ++ w).toNat < 2 ^ 53 := by
  refine ⟨?_, (1#1 ++ w).isLt⟩
  rw [BitVec.toNat_append]
  exact Nat.left_le_or

/-- The sign that is packed is the sign that is found. -/
theorem sign_packComponents (sign : Sign) (exponent : BitVec 11) (mantissa : BitVec 52) :
    Sign.ofBitVec (unpackSign (packComponents .binary64 sign exponent mantissa)) = sign := by
  show Sign.ofBitVec ((sign.toBitVec ++ exponent ++ mantissa).extractLsb' 63 1) = sign
  rw [BitVec.extractLsb'_append_eq_of_le (by decide),
    BitVec.extractLsb'_append_eq_of_le (by decide)]
  cases sign <;> rfl

theorem unpack_isNormal {b : BitVec Format.binary64.numBits}
    (hsign : Sign.ofBitVec (unpackSign b) = .positive) (hlow : 0 < (unpackExponent b).toNat)
    (hhigh : (unpackExponent b).toNat < 2047) :
    IsNormal ((unpackExponent b).toNat - 1075) (unpack .binary64 b) := by
  have hmost : unpackExponent b ≠ -1#11 := by
    intro h
    rw [h] at hhigh
    exact absurd hhigh (by decide)
  have hzero : unpackExponent b ≠ 0#11 := by
    intro h
    rw [h] at hlow
    exact absurd hlow (by decide)
  obtain ⟨hlow', hhigh'⟩ := mantissa_bounds (unpackMantissa b)
  have hunpack : unpack .binary64 b = .finite (Sign.ofBitVec (unpackSign b))
      (1#1 ++ unpackMantissa b).toNat ((unpackExponent b).toNat - 1075)
      (Nat.lt_of_lt_of_le (Nat.two_pow_pos 52) hlow') := (if_neg hmost).trans (if_neg hzero)
  rw [hunpack, hsign]
  exact .finite hlow' hhigh' (Int.le_refl _) _

theorem unpack_packComponents_isNormal {v : BitVec 11} (hlow : 0 < v.toNat)
    (hhigh : v.toNat < 2047) (w : BitVec 52) :
    IsNormal (v.toNat - 1075) (unpack .binary64 (packComponents .binary64 .positive v w)) := by
  have hv : unpackExponent (packComponents .binary64 .positive v w) = v :=
    unpackExponent_packComponents
  have h := unpack_isNormal (sign_packComponents .positive v w) (by rwa [hv]) (by rwa [hv])
  rwa [hv] at h

/-- What is too large for its exponent to be written is packed as infinity. -/
theorem unpack_pack_isNormal {least : Int} {u : UnpackedFloat} (h : IsNormal least u)
    (hleast : -1074 ≤ least) : IsNormal least (unpack .binary64 (pack .binary64 u)) := by
  cases h with
  | infinity => exact .infinity
  | @finite m e hlow hhigh he hpos =>
      have hbits : m.log2 + 1 = Format.binary64.mantissaBits :=
        congrArg (· + 1) (log2_mantissa hlow hhigh)
      by_cases hroom : 2 ^ 11 ≤ (e + 1023 + 52).toNat + 1
      · have hpack : pack .binary64 (.finite .positive m e hpos) =
            packedInfinity .binary64 .positive := if_pos hroom
        rw [hpack]
        exact .infinity
      · have hpack : pack .binary64 (.finite .positive m e hpos) =
            packComponents .binary64 .positive (BitVec.ofNat 11 (e + 1023 + 52).toNat)
              (BitVec.ofNat 52 m) := (if_neg hroom).trans (if_pos hbits)
        have htoNat : (BitVec.ofNat 11 (e + 1023 + 52).toNat).toNat = (e + 1023 + 52).toNat := by
          rw [BitVec.toNat_ofNat]
          omega
        have hnormal := unpack_packComponents_isNormal
          (v := BitVec.ofNat 11 (e + 1023 + 52).toNat) (by omega) (by omega) (BitVec.ofNat 52 m)
        rw [hpack]
        exact hnormal.mono (by omega)

/-! ## Operations -/

theorem mul_isNormal {least least' : Int} {u v : UnpackedFloat} (hu : IsNormal least u)
    (hv : IsNormal least' v) (hleast : -1074 ≤ least + least' + 52) :
    IsNormal (least + least' + 52) (mul .binary64 u v) := by
  cases hu with
  | infinity => cases hv <;> exact .infinity
  | @finite m e hlow hhigh he hpos =>
    cases hv with
    | infinity => exact .infinity
    | @finite m' e' hlow' hhigh' he' hpos' =>
        have hproduct : 2 ^ 52 * 2 ^ 52 ≤ m * m' := Nat.mul_le_mul hlow hlow'
        have hlog : 104 ≤ (m * m').log2 := (Nat.le_log2 (by omega)).2 (by omega)
        exact (roundWithAccuracy_isNormal (by omega) (by omega) .exact).mono (by omega)

theorem div_isNormal {least : Int} {u : UnpackedFloat} {m' : Nat} {e' : Int}
    (hu : IsNormal least u) (hlow' : 2 ^ 52 ≤ m') (hhigh' : m' < 2 ^ 53) (hpos' : 0 < m')
    (hleast : -1074 ≤ least - e' - 53) :
    IsNormal (least - e' - 53) (div .binary64 u (.finite .positive m' e' hpos')) := by
  cases hu with
  | infinity => exact .infinity
  | @finite m e hlow hhigh he hpos =>
      have htarget : min (e - e')
          (Format.binary64.targetExponent (totalExponent m e - totalExponent m' e')) =
            e - e' - 53 := by
        rw [totalExponent, totalExponent, log2_mantissa hlow hhigh, log2_mantissa hlow' hhigh',
          targetExponent_eq (by omega)]
        omega
      have hshift : (e - e' - (e - e' - 53)).toNat = 53 := by omega
      have hquotient : 2 ^ 52 ≤ (m <<< 53) / m' := by
        rw [Nat.le_div_iff_mul_le hpos', Nat.shiftLeft_eq]
        calc 2 ^ 52 * m' ≤ 2 ^ 52 * 2 ^ 53 := Nat.mul_le_mul_left _ (Nat.le_of_lt hhigh')
          _ ≤ m * 2 ^ 53 := Nat.mul_le_mul_right _ hlow
      have hbits : 52 ≤ ((m <<< 53) / m').log2 := (Nat.le_log2 (by omega)).2 hquotient
      have hcore : divCore .binary64 m e m' e' =
          ((m <<< 53) / m', e - e' - 53, accuracyOfFraction ((m <<< 53) % m') m') := by
        rw [divCore, htarget, hshift]
      have hdiv : div .binary64 (.finite .positive m e hpos) (.finite .positive m' e' hpos') =
          roundWithAccuracy .binary64 .positive (divCore .binary64 m e m' e').1
            (divCore .binary64 m e m' e').2.1 (divCore .binary64 m e m' e').2.2 := rfl
      rw [hdiv, hcore]
      dsimp only
      exact (roundWithAccuracy_isNormal hbits (by omega) _).mono (by omega)

theorem normalize_isNormal {m : Nat} {e : Int} (hm : 0 < m)
    (hleast : -1074 ≤ m.log2 + e - 52) :
    IsNormal (m.log2 + e - 52) (UnpackedFloat.normalize .binary64 m e .positive) := by
  have hcompare : compare (m : Int) 0 = .gt := by
    rw [Int.compare_eq_gt]
    omega
  rw [UnpackedFloat.normalize, hcompare]
  exact round_isNormal hm hleast

theorem add_isNormal {least : Int} {u v : UnpackedFloat} (hu : IsNormal least u)
    (hv : IsNormal least v) (hleast : -1074 ≤ least) :
    IsNormal least (add .binary64 u v) := by
  cases hu with
  | infinity => cases hv <;> exact .infinity
  | @finite m e hlow hhigh he hpos =>
    cases hv with
    | infinity => exact .infinity
    | @finite m' e' hlow' hhigh' he' hpos' =>
        show IsNormal least (UnpackedFloat.normalize .binary64
          ((m <<< (e - min e e').toNat : Nat) + (m' <<< (e' - min e e').toNat : Nat) : Int)
          (min e e') .positive)
        rw [← Int.natCast_add]
        -- Both terms are brought to the smaller exponent, so neither loses a bit.
        have hshifted : m ≤ m <<< (e - min e e').toNat := by
          rw [Nat.shiftLeft_eq]
          exact Nat.le_mul_of_pos_right m (Nat.two_pow_pos _)
        have hsum : 2 ^ 52 ≤ m <<< (e - min e e').toNat + m' <<< (e' - min e e').toNat :=
          Nat.le_add_right_of_le (Nat.le_trans hlow hshifted)
        generalize m <<< (e - min e e').toNat + m' <<< (e' - min e e').toNat = sum at hsum
        have hbits : 52 ≤ sum.log2 := (Nat.le_log2 (by omega)).2 hsum
        exact (normalize_isNormal (by omega) (by omega)).mono (by omega)

theorem zero_add_isNormal {least : Int} {v : UnpackedFloat} (hv : IsNormal least v) :
    add .binary64 (.zero .positive) v = v := by
  cases hv <;> rfl

theorem add_zero_isNormal {least : Int} {u : UnpackedFloat} (hu : IsNormal least u) :
    add .binary64 u (.zero .positive) = u := by
  cases hu <;> rfl

/-! ## Spans -/

theorem div_toModel (x y : Float) : (x / y).toModel.unpack =
    unpack .binary64 (pack .binary64 (div .binary64 x.toModel.unpack y.toModel.unpack)) := by
  rfl

theorem add_toModel (x y : Float) : (x + y).toModel.unpack =
    unpack .binary64 (pack .binary64 (add .binary64 x.toModel.unpack y.toModel.unpack)) := by
  rfl

theorem one_isNormal : IsNormal (-52) (Float.ofBits 0x3FF0000000000000).toModel.unpack := by
  have hone : (Float.ofBits 0x3FF0000000000000).toModel.unpack =
      .finite .positive (2 ^ 52) (-52) (by decide) := by rfl
  rw [hone]
  exact .finite (by decide) (by decide) (by decide) _

/-! A natural of 53 bits is a word first and is multiplied by one; a larger one is
shifted to the left and multiplied by the first power of ten. -/

theorem toUInt64_toFloat_isNormal {n : Nat} (hn : 0 < n) (hlt : n < 2 ^ 53) :
    IsNormal (-52) n.toUInt64.toFloat.toModel.unpack := by
  show IsNormal (-52) (unpack .binary64 (pack .binary64
    (UnpackedFloat.normalize .binary64 n.toUInt64.toNat 0 .positive)))
  have htoNat : n.toUInt64.toNat = n := Nat.mod_eq_of_lt (by omega)
  rw [htoNat]
  exact unpack_pack_isNormal ((normalize_isNormal hn (by omega)).mono (by omega)) (by omega)

theorem ofScientific_isNormal {n : Nat} (hbits : 53 ≤ n.log2) :
    IsNormal (-52) (ofScientific .binary64 n 0) := by
  have hn : n ≠ 0 := by
    rintro rfl
    simp at hbits
  have hlog : (n <<< 53 * 1).log2 = n.log2 + 53 := by
    rw [Nat.mul_one]
    exact log2_shiftLeft (Nat.pos_of_ne_zero hn) 53
  have hpower : (0 : Int) < 2 ^ Format.binary64.exponentBits := by decide
  rw [ofScientific, dif_neg hn, if_neg (by decide), if_neg (by omega), if_pos (Int.le_refl 0)]
  have hrounded : IsNormal ((n <<< 53 * 1).log2 + (-53 + 0) - 52)
      (roundWithAccuracy .binary64 .positive (n <<< 53 * 1) (-53 + 0) .exact) :=
    roundWithAccuracy_isNormal (by omega) (by omega) .exact
  exact hrounded.mono (by omega)

theorem toFloat_isNormal {n : Nat} (hn : 0 < n) :
    IsNormal (-52) n.toFloat.toModel.unpack := by
  show IsNormal (-52) (Float.ofScientific n false 0).toModel.unpack
  by_cases hsmall : n < 2 ^ 53
  · rw [Float.ofScientific, dif_pos ⟨hsmall, by decide⟩]
    have hproduct : IsNormal (-52 + -52 + 52) _ :=
      mul_isNormal (toUInt64_toFloat_isNormal hn hsmall) one_isNormal (by decide)
    exact unpack_pack_isNormal hproduct (by decide)
  · rw [Float.ofScientific, dif_neg (by omega)]
    have hbits : 53 ≤ n.log2 := (Nat.le_log2 (by omega)).2 (by omega)
    exact unpack_pack_isNormal (ofScientific_isNormal hbits) (by decide)

theorem toFloat_zero : (0 : Nat).toFloat.toModel.unpack = .zero .positive := by
  rfl

theorem nanos_unpack : (1000000000.0 : Float).toModel.unpack =
    .finite .positive (1000000000 * 2 ^ 23) (-23) (by decide) := by
  rfl

theorem fraction_isNormal {n : Nat} (hn : 0 < n) :
    IsNormal (-82) (n.toFloat / 1000000000.0).toModel.unpack := by
  rw [div_toModel, nanos_unpack]
  refine unpack_pack_isNormal ?_ (by decide)
  refine (div_isNormal (toFloat_isNormal hn) ?_ ?_ _ ?_).mono ?_ <;> decide

theorem fraction_zero : ((0 : Nat).toFloat / 1000000000.0).toModel.unpack = .zero .positive := by
  rfl

theorem seconds_isNormal {s : Span} (hs : 0 < s) :
    IsNormal (-82) s.seconds.toModel.unpack := by
  rw [Span.seconds, add_toModel]
  refine unpack_pack_isNormal ?_ (by decide)
  rcases Nat.eq_zero_or_pos (s / Span.second) with hwhole | hwhole
  · have hpart : 0 < s % Span.second := by
      rw [Nat.mod_eq_of_lt ((Nat.div_eq_zero_iff_lt (by decide)).1 hwhole)]
      exact hs
    rw [hwhole, toFloat_zero, zero_add_isNormal (fraction_isNormal hpart)]
    exact fraction_isNormal hpart
  · have hwhole' := (toFloat_isNormal hwhole).mono (show (-82 : Int) ≤ -52 by decide)
    rcases Nat.eq_zero_or_pos (s % Span.second) with hpart | hpart
    · rw [hpart, fraction_zero, add_zero_isNormal hwhole']
      exact hwhole'
    · exact add_isNormal hwhole' (fraction_isNormal hpart) (by decide)

/-- There are seconds to divide by exactly if there is time. -/
theorem zero_lt_seconds (s : Span) : 0.0 < s.seconds ↔ 0 < s := by
  rw [zero_lt_iff]
  constructor
  · intro h
    rcases Nat.eq_zero_or_pos s with rfl | hs
    · have hzero : (Span.seconds 0).toModel.unpack = .zero .positive := by rfl
      rw [hzero] at h
      nomatch h
    · exact hs
  · exact fun hs => (seconds_isNormal hs).isAbove

end FrameGrabber

import FrameGrabber.Session.Settings
import Mathlib.Data.Nat.Prime.Pow

/-!
# The numbers of an image

A side of an image is an unsigned 32-bit number, is handed to a camera as a
signed 64-bit one, and comes back as it was. A rate is a floating-point number
with an upper limit, and where any rate is below the limit, the limit is itself
a rate. A payload is a product of two sides and the bytes of a pixel; it is
computed in 64 bits, may come around, and yet is never zero.
-/

namespace FrameGrabber

/-! ## Sides as 64-bit integers -/

theorem toInt_ofSide (n : UInt32) : n.toUInt64.toInt64.toInt = n.toNat := by
  have hlt : n.toNat < 2 ^ 32 := n.toNat_lt
  show BitVec.toInt n.toUInt64.toBitVec = _
  rw [BitVec.toInt_eq_toNat_of_lt]
  · rfl
  · show 2 * n.toUInt64.toNat < _
    rw [UInt32.toNat_toUInt64]
    omega

theorem side_of_toInt {m : Int64} (h : 0 ≤ m.toInt) (h' : m.toInt < 2 ^ 32) :
    (m.toUInt64.toUInt32.toNat : Int) = m.toInt := by
  have hnat : m.toUInt64.toNat = m.toInt.toNat := by
    rw [Int64.toNat_toUInt64_of_le (Int64.le_iff_toInt_le.2 h)]
    rfl
  rw [UInt64.toNat_toUInt32, hnat]
  omega

theorem side_ofSide (n : UInt32) : n.toUInt64.toInt64.toUInt64.toUInt32 = n := by
  rw [UInt64.toUInt64_toInt64]
  exact UInt32.toUInt32_toUInt64 n

/-- A side that was read as a feature is read back as the side that it was. -/
theorem size32?_ofSide (n : UInt32) : size32? n.toUInt64.toInt64 = some n := by
  have hlt : n.toNat < 2 ^ 32 := n.toNat_lt
  have hsize : (UInt32.size : Int) = 2 ^ 32 := by rfl
  unfold size32?
  rw [toInt_ofSide, if_pos]
  · simp
  · simp only [Bool.and_eq_true, decide_eq_true_eq]
    omega

/-! ## The limit of the rate -/

open Float.Model in
theorem lt_iff_compare (a b : Float) :
    a < b ↔ a.toModel.unpack.compare b.toModel.unpack = some .lt := by
  show a.lt b = true ↔ _
  rw [Float.lt, decide_eq_true_eq]
  show UnpackedFloat.lt _ _ = true ↔ _
  rw [UnpackedFloat.lt, beq_iff_eq]

open Float.Model in
theorem le_iff_compare (a b : Float) :
    a ≤ b ↔ ∃ order, a.toModel.unpack.compare b.toModel.unpack = some order ∧
      order.isLE := by
  show a.le b = true ↔ _
  rw [Float.le, decide_eq_true_eq]
  show UnpackedFloat.le _ _ = true ↔ _
  rw [UnpackedFloat.le, Option.any_eq_true]

/-- The numbers that zero is below. -/
inductive IsAbove : Float.Model.UnpackedFloat → Prop
  | infinity : IsAbove (.infinity .positive)
  | finite (mantissa : Nat) (exponent : Int) (h : 0 < mantissa) :
      IsAbove (.finite .positive mantissa exponent h)

theorem zero_lt_iff (x : Float) : 0.0 < x ↔ IsAbove x.toModel.unpack := by
  have hzero : (0.0 : Float).toModel.unpack = .zero .positive := by rfl
  rw [lt_iff_compare, hzero]
  generalize x.toModel.unpack = u
  constructor
  · intro h
    match u, h with
    | .infinity .positive, _ => exact .infinity
    | .finite .positive m e hm, _ => exact .finite m e hm
  · rintro (_ | ⟨m, e, hm⟩) <;> rfl

theorem IsAbove.mono {u v : Float.Model.UnpackedFloat} {order : Ordering}
    (hu : IsAbove u) (h : u.compare v = some order) (hle : order.isLE) : IsAbove v := by
  match v, h with
  | .infinity .positive, _ => exact .infinity
  | .finite .positive m e hm, _ => exact .finite m e hm
  | .notANumber, h => cases hu <;> cases h
  | .infinity .negative, h => cases hu <;> cases h <;> exact absurd hle (by decide)
  | .zero _, h => cases hu <;> cases h <;> exact absurd hle (by decide)
  | .finite .negative .., h => cases hu <;> cases h <;> exact absurd hle (by decide)

/-- A positive number is a number: it is at most itself. -/
theorem le_self_of_pos {x : Float} (hx : 0.0 < x) : x ≤ x := by
  have habove : IsAbove x.toModel.unpack := (zero_lt_iff x).1 hx
  refine (le_iff_compare x x).2 ⟨.eq, ?_, rfl⟩
  generalize x.toModel.unpack = u at habove
  rcases habove with _ | ⟨mantissa, exponent, h⟩
  · rfl
  · have hexponent : compare exponent exponent = .eq := Std.ReflCmp.compare_self
    have hmantissa : compare mantissa mantissa = .eq := Std.ReflCmp.compare_self
    show some ((compare exponent exponent).then (compare mantissa mantissa)) = _
    rw [hexponent, hmantissa]
    rfl

/-- Above a positive number there are only positive numbers, which are numbers:
each is at most itself. -/
theorem pos_of_pos_of_le {x m : Float} (hx : 0.0 < x) (hm : x ≤ m) :
    0.0 < m ∧ m ≤ m := by
  obtain ⟨order, hcompare, hle⟩ := (le_iff_compare x m).1 hm
  have hpos : 0.0 < m := (zero_lt_iff m).2 (((zero_lt_iff x).1 hx).mono hcompare hle)
  exact ⟨hpos, le_self_of_pos hpos⟩

/-! ## The product of two sides -/

theorem product_ne_of_sides {w h : Nat} (hw : w < 2 ^ 32) (hh : h < 2 ^ 32) :
    w * h ≠ 2 ^ 63 := by
  intro heq
  obtain ⟨a, ha, rfl⟩ := (Nat.dvd_prime_pow Nat.prime_two).1 ⟨h, heq.symm⟩
  obtain ⟨b, hb, rfl⟩ := (Nat.dvd_prime_pow Nat.prime_two).1 ⟨2 ^ a, by rw [← heq, mul_comm]⟩
  have ha' : a < 32 := (Nat.pow_lt_pow_iff_right (by omega)).1 hw
  have hb' : b < 32 := (Nat.pow_lt_pow_iff_right (by omega)).1 hh
  rw [← pow_add] at heq
  have hsum : a + b = 63 := Nat.pow_right_injective (by omega) heq
  omega

/-- No format takes enough bytes to a pixel for the 64-bit product to come around
to zero. -/
theorem not_dvd_payload {pixels bytes : Nat} (hpos : 0 < pixels)
    (hlt : pixels < 2 ^ 64) (hne : pixels ≠ 2 ^ 63)
    (hbytes : bytes = 1 ∨ bytes = 2 ∨ bytes = 3) : ¬2 ^ 64 ∣ pixels * bytes := by
  intro hdvd
  have hnot : ¬2 ^ 64 ∣ pixels :=
    fun h => absurd (Nat.le_of_dvd hpos h) (Nat.not_le.2 hlt)
  rcases hbytes with rfl | rfl | rfl
  · rw [Nat.mul_one] at hdvd
    exact hnot hdvd
  · rw [Nat.pow_succ] at hdvd
    obtain ⟨k, rfl⟩ := Nat.dvd_of_mul_dvd_mul_right (by decide) hdvd
    have hk : k < 2 := by
      rw [Nat.pow_succ] at hlt
      exact Nat.lt_of_mul_lt_mul_left hlt
    rcases Nat.le_one_iff_eq_zero_or_eq_one.1 (Nat.le_of_lt_succ hk) with rfl | rfl
    · exact absurd hpos (Nat.lt_irrefl 0)
    · exact hne (Nat.mul_one _)
  · have hcoprime : Nat.Coprime (2 ^ 64) 3 := Nat.Coprime.pow_left 64 (by decide)
    exact hnot (hcoprime.dvd_of_dvd_mul_right hdvd)

end FrameGrabber

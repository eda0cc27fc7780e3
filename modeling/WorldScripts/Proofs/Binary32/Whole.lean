import Mathlib.Algebra.GroupWithZero.Nat
import Mathlib.Data.Nat.Log
import WorldScripts.Position

/-!
Whole numbers as binary32 numbers. A number of 24 binary digits or less is kept as it is, and a longer
one is rounded to one of 24 digits, to the even one of two that are as near. Rounding keeps the order,
and none of the numbers becomes infinite.
-/

namespace WorldScripts

namespace Whole

open Float.Model UnpackedFloat

/-- Drops digits of a number, to the nearest and then to even. -/
def shortened (n dropped : Nat) : Nat :=
  let short := n / 2 ^ dropped
  let rest := n % 2 ^ dropped
  if 2 * rest < 2 ^ dropped then short
  else if 2 * rest = 2 ^ dropped then short + short % 2
  else short + 1

theorem shortened_zero (n : Nat) : shortened n 0 = n := by
  simp [shortened, Nat.mod_one]

theorem shortened_bounds (n dropped : Nat) :
    n / 2 ^ dropped ≤ shortened n dropped ∧ shortened n dropped ≤ n / 2 ^ dropped + 1 := by
  unfold shortened
  dsimp only
  split
  · omega
  · split <;> omega

theorem shortened_mono {m n : Nat} (le : m ≤ n) (dropped : Nat) :
    shortened m dropped ≤ shortened n dropped := by
  have upper := (shortened_bounds m dropped).2
  have lower := (shortened_bounds n dropped).1
  rcases Nat.lt_or_eq_of_le (Nat.div_le_div_right (c := 2 ^ dropped) le) with less | same
  · omega
  · -- The same digits are kept of both, and more is dropped of the greater number.
    have rest : m % 2 ^ dropped ≤ n % 2 ^ dropped := by
      have first := Nat.div_add_mod m (2 ^ dropped)
      have second := Nat.div_add_mod n (2 ^ dropped)
      rw [← same] at second
      omega
    simp only [shortened, same]
    grind

-- What is kept of a number digit by digit: the digits above, the last one dropped, and whether there
-- was anything below that.
theorem repeat_shiftRightOne (n dropped : Nat) :
    Nat.repeat ExtendedMantissa.shiftRightOne (dropped + 1) ⟨n, false, false⟩ =
      ⟨n / 2 ^ (dropped + 1), n / 2 ^ dropped % 2 != 0, n % 2 ^ dropped != 0⟩ := by
  induction dropped with
  | zero => simp [Nat.repeat, ExtendedMantissa.shiftRightOne, Nat.mod_one]
  | succ dropped ih =>
      rw [Nat.repeat, ih]
      have above : n / 2 ^ (dropped + 1) / 2 = n / 2 ^ (dropped + 1 + 1) := by
        rw [Nat.div_div_eq_div_mul, ← Nat.pow_succ]
      have below : (n / 2 ^ dropped % 2 != 0 || n % 2 ^ dropped != 0) =
          (n % 2 ^ (dropped + 1) != 0) := by
        rw [Nat.mod_pow_succ]
        grind
      rw [ExtendedMantissa.shiftRightOne, above, below]

theorem roundedMantissa_shifted (n dropped : Nat) :
    ((ExtendedMantissa.ofMantissaAndAccuracy n .exact) >>> dropped).roundedMantissa =
      shortened n dropped := by
  show (Nat.repeat ExtendedMantissa.shiftRightOne dropped ⟨n, false, false⟩).roundedMantissa = _
  cases dropped with
  | zero => exact (shortened_zero n).symm
  | succ dropped =>
      rw [repeat_shiftRightOne]
      have rest := Nat.mod_pow_succ (x := n) (b := 2) (k := dropped)
      have small : n % 2 ^ dropped < 2 ^ dropped := Nat.mod_lt _ (Nat.two_pow_pos dropped)
      simp only [shortened, Nat.pow_succ 2 dropped] at rest ⊢
      rcases Nat.mod_two_eq_zero_or_one (n / 2 ^ dropped) with digit | digit <;>
        rcases Nat.eq_zero_or_pos (n % 2 ^ dropped) with none | some <;>
        simp [ExtendedMantissa.roundedMantissa, ExtendedMantissa.accuracy,
          Accuracy.roundToNearestEven, digit, none] <;> grind

theorem log2_shiftLeft {n : Nat} (positive : 0 < n) (added : Nat) :
    (n <<< added).log2 = n.log2 + added := by
  have least : 2 ^ n.log2 ≤ n := Nat.log2_self_le (by omega)
  have most : n < 2 ^ (n.log2 + 1) := Nat.lt_log2_self
  have scale := Nat.two_pow_pos added
  rw [Nat.shiftLeft_eq, Nat.log2_eq_iff (Nat.ne_of_gt (Nat.mul_pos positive scale))]
  constructor
  · rw [Nat.pow_add]
    exact Nat.mul_le_mul_right _ least
  · rw [Nat.add_right_comm, Nat.pow_add]
    exact Nat.mul_lt_mul_of_pos_right most scale

/-- The number with as many digits as fit, at least 24 of them. -/
def aligned (n : Nat) : Nat :=
  n <<< (23 - n.log2)

theorem log2_aligned {n : Nat} (positive : 0 < n) :
    (aligned n).log2 = 23 + (n.log2 - 23) := by
  rw [aligned, log2_shiftLeft positive]
  omega

/-- The leading 24 digits of a number. After a carry they are one more than that. -/
def digits (n : Nat) : Nat :=
  shortened (aligned n) (n.log2 - 23)

theorem digits_bounds {n : Nat} (positive : 0 < n) : 2 ^ 23 ≤ digits n ∧ digits n ≤ 2 ^ 24 := by
  have length := log2_aligned positive
  have filled : aligned n ≠ 0 := by
    intro empty
    rw [empty] at length
    simp at length
    omega
  have bounds := shortened_bounds (aligned n) (n.log2 - 23)
  have lower : 2 ^ 23 ≤ aligned n / 2 ^ (n.log2 - 23) := by
    rw [Nat.le_div_iff_mul_le (Nat.two_pow_pos _), ← Nat.pow_add, ← length]
    exact Nat.log2_self_le filled
  have upper : aligned n / 2 ^ (n.log2 - 23) < 2 ^ 24 := by
    rw [Nat.div_lt_iff_lt_mul (Nat.two_pow_pos _), ← Nat.pow_add,
      show 24 + (n.log2 - 23) = (aligned n).log2 + 1 by omega]
    exact Nat.lt_log2_self
  rw [digits]
  omega

theorem digits_of_short {n : Nat} (short : n.log2 ≤ 23) : digits n = aligned n := by
  rw [digits, Nat.sub_eq_zero_of_le short, shortened_zero]

theorem digits_lt {n : Nat} (positive : 0 < n) (short : n.log2 ≤ 23) : digits n < 2 ^ 24 := by
  have length := log2_aligned positive
  rw [← digits_of_short short] at length
  have bounds := digits_bounds positive
  exact (Nat.log2_lt (by omega)).mp (by omega)

/-- A number as a mantissa of 24 digits and an exponent. -/
def mantissa (n : Nat) : Nat :=
  if digits n < 2 ^ 24 then digits n else 2 ^ 23

def exponent (n : Nat) : Int :=
  if digits n < 2 ^ 24 then n.log2 - 23 else n.log2 - 22

theorem mantissa_bounds {n : Nat} (positive : 0 < n) :
    2 ^ 23 ≤ mantissa n ∧ mantissa n < 2 ^ 24 := by
  have bounds := digits_bounds positive
  unfold mantissa
  split <;> omega

theorem targetExponent_eq {n : Nat} {e : Int} (normal : -126 ≤ n.log2 + e) :
    Format.binary32.targetExponent (totalExponent n e) = n.log2 + e - 23 := by
  have bits : (Format.binary32.mantissaBits : Int) = 24 := rfl
  have least : Format.binary32.minExponent = -149 := rfl
  rw [Format.targetExponent, totalExponent, bits, least]
  omega

theorem shift_digits {n : Nat} (positive : 0 < n) :
    let shifted := shiftToTargetExponent .binary32 (digits n) (n.log2 - 23) .exact
    shifted.1.mantissa = mantissa n ∧ shifted.2 = exponent n := by
  have bounds := digits_bounds positive
  rw [mantissa, exponent]
  by_cases fits : digits n < 2 ^ 24
  · have length : (digits n).log2 = 23 := (Nat.log2_eq_iff (by omega)).mpr ⟨bounds.1, fits⟩
    have aim : Format.binary32.targetExponent (totalExponent (digits n) (n.log2 - 23)) =
        n.log2 - 23 := by
      rw [targetExponent_eq, length] <;> omega
    rw [shiftToTargetExponent, aim, if_pos fits, if_pos fits]
    simp [shiftToExponent, ExtendedMantissa.ofMantissaAndAccuracy, HShiftRight.hShiftRight,
      Nat.repeat]
  · -- The rounding has carried into a bit too many, and a second shift takes it away.
    have carried : digits n = 2 ^ 24 := by omega
    have length : (digits n).log2 = 24 := by rw [carried, Nat.log2_two_pow]
    have aim : Format.binary32.targetExponent (totalExponent (digits n) (n.log2 - 23)) =
        n.log2 - 22 := by
      rw [targetExponent_eq, length] <;> omega
    have once : ((n.log2 : Int) - 22 - (n.log2 - 23)).toNat = 1 := by omega
    rw [shiftToTargetExponent, aim, if_neg fits, if_neg fits, carried]
    simp only [shiftToExponent, once]
    exact ⟨rfl, by omega⟩

theorem finite_congr {sign : Sign} {m n : Nat} {e f : Int} {positive : 0 < m} {above : 0 < n}
    (mantissa : m = n) (exponent : e = f) :
    UnpackedFloat.finite sign m e positive = .finite sign n f above := by
  cases mantissa
  cases exponent
  rfl

-- A number is shifted, rounded, and shifted once more in case the rounding has carried.
theorem roundWithAccuracy_eq {sign : Sign} {m : Nat} {e : Int} {accuracy : Accuracy}
    {first second : ExtendedMantissa × Int}
    (shifted : shiftToTargetExponent .binary32 m e accuracy = first)
    (again : shiftToTargetExponent .binary32 first.1.roundedMantissa first.2 .exact = second)
    (positive : 0 < second.1.mantissa) :
    roundWithAccuracy .binary32 sign m e accuracy = .finite sign second.1.mantissa second.2 positive := by
  cases shifted
  cases again
  exact dif_neg (Nat.ne_of_gt positive)

theorem shift_aligned {n : Nat} (positive : 0 < n) :
    let shifted := shiftToTargetExponent .binary32 (aligned n) (0 - ((23 - n.log2 : Nat) : Int)) .exact
    shifted.1.roundedMantissa = digits n ∧ shifted.2 = n.log2 - 23 := by
  have aim : Format.binary32.targetExponent
      (totalExponent (aligned n) (0 - ((23 - n.log2 : Nat) : Int))) = n.log2 - 23 := by
    rw [targetExponent_eq, aligned, log2_shiftLeft positive] <;> omega
  have dropped : ((n.log2 : Int) - 23 - (0 - ((23 - n.log2 : Nat) : Int))).toNat = n.log2 - 23 := by
    omega
  have reached : 0 - ((23 - n.log2 : Nat) : Int) + ((n.log2 - 23 : Nat) : Int) = n.log2 - 23 := by
    omega
  rw [shiftToTargetExponent, aim]
  simp only [shiftToExponent, dropped, reached, roundedMantissa_shifted]
  exact ⟨rfl, trivial⟩

theorem round_eq {n : Nat} (positive : 0 < n) :
    UnpackedFloat.round .binary32 .positive n 0 = .finite .positive (mantissa n) (exponent n)
      (Nat.lt_of_lt_of_le (by decide) (mantissa_bounds positive).1) := by
  have bounds := mantissa_bounds positive
  have target : Format.binary32.targetExponent (totalExponent n 0) = n.log2 - 23 := by
    rw [targetExponent_eq (by omega)]
    omega
  -- A short number is shifted to the left and a long one to the right, so one shift is by zero.
  have shift : (0 - ((n.log2 : Int) - 23)).toNat = 23 - n.log2 := by omega
  have start : UnpackedFloat.round .binary32 .positive n 0 =
      roundWithAccuracy .binary32 .positive (aligned n) (0 - ((23 - n.log2 : Nat) : Int)) .exact := by
    show roundWithAccuracy .binary32 .positive
      (n <<< (0 - Format.binary32.targetExponent (totalExponent n 0)).toNat)
      (0 - ((0 - Format.binary32.targetExponent (totalExponent n 0)).toNat : Int)) .exact = _
    rw [target, shift, aligned]
  obtain ⟨rounded, placed⟩ := shift_aligned positive
  obtain ⟨left, right⟩ := shift_digits positive
  rw [start, roundWithAccuracy_eq rfl (by rw [rounded, placed]) (by rw [left]; omega)]
  exact finite_congr left right

theorem unpackSign_packComponents (sign : Sign) (e : BitVec 8) (m : BitVec 23) :
    Sign.ofBitVec (unpackSign (packComponents .binary32 sign e m)) = sign := by
  show Sign.ofBitVec (BitVec.extractLsb' 31 1 (sign.toBitVec ++ e ++ m)) = sign
  rw [BitVec.extractLsb'_append_eq_of_le (by omega), BitVec.extractLsb'_append_eq_of_le (by omega)]
  cases sign <;> rfl

-- The exponent is none of the two that have a meaning of their own.
theorem unpack_normal {vec : BitVec Format.binary32.numBits} {sign : Sign} {m : Nat} {e : Int}
    {positive : 0 < m} (finite : unpackExponent vec ≠ -1#8) (normal : unpackExponent vec ≠ 0#8)
    (signed : Sign.ofBitVec (unpackSign vec) = sign) (whole : (1#1 ++ unpackMantissa vec).toNat = m)
    (placed : ((unpackExponent vec).toNat : Int) - 150 = e) :
    UnpackedFloat.unpack .binary32 vec = .finite sign m e positive := by
  cases signed
  cases whole
  cases placed
  unfold UnpackedFloat.unpack
  rw [if_neg finite, if_neg normal]
  rfl

theorem unpack_pack {m : Nat} {e : Int} (positive : 0 < m) (bounds : 2 ^ 23 ≤ m ∧ m < 2 ^ 24)
    (range : -149 ≤ e ∧ e ≤ 104) :
    (Float32.Model.pack (.finite .positive m e positive)).unpack = .finite .positive m e positive := by
  have length : m.log2 + 1 = Format.binary32.mantissaBits :=
    congrArg (· + 1) ((Nat.log2_eq_iff (by omega)).mpr bounds)
  have biased : (e + Format.binary32.exponentBias +
      Format.binary32.mantissaBitsWithoutImplicit).toNat = (e + 150).toNat := by
    show (e + (127 : Nat) + (23 : Nat)).toNat = _
    omega
  have packed : UnpackedFloat.pack .binary32 (.finite .positive m e positive) =
      packComponents .binary32 .positive (.ofNat 8 (e + 150).toNat) (.ofNat 23 m) := by
    unfold UnpackedFloat.pack
    dsimp only
    rw [biased, if_neg (by omega), if_pos length]
  show UnpackedFloat.unpack .binary32 (UnpackedFloat.pack .binary32 (.finite .positive m e positive)) = _
  rw [packed]
  -- The exponent fits into its eight bits.
  have value : (BitVec.ofNat 8 (e + 150).toNat).toNat = (e + 150).toNat := by
    rw [BitVec.toNat_ofNat]
    omega
  have apart {vec : BitVec 8} (far : vec.toNat ≠ (e + 150).toNat) :
      BitVec.ofNat 8 (e + 150).toNat ≠ vec := by
    rintro rfl
    exact far value
  refine unpack_normal ?_ ?_ (unpackSign_packComponents _ _ _) ?_ ?_
  · rw [unpackExponent_packComponents]
    exact apart (show 255 ≠ _ by omega)
  · rw [unpackExponent_packComponents]
    exact apart (show 0 ≠ _ by omega)
  · rw [unpackMantissa_packComponents, BitVec.toNat_append,
      ← Nat.shiftLeft_add_eq_or_of_lt (BitVec.ofNat 23 m).isLt, BitVec.toNat_ofNat, Nat.shiftLeft_eq]
    simp
    omega
  · rw [unpackExponent_packComponents, value]
    omega

theorem exponent_bounds (n : Nat) : (n.log2 : Int) - 23 ≤ exponent n ∧ exponent n ≤ n.log2 - 22 := by
  unfold exponent
  split <;> omega

theorem log2_mono {m n : Nat} (le : m ≤ n) : m.log2 ≤ n.log2 := by
  rw [Nat.log2_eq_log_two, Nat.log2_eq_log_two]
  exact Nat.log_mono_right le

-- The greater number has the greater exponent, or else the greater mantissa.
theorem rounded_mono {m n : Nat} (positive : 0 < m) (le : m ≤ n) :
    exponent m < exponent n ∨ exponent m = exponent n ∧ mantissa m ≤ mantissa n := by
  have first := exponent_bounds m
  have second := exponent_bounds n
  have bounds := mantissa_bounds (Nat.lt_of_lt_of_le positive le)
  rcases Nat.lt_or_eq_of_le (log2_mono le) with longer | same
  · by_cases fits : digits m < 2 ^ 24
    · left
      rw [exponent, if_pos fits]
      omega
    · -- The carry makes the least number with that exponent.
      rw [mantissa, exponent, if_neg fits, if_neg fits]
      omega
  · have most := (digits_bounds (Nat.lt_of_lt_of_le positive le)).2
    have digits : digits m ≤ digits n := by
      unfold digits aligned
      rw [same]
      refine shortened_mono ?_ _
      rw [Nat.shiftLeft_eq, Nat.shiftLeft_eq]
      exact Nat.mul_le_mul_right _ le
    unfold exponent mantissa
    rw [same]
    split <;> split <;> omega

theorem rounded_strictMono {m n : Nat} (positive : 0 < m) (less : m < n) (short : m < 2 ^ 24) :
    exponent m < exponent n ∨ exponent m = exponent n ∧ mantissa m < mantissa n := by
  have length : m.log2 ≤ 23 := Nat.le_of_lt_succ ((Nat.log2_lt (by omega)).mpr short)
  have first := exponent_bounds n
  have fits := digits_lt positive length
  rcases Nat.lt_or_eq_of_le (log2_mono less.le) with longer | same
  · left
    rw [exponent, if_pos fits]
    omega
  · have fits' := digits_lt (Nat.lt_trans positive less) (same ▸ length)
    have digits : digits m < digits n := by
      rw [digits_of_short length, digits_of_short (same ▸ length), aligned, aligned, ← same,
        Nat.shiftLeft_eq, Nat.shiftLeft_eq]
      exact Nat.mul_lt_mul_of_pos_right less (Nat.two_pow_pos _)
    rw [exponent, exponent, mantissa, mantissa, if_pos fits, if_pos fits, if_pos fits', if_pos fits',
      same]
    exact .inr ⟨rfl, digits⟩

end Whole

namespace Binary32

open Float.Model UnpackedFloat Whole

theorem lt_iff_compare (x y : Float32) :
    x < y ↔ x.toModel.unpack.compare y.toModel.unpack = some .lt := by
  show decide (x.toModel.unpack.lt y.toModel.unpack = true) = true ↔ _
  rw [decide_eq_true_iff, UnpackedFloat.lt, beq_iff_eq]

theorem le_iff_compare (x y : Float32) :
    x ≤ y ↔ ∃ order, x.toModel.unpack.compare y.toModel.unpack = some order ∧ order.isLE := by
  show decide (x.toModel.unpack.le y.toModel.unpack = true) = true ↔ _
  rw [decide_eq_true_iff, UnpackedFloat.le, Option.any_eq_true]

theorem lex_swap (m n : Nat) (e f : Int) :
    ((compare e f).then (compare m n)).swap = (compare f e).then (compare n m) := by
  rw [Ordering.swap_then, Int.compare_swap, Nat.compare_swap]

theorem compare_swap (x y : UnpackedFloat) : y.compare x = (x.compare y).map .swap := by
  rcases x with (_ | _) | _ | _ | ⟨_ | _, m, e, _⟩ <;>
    rcases y with (_ | _) | _ | _ | ⟨_ | _, n, f, _⟩ <;> try rfl
  · exact congrArg (some ·.swap) (lex_swap m n e f).symm
  · exact congrArg some (lex_swap m n e f).symm

theorem not_lt_of_le {x y : Float32} (le : x ≤ y) : ¬ y < x := by
  rw [lt_iff_compare, compare_swap]
  obtain ⟨order, compared, least⟩ := (le_iff_compare x y).mp le
  rw [compared]
  cases order <;> simp at least ⊢

theorem unpack_toFloat32 {n : UInt32} (positive : 0 < n) :
    ∃ filled, n.toFloat32.toModel.unpack =
      .finite .positive (mantissa n.toNat) (exponent n.toNat) filled := by
  have positive : 0 < n.toNat := UInt32.lt_iff_toNat_lt.mp positive
  have small : n.toNat.log2 < 32 := (Nat.log2_lt (by omega)).mpr n.toNat_lt
  have bounds := exponent_bounds n.toNat
  have rounded := round_eq positive
  refine ⟨Nat.lt_of_lt_of_le (by decide) (mantissa_bounds positive).1, ?_⟩
  have normal : ofUInt32 .binary32 n = UnpackedFloat.round .binary32 .positive n.toNat 0 := by
    show UnpackedFloat.normalize .binary32 n.toNat 0 .positive = _
    rw [UnpackedFloat.normalize, Int.compare_eq_gt.mpr (by omega)]
    rfl
  show (Float32.Model.pack (ofUInt32 .binary32 n)).unpack = _
  rw [normal, rounded]
  exact unpack_pack _ (mantissa_bounds positive) (by omega)

theorem compare_toFloat32 {m n : UInt32} (first : 0 < m) (second : 0 < n) :
    m.toFloat32.toModel.unpack.compare n.toFloat32.toModel.unpack =
      some ((compare (exponent m.toNat) (exponent n.toNat)).then
        (compare (mantissa m.toNat) (mantissa n.toNat))) := by
  obtain ⟨_, left⟩ := unpack_toFloat32 first
  obtain ⟨_, right⟩ := unpack_toFloat32 second
  rw [left, right]
  rfl

theorem zero_or_pos (n : UInt32) : n = 0 ∨ 0 < n := by
  rcases Nat.eq_zero_or_pos n.toNat with zero | positive
  · exact .inl (UInt32.toNat_inj.mp zero)
  · exact .inr (UInt32.lt_iff_toNat_lt.mpr positive)

theorem toFloat32_isFinite (n : UInt32) : n.toFloat32.isFinite = true := by
  show n.toFloat32.toModel.unpack.isFinite = true
  rcases zero_or_pos n with rfl | positive
  · rfl
  · obtain ⟨_, unpacked⟩ := unpack_toFloat32 positive
    rw [unpacked]
    rfl

theorem toFloat32_le {m n : UInt32} (le : m ≤ n) : m.toFloat32 ≤ n.toFloat32 := by
  rw [le_iff_compare]
  rcases zero_or_pos m with rfl | positive
  · rcases zero_or_pos n with rfl | positive
    · exact ⟨.eq, rfl, rfl⟩
    · obtain ⟨_, unpacked⟩ := unpack_toFloat32 positive
      rw [unpacked]
      exact ⟨.lt, rfl, rfl⟩
  · have order := rounded_mono (UInt32.lt_iff_toNat_lt.mp positive) (UInt32.le_iff_toNat_le.mp le)
    refine ⟨_, compare_toFloat32 positive (UInt32.lt_of_lt_of_le positive le), ?_⟩
    rcases order with less | ⟨same, le⟩
    · rw [Int.compare_eq_lt.mpr less]
      rfl
    · rw [same, Int.compare_eq_eq.mpr rfl]
      exact Nat.isLE_compare.mpr le

theorem toFloat32_lt {m n : UInt32} (less : m < n) (short : m.toNat < 2 ^ 24) :
    m.toFloat32 < n.toFloat32 := by
  have further := UInt32.lt_of_le_of_lt (UInt32.zero_le) less
  rw [lt_iff_compare]
  rcases zero_or_pos m with rfl | positive
  · obtain ⟨_, unpacked⟩ := unpack_toFloat32 less
    rw [unpacked]
    rfl
  · have order :=
      rounded_strictMono (UInt32.lt_iff_toNat_lt.mp positive) (UInt32.lt_iff_toNat_lt.mp less) short
    rw [compare_toFloat32 positive further]
    rcases order with less | ⟨same, less⟩
    · rw [Int.compare_eq_lt.mpr less]
      rfl
    · rw [same, Int.compare_eq_eq.mpr rfl, Nat.compare_eq_lt.mpr less]
      rfl

-- Numbers of 24 digits are below others just as whole numbers are.
theorem toFloat32_lt_iff {m n : UInt32} (short : m.toNat < 2 ^ 24) :
    m.toFloat32 < n.toFloat32 ↔ m < n := by
  constructor
  · intro less
    refine UInt32.not_le.mp fun le => ?_
    exact not_lt_of_le (toFloat32_le le) less
  · intro less
    exact toFloat32_lt less short

theorem visibleRange_lt_toFloat32 (n : UInt32) : visibleRange < n.toFloat32 ↔ 166 < n.toNat := by
  have range : visibleRange = (166 : UInt32).toFloat32 := by decide +kernel
  rw [range, toFloat32_lt_iff (by decide)]
  exact UInt32.lt_iff_toNat_lt

end Binary32

end WorldScripts

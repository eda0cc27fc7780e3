import Mathlib.Data.Prod.Lex
import WorldScripts.Proofs.Binary32.Whole

/-!
The order of binary32 numbers. Each of them has a place, unless it is no number: first by sign, the
infinite ones outside and zero in the middle, then by exponent and significand. Comparing numbers is
comparing their places, so that `≤` is a total preorder of the numbers and fails wherever there is none.
-/

namespace WorldScripts

namespace Binary32

open Float.Model UnpackedFloat

def place : UnpackedFloat → Option (Int ×ₗ Int ×ₗ Int)
  | .notANumber => none
  | .infinity .negative => some (toLex (-2, toLex (0, 0)))
  | .finite .negative m e _ => some (toLex (-1, toLex (-e, -m)))
  | .zero _ => some (toLex (0, toLex (0, 0)))
  | .finite .positive m e _ => some (toLex (1, toLex (e, m)))
  | .infinity .positive => some (toLex (2, toLex (0, 0)))

theorem isLE_lex (e f : Int) (m n : Nat) :
    ((compare e f).then (compare m n)).isLE = true ↔ e < f ∨ e = f ∧ m ≤ n := by
  rw [Ordering.isLE_then_iff_or, Int.compare_eq_lt, Int.compare_eq_eq, Nat.isLE_compare]

theorem compare_isLE (x y : UnpackedFloat) :
    (∃ order, x.compare y = some order ∧ order.isLE = true) ↔
      ∃ a b, place x = some a ∧ place y = some b ∧ a ≤ b := by
  rcases x with (_ | _) | _ | _ | ⟨_ | _, m, e, _⟩ <;>
    rcases y with (_ | _) | _ | _ | ⟨_ | _, n, f, _⟩ <;>
    dsimp only [UnpackedFloat.compare, place] <;>
    simp [Prod.Lex.toLex_le_toLex, lex_swap, isLE_lex]
  case finite.negative.finite.negative => rw [eq_comm (a := f)]
  all_goals decide

variable {x y z : Float32}

theorem le_iff_place :
    x ≤ y ↔ ∃ a b, place x.toModel.unpack = some a ∧ place y.toModel.unpack = some b ∧ a ≤ b :=
  (le_iff_compare x y).trans (compare_isLE _ _)

theorem isNaN_iff_place : x.isNaN = false ↔ ∃ a, place x.toModel.unpack = some a := by
  show x.toModel.unpack.isNaN = false ↔ _
  rcases x.toModel.unpack with (_ | _) | _ | _ | ⟨_ | _, m, e, _⟩
  case notANumber => exact iff_of_false nofun fun ⟨_, placed⟩ => nomatch placed
  all_goals exact iff_of_true rfl ⟨_, rfl⟩

theorem isNaN_of_le (le : x ≤ y) : x.isNaN = false ∧ y.isNaN = false := by
  obtain ⟨a, b, first, second, _⟩ := le_iff_place.mp le
  exact ⟨isNaN_iff_place.mpr ⟨a, first⟩, isNaN_iff_place.mpr ⟨b, second⟩⟩

protected theorem le_refl (number : x.isNaN = false) : x ≤ x := by
  obtain ⟨a, placed⟩ := isNaN_iff_place.mp number
  exact le_iff_place.mpr ⟨a, a, placed, placed, le_rfl⟩

protected theorem le_trans (first : x ≤ y) (second : y ≤ z) : x ≤ z := by
  obtain ⟨a, b, atX, atY, ab⟩ := le_iff_place.mp first
  obtain ⟨b', c, atY', atZ, bc⟩ := le_iff_place.mp second
  obtain rfl : b = b' := Option.some.inj (atY.symm.trans atY')
  exact le_iff_place.mpr ⟨a, c, atX, atZ, ab.trans bc⟩

protected theorem le_total (first : x.isNaN = false) (second : y.isNaN = false) : x ≤ y ∨ y ≤ x := by
  obtain ⟨a, atX⟩ := isNaN_iff_place.mp first
  obtain ⟨b, atY⟩ := isNaN_iff_place.mp second
  rcases LinearOrder.le_total a b with ab | ba
  · exact .inl (le_iff_place.mpr ⟨a, b, atX, atY, ab⟩)
  · exact .inr (le_iff_place.mpr ⟨b, a, atY, atX, ba⟩)

theorem isNaN_of_isFinite (finite : x.isFinite = true) : x.isNaN = false := by
  change x.toModel.unpack.isFinite = true at finite
  show x.toModel.unpack.isNaN = false
  cases unpacked : x.toModel.unpack with
  | notANumber =>
      rw [unpacked] at finite
      cases finite
  | infinity | zero | finite => rfl

protected theorem le_of_not_lt (first : x.isNaN = false) (second : y.isNaN = false)
    (least : ¬ y < x) : x ≤ y := by
  rcases Binary32.le_total first second with le | ge
  · exact le
  · obtain ⟨order, compared, isLE⟩ := (le_iff_compare y x).mp ge
    cases order with
    | lt => exact absurd ((lt_iff_compare y x).mpr compared) least
    | eq =>
        rw [le_iff_compare, compare_swap, compared]
        exact ⟨.eq, rfl, rfl⟩
    | gt => cases isLE

end Binary32

end WorldScripts

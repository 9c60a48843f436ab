import Mathlib.Tactic.Linarith
import Mathlib.Tactic.Ring

/-!
# Quadratics evaluated with floors

The area `x² / (d · c) + b · x / c` below a line is often computed as
`⌊(⌊x / d⌋ + b) · x / c⌋`.  The inner floor is multiplied by `x`, so that the
result may fall short by as much as `x / c`, and it jumps by as much where `x`
passes a multiple of `d`.  The lemmas compare the floored area with the exact one,
multiplied by `d · c`.
-/

namespace SoraParachain

/-- The line `x / d + b`, in units of `1 / c`. -/
structure Slope where
  d : ℕ
  b : ℕ
  c : ℕ
  d_pos : 0 < d
  c_pos : 0 < c

namespace Slope

variable (L : Slope)

/-- The area up to `x`, rounded down twice. -/
def floored (x : ℕ) : ℕ := (x / L.d + L.b) * x / L.c

/-- The area up to `x`, multiplied by the denominators. -/
def exact (x : ℕ) : ℕ := x * x + L.d * L.b * x

variable {L} {x y z : ℕ}

theorem floored_mono (h : x ≤ y) : L.floored x ≤ L.floored y := by
  have hslope : x / L.d + L.b ≤ y / L.d + L.b :=
    Nat.add_le_add_right (Nat.div_le_div_right h) L.b
  exact Nat.div_le_div_right (Nat.mul_le_mul hslope h)

theorem exact_mono (h : x ≤ y) : L.exact x ≤ L.exact y :=
  Nat.add_le_add (Nat.mul_le_mul h h) (Nat.mul_le_mul_left _ h)

/-- Rounding never adds to the area. -/
theorem floored_le_exact (x : ℕ) :
    L.d * L.c * L.floored x ≤ L.exact x := by
  have hinner : L.d * (x / L.d) ≤ x := Nat.mul_div_le x L.d
  have houter : L.c * L.floored x ≤ (x / L.d + L.b) * x :=
    Nat.mul_div_le _ L.c
  calc
    L.d * L.c * L.floored x = L.d * (L.c * L.floored x) := by ring
    _ ≤ L.d * ((x / L.d + L.b) * x) := Nat.mul_le_mul_left L.d houter
    _ = L.d * (x / L.d) * x + L.d * L.b * x := by ring
    _ ≤ L.exact x := Nat.add_le_add_right (Nat.mul_le_mul_right x hinner) _

/-- Rounding takes less than `x / c + 1` from the area. -/
theorem exact_lt_floored (x : ℕ) :
    L.exact x < L.d * L.c * L.floored x + L.d * x + L.d * L.c := by
  have hinner : x ≤ L.d * (x / L.d) + L.d :=
    (Nat.lt_mul_div_succ x L.d_pos).le
  have houter : (x / L.d + L.b) * x < L.c * (L.floored x + 1) :=
    Nat.lt_mul_div_succ _ L.c_pos
  calc
    L.exact x ≤ (L.d * (x / L.d) + L.d) * x + L.d * L.b * x :=
      Nat.add_le_add_right (Nat.mul_le_mul_right x hinner) _
    _ = L.d * ((x / L.d + L.b) * x) + L.d * x := by ring
    _ < L.d * (L.c * (L.floored x + 1)) + L.d * x :=
      Nat.add_lt_add_right (Nat.mul_lt_mul_of_pos_left houter L.d_pos) _
    _ = L.d * L.c * L.floored x + L.d * x + L.d * L.c := by ring

/-- The area between two points is rounded up by less than `x / c + 1`. -/
theorem floored_sub_lt (x y : ℕ) :
    L.d * L.c * L.floored y + L.exact x <
      L.d * L.c * L.floored x + L.exact y + L.d * x + L.d * L.c := by
  have hy := L.floored_le_exact y
  have hx := L.exact_lt_floored x
  omega

/-- The exact areas of two intervals of one length differ by a rectangle. -/
theorem exact_shift (x y n : ℕ) :
    L.exact (x + y + n) + L.exact x =
      L.exact (x + n) + L.exact (x + y) + 2 * y * n := by
  unfold exact
  ring

/-- Further up, an interval costs more by a rectangle, up to rounding. -/
theorem floored_shift_lt (x y n : ℕ) :
    L.d * L.c * (L.floored (x + y + n) + L.floored x) <
      L.d * L.c * (L.floored (x + n) + L.floored (x + y)) + 2 * y * n +
        L.d * (x + n + (x + y)) + 2 * (L.d * L.c) := by
  have hshift := L.exact_shift x y n
  have h₁ := L.floored_le_exact (x + y + n)
  have h₂ := L.floored_le_exact x
  have h₃ := L.exact_lt_floored (x + n)
  have h₄ := L.exact_lt_floored (x + y)
  linarith

/-- It does not cost more than that, up to rounding. -/
theorem lt_floored_shift (x y n : ℕ) :
    L.d * L.c * (L.floored (x + n) + L.floored (x + y)) + 2 * y * n <
      L.d * L.c * (L.floored (x + y + n) + L.floored x) +
        L.d * (x + y + n + x) + 2 * (L.d * L.c) := by
  have hshift := L.exact_shift x y n
  have h₁ := L.exact_lt_floored (x + y + n)
  have h₂ := L.exact_lt_floored x
  have h₃ := L.floored_le_exact (x + n)
  have h₄ := L.floored_le_exact (x + y)
  linarith

/-! ## Below zero

A sale may go on below an issuance of zero, where the quotients are still rounded
down.
-/

/-- The area up to any point, rounded down twice. -/
def flooredAt (L : Slope) (z : ℤ) : ℤ := (z / L.d + L.b) * z / L.c

/-- The area up to any point, multiplied by the denominators. -/
def exactAt (L : Slope) (z : ℤ) : ℤ := z * z + L.d * L.b * z

theorem flooredAt_natCast (x : ℕ) : L.flooredAt x = L.floored x := by
  rw [flooredAt, floored, Int.natCast_ediv, Int.natCast_mul, Int.natCast_add,
    Int.natCast_ediv]

/-- What the inner quotient leaves out is multiplied by the point. -/
theorem mul_flooredSlope (L : Slope) (z : ℤ) :
    L.d * ((z / L.d + L.b) * z) = L.exactAt z - z % L.d * z := by
  have hdiv : z % L.d + L.d * (z / L.d) = z := Int.emod_add_mul_ediv z L.d
  calc
    L.d * ((z / L.d + L.b) * z) =
        (L.d * (z / L.d)) * z + L.d * L.b * z := by ring
    _ = (z - z % L.d) * z + L.d * L.b * z := by
      rw [← eq_sub_of_add_eq' hdiv]
    _ = L.exactAt z - z % L.d * z := by
      rw [exactAt]
      ring

theorem mul_flooredAt_le (L : Slope) (z : ℤ) :
    L.d * L.c * L.flooredAt z ≤ L.exactAt z - z % L.d * z := by
  have hd : (0 : ℤ) < L.d := Int.natCast_pos.mpr L.d_pos
  have hc : (L.c : ℤ) ≠ 0 := Int.natCast_ne_zero.mpr L.c_pos.ne'
  rw [← mul_flooredSlope, mul_assoc]
  exact Int.mul_le_mul_of_nonneg_left (Int.mul_ediv_self_le hc) hd.le

theorem lt_mul_flooredAt (L : Slope) (z : ℤ) :
    L.exactAt z - z % L.d * z < L.d * L.c * L.flooredAt z + L.d * L.c := by
  have hd : (0 : ℤ) < L.d := Int.natCast_pos.mpr L.d_pos
  have hc : (0 : ℤ) < L.c := Int.natCast_pos.mpr L.c_pos
  rw [← mul_flooredSlope, mul_assoc, ← mul_add]
  exact Int.mul_lt_mul_of_pos_left (Int.lt_mul_ediv_self_add hc) hd

end Slope
end SoraParachain

import Mathlib.Tactic.Ring

/-!
# Cutting a number at evenly spaced points

The `k`-th of `n` points up to `b` is `b` divided by the ratio of `n` to `k`, and
both the ratio and the quotient are rounded down to a denominator `S`.  Rounding
the ratio pushes a point up, though never past `b`.
-/

namespace SoraParachain

/-- The ratio of `n` to `k`, rounded down to a denominator `S`. -/
def spacingRatio (S n k : ℕ) : ℕ := n * S / k

/-- The `k`-th of `n` evenly spaced points up to `b`. -/
def spacingPoint (S b n k : ℕ) : ℕ := b * S / spacingRatio S n k

variable {S b n k l : ℕ}

theorem le_spacingRatio (hk : 0 < k) (hkn : k ≤ n) :
    S ≤ spacingRatio S n k := by
  rw [spacingRatio, Nat.le_div_iff_mul_le hk, Nat.mul_comm]
  exact Nat.mul_le_mul_right S hkn

theorem spacingRatio_anti (hk : 0 < k) (hkl : k ≤ l) :
    spacingRatio S n l ≤ spacingRatio S n k :=
  Nat.div_le_div_left hkl hk

theorem spacingPoint_le (hS : 0 < S) (hk : 0 < k) (hkn : k ≤ n) :
    spacingPoint S b n k ≤ b := by
  have hratio : S ≤ spacingRatio S n k := le_spacingRatio hk hkn
  calc
    spacingPoint S b n k ≤ b * S / S := Nat.div_le_div_left hratio hS
    _ = b := Nat.mul_div_cancel b hS

theorem spacingPoint_last (hS : 0 < S) (hn : 0 < n) :
    spacingPoint S b n n = b := by
  rw [spacingPoint, spacingRatio, Nat.mul_div_cancel_left S hn,
    Nat.mul_div_cancel b hS]

@[simp] theorem spacingPoint_zero : spacingPoint S 0 n k = 0 := by
  rw [spacingPoint, Nat.zero_mul, Nat.zero_div]

theorem spacingPoint_mono (hS : 0 < S) (hk : 0 < k) (hkl : k ≤ l)
    (hln : l ≤ n) :
    spacingPoint S b n k ≤ spacingPoint S b n l := by
  have hratio : S ≤ spacingRatio S n l :=
    le_spacingRatio (hk.trans_le hkl) hln
  exact Nat.div_le_div_left (spacingRatio_anti hk hkl)
    (hS.trans_le hratio)

/-- A point does not fall below its exact place, rounded down. -/
theorem le_spacingPoint (hS : 0 < S) (hk : 0 < k) (hkn : k ≤ n) :
    b * k / n ≤ spacingPoint S b n k := by
  have hn : 0 < n := hk.trans_le hkn
  have hratio : 0 < spacingRatio S n k :=
    hS.trans_le (le_spacingRatio hk hkn)
  have hfloor : spacingRatio S n k * k ≤ n * S := Nat.div_mul_le_self _ _
  have hexact : b * k / n * n ≤ b * k := Nat.div_mul_le_self _ _
  rw [spacingPoint, Nat.le_div_iff_mul_le hratio]
  refine Nat.le_of_mul_le_mul_right ?_ hn
  calc
    b * k / n * spacingRatio S n k * n
        = b * k / n * n * spacingRatio S n k := by ring
    _ ≤ b * k * spacingRatio S n k := Nat.mul_le_mul_right _ hexact
    _ = b * (spacingRatio S n k * k) := by ring
    _ ≤ b * (n * S) := Nat.mul_le_mul_left b hfloor
    _ = b * S * n := by ring

end SoraParachain

import Mathlib.Data.Nat.Sqrt
import Mathlib.Data.Int.Basic
import Mathlib.Tactic.Linarith
import Mathlib.Tactic.Ring

/-!
# Fixed-point arithmetic with explicit flooring

A format fixes the denominator of its numbers and the range of their
numerators.  Addition and subtraction are exact and checked; multiplication,
division and the square root round towards negative infinity and are checked
too.  The last section bounds a quotient by an already floored quotient, the
shape in which proportional amounts are computed.
-/

namespace SoraParachain

/-- Numbers `bits / scale` with `-bound ≤ bits < bound`. -/
structure FixedFormat where
  scale : ℕ
  bound : ℕ
  scale_pos : 0 < scale
  bound_pos : 0 < bound

inductive ArithmeticError where
  | overflow
  | divisionByZero
  | domainViolation
  deriving DecidableEq, Repr

namespace FixedFormat

variable (F : FixedFormat)

/-- The numerators a format can hold. -/
def Fits (z : ℤ) : Prop :=
  -(F.bound : ℤ) ≤ z ∧ z < F.bound

instance (z : ℤ) : Decidable (F.Fits z) :=
  inferInstanceAs (Decidable (_ ∧ _))

theorem fits_natCast {n : ℕ} : F.Fits (n : ℤ) ↔ n < F.bound := by
  constructor
  · intro h
    exact_mod_cast h.2
  · intro h
    refine ⟨?_, by exact_mod_cast h⟩
    have hbound : (0 : ℤ) ≤ F.bound := Int.natCast_nonneg _
    have hn : (0 : ℤ) ≤ n := Int.natCast_nonneg _
    omega

end FixedFormat

/-- A number of the format, given by its numerator. -/
@[ext] structure Fixed (F : FixedFormat) where
  bits : ℤ
  fits : F.Fits bits
  deriving DecidableEq

namespace Fixed

variable {F : FixedFormat}

/-- Keep a numerator that fits. -/
def checked (z : ℤ) : Except ArithmeticError (Fixed F) :=
  if h : F.Fits z then .ok ⟨z, h⟩ else .error .overflow

theorem checked_eq_ok {z : ℤ} {x : Fixed F} :
    checked z = .ok x ↔ x.bits = z := by
  unfold checked
  constructor
  · intro h
    split at h
    · cases h
      rfl
    · cases h
  · rintro rfl
    rw [dif_pos x.fits]

def cadd (a b : Fixed F) : Except ArithmeticError (Fixed F) :=
  checked (a.bits + b.bits)

def csub (a b : Fixed F) : Except ArithmeticError (Fixed F) :=
  checked (a.bits - b.bits)

/-- Product rounded towards negative infinity. -/
def rmul (a b : Fixed F) : Except ArithmeticError (Fixed F) :=
  checked ((a.bits * b.bits).fdiv F.scale)

/-- Quotient rounded towards negative infinity. -/
def rdiv (a b : Fixed F) : Except ArithmeticError (Fixed F) :=
  if b.bits = 0 then .error .divisionByZero
  else checked ((a.bits * F.scale).fdiv b.bits)

/-- Square root rounded towards negative infinity. -/
def rsqrt (a : Fixed F) : Except ArithmeticError (Fixed F) :=
  if a.bits < 0 then .error .domainViolation
  else checked (Nat.sqrt (a.bits.toNat * F.scale))

/-- A product of numbers that are not negative is rounded down like a natural
quotient. -/
theorem exists_rmul_eq_ok {a b : Fixed F} {x y : ℕ} (ha : a.bits = x)
    (hb : b.bits = y) (hlt : x * y / F.scale < F.bound) :
    ∃ c, rmul a b = .ok c ∧ c.bits = (x * y / F.scale : ℕ) := by
  have hfloor : (a.bits * b.bits).fdiv F.scale = (x * y / F.scale : ℕ) := by
    rw [ha, hb, ← Int.natCast_mul]
    exact (Int.ofNat_fdiv _ _).symm
  have hfits : F.Fits (x * y / F.scale : ℕ) := F.fits_natCast.mpr hlt
  refine ⟨⟨_, hfits⟩, ?_, rfl⟩
  rw [rmul, hfloor]
  exact checked_eq_ok.mpr rfl

theorem rdiv_eq_ok {a b c : Fixed F} :
    rdiv a b = .ok c ↔
      b.bits ≠ 0 ∧ c.bits = (a.bits * F.scale).fdiv b.bits := by
  unfold rdiv
  by_cases hb : b.bits = 0
  · simp [hb]
  · simp [hb, checked_eq_ok]

theorem rsqrt_eq_ok {a c : Fixed F} :
    rsqrt a = .ok c ↔
      0 ≤ a.bits ∧ c.bits = Nat.sqrt (a.bits.toNat * F.scale) := by
  unfold rsqrt
  by_cases ha : a.bits < 0
  · simp [ha, not_le.mpr ha]
  · simp [ha, not_lt.mp ha, checked_eq_ok]

end Fixed

/-- A positive number over a negative one, rounded down, is negative. -/
theorem fdiv_neg_of_pos_of_neg {a b : ℤ} (ha : 0 < a) (hb : b < 0) :
    a.fdiv b < 0 := by
  have hle := Int.fdiv_nonpos_of_nonneg_of_nonpos ha.le hb.le
  apply lt_of_le_of_ne hle
  intro hzero
  have hmod := Int.fdiv_mul_add_fmod a b
  rw [hzero, Int.zero_mul, Int.zero_add] at hmod
  have hfmod := Int.fmod_nonneg_of_pos (-a) (Int.neg_pos_of_neg hb)
  rw [Int.neg_fmod_neg] at hfmod
  omega

/-! ## A quotient by a floored quotient

With `q = ⌊u·S / v⌋` and `r = ⌊w·S / q⌋` the exact value of `r` would be
`w·v / u`.  Flooring `q` pushes `r` up, flooring `r` pulls it down. -/

/-- `r` exceeds its exact value by less than `r·v / (u·S)`. -/
theorem quotient_by_floored_le {u v w S q r : ℕ}
    (hq : u * S < (q + 1) * v) (hr : q * r ≤ w * S) :
    u * S * r ≤ v * (w * S + r) := by
  calc
    u * S * r ≤ (q + 1) * v * r := Nat.mul_le_mul_right r hq.le
    _ = v * (q * r + r) := by ring
    _ ≤ v * (w * S + r) := Nat.mul_le_mul_left v (by omega)

/-- `r` falls short of its exact value by less than one. -/
theorem lt_quotient_by_floored_succ {u v w S q r : ℕ}
    (hq : q * v ≤ u * S) (hr : w * S < (r + 1) * q) (hv : 0 < v) :
    w * v < (r + 1) * u := by
  have hscaled : w * v * S < (r + 1) * u * S := by
    calc
      w * v * S = w * S * v := by ring
      _ < (r + 1) * q * v := Nat.mul_lt_mul_of_pos_right hr hv
      _ = (r + 1) * (q * v) := by ring
      _ ≤ (r + 1) * (u * S) := Nat.mul_le_mul_left _ hq
      _ = (r + 1) * u * S := by ring
  exact lt_of_mul_lt_mul_right hscaled (Nat.zero_le S)

end SoraParachain

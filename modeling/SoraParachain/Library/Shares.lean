import Mathlib.Algebra.Order.Field.Basic
import Mathlib.Algebra.Order.Field.Rat
import Mathlib.Tactic.FieldSimp
import Mathlib.Tactic.GCongr
import Mathlib.Tactic.Linarith
import Mathlib.Tactic.Positivity
import Mathlib.Tactic.Ring

/-!
# Shares of a reserve

Shares of a reserve are issued and redeemed.  A locked amount `M` is counted
beside the issued shares `N` when the worth of a share is taken, so the worth
of a share is the fraction `R / (N + M)`.  The lemmas compare such fractions by
their cross products.  Shares of two reserves that are traded against each other
are judged by the product of both fractions.
-/

namespace SoraParachain
namespace Shares

variable {R R' N N' M k p a m S : ℕ}

/-- A payout for `k` shares is at most their part of the reserve. -/
structure Redeems (R R' p k N N' M : ℕ) : Prop where
  proRata : p * (N + M) ≤ R * k
  reserve : R' + p = R
  issued : N' + k = N

/-- Redeeming never takes a whole reserve while something is locked. -/
theorem Redeems.reserve_pos (h : Redeems R R' p k N N' M) (hR : 0 < R)
    (hM : 0 < M) :
    0 < R' := by
  have hlt : p * (N + M) < R * (N + M) := by
    calc
      p * (N + M) ≤ R * k := h.proRata
      _ < R * (N + M) := by
        refine Nat.mul_lt_mul_of_pos_left ?_ hR
        have := h.issued
        omega
  have hp : p < R := lt_of_mul_lt_mul_right hlt (Nat.zero_le _)
  have := h.reserve
  omega

/-- Redeeming never lowers the worth of the remaining shares. -/
theorem Redeems.worth_le (h : Redeems R R' p k N N' M) :
    R * (N' + M) ≤ R' * (N + M) := by
  have hproRata := h.proRata
  obtain rfl := h.reserve
  obtain rfl := h.issued
  nlinarith

/-- A share that is worth no less in the end than in between, and no less in
between than at first, is worth no less in the end than at first. -/
theorem worth_trans {R'' N'' : ℕ} (hM : 0 < M)
    (h : R * (N' + M) ≤ R' * (N + M)) (h' : R' * (N'' + M) ≤ R'' * (N' + M)) :
    R * (N'' + M) ≤ R'' * (N + M) := by
  refine le_of_mul_le_mul_right ?_ (by omega : 0 < N' + M)
  calc
    R * (N'' + M) * (N' + M) = R * (N' + M) * (N'' + M) := by ring
    _ ≤ R' * (N + M) * (N'' + M) := Nat.mul_le_mul_right _ h
    _ = R' * (N'' + M) * (N + M) := by ring
    _ ≤ R'' * (N' + M) * (N + M) := Nat.mul_le_mul_right _ h'
    _ = R'' * (N + M) * (N' + M) := by ring

/-- Issuing `m` shares for `a` where the shares are at most the part of the
reserve that `a + m / S` is. -/
def Issues (R a m N S : ℕ) : Prop :=
  R * S * m ≤ N * (a * S + m)

/-- Issuing lowers the worth of a share by the rounding of the shares only. -/
theorem Issues.worth_le (h : Issues R a m N S) :
    S * (R * (N + m + M)) ≤ S * ((R + a) * (N + M)) + N * m := by
  unfold Issues at h
  nlinarith [Nat.zero_le (S * a * M)]

/-- Redeeming what was just issued returns at most the rounding of the shares
on top of what was paid in. -/
theorem Issues.round_trip_le (h : Issues R a m N S) (hS : 0 < S) (hM : 0 < M)
    (hp : p * (N + m + M) ≤ (R + a) * m) :
    p ≤ a + m / S := by
  unfold Issues at h
  have hscaled : p * S * (N + m + M) ≤ (a * S + m) * (N + m + M) := by
    calc
      p * S * (N + m + M) = S * (p * (N + m + M)) := by ring
      _ ≤ S * ((R + a) * m) := Nat.mul_le_mul_left S hp
      _ = R * S * m + a * S * m := by ring
      _ ≤ N * (a * S + m) + a * S * m := Nat.add_le_add_right h _
      _ ≤ N * (a * S + m) + (a * S + m) * (m + M) :=
        Nat.add_le_add_left (Nat.mul_le_mul (by omega) (by omega)) _
      _ = (a * S + m) * (N + m + M) := by ring
  have hle : p * S ≤ a * S + m :=
    le_of_mul_le_mul_right hscaled (by omega)
  calc
    p ≤ (a * S + m) / S := (Nat.le_div_iff_mul_le hS).mpr hle
    _ = a + m / S := by rw [Nat.mul_comm, Nat.mul_add_div hS]

/-! ## Shares of two reserves -/

section

variable {x x' y y' b c d e : ℕ}

/-- The product of two reserves for each pair of shares. -/
def product (x y N M : ℕ) : ℚ :=
  x * y / (N + M) ^ 2

/-- Larger reserves for fewer shares. -/
theorem product_mono (hM : 0 < M) (hx : x ≤ x') (hy : y ≤ y') (hN : N' ≤ N) :
    product x y N M ≤ product x' y' N' M := by
  unfold product
  have hpos : (0 : ℚ) < N' + M := by positivity
  gcongr

/-- What was `a` is `b` now and lacks at most `c` of `d` parts of `a`. -/
def NearlyKept (c d a b : ℕ) : Prop :=
  d * a ≤ d * b + c * a

theorem nearlyKept_of_le (h : a ≤ b) : NearlyKept c d a b :=
  (Nat.mul_le_mul_left d h).trans (Nat.le_add_right _ _)

theorem NearlyKept.mono (h : NearlyKept c d a b) {c' : ℕ} (hc : c ≤ c') :
    NearlyKept c' d a b :=
  h.trans (Nat.add_le_add_left (Nat.mul_le_mul_right a hc) _)

theorem NearlyKept.mul_right (h : NearlyKept c d a b) :
    NearlyKept c d (a * e) (b * e) := by
  unfold NearlyKept at h ⊢
  calc
    d * (a * e) = d * a * e := (Nat.mul_assoc d a e).symm
    _ ≤ (d * b + c * a) * e := Nat.mul_le_mul_right e h
    _ = d * (b * e) + c * (a * e) := by ring

/-- A loss that is small beside what is left is small beside what there was. -/
theorem nearlyKept_of_loss (h : a ≤ b + e) (he : d * e ≤ c * b) :
    NearlyKept c d a b := by
  rcases le_total a b with hle | hle
  · exact nearlyKept_of_le hle
  · calc
      d * a ≤ d * (b + e) := Nat.mul_le_mul_left d h
      _ = d * b + d * e := Nat.mul_add d b e
      _ ≤ d * b + c * a :=
        Nat.add_le_add_left (he.trans (Nat.mul_le_mul_left c hle)) _

/-- The comparison of two products by their cross products. -/
theorem product_mul_le (hM : 0 < M) (hd : 0 < d)
    (h : NearlyKept c d (x * y * (N' + M) ^ 2) (x' * y' * (N + M) ^ 2)) :
    product x y N M * (1 - c / d) ≤ product x' y' N' M := by
  unfold NearlyKept at h
  have hcast : (d : ℚ) * (x * y * (N' + M) ^ 2) ≤
      d * (x' * y' * (N + M) ^ 2) + c * (x * y * (N' + M) ^ 2) := by
    exact_mod_cast h
  have hN : (0 : ℚ) < N + M := by positivity
  have hN' : (0 : ℚ) < N' + M := by positivity
  have hd' : (0 : ℚ) < d := by positivity
  calc
    product x y N M * (1 - c / d) =
        (d - c) * (x * y) / (d * (N + M) ^ 2) := by
      unfold product
      field_simp
    _ ≤ product x' y' N' M := by
      rw [product, div_le_div_iff₀ (by positivity) (by positivity)]
      linarith

/-- Where a share keeps its worth of both reserves, the product is kept. -/
theorem product_le_of_worth (hM : 0 < M) (hx : x * (N' + M) ≤ x' * (N + M))
    (hy : y * (N' + M) ≤ y' * (N + M)) :
    product x y N M ≤ product x' y' N' M := by
  have hprod : x * y * (N' + M) ^ 2 ≤ x' * y' * (N + M) ^ 2 := by
    calc
      x * y * (N' + M) ^ 2 = x * (N' + M) * (y * (N' + M)) := by ring
      _ ≤ x' * (N + M) * (y' * (N + M)) := Nat.mul_le_mul hx hy
      _ = x' * y' * (N + M) ^ 2 := by ring
  have hkept : NearlyKept 0 1 (x * y * (N' + M) ^ 2) (x' * y' * (N + M) ^ 2) :=
    nearlyKept_of_le hprod
  simpa using product_mul_le hM one_pos hkept

/-- A trade that rounds its price down at a price within `S / d`. -/
theorem nearlyKept_of_floored_price (hS : 0 < S)
    (h : S * (x * y) ≤ S * (x' * y') + y * (y - y'))
    (hprice : d * y ≤ S * x) :
    NearlyKept 1 d (x * y) (x' * y') := by
  have hloss : d * (y * (y - y')) ≤ S * (x * y) := by
    calc
      d * (y * (y - y')) ≤ d * (y * y) :=
        Nat.mul_le_mul_left d (Nat.mul_le_mul_left y (Nat.sub_le y y'))
      _ = d * y * y := (Nat.mul_assoc d y y).symm
      _ ≤ S * x * y := Nat.mul_le_mul_right y hprice
      _ = S * (x * y) := Nat.mul_assoc S x y
  have hscaled : S * (d * (x * y)) ≤ S * (d * (x' * y') + 1 * (x * y)) := by
    calc
      S * (d * (x * y)) = d * (S * (x * y)) := by ring
      _ ≤ d * (S * (x' * y') + y * (y - y')) := Nat.mul_le_mul_left d h
      _ = d * (S * (x' * y')) + d * (y * (y - y')) := Nat.mul_add _ _ _
      _ ≤ d * (S * (x' * y')) + S * (x * y) := Nat.add_le_add_left hloss _
      _ = S * (d * (x' * y') + 1 * (x * y)) := by ring
  exact le_of_mul_le_mul_left hscaled hS

/-- Issuing where each `S` shares stand for at least `d` of the reserve. -/
theorem Issues.worth_nearly_kept (h : Issues x a m N S) (hS : 0 < S)
    (hworth : d * (N + m + M) ≤ S * (x + a)) :
    d * (x * (N + m + M)) ≤ (d + 1) * ((x + a) * (N + M)) := by
  have hrounding : d * (N * m) ≤ S * ((x + a) * (N + M)) := by
    calc
      d * (N * m) ≤ d * ((N + M) * (N + m + M)) :=
        Nat.mul_le_mul_left d (Nat.mul_le_mul (by omega) (by omega))
      _ = (N + M) * (d * (N + m + M)) := by ring
      _ ≤ (N + M) * (S * (x + a)) := Nat.mul_le_mul_left _ hworth
      _ = S * ((x + a) * (N + M)) := by ring
  refine le_of_mul_le_mul_left ?_ hS
  calc
    S * (d * (x * (N + m + M))) = d * (S * (x * (N + m + M))) := by ring
    _ ≤ d * (S * ((x + a) * (N + M)) + N * m) :=
      Nat.mul_le_mul_left d h.worth_le
    _ = d * (S * ((x + a) * (N + M))) + d * (N * m) := Nat.mul_add _ _ _
    _ ≤ d * (S * ((x + a) * (N + M))) + S * ((x + a) * (N + M)) :=
      Nat.add_le_add_left hrounding _
    _ = S * ((d + 1) * ((x + a) * (N + M))) := by ring

/-- A share that nearly keeps its worth of both reserves. -/
theorem nearlyKept_of_worth
    (hx : d * (x * (N' + M)) ≤ (d + 1) * (x' * (N + M)))
    (hy : d * (y * (N' + M)) ≤ (d + 1) * (y' * (N + M))) :
    NearlyKept 2 d (x * y * (N' + M) ^ 2) (x' * y' * (N + M) ^ 2) := by
  have hscaled : d ^ 2 * (x * y * (N' + M) ^ 2) ≤
      (d + 1) ^ 2 * (x' * y' * (N + M) ^ 2) := by
    calc
      d ^ 2 * (x * y * (N' + M) ^ 2) =
          d * (x * (N' + M)) * (d * (y * (N' + M))) := by ring
      _ ≤ (d + 1) * (x' * (N + M)) * ((d + 1) * (y' * (N + M))) :=
        Nat.mul_le_mul hx hy
      _ = (d + 1) ^ 2 * (x' * y' * (N + M) ^ 2) := by ring
  generalize x * y * (N' + M) ^ 2 = u at *
  generalize x' * y' * (N + M) ^ 2 = v at *
  unfold NearlyKept
  refine le_of_mul_le_mul_left ?_ (by positivity : 0 < (d + 1) ^ 2)
  nlinarith [Nat.mul_le_mul_left d hscaled]

end

end Shares
end SoraParachain

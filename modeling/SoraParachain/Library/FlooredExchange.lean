import Mathlib.Tactic.Linarith
import Mathlib.Tactic.Ring

/-!
# Exchanging against a constant product with floored products

All numbers are numerators over one denominator `S`.  A product is rounded down
before the quotient is, so that either step may lose something.  An input `u`
into a reserve `x` brings `grossOut` of a reserve `y`, and an output `q` costs
`grossIn`.  Both are bounded against the exact price and against each other.  A
fee of `φ` parts in `S` is taken off with `netOf` and put on with `grossUp`.
-/

namespace SoraParachain
namespace FlooredExchange

/-- What `u` paid into `x` brings of `y`. -/
def grossOut (S x y u : ℕ) : ℕ :=
  u * y / S * S / (x + u)

/-- What `q` out of `y` costs of `x`. -/
def grossIn (S x y q : ℕ) : ℕ :=
  x * q / S * S / (y - q)

/-- An amount less its fee. -/
def netOf (S φ a : ℕ) : ℕ :=
  a - a * φ / S

/-- An amount that a fee is put on. -/
def grossUp (S φ a : ℕ) : ℕ :=
  a * S / (S - φ)

variable {S φ x y u v q a b : ℕ}

/-! ## Against the exact price -/

theorem grossOut_mul_le : grossOut S x y u * (x + u) ≤ u * y :=
  (Nat.div_mul_le_self _ _).trans (Nat.div_mul_le_self _ _)

theorem lt_grossOut (hS : 0 < S) (hx : 0 < x) :
    u * y < (grossOut S x y u + 1) * (x + u) + S := by
  have hproduct : u * y < (u * y / S + 1) * S := by
    rw [Nat.mul_comm _ S]
    exact Nat.lt_mul_div_succ _ hS
  have hquotient : u * y / S * S < (grossOut S x y u + 1) * (x + u) := by
    rw [Nat.mul_comm _ (x + u)]
    exact Nat.lt_mul_div_succ _ (by omega)
  rw [Nat.succ_mul] at hproduct
  omega

theorem grossIn_mul_le : grossIn S x y q * (y - q) ≤ x * q :=
  (Nat.div_mul_le_self _ _).trans (Nat.div_mul_le_self _ _)

theorem lt_grossIn (hS : 0 < S) (hq : q < y) :
    x * q < (grossIn S x y q + 1) * (y - q) + S := by
  have hproduct : x * q < (x * q / S + 1) * S := by
    rw [Nat.mul_comm _ S]
    exact Nat.lt_mul_div_succ _ hS
  have hquotient : x * q / S * S < (grossIn S x y q + 1) * (y - q) := by
    rw [Nat.mul_comm _ (y - q)]
    exact Nat.lt_mul_div_succ _ (by omega)
  rw [Nat.succ_mul] at hproduct
  omega

/-- The reserve is never emptied. -/
theorem grossOut_lt (hx : 0 < x) (hy : 0 < y) : grossOut S x y u < y := by
  have hle : grossOut S x y u * (x + u) ≤ u * y := grossOut_mul_le
  refine lt_of_mul_lt_mul_right (a := x + u) ?_ (Nat.zero_le _)
  calc
    grossOut S x y u * (x + u) ≤ u * y := hle
    _ < y * (x + u) := by
      rw [Nat.mul_add, Nat.mul_comm u y]
      have : 0 < y * x := Nat.mul_pos hy hx
      omega

/-- An output within the bound for an exact price keeps the product. -/
theorem product_le_of_mul_le {o : ℕ} (h : o * (x + u) ≤ u * y) :
    x * y ≤ (x + u) * (y - o) := by
  have hsplit : (x + u) * y - (x + u) * o = (x + u) * (y - o) :=
    (Nat.mul_sub (x + u) y o).symm
  rw [← hsplit, Nat.add_mul, Nat.mul_comm (x + u) o]
  omega

/-! ## Against each other -/

/-- An input of at least the price of an output brings that output, but for one
unit and the rounding of the products. -/
theorem wanted_lt_of_grossIn_le (hS : 0 < S) (hx : 0 < x) (hq : q < y)
    (hu : grossIn S x y q ≤ u) :
    q * (x + u) < (grossOut S x y u + 1) * (x + u) + (2 * S + (y - q)) := by
  obtain ⟨r, rfl⟩ := Nat.exists_eq_add_of_lt hq
  have hprice : x * q < (grossIn S x (q + r + 1) q + 1) * (r + 1) + S := by
    have h := lt_grossIn (x := x) hS hq
    rwa [show q + r + 1 - q = r + 1 by omega] at h
  have hpaid : (grossIn S x (q + r + 1) q + 1) * (r + 1) ≤ (u + 1) * (r + 1) :=
    Nat.mul_le_mul_right _ (by omega)
  have hbrought := lt_grossOut (u := u) (y := q + r + 1) hS hx
  rw [show q + r + 1 - q = r + 1 by omega]
  nlinarith

/-- An output that an input brings costs no more than the input. -/
theorem grossIn_le_of_le_grossOut (hq : q < y) (h : q ≤ grossOut S x y u) :
    grossIn S x y q ≤ u := by
  have hbrought : q * (x + u) ≤ u * y :=
    (Nat.mul_le_mul_right _ h).trans grossOut_mul_le
  have hcost : grossIn S x y q * (y - q) ≤ x * q := grossIn_mul_le
  have hpaid : x * q ≤ u * (y - q) := by
    rw [Nat.mul_sub]
    have hexpand : q * (x + u) = x * q + u * q := by ring
    omega
  exact Nat.le_of_mul_le_mul_right (hcost.trans hpaid) (by omega)

/-! ## Fees -/

theorem netOf_le : netOf S φ a ≤ a :=
  Nat.sub_le _ _

theorem fee_le (hφ : φ ≤ S) : a * φ / S ≤ a := by
  apply Nat.div_le_of_le_mul
  rw [Nat.mul_comm S a]
  exact Nat.mul_le_mul_left a hφ

/-- What remains is no less than its exact part. -/
theorem mul_le_netOf_mul : a * (S - φ) ≤ netOf S φ a * S := by
  have hfee : a * φ / S * S ≤ a * φ := Nat.div_mul_le_self _ _
  rw [netOf, Nat.sub_mul, Nat.mul_sub]
  omega

theorem netOf_mul_lt (hS : 0 < S) (hφ : φ ≤ S) :
    netOf S φ a * S < a * (S - φ) + S := by
  have hfee : a * φ < a * φ / S * S + S := by
    have h := Nat.lt_mul_div_succ (a * φ) hS
    rwa [Nat.mul_comm S, Nat.succ_mul] at h
  have hle : a * φ ≤ a * S := Nat.mul_le_mul_left a hφ
  rw [netOf, Nat.sub_mul, Nat.mul_sub]
  omega

theorem netOf_mono (hφ : φ ≤ S) (hab : a ≤ b) : netOf S φ a ≤ netOf S φ b := by
  obtain ⟨n, rfl⟩ := Nat.exists_eq_add_of_le hab
  rcases Nat.eq_zero_or_pos S with rfl | hS
  · simp only [netOf, Nat.div_zero]
    omega
  · have hfee : (a + n) * φ / S ≤ a * φ / S + n := by
      calc
        (a + n) * φ / S ≤ (a * φ + n * S) / S := by
          apply Nat.div_le_div_right
          rw [Nat.add_mul]
          exact Nat.add_le_add_left (Nat.mul_le_mul_left n hφ) _
        _ = a * φ / S + n := Nat.add_mul_div_right _ _ hS
    have hle : a * φ / S ≤ a := fee_le hφ
    rw [netOf, netOf]
    omega

/-- Less is left over of less, by at most the difference. -/
theorem netOf_add_le (a n : ℕ) : netOf S φ (a + n) ≤ netOf S φ a + n := by
  have hfee : a * φ / S ≤ (a + n) * φ / S :=
    Nat.div_le_div_right (Nat.mul_le_mul_right φ (Nat.le_add_right a n))
  rw [netOf, netOf]
  omega

/-- An amount survives the fee that was put on it. -/
theorem le_netOf_grossUp (hφ : φ < S) : a ≤ netOf S φ (grossUp S φ a) := by
  have hup : a * S < (grossUp S φ a + 1) * (S - φ) := by
    rw [Nat.mul_comm _ (S - φ)]
    exact Nat.lt_mul_div_succ _ (by omega)
  have hnet : grossUp S φ a * (S - φ) ≤ netOf S φ (grossUp S φ a) * S :=
    mul_le_netOf_mul
  have hlt : a * S < (netOf S φ (grossUp S φ a) + 1) * S := by
    rw [Nat.succ_mul] at hup ⊢
    omega
  exact Nat.lt_succ_iff.mp (lt_of_mul_lt_mul_right hlt (Nat.zero_le S))

theorem grossUp_mono (hab : a ≤ b) : grossUp S φ a ≤ grossUp S φ b :=
  Nat.div_le_div_right (Nat.mul_le_mul_right S hab)

/-- Putting a fee of at most one half on what it left restores the amount, but
for one unit. -/
theorem grossUp_netOf_le (hS : 0 < S) (hφ : 2 * φ ≤ S) :
    grossUp S φ (netOf S φ a) ≤ a + 1 := by
  have hnet : netOf S φ a * S < a * (S - φ) + S := netOf_mul_lt hS (by omega)
  apply Nat.le_of_lt_succ
  rw [grossUp, Nat.div_lt_iff_lt_mul (by omega : 0 < S - φ)]
  calc
    netOf S φ a * S < a * (S - φ) + S := hnet
    _ ≤ a * (S - φ) + 2 * (S - φ) := by omega
    _ = (a + 2) * (S - φ) := (Nat.add_mul a 2 (S - φ)).symm

end FlooredExchange
end SoraParachain

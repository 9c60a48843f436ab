import Mathlib.Tactic.Linarith
import Mathlib.Tactic.Ring

/-!
# Trades against a constant product

A trade adds to a reserve `x` and takes from a reserve `y`.  The amounts are
only known through the inequalities that rounded quotients leave behind; the
lemmas say how far such a trade may lower the product of the reserves.
-/

namespace SoraParachain
namespace ConstantProduct

variable {x y u r p a d o S : ℕ}

/-- A trade that takes at most `r` where `r` exceeds its exact price by less
than `r · y / ((x + u) · S)`. -/
theorem product_of_exact_input (hr : (x + u) * S * r ≤ y * (u * S + r))
    (hp : p ≤ r) (hy : p ≤ y) :
    S * (x * y) ≤ S * ((x + u) * (y - p)) + y * p := by
  have hscaled : (x + u) * S * p ≤ y * (u * S + p) := by
    rcases le_total ((x + u) * S) y with hle | hle
    · calc
        (x + u) * S * p ≤ y * p := Nat.mul_le_mul_right p hle
        _ ≤ y * (u * S + p) := Nat.mul_le_mul_left y (by omega)
    · obtain ⟨e, he⟩ := Nat.exists_eq_add_of_le hle
      rw [he] at hr ⊢
      have hep : e * p ≤ e * r := Nat.mul_le_mul_left e hp
      nlinarith
  obtain ⟨y', rfl⟩ := Nat.exists_eq_add_of_le hy
  rw [Nat.add_sub_cancel_left]
  nlinarith

/-- A trade that pays less than one unit too little for `d` takes `o ≤ d`. -/
theorem product_of_exact_output (hd : x * d < (a + 1) * (y - d)) (ho : o ≤ d)
    (hy : d ≤ y) :
    x * y < (x + a) * (y - o) + (y - o) := by
  obtain ⟨y', rfl⟩ := Nat.exists_eq_add_of_le hy
  rw [Nat.add_sub_cancel_left] at hd
  have hle : y' ≤ d + y' - o := by omega
  calc
    x * (d + y') = x * d + x * y' := by ring
    _ < (a + 1) * y' + x * y' := Nat.add_lt_add_right hd _
    _ = (x + a + 1) * y' := by ring
    _ ≤ (x + a + 1) * (d + y' - o) := Nat.mul_le_mul_left _ hle
    _ = (x + a) * (d + y' - o) + (d + y' - o) := by ring

/-- A trade that keeps three thousandths of what it is paid back, and prices
that fee into the reserve it takes from. -/
theorem product_of_exact_output_with_fee {z fee : ℕ} (hy : o ≤ y)
    (hz : x * o < (a + 1) * z) (hle : 1000 * z ≤ 997 * (y - o) + 999)
    (hfee : 1000 * fee ≤ 3 * a) :
    x * y < (x + (a - fee)) * (y - o) + (y - o) + a + 1 := by
  obtain ⟨y', rfl⟩ := Nat.exists_eq_add_of_le hy
  rw [Nat.add_sub_cancel_left] at hle ⊢
  obtain ⟨b, rfl⟩ : ∃ b, a = fee + b := ⟨a - fee, by omega⟩
  rw [Nat.add_sub_cancel_left]
  have hbound : 1000 * ((fee + b + 1) * z) ≤
      1000 * (b * y' + y' + (fee + b) + 1) := by
    calc
      1000 * ((fee + b + 1) * z) = (fee + b + 1) * (1000 * z) := by ring
      _ ≤ (fee + b + 1) * (997 * y' + 999) := Nat.mul_le_mul_left _ hle
      _ ≤ 1000 * (b * y' + y' + (fee + b) + 1) := by nlinarith
  have hlt : x * o < b * y' + y' + (fee + b) + 1 :=
    lt_of_lt_of_le hz (le_of_mul_le_mul_left hbound (by omega))
  calc
    x * (o + y') = x * o + x * y' := by ring
    _ < b * y' + y' + (fee + b) + 1 + x * y' := Nat.add_lt_add_right hlt _
    _ = (x + b) * y' + y' + (fee + b) + 1 := by ring

/-! ## What a trade brings -/

/-- An input whose trade for `o` would lower the product by less than `e` brings
`r`, rounded down, where `o` exceeds `r + 1` by less than `e / (x + u)`. -/
theorem wanted_lt_of_product {e : ℕ} (hy : o ≤ y)
    (hprod : x * y < (x + u) * (y - o) + e)
    (hr : u * y < (r + 1) * (x + u)) :
    o * (x + u) < (r + 1) * (x + u) + e := by
  obtain ⟨y', rfl⟩ := Nat.exists_eq_add_of_le hy
  rw [Nat.add_sub_cancel_left] at hprod
  have hpaid : o * (x + u) < u * (o + y') + e := by nlinarith
  omega

/-- The smaller of two inputs brings more than the larger one by less than one
unit and the rounding of the price. -/
theorem output_lt_of_input_le {v w : ℕ} (huv : u ≤ v) (hS : 0 < S)
    (hpos : 0 < x + u) (hr : (x + u) * S * r ≤ y * (u * S + r))
    (hw : v * y < (w + 1) * (x + v)) :
    r * ((x + u) * S) < (w + 1) * ((x + u) * S) + y * r := by
  have hcross : u * y * (x + v) ≤ v * y * (x + u) := by
    have hxy : u * (x * y) ≤ v * (x * y) := Nat.mul_le_mul_right _ huv
    nlinarith
  have hu : u * y < (w + 1) * (x + u) := by
    refine lt_of_mul_lt_mul_right (a := x + v) ?_ (Nat.zero_le _)
    calc
      u * y * (x + v) ≤ v * y * (x + u) := hcross
      _ < (w + 1) * (x + v) * (x + u) := Nat.mul_lt_mul_of_pos_right hw hpos
      _ = (w + 1) * (x + u) * (x + v) := by ring
  calc
    r * ((x + u) * S) = (x + u) * S * r := by ring
    _ ≤ y * (u * S + r) := hr
    _ = u * y * S + y * r := by ring
    _ < (w + 1) * (x + u) * S + y * r :=
      Nat.add_lt_add_right (Nat.mul_lt_mul_of_pos_right hu hS) _
    _ = (w + 1) * ((x + u) * S) + y * r := by ring

/-- Inputs that are far enough apart keep their order when each is divided by
its rounded price. -/
theorem cross_floored_price_le {v : ℕ} (huv : u ≤ v) (hy : 0 < y)
    (hspaced : v * (y - 1) ≤ (v - u) * (x * S)) :
    u * ((x + v) * S / y) ≤ v * ((x + u) * S / y) := by
  set b := (x + v) * S / y with hb
  set c := (x + u) * S / y with hc
  obtain ⟨d, rfl⟩ := Nat.exists_eq_add_of_le huv
  rw [Nat.add_sub_cancel_left] at hspaced
  have hlarge : b * y ≤ (x + (u + d)) * S := Nat.div_mul_le_self _ _
  have hsmall : (x + u) * S ≤ c * y + (y - 1) := by
    have hlt := Nat.lt_mul_of_div_lt (Nat.lt_succ_self c) hy
    rw [Nat.succ_mul] at hlt
    omega
  have hscaled : u * b * y + d * (x * S) ≤ (u + d) * c * y + d * (x * S) := by
    calc
      u * b * y + d * (x * S) = u * (b * y) + d * (x * S) := by ring
      _ ≤ u * ((x + (u + d)) * S) + d * (x * S) :=
        Nat.add_le_add_right (Nat.mul_le_mul_left _ hlarge) _
      _ = (u + d) * ((x + u) * S) := by ring
      _ ≤ (u + d) * (c * y + (y - 1)) := Nat.mul_le_mul_left _ hsmall
      _ = (u + d) * c * y + (u + d) * (y - 1) := by ring
      _ ≤ (u + d) * c * y + d * (x * S) := Nat.add_le_add_left hspaced _
  exact le_of_mul_le_mul_right (Nat.le_of_add_le_add_right hscaled) hy

end ConstantProduct
end SoraParachain

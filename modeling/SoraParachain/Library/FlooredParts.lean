import Mathlib.Algebra.BigOperators.Group.List.Basic
import Mathlib.Tactic.Ring

/-!
# Cutting a number by floored shares

A whole is cut into parts by a list of shares of a common denominator, each part
rounded down.  The parts never exceed the whole as long as the shares do not
exceed the denominator.
-/

namespace SoraParachain

/-- The part of `n` that a share of `S` stands for, rounded down. -/
def flooredPart (S n share : ℕ) : ℕ := share * n / S

/-- What the parts of a list of shares add up to. -/
def flooredSum (S n : ℕ) (shares : List ℕ) : ℕ :=
  (shares.map (flooredPart S n)).sum

variable {S n share : ℕ} {shares : List ℕ}

@[simp] theorem flooredSum_nil : flooredSum S n [] = 0 := rfl

@[simp] theorem flooredSum_cons :
    flooredSum S n (share :: shares) =
      flooredPart S n share + flooredSum S n shares := by
  rw [flooredSum, List.map_cons, List.sum_cons, flooredSum]

theorem flooredPart_mul_le : flooredPart S n share * S ≤ share * n :=
  Nat.div_mul_le_self (share * n) S

/-- A share of the whole is no more than the whole. -/
theorem flooredPart_le (h : share ≤ S) :
    flooredPart S n share ≤ n := by
  have hle : share * n ≤ n * S := by
    rw [Nat.mul_comm n S]
    exact Nat.mul_le_mul_right n h
  exact Nat.div_le_of_le_mul (by rwa [Nat.mul_comm S n])

theorem flooredSum_mul_le : flooredSum S n shares * S ≤ shares.sum * n := by
  induction shares with
  | nil => simp
  | cons share rest ih =>
      have hpart : flooredPart S n share * S ≤ share * n := flooredPart_mul_le
      rw [flooredSum_cons, List.sum_cons, Nat.add_mul, Nat.add_mul]
      exact Nat.add_le_add hpart ih

/-- The parts do not exceed the whole. -/
theorem flooredSum_le (hS : 0 < S) (h : shares.sum ≤ S) :
    flooredSum S n shares ≤ n := by
  have hmul : flooredSum S n shares * S ≤ n * S := by
    calc
      flooredSum S n shares * S ≤ shares.sum * n := flooredSum_mul_le
      _ ≤ S * n := Nat.mul_le_mul_right n h
      _ = n * S := Nat.mul_comm S n
  exact Nat.le_of_mul_le_mul_right hmul hS

/-- Each part loses less than one to the rounding. -/
theorem mul_lt_flooredSum_add_length (hS : 0 < S) (h : shares ≠ []) :
    shares.sum * n < (flooredSum S n shares + shares.length) * S := by
  have hpart : ∀ share : ℕ, share * n < (flooredPart S n share + 1) * S :=
    fun share => Nat.lt_mul_of_div_lt (Nat.lt_succ_self _) hS
  induction shares with
  | nil => exact absurd rfl h
  | cons share rest ih =>
      rw [flooredSum_cons, List.sum_cons, List.length_cons]
      have hsplit : (flooredPart S n share + flooredSum S n rest +
          (rest.length + 1)) * S =
        (flooredPart S n share + 1) * S +
          (flooredSum S n rest + rest.length) * S := by ring
      rw [Nat.add_mul, hsplit]
      rcases eq_or_ne rest [] with rfl | hrest
      · have hlt := hpart share
        simp only [List.sum_nil, Nat.zero_mul, flooredSum_nil,
          List.length_nil, Nat.add_zero]
        exact hlt
      · exact Nat.add_lt_add (hpart share) (ih hrest)

/-- Parts of the whole fall short of it by less than their number. -/
theorem lt_flooredSum_add_length (hS : 0 < S) (h : shares.sum = S) :
    n < flooredSum S n shares + shares.length := by
  have hne : shares ≠ [] := by
    rintro rfl
    rw [List.sum_nil] at h
    exact hS.ne h
  have hlt := mul_lt_flooredSum_add_length (n := n) hS hne
  rw [h, Nat.mul_comm S n] at hlt
  exact lt_of_mul_lt_mul_right hlt (Nat.zero_le _)

/-- The whole share leaves nothing out. -/
theorem flooredSum_whole (hS : 0 < S) : flooredSum S n [S] = n := by
  rw [flooredSum_cons, flooredSum_nil, Nat.add_zero, flooredPart]
  exact Nat.mul_div_cancel_left n hS

@[simp] theorem flooredSum_zero : flooredSum S 0 shares = 0 := by
  induction shares with
  | nil => rfl
  | cons share rest ih => simp [flooredPart, ih]

/-- The share of `w` out of `n` parts, rounded down, loses less than half a part,
so `w` is the integer nearest to its `n`-fold. -/
theorem nearest_mul_flooredShare {w : ℕ} (hn : 0 < n) (h : 2 * n ≤ S) :
    (2 * (w * S / n * n) + S) / (2 * S) = w := by
  have hle : w * S / n * n ≤ w * S := Nat.div_mul_le_self _ _
  have hlt : w * S < (w * S / n + 1) * n :=
    Nat.lt_mul_of_div_lt (Nat.lt_succ_self _) hn
  rw [Nat.add_mul, Nat.one_mul] at hlt
  have hdouble : w * (2 * S) = 2 * (w * S) := by ring
  refine Nat.div_eq_of_lt_le ?_ ?_
  · omega
  · rw [Nat.add_mul, hdouble]
    omega

end SoraParachain

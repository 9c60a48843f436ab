import SoraParachain.Common.Primitives
import SoraParachain.Library.FlooredParts

/-!
# Amounts of a swap as fixed-point numbers

An amount is converted to fixed-point numbers to be cut into shares, and back to
balances for the source that receives a share.
-/

namespace SoraParachain

/-- `Fixed` of the runtime. -/
abbrev FixedNumber : Type := Fixed fixedFormat

/-- `SwapAmount<Fixed>`. -/
inductive FixedSwapAmount where
  | withDesiredInput (desiredAmountIn minAmountOut : FixedNumber)
  | withDesiredOutput (desiredAmountOut maxAmountIn : FixedNumber)
  deriving DecidableEq

/-- The numerator is a balance, which may be too large. -/
def fixedOfBalance (n : ℕ) : Option FixedNumber :=
  (Fixed.checked n).toOption

/-- The numerator as a balance, which must not be negative. -/
def balanceOfFixed (x : FixedNumber) : Option ℕ :=
  if 0 ≤ x.bits then some x.bits.toNat else none

/-- The numerator is a balance, or the largest number if that is too large. -/
def saturatedFixed (n : ℕ) : FixedNumber :=
  if h : n < 2 ^ 127 then
    ⟨n, (FixedFormat.fits_natCast fixedFormat).mpr h⟩
  else ⟨2 ^ 127 - 1, fits_max⟩

namespace FixedSwapAmount

/-- `TryFrom<SwapAmount<Balance>>`. -/
def tryFrom : SwapAmount → Option FixedSwapAmount
  | .withDesiredInput desiredAmountIn minAmountOut => do
      let desiredAmountIn ← fixedOfBalance desiredAmountIn
      let minAmountOut ← fixedOfBalance minAmountOut
      pure (.withDesiredInput desiredAmountIn minAmountOut)
  | .withDesiredOutput desiredAmountOut maxAmountIn => do
      let desiredAmountOut ← fixedOfBalance desiredAmountOut
      let maxAmountIn ← fixedOfBalance maxAmountIn
      pure (.withDesiredOutput desiredAmountOut maxAmountIn)

/-- `UniqueSaturatedFrom<SwapAmount<Balance>>`. -/
def uniqueSaturatedFrom : SwapAmount → FixedSwapAmount
  | .withDesiredInput desiredAmountIn minAmountOut =>
      .withDesiredInput (saturatedFixed desiredAmountIn)
        (saturatedFixed minAmountOut)
  | .withDesiredOutput desiredAmountOut maxAmountIn =>
      .withDesiredOutput (saturatedFixed desiredAmountOut)
        (saturatedFixed maxAmountIn)

/-- `TryInto<SwapAmount<Balance>>`. -/
def tryInto : FixedSwapAmount → Option SwapAmount
  | .withDesiredInput desiredAmountIn minAmountOut => do
      let desiredAmountIn ← balanceOfFixed desiredAmountIn
      let minAmountOut ← balanceOfFixed minAmountOut
      pure (.withDesiredInput desiredAmountIn minAmountOut)
  | .withDesiredOutput desiredAmountOut maxAmountIn => do
      let desiredAmountOut ← balanceOfFixed desiredAmountOut
      let maxAmountIn ← balanceOfFixed maxAmountIn
      pure (.withDesiredOutput desiredAmountOut maxAmountIn)

/-- `Mul<Fixed>`: both numbers are multiplied, rounding down. -/
def mul (self : FixedSwapAmount) (rhs : FixedNumber) :
    Except ArithmeticError FixedSwapAmount :=
  match self with
  | .withDesiredInput desiredAmountIn minAmountOut => do
      let desiredAmountIn ← rhs.rmul desiredAmountIn
      let minAmountOut ← rhs.rmul minAmountOut
      pure (.withDesiredInput desiredAmountIn minAmountOut)
  | .withDesiredOutput desiredAmountOut maxAmountIn => do
      let desiredAmountOut ← rhs.rmul desiredAmountOut
      let maxAmountIn ← rhs.rmul maxAmountIn
      pure (.withDesiredOutput desiredAmountOut maxAmountIn)

end FixedSwapAmount

@[simp] theorem fixedOfBalance_eq_some {n : ℕ} {x : FixedNumber} :
    fixedOfBalance n = some x ↔ x.bits = n := by
  unfold fixedOfBalance
  cases h : (Fixed.checked (n : ℤ) : Except ArithmeticError FixedNumber) with
  | ok y =>
      have hy := Fixed.checked_eq_ok.mp h
      simp only [Except.toOption, Option.some.injEq, Fixed.ext_iff, hy]
      exact eq_comm
  | error e =>
      have hne : x.bits ≠ n := by
        intro hx
        rw [Fixed.checked_eq_ok.mpr hx] at h
        cases h
      simp [Except.toOption, hne]

@[simp] theorem balanceOfFixed_eq_some {x : FixedNumber} {n : ℕ} :
    balanceOfFixed x = some n ↔ x.bits = n := by
  unfold balanceOfFixed
  split_ifs with h
  · rw [Option.some.injEq]
    omega
  · simp only [false_iff]
    omega

/-! ## Parts of an amount -/

namespace SwapAmount

/-- Both numbers fit into fixed-point numbers. -/
def Fits : SwapAmount → Prop
  | .withDesiredInput desiredAmountIn minAmountOut =>
      desiredAmountIn < 2 ^ 127 ∧ minAmountOut < 2 ^ 127
  | .withDesiredOutput desiredAmountOut maxAmountIn =>
      desiredAmountOut < 2 ^ 127 ∧ maxAmountIn < 2 ^ 127

/-- The part of an amount that a share stands for. -/
def part (share : ℕ) : SwapAmount → SwapAmount
  | .withDesiredInput desiredAmountIn minAmountOut =>
      .withDesiredInput (flooredPart fixedFormat.scale desiredAmountIn share)
        (flooredPart fixedFormat.scale minAmountOut share)
  | .withDesiredOutput desiredAmountOut maxAmountIn =>
      .withDesiredOutput (flooredPart fixedFormat.scale desiredAmountOut share)
        (flooredPart fixedFormat.scale maxAmountIn share)

end SwapAmount

theorem fixedOfBalance_of_lt {n : ℕ} (h : n < 2 ^ 127) :
    ∃ x, fixedOfBalance n = some x := by
  have hfits := (FixedFormat.fits_natCast fixedFormat).mpr h
  exact ⟨⟨n, hfits⟩, fixedOfBalance_eq_some.mpr rfl⟩

theorem lt_of_fixedOfBalance {n : ℕ} {x : FixedNumber}
    (h : fixedOfBalance n = some x) :
    n < 2 ^ 127 := by
  have hfits := x.fits
  rw [fixedOfBalance_eq_some.mp h] at hfits
  exact (FixedFormat.fits_natCast fixedFormat).mp hfits

theorem exists_mul_eq_part {share x : FixedNumber} {p n : ℕ}
    (hshare : share.bits = p) (hp : p ≤ fixedFormat.scale)
    (hx : fixedOfBalance n = some x) :
    ∃ y, share.rmul x = .ok y ∧
      balanceOfFixed y = some (flooredPart fixedFormat.scale n p) := by
  have hlt : flooredPart fixedFormat.scale n p < fixedFormat.bound :=
    (flooredPart_le hp).trans_lt (lt_of_fixedOfBalance hx)
  obtain ⟨y, hy, hbits⟩ :=
    Fixed.exists_rmul_eq_ok hshare (fixedOfBalance_eq_some.mp hx) hlt
  exact ⟨y, hy, balanceOfFixed_eq_some.mpr hbits⟩

namespace FixedSwapAmount

/-- Both balances of an amount are converted. -/
theorem exists_convert_iff {m n : ℕ}
    {f : FixedNumber → FixedNumber → FixedSwapAmount} :
    (∃ fx, (do
      let x ← fixedOfBalance m
      let y ← fixedOfBalance n
      pure (f x y)) = some fx) ↔ m < 2 ^ 127 ∧ n < 2 ^ 127 := by
  constructor
  · intro h
    obtain ⟨fx, h⟩ := h
    obtain ⟨x, hx, h⟩ := Option.bind_eq_some_iff.mp h
    obtain ⟨y, hy, -⟩ := Option.bind_eq_some_iff.mp h
    exact ⟨lt_of_fixedOfBalance hx, lt_of_fixedOfBalance hy⟩
  · intro h
    obtain ⟨x, hx⟩ := fixedOfBalance_of_lt h.1
    obtain ⟨y, hy⟩ := fixedOfBalance_of_lt h.2
    refine ⟨f x y, ?_⟩
    refine Option.bind_eq_some_iff.mpr ⟨x, hx, ?_⟩
    exact Option.bind_eq_some_iff.mpr ⟨y, hy, rfl⟩

theorem exists_tryFrom_iff {amount : SwapAmount} :
    (∃ fx, tryFrom amount = some fx) ↔ amount.Fits := by
  cases amount with
  | withDesiredInput d m => exact exists_convert_iff
  | withDesiredOutput d m => exact exists_convert_iff

/-- Multiplying with a share no larger than the whole gives the part. -/
theorem exists_mul_tryFrom {amount : SwapAmount} {fx : FixedSwapAmount}
    {share : FixedNumber} {p : ℕ} (hfx : tryFrom amount = some fx)
    (hshare : share.bits = p) (hp : p ≤ fixedFormat.scale) :
    ∃ product, fx.mul share = .ok product ∧
      product.tryInto = some (amount.part p) := by
  cases amount with
  | withDesiredInput d m =>
      rw [tryFrom] at hfx
      obtain ⟨x, hx, hfx⟩ := Option.bind_eq_some_iff.mp hfx
      obtain ⟨y, hy, hfx⟩ := Option.bind_eq_some_iff.mp hfx
      cases hfx
      obtain ⟨x', hx', hxpart⟩ := exists_mul_eq_part hshare hp hx
      obtain ⟨y', hy', hypart⟩ := exists_mul_eq_part hshare hp hy
      refine ⟨.withDesiredInput x' y', ?_, ?_⟩
      · rw [mul, hx', hy']
        rfl
      · rw [tryInto, hxpart, hypart]
        rfl
  | withDesiredOutput d m =>
      rw [tryFrom] at hfx
      obtain ⟨x, hx, hfx⟩ := Option.bind_eq_some_iff.mp hfx
      obtain ⟨y, hy, hfx⟩ := Option.bind_eq_some_iff.mp hfx
      cases hfx
      obtain ⟨x', hx', hxpart⟩ := exists_mul_eq_part hshare hp hx
      obtain ⟨y', hy', hypart⟩ := exists_mul_eq_part hshare hp hy
      refine ⟨.withDesiredOutput x' y', ?_, ?_⟩
      · rw [mul, hx', hy']
        rfl
      · rw [tryInto, hxpart, hypart]
        rfl

end FixedSwapAmount

end SoraParachain

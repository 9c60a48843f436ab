import SoraParachain.Common.SwapAmount
import SoraParachain.Pallets.Config

/-!
# Prices of the bonding curve

The price of the main asset grows linearly with its issuance, so that a quantity
is bought for the area below a line.  The price of a quantity is a difference of
two such areas; the quantity for a price is found by solving for it, with a
square root.  All formulas are evaluated in fixed-point numbers from left to
right, in the order in which they are written.
-/

namespace SoraParachain
namespace BondingCurvePool

inductive SwapKind where
  | buy
  | sell
  deriving DecidableEq

/-- The stored parameters of the curve. -/
structure Curve where
  fee : FixedNumber
  initialPrice : FixedNumber
  priceChangeStep : FixedNumber
  priceChangeRate : FixedNumber
  sellPriceCoefficient : FixedNumber

/-- The parameters that a chain starts with, which no call changes: a fee of
`0.001`, an initial price of `99.3`, a step of `5000`, a rate of `100` and a sell
price of `0.8` of the buy price. -/
def Curve.default : Curve where
  fee := ⟨10 ^ 15, by decide⟩
  initialPrice := ⟨993 * 10 ^ 17, by decide⟩
  priceChangeStep := ⟨5000 * 10 ^ 18, by decide⟩
  priceChangeRate := ⟨100 * 10 ^ 18, by decide⟩
  sellPriceCoefficient := ⟨8 * 10 ^ 17, by decide⟩

/-- Any arithmetic error of a formula is reported as a failed price. -/
def orCalculatePriceFailed {α : Type} (x : Except ArithmeticError α) :
    Result α :=
  okOr (.bondingCurve .calculatePriceFailed) x.toOption

/-- A fixed-point number as a balance, which must not be negative. -/
def tryIntoBalance (x : FixedNumber) : Result ℕ :=
  okOr (.bondingCurve .calculatePriceFailed) (balanceOfFixed x)

/-- A price that is a balance. -/
def Priced (r : Result FixedNumber) (n : ℕ) : Prop :=
  ∃ x, r = .ok x ∧ x.bits = n

namespace Curve

variable (curve : Curve)

/-- `(Q / (2 * PC_S * PC_R) + P_I) * Q`, the price of everything up to an
issuance. -/
def priceUpTo (Q : FixedWrapper) : FixedWrapper :=
  let twoTimesStepTimesRate :=
    (FixedWrapper.balanceMul (balance 2)
      (.ofFixed curve.priceChangeStep)).mulFixed curve.priceChangeRate
  (Q / twoTimesStepTimesRate).addFixed curve.initialPrice * Q

/-- The collateral that a quantity of the main asset costs, or brings in. -/
def priceForMainAsset (totalIssuance quantity : ℕ) (kind : SwapKind) :
    Result FixedNumber :=
  let Q := FixedWrapper.ofBalance totalIssuance
  let QPrime :=
    match kind with
    | .buy => Q.addBalance quantity
    | .sell => Q.subBalance quantity
  let upTo := curve.priceUpTo QPrime
  let upFrom := curve.priceUpTo Q
  let price :=
    match kind with
    | .buy => upTo - upFrom
    | .sell => .fixedMul curve.sellPriceCoefficient (upFrom - upTo)
  orCalculatePriceFailed price.inner

/-- The quantity of the main asset that a collateral buys, or that must be sold
for it. -/
def priceForCollateralAsset (totalIssuance quantity : ℕ) (kind : SwapKind) :
    Result FixedNumber :=
  let Q := FixedWrapper.ofBalance totalIssuance
  let initialPrice := FixedWrapper.ofFixed curve.initialPrice
  let step := FixedWrapper.ofFixed curve.priceChangeStep
  let rate := FixedWrapper.ofFixed curve.priceChangeRate
  let outPrice := FixedWrapper.ofBalance quantity
  let stepTimesRate := step * rate
  let timesInitialPrice := stepTimesRate * initialPrice
  let timesInitialPriceSquared := timesInitialPrice * initialPrice
  let price :=
    match kind with
    | .buy =>
        let squared := Q * Q
        let innerTermA :=
          FixedWrapper.balanceMul (balance 2) Q * timesInitialPrice
        let innerTermB := step * rate *
          (timesInitialPriceSquared +
            FixedWrapper.balanceMul (balance 2) outPrice)
        let underSqrt := squared + innerTermA + innerTermB
        underSqrt.sqrtAccurate - Q - timesInitialPrice
    | .sell =>
        let coefficient := FixedWrapper.ofFixed curve.sellPriceCoefficient
        let innerTermA :=
          Q * coefficient / stepTimesRate + initialPrice * coefficient
        let innerTermB :=
          FixedWrapper.balanceMul (balance 2) coefficient * outPrice /
            stepTimesRate
        let underSqrt := innerTermA * innerTermA - innerTermB
        Q + timesInitialPrice -
          stepTimesRate * underSqrt.sqrtAccurate / coefficient
  orCalculatePriceFailed price.inner

end Curve

/-! ## Fees -/

/-- The fee on an amount, rounded down. -/
def Curve.feeOn (curve : Curve) (amount : ℕ) : ℤ :=
  (curve.fee.bits * amount).fdiv fixedFormat.scale

/-- The curve can compute a fee on an amount, and it is this one. -/
structure Curve.Charges (curve : Curve) (amount fee : ℕ) : Prop where
  amount_lt : amount < 2 ^ 127
  fee_eq : (fee : ℤ) = curve.feeOn amount
  fee_lt : fee < 2 ^ 127

/-- An amount without the fee on it. -/
def Curve.net (curve : Curve) (amount : ℕ) : ℕ :=
  wrappingSub amount (curve.feeOn amount).toNat

@[simp] theorem orCalculatePriceFailed_eq_ok {α : Type}
    {x : Except ArithmeticError α} {a : α} :
    orCalculatePriceFailed x = .ok a ↔ x = .ok a := by
  rw [orCalculatePriceFailed, okOr_eq_ok, Tx.toOption_eq_some]

@[simp] theorem tryIntoBalance_eq_ok {x : FixedNumber} {n : ℕ} :
    tryIntoBalance x = .ok n ↔ x.bits = n := by
  rw [tryIntoBalance, okOr_eq_ok, balanceOfFixed_eq_some]

theorem Priced.unique {r : Result FixedNumber} {n m : ℕ} (hn : Priced r n)
    (hm : Priced r m) :
    n = m := by
  obtain ⟨x, hx, hxn⟩ := hn
  obtain ⟨y, hy, hym⟩ := hm
  rw [hx, Except.ok.injEq] at hy
  rw [← hy, hxn] at hym
  exact_mod_cast hym

theorem Priced.lt {r : Result FixedNumber} {n : ℕ} (hn : Priced r n) :
    n < 2 ^ 127 := by
  obtain ⟨x, -, hx⟩ := hn
  have hfits := x.fits
  rw [hx] at hfits
  exact (FixedFormat.fits_natCast fixedFormat).mp hfits

namespace Curve

variable {curve : Curve} {amount fee : ℕ}

theorem holds_fee {z : ℤ} :
    (FixedWrapper.ofFixed curve.fee * FixedWrapper.ofBalance amount).Holds z ↔
      amount < 2 ^ 127 ∧ z = curve.feeOn amount ∧
        fixedFormat.Fits (curve.feeOn amount) := by
  rw [FixedWrapper.holds_mul]
  constructor
  · intro h
    obtain ⟨x, y, hx, hy, hz, hfits⟩ := h
    rw [FixedWrapper.holds_ofFixed] at hx
    obtain ⟨hy, hlt⟩ := FixedWrapper.holds_ofBalance.mp hy
    rw [hx, hy] at hz hfits
    exact ⟨hlt, hz, hfits⟩
  · intro h
    obtain ⟨hlt, hz, hfits⟩ := h
    exact ⟨curve.fee.bits, amount, FixedWrapper.holds_ofFixed.mpr rfl,
      FixedWrapper.holds_ofBalance.mpr ⟨rfl, hlt⟩, hz, hfits⟩

/-- The fee of a computation that succeeds is the fee that is charged. -/
theorem tryIntoBalance_fee :
    (FixedWrapper.ofFixed curve.fee *
        FixedWrapper.ofBalance amount).tryIntoBalance = .ok fee ↔
      curve.Charges amount fee := by
  rw [FixedWrapper.tryIntoBalance_eq_ok, holds_fee]
  constructor
  · intro h
    obtain ⟨hlt, hfee, hfits⟩ := h
    rw [← hfee] at hfits
    exact ⟨hlt, hfee, (FixedFormat.fits_natCast fixedFormat).mp hfits⟩
  · intro h
    refine ⟨h.amount_lt, h.fee_eq, ?_⟩
    rw [← h.fee_eq]
    exact (FixedFormat.fits_natCast fixedFormat).mpr h.fee_lt

theorem Charges.toNat_feeOn (h : curve.Charges amount fee) :
    (curve.feeOn amount).toNat = fee := by
  rw [← h.fee_eq]
  exact Int.toNat_natCast fee

theorem Charges.net_eq (h : curve.Charges amount fee) :
    curve.net amount = wrappingSub amount fee := by
  rw [net, h.toNat_feeOn]

/-- Only a fee of zero leaves the amount as it is. -/
theorem Charges.net_eq_self_iff (h : curve.Charges amount fee) :
    curve.net amount = amount ↔ curve.feeOn amount = 0 := by
  rw [h.net_eq, ← h.fee_eq, wrappingSub]
  have hamount := h.amount_lt
  have hfee := h.fee_lt
  have hmodulus : 2 ^ 127 < balanceModulus := by decide
  split_ifs with hle
  · omega
  · omega

end Curve

end BondingCurvePool
end SoraParachain

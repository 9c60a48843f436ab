import Mathlib.Algebra.Order.Field.Rat
import Mathlib.Tactic.FieldSimp
import Mathlib.Tactic.NormNum
import Mathlib.Tactic.Positivity
import SoraParachain.BondingCurvePool.DefaultCurve
import SoraParachain.BondingCurvePool.Exchange
import SoraParachain.BondingCurvePool.Mock

/-!
# Purchases against the exact curve

What the curve is for: the main asset up to an issuance `x` costs
`x² / (2 · PC_S · PC_R) + P_I · x`, a rational number.  A purchase for a given
collateral never costs more along this curve than the collateral, and two more
units of the last decimal would.
-/

namespace SoraParachain
namespace BondingCurvePool

/-- A fixed-point number as the rational number that it stands for. -/
def toRat (x : FixedNumber) : ℚ :=
  x.bits / fixedFormat.scale

/-- A balance as a rational number of whole units. -/
def wholeUnits (n : ℕ) : ℚ :=
  n / fixedFormat.scale

/-- The price of everything up to an issuance, in exact arithmetic. -/
def Curve.exactPriceUpTo (curve : Curve) (x : ℚ) : ℚ :=
  x ^ 2 / (2 * toRat curve.priceChangeStep * toRat curve.priceChangeRate) +
    toRat curve.initialPrice * x

theorem default_exactPriceUpTo (x : ℚ) :
    Curve.default.exactPriceUpTo x = x ^ 2 / (2 * 5000 * 100) + 993 / 10 * x := by
  have hstep : toRat Curve.default.priceChangeStep = 5000 := by
    norm_num [toRat, Curve.default]
  have hrate : toRat Curve.default.priceChangeRate = 100 := by
    norm_num [toRat, Curve.default]
  have hprice : toRat Curve.default.initialPrice = 993 / 10 := by
    norm_num [toRat, Curve.default]
  rw [Curve.exactPriceUpTo, hstep, hrate, hprice]

/-- In units of the last decimal the price is the area below the line. -/
theorem exactPriceUpTo_wholeUnits (n : ℕ) :
    Curve.default.exactPriceUpTo (wholeUnits n) =
      defaultSlope.exact n / 10 ^ 42 := by
  have hexact : (defaultSlope.exact n : ℚ) =
      (n : ℚ) * n + 10 ^ 6 * (993 * 10 ^ 17) * n := by
    simp only [Slope.exact, defaultSlope]
    push_cast
    ring
  have hscale : wholeUnits n = n / 10 ^ 18 := by
    norm_num [wholeUnits]
  rw [default_exactPriceUpTo, hexact, hscale]
  ring

/-- The price between two issuances against an amount of the collateral. -/
theorem exactPriceUpTo_sub_le_iff {m n p : ℕ} :
    Curve.default.exactPriceUpTo (wholeUnits n) -
        Curve.default.exactPriceUpTo (wholeUnits m) ≤ wholeUnits p ↔
      defaultSlope.exact n ≤ defaultSlope.exact m + 10 ^ 24 * p := by
  have hscale : wholeUnits p = 10 ^ 24 * p / 10 ^ 42 := by
    norm_num [wholeUnits]
    ring
  rw [exactPriceUpTo_wholeUnits, exactPriceUpTo_wholeUnits, hscale,
    sub_le_iff_le_add, ← add_div, div_le_div_iff_of_pos_right (by positivity),
    add_comm (10 ^ 24 * (p : ℚ))]
  exact_mod_cast Iff.rfl

section

variable {issuance collateral : ℕ} {x : FixedNumber}

/-- A positive collateral never buys a negative quantity. -/
theorem collateral_buy_nonneg (hpos : 0 < collateral)
    (h : Curve.default.priceForCollateralAsset issuance collateral .buy =
      .ok x) :
    0 ≤ x.bits := by
  have hroot := collateral_buy_root h
  have hscaled := underSqrt_mul_scale issuance collateral
  have hmod : issuance * issuance % 10 ^ 18 < 10 ^ 18 :=
    Nat.mod_lt _ (by decide)
  have hle : issuance + 4965 * 10 ^ 22 ≤
      Nat.sqrt (underSqrt issuance collateral * 10 ^ 18) := by
    rw [Nat.le_sqrt]
    omega
  omega

/-- Two more units than a collateral buys cost more than the collateral. -/
theorem lt_exact_of_collateral_buy {n : ℕ} (hn : x.bits = n)
    (h : Curve.default.priceForCollateralAsset issuance collateral .buy =
      .ok x) :
    defaultSlope.exact issuance + 10 ^ 24 * collateral <
      defaultSlope.exact (issuance + n + 2) := by
  have hroot := collateral_buy_root h
  have hscaled := underSqrt_mul_scale issuance collateral
  have hmod : issuance * issuance % 10 ^ 18 < 10 ^ 18 :=
    Nat.mod_lt _ (by decide)
  have hnext := Nat.lt_succ_sqrt (underSqrt issuance collateral * 10 ^ 18)
  have hsum : Nat.sqrt (underSqrt issuance collateral * 10 ^ 18) =
      issuance + n + 4965 * 10 ^ 22 := by
    rw [hn, add_comm (n : ℤ)] at hroot
    exact_mod_cast hroot.symm
  rw [hsum] at hnext
  -- The next square but one is further off than the flooring of the square.
  have hsquare : (issuance + 4965 * 10 ^ 22) * (issuance + 4965 * 10 ^ 22) +
        10 ^ 24 * collateral <
      (issuance + n + 2 + 4965 * 10 ^ 22) *
        (issuance + n + 2 + 4965 * 10 ^ 22) := by
    rw [← hscaled]
    have hgap : (issuance + n + 4965 * 10 ^ 22).succ *
          (issuance + n + 4965 * 10 ^ 22).succ + 10 ^ 18 ≤
        (issuance + n + 2 + 4965 * 10 ^ 22) *
          (issuance + n + 2 + 4965 * 10 ^ 22) := by
      rw [Nat.succ_eq_add_one]
      nlinarith
    exact (Nat.add_lt_add hnext hmod).trans_le hgap
  change issuance * issuance + 10 ^ 6 * (993 * 10 ^ 17) * issuance +
      10 ^ 24 * collateral <
    (issuance + n + 2) * (issuance + n + 2) +
      10 ^ 6 * (993 * 10 ^ 17) * (issuance + n + 2)
  linarith

end

variable {T : Config} {P : Pool T} {s : Storage T} {mainAssetId : T.AssetId}
variable {collateral : ℕ} {x : FixedNumber}

/-- What a collateral buys costs no more than the collateral along the exact
curve, and two units of the last decimal on top would cost more. -/
theorem collateral_buy_accurate (hcurve : P.curve = .default)
    (hpos : 0 < collateral)
    (h : P.priceForCollateralAsset s mainAssetId collateral .buy = .ok x) :
    0 ≤ x.bits ∧
      P.curve.exactPriceUpTo
            (wholeUnits (s.issuance mainAssetId) + toRat x) -
          P.curve.exactPriceUpTo (wholeUnits (s.issuance mainAssetId)) ≤
        wholeUnits collateral ∧
      wholeUnits collateral <
        P.curve.exactPriceUpTo
            (wholeUnits (s.issuance mainAssetId) + toRat x + 2 / 10 ^ 18) -
          P.curve.exactPriceUpTo (wholeUnits (s.issuance mainAssetId)) := by
  rw [hcurve]
  have hprice := (Pool.priceForCollateralAsset_eq_ok.mp h).2
  rw [hcurve] at hprice
  generalize s.issuance mainAssetId = issuance at hprice ⊢
  have hnonneg := collateral_buy_nonneg hpos hprice
  obtain ⟨n, hn⟩ := Int.eq_ofNat_of_zero_le hnonneg
  have hunits : wholeUnits issuance + toRat x = wholeUnits (issuance + n) := by
    rw [wholeUnits, wholeUnits, toRat, hn, Nat.cast_add, add_div]
    rfl
  have htwo : wholeUnits (issuance + n) + 2 / 10 ^ 18 =
      wholeUnits (issuance + n + 2) := by
    have hscale : ((10 ^ 18 : ℕ) : ℚ) = 10 ^ 18 := by norm_num
    rw [wholeUnits, wholeUnits, Nat.cast_add _ 2, add_div]
    change _ = _ + ((2 : ℕ) : ℚ) / ((10 ^ 18 : ℕ) : ℚ)
    rw [hscale]
    rfl
  rw [hunits, htwo]
  refine ⟨hnonneg, ?_, ?_⟩
  · exact exactPriceUpTo_sub_le_iff.mpr
      (priced_collateral_buy ⟨x, hprice, hn⟩)
  · rw [← not_le, exactPriceUpTo_sub_le_iff, not_le]
    exact lt_exact_of_collateral_buy hn hprice

theorem collateral_buy_accurate_unit :
    ∃ x, Mock.curvePool.priceForCollateralAsset (Mock.curveWith 0)
          Mock.goldenTicket Mock.unit .buy = .ok x ∧
      0 ≤ x.bits ∧
        Mock.curvePool.curve.exactPriceUpTo
              (wholeUnits ((Mock.curveWith 0).issuance Mock.goldenTicket) +
                toRat x) -
            Mock.curvePool.curve.exactPriceUpTo
              (wholeUnits ((Mock.curveWith 0).issuance Mock.goldenTicket)) ≤
          wholeUnits Mock.unit ∧
        wholeUnits Mock.unit <
          Mock.curvePool.curve.exactPriceUpTo
              (wholeUnits ((Mock.curveWith 0).issuance Mock.goldenTicket) +
                toRat x + 2 / 10 ^ 18) -
            Mock.curvePool.curve.exactPriceUpTo
              (wholeUnits ((Mock.curveWith 0).issuance Mock.goldenTicket)) := by
  have hsome : (Mock.curvePool.priceForCollateralAsset (Mock.curveWith 0)
      Mock.goldenTicket Mock.unit .buy).toOption.isSome = true := by
    decide +kernel
  obtain ⟨x, hx⟩ := Option.isSome_iff_exists.mp hsome
  have hok := Tx.toOption_eq_some.mp hx
  exact ⟨x, hok, collateral_buy_accurate rfl (by decide) hok⟩

end BondingCurvePool
end SoraParachain

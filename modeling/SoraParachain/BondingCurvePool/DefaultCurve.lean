import SoraParachain.BondingCurvePool.Pricing
import SoraParachain.Library.FlooredQuadratic

/-!
# The curve of a chain

With the parameters that a chain starts with, everything up to an issuance costs
a quadratic of it, evaluated with floors.  A price is a difference of two such
values, and what a collateral buys never costs more than the collateral along the
exact curve.
-/

namespace SoraParachain
namespace BondingCurvePool

open FixedWrapper

/-- A price that rises by one every million units, from `99.3`. -/
def defaultSlope : Slope where
  d := 10 ^ 6
  b := 993 * 10 ^ 17
  c := 10 ^ 18
  d_pos := by decide
  c_pos := fixedFormat.scale_pos

section

variable {a : FixedWrapper} {q n : ℕ} {z : ℤ}

theorem holds_twoTimesStepTimesRate :
    ((FixedWrapper.balanceMul (balance 2)
      (.ofFixed Curve.default.priceChangeStep)).mulFixed
        Curve.default.priceChangeRate).Holds (10 ^ 24 : ℕ) :=
  ⟨⟨10 ^ 24, by decide⟩, by decide +kernel, by decide⟩

theorem holds_stepTimesRate :
    (FixedWrapper.ofFixed Curve.default.priceChangeStep *
      FixedWrapper.ofFixed Curve.default.priceChangeRate).Holds
        (5 * 10 ^ 23 : ℕ) :=
  ⟨⟨5 * 10 ^ 23, by decide⟩, by decide +kernel, by decide⟩

theorem holds_timesInitialPrice :
    (FixedWrapper.ofFixed Curve.default.priceChangeStep *
      FixedWrapper.ofFixed Curve.default.priceChangeRate *
        FixedWrapper.ofFixed Curve.default.initialPrice).Holds
          (4965 * 10 ^ 22 : ℕ) :=
  ⟨⟨4965 * 10 ^ 22, by decide⟩, by decide +kernel, by decide⟩

theorem holds_timesInitialPriceSquared :
    (FixedWrapper.ofFixed Curve.default.priceChangeStep *
      FixedWrapper.ofFixed Curve.default.priceChangeRate *
        FixedWrapper.ofFixed Curve.default.initialPrice *
          FixedWrapper.ofFixed Curve.default.initialPrice).Holds
            (4930245 * 10 ^ 21 : ℕ) :=
  ⟨⟨4930245 * 10 ^ 21, by decide⟩, by decide +kernel, by decide⟩

/-- Doubling a balance is exact. -/
theorem holds_double
    (h : (FixedWrapper.balanceMul (balance 2) (ofBalance q)).Holds z) :
    z = (2 * q : ℕ) := by
  rw [holds_balanceMul] at h
  obtain ⟨-, y, -, hy, -⟩ := holds_mul.mp h
  have hq : (ofBalance q).Holds q :=
    holds_ofBalance.mpr ⟨rfl, (holds_ofBalance.mp hy).2⟩
  have htwo : (ofBalance (balance 2)).Holds (2 * 10 ^ 18 : ℕ) :=
    holds_ofBalance.mpr ⟨rfl, by decide⟩
  have hdouble : 2 * 10 ^ 18 * q / 10 ^ 18 = 2 * q := by
    rw [Nat.mul_right_comm]
    exact Nat.mul_div_left (2 * q) (by decide)
  rw [← hdouble]
  exact ((holds_mul_nat htwo hq).mp h).1

/-- Everything up to an issuance costs the floored area, also below zero. -/
theorem priceUpTo_of_holds_at {m : ℤ} (ha : a.Holds m)
    (h : (Curve.default.priceUpTo a).Holds z) :
    z = defaultSlope.flooredAt m := by
  unfold Curve.priceUpTo at h
  dsimp only at h
  obtain ⟨x, y, hx, hy, hz, -⟩ := holds_mul.mp h
  rw [holds_addFixed] at hx
  obtain ⟨v, w, hv, hw, hvw, -⟩ := holds_add.mp hx
  obtain ⟨m', t, hm', ht, -, hquotient, -⟩ := holds_div.mp hv
  rw [hm'.unique ha, ht.unique holds_twoTimesStepTimesRate] at hquotient
  have hscale : (fixedFormat.scale : ℤ) = 10 ^ 18 := rfl
  have hdiv : v = m / 10 ^ 6 := by
    rw [hquotient, hscale, Int.fdiv_eq_ediv_of_nonneg _ (Int.natCast_nonneg _)]
    exact Int.mul_ediv_mul_of_pos_left m (10 ^ 6)
      (by decide : (0 : ℤ) < 10 ^ 18)
  rw [holds_ofFixed] at hw
  have hprice : w = 993 * 10 ^ 17 := hw
  rw [hz, hvw, hdiv, hprice, hy.unique ha, hscale,
    Int.fdiv_eq_ediv_of_nonneg _ (by decide)]
  rfl

theorem priceUpTo_of_holds (ha : a.Holds q)
    (h : (Curve.default.priceUpTo a).Holds z) :
    z = defaultSlope.floored q := by
  rw [priceUpTo_of_holds_at ha h, Slope.flooredAt_natCast]

variable {totalIssuance quantity : ℕ}

/-- A purchase costs the area that it adds. -/
theorem priced_main_buy
    (h : Priced (Curve.default.priceForMainAsset totalIssuance quantity .buy)
      n) :
    defaultSlope.floored totalIssuance + n =
      defaultSlope.floored (totalIssuance + quantity) := by
  obtain ⟨x, hx, hn⟩ := h
  rw [Curve.priceForMainAsset, orCalculatePriceFailed_eq_ok] at hx
  obtain ⟨v, w, hv, hw, hdiff, -⟩ := holds_sub.mp ⟨x, hx, hn⟩
  have hQ : (ofBalance totalIssuance).Holds totalIssuance := by
    obtain ⟨-, y, -, hy, -⟩ := holds_mul.mp hw
    obtain ⟨rfl, hlt⟩ := holds_ofBalance.mp hy
    exact holds_ofBalance.mpr ⟨rfl, hlt⟩
  have hQ' : ((ofBalance totalIssuance).addBalance quantity).Holds
      (totalIssuance + quantity : ℕ) := by
    obtain ⟨-, y, -, hy, -⟩ := holds_mul.mp hv
    obtain ⟨rfl, hlt⟩ := (holds_addBalance_nat hQ).mp hy
    exact (holds_addBalance_nat hQ).mpr ⟨rfl, hlt⟩
  rw [priceUpTo_of_holds hQ' hv, priceUpTo_of_holds hQ hw] at hdiff
  omega

/-- A sale brings in four fifths of the area that it takes away, rounded down. -/
theorem priced_main_sell_eq
    (h : Priced (Curve.default.priceForMainAsset totalIssuance quantity .sell)
      n) :
    (n : ℤ) = 4 * (defaultSlope.floored totalIssuance -
      defaultSlope.flooredAt (totalIssuance - quantity)) / 5 := by
  obtain ⟨x, hx, hn⟩ := h
  rw [Curve.priceForMainAsset, orCalculatePriceFailed_eq_ok] at hx
  obtain ⟨u, v, hu, hv, hprod, -⟩ :=
    holds_mul.mp (holds_fixedMul.mp ⟨x, hx, hn⟩)
  rw [holds_ofFixed] at hu
  obtain ⟨w, y, hw, hy, hdiff, -⟩ := holds_sub.mp hv
  have hQ : (ofBalance totalIssuance).Holds totalIssuance := by
    obtain ⟨-, y', -, hy', -⟩ := holds_mul.mp hw
    obtain ⟨rfl, hlt⟩ := holds_ofBalance.mp hy'
    exact holds_ofBalance.mpr ⟨rfl, hlt⟩
  have hQ' : ((ofBalance totalIssuance).subBalance quantity).Holds
      ((totalIssuance : ℤ) - quantity) := by
    obtain ⟨-, y', -, hy', -⟩ := holds_mul.mp hy
    rw [holds_subBalance] at hy' ⊢
    obtain ⟨-, m, -, hm, -⟩ := holds_sub.mp hy'
    obtain ⟨rfl, hlt⟩ := holds_ofBalance.mp hm
    exact (holds_sub_nat hQ (holds_ofBalance.mpr ⟨rfl, hlt⟩)).mpr rfl
  rw [priceUpTo_of_holds hQ hw, priceUpTo_of_holds_at hQ' hy] at hdiff
  have hcoefficient : u = 8 * 10 ^ 17 := hu
  have hscale : (fixedFormat.scale : ℤ) = 10 ^ 18 := rfl
  rw [hprod, hcoefficient, hdiff, hscale,
    Int.fdiv_eq_ediv_of_nonneg _ (by decide)]
  omega

/-- Of what was issued it brings in no more than that. -/
theorem priced_main_sell (hle : quantity ≤ totalIssuance)
    (h : Priced (Curve.default.priceForMainAsset totalIssuance quantity .sell)
      n) :
    10 * n + 8 * defaultSlope.floored (totalIssuance - quantity) ≤
      8 * defaultSlope.floored totalIssuance := by
  have hproceeds := priced_main_sell_eq h
  rw [← Nat.cast_sub hle, Slope.flooredAt_natCast] at hproceeds
  omega

/-- The term below the square root: the square of the issuance shifted to where
the line meets zero, grown by the collateral. -/
theorem holds_underSqrt
    (h : (ofBalance q * ofBalance q +
        FixedWrapper.balanceMul (balance 2) (ofBalance q) *
          (FixedWrapper.ofFixed Curve.default.priceChangeStep *
            FixedWrapper.ofFixed Curve.default.priceChangeRate *
              FixedWrapper.ofFixed Curve.default.initialPrice) +
        FixedWrapper.ofFixed Curve.default.priceChangeStep *
            FixedWrapper.ofFixed Curve.default.priceChangeRate *
          (FixedWrapper.ofFixed Curve.default.priceChangeStep *
              FixedWrapper.ofFixed Curve.default.priceChangeRate *
                FixedWrapper.ofFixed Curve.default.initialPrice *
                  FixedWrapper.ofFixed Curve.default.initialPrice +
            FixedWrapper.balanceMul (balance 2) (ofBalance n))).Holds z) :
    z = (q * q / 10 ^ 18 + 99300000 * q +
      500000 * (4930245 * 10 ^ 21 + 2 * n) : ℕ) := by
  obtain ⟨x, y, hx, hy, hz, -⟩ := holds_add.mp h
  obtain ⟨u, v, hu, hv, huv, -⟩ := holds_add.mp hx
  have hsquare : u = (q * q / 10 ^ 18 : ℕ) := by
    obtain ⟨w, -, hw, -⟩ := holds_mul.mp hu
    have hq : (ofBalance q).Holds q :=
      holds_ofBalance.mpr ⟨rfl, (holds_ofBalance.mp hw).2⟩
    exact ((holds_mul_nat hq hq).mp hu).1
  have hlinear : v = (99300000 * q : ℕ) := by
    obtain ⟨w, -, hw, -⟩ := holds_mul.mp hv
    rw [holds_double hw] at hw
    have hprod := ((holds_mul_nat hw holds_timesInitialPrice).mp hv).1
    have hexact : 2 * q * (4965 * 10 ^ 22) = 99300000 * q * 10 ^ 18 := by
      ring
    rw [hprod, hexact, Nat.mul_div_left _ (by decide)]
  have hconstant : y = (500000 * (4930245 * 10 ^ 21 + 2 * n) : ℕ) := by
    obtain ⟨-, w, -, hw, -⟩ := holds_mul.mp hy
    have hsum := hw
    obtain ⟨c, d, hc, hd, hcd, -⟩ := holds_add.mp hw
    rw [hcd, holds_double hd, hc.unique holds_timesInitialPriceSquared,
      ← Int.natCast_add] at hsum
    have hprod := ((holds_mul_nat holds_stepTimesRate hsum).mp hy).1
    have hexact : 5 * 10 ^ 23 * (4930245 * 10 ^ 21 + 2 * n) =
        500000 * (4930245 * 10 ^ 21 + 2 * n) * 10 ^ 18 := by
      ring
    rw [hprod, hexact, Nat.mul_div_left _ (by decide)]
  rw [hz, huv, hsquare, hlinear, hconstant, ← Int.natCast_add,
    ← Int.natCast_add]

/-- The number below the square root for an issuance and a collateral. -/
def underSqrt (q n : ℕ) : ℕ :=
  q * q / 10 ^ 18 + 99300000 * q + 500000 * (4930245 * 10 ^ 21 + 2 * n)

/-- Scaled up, it is the square of the shifted issuance, grown by the collateral,
up to the flooring of a square. -/
theorem underSqrt_mul_scale (q n : ℕ) :
    underSqrt q n * 10 ^ 18 + q * q % 10 ^ 18 =
      (q + 4965 * 10 ^ 22) * (q + 4965 * 10 ^ 22) + 10 ^ 24 * n := by
  have hfloor : q * q / 10 ^ 18 * 10 ^ 18 + q * q % 10 ^ 18 = q * q :=
    Nat.div_add_mod' _ _
  unfold underSqrt
  linarith

/-- What a collateral buys is the root without the shifted issuance. -/
theorem collateral_buy_root {x : FixedNumber}
    (h : Curve.default.priceForCollateralAsset totalIssuance quantity .buy =
      .ok x) :
    x.bits + totalIssuance + (4965 * 10 ^ 22 : ℕ) =
      Nat.sqrt (underSqrt totalIssuance quantity * 10 ^ 18) := by
  rw [Curve.priceForCollateralAsset, orCalculatePriceFailed_eq_ok] at h
  obtain ⟨u, v, hu, hv, hdiff, -⟩ := holds_sub.mp ⟨x, h, rfl⟩
  obtain ⟨r, w, hr, hw, hrw, -⟩ := holds_sub.mp hu
  obtain ⟨hw, -⟩ := holds_ofBalance.mp hw
  have hX := hv.unique holds_timesInitialPrice
  obtain ⟨m, hm⟩ := hr.of_sqrtAccurate
  rw [holds_underSqrt hm] at hm
  have hroot := (holds_sqrtAccurate_nat hm).mp hr
  rw [underSqrt, ← hroot]
  omega

/-- What a collateral buys costs no more than the collateral along the exact
curve. -/
theorem priced_collateral_buy
    (h : Priced
      (Curve.default.priceForCollateralAsset totalIssuance quantity .buy) n) :
    defaultSlope.exact (totalIssuance + n) ≤
      defaultSlope.exact totalIssuance + 10 ^ 24 * quantity := by
  obtain ⟨x, hx, hn⟩ := h
  have hroot := collateral_buy_root hx
  have hsum : totalIssuance + n + 4965 * 10 ^ 22 =
      Nat.sqrt (underSqrt totalIssuance quantity * 10 ^ 18) := by
    rw [hn] at hroot
    generalize Nat.sqrt _ = root at hroot ⊢
    omega
  have hscaled := underSqrt_mul_scale totalIssuance quantity
  have hsquare : (totalIssuance + n + 4965 * 10 ^ 22) *
        (totalIssuance + n + 4965 * 10 ^ 22) ≤
      (totalIssuance + 4965 * 10 ^ 22) * (totalIssuance + 4965 * 10 ^ 22) +
        10 ^ 24 * quantity := by
    rw [hsum, ← hscaled]
    exact (Nat.sqrt_le _).trans (Nat.le_add_right _ _)
  change (totalIssuance + n) * (totalIssuance + n) +
      10 ^ 6 * (993 * 10 ^ 17) * (totalIssuance + n) ≤
    totalIssuance * totalIssuance + 10 ^ 6 * (993 * 10 ^ 17) * totalIssuance +
      10 ^ 24 * quantity
  linarith

end
end BondingCurvePool
end SoraParachain

import SoraParachain.BondingCurvePool.DefaultCurve
import SoraParachain.BondingCurvePool.Exchange
import SoraParachain.BondingCurvePool.Mock

/-!
# Sales for a desired collateral

The quantity to sell for a collateral takes the issuance, shifted to where the line
meets zero, down to a multiple of `625000`.  The collateral enters as a number of
parts of `312500` units, rounded down, so that less than a part is not charged for.
On top of that the floored area may fall short of the exact one, by up to seven
tenths of a unit for every whole unit that is issued or sold.
-/

namespace SoraParachain
namespace BondingCurvePool

open FixedWrapper

section

variable {a : FixedWrapper} {q n r : ℕ} {z : ℤ}

/-! ## The quantity to sell -/

theorem holds_sellPriceCoefficient :
    (FixedWrapper.ofFixed Curve.default.sellPriceCoefficient).Holds
      (8 * 10 ^ 17 : ℕ) :=
  holds_ofFixed.mpr rfl

theorem holds_doubleCoefficient :
    (FixedWrapper.balanceMul (balance 2)
      (.ofFixed Curve.default.sellPriceCoefficient)).Holds
        (16 * 10 ^ 17 : ℕ) :=
  ⟨⟨16 * 10 ^ 17, by decide⟩, by decide +kernel, by decide⟩

theorem holds_initialSellPrice :
    (FixedWrapper.ofFixed Curve.default.initialPrice *
      FixedWrapper.ofFixed Curve.default.sellPriceCoefficient).Holds
        (7944 * 10 ^ 16 : ℕ) :=
  ⟨⟨7944 * 10 ^ 16, by decide⟩, by decide +kernel, by decide⟩

/-- The sell price at an issuance: the shifted issuance by the scaled slope. -/
def sellPriceAt (q : ℕ) : ℕ := (q + 4965 * 10 ^ 22) / 625000

theorem holds_sellPriceAt
    (h : (ofBalance q * ofFixed Curve.default.sellPriceCoefficient /
        (ofFixed Curve.default.priceChangeStep *
          ofFixed Curve.default.priceChangeRate) +
      ofFixed Curve.default.initialPrice *
        ofFixed Curve.default.sellPriceCoefficient).Holds z) :
    z = sellPriceAt q := by
  obtain ⟨v, w, hv, hw, hz, -⟩ := holds_add.mp h
  obtain ⟨⟨p, hp⟩, -⟩ := Holds.of_div hv
  obtain ⟨y, -, hy, -⟩ := holds_mul.mp hp
  have hq : (ofBalance q).Holds q :=
    holds_ofBalance.mpr ⟨rfl, (holds_ofBalance.mp hy).2⟩
  have hproduct := ((holds_mul_nat hq holds_sellPriceCoefficient).mp hp).1
  rw [hproduct] at hp
  obtain ⟨-, hquotient, -⟩ := (holds_div_nat hp holds_stepTimesRate).mp hv
  rw [hz, hquotient, hw.unique holds_initialSellPrice, sellPriceAt]
  omega

/-- The collateral enters as whole parts of `312500` units. -/
theorem holds_collateralParts
    (h : (FixedWrapper.balanceMul (balance 2)
          (.ofFixed Curve.default.sellPriceCoefficient) * ofBalance n /
        (ofFixed Curve.default.priceChangeStep *
          ofFixed Curve.default.priceChangeRate)).Holds z) :
    z = (n / 312500 : ℕ) := by
  obtain ⟨⟨p, hp⟩, -⟩ := Holds.of_div h
  obtain ⟨-, y, -, hy, -⟩ := holds_mul.mp hp
  have hn : (ofBalance n).Holds n :=
    holds_ofBalance.mpr ⟨rfl, (holds_ofBalance.mp hy).2⟩
  have hproduct := ((holds_mul_nat holds_doubleCoefficient hn).mp hp).1
  rw [hproduct] at hp
  obtain ⟨-, hquotient, -⟩ := (holds_div_nat hp holds_stepTimesRate).mp h
  rw [hquotient]
  omega

/-- The root counts steps of `625000` units. -/
theorem holds_sellRoot (ha : a.Holds r)
    (h : (ofFixed Curve.default.priceChangeStep *
          ofFixed Curve.default.priceChangeRate * a /
        ofFixed Curve.default.sellPriceCoefficient).Holds z) :
    z = (625000 * r : ℕ) := by
  obtain ⟨⟨p, hp⟩, -⟩ := Holds.of_div h
  have hproduct := ((holds_mul_nat holds_stepTimesRate ha).mp hp).1
  rw [hproduct] at hp
  obtain ⟨-, hquotient, -⟩ :=
    (holds_div_nat hp holds_sellPriceCoefficient).mp h
  rw [hquotient]
  omega

variable {totalIssuance quantity : ℕ}

/-- A sale for a collateral goes down to the steps that the root counts. -/
theorem collateral_sell_root {x : FixedNumber}
    (h : Curve.default.priceForCollateralAsset totalIssuance quantity .sell =
      .ok x) :
    ∃ m : ℕ, m + quantity / 312500 =
        sellPriceAt totalIssuance * sellPriceAt totalIssuance / 10 ^ 18 ∧
      x.bits + (625000 * Nat.sqrt (m * 10 ^ 18) : ℕ) =
        (totalIssuance + 4965 * 10 ^ 22 : ℕ) := by
  rw [Curve.priceForCollateralAsset, orCalculatePriceFailed_eq_ok] at h
  obtain ⟨u, v, hu, hv, hdiff, -⟩ := holds_sub.mp ⟨x, h, rfl⟩
  obtain ⟨y, c, hy, hc, hsum, -⟩ := holds_add.mp hu
  obtain ⟨⟨p, hp⟩, -⟩ := Holds.of_div hv
  obtain ⟨-, r, -, hr, -⟩ := holds_mul.mp hp
  obtain ⟨m, hm⟩ := hr.exists_nat_of_sqrtAccurate
  have hroot := (holds_sqrtAccurate_nat hm).mp hr
  rw [hroot] at hr
  obtain ⟨w, t, hw, ht, hwt, -⟩ := holds_sub.mp hm
  obtain ⟨s, -, hs, -⟩ := holds_mul.mp hw
  rw [holds_sellPriceAt hs] at hs
  have hsquare := ((holds_mul_nat hs hs).mp hw).1
  refine ⟨m, ?_, ?_⟩
  · rw [hsquare, holds_collateralParts ht] at hwt
    omega
  · rw [hdiff, hsum, (holds_ofBalance.mp hy).1,
      hc.unique holds_timesInitialPrice, holds_sellRoot hr hv]
    omega

theorem issuance_lt_of_sell {x : FixedNumber}
    (h : Curve.default.priceForCollateralAsset totalIssuance quantity .sell =
      .ok x) :
    totalIssuance < 2 ^ 127 := by
  rw [Curve.priceForCollateralAsset, orCalculatePriceFailed_eq_ok] at h
  obtain ⟨u, -, hu, -⟩ := holds_sub.mp ⟨x, h, rfl⟩
  obtain ⟨y, -, hy, -⟩ := holds_add.mp hu
  exact (holds_ofBalance.mp hy).2

/-! ## What the quantity is worth -/

/-- The area up to a point is the square of the shifted point, less a constant. -/
theorem default_exactAt (z : ℤ) :
    defaultSlope.exactAt z =
      (z + 4965 * 10 ^ 22) * (z + 4965 * 10 ^ 22) -
        4965 * 10 ^ 22 * (4965 * 10 ^ 22) := by
  change z * z + 10 ^ 6 * (993 * 10 ^ 17) * z = _
  ring

/-- The root of what is left is at least the parts of the collateral away. -/
theorem root_add_parts_le {m parts price : ℕ}
    (h : m + parts = price * price / 10 ^ 18) :
    Nat.sqrt (m * 10 ^ 18) * Nat.sqrt (m * 10 ^ 18) + parts * 10 ^ 18 ≤
      price * price := by
  calc
    Nat.sqrt (m * 10 ^ 18) * Nat.sqrt (m * 10 ^ 18) + parts * 10 ^ 18 ≤
        m * 10 ^ 18 + parts * 10 ^ 18 :=
      Nat.add_le_add_right (Nat.sqrt_le _) _
    _ = price * price / 10 ^ 18 * 10 ^ 18 := by rw [← h, Nat.add_mul]
    _ ≤ price * price := Nat.div_mul_le_self _ _

/-- The exact area of a sale covers all parts of the collateral, and that by which
the shifted issuance exceeds a multiple of the step. -/
theorem parts_le_exact {root parts : ℕ}
    (hroot : root * root + parts * 10 ^ 18 ≤
      sellPriceAt totalIssuance * sellPriceAt totalIssuance)
    (hsold : (quantity + 625000 * root : ℕ) = totalIssuance + 4965 * 10 ^ 22) :
    390625 * 10 ^ 24 * (parts : ℤ) +
        ((totalIssuance + 4965 * 10 ^ 22) % 625000 : ℕ) *
          (2 * (totalIssuance + 4965 * 10 ^ 22 : ℕ) -
            ((totalIssuance + 4965 * 10 ^ 22) % 625000 : ℕ)) ≤
      defaultSlope.exactAt totalIssuance -
        defaultSlope.exactAt (totalIssuance - quantity) := by
  have hsteps : 625000 * sellPriceAt totalIssuance +
      (totalIssuance + 4965 * 10 ^ 22) % 625000 =
        totalIssuance + 4965 * 10 ^ 22 :=
    Nat.div_add_mod _ _
  generalize (totalIssuance + 4965 * 10 ^ 22) % 625000 = above at hsteps ⊢
  generalize sellPriceAt totalIssuance = price at hroot hsteps
  have hfrom : (totalIssuance : ℤ) + 4965 * 10 ^ 22 =
      625000 * price + above := by
    exact_mod_cast hsteps.symm
  have hto : (totalIssuance : ℤ) - quantity + 4965 * 10 ^ 22 =
      625000 * root := by
    have hsold' : (quantity : ℤ) + 625000 * root =
        totalIssuance + 4965 * 10 ^ 22 := by
      exact_mod_cast hsold
    linarith
  have hsquares : (root : ℤ) * root + parts * 10 ^ 18 ≤ price * price := by
    exact_mod_cast hroot
  rw [default_exactAt, default_exactAt, hto, hfrom, ← hsteps]
  push_cast
  linarith

/-- What the floors take from the area up to the issuance. -/
theorem floored_loss_le (q : ℕ) :
    (q : ℤ) % 10 ^ 6 * q ≤ 875000 * q +
      ((q + 4965 * 10 ^ 22) % 625000 : ℕ) *
        (2 * (q + 4965 * 10 ^ 22 : ℕ) -
          ((q + 4965 * 10 ^ 22) % 625000 : ℕ)) := by
  have hmod : (q : ℤ) % 10 ^ 6 ≤
      875000 + ((q + 4965 * 10 ^ 22) % 625000 : ℕ) := by
    omega
  have habove : (q : ℤ) ≤ 2 * (q + 4965 * 10 ^ 22 : ℕ) -
      ((q + 4965 * 10 ^ 22) % 625000 : ℕ) := by
    omega
  generalize (q + 4965 * 10 ^ 22) % 625000 = above at hmod habove ⊢
  calc
    (q : ℤ) % 10 ^ 6 * q ≤ (875000 + above) * q :=
      Int.mul_le_mul_of_nonneg_right hmod (Int.natCast_nonneg q)
    _ = 875000 * q + above * q := by ring
    _ ≤ _ := Int.add_le_add_left
      (Int.mul_le_mul_of_nonneg_left habove (Int.natCast_nonneg above)) _

/-- What they add to the area up to a multiple of a step, if that is below zero. -/
theorem floored_gain_le {root : ℕ}
    (hsold : (quantity + 625000 * root : ℕ) = totalIssuance + 4965 * 10 ^ 22) :
    -(((totalIssuance : ℤ) - quantity) % 10 ^ 6 *
        (totalIssuance - quantity)) ≤
      875000 * ((max totalIssuance quantity : ℕ) - totalIssuance : ℤ) := by
  have hmod : ((totalIssuance : ℤ) - quantity) % 10 ^ 6 ≤ 875000 := by
    omega
  have hnonneg : 0 ≤ ((totalIssuance : ℤ) - quantity) % 10 ^ 6 :=
    Int.emod_nonneg _ (by decide)
  generalize ((totalIssuance : ℤ) - quantity) % 10 ^ 6 = rest at hmod hnonneg ⊢
  by_cases hle : quantity ≤ totalIssuance
  · rw [Nat.max_eq_left hle, sub_self, mul_zero]
    have hpos : 0 ≤ (totalIssuance : ℤ) - quantity := by
      omega
    exact Int.neg_nonpos_of_nonneg (Int.mul_nonneg hnonneg hpos)
  · have hneg : 0 ≤ (quantity : ℤ) - totalIssuance := by
      omega
    rw [Nat.max_eq_right (Nat.le_of_not_le hle), ← mul_neg, neg_sub]
    exact Int.mul_le_mul_of_nonneg_right hmod hneg

/-- The floored area of a sale covers all parts of the collateral up to rounding. -/
theorem parts_lt_floored {root parts : ℕ}
    (hroot : root * root + parts * 10 ^ 18 ≤
      sellPriceAt totalIssuance * sellPriceAt totalIssuance)
    (hsold : (quantity + 625000 * root : ℕ) = totalIssuance + 4965 * 10 ^ 22) :
    390625 * 10 ^ 24 * (parts : ℤ) <
      10 ^ 24 * (defaultSlope.floored totalIssuance -
        defaultSlope.flooredAt (totalIssuance - quantity) + 1) +
      875000 * (max totalIssuance quantity : ℕ) := by
  have hexact := parts_le_exact hroot hsold
  have hloss := floored_loss_le totalIssuance
  have hgain := floored_gain_le hsold
  have hfrom := defaultSlope.lt_mul_flooredAt totalIssuance
  have hto := defaultSlope.mul_flooredAt_le (totalIssuance - quantity)
  rw [Slope.flooredAt_natCast] at hfrom
  have hd : (defaultSlope.d : ℤ) = 10 ^ 6 := rfl
  have hc : (defaultSlope.c : ℤ) = 10 ^ 18 := rfl
  rw [hd, hc] at hfrom hto
  linarith

/-- A collateral exceeds what its quantity is worth by less than a part, and seven
tenths of a unit for every whole unit. -/
theorem collateral_le_price {sold : FixedNumber} {collateral : ℕ}
    (hsold : Curve.default.priceForCollateralAsset totalIssuance collateral
      .sell = .ok sold)
    (hquantity : sold.bits = quantity)
    (hprice : Priced
      (Curve.default.priceForMainAsset totalIssuance quantity .sell) n) :
    collateral ≤ n + 312501 + 7 * max totalIssuance quantity / 10 ^ 19 := by
  obtain ⟨m, hm, hsum⟩ := collateral_sell_root hsold
  rw [hquantity] at hsum
  have hparts := parts_lt_floored (root_add_parts_le hm)
    (by exact_mod_cast hsum)
  have hproceeds := priced_main_sell_eq hprice
  generalize defaultSlope.flooredAt (totalIssuance - quantity) = upTo at *
  generalize defaultSlope.floored totalIssuance = upFrom at *
  generalize max totalIssuance quantity = most at *
  omega

/-! ## When it is computed -/

theorem holds_priceUpTo (ha : a.Holds q)
    (hlt : defaultSlope.floored q < 2 ^ 127) :
    (Curve.default.priceUpTo a).Holds (defaultSlope.floored q) := by
  have hquotient : q * 10 ^ 18 / 10 ^ 24 = q / 10 ^ 6 :=
    Nat.mul_div_mul_right q (10 ^ 6) (by decide)
  have hq : q < 2 ^ 127 := ha.lt
  have hprice : (FixedWrapper.ofFixed Curve.default.initialPrice).Holds
      (993 * 10 ^ 17 : ℕ) := holds_ofFixed.mpr rfl
  have hdiv := (holds_div_nat ha holds_twoTimesStepTimesRate).mpr
    ⟨by decide, congrArg Nat.cast hquotient.symm, by omega⟩
  have hsum := (holds_add_nat hdiv hprice).mpr ⟨rfl, by omega⟩
  rw [← holds_addFixed] at hsum
  exact (holds_mul_nat hsum ha).mpr ⟨rfl, hlt⟩

/-- The price of what was issued is computed exactly when everything issued has a
price that fits. -/
theorem exists_priced_main_sell_iff (hlt : totalIssuance < 2 ^ 127)
    (hle : quantity ≤ totalIssuance) :
    (∃ n, Priced
        (Curve.default.priceForMainAsset totalIssuance quantity .sell) n) ↔
      defaultSlope.floored totalIssuance < 2 ^ 127 := by
  have hQ : (ofBalance totalIssuance).Holds totalIssuance :=
    holds_ofBalance.mpr ⟨rfl, hlt⟩
  constructor
  · intro h
    obtain ⟨n, x, hx, hn⟩ := h
    rw [Curve.priceForMainAsset, orCalculatePriceFailed_eq_ok] at hx
    obtain ⟨-, v, -, hv, -⟩ := holds_mul.mp (holds_fixedMul.mp ⟨x, hx, hn⟩)
    obtain ⟨w, -, hw, -⟩ := holds_sub.mp hv
    rw [priceUpTo_of_holds hQ hw] at hw
    exact hw.lt
  · intro hfloored
    have hmono : defaultSlope.floored (totalIssuance - quantity) ≤
        defaultSlope.floored totalIssuance :=
      Slope.floored_mono (Nat.sub_le totalIssuance quantity)
    have hquantity : (ofBalance quantity).Holds quantity :=
      holds_ofBalance.mpr ⟨rfl, hle.trans_lt hlt⟩
    have hQ' : ((ofBalance totalIssuance).subBalance quantity).Holds
        (totalIssuance - quantity : ℕ) := by
      rw [holds_subBalance, holds_sub_nat hQ hquantity, Nat.cast_sub hle]
    have hfrom := holds_priceUpTo hQ hfloored
    have hto := holds_priceUpTo hQ' (hmono.trans_lt hfloored)
    have hdiff := (holds_sub_nat hfrom hto).mpr (Nat.cast_sub hmono)
    have hsold := (holds_mul_nat holds_sellPriceCoefficient hdiff).mpr
      ⟨rfl, by omega⟩
    obtain ⟨x, hx, hn⟩ := holds_fixedMul.mpr hsold
    exact ⟨_, x, orCalculatePriceFailed_eq_ok.mpr hx, hn⟩

end

/-! ## Sales of the pool -/

variable {T : Config} {P : Pool T} {s : Storage T} {mainAssetId : T.AssetId}

/-- What a quantity is worth that is sold for a collateral.  Of what was issued the
price is computed exactly when the price of everything issued fits, and then it is at
least the collateral, up to a part of `312500` units, seven tenths of a unit for every
whole unit, and the rounding of the result. -/
structure SaleWorth (issuance quantity collateral : ℕ)
    (price : Result FixedNumber) : Prop where
  priced_iff : quantity ≤ issuance →
    ((∃ n, Priced price n) ↔ defaultSlope.floored issuance < 2 ^ 127)
  le_price : ∀ n, Priced price n →
    collateral ≤ n + 312501 + 7 * max issuance quantity / 10 ^ 19

/-- Selling the quantity for a collateral at the same issuance. -/
theorem exact_output_sale_worth {desired limit quantity collateral : ℕ}
    (hcurve : P.curve = .default)
    (h : P.decideSellAmounts s mainAssetId
      (.withDesiredOutput desired limit) = .ok (quantity, collateral)) :
    SaleWorth (s.issuance mainAssetId) quantity collateral
      (P.priceForMainAsset s mainAssetId quantity .sell) := by
  obtain ⟨rfl, x, hx, hquantity⟩ := Pool.decideSellAmounts_output_eq_ok.mp h
  obtain ⟨hexists, hsold⟩ := Pool.priceForCollateralAsset_eq_ok.mp hx
  rw [hcurve] at hsold
  have hpriced : ∀ n, Priced (P.priceForMainAsset s mainAssetId quantity .sell)
        n ↔
      Priced (Curve.default.priceForMainAsset (s.issuance mainAssetId) quantity
        .sell) n := by
    intro n
    rw [← hcurve]
    exact exists_congr fun y => and_congr_left fun _ =>
      Pool.priceForMainAsset_eq_ok.trans (and_iff_right hexists)
  constructor
  · intro hle
    rw [exists_congr hpriced]
    exact exists_priced_main_sell_iff (issuance_lt_of_sell hsold) hle
  · intro n hn
    exact collateral_le_price hsold hquantity ((hpriced n).mp hn)

theorem exact_output_sale_worth_unit :
    SaleWorth ((Mock.curveWith 0).issuance Mock.goldenTicket) Mock.unit
      92239999200000000000 (Mock.curvePool.priceForMainAsset (Mock.curveWith 0)
        Mock.goldenTicket Mock.unit .sell) := by
  have hdecide : Mock.curvePool.decideSellAmounts (Mock.curveWith 0)
      Mock.goldenTicket (.withDesiredOutput 92239999200000000000 0) =
        .ok (Mock.unit, 92239999200000000000) := by
    decide +kernel
  exact exact_output_sale_worth rfl hdecide

/-- What is sold for a collateral is worth the collateral. -/
def NeverUndercharges (P : Pool T) (s : Storage T) (mainAssetId : T.AssetId) :
    Prop :=
  ∀ desired limit quantity collateral, 0 < desired →
    P.decideSellAmounts s mainAssetId (.withDesiredOutput desired limit) =
      .ok (quantity, collateral) →
      ∃ n, Priced (P.priceForMainAsset s mainAssetId quantity .sell) n ∧
        collateral ≤ n

/-- Less than a part of collateral is given for nothing. -/
theorem collateral_for_nothing :
    Mock.curvePool.decideSellAmounts (Mock.curveWith 0) Mock.goldenTicket
        (.withDesiredOutput 312499 0) = .ok (0, 312499) ∧
      Priced (Mock.curvePool.priceForMainAsset (Mock.curveWith 0)
        Mock.goldenTicket 0 .sell) 0 ∧
      ¬NeverUndercharges Mock.curvePool (Mock.curveWith 0)
        Mock.goldenTicket := by
  have hdecide : Mock.curvePool.decideSellAmounts (Mock.curveWith 0)
      Mock.goldenTicket (.withDesiredOutput 312499 0) = .ok (0, 312499) := by
    decide +kernel
  have hworth : Priced (Mock.curvePool.priceForMainAsset (Mock.curveWith 0)
      Mock.goldenTicket 0 .sell) 0 :=
    ⟨⟨0, fits_zero⟩, by decide +kernel, rfl⟩
  refine ⟨hdecide, hworth, ?_⟩
  intro h
  obtain ⟨n, hn, hle⟩ := h 312499 0 0 312499 (by decide) hdecide
  have hzero : n = 0 := hn.unique hworth
  omega

end BondingCurvePool
end SoraParachain

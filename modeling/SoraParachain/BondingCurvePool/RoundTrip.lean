import SoraParachain.BondingCurvePool.DefaultCurve
import SoraParachain.BondingCurvePool.Exchange
import SoraParachain.BondingCurvePool.Mock

/-!
# Buying and selling back

A purchase for a desired output is priced by the floored area, which grows with
the issuance, so that selling part of it back brings in less.  A purchase for a
desired input is priced along the exact curve; the floored area may jump between
two issuances, and a sale may gain the jump.
-/

namespace SoraParachain
namespace BondingCurvePool

variable {T : Config} {P : Pool T} {s s' : Storage T}
variable {mainAssetId : T.AssetId} {p q n m y limit : ℕ}

/-- What selling back may bring in, for a purchase at an issuance.  Of a desired
output nothing is gained; of a desired input the sale brings in less than four
fifths of the input, of the issuance in whole units and of one, which is less
than the input if that is large enough. -/
def RoundTripBound (issuance input proceeds : ℕ) : SwapAmount → Prop
  | .withDesiredInput _ _ =>
      5 * 10 ^ 18 * proceeds < 4 * (10 ^ 18 * input + issuance + 10 ^ 18) ∧
        (4 * (issuance + 10 ^ 18) ≤ 10 ^ 18 * input → proceeds < input)
  | .withDesiredOutput _ _ => proceeds ≤ input

/-- A sale back to where the purchase started brings in four fifths of the area
between at most. -/
theorem priced_sell_back
    (h : Priced (Curve.default.priceForMainAsset (m + n) n .sell) y) :
    10 * y + 8 * defaultSlope.floored m ≤ 8 * defaultSlope.floored (m + n) := by
  have hsell := priced_main_sell (Nat.le_add_left n m) h
  rwa [Nat.add_sub_cancel] at hsell

/-- Selling back what was bought for a desired output gains nothing. -/
theorem proceeds_le_cost (hle : n ≤ q)
    (hbuy : Priced (Curve.default.priceForMainAsset m q .buy) p)
    (hsell : Priced (Curve.default.priceForMainAsset (m + n) n .sell) y) :
    y ≤ p := by
  have hcost := priced_main_buy hbuy
  have hproceeds := priced_sell_back hsell
  have hmono : defaultSlope.floored (m + n) ≤ defaultSlope.floored (m + q) :=
    Slope.floored_mono (Nat.add_le_add_left hle m)
  omega

/-- Selling back what was bought for a desired input gains the jump of the
floored area at most. -/
theorem proceeds_lt_of_input (hle : n ≤ q)
    (hbuy : Priced (Curve.default.priceForCollateralAsset m p .buy) q)
    (hsell : Priced (Curve.default.priceForMainAsset (m + n) n .sell) y) :
    5 * 10 ^ 18 * y < 4 * (10 ^ 18 * p + m + 10 ^ 18) := by
  have hcost := priced_collateral_buy hbuy
  have hproceeds := priced_sell_back hsell
  have hmono : defaultSlope.exact (m + n) ≤ defaultSlope.exact (m + q) :=
    Slope.exact_mono (Nat.add_le_add_left hle m)
  have hjump : 10 ^ 6 * 10 ^ 18 * defaultSlope.floored (m + n) +
        defaultSlope.exact m <
      10 ^ 6 * 10 ^ 18 * defaultSlope.floored m + defaultSlope.exact (m + n) +
        10 ^ 6 * m + 10 ^ 6 * 10 ^ 18 :=
    defaultSlope.floored_sub_lt m (m + n)
  generalize defaultSlope.floored m = before at hproceeds hjump
  generalize defaultSlope.floored (m + n) = after at hproceeds hjump
  omega

/-- Buying at an issuance and selling part of it back. -/
theorem round_trip_bounded {amount : SwapAmount} {sold : ℕ}
    (hcurve : P.curve = .default)
    (hbuy : P.decideBuyAmounts s mainAssetId amount = .ok (p, q))
    (hissuance : s'.issuance mainAssetId = s.issuance mainAssetId + n)
    (hle : n ≤ q)
    (hsell : P.decideSellAmounts s' mainAssetId (.withDesiredInput n limit) =
      .ok (sold, y)) :
    RoundTripBound (s.issuance mainAssetId) p y amount := by
  obtain ⟨-, x, hx, hy⟩ := Pool.decideSellAmounts_input_eq_ok.mp hsell
  have hsale := (Pool.priceForMainAsset_eq_ok.mp hx).2
  rw [hcurve, hissuance] at hsale
  cases amount with
  | withDesiredInput desired minOut =>
      obtain ⟨rfl, b, hb, hq⟩ := Pool.decideBuyAmounts_input_eq_ok.mp hbuy
      have hpurchase := (Pool.priceForCollateralAsset_eq_ok.mp hb).2
      rw [hcurve] at hpurchase
      have hbound := proceeds_lt_of_input hle ⟨b, hpurchase, hq⟩ ⟨x, hsale, hy⟩
      refine ⟨hbound, ?_⟩
      intro hlarge
      omega
  | withDesiredOutput desired maxIn =>
      obtain ⟨rfl, b, hb, hp⟩ := Pool.decideBuyAmounts_output_eq_ok.mp hbuy
      have hpurchase := (Pool.priceForMainAsset_eq_ok.mp hb).2
      rw [hcurve] at hpurchase
      exact proceeds_le_cost hle ⟨b, hpurchase, hp⟩ ⟨x, hsale, hy⟩

theorem round_trip_bounded_unit :
    RoundTripBound ((Mock.curveWith 0).issuance Mock.goldenTicket)
      115300001000000000000 92240000800000000000
      (.withDesiredOutput Mock.unit 0) := by
  have hbuy : Mock.curvePool.decideBuyAmounts (Mock.curveWith 0)
      Mock.goldenTicket (.withDesiredOutput Mock.unit 0) =
        .ok (115300001000000000000, Mock.unit) := by
    decide +kernel
  have hissuance : (Mock.curveWith Mock.unit).issuance Mock.goldenTicket =
      (Mock.curveWith 0).issuance Mock.goldenTicket + Mock.unit := by
    decide +kernel
  have hsell : Mock.curvePool.decideSellAmounts (Mock.curveWith Mock.unit)
      Mock.goldenTicket (.withDesiredInput Mock.unit 0) =
        .ok (Mock.unit, 92240000800000000000) := by
    decide +kernel
  exact round_trip_bounded rfl hbuy hissuance le_rfl hsell

/-- One unit of the last decimal, bought for `116`, sells for millions. -/
theorem dust_round_trip_gains :
    Mock.curvePool.decideBuyAmounts (Mock.curveWith 999999) Mock.goldenTicket
        (.withDesiredInput 116 0) = .ok (116, 1) ∧
      (Mock.curveWith 1000000).issuance Mock.goldenTicket =
        (Mock.curveWith 999999).issuance Mock.goldenTicket + 1 ∧
      Mock.curvePool.decideSellAmounts (Mock.curveWith 1000000)
        Mock.goldenTicket (.withDesiredInput 1 0) = .ok (1, 6400086) := by
  decide +kernel

end BondingCurvePool
end SoraParachain

import SoraParachain.BondingCurvePool.Exchange
import SoraParachain.BondingCurvePool.Mock

/-!
# Quotes against exchanges

An exchange takes its fee out of the output.  A quote states the price as the
curve gives it and the fee beside it, and it prices a purchase for a desired
input with the issuance of the collateral.  The quote and the exchange agree
exactly where none of this makes a difference.
-/

namespace SoraParachain
namespace BondingCurvePool

variable {T : Config} {P : Pool T} {s s' : Storage T}

/-- Two prices whose first is the second without its fee, and whose fees are the
same. -/
def Curve.NetOf (curve : Curve) (price output : ℕ) : Prop :=
  price = curve.net output ∧ curve.feeOn price = curve.feeOn output

/-- Where the deductions of an exchange leave the quoted price as it is.  A sale
for a desired input is quoted without the fee on its proceeds; a sale or a
purchase for a desired output is quoted with its input; a purchase for a desired
input is quoted along the issuance of the collateral. -/
def Pool.QuoteHolds (P : Pool T) (s : Storage T)
    (inputAssetId outputAssetId : T.AssetId) : SwapAmount → Prop
  | .withDesiredInput desiredAmountIn _ =>
      if inputAssetId = T.getBaseAssetId then
        ∃ proceeds,
          Priced (P.priceForMainAsset s inputAssetId desiredAmountIn .sell)
            proceeds ∧
          P.curve.feeOn proceeds = 0
      else
        ∃ bought alongCollateral,
          Priced (P.priceForCollateralAsset s outputAssetId desiredAmountIn
            .buy) bought ∧
          Priced (P.priceForCollateralAsset s inputAssetId desiredAmountIn
            .buy) alongCollateral ∧
          P.curve.NetOf alongCollateral bought
  | .withDesiredOutput desiredAmountOut _ =>
      ∃ cost,
        Priced
          (if inputAssetId = T.getBaseAssetId then
            P.priceForCollateralAsset s inputAssetId desiredAmountOut .sell
          else P.priceForMainAsset s outputAssetId desiredAmountOut .buy)
          cost ∧
        P.curve.NetOf cost desiredAmountOut

section

variable {curve : Curve} {output : ℕ} {o : SwapOutcome}

/-- Two outcomes of the same price and the same fee. -/
theorem charges_iff_netOf (hcharges : curve.Charges output o.fee)
    (hamount : o.amount = wrappingSub output o.fee)
    (hlt : o.amount < 2 ^ 127) :
    curve.Charges o.amount o.fee ↔ curve.NetOf o.amount output := by
  constructor
  · intro h
    refine ⟨?_, ?_⟩
    · rw [hcharges.net_eq]
      exact hamount
    · rw [← h.fee_eq]
      exact hcharges.fee_eq
  · intro h
    refine ⟨hlt, ?_, hcharges.fee_lt⟩
    rw [h.2]
    exact hcharges.fee_eq

/-- A quote whose price is computed independently of the output. -/
theorem quoted_iff_netOf {r : Result FixedNumber}
    (hcharges : curve.Charges output o.fee)
    (hamount : o.amount = wrappingSub output o.fee) :
    Priced r o.amount ∧ curve.Charges o.amount o.fee ↔
      ∃ price, Priced r price ∧ curve.NetOf price output := by
  constructor
  · intro h
    obtain ⟨hprice, hquoted⟩ := h
    exact ⟨o.amount, hprice,
      (charges_iff_netOf hcharges hamount hprice.lt).mp hquoted⟩
  · intro h
    obtain ⟨price, hprice, hnet⟩ := h
    have heq : price = o.amount := by
      rw [hnet.1, hcharges.net_eq]
      exact hamount.symm
    rw [heq] at hprice hnet
    exact ⟨hprice,
      (charges_iff_netOf hcharges hamount hprice.lt).mpr hnet⟩

/-- A quote whose price is the output itself. -/
theorem quoted_iff_feeOn_eq_zero {r : Result FixedNumber}
    (hprice : Priced r output) (hcharges : curve.Charges output o.fee)
    (hamount : o.amount = wrappingSub output o.fee) :
    Priced r o.amount ∧ curve.Charges o.amount o.fee ↔
      curve.feeOn output = 0 := by
  rw [← hcharges.net_eq_self_iff, hcharges.net_eq, ← hamount]
  constructor
  · intro h
    exact h.1.unique hprice
  · intro h
    rw [h]
    exact ⟨hprice, hcharges⟩

end

variable {sender receiver : T.AccountId} {dexId : T.DEXId}
variable {inputAssetId outputAssetId : T.AssetId} {amount : SwapAmount}
variable {o : SwapOutcome}

/-- What a sale decided determines whether its quote agrees. -/
theorem quoteHolds_of_sale {input output : ℕ}
    (hbase : inputAssetId = T.getBaseAssetId)
    (hdecide : P.decideSellAmounts s inputAssetId amount =
      .ok (input, output))
    (hcharges : P.curve.Charges output o.fee)
    (hamount : o.amount = wrappingSub output o.fee) :
    Priced (P.quotedPrice s inputAssetId outputAssetId amount) o.amount ∧
        P.curve.Charges o.amount o.fee ↔
      P.QuoteHolds s inputAssetId outputAssetId amount := by
  cases amount with
  | withDesiredInput desired limit =>
      obtain ⟨rfl, hprice⟩ := Pool.decideSellAmounts_input_eq_ok.mp hdecide
      simp only [Pool.quotedPrice, Pool.QuoteHolds, if_pos hbase]
      rw [quoted_iff_feeOn_eq_zero hprice hcharges hamount]
      constructor
      · intro h
        exact ⟨output, hprice, h⟩
      · intro h
        obtain ⟨proceeds, hproceeds, hzero⟩ := h
        rwa [hproceeds.unique hprice] at hzero
  | withDesiredOutput desired limit =>
      obtain ⟨rfl, -⟩ := Pool.decideSellAmounts_output_eq_ok.mp hdecide
      simp only [Pool.quotedPrice, Pool.QuoteHolds, if_pos hbase]
      exact quoted_iff_netOf hcharges hamount

/-- What a purchase decided determines whether its quote agrees. -/
theorem quoteHolds_of_purchase {input output : ℕ}
    (hbase : inputAssetId ≠ T.getBaseAssetId)
    (hdecide : P.decideBuyAmounts s outputAssetId amount =
      .ok (input, output))
    (hcharges : P.curve.Charges output o.fee)
    (hamount : o.amount = wrappingSub output o.fee) :
    Priced (P.quotedPrice s inputAssetId outputAssetId amount) o.amount ∧
        P.curve.Charges o.amount o.fee ↔
      P.QuoteHolds s inputAssetId outputAssetId amount := by
  cases amount with
  | withDesiredInput desired limit =>
      obtain ⟨rfl, hprice⟩ := Pool.decideBuyAmounts_input_eq_ok.mp hdecide
      simp only [Pool.quotedPrice, Pool.QuoteHolds, if_neg hbase]
      rw [quoted_iff_netOf hcharges hamount]
      constructor
      · intro h
        obtain ⟨price, halong, hnet⟩ := h
        exact ⟨output, price, hprice, halong, hnet⟩
      · intro h
        obtain ⟨bought, price, hbought, halong, hnet⟩ := h
        rw [hbought.unique hprice] at hnet
        exact ⟨price, halong, hnet⟩
  | withDesiredOutput desired limit =>
      obtain ⟨rfl, -⟩ := Pool.decideBuyAmounts_output_eq_ok.mp hdecide
      simp only [Pool.quotedPrice, Pool.QuoteHolds, if_neg hbase]
      exact quoted_iff_netOf hcharges hamount

/-- The quote for an exchange that succeeds is its outcome exactly where the
deductions make no difference. -/
theorem quote_agrees_iff
    (h : (P.exchange sender receiver dexId inputAssetId outputAssetId
      amount).run s = (.ok o, s')) :
    P.quote s dexId inputAssetId outputAssetId amount = .ok o ↔
      P.QuoteHolds s inputAssetId outputAssetId amount := by
  obtain ⟨-, hcan, h⟩ := Pool.run_exchange_ok.mp h
  rw [Pool.quote_eq_ok, and_iff_right hcan]
  split_ifs at h with hbase
  · obtain ⟨input, output, hdecide, hcharges, hamount, -⟩ :=
      Pool.run_sellMainAsset_ok.mp h
    exact quoteHolds_of_sale hbase hdecide hcharges hamount
  · obtain ⟨free, input, output, s₁, s₂, hdeposit, -, hmint⟩ :=
      BuyMainAsset.run_swap_ok.mp h
    obtain ⟨hdecide, -⟩ := BuyMainAsset.run_depositInput_ok.mp hdeposit
    obtain ⟨hcharges, hamount, -⟩ := BuyMainAsset.run_mintOutput_ok.mp hmint
    exact quoteHolds_of_purchase hbase hdecide hcharges hamount

theorem quote_agrees_iff_sale :
    Mock.curvePool.quote (Mock.curveGenesis Mock.smallReserves) Mock.dexA
        Mock.goldenTicket Mock.redPepper (.withDesiredInput Mock.unit 0) =
        .ok ⟨92147759200800000000, 92239999200000000⟩ ↔
      Mock.curvePool.QuoteHolds (Mock.curveGenesis Mock.smallReserves)
        Mock.goldenTicket Mock.redPepper (.withDesiredInput Mock.unit 0) :=
  quote_agrees_iff Mock.curveSale_ok

/-- The sale pays a thousandth less than its quote says. -/
theorem quote_leaves_out_fee :
    (Mock.curveSale.run (Mock.curveGenesis Mock.smallReserves)).1 =
        .ok ⟨92147759200800000000, 92239999200000000⟩ ∧
      Mock.curveQuote (Mock.curveGenesis Mock.smallReserves)
        Mock.goldenTicket Mock.redPepper (.withDesiredInput Mock.unit 0) =
        .ok ⟨92239999200000000000, 92239999200000000⟩ ∧
      Mock.alice.account ≠ Mock.curvePool.reservesAccountId ∧
      Mock.bob.account ≠ Mock.curvePool.reservesAccountId := by
  decide +kernel

end BondingCurvePool
end SoraParachain

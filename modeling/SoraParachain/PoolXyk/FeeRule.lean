import SoraParachain.Mock

/-!
# The fee of a swap and the base asset

A swap that involves the base asset should pay three thousandths of the base
amount in the base asset.  An exchange leaves the side of the fee to the
validation, which puts it on the base asset.  A submitted action may name the
side itself.
-/

namespace SoraParachain
namespace PoolXyk

variable {T : Config}

open Technical (techAccountIdToAccountId createSwap)

/-! ## The recommended fee -/

/-- The amount on the side of the fee. -/
def amountOnFeeSide (feeFromDestination : Bool) (amountIn amountOut : ℕ) : ℕ :=
  if feeFromDestination then amountOut else amountIn

theorem fee_eq_of_input {side : Bool} {x y amountIn amountOut fee : ℕ}
    (h : calcOutputForExactInput side x y amountIn = .ok (amountOut, fee)) :
    fee = 3 * amountOnFeeSide side amountIn amountOut / 1000 := by
  cases side with
  | true =>
      obtain ⟨-, -, -, -, -, -, -, hfee⟩ :=
        calcOutputForExactInput_destination.mp h
      exact hfee
  | false =>
      obtain ⟨-, hfee, -⟩ := calcOutputForExactInput_source.mp h
      exact hfee

theorem fee_le_of_input {side : Bool} {x y amountIn amountOut fee : ℕ}
    (h : calcOutputForExactInput side x y amountIn = .ok (amountOut, fee)) :
    fee ≤ amountOnFeeSide side amountIn amountOut := by
  have hfee := fee_eq_of_input h
  omega

/-- A fee that is priced into an exact output is between three thousandths of
the amount on its side and that amount. -/
theorem fee_bounds_of_output {side : Bool} {x y amountIn amountOut fee : ℕ}
    (hx : 0 < x)
    (h : calcInputForExactOutput side x y amountOut = .ok (amountIn, fee)) :
    3 * amountOnFeeSide side amountIn amountOut / 1000 ≤ fee ∧
      fee ≤ amountOnFeeSide side amountIn amountOut := by
  cases side with
  | true =>
      obtain ⟨-, -, -, -, hfee⟩ := calcInputForExactOutput_destination hx h
      rw [amountOnFeeSide, if_pos rfl]
      omega
  | false =>
      obtain ⟨-, -, -, -, -, -, hfee⟩ := calcInputForExactOutput_source h
      rw [amountOnFeeSide, if_neg Bool.false_ne_true]
      omega

/-- The amounts of a swap were priced by the input or by the output that the
action gives. -/
theorem priced_of_decideAmounts {side : Bool}
    {source destination source' destination' : Bounds}
    {x y recomFee amountIn amountOut : ℕ}
    (h : PairSwapAction.decideAmounts side source destination x y =
      .ok (source', destination', recomFee))
    (hin : source'.toOption = some amountIn)
    (hout : destination'.toOption = some amountOut) :
    source = .desired amountIn ∧
        (destination = .desired amountOut ∨
          ∃ taMin, destination = .min taMin) ∧
        calcOutputForExactInput side x y amountIn =
          .ok (amountOut, recomFee) ∨
      (∃ saMax, source = .max saMax) ∧ destination = .desired amountOut ∧
        calcInputForExactOutput side x y amountOut =
          .ok (amountIn, recomFee) := by
  unfold PairSwapAction.decideAmounts at h
  split at h
  · obtain ⟨_, -, h⟩ := Tx.except_bind_eq_ok.mp h
    obtain ⟨_, -, h⟩ := Tx.except_bind_eq_ok.mp h
    obtain ⟨⟨out, fee⟩, hcalc, h⟩ := Tx.except_bind_eq_ok.mp h
    obtain ⟨_, -, h⟩ := Tx.except_bind_eq_ok.mp h
    obtain ⟨_, hagree, h⟩ := Tx.except_bind_eq_ok.mp h
    cases h
    cases hin
    cases hout
    have hsame : out = amountOut := by
      have hagree := ensure_eq_ok.mp hagree
      by_contra hne
      exact hagree (Or.inl hne)
    rw [hsame] at hcalc
    exact Or.inl ⟨rfl, Or.inl rfl, hcalc⟩
  · obtain ⟨_, -, h⟩ := Tx.except_bind_eq_ok.mp h
    obtain ⟨⟨out, fee⟩, hcalc, h⟩ := Tx.except_bind_eq_ok.mp h
    obtain ⟨_, -, h⟩ := Tx.except_bind_eq_ok.mp h
    cases h
    cases hin
    cases hout
    exact Or.inl ⟨rfl, Or.inr ⟨_, rfl⟩, hcalc⟩
  · obtain ⟨_, -, h⟩ := Tx.except_bind_eq_ok.mp h
    exact (fail_ne_ok.mp h).elim
  · obtain ⟨_, -, h⟩ := Tx.except_bind_eq_ok.mp h
    obtain ⟨⟨input, fee⟩, hcalc, h⟩ := Tx.except_bind_eq_ok.mp h
    obtain ⟨_, -, h⟩ := Tx.except_bind_eq_ok.mp h
    cases h
    cases hin
    cases hout
    exact Or.inr ⟨⟨_, rfl⟩, rfl, hcalc⟩
  · obtain ⟨_, -, h⟩ := Tx.except_bind_eq_ok.mp h
    exact (fail_ne_ok.mp h).elim
  · exact (fail_ne_ok.mp h).elim

/-- However the amounts are given, the recommended fee is at least three
thousandths of the amount on its side. -/
theorem le_recomFee {side : Bool} {source destination source' destination' :
    Bounds} {x y recomFee amountIn amountOut : ℕ} (hx : 0 < x)
    (h : PairSwapAction.decideAmounts side source destination x y =
      .ok (source', destination', recomFee))
    (hin : source'.toOption = some amountIn)
    (hout : destination'.toOption = some amountOut) :
    3 * amountOnFeeSide side amountIn amountOut / 1000 ≤ recomFee := by
  obtain ⟨-, -, hcalc⟩ | ⟨-, -, hcalc⟩ := priced_of_decideAmounts h hin hout
  · exact (fee_eq_of_input hcalc).ge
  · exact (fee_bounds_of_output hx hcalc).1

/-- The recommended fee is part of the amount on its side. -/
theorem recomFee_le {side : Bool} {source destination source' destination' :
    Bounds} {x y recomFee amountIn amountOut : ℕ} (hx : 0 < x)
    (h : PairSwapAction.decideAmounts side source destination x y =
      .ok (source', destination', recomFee))
    (hin : source'.toOption = some amountIn)
    (hout : destination'.toOption = some amountOut) :
    recomFee ≤ amountOnFeeSide side amountIn amountOut := by
  obtain ⟨-, -, hcalc⟩ | ⟨-, -, hcalc⟩ := priced_of_decideAmounts h hin hout
  · exact fee_le_of_input hcalc
  · exact (fee_bounds_of_output hx hcalc).2

namespace PairSwapAction

variable {s s' : Storage T} {a : PairSwapAction T} {w : T.AccountId}
variable {t : Terms T} {l : T.currency.Ledger}

/-- The fee that is settled is at least three thousandths of the amount on its
side. -/
theorem Agreed.le_fee (h : Agreed s a w t) :
    3 * amountOnFeeSide a.feeFromDestination t.amountIn t.amountOut / 1000 ≤
      t.fee := by
  obtain ⟨recomFee, hamounts, hfee⟩ := h.amounts
  have hrecom := le_recomFee h.sourceReserve hamounts h.amountIn h.amountOut
  rcases hfee with ⟨-, hfee⟩ | ⟨-, hle⟩
  · rw [hfee]
    exact hrecom
  · exact hrecom.trans hle

/-! ## The rule -/

/-- The payment that settles the fee. -/
def feePayment (a : PairSwapAction T) (w : T.AccountId) (t : Terms T) :
    Payment T.AssetId T.AccountId :=
  if a.feeFromDestination then
    ⟨a.destination.asset, a.poolRepr, techAccountIdToAccountId t.feeAccount,
      t.fee⟩
  else
    ⟨a.source.asset, w, techAccountIdToAccountId t.feeAccount, t.fee⟩

theorem feePayment_mem (a : PairSwapAction T) (w : T.AccountId)
    (t : Terms T) :
    a.feePayment w t ∈ a.payments w t := by
  unfold feePayment payments
  split_ifs
  · exact List.mem_cons_of_mem _ List.mem_cons_self
  · exact List.mem_cons_of_mem _ List.mem_cons_self

/-- The amount of the base asset that is sold, or is taken from the pool when
it is bought. -/
def IsBaseAmount (a : PairSwapAction T) (t : Terms T) (amount : ℕ) : Prop :=
  a.source.asset = T.getBaseAssetId ∧
      a.destination.asset ≠ T.getBaseAssetId ∧ amount = t.amountIn ∨
    a.source.asset ≠ T.getBaseAssetId ∧
      a.destination.asset = T.getBaseAssetId ∧ amount = t.amountOut

/-- If one of the assets is the base asset, the fee is paid in it and is at
least three thousandths of its amount. -/
def ObeysFeeRule (a : PairSwapAction T) (w : T.AccountId) (t : Terms T) :
    Prop :=
  ∀ amount, a.IsBaseAmount t amount →
    (a.feePayment w t).currency = T.getBaseAssetId ∧
      3 * amount / 1000 ≤ (a.feePayment w t).amount

/-- The action leaves the side of the fee open or names the one of the base
asset, unless the base asset is not one of two different assets. -/
def FeeSideIsDecided (a : PairSwapAction T) : Prop :=
  a.getFeeFromDestination = none ∨
    a.getFeeFromDestination =
      some (decideIsFeeFromDestination a.source.asset a.destination.asset) ∨
    (a.source.asset = T.getBaseAssetId ↔
      a.destination.asset = T.getBaseAssetId)

/-- The decided side is the destination when the base asset is bought. -/
theorem decide_of_bought {assetA assetB : T.AssetId}
    (hA : assetA ≠ T.getBaseAssetId) (hB : assetB = T.getBaseAssetId) :
    decideIsFeeFromDestination assetA assetB = true := by
  rw [decideIsFeeFromDestination, if_neg (Ne.symm hA), if_pos hB.symm]

theorem decide_of_sold {assetA assetB : T.AssetId}
    (hA : assetA = T.getBaseAssetId) :
    decideIsFeeFromDestination assetA assetB = false := by
  rw [decideIsFeeFromDestination, if_pos hA.symm]

/-- A swap of one side that is the base asset settles its fee there exactly
when the side of the fee is the decided one. -/
theorem feeSide_iff
    (hone : ¬(a.source.asset = T.getBaseAssetId ↔
      a.destination.asset = T.getBaseAssetId)) :
    a.FeeSideIsDecided ↔
      a.feeFromDestination =
        decideIsFeeFromDestination a.source.asset a.destination.asset := by
  rw [feeFromDestination, FeeSideIsDecided]
  cases hside : a.getFeeFromDestination with
  | none => simp
  | some side => simp [hone]

/-- An accepted swap obeys the rule exactly when the side of its fee is the
decided one. -/
theorem Agreed.obeysFeeRule_iff (h : Agreed s a w t) :
    a.ObeysFeeRule w t ↔ a.FeeSideIsDecided := by
  have hfee := h.le_fee
  by_cases hone : a.source.asset = T.getBaseAssetId ↔
      a.destination.asset = T.getBaseAssetId
  · have hvacuous : a.ObeysFeeRule w t := by
      intro amount hamount
      rcases hamount with ⟨hsold, hother, -⟩ | ⟨hother, hbought, -⟩
      · exact absurd (hone.mp hsold) hother
      · exact absurd (hone.mpr hbought) hother
    exact iff_of_true hvacuous (Or.inr (Or.inr hone))
  · rw [feeSide_iff hone]
    by_cases hsold : a.source.asset = T.getBaseAssetId
    · have hother : a.destination.asset ≠ T.getBaseAssetId := fun heq =>
        hone (iff_of_true hsold heq)
      rw [decide_of_sold hsold]
      constructor
      · intro hrule
        have hpaid := (hrule _ (Or.inl ⟨hsold, hother, rfl⟩)).1
        rw [feePayment] at hpaid
        by_contra hside
        rw [if_pos (Bool.eq_true_of_not_eq_false hside)] at hpaid
        exact hother hpaid
      · intro hside amount hamount
        rw [hside, amountOnFeeSide, if_neg Bool.false_ne_true] at hfee
        rw [feePayment, hside, if_neg Bool.false_ne_true]
        rcases hamount with ⟨-, -, rfl⟩ | ⟨hne, -⟩
        · exact ⟨hsold, hfee⟩
        · exact absurd hsold hne
    · have hbought : a.destination.asset = T.getBaseAssetId := by
        by_contra hother
        exact hone (iff_of_false hsold hother)
      rw [decide_of_bought hsold hbought]
      constructor
      · intro hrule
        have hpaid := (hrule _ (Or.inr ⟨hsold, hbought, rfl⟩)).1
        rw [feePayment] at hpaid
        by_contra hside
        rw [if_neg hside] at hpaid
        exact hsold hpaid
      · intro hside amount hamount
        rw [hside, amountOnFeeSide, if_pos rfl] at hfee
        rw [feePayment, hside, if_pos rfl]
        rcases hamount with ⟨heq, -⟩ | ⟨-, -, rfl⟩
        · exact absurd heq hsold
        · exact ⟨hbought, hfee⟩

end PairSwapAction

/-- A submitted swap that succeeds obeys the fee rule exactly when the side of
its fee is left open or is the decided one, and an exchange always does. -/
theorem fee_rule_iff {s s' : Storage T} {w : T.AccountId} :
    (∀ a : PairSwapAction T,
      (createSwap w (PolySwapAction.pairSwap a)).run s = (.ok (), s') →
      ∃ t l, a.Settles s w t l ∧ s' = a.settled s l ∧
        a.feePayment w t ∈ a.payments w t ∧
        (a.ObeysFeeRule w t ↔ a.FeeSideIsDecided)) ∧
    ∀ (receiver : T.AccountId) (dexId : T.DEXId)
      (inputAssetId outputAssetId : T.AssetId) (swapAmount : SwapAmount)
      (outcome : SwapOutcome),
      (exchange w receiver dexId inputAssetId outputAssetId swapAmount).run s =
        (.ok outcome, s') →
      ∃ techAcc t l, IsPoolOf s dexId inputAssetId outputAssetId techAcc ∧
        (exchangeAction receiver techAcc inputAssetId outputAssetId
          swapAmount).Settles s w t l ∧
        s' = (exchangeAction receiver techAcc inputAssetId outputAssetId
          swapAmount).settled s l ∧
        (exchangeAction receiver techAcc inputAssetId outputAssetId
          swapAmount).ObeysFeeRule w t := by
  constructor
  · intro a h
    obtain ⟨-, t, l, hsettles, hs'⟩ := run_performCreateSwap_pairSwap_ok.mp h
    exact ⟨t, l, hsettles, hs', a.feePayment_mem w t,
      hsettles.agreed.obeysFeeRule_iff⟩
  · intro receiver dexId inputAssetId outputAssetId swapAmount outcome h
    obtain ⟨techAcc, t, l, hpool, hsettles, -, hs'⟩ := run_exchange_ok.mp h
    have hdecided : (exchangeAction receiver techAcc inputAssetId outputAssetId
        swapAmount).FeeSideIsDecided := Or.inl rfl
    exact ⟨techAcc, t, l, hpool, hsettles, hs',
      hsettles.agreed.obeysFeeRule_iff.mpr hdecided⟩

/-- Alice sells one unit of the base asset in the sample pool, with a side of
the fee of her own. -/
def saleWithFeeSide (side : Option Bool) : PairSwapAction Mock.runtime :=
  { exchangeAction Mock.alice.account (Mock.poolOf Mock.dexA Mock.redPepper)
      Mock.goldenTicket Mock.redPepper (.withDesiredInput Mock.unit 0) with
    getFeeFromDestination := side }

theorem fee_rule_iff_sample :
    ∃ t l, (saleWithFeeSide none).Settles Mock.funded Mock.alice.account t l ∧
      step Mock.funded (Mock.alice,
          .createSwap (.pairSwap (saleWithFeeSide none))) =
        (saleWithFeeSide none).settled Mock.funded l ∧
      (saleWithFeeSide none).feePayment Mock.alice.account t ∈
        (saleWithFeeSide none).payments Mock.alice.account t ∧
      ((saleWithFeeSide none).ObeysFeeRule Mock.alice.account t ↔
        (saleWithFeeSide none).FeeSideIsDecided) :=
  (fee_rule_iff (T := Mock.runtime)).1 _
    (Extrinsic.succeeds_iff.mp (by decide +kernel :
      Extrinsic.Succeeds Mock.funded (Mock.alice,
        .createSwap (.pairSwap (saleWithFeeSide none)))))

/-- The fee account of the sample pool. -/
def sampleFeeAccount : ℕ :=
  techAccountIdToAccountId (T := Mock.runtime) (.pure Mock.dexA
    (.feeCollectorForPair ⟨Mock.goldenTicket, Mock.redPepper⟩))

/-- She pays no fee in the base asset when she asks for the other side. -/
theorem sale_pays_no_base_fee :
    Extrinsic.Succeeds Mock.funded (Mock.alice,
        .createSwap (.pairSwap (saleWithFeeSide (some true)))) ∧
      (step Mock.funded (Mock.alice,
          .createSwap (.pairSwap (saleWithFeeSide (some true))))).free
        Mock.goldenTicket sampleFeeAccount = 0 ∧
      0 < (step Mock.funded (Mock.alice,
          .createSwap (.pairSwap (saleWithFeeSide (some true))))).free
        Mock.redPepper sampleFeeAccount ∧
      0 < 3 * Mock.unit / 1000 := by
  decide +kernel

end PoolXyk
end SoraParachain

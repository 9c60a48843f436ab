import SoraParachain.LiquidityProxy.ExchangeSpec
import SoraParachain.LiquidityProxy.Mock

/-!
# The minimum of an exact input

A twofold exchange compares what it bought with the minimum.  A direct exchange
gives every source its part of the minimum, rounded down, and does not compare
anything itself.  So sources that credit what they return and keep their limits
make a direct exchange keep the minimum exactly when nothing is lost by rounding.
-/

namespace SoraParachain
namespace LiquidityProxy

variable {T : Config} {P : ProxyConfig T} {E : Sources P}
  {sender receiver : T.AccountId} {inputAssetId outputAssetId : T.AssetId}
  {desiredAmountIn minAmountOut : ℕ} {filter : LiquiditySourceFilter T.DEXId}
  {s s' : ChainOf P} {outcome : SwapOutcome}

/-- An exchange of an exact input credits what it returns. -/
theorem exchange_credits (hE : Credits E SwapAmount.IsDesiredInput)
    (hassets : MovesOnlyItsAssets E receiver)
    (h : (exchange P E sender receiver inputAssetId outputAssetId
      (.withDesiredInput desiredAmountIn minAmountOut) filter).run s =
        (.ok outcome, s')) :
    s'.free outputAssetId receiver =
      s.free outputAssetId receiver + outcome.amount := by
  obtain ⟨hne, hdirect, htwofold⟩ := run_exchange_eq_ok.mp h
  by_cases hpath : IsDirect T inputAssetId outputAssetId
  · exact exchangeSingle_credits hE (hdirect hpath)
  · obtain ⟨input, first, second, -, hswaps, -, -, rfl⟩ :=
      run_exchangeTwofold_eq_ok.mp (htwofold hpath)
    have hbase : outputAssetId ≠ T.getBaseAssetId := fun heq =>
      hpath (.inr heq)
    have hcredit :=
      exchangeForward_credits hE hassets hne.symm hbase hswaps
    exact hcredit

/-- With sources that give as little as they may, a single exchange returns the
parts of the minimum. -/
theorem exists_run_exchangeSingle_leastSources (sender receiver : T.AccountId)
    {plan : AggregatedSwapOutcome T.DEXId}
    (hfits : (SwapAmount.withDesiredInput desiredAmountIn minAmountOut).Fits)
    (hplan : quoteSingle P s inputAssetId outputAssetId
      (.withDesiredInput desiredAmountIn minAmountOut) filter = .ok plan) :
    ∃ s', (exchangeSingle P (leastSources P) sender receiver inputAssetId
      outputAssetId (.withDesiredInput desiredAmountIn minAmountOut)
      filter).run s =
        (.ok ⟨flooredSum fixedFormat.scale minAmountOut
          (shareBits plan.distribution), 0⟩, s') := by
  obtain ⟨s', htrades⟩ :=
    exists_trades_leastSources (positiveShares plan.distribution) s
  have hamount := sum_amount_leastOutcomes desiredAmountIn minAmountOut
    (positiveShares plan.distribution)
  have hfee := sum_fee_leastOutcomes
    (.withDesiredInput desiredAmountIn minAmountOut)
    (positiveShares plan.distribution)
  have hle : flooredSum fixedFormat.scale minAmountOut
      (shareBits plan.distribution) ≤ minAmountOut :=
    flooredSum_le fixedFormat.scale_pos (sum_shareBits_quoteSingle hplan)
  refine ⟨s', run_exchangeSingle_eq_ok.mpr
    ⟨hfits, plan, _, hplan, htrades, ?_, ?_, ?_⟩⟩
  · rw [hamount]
    exact hle.trans_lt hfits.2
  · rw [hfee]
    decide
  · rw [hamount, hfee]
    rfl

/-- The caller of an exact input is protected: whatever the sources are, as long
as they credit what they return and keep their limits, a successful exchange
credits what it returns, and returns at least the minimum. -/
def ProtectsInput (P : ProxyConfig T) (s : ChainOf P)
    (sender receiver : T.AccountId) (inputAssetId outputAssetId : T.AssetId)
    (desiredAmountIn minAmountOut : ℕ)
    (filter : LiquiditySourceFilter T.DEXId) : Prop :=
  ∀ E : Sources P, Credits E SwapAmount.IsDesiredInput →
    KeepsLimits E SwapAmount.IsDesiredInput →
      MovesOnlyItsAssets E receiver →
        ∀ outcome s',
          (exchange P E sender receiver inputAssetId outputAssetId
              (.withDesiredInput desiredAmountIn minAmountOut) filter).run s =
                (.ok outcome, s') →
            s'.free outputAssetId receiver =
                s.free outputAssetId receiver + outcome.amount ∧
              minAmountOut ≤ outcome.amount

/-- The caller is protected exactly when the exchange is twofold or the parts of
the minimum add up to it. -/
theorem protectsInput_iff :
    ProtectsInput P s sender receiver inputAssetId outputAssetId
        desiredAmountIn minAmountOut filter ↔
      (inputAssetId ≠ outputAssetId → IsDirect T inputAssetId outputAssetId →
        (SwapAmount.withDesiredInput desiredAmountIn minAmountOut).Fits →
          ∀ plan,
            quoteSingle P s inputAssetId outputAssetId
                (.withDesiredInput desiredAmountIn minAmountOut) filter =
                  .ok plan →
              flooredSum fixedFormat.scale minAmountOut
                (shareBits plan.distribution) = minAmountOut) := by
  constructor
  · intro h hne hdirect hfits plan hplan
    obtain ⟨s', hrun⟩ := exists_run_exchangeSingle_leastSources
      sender receiver hfits hplan
    have hexchange := run_exchange_eq_ok.mpr
      ⟨hne, fun _ => hrun, fun hpath => absurd hdirect hpath⟩
    have hmin := (h (leastSources P) credits_leastSources
      keepsLimits_leastSources movesOnlyItsAssets_leastSources _ s' hexchange).2
    have hle : flooredSum fixedFormat.scale minAmountOut
        (shareBits plan.distribution) ≤ minAmountOut :=
      flooredSum_le fixedFormat.scale_pos (sum_shareBits_quoteSingle hplan)
    exact Nat.le_antisymm hle hmin
  · intro h E hcredits hlimits hassets outcome s' hrun
    refine ⟨exchange_credits hcredits hassets hrun, ?_⟩
    obtain ⟨hne, hdirect, htwofold⟩ := run_exchange_eq_ok.mp hrun
    by_cases hpath : IsDirect T inputAssetId outputAssetId
    · have hsingle := hdirect hpath
      obtain ⟨plan, hplan, hle⟩ := exchangeSingle_keepsLimits hlimits hsingle
      have hfits := (run_exchangeSingle_eq_ok.mp hsingle).1
      rwa [h hne hpath hfits plan hplan] at hle
    · obtain ⟨input, first, second, -, -, hcheck, -, rfl⟩ :=
        run_exchangeTwofold_eq_ok.mp (htwofold hpath)
      exact hcheck

/-- Two halves of a minimum of three are one each, and so is what the pools return
for them. -/
theorem exchange_returns_less_than_minimum :
    ¬ProtectsInput Mock.proxy Mock.market 2 3 Mock.goldenTicket
      Mock.blackPepper 3 3 Mock.anyFilter := by
  intro h
  have hrun :
      (exchange Mock.proxy Mock.pools 2 3 Mock.goldenTicket Mock.blackPepper
        (.withDesiredInput 3 3) Mock.anyFilter).run Mock.market =
          (.ok ⟨2, 0⟩, _) :=
    Prod.ext (by decide +kernel) rfl
  have hmin := (h Mock.pools credits_pricedSources keepsLimits_pricedSources
    movesOnlyItsAssets_pricedSources _ _ hrun).2
  exact absurd hmin (by decide)

end LiquidityProxy
end SoraParachain

import SoraParachain.LiquidityProxy.ExchangeSpec
import SoraParachain.LiquidityProxy.Mock

/-!
# What a split leaves behind

The parts of an input are rounded down, so that they may not add up to it.  What a
single exchange of an exact input does not hand out stays with its sender, and the
sender of the second step of a twofold exchange is the account of the proxy.
-/

namespace SoraParachain
namespace LiquidityProxy

variable {T : Config} {P : ProxyConfig T} {E : Sources P}
  {sender receiver : T.AccountId} {inputAssetId outputAssetId : T.AssetId}
  {amount : SwapAmount} {desiredAmountIn minAmountOut : ℕ}
  {filter : LiquiditySourceFilter T.DEXId}
  {s s₁ s' : ChainOf P} {outcome : SwapOutcome}

/-- The parts of an input add up to it, whatever plan is made for it. -/
def InputAddsUp (P : ProxyConfig T) (s : ChainOf P)
    (inputAssetId outputAssetId : T.AssetId) (desiredAmountIn minAmountOut : ℕ)
    (filter : LiquiditySourceFilter T.DEXId) : Prop :=
  ∀ plan,
    quoteSingle P s inputAssetId outputAssetId
        (.withDesiredInput desiredAmountIn minAmountOut) filter = .ok plan →
      flooredSum fixedFormat.scale desiredAmountIn
        (shareBits plan.distribution) = desiredAmountIn

theorem inputAddsUp_iff {plan : AggregatedSwapOutcome T.DEXId}
    (hplan : quoteSingle P s inputAssetId outputAssetId
      (.withDesiredInput desiredAmountIn minAmountOut) filter = .ok plan) :
    InputAddsUp P s inputAssetId outputAssetId desiredAmountIn minAmountOut
        filter ↔
      flooredSum fixedFormat.scale desiredAmountIn
        (shareBits plan.distribution) = desiredAmountIn := by
  constructor
  · intro h
    exact h plan hplan
  · intro h plan' hplan'
    rw [hplan] at hplan'
    cases hplan'
    exact h

/-- A single exchange debits its whole input exactly when the parts add up. -/
theorem exchangeSingle_debits_input_iff
    (hE : Debits E SwapAmount.IsDesiredInput)
    (h : (exchangeSingle P E sender receiver inputAssetId outputAssetId
      (.withDesiredInput desiredAmountIn minAmountOut) filter).run s =
        (.ok outcome, s')) :
    s'.free inputAssetId sender + desiredAmountIn =
        s.free inputAssetId sender ↔
      InputAddsUp P s inputAssetId outputAssetId desiredAmountIn minAmountOut
        filter := by
  obtain ⟨plan, hplan, hdebit⟩ := exchangeSingle_debits hE h
  rw [inputAddsUp_iff hplan, ← hdebit]
  constructor
  · intro heq
    exact (Nat.add_left_cancel heq).symm
  · intro heq
    rw [heq]

/-! ## The account of the proxy -/

section Forward

variable {first second : SwapOutcome}

/-- In all assets but the base asset the account of the proxy is left alone. -/
theorem forward_free_transit_of_ne
    (hassets : MovesOnlyItsAssets E P.getTechnicalAccountId)
    (hparties : MovesOnlyItsParties E P.getTechnicalAccountId)
    (hsender : P.getTechnicalAccountId ≠ sender)
    (hreceiver : P.getTechnicalAccountId ≠ receiver)
    {assetId base : T.AssetId} (hne : inputAssetId ≠ outputAssetId)
    (hbase : assetId ≠ base)
    (hfirst : (exchangeSingle P E sender P.getTechnicalAccountId inputAssetId
      base (.withDesiredInput desiredAmountIn 0) filter).run s =
        (.ok first, s₁))
    (hsecond : (exchangeSingle P E P.getTechnicalAccountId receiver base
      outputAssetId (.withDesiredInput first.amount 0) filter).run s₁ =
        (.ok second, s')) :
    s'.free assetId P.getTechnicalAccountId =
      s.free assetId P.getTechnicalAccountId := by
  by_cases hin : assetId = inputAssetId
  · have hout : assetId ≠ outputAssetId := by
      rw [hin]
      exact hne
    rw [exchangeSingle_free_of_ne hassets hsecond hbase hout, hin]
    exact (exchangeSingle_free_of_not_party hparties hfirst).1 hsender
  · by_cases hout : assetId = outputAssetId
    · have hleg := exchangeSingle_free_of_ne hassets hfirst hin hbase
      rw [← hleg, hout]
      exact (exchangeSingle_free_of_not_party hparties hsecond).2 hreceiver
    · rw [exchangeSingle_free_of_ne hassets hsecond hbase hout]
      exact exchangeSingle_free_of_ne hassets hfirst hin hbase

/-- In the base asset it keeps what the second step does not hand out. -/
theorem forward_free_transit_base
    (hcredits : Credits E SwapAmount.IsDesiredInput)
    (hdebits : Debits E SwapAmount.IsDesiredInput) {base : T.AssetId}
    (hfirst : (exchangeSingle P E sender P.getTechnicalAccountId inputAssetId
      base (.withDesiredInput desiredAmountIn 0) filter).run s =
        (.ok first, s₁))
    (hsecond : (exchangeSingle P E P.getTechnicalAccountId receiver base
      outputAssetId (.withDesiredInput first.amount 0) filter).run s₁ =
        (.ok second, s')) :
    s'.free base P.getTechnicalAccountId =
        s.free base P.getTechnicalAccountId ↔
      InputAddsUp P s₁ base outputAssetId first.amount 0 filter := by
  rw [← exchangeSingle_debits_input_iff hdebits hsecond,
    exchangeSingle_credits hcredits hfirst]
  exact (Nat.add_right_cancel_iff).symm

end Forward

/-- The parts of what the first step brings add up in the second step. -/
def SecondStepAddsUp (P : ProxyConfig T) (E : Sources P) (s : ChainOf P)
    (sender : T.AccountId) (inputAssetId outputAssetId : T.AssetId)
    (amount : SwapAmount) (filter : LiquiditySourceFilter T.DEXId) : Prop :=
  ∀ input first s₁,
    twofoldInput P s inputAssetId T.getBaseAssetId outputAssetId amount
        filter = .ok input →
      (exchangeSingle P E sender P.getTechnicalAccountId inputAssetId
          T.getBaseAssetId (.withDesiredInput input 0) filter).run s =
            (.ok first, s₁) →
        InputAddsUp P s₁ T.getBaseAssetId outputAssetId first.amount 0 filter

/-- Nothing is lost exactly when the parts add up: a single exchange debits its
whole input, and a twofold exchange leaves the account of the proxy as it was. -/
theorem nothing_lost_iff (hcredits : Credits E SwapAmount.IsDesiredInput)
    (hdebits : Debits E SwapAmount.IsDesiredInput)
    (hassets : MovesOnlyItsAssets E P.getTechnicalAccountId)
    (hparties : MovesOnlyItsParties E P.getTechnicalAccountId) :
    (∀ sender receiver inputAssetId outputAssetId desiredAmountIn minAmountOut
        filter s outcome s',
      (exchangeSingle P E sender receiver inputAssetId outputAssetId
          (.withDesiredInput desiredAmountIn minAmountOut) filter).run s =
            (.ok outcome, s') →
        (s'.free inputAssetId sender + desiredAmountIn =
            s.free inputAssetId sender ↔
          InputAddsUp P s inputAssetId outputAssetId desiredAmountIn
            minAmountOut filter)) ∧
    ∀ sender receiver inputAssetId outputAssetId amount filter s outcome s',
      P.getTechnicalAccountId ≠ sender → P.getTechnicalAccountId ≠ receiver →
        ¬IsDirect T inputAssetId outputAssetId →
          (exchange P E sender receiver inputAssetId outputAssetId amount
              filter).run s = (.ok outcome, s') →
            ((∀ assetId, s'.free assetId P.getTechnicalAccountId =
                s.free assetId P.getTechnicalAccountId) ↔
              SecondStepAddsUp P E s sender inputAssetId outputAssetId amount
                filter) := by
  constructor
  · intro sender receiver inputAssetId outputAssetId d m filter s outcome s' h
    exact exchangeSingle_debits_input_iff hdebits h
  · intro sender receiver inputAssetId outputAssetId amount filter s outcome s'
      hsender hreceiver hpath h
    obtain ⟨hne, -, htwofold⟩ := run_exchange_eq_ok.mp h
    obtain ⟨input, first, second, hinput, hswaps, -⟩ :=
      run_exchangeTwofold_eq_ok.mp (htwofold hpath)
    obtain ⟨s₁, hfirst, hsecond⟩ := run_exchangeForward_eq_ok.mp hswaps
    have hbase := forward_free_transit_base hcredits hdebits hfirst hsecond
    constructor
    · intro hkept input' first' s₁' hinput' hfirst'
      rw [hinput] at hinput'
      cases hinput'
      rw [hfirst] at hfirst'
      cases hfirst'
      exact hbase.mp (hkept T.getBaseAssetId)
    · intro hadds assetId
      by_cases hasset : assetId = T.getBaseAssetId
      · rw [hasset]
        exact hbase.mpr (hadds input first s₁ hinput hfirst)
      · exact forward_free_transit_of_ne hassets hparties hsender hreceiver hne
          hasset hfirst hsecond

/-! ## Halves of an odd input -/

section Sample

open Mock

theorem run_halves :
    ∃ s', (exchangeSingle proxy pools 2 3 goldenTicket blackPepper
        (.withDesiredInput 3 0) anyFilter).run market = (.ok ⟨2, 0⟩, s') ∧
      s'.free goldenTicket 2 = 98 :=
  ⟨_, Prod.ext (by decide +kernel) rfl, by decide +kernel⟩

theorem run_halves_of_transit :
    ∃ s', (exchange proxy pools 2 3 redPepper blackPepper
        (.withDesiredInput 9 0) anyFilter).run market = (.ok ⟨2, 0⟩, s') ∧
      s'.free goldenTicket transitAccount = 101 :=
  ⟨_, Prod.ext (by decide +kernel) rfl, by decide +kernel⟩

/-- The halves of three do not add up, neither for a caller nor for the account
of the proxy. -/
theorem nothing_lost_sample :
    ¬InputAddsUp proxy market goldenTicket blackPepper 3 0 anyFilter ∧
      ¬SecondStepAddsUp proxy pools market 2 redPepper blackPepper
        (.withDesiredInput 9 0) anyFilter := by
  have hlost := nothing_lost_iff (P := proxy) (E := pools)
    credits_pricedSources debits_pricedSources movesOnlyItsAssets_pricedSources
    movesOnlyItsParties_pricedSources
  constructor
  · intro hadds
    obtain ⟨s', hrun, hfree⟩ := run_halves
    have hdebit := (hlost.1 _ _ _ _ _ _ _ _ _ _ hrun).mpr hadds
    rw [hfree] at hdebit
    exact absurd hdebit (by decide)
  · intro hadds
    obtain ⟨s', hrun, hfree⟩ := run_halves_of_transit
    have hkept := (hlost.2 _ _ _ _ _ _ _ _ _ (by decide) (by decide)
      (by decide) hrun).mpr hadds goldenTicket
    exact absurd (hfree.symm.trans hkept) (by decide)

/-- The pools debit exactly what they are given, and still a single exchange of
three debits two, and the account of the proxy keeps one. -/
theorem exchange_keeps_part_of_input :
    Debits pools SwapAmount.IsDesiredInput ∧
      (∃ outcome s', (exchangeSingle proxy pools 2 3 goldenTicket blackPepper
          (.withDesiredInput 3 0) anyFilter).run market = (.ok outcome, s') ∧
        s'.free goldenTicket 2 + 3 ≠ market.free goldenTicket 2) ∧
      ∃ outcome s', (exchange proxy pools 2 3 redPepper blackPepper
          (.withDesiredInput 9 0) anyFilter).run market = (.ok outcome, s') ∧
        s'.free goldenTicket transitAccount ≠
          market.free goldenTicket transitAccount := by
  refine ⟨debits_pricedSources, ?_, ?_⟩
  · obtain ⟨s', hrun, hfree⟩ := run_halves
    refine ⟨_, s', hrun, ?_⟩
    rw [hfree]
    decide
  · obtain ⟨s', hrun, hfree⟩ := run_halves_of_transit
    refine ⟨_, s', hrun, ?_⟩
    rw [hfree]
    decide

end Sample

end LiquidityProxy
end SoraParachain

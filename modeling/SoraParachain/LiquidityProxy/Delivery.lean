import SoraParachain.LiquidityProxy.ExchangeSpec
import SoraParachain.LiquidityProxy.Mock

/-!
# What an exact output delivers

A direct exchange asks every source for its part of the desired output, rounded
down.  A twofold one prices its input backwards, exchanges it forwards, and does
not look at what it brings.  The sender is never debited more than the maximum.
The receiver is sure to get the desired output when a direct exchange hands out all
of it.
-/

namespace SoraParachain
namespace LiquidityProxy

variable {T : Config} {P : ProxyConfig T} {E : Sources P}
  {sender receiver : T.AccountId} {inputAssetId outputAssetId : T.AssetId}
  {desiredAmountOut maxAmountIn : ℕ} {filter : LiquiditySourceFilter T.DEXId}
  {s s' : ChainOf P} {outcome : SwapOutcome}

/-- Sources that credit the receiver and debit the sender as their amount and
their outcome say, and move these two in no other assets. -/
structure Honour (E : Sources P) (sender receiver : T.AccountId) : Prop where
  credits : Credits E fun _ => True
  debits : Debits E fun _ => True
  keepsLimits : KeepsLimits E fun _ => True
  sender : MovesOnlyItsAssets E sender
  receiver : MovesOnlyItsAssets E receiver

theorem honour_pricedSources {price : SwapAmount → SwapOutcome} :
    Honour (pricedSources P price) sender receiver where
  credits := credits_pricedSources
  debits := debits_pricedSources
  keepsLimits := keepsLimits_pricedSources
  sender := movesOnlyItsAssets_pricedSources
  receiver := movesOnlyItsAssets_pricedSources

/-! ## The sender -/

/-- The sender of an exact output is debited at most the maximum. -/
theorem exchange_debits_le (hE : Honour E sender receiver)
    (h : (exchange P E sender receiver inputAssetId outputAssetId
      (.withDesiredOutput desiredAmountOut maxAmountIn) filter).run s =
        (.ok outcome, s')) :
    s.free inputAssetId sender ≤
      s'.free inputAssetId sender + maxAmountIn := by
  obtain ⟨hne, hdirect, htwofold⟩ := run_exchange_eq_ok.mp h
  by_cases hpath : IsDirect T inputAssetId outputAssetId
  · obtain ⟨-, plan, outcomes, hplan, htrades, -⟩ :=
      run_exchangeSingle_eq_ok.mp (hdirect hpath)
    have hpaid := htrades.debited hE.debits fun _ => trivial
    have hlimits : (outcomes.map SwapOutcome.amount).sum ≤
        flooredSum fixedFormat.scale maxAmountIn
          (shareBits plan.distribution) :=
      htrades.allowsAll hE.keepsLimits fun _ => trivial
    have hle : flooredSum fixedFormat.scale maxAmountIn
        (shareBits plan.distribution) ≤ maxAmountIn :=
      flooredSum_le fixedFormat.scale_pos (sum_shareBits_quoteSingle hplan)
    rw [← hpaid]
    exact Nat.add_le_add_left (hlimits.trans hle) _
  · obtain ⟨input, first, second, hinput, hswaps, -⟩ :=
      run_exchangeTwofold_eq_ok.mp (htwofold hpath)
    have hbase : inputAssetId ≠ T.getBaseAssetId := fun heq =>
      hpath (.inl heq)
    have hle := exchangeForward_debits_le hE.debits.of_all hE.sender hne hbase
      hswaps
    exact hle.trans (Nat.add_le_add_left (twofoldInput_le hinput) _)

/-! ## The receiver -/

/-- The parts of an output add up to it, whatever plan is made for it. -/
def OutputAddsUp (P : ProxyConfig T) (s : ChainOf P)
    (inputAssetId outputAssetId : T.AssetId) (desiredAmountOut maxAmountIn : ℕ)
    (filter : LiquiditySourceFilter T.DEXId) : Prop :=
  ∀ plan,
    quoteSingle P s inputAssetId outputAssetId
        (.withDesiredOutput desiredAmountOut maxAmountIn) filter = .ok plan →
      flooredSum fixedFormat.scale desiredAmountOut
        (shareBits plan.distribution) = desiredAmountOut

/-- A direct exchange credits the parts of the output. -/
theorem exchange_credits_of_direct (hE : Honour E sender receiver)
    (hpath : IsDirect T inputAssetId outputAssetId)
    (h : (exchange P E sender receiver inputAssetId outputAssetId
      (.withDesiredOutput desiredAmountOut maxAmountIn) filter).run s =
        (.ok outcome, s')) :
    ∃ plan,
      quoteSingle P s inputAssetId outputAssetId
        (.withDesiredOutput desiredAmountOut maxAmountIn) filter = .ok plan ∧
      s'.free outputAssetId receiver = s.free outputAssetId receiver +
        flooredSum fixedFormat.scale desiredAmountOut
          (shareBits plan.distribution) := by
  obtain ⟨-, hdirect, -⟩ := run_exchange_eq_ok.mp h
  obtain ⟨-, plan, outcomes, hplan, htrades, -⟩ :=
    run_exchangeSingle_eq_ok.mp (hdirect hpath)
  exact ⟨plan, hplan, htrades.credited hE.credits fun _ => trivial⟩

/-- The receiver of an exchange does not lose what is bought. -/
theorem exchange_receiver_le (hE : Honour E sender receiver)
    (h : (exchange P E sender receiver inputAssetId outputAssetId
      (.withDesiredOutput desiredAmountOut maxAmountIn) filter).run s =
        (.ok outcome, s')) :
    s.free outputAssetId receiver ≤ s'.free outputAssetId receiver := by
  by_cases hpath : IsDirect T inputAssetId outputAssetId
  · obtain ⟨plan, -, hcredit⟩ := exchange_credits_of_direct hE hpath h
    rw [hcredit]
    exact Nat.le_add_right _ _
  · obtain ⟨hne, -, htwofold⟩ := run_exchange_eq_ok.mp h
    obtain ⟨input, first, second, -, hswaps, -⟩ :=
      run_exchangeTwofold_eq_ok.mp (htwofold hpath)
    have hout : outputAssetId ≠ T.getBaseAssetId := fun heq =>
      hpath (.inr heq)
    rw [exchangeForward_credits hE.credits.of_all hE.receiver hne.symm hout
      hswaps]
    exact Nat.le_add_right _ _

/-- A plan for a direct exchange can be carried out by sources that ask for
nothing. -/
theorem exists_run_exchange_of_direct (sender receiver : T.AccountId)
    {plan : AggregatedSwapOutcome T.DEXId}
    (hne : inputAssetId ≠ outputAssetId)
    (hpath : IsDirect T inputAssetId outputAssetId)
    (hfits :
      (SwapAmount.withDesiredOutput desiredAmountOut maxAmountIn).Fits)
    (hplan : quoteSingle P s inputAssetId outputAssetId
      (.withDesiredOutput desiredAmountOut maxAmountIn) filter = .ok plan) :
    ∃ outcome s', (exchange P (pricedSources P leastOutcome) sender receiver
      inputAssetId outputAssetId
      (.withDesiredOutput desiredAmountOut maxAmountIn) filter).run s =
        (.ok outcome, s') := by
  have hamount := sum_amount_leastOutcomes_output desiredAmountOut maxAmountIn
    (positiveShares plan.distribution)
  have hfee := sum_fee_leastOutcomes
    (.withDesiredOutput desiredAmountOut maxAmountIn)
    (positiveShares plan.distribution)
  obtain ⟨s', htrades⟩ := exists_trades_pricedSources sender receiver
    (.withDesiredOutput desiredAmountOut maxAmountIn) hne
    (positiveShares plan.distribution) s (hamount.trans_le (Nat.zero_le _))
  have hsingle := run_exchangeSingle_eq_ok.mpr ⟨hfits, plan, _, hplan, htrades,
    hamount.trans_lt (by decide), hfee.trans_lt (by decide), rfl⟩
  exact ⟨_, s', run_exchange_eq_ok.mpr
    ⟨hne, fun _ => hsingle, fun hnot => absurd hpath hnot⟩⟩

/-! ## Sources that give nothing in the second step -/

/-- Sources that trade at the least price as soon as they are paid in an
asset. -/
def leastFor (assetId : T.AssetId) (E : Sources P) : Sources P :=
  fun sender receiver src inputAssetId outputAssetId amount =>
    if inputAssetId = assetId then
      pricedSources P leastOutcome sender receiver src inputAssetId
        outputAssetId amount
    else E sender receiver src inputAssetId outputAssetId amount

theorem honour_leastFor {assetId : T.AssetId} (hE : Honour E sender receiver) :
    Honour (leastFor assetId E) sender receiver := by
  have hleast : Honour (pricedSources P leastOutcome) sender receiver :=
    honour_pricedSources
  constructor
  · intro sender receiver src inputAssetId outputAssetId amount s outcome s' _ h
    unfold leastFor at h
    split_ifs at h
    · exact hleast.credits trivial h
    · exact hE.credits trivial h
  · intro sender receiver src inputAssetId outputAssetId amount s outcome s' _ h
    unfold leastFor at h
    split_ifs at h
    · exact hleast.debits trivial h
    · exact hE.debits trivial h
  · intro sender receiver src inputAssetId outputAssetId amount s outcome s' _ h
    unfold leastFor at h
    split_ifs at h
    · exact hleast.keepsLimits trivial h
    · exact hE.keepsLimits trivial h
  · intro sender receiver src inputAssetId outputAssetId amount s outcome s' h
    unfold leastFor at h
    split_ifs at h
    · exact hleast.sender h
    · exact hE.sender h
  · intro sender receiver src inputAssetId outputAssetId amount s outcome s' h
    unfold leastFor at h
    split_ifs at h
    · exact hleast.receiver h
    · exact hE.receiver h

/-- Whatever sources serve a twofold exchange, those that give nothing in its
second step serve it too. -/
theorem exists_run_exchange_leastFor (hE : Honour E sender receiver)
    (hpath : ¬IsDirect T inputAssetId outputAssetId)
    (h : (exchange P E sender receiver inputAssetId outputAssetId
      (.withDesiredOutput desiredAmountOut maxAmountIn) filter).run s =
        (.ok outcome, s')) :
    ∃ outcome s'', (exchange P (leastFor T.getBaseAssetId E) sender receiver
        inputAssetId outputAssetId
        (.withDesiredOutput desiredAmountOut maxAmountIn) filter).run s =
          (.ok outcome, s'') ∧
      s''.free outputAssetId receiver = s.free outputAssetId receiver := by
  obtain ⟨hne, -, htwofold⟩ := run_exchange_eq_ok.mp h
  obtain ⟨input, first, second, hinput, hswaps, -, hfees, -⟩ :=
    run_exchangeTwofold_eq_ok.mp (htwofold hpath)
  obtain ⟨s₁, hfirst, hsecond⟩ := run_exchangeForward_eq_ok.mp hswaps
  have hin : inputAssetId ≠ T.getBaseAssetId := fun heq => hpath (.inl heq)
  have hout : outputAssetId ≠ T.getBaseAssetId := fun heq => hpath (.inr heq)
  have hfirst' : (exchangeSingle P (leastFor T.getBaseAssetId E) sender
      P.getTechnicalAccountId inputAssetId T.getBaseAssetId
      (.withDesiredInput input 0) filter).run s = (.ok first, s₁) := by
    obtain ⟨hfits, plan, outcomes, hplan, htrades, hrest⟩ :=
      run_exchangeSingle_eq_ok.mp hfirst
    exact run_exchangeSingle_eq_ok.mpr ⟨hfits, plan, outcomes, hplan,
      htrades.congr fun src part => if_neg hin, hrest⟩
  obtain ⟨s'', hsecond'⟩ : ∃ s'', (exchangeSingle P
      (leastFor T.getBaseAssetId E) P.getTechnicalAccountId receiver
      T.getBaseAssetId outputAssetId (.withDesiredInput first.amount 0)
      filter).run s₁ = (.ok ⟨0, 0⟩, s'') := by
    obtain ⟨hfits, -⟩ := run_exchangeSingle_eq_ok.mp hsecond
    obtain ⟨plan, hplan, hdebit⟩ :=
      exchangeSingle_debits hE.debits.of_all hsecond
    have hamount := sum_amount_leastOutcomes first.amount 0
      (positiveShares plan.distribution)
    rw [flooredSum_zero] at hamount
    have hfee := sum_fee_leastOutcomes (.withDesiredInput first.amount 0)
      (positiveShares plan.distribution)
    have hfunds : flooredSum fixedFormat.scale first.amount
        (shareBits plan.distribution) ≤
          s₁.free T.getBaseAssetId P.getTechnicalAccountId :=
      (Nat.le_add_left _ _).trans hdebit.le
    obtain ⟨s'', htrades⟩ := exists_trades_pricedSources
      P.getTechnicalAccountId receiver (.withDesiredInput first.amount 0)
      hout.symm (positiveShares plan.distribution) s₁ hfunds
    refine ⟨s'', run_exchangeSingle_eq_ok.mpr ⟨hfits, plan, _, hplan,
      htrades.congr fun src part => if_pos rfl, ?_, ?_, ?_⟩⟩
    · rw [hamount]
      decide
    · rw [hfee]
      decide
    · rw [hamount, hfee]
  have hswaps' := run_exchangeForward_eq_ok.mpr ⟨s₁, hfirst', hsecond'⟩
  have hfee' : first.fee + 0 < balanceModulus :=
    (Nat.le_add_right _ _).trans_lt hfees
  have htwofold' := run_exchangeTwofold_eq_ok.mpr
    ⟨input, first, ⟨0, 0⟩, hinput, hswaps', trivial, hfee', rfl⟩
  refine ⟨_, s'', run_exchange_eq_ok.mpr
    ⟨hne, fun hdirect => absurd hdirect hpath, fun _ => htwofold'⟩, ?_⟩
  have hhonour : Honour (leastFor T.getBaseAssetId E) sender receiver :=
    honour_leastFor hE
  exact exchangeForward_credits hhonour.credits.of_all hhonour.receiver
    hne.symm hout hswaps'

/-! ## Delivery -/

/-- An exact output delivers: whatever honouring sources there are, a successful
exchange credits the receiver with the desired output, and debits the sender at
most the maximum. -/
def Delivers (P : ProxyConfig T) (s : ChainOf P)
    (sender receiver : T.AccountId) (inputAssetId outputAssetId : T.AssetId)
    (desiredAmountOut maxAmountIn : ℕ)
    (filter : LiquiditySourceFilter T.DEXId) : Prop :=
  ∀ E : Sources P, Honour E sender receiver →
    ∀ outcome s',
      (exchange P E sender receiver inputAssetId outputAssetId
          (.withDesiredOutput desiredAmountOut maxAmountIn) filter).run s =
            (.ok outcome, s') →
        s.free outputAssetId receiver + desiredAmountOut ≤
            s'.free outputAssetId receiver ∧
          s.free inputAssetId sender ≤
            s'.free inputAssetId sender + maxAmountIn

/-- Some honouring sources make the exchange succeed. -/
def Servable (P : ProxyConfig T) (s : ChainOf P)
    (sender receiver : T.AccountId) (inputAssetId outputAssetId : T.AssetId)
    (desiredAmountOut maxAmountIn : ℕ)
    (filter : LiquiditySourceFilter T.DEXId) : Prop :=
  ∃ E : Sources P, Honour E sender receiver ∧
    ∃ outcome s',
      (exchange P E sender receiver inputAssetId outputAssetId
          (.withDesiredOutput desiredAmountOut maxAmountIn) filter).run s =
            (.ok outcome, s')

/-- An exchange that can succeed delivers exactly when nothing is desired, or when
it is direct and the parts of the output add up to it. -/
theorem delivers_iff :
    Delivers P s sender receiver inputAssetId outputAssetId desiredAmountOut
        maxAmountIn filter ↔
      (Servable P s sender receiver inputAssetId outputAssetId desiredAmountOut
          maxAmountIn filter →
        desiredAmountOut = 0 ∨
          IsDirect T inputAssetId outputAssetId ∧
            OutputAddsUp P s inputAssetId outputAssetId desiredAmountOut
              maxAmountIn filter) := by
  constructor
  · intro h hserved
    obtain ⟨E, hE, outcome, s', hrun⟩ := hserved
    by_cases hpath : IsDirect T inputAssetId outputAssetId
    · right
      refine ⟨hpath, ?_⟩
      intro plan hplan
      obtain ⟨hne, hdirect, -⟩ := run_exchange_eq_ok.mp hrun
      have hfits := (run_exchangeSingle_eq_ok.mp (hdirect hpath)).1
      obtain ⟨outcome', s'', hrun'⟩ := exists_run_exchange_of_direct sender
        receiver hne hpath hfits hplan
      obtain ⟨plan', hplan', hcredit⟩ :=
        exchange_credits_of_direct honour_pricedSources hpath hrun'
      rw [hplan] at hplan'
      cases hplan'
      have hdelivered := (h _ honour_pricedSources outcome' s'' hrun').1
      rw [hcredit] at hdelivered
      have hle : flooredSum fixedFormat.scale desiredAmountOut
          (shareBits plan.distribution) ≤ desiredAmountOut :=
        flooredSum_le fixedFormat.scale_pos (sum_shareBits_quoteSingle hplan)
      exact Nat.le_antisymm hle (Nat.le_of_add_le_add_left hdelivered)
    · left
      obtain ⟨outcome', s'', hrun', hkept⟩ :=
        exists_run_exchange_leastFor hE hpath hrun
      have hdelivered := (h _ (honour_leastFor hE) outcome' s'' hrun').1
      rw [hkept] at hdelivered
      omega
  · intro h E hE outcome s' hrun
    refine ⟨?_, exchange_debits_le hE hrun⟩
    rcases h ⟨E, hE, outcome, s', hrun⟩ with hzero | ⟨hpath, hadds⟩
    · rw [hzero]
      exact exchange_receiver_le hE hrun
    · obtain ⟨plan, hplan, hcredit⟩ :=
        exchange_credits_of_direct hE hpath hrun
      rw [hcredit, hadds plan hplan]

/-- Two halves of an output of three are one each. -/
theorem exchange_delivers_less_than_desired :
    ¬Delivers Mock.proxy Mock.market 2 3 Mock.goldenTicket Mock.blackPepper 3
      100 Mock.anyFilter := by
  intro h
  have hrun :
      (exchange Mock.proxy Mock.pools 2 3 Mock.goldenTicket Mock.blackPepper
        (.withDesiredOutput 3 100) Mock.anyFilter).run Mock.market =
          (.ok ⟨2, 0⟩, _) :=
    Prod.ext (by decide +kernel) rfl
  have hdelivered := (h Mock.pools honour_pricedSources _ _ hrun).1
  exact absurd hdelivered (by decide +kernel)

end LiquidityProxy
end SoraParachain

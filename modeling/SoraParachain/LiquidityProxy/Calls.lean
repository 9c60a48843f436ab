import SoraParachain.LiquidityProxy.ExchangeSpec

/-!
# The calls of the proxy

Users call a swap for themselves, with a filter of one of three modes.  Other
pallets quote and exchange through a trait, whose implementation repeats the one of
the pallet but for the sum of the fees of two steps: there it may wrap around,
here an overflow is an error.
-/

namespace SoraParachain
namespace LiquidityProxy

variable {T : Config} {P : ProxyConfig T}

/-! ## Filters -/

inductive FilterMode where
  | disabled
  | forbidSelected
  | allowSelected
  deriving DecidableEq

namespace LiquiditySourceFilter

variable {DEXId : Type}

/-- A filter with no effect. -/
def empty (dexId : DEXId) : LiquiditySourceFilter DEXId :=
  ⟨dexId, [], true⟩

def withForbidden (dexId : DEXId) (forbidden : List LiquiditySourceType) :
    LiquiditySourceFilter DEXId :=
  ⟨dexId, forbidden, true⟩

def withAllowed (dexId : DEXId) (allowed : List LiquiditySourceType) :
    LiquiditySourceFilter DEXId :=
  ⟨dexId, allowed, false⟩

def withMode (dexId : DEXId) (mode : FilterMode)
    (selected : List LiquiditySourceType) : LiquiditySourceFilter DEXId :=
  match mode with
  | .disabled => empty dexId
  | .allowSelected => withAllowed dexId selected
  | .forbidSelected => withForbidden dexId selected

end LiquiditySourceFilter

/-! ## Quotes and swaps -/

/-- A quote over a path, given how the fees of two steps add up. -/
def quotePath (addFees : ℕ → ℕ → Result ℕ) (P : ProxyConfig T) (s : ChainOf P)
    (inputAssetId outputAssetId : T.AssetId) (amount : SwapAmount)
    (filter : LiquiditySourceFilter T.DEXId) : Result SwapOutcome := do
  ensure (inputAssetId ≠ outputAssetId) (proxyError .unavailableExchangePath)
  match constructTrivialPath inputAssetId outputAssetId, amount with
  | .direct fromAssetId toAssetId, amount => do
      let aso ← quoteSingle P s fromAssetId toAssetId amount filter
      pure ⟨aso.amount, aso.fee⟩
  | .twofold fromAssetId intermediateAssetId toAssetId,
      .withDesiredInput desiredAmountIn _ => do
      let firstQuote ← quoteSingle P s fromAssetId intermediateAssetId
        (.withDesiredInput desiredAmountIn 0) filter
      let secondQuote ← quoteSingle P s intermediateAssetId toAssetId
        (.withDesiredInput firstQuote.amount 0) filter
      let cumulativeFee ← addFees firstQuote.fee secondQuote.fee
      pure ⟨secondQuote.amount, cumulativeFee⟩
  | .twofold fromAssetId intermediateAssetId toAssetId,
      .withDesiredOutput desiredAmountOut _ => do
      let secondQuote ← quoteSingle P s intermediateAssetId toAssetId
        (.withDesiredOutput desiredAmountOut maxBalance) filter
      let firstQuote ← quoteSingle P s fromAssetId intermediateAssetId
        (.withDesiredOutput secondQuote.amount maxBalance) filter
      let cumulativeFee ← addFees firstQuote.fee secondQuote.fee
      pure ⟨firstQuote.amount, cumulativeFee⟩

def quote (P : ProxyConfig T) (s : ChainOf P)
    (inputAssetId outputAssetId : T.AssetId) (amount : SwapAmount)
    (filter : LiquiditySourceFilter T.DEXId) : Result SwapOutcome :=
  quotePath checkedAdd P s inputAssetId outputAssetId amount filter

/-- The call of a user. -/
def swap (P : ProxyConfig T) (E : Sources P) (who : T.AccountId)
    (dexId : T.DEXId) (inputAssetId outputAssetId : T.AssetId)
    (swapAmount : SwapAmount) (selectedSourceTypes : List LiquiditySourceType)
    (filterMode : FilterMode) : ProxyExec P Unit := do
  let _ ← exchange P E who who inputAssetId outputAssetId swapAmount
    (.withMode dexId filterMode selectedSourceTypes)

/-! ## The trait -/

namespace LiquidityProxyTrait

/-- `a + b`, which wraps around. -/
def uncheckedAdd (a b : ℕ) : Result ℕ :=
  .ok (wrappingAdd a b)

def quote (P : ProxyConfig T) (s : ChainOf P)
    (inputAssetId outputAssetId : T.AssetId) (amount : SwapAmount)
    (filter : LiquiditySourceFilter T.DEXId) : Result SwapOutcome :=
  quotePath uncheckedAdd P s inputAssetId outputAssetId amount filter

def exchangeTwofold (P : ProxyConfig T) (E : Sources P)
    (sender receiver : T.AccountId)
    (fromAssetId intermediateAssetId toAssetId : T.AssetId)
    (amount : SwapAmount) (filter : LiquiditySourceFilter T.DEXId) :
    ProxyExec P SwapOutcome :=
  match amount with
  | .withDesiredInput desiredAmountIn minAmountOut => do
      let (firstSwap, secondSwap) ← exchangeForward P E sender receiver
        fromAssetId intermediateAssetId toAssetId desiredAmountIn filter
      ensure (secondSwap.amount ≥ minAmountOut)
        (proxyError .slippageNotTolerated)
      let cumulativeFee ← uncheckedAdd firstSwap.fee secondSwap.fee
      pure ⟨secondSwap.amount, cumulativeFee⟩
  | .withDesiredOutput desiredAmountOut maxAmountIn => do
      let secondQuote ← Tx.reads fun s =>
        quoteSingle P s intermediateAssetId toAssetId
          (.withDesiredOutput desiredAmountOut maxBalance) filter
      let firstQuote ← Tx.reads fun s =>
        quoteSingle P s fromAssetId intermediateAssetId
          (.withDesiredOutput secondQuote.amount maxBalance) filter
      ensure (firstQuote.amount ≤ maxAmountIn)
        (proxyError .slippageNotTolerated)
      let (firstSwap, secondSwap) ← exchangeForward P E sender receiver
        fromAssetId intermediateAssetId toAssetId firstQuote.amount filter
      let cumulativeFee ← uncheckedAdd firstSwap.fee secondSwap.fee
      pure ⟨firstQuote.amount, cumulativeFee⟩

def exchange (P : ProxyConfig T) (E : Sources P)
    (sender receiver : T.AccountId) (inputAssetId outputAssetId : T.AssetId)
    (amount : SwapAmount) (filter : LiquiditySourceFilter T.DEXId) :
    ProxyExec P SwapOutcome := do
  ensure (inputAssetId ≠ outputAssetId) (proxyError .unavailableExchangePath)
  Tx.withTransaction
    (match constructTrivialPath inputAssetId outputAssetId with
      | .direct fromAssetId toAssetId =>
          exchangeSingle P E sender receiver fromAssetId toAssetId amount filter
      | .twofold fromAssetId intermediateAssetId toAssetId =>
          exchangeTwofold P E sender receiver fromAssetId intermediateAssetId
            toAssetId amount filter)

end LiquidityProxyTrait

/-! ## Both implementations exchange alike -/

variable {E : Sources P} {sender receiver : T.AccountId}
  {inputAssetId outputAssetId intermediateAssetId : T.AssetId}
  {amount : SwapAmount} {filter : LiquiditySourceFilter T.DEXId}
  {s s' : ChainOf P}

/-- The fee of a single exchange is a positive fixed-point number. -/
theorem fee_lt_of_exchangeSingle {outcome : SwapOutcome}
    (h : (exchangeSingle P E sender receiver inputAssetId outputAssetId amount
      filter).run s = (.ok outcome, s')) :
    outcome.fee < 2 ^ 127 := by
  obtain ⟨-, plan, outcomes, -, -, -, hfee, rfl⟩ :=
    run_exchangeSingle_eq_ok.mp h
  exact hfee

theorem checkedAdd_eq_uncheckedAdd {a b : ℕ} (h : a + b < balanceModulus) :
    checkedAdd a b = LiquidityProxyTrait.uncheckedAdd a b := by
  rw [checkedAdd, if_pos h, LiquidityProxyTrait.uncheckedAdd, wrappingAdd,
    Nat.mod_eq_of_lt h]

/-- The fees of two steps that succeeded do not overflow. -/
theorem addFees_of_exchangeForward {desiredAmountIn : ℕ}
    {swaps : SwapOutcome × SwapOutcome}
    (h : (exchangeForward P E sender receiver inputAssetId intermediateAssetId
      outputAssetId desiredAmountIn filter).run s = (.ok swaps, s')) :
    checkedAdd swaps.1.fee swaps.2.fee =
      LiquidityProxyTrait.uncheckedAdd swaps.1.fee swaps.2.fee := by
  obtain ⟨s₁, hfirst, hsecond⟩ := run_exchangeForward_eq_ok.mp h
  have hsum : 2 ^ 127 + 2 ^ 127 ≤ balanceModulus := by decide
  have hfee := fee_lt_of_exchangeSingle hfirst
  have hfee' := fee_lt_of_exchangeSingle hsecond
  exact checkedAdd_eq_uncheckedAdd (by omega)

theorem run_exchangeTwofold_eq :
    (LiquidityProxyTrait.exchangeTwofold P E sender receiver inputAssetId
        intermediateAssetId outputAssetId amount filter).run s =
      (exchangeTwofold P E sender receiver inputAssetId intermediateAssetId
        outputAssetId amount filter).run s := by
  cases amount with
  | withDesiredInput d m =>
      refine Tx.run_bind_congr fun swaps s₁ hswaps => ?_
      refine Tx.run_bind_congr fun _ s₂ _ => ?_
      rw [addFees_of_exchangeForward hswaps]
  | withDesiredOutput d m =>
      refine Tx.run_bind_congr fun secondQuote s₁ _ => ?_
      refine Tx.run_bind_congr fun firstQuote s₂ _ => ?_
      refine Tx.run_bind_congr fun _ s₃ _ => ?_
      refine Tx.run_bind_congr fun swaps s₄ hswaps => ?_
      dsimp only
      rw [addFees_of_exchangeForward hswaps]

theorem addFees_of_checkedAdd {a b n : ℕ} (h : checkedAdd a b = .ok n) :
    LiquidityProxyTrait.uncheckedAdd a b = .ok n := by
  rw [← checkedAdd_eq_uncheckedAdd (checkedAdd_eq_ok.mp h).2, h]

/-- A quote of the pallet is one of the trait, which may quote more. -/
theorem trait_quote_of_quote {outcome : SwapOutcome}
    (h : quote P s inputAssetId outputAssetId amount filter = .ok outcome) :
    LiquidityProxyTrait.quote P s inputAssetId outputAssetId amount filter =
      .ok outcome := by
  obtain ⟨_, hne, h⟩ := Tx.except_bind_eq_ok.mp h
  refine Tx.except_bind_eq_ok.mpr ⟨(), hne, ?_⟩
  by_cases hpath : IsDirect T inputAssetId outputAssetId
  · rw [constructTrivialPath_of_direct hpath] at h ⊢
    exact h
  · rw [constructTrivialPath_of_not_direct hpath] at h ⊢
    cases amount with
    | withDesiredInput d m =>
        obtain ⟨first, hfirst, h⟩ := Tx.except_bind_eq_ok.mp h
        obtain ⟨second, hsecond, h⟩ := Tx.except_bind_eq_ok.mp h
        obtain ⟨fee, hfee, h⟩ := Tx.except_bind_eq_ok.mp h
        exact Tx.except_bind_eq_ok.mpr ⟨first, hfirst,
          Tx.except_bind_eq_ok.mpr ⟨second, hsecond,
            Tx.except_bind_eq_ok.mpr ⟨fee, addFees_of_checkedAdd hfee, h⟩⟩⟩
    | withDesiredOutput d m =>
        obtain ⟨second, hsecond, h⟩ := Tx.except_bind_eq_ok.mp h
        obtain ⟨first, hfirst, h⟩ := Tx.except_bind_eq_ok.mp h
        obtain ⟨fee, hfee, h⟩ := Tx.except_bind_eq_ok.mp h
        exact Tx.except_bind_eq_ok.mpr ⟨second, hsecond,
          Tx.except_bind_eq_ok.mpr ⟨first, hfirst,
            Tx.except_bind_eq_ok.mpr ⟨fee, addFees_of_checkedAdd hfee, h⟩⟩⟩

/-- Whoever exchanges through the trait gets what the pallet would do: the sum of
the fees that nothing checks never wraps around. -/
theorem trait_exchanges_like_pallet (P : ProxyConfig T) (E : Sources P)
    (sender receiver : T.AccountId) (inputAssetId outputAssetId : T.AssetId)
    (amount : SwapAmount) (filter : LiquiditySourceFilter T.DEXId)
    (s : ChainOf P) :
    (LiquidityProxyTrait.exchange P E sender receiver inputAssetId outputAssetId
        amount filter).run s =
      (exchange P E sender receiver inputAssetId outputAssetId amount
        filter).run s := by
  refine Tx.run_bind_congr fun _ s₁ _ => ?_
  refine Tx.run_withTransaction_congr ?_
  by_cases hpath : IsDirect T inputAssetId outputAssetId
  · rw [constructTrivialPath_of_direct hpath]
  · rw [constructTrivialPath_of_not_direct hpath]
    exact run_exchangeTwofold_eq

end LiquidityProxy
end SoraParachain

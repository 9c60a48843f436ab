import SoraParachain.LiquidityProxy.Quote

/-!
# Exchanging through the proxy

An exchange of two assets, neither of which is the base asset, takes two steps
through an account of the proxy.  Each step cuts its amount into the shares of
its distribution and hands them to the sources.
-/

namespace SoraParachain
namespace LiquidityProxy

variable {T : Config} {P : ProxyConfig T}

inductive ExchangePath (T : Config) where
  | direct (fromAssetId toAssetId : T.AssetId)
  | twofold (fromAssetId intermediateAssetId toAssetId : T.AssetId)

/-- The base asset is exchanged at once, two other assets through it. -/
def constructTrivialPath (inputAssetId outputAssetId : T.AssetId) :
    ExchangePath T :=
  if inputAssetId = T.getBaseAssetId ∨ outputAssetId = T.getBaseAssetId then
    .direct inputAssetId outputAssetId
  else .twofold inputAssetId T.getBaseAssetId outputAssetId

/-- Hand a source its share of the amount. -/
def exchangeShare (E : Sources P) (sender receiver : T.AccountId)
    (inputAssetId outputAssetId : T.AssetId) (fxAmount : FixedSwapAmount)
    (d : LiquiditySourceId T.DEXId × FixedNumber) :
    ProxyExec P SwapOutcome := do
  let part ← unwrap (fxAmount.mul d.2).toOption
  let part ← okOr (proxyError .calculationError) part.tryInto
  E sender receiver d.1 inputAssetId outputAssetId part

/-- Hand the shares to the sources in order, as long as each succeeds. -/
def exchangeShares (E : Sources P) (sender receiver : T.AccountId)
    (inputAssetId outputAssetId : T.AssetId) (fxAmount : FixedSwapAmount) :
    List (LiquiditySourceId T.DEXId × FixedNumber) →
      ProxyExec P (List SwapOutcome)
  | [] => pure []
  | d :: rest => do
      let outcome ← exchangeShare E sender receiver inputAssetId outputAssetId
        fxAmount d
      let outcomes ← exchangeShares E sender receiver inputAssetId outputAssetId
        fxAmount rest
      pure (outcome :: outcomes)

/-- Add balances up as fixed-point numbers. -/
def sumBalances (balances : List ℕ) : Result ℕ :=
  calculated (balances.foldl (fun acc x => acc + FixedWrapper.ofBalance x)
    (FixedWrapper.ofBalance 0)).tryIntoBalance

/-- The shares that are handed out. -/
def positiveShares
    (distribution : List (LiquiditySourceId T.DEXId × FixedNumber)) :
    List (LiquiditySourceId T.DEXId × FixedNumber) :=
  distribution.filter fun d => decide (0 < d.2.bits)

@[irreducible] def exchangeSingle (P : ProxyConfig T) (E : Sources P)
    (sender receiver : T.AccountId) (inputAssetId outputAssetId : T.AssetId)
    (amount : SwapAmount) (filter : LiquiditySourceFilter T.DEXId) :
    ProxyExec P SwapOutcome :=
  Tx.withTransaction do
    let fxAmount ← okOr (proxyError .calculationError)
      (FixedSwapAmount.tryFrom amount)
    let plan ← Tx.reads fun s =>
      quoteSingle P s inputAssetId outputAssetId amount filter
    let res ← exchangeShares E sender receiver inputAssetId outputAssetId
      fxAmount (positiveShares plan.distribution)
    let amount ← sumBalances (res.map SwapOutcome.amount)
    let fee ← sumBalances (res.map SwapOutcome.fee)
    pure ⟨amount, fee⟩

/-- `checked_add` on `u128`. -/
def checkedAdd (a b : ℕ) : Result ℕ :=
  if a + b < balanceModulus then .ok (a + b)
  else fail (proxyError .calculationError)

/-- Both steps of an exact input. -/
@[irreducible] def exchangeForward (P : ProxyConfig T) (E : Sources P)
    (sender receiver : T.AccountId)
    (fromAssetId intermediateAssetId toAssetId : T.AssetId)
    (desiredAmountIn : ℕ) (filter : LiquiditySourceFilter T.DEXId) :
    ProxyExec P (SwapOutcome × SwapOutcome) := do
  let firstSwap ← exchangeSingle P E sender P.getTechnicalAccountId fromAssetId
    intermediateAssetId (.withDesiredInput desiredAmountIn 0) filter
  let secondSwap ← exchangeSingle P E P.getTechnicalAccountId receiver
    intermediateAssetId toAssetId (.withDesiredInput firstSwap.amount 0) filter
  pure (firstSwap, secondSwap)

/-- An exchange through the base asset.  An exact output is priced backwards and
then exchanged forwards, from the input that was priced. -/
def exchangeTwofold (P : ProxyConfig T) (E : Sources P)
    (sender receiver : T.AccountId)
    (fromAssetId intermediateAssetId toAssetId : T.AssetId)
    (amount : SwapAmount) (filter : LiquiditySourceFilter T.DEXId) :
    ProxyExec P SwapOutcome :=
  match amount with
  | .withDesiredInput desiredAmountIn minAmountOut => do
      let (firstSwap, secondSwap) ← exchangeForward P E sender receiver
        fromAssetId intermediateAssetId toAssetId desiredAmountIn filter
      ensure (secondSwap.amount ≥ minAmountOut)
        (proxyError .slippageNotTolerated)
      let cumulativeFee ← checkedAdd firstSwap.fee secondSwap.fee
      pure ⟨secondSwap.amount, cumulativeFee⟩
  | .withDesiredOutput desiredAmountOut maxAmountIn => do
      let secondQuote ← Tx.reads fun s =>
        quoteSingle P s intermediateAssetId toAssetId
          (.withDesiredOutput desiredAmountOut maxBalance) filter
      let firstQuote ← Tx.reads fun s =>
        quoteSingle P s fromAssetId intermediateAssetId
          (.withDesiredOutput secondQuote.amount maxBalance) filter
      ensure (firstQuote.amount ≤ maxAmountIn)
        (proxyError .slippageNotTolerated)
      let (firstSwap, secondSwap) ← exchangeForward P E sender receiver
        fromAssetId intermediateAssetId toAssetId firstQuote.amount filter
      let cumulativeFee ← checkedAdd firstSwap.fee secondSwap.fee
      pure ⟨firstQuote.amount, cumulativeFee⟩

def exchange (P : ProxyConfig T) (E : Sources P)
    (sender receiver : T.AccountId) (inputAssetId outputAssetId : T.AssetId)
    (amount : SwapAmount) (filter : LiquiditySourceFilter T.DEXId) :
    ProxyExec P SwapOutcome := do
  ensure (inputAssetId ≠ outputAssetId) (proxyError .unavailableExchangePath)
  Tx.withTransaction
    (match constructTrivialPath inputAssetId outputAssetId with
      | .direct fromAssetId toAssetId =>
          exchangeSingle P E sender receiver fromAssetId toAssetId amount filter
      | .twofold fromAssetId intermediateAssetId toAssetId =>
          exchangeTwofold P E sender receiver fromAssetId intermediateAssetId
            toAssetId amount filter)

end LiquidityProxy
end SoraParachain

import SoraParachain.LiquidityProxy.Algo
import SoraParachain.LiquidityProxy.Registry

/-!
# How the proxy distributes an amount over the sources

A single source takes everything.  The primary and the secondary market together
share an amount so that their prices meet.  Any other list of sources is sampled
and gets the best distribution of the samples.
-/

namespace SoraParachain
namespace LiquidityProxy

variable {T : Config} {P : ProxyConfig T}

/-- What a quote over several sources returns. -/
structure AggregatedSwapOutcome (DEXId : Type) where
  distribution : List (LiquiditySourceId DEXId × FixedNumber)
  amount : ℕ
  fee : ℕ

/-- `SwapOutcome<Fixed>`. -/
structure FixedSwapOutcome where
  amount : FixedNumber
  fee : FixedNumber

/-- `TryFrom<SwapOutcome<Balance>>`. -/
def FixedSwapOutcome.tryFrom (outcome : SwapOutcome) :
    Option FixedSwapOutcome := do
  let amount ← fixedOfBalance outcome.amount
  let fee ← fixedOfBalance outcome.fee
  pure ⟨amount, fee⟩

/-! ## Sampling -/

/-- Quote one sample.  A source that cannot quote it is as bad as possible. -/
def quoteSample (P : ProxyConfig T) (s : ChainOf P)
    (src : LiquiditySourceId T.DEXId) (inputAssetId outputAssetId : T.AssetId)
    (sample : FixedSwapAmount) (worst : FixedNumber) :
    Result FixedSwapOutcome :=
  unwrapOr ⟨worst, fixedZero⟩ do
    let amount ← okOr (proxyError .calculationError) sample.tryInto
    let outcome ← P.quote s src inputAssetId outputAssetId amount
    okOr (proxyError .calculationError) (FixedSwapOutcome.tryFrom outcome)

/-- Sample a source with evenly spaced amounts and limits. -/
def sampleLiquiditySource (P : ProxyConfig T) (s : ChainOf P)
    (src : LiquiditySourceId T.DEXId) (inputAssetId outputAssetId : T.AssetId)
    (amount : FixedSwapAmount) (numSamples : ℕ) :
    Result (List FixedSwapOutcome) :=
  match amount with
  | .withDesiredInput amount minOut => do
      let amounts ← unwrap (linspace fixedZero amount numSamples .right)
      let limits ← unwrap (linspace fixedZero minOut numSamples .right)
      (amounts.zip limits).mapM fun sample =>
        quoteSample P s src inputAssetId outputAssetId
          (.withDesiredInput sample.1 sample.2) fixedZero
  | .withDesiredOutput amount maxIn => do
      let amounts ← unwrap (linspace fixedZero amount numSamples .right)
      let limits ← unwrap (linspace fixedZero maxIn numSamples .right)
      (amounts.zip limits).mapM fun sample =>
        quoteSample P s src inputAssetId outputAssetId
          (.withDesiredOutput sample.1 sample.2) fixedMax

/-- To the nearest integer. -/
def roundingToI64 (x : FixedNumber) : ℤ :=
  (2 * x.bits + fixedFormat.scale) / (2 * fixedFormat.scale)

/-- The fee sampled for the parts that a share stands for.  A share that
overflows is passed over, one of no parts has no sample. -/
def feeOfShare (numSamples : ℕ) (fees : List FixedNumber)
    (share : FixedNumber) : Option FixedNumber :=
  match (Fixed.checked (share.bits * numSamples) : Except _ FixedNumber) with
  | .error _ => none
  | .ok parts =>
      let idx := roundingToI64 parts
      some (if idx - 1 < 0 then fixedZero
        else fees.getD (idx - 1).toNat fixedZero)

/-- The sum of the fees sampled for a distribution. -/
def totalFee (numSamples : ℕ) (sampleFees : List (List FixedNumber))
    (distr : List FixedNumber) : FixedWrapper :=
  (distr.zip sampleFees).foldl (fun acc row =>
    match feeOfShare numSamples row.2 row.1 with
    | none => acc
    | some fee => acc + FixedWrapper.ofFixed fee) (FixedWrapper.ofBalance 0)

def genericSplit (P : ProxyConfig T) (s : ChainOf P)
    (sources : List (LiquiditySourceId T.DEXId))
    (inputAssetId outputAssetId : T.AssetId) (amount : SwapAmount) :
    Result (AggregatedSwapOutcome T.DEXId) := do
  let fxAmount := FixedSwapAmount.uniqueSaturatedFrom amount
  let rows ← sources.mapM fun src =>
    sampleLiquiditySource P s src inputAssetId outputAssetId fxAmount
      P.getNumSamples
  let sampleData := rows.map fun row => row.map FixedSwapOutcome.amount
  let sampleFees := rows.map fun row => row.map FixedSwapOutcome.fee
  let inversed :=
    match fxAmount with
    | .withDesiredInput _ _ => false
    | .withDesiredOutput _ _ => true
  let (distr, best) ← unwrap (findDistribution sampleData inversed)
  ensure (0 < best.bits ∧ best.bits < fixedMax.bits)
    (proxyError .aggregationError)
  ensure (P.getNumSamples < 2 ^ 127) (proxyError .calculationError)
  let fee ← calculated (totalFee P.getNumSamples sampleFees distr).inner
  let best ← okOr (proxyError .calculationError) (balanceOfFixed best)
  let fee ← okOr (proxyError .calculationError) (balanceOfFixed fee)
  pure ⟨sources.zip distr, best, fee⟩

/-! ## The primary and the secondary market -/

/-- A quotient as a fraction between nothing and the whole; an error counts as
nothing. -/
def clampedFraction (delta amount : FixedWrapper) : FixedNumber :=
  match (delta / amount).inner with
  | .error _ => fixedZero
  | .ok fraction =>
      if fixedOne.bits < fraction.bits then fixedOne
      else if fraction.bits < 0 then fixedZero
      else fraction

/-- What a fraction leaves of the whole. -/
def complement (fraction : FixedNumber) : Result FixedNumber :=
  unwrap (FixedWrapper.ofFixed fixedOne -
    FixedWrapper.ofFixed fraction).inner.toOption

/-- The amount with its desired value replaced and without a limit. -/
def withoutLimit (amount : SwapAmount) (amt : ℕ) : SwapAmount :=
  match amount with
  | .withDesiredInput _ _ => .withDesiredInput amt 0
  | .withDesiredOutput _ _ => .withDesiredOutput amt maxBalance

/-- The part of an amount that a fraction gets. -/
def legAmount (wrappedAmount : FixedWrapper) (fraction : FixedNumber) :
    Result ℕ :=
  calculated (wrappedAmount * FixedWrapper.ofFixed fraction).tryIntoBalance

/-- Quote the part of an amount that a source gets, if there is any, and add it
up. -/
def quoteFraction (P : ProxyConfig T) (s : ChainOf P)
    (inputAssetId outputAssetId : T.AssetId) (amount : SwapAmount)
    (wrappedAmount : FixedWrapper) (acc : ℕ × ℕ)
    (d : LiquiditySourceId T.DEXId × FixedNumber) : Result (ℕ × ℕ) := do
  let amt ← legAmount wrappedAmount d.2
  if amt > 0 then
    let outcome ← mapErr .calculationError
      (P.quote s d.1 inputAssetId outputAssetId (withoutLimit amount amt))
    pure (wrappingAdd acc.1 outcome.amount, wrappingAdd acc.2 outcome.fee)
  else pure acc

/-- Quote both fractions of an amount. -/
def quoteFractions (P : ProxyConfig T) (s : ChainOf P)
    (inputAssetId outputAssetId : T.AssetId) (amount : SwapAmount)
    (wrappedAmount : FixedWrapper)
    (distr : List (LiquiditySourceId T.DEXId × FixedNumber)) :
    Result (AggregatedSwapOutcome T.DEXId) := do
  let (best, fee) ← distr.foldlM
    (quoteFraction P s inputAssetId outputAssetId amount wrappedAmount) (0, 0)
  pure ⟨distr, best, fee⟩

/-- The amount that the secondary market can take until its price reaches the one
of the primary market, when the base asset is bought. -/
def decideAmountsBuyingBaseAsset (P : ProxyConfig T) (s : ChainOf P)
    (primarySourceId secondarySourceId : LiquiditySourceId T.DEXId)
    (baseAssetId collateralAssetId : T.AssetId) (amount : SwapAmount)
    (secondaryMarketReserves : ℕ × ℕ) :
    Result (AggregatedSwapOutcome T.DEXId) := do
  let x := FixedWrapper.ofBalance secondaryMarketReserves.1
  let y := FixedWrapper.ofBalance secondaryMarketReserves.2
  let sqrtK := x.multiplyAndSqrt y
  let secondaryPrice := y / x
  let buyPrice ← mapErr .calculationError
    (P.buyPrice s baseAssetId collateralAssetId)
  let primaryBuyPrice := FixedWrapper.ofFixed buyPrice
  let sqrtBuyPrice := primaryBuyPrice.sqrtAccurate
  match amount with
  | .withDesiredInput desiredAmountIn _ =>
      let wrappedAmount := FixedWrapper.ofBalance desiredAmountIn
      let fractionSec :=
        if secondaryPrice.less primaryBuyPrice then
          clampedFraction (sqrtK * sqrtBuyPrice - y) wrappedAmount
        else fixedZero
      let fractionPrim ← complement fractionSec
      quoteFractions P s collateralAssetId baseAssetId amount wrappedAmount
        [(primarySourceId, fractionPrim), (secondarySourceId, fractionSec)]
  | .withDesiredOutput desiredAmountOut _ =>
      let wrappedAmount := FixedWrapper.ofBalance desiredAmountOut
      let fractionSec :=
        if secondaryPrice.less primaryBuyPrice then
          clampedFraction (x - sqrtK / sqrtBuyPrice) wrappedAmount
        else fixedZero
      let fractionPrim ← complement fractionSec
      quoteFractions P s collateralAssetId baseAssetId amount wrappedAmount
        [(primarySourceId, fractionPrim), (secondarySourceId, fractionSec)]

/-- The number, or zero instead of an error. -/
def numberOrZero (number : FixedWrapper) : FixedNumber :=
  match number.inner with
  | .error _ => fixedZero
  | .ok fraction => fraction

/-- Nine tenths of the reserves of the primary market as a fraction of the
amount. -/
def collateralFraction (collateralReserves wrappedAmount : FixedWrapper) :
    FixedNumber :=
  numberOrZero (FixedWrapper.ofBalance (9 * 10 ^ 17) * collateralReserves /
    wrappedAmount)

/-- The primary market may not have the reserves for its share of a desired
output.  Then it gets what it has, and the secondary market the rest. -/
def limitToReserves (collateralReserves wrappedAmount : FixedWrapper)
    (fractionPrim fractionSec : FixedNumber) :
    Result (FixedNumber × FixedNumber) :=
  if collateralReserves.less
      (wrappedAmount * FixedWrapper.ofFixed fractionPrim) then do
    let fractionPrim := collateralFraction collateralReserves wrappedAmount
    let fractionSec ← complement fractionPrim
    pure (fractionPrim, fractionSec)
  else pure (fractionPrim, fractionSec)

/-- The same when the base asset is sold. -/
def decideAmountsSellingBaseAsset (P : ProxyConfig T) (s : ChainOf P)
    (primarySourceId secondarySourceId : LiquiditySourceId T.DEXId)
    (baseAssetId collateralAssetId : T.AssetId) (amount : SwapAmount)
    (secondaryMarketReserves : ℕ × ℕ) :
    Result (AggregatedSwapOutcome T.DEXId) := do
  let x := FixedWrapper.ofBalance secondaryMarketReserves.1
  let y := FixedWrapper.ofBalance secondaryMarketReserves.2
  let sqrtK := x.multiplyAndSqrt y
  let secondaryPrice := y / x
  let sellPrice ← mapErr .calculationError
    (P.sellPrice s baseAssetId collateralAssetId)
  let primarySellPrice := FixedWrapper.ofFixed sellPrice
  let sqrtSellPrice := primarySellPrice.sqrtAccurate
  match amount with
  | .withDesiredInput desiredAmountIn _ =>
      let wrappedAmount := FixedWrapper.ofBalance desiredAmountIn
      let fractionSec :=
        if primarySellPrice.less secondaryPrice then
          clampedFraction (sqrtK / sqrtSellPrice - x) wrappedAmount
        else fixedZero
      let fractionPrim ← complement fractionSec
      quoteFractions P s baseAssetId collateralAssetId amount wrappedAmount
        [(primarySourceId, fractionPrim), (secondarySourceId, fractionSec)]
  | .withDesiredOutput desiredAmountOut _ =>
      let wrappedAmount := FixedWrapper.ofBalance desiredAmountOut
      let fractionSec :=
        if primarySellPrice.less secondaryPrice then
          clampedFraction (y - sqrtK * sqrtSellPrice) wrappedAmount
        else fixedZero
      let fractionPrim ← complement fractionSec
      let collateralReserves ←
        unwrapOr 0 (P.collateralReserves s collateralAssetId)
      let (fractionPrim, fractionSec) ←
        limitToReserves (FixedWrapper.ofBalance collateralReserves)
          wrappedAmount fractionPrim fractionSec
      quoteFractions P s baseAssetId collateralAssetId amount wrappedAmount
        [(primarySourceId, fractionPrim), (secondarySourceId, fractionSec)]

def fastSplitPrimaryVsSecondary (P : ProxyConfig T) (s : ChainOf P)
    (primarySourceId secondarySourceId : LiquiditySourceId T.DEXId)
    (inputAssetId outputAssetId : T.AssetId) (amount : SwapAmount) :
    Result (AggregatedSwapOutcome T.DEXId) := do
  let baseAsset := T.getBaseAssetId
  ensure (inputAssetId = baseAsset ∨ outputAssetId = baseAsset)
    (proxyError .unavailableExchangePath)
  let otherAsset :=
    if baseAsset = inputAssetId then outputAssetId else inputAssetId
  let reserves := P.reserves s baseAsset otherAsset
  -- Without reserves in the secondary market the primary one takes everything.
  if reserves.1 = 0 ∨ reserves.2 = 0 then
    let outcome ←
      P.quote s primarySourceId inputAssetId outputAssetId amount
    pure ⟨[(primarySourceId, fixedOne), (secondarySourceId, fixedZero)],
      outcome.amount, outcome.fee⟩
  else if outputAssetId = baseAsset then
    decideAmountsBuyingBaseAsset P s primarySourceId secondarySourceId
      baseAsset otherAsset amount reserves
  else
    decideAmountsSellingBaseAsset P s primarySourceId secondarySourceId
      baseAsset otherAsset amount reserves

/-! ## Quotes -/

/-- The last source that is, or is not, the primary market. -/
def marketOf (isPrimary : Bool) (sources : List (LiquiditySourceId T.DEXId)) :
    Option (LiquiditySourceId T.DEXId) :=
  (sources.filter fun src =>
    decide (src.liquiditySourceIndex = .multicollateralBondingCurvePool) ==
      isPrimary).getLast?

def quoteSingle (P : ProxyConfig T) (s : ChainOf P)
    (inputAssetId outputAssetId : T.AssetId) (amount : SwapAmount)
    (filter : LiquiditySourceFilter T.DEXId) :
    Result (AggregatedSwapOutcome T.DEXId) := do
  let sources ←
    P.listLiquiditySources s inputAssetId outputAssetId filter
  match sources with
  | [] => fail (proxyError .unavailableExchangePath)
  | [src] => do
      let outcome ← P.quote s src inputAssetId outputAssetId amount
      pure ⟨[(src, fixedOne)], outcome.amount, outcome.fee⟩
  | [_, _] =>
      match marketOf true sources, marketOf false sources with
      | some mcbc, some xyk =>
          fastSplitPrimaryVsSecondary P s mcbc xyk inputAssetId outputAssetId
            amount
      | _, _ => genericSplit P s sources inputAssetId outputAssetId amount
  | _ => genericSplit P s sources inputAssetId outputAssetId amount

end LiquidityProxy
end SoraParachain

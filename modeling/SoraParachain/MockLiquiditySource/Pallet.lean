import SoraParachain.LiquidityProxy.Quote
import SoraParachain.PoolXyk.Pallet

/-!
# A source with reserves that nobody fills

The mock liquidity source keeps a pair of reserves for every asset of a DEX and
prices an exchange against them.  It moves no assets: an exchange is only quoted.
The base asset is exchanged with one pair of reserves, two other assets through
the base asset with both of theirs.
-/

namespace SoraParachain

namespace FixedWrapper

/-- Subtracting from a plain `Fixed`. -/
def fixedSub (lhs : Fixed fixedFormat) (a : FixedWrapper) : FixedWrapper :=
  a.orOverflow (ofFixed lhs - a)

/-- Adding to a plain `Fixed`. -/
def fixedAdd (lhs : Fixed fixedFormat) (a : FixedWrapper) : FixedWrapper :=
  a.orOverflow (ofFixed lhs + a)

/-- Subtracting a plain `Fixed`. -/
def subFixed (a : FixedWrapper) (rhs : Fixed fixedFormat) : FixedWrapper :=
  a.orOverflow (a - ofFixed rhs)

end FixedWrapper

namespace MockLiquiditySource

open LiquidityProxy (FixedSwapOutcome fixedOne fixedZero maxBalance)

variable {T : Config}

inductive Error where
  | pairDoesNotExist
  | insufficientInputAmount
  | insufficientOutputAmount
  | insufficientLiquidity
  | calculationError
  | incRefError
  deriving DecidableEq

/-- An instance of the pallet: its fee, and how its errors are reported. -/
structure Instance where
  getFee : FixedNumber
  report : Error → DispatchError

/-- `Fixed::from_bits(1)`. -/
def smallest : FixedNumber := ⟨1, by decide⟩

namespace Instance

variable (I : Instance)

/-- The number, or the error of the pallet. -/
def get (e : Error) (a : FixedWrapper) : Result FixedNumber :=
  match a.inner with
  | .ok x => .ok x
  | .error _ => fail (I.report e)

/-- The number as a balance, or an error of the pallet. -/
def getBalance (x : FixedNumber) : Result ℕ :=
  okOr (I.report .calculationError) (balanceOfFixed x)

def intoBalance (a : FixedWrapper) : Result ℕ :=
  match a.tryIntoBalance with
  | .ok n => .ok n
  | .error _ => fail (I.report .calculationError)

/-! ## Prices -/

def getBaseAmountOut (targetAmountIn baseReserve targetReserve : FixedNumber) :
    Result FixedSwapOutcome := do
  ensure (targetAmountIn.bits > 0) (I.report .insufficientInputAmount)
  ensure (baseReserve.bits > 0 ∧ targetReserve.bits > 0)
    (I.report .insufficientLiquidity)
  let x := FixedWrapper.ofFixed baseReserve
  let y := FixedWrapper.ofFixed targetReserve
  let dy := FixedWrapper.ofFixed targetAmountIn
  let amountOutWithoutFee ← I.get .insufficientLiquidity (dy * x / (y + dy))
  let feeFraction := FixedWrapper.ofFixed I.getFee
  let feeAmount := FixedWrapper.fixedMul amountOutWithoutFee feeFraction
  let amount ← I.get .calculationError
    (FixedWrapper.fixedSub amountOutWithoutFee feeAmount)
  let fee ← I.get .calculationError feeAmount
  pure ⟨amount, fee⟩

def getTargetAmountOut (baseAmountIn baseReserve targetReserve : FixedNumber) :
    Result FixedSwapOutcome := do
  ensure (baseAmountIn.bits > 0) (I.report .insufficientInputAmount)
  ensure (baseReserve.bits > 0 ∧ targetReserve.bits > 0)
    (I.report .insufficientLiquidity)
  let feeFraction := FixedWrapper.ofFixed I.getFee
  let feeAmount := FixedWrapper.fixedMul baseAmountIn feeFraction
  let x := FixedWrapper.ofFixed baseReserve
  let y := FixedWrapper.ofFixed targetReserve
  let dx := FixedWrapper.fixedSub baseAmountIn feeAmount
  let amountOut ← I.get .insufficientLiquidity (y * dx / (x + dx))
  let feeAmount ← I.get .calculationError feeAmount
  pure ⟨amountOut, feeAmount⟩

/-- The input without a fee is rounded down; when it brings less than desired
together with its fee, one more unit is asked for. -/
def getBaseAmountIn (targetAmountOut baseReserve targetReserve : FixedNumber) :
    Result FixedSwapOutcome := do
  ensure (targetAmountOut.bits > 0) (I.report .insufficientOutputAmount)
  ensure (baseReserve.bits > 0 ∧ targetReserve.bits > 0)
    (I.report .insufficientLiquidity)
  let x := FixedWrapper.ofFixed baseReserve
  let y := FixedWrapper.ofFixed targetReserve
  let dy := FixedWrapper.ofFixed targetAmountOut
  let baseAmountInWithoutFee ←
    I.get .insufficientLiquidity (x * dy / (y - dy))
  let feeFraction := FixedWrapper.ofFixed I.getFee
  let baseAmountInWithFee := FixedWrapper.ofFixed baseAmountInWithoutFee /
    (FixedWrapper.ofFixed fixedOne - feeFraction)
  let withFee ← I.get .calculationError baseAmountInWithFee
  let actual ← I.getTargetAmountOut withFee baseReserve targetReserve
  let amountIn :=
    if actual.amount.bits < targetAmountOut.bits then
      baseAmountInWithFee.addFixed smallest
    else baseAmountInWithFee
  let amountIn ← I.get .calculationError amountIn
  let fee ← I.get .calculationError
    (baseAmountInWithFee.subFixed baseAmountInWithoutFee)
  pure ⟨amountIn, fee⟩

/-- The fee is put on the output; when the input brings less than desired, one
more unit is asked for. -/
def getTargetAmountIn (baseAmountOut baseReserve targetReserve : FixedNumber) :
    Result FixedSwapOutcome := do
  ensure (baseAmountOut.bits > 0) (I.report .insufficientOutputAmount)
  ensure (baseReserve.bits > 0 ∧ targetReserve.bits > 0)
    (I.report .insufficientLiquidity)
  let one := FixedWrapper.ofFixed fixedOne
  let baseAmountOutWithFee :=
    FixedWrapper.ofFixed baseAmountOut / one.subFixed I.getFee
  let x := FixedWrapper.ofFixed baseReserve
  let y := FixedWrapper.ofFixed targetReserve
  let dx := baseAmountOutWithFee
  let targetAmountIn ← I.get .insufficientLiquidity (y * dx / (x - dx))
  let actual ← I.getBaseAmountOut targetAmountIn baseReserve targetReserve
  let amountIn :=
    if actual.amount.bits < baseAmountOut.bits then
      FixedWrapper.fixedAdd targetAmountIn (FixedWrapper.ofFixed smallest)
    else FixedWrapper.ofFixed targetAmountIn
  let amountIn ← I.get .calculationError amountIn
  let fee ← I.get .calculationError
    (baseAmountOutWithFee.subFixed baseAmountOut)
  pure ⟨amountIn, fee⟩

end Instance

/-! ## The pallet -/

/-- The reserves of the base asset and of an asset on a DEX. -/
abbrev Reserves (T : Config) : Type :=
  T.DEXId → T.AssetId → Option (FixedNumber × FixedNumber)

/-- The reserves, or none of either. -/
def Reserves.get (reserves : Reserves T) (dexId : T.DEXId)
    (assetId : T.AssetId) : FixedNumber × FixedNumber :=
  (reserves dexId assetId).getD (fixedZero, fixedZero)

/-- The entries of the genesis, the last one for an asset on top. -/
def initializeReserves
    (entries : List (T.DEXId × T.AssetId × (FixedNumber × FixedNumber)))
    (reserves : Reserves T) : Reserves T :=
  entries.foldl (fun reserves e => insert₂ reserves e.1 e.2.1 (some e.2.2))
    reserves

def setReserve (dexId : T.DEXId) (targetId : T.AssetId)
    (baseReserve targetReserve : FixedNumber) (reserves : Reserves T) :
    Reserves T :=
  insert₂ reserves dexId targetId (some (baseReserve, targetReserve))

/-- What a managing call of a source has to check first. -/
def testAccess (s : Storage T) (who : T.AccountId) (dexId : T.DEXId)
    (targetId : T.AssetId) : Result Unit := do
  let _ ← DexManager.ensureCanManage s dexId who .publicMode
  TradingPair.ensureTradingPairExists s dexId T.getBaseAssetId targetId

def canExchange (reserves : Reserves T) (dexId : T.DEXId)
    (inputAssetId outputAssetId : T.AssetId) : Bool :=
  if inputAssetId = T.getBaseAssetId then
    (reserves dexId outputAssetId).isSome
  else if outputAssetId = T.getBaseAssetId then
    (reserves dexId inputAssetId).isSome
  else
    (reserves dexId outputAssetId).isSome &&
      (reserves dexId inputAssetId).isSome

/-- A maximum that would not fit into a fixed-point number becomes the largest
one that does. -/
def clampMaximum : SwapAmount → SwapAmount
  | .withDesiredOutput desiredAmountOut maxAmountIn =>
      if maxAmountIn > maxBalance / 2 then
        .withDesiredOutput desiredAmountOut (maxBalance / 2)
      else .withDesiredOutput desiredAmountOut maxAmountIn
  | amount => amount

/-- `TryInto<SwapOutcome<Balance>>`. -/
def Instance.intoBalances (I : Instance) (outcome : FixedSwapOutcome) :
    Result SwapOutcome := do
  let amount ← I.getBalance outcome.amount
  let fee ← I.getBalance outcome.fee
  pure ⟨amount, fee⟩

/-- The amount of the last step with the fees of both. -/
def Instance.withBothFees (I : Instance) (amount firstFee secondFee : FixedNumber) :
    Result SwapOutcome := do
  let amount ← I.getBalance amount
  let fee ← I.intoBalance
    (FixedWrapper.ofFixed firstFee + FixedWrapper.ofFixed secondFee)
  pure ⟨amount, fee⟩

def Instance.quote (I : Instance) (reserves : Reserves T) (dexId : T.DEXId)
    (inputAssetId outputAssetId : T.AssetId) (swapAmount : SwapAmount) :
    Result SwapOutcome := do
  let swapAmount ← okOr (I.report .calculationError)
    (FixedSwapAmount.tryFrom (clampMaximum swapAmount))
  if inputAssetId = T.getBaseAssetId then
    let (baseReserve, targetReserve) := reserves.get dexId outputAssetId
    match swapAmount with
    | .withDesiredInput baseAmountIn _ =>
        I.intoBalances (←
          I.getTargetAmountOut baseAmountIn baseReserve targetReserve)
    | .withDesiredOutput targetAmountOut _ =>
        I.intoBalances (←
          I.getBaseAmountIn targetAmountOut baseReserve targetReserve)
  else if outputAssetId = T.getBaseAssetId then
    let (baseReserve, targetReserve) := reserves.get dexId inputAssetId
    match swapAmount with
    | .withDesiredInput targetAmountIn _ =>
        I.intoBalances (←
          I.getBaseAmountOut targetAmountIn baseReserve targetReserve)
    | .withDesiredOutput baseAmountOut _ =>
        I.intoBalances (←
          I.getTargetAmountIn baseAmountOut baseReserve targetReserve)
  else
    let (baseReserveA, targetReserveA) := reserves.get dexId inputAssetId
    let (baseReserveB, targetReserveB) := reserves.get dexId outputAssetId
    match swapAmount with
    | .withDesiredInput desiredAmountIn _ =>
        let outcomeA ←
          I.getBaseAmountOut desiredAmountIn baseReserveA targetReserveA
        let outcomeB ←
          I.getTargetAmountOut outcomeA.amount baseReserveB targetReserveB
        I.withBothFees outcomeB.amount outcomeA.fee outcomeB.fee
    | .withDesiredOutput desiredAmountOut _ =>
        let outcomeB ←
          I.getBaseAmountIn desiredAmountOut baseReserveB targetReserveB
        let outcomeA ←
          I.getTargetAmountIn outcomeB.amount baseReserveA targetReserveA
        I.withBothFees outcomeA.amount outcomeB.fee outcomeA.fee

/-- Nothing is exchanged. -/
def Instance.exchange (I : Instance) (reserves : Reserves T)
    (_sender _receiver : T.AccountId) (dexId : T.DEXId)
    (inputAssetId outputAssetId : T.AssetId) (desiredAmount : SwapAmount) :
    Result SwapOutcome :=
  I.quote reserves dexId inputAssetId outputAssetId desiredAmount

/-- `GetPoolReserves` of the one DEX that the caller cannot choose. -/
def poolReserves (polkaswap : T.DEXId) (reserves : Reserves T)
    (otherAsset : T.AssetId) : ℕ × ℕ :=
  let (baseReserve, targetReserve) := reserves.get polkaswap otherAsset
  ((balanceOfFixed baseReserve).getD 0, (balanceOfFixed targetReserve).getD 0)

end MockLiquiditySource
end SoraParachain

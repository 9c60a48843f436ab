import SoraParachain.PoolXyk.WithdrawLiquidity

/-!
# The calls of the pool

Each call finds the pool account of the two assets on a DEX and builds an
action for it.  Depositing and withdrawing hand the action to the technical
pallet; an exchange validates it itself to learn the outcome.
-/

namespace SoraParachain
namespace PoolXyk

variable {T : Config}

/-! ## Actions of the pool as swap actions -/

namespace PolySwapAction

def isAbstractChecking : PolySwapAction T → Bool
  | .pairSwap a => a.isAbstractChecking
  | .depositLiquidity a => a.isAbstractChecking
  | .withdrawLiquidity a => a.isAbstractChecking

def prepareAndValidate (self : PolySwapAction T)
    (source : Option T.AccountId) : Exec T (PolySwapAction T) :=
  match self with
  | .pairSwap a => do
      let a ← Tx.reads fun s => a.prepareAndValidate s source
      pure (.pairSwap a)
  | .depositLiquidity a => do
      let a ← a.prepareAndValidate source
      pure (.depositLiquidity a)
  | .withdrawLiquidity a => do
      let a ← a.prepareAndValidate source
      pure (.withdrawLiquidity a)

def reserve (self : PolySwapAction T) (source : T.AccountId) : Exec T Unit :=
  match self with
  | .pairSwap a => a.reserve source
  | .depositLiquidity a => a.reserve source
  | .withdrawLiquidity a => a.reserve source

/-- Every action is claimed at once; cancelling one is not implemented. -/
instance : SwapAction T (PolySwapAction T) where
  isAbstractChecking := isAbstractChecking
  prepareAndValidate := prepareAndValidate
  instantAutoClaimUsed _ := true
  triggeredAutoClaimUsed _ := false
  isAbleToClaim _ := true
  reserve := reserve
  claim _ _ := true
  cancel _ _ := throw .panic

end PolySwapAction

/-! ## Liquidity -/

/-- The action of a deposit before its validation. -/
def depositAction (poolAccount : TechAccountIdOf T)
    (inputAssetA inputAssetB : T.AssetId)
    (inputADesired inputBDesired inputAMin inputBMin : ℕ)
    (markAsset : T.TechAssetId) : DepositLiquidityAction T where
  clientAccount := none
  receiverAccount := none
  poolAccount := poolAccount
  source :=
    { fst := ⟨inputAssetA, .rangeFromDesiredToMin inputADesired inputAMin⟩
      snd := ⟨inputAssetB, .rangeFromDesiredToMin inputBDesired inputBMin⟩ }
  destination := ⟨markAsset, .decide⟩
  minLiquidity := none

def depositLiquidity (who : T.AccountId) (dexId : T.DEXId)
    (inputAssetA inputAssetB : T.AssetId)
    (inputADesired inputBDesired inputAMin inputBMin : ℕ) : Exec T Unit := do
  let (_, techAccId) ← Tx.reads fun s =>
    techAccountFromDexAndAssetPair s dexId inputAssetA inputAssetB
  ensure (inputADesired ≥ inputAMin ∧ inputBDesired ≥ inputBMin)
    (poolError .invalidMinimumBoundValueOfBalance)
  let markAsset ← getMarkingAsset techAccId
  let action := depositAction techAccId inputAssetA inputAssetB inputADesired
    inputBDesired inputAMin inputBMin markAsset
  Technical.performCreateSwap who (PolySwapAction.depositLiquidity action)

/-- The action of a withdrawal before its validation. -/
def withdrawAction (poolAccount : TechAccountIdOf T)
    (outputAssetA outputAssetB : T.AssetId)
    (markerAssetDesired outputAMin outputBMin : ℕ)
    (markAsset : T.TechAssetId) : WithdrawLiquidityAction T where
  clientAccount := none
  receiverAccountA := none
  receiverAccountB := none
  poolAccount := poolAccount
  source := ⟨markAsset, .desired markerAssetDesired⟩
  destination :=
    { fst := ⟨outputAssetA, .min outputAMin⟩
      snd := ⟨outputAssetB, .min outputBMin⟩ }

def withdrawLiquidity (who : T.AccountId) (dexId : T.DEXId)
    (outputAssetA outputAssetB : T.AssetId)
    (markerAssetDesired outputAMin outputBMin : ℕ) : Exec T Unit := do
  let (_, techAccId) ← Tx.reads fun s =>
    techAccountFromDexAndAssetPair s dexId outputAssetA outputAssetB
  let markAsset ← getMarkingAsset techAccId
  let action := withdrawAction techAccId outputAssetA outputAssetB
    markerAssetDesired outputAMin outputBMin markAsset
  Technical.performCreateSwap who (PolySwapAction.withdrawLiquidity action)

/-! ## Exchange -/

/-- The action of an exchange before its validation. -/
def exchangeAction (receiver : T.AccountId) (poolAccount : TechAccountIdOf T)
    (inputAssetId outputAssetId : T.AssetId) (swapAmount : SwapAmount) :
    PairSwapAction T :=
  let bounds := getBoundsFromSwapAmount swapAmount
  { clientAccount := none
    receiverAccount := some receiver
    poolAccount := poolAccount
    source := ⟨inputAssetId, bounds.1⟩
    destination := ⟨outputAssetId, bounds.2⟩
    fee := none
    feeAccount := none
    getFeeFromDestination := none }

/-- The outcome that an exchange reports: the amount that was not given, with
the fee taken off an output that pays it. -/
def exchangeOutcome (a : PairSwapAction T) (swapAmount : SwapAmount) :
    Result SwapOutcome := do
  let fee ← unwrap a.fee
  let feeFromDestination ← unwrap a.getFeeFromDestination
  match swapAmount with
  | .withDesiredInput _ _ => do
      let amount ← a.destination.amount.unwrap
      if feeFromDestination then pure ⟨wrappingSub amount fee, fee⟩
      else pure ⟨amount, fee⟩
  | .withDesiredOutput _ _ => do
      let amount ← a.source.amount.unwrap
      pure ⟨amount, fee⟩

def exchange (sender receiver : T.AccountId) (dexId : T.DEXId)
    (inputAssetId outputAssetId : T.AssetId) (swapAmount : SwapAmount) :
    Exec T SwapOutcome := do
  let (_, techAccId) ← Tx.reads fun s =>
    techAccountFromDexAndAssetPair s dexId inputAssetId outputAssetId
  let action :=
    exchangeAction receiver techAccId inputAssetId outputAssetId swapAmount
  let action ← Tx.reads fun s => action.prepareAndValidate s (some sender)
  let outcome ← exchangeOutcome action swapAmount
  Technical.performCreateSwapUnchecked sender (PolySwapAction.pairSwap action)
  pure outcome

def swapPair (who receiver : T.AccountId) (dexId : T.DEXId)
    (inputAssetId outputAssetId : T.AssetId) (swapAmount : SwapAmount) :
    Exec T Unit := do
  let _ ← exchange who receiver dexId inputAssetId outputAssetId swapAmount

/-! ## Initialisation -/

/-- A pool whose account is registered is already initialised, or was left in
between. -/
def ensurePoolIsNew (s : Storage T) (dexId : T.DEXId)
    (tradingPair : TradingPair T.TechAssetId)
    (techAccId feeAccId : TechAccountIdOf T) (markAsset : T.TechAssetId) :
    Result Unit :=
  if (Technical.ensureTechAccountRegistered s techAccId).isOk then
    if (Technical.ensureTechAccountRegistered s feeAccId).isOk &&
        (Assets.ensureAssetExists s (T.techAssetIdInto markAsset)).isOk &&
        (TradingPair.ensureTradingPairExists s dexId
          (T.techAssetIdInto tradingPair.baseAssetId)
          (T.techAssetIdInto tradingPair.targetAssetId)).isOk then
      fail (poolError .poolIsAlreadyInitialized)
    else
      fail (poolError .poolInitializationIsInvalid)
  else .ok ()

def initializePoolUnchecked (dexId : T.DEXId) (assetA assetB : T.AssetId) :
    Exec T (TradingPair T.TechAssetId × TechAccountIdOf T ×
      TechAccountIdOf T × T.TechAssetId) := do
  let (tradingPair, techAccId) ← Tx.reads fun s =>
    techAccountFromDexAndAssetPair s dexId assetA assetB
  let feeAccId ← unwrap techAccId.toFeeAccount
  let markAsset ← getMarkingAsset techAccId
  Tx.reads fun s =>
    ensurePoolIsNew s dexId tradingPair techAccId feeAccId markAsset
  Technical.registerTechAccountId techAccId
  Technical.registerTechAccountId feeAccId
  pure (tradingPair, techAccId, feeAccId, markAsset)

/-- `XYKPOOL`. -/
def markerSymbol : List UInt8 := [88, 89, 75, 80, 79, 79, 76]

/-- `XYK LP Tokens`. -/
def markerName : List UInt8 :=
  [88, 89, 75, 32, 76, 80, 32, 84, 111, 107, 101, 110, 115]

/-- Register the accounts and the marker asset of a new pool.  The signer owns
the marker asset and lets the pool account mint and burn it. -/
def initializePool (who : T.AccountId) (dexId : T.DEXId)
    (assetA assetB : T.AssetId) : Exec T Unit :=
  Tx.withTransaction do
    let _ ← Tx.reads fun s =>
      DexManager.ensureCanManage s dexId who .publicMode
    let (_, techAccountId, feesAccountId, markAsset) ←
      initializePoolUnchecked dexId assetA assetB
    let markAssetRepr := T.techAssetIdInto markAsset
    Assets.registerAssetId who markAssetRepr markerSymbol markerName 18 0 true
    let taRepr := Technical.techAccountIdToAccountId techAccountId
    let feesTaRepr := Technical.techAccountIdToAccountId feesAccountId
    let scope := Scope.limited (T.hashAssetId markAssetRepr)
    Permissions.grantPermissionWithScope who taRepr Permissions.mint scope
    Permissions.grantPermissionWithScope who taRepr Permissions.burn scope
    initializePoolProperties dexId assetA assetB taRepr feesTaRepr
      markAssetRepr
    Tx.modify fun s =>
      { s with
        markerTokensIndex := insert markAssetRepr s.markerTokensIndex }

end PoolXyk
end SoraParachain

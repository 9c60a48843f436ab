import SoraParachain.PoolXyk.PairSwap

/-!
# Depositing liquidity

A deposit into an empty pool fixes the ratio and earns the root of the product
of its amounts, less the minimum liquidity.  A deposit into a pool with
reserves is corrected to their ratio and earns marker tokens in proportion to
their issuance.
-/

namespace SoraParachain
namespace PoolXyk

variable {T : Config}

/-- The rounded root of the product of two balances. -/
def poolLiquidity (a b : ℕ) : Result ℕ :=
  toBalance
    ((FixedWrapper.ofBalance a).multiplyAndSqrt (FixedWrapper.ofBalance b))

/-- Compare an amount with its recommendation, or fill it in within its
bounds. -/
def decideAgainst (bounds : Bounds) (recommended : ℕ) (e : PoolXykError) :
    Result Bounds :=
  match bounds with
  | .desired x => do
      ensure (¬x ≠ recommended) (poolError e)
      pure bounds
  | bounds => do
      let computed := Bounds.calculated recommended
      ensure (bounds.meetsTheBoundaries computed = true)
        (poolError .calculatedValueIsNotMeetsRequiredBoundaries)
      pure computed

namespace DepositLiquidityAction

def isAbstractChecking (self : DepositLiquidityAction T) : Bool :=
  decide (self.source.fst.amount = .dummy) ||
    decide (self.source.snd.amount = .dummy) ||
    decide (self.destination.amount = .dummy)

def resolveAccounts (self : DepositLiquidityAction T)
    (abstractChecking : Bool) (sourceOpt : Option T.AccountId) :
    Result (DepositLiquidityAction T) :=
  if abstractChecking then .ok self
  else do
    let source ← unwrap sourceOpt
    let client ← resolveClient self.clientAccount source
    pure
      { self with
        clientAccount := some client
        receiverAccount := some (self.receiverAccount.getD client) }

/-- The signer's balances of the two assets; neither may be zero. -/
def sourceBalances (s : Storage T) (self : DepositLiquidityAction T)
    (abstractChecking : Bool) (sourceOpt : Option T.AccountId) :
    Result (Option (ℕ × ℕ)) :=
  if abstractChecking then .ok none
  else do
    let source ← unwrap sourceOpt
    let balanceBs ← Assets.freeBalance s self.source.fst.asset source
    let balanceTs ← Assets.freeBalance s self.source.snd.asset source
    ensure (¬(balanceBs = 0 ∨ balanceTs = 0))
      (poolError .accountBalanceIsInvalid)
    pure (some (balanceBs, balanceTs))

/-- Whether the pool has neither reserve; it must not lack only one. -/
def isPoolEmpty (balanceBp balanceTp : ℕ) : Result Bool :=
  if balanceBp = 0 ∧ balanceTp = 0 then .ok true
  else if balanceBp = 0 then fail (poolError .poolIsInvalid)
  else if balanceTp = 0 then fail (poolError .poolIsInvalid)
  else .ok false

/-- The amounts that set the ratio of an empty pool; zero otherwise. -/
def initialAmounts (self : DepositLiquidityAction T) (required : Bool) :
    Result (ℕ × ℕ) :=
  if required then do
    let initX ← okOr (poolError .initialLiqudityDepositRatioMustBeDefined)
      self.source.fst.amount.toOption
    let initY ← okOr (poolError .initialLiqudityDepositRatioMustBeDefined)
      self.source.snd.amount.toOption
    pure (initX, initY)
  else .ok (0, 0)

/-- The liquidity of the pool, or of the first deposit into an empty one. -/
def poolK (abstractChecking emptyPool : Bool) (init : ℕ × ℕ)
    (balanceBp balanceTp : ℕ) : Result (Option ℕ) :=
  if emptyPool then
    if abstractChecking then .ok none
    else some <$> poolLiquidity init.1 init.2
  else some <$> poolLiquidity balanceBp balanceTp

/-- The amounts of a deposit into a pool with reserves.  For a desired
liquidity the share is divided by the initial amount, which is zero here. -/
def decideAmounts (s : Storage T) (self : DepositLiquidityAction T)
    (initX poolK balanceBp balanceTp : ℕ) :
    Result (Bounds × Bounds × Bounds) :=
  match self.source.fst.amount, self.source.snd.amount,
    self.destination.amount with
  | ox, oy, .desired destinationK => do
      ensure (destinationK > 0) (poolError .zeroValueInAmountParameter)
      let fxwPieceToAdd :=
        FixedWrapper.ofBalance poolK / FixedWrapper.ofBalance initX
      let recomX ← toBalance (FixedWrapper.ofBalance balanceBp / fxwPieceToAdd)
      let recomY ← toBalance (FixedWrapper.ofBalance balanceTp / fxwPieceToAdd)
      let x ← decideAgainst ox recomX .invalidDepositLiquidityBasicAssetAmount
      let y ← decideAgainst oy recomY .invalidDepositLiquidityTargetAssetAmount
      pure (x, y, .desired destinationK)
  | .rangeFromDesiredToMin xdes xmin, .rangeFromDesiredToMin ydes ymin, _ => do
      ensure (xdes ≥ xmin ∧ ydes ≥ ymin) (poolError .rangeValuesIsInvalid)
      let totalIss ← Assets.totalIssuance s
        (T.techAssetIdInto self.destination.asset)
      let amounts ← calcDepositLiquidity1 totalIss balanceBp balanceTp xdes ydes
        xmin ymin
      pure (.calculated amounts.1, .calculated amounts.2.1,
        .calculated amounts.2.2)
  | _, _, _ => fail (poolError .impossibleToDecideDepositLiquidityAmounts)

/-- The liquidity that a first deposit names must be its root product. -/
def decideInitialDestination (destination : Bounds) (poolK : ℕ) :
    Result Bounds :=
  match destination with
  | .desired k => do
      ensure (k = poolK) (poolError .invalidDepositLiquidityDestinationAmount)
      pure destination
  | _ => .ok (.calculated poolK)

/-- Fill the amounts in; an abstract check skips this. -/
def resolveAmounts (s : Storage T) (self : DepositLiquidityAction T)
    (abstractChecking emptyPool : Bool) (initX : ℕ) (poolK : Option ℕ)
    (balanceBp balanceTp : ℕ) : Result (DepositLiquidityAction T) :=
  if abstractChecking then .ok self
  else do
    let poolK ← unwrap poolK
    if emptyPool then do
      let destination ←
        decideInitialDestination self.destination.amount poolK
      pure
        { self with
          destination := { self.destination with amount := destination } }
    else do
      let amounts ← self.decideAmounts s initX poolK balanceBp balanceTp
      pure
        { self with
          source :=
            { fst := { self.source.fst with amount := amounts.1 }
              snd := { self.source.snd with amount := amounts.2.1 } }
          destination :=
            { self.destination with amount := amounts.2.2 } }

def resolveMinLiquidity (minLiquidityOpt : Option ℕ) : Result ℕ :=
  match minLiquidityOpt with
  | none => .ok PoolXyk.minLiquidity
  | some m => do
      ensure (¬m < PoolXyk.minLiquidity)
        (poolError .pairSwapActionMinimumLiquidityIsSmallerThanRecommended)
      pure m

/-- The minimum liquidity must be reached and the signer's balances must cover
the amounts. -/
def ensureAmountsCovered (self : DepositLiquidityAction T)
    (abstractChecking : Bool) (minLiquidity : ℕ) (poolK : Option ℕ)
    (balances : Option (ℕ × ℕ)) : Result Unit :=
  if abstractChecking then .ok ()
  else do
    let baseAmount ← self.source.fst.amount.unwrap
    let targetAmount ← self.source.snd.amount.unwrap
    let destinationAmount ← self.destination.amount.unwrap
    let poolK ← unwrap poolK
    let balances ← unwrap balances
    ensure (¬(minLiquidity > poolK ∧
        destinationAmount < minLiquidity - poolK))
      (poolError .destinationAmountOfLiquidityIsNotLargeEnough)
    ensure (¬balances.1 < baseAmount)
      (poolError .sourceBaseAmountIsNotLargeEnough)
    ensure (¬balances.2 < targetAmount)
      (poolError .targetBaseAmountIsNotLargeEnough)

/-- The first deposit leaves the minimum liquidity out of what it mints. -/
def lockMinLiquidity (self : DepositLiquidityAction T) (emptyPool : Bool)
    (minLiquidity : ℕ) : Result (DepositLiquidityAction T) :=
  if emptyPool then do
    let destinationAmount ← self.destination.amount.unwrap
    pure
      { self with
        destination :=
          { self.destination with
            amount :=
              .calculated (wrappingSub destinationAmount minLiquidity) } }
  else .ok self

/-- The part of the validation that only reads the storage. -/
def validate (s : Storage T) (self : DepositLiquidityAction T)
    (abstractChecking : Bool) (sourceOpt : Option T.AccountId)
    (markAsset : T.TechAssetId) : Result (DepositLiquidityAction T) := do
  let poolAccountReprSys :=
    Technical.techAccountIdToAccountId self.poolAccount
  ensure (self.destination.asset = markAsset)
    (poolError .invalidAssetForLiquidityMarking)
  let balances ← self.sourceBalances s abstractChecking sourceOpt
  let balanceBp ←
    Assets.freeBalance s self.source.fst.asset poolAccountReprSys
  let balanceTp ←
    Assets.freeBalance s self.source.snd.asset poolAccountReprSys
  let emptyPool ← isPoolEmpty balanceBp balanceTp
  let init ← self.initialAmounts (!abstractChecking && emptyPool)
  let poolK ← poolK abstractChecking emptyPool init balanceBp balanceTp
  let self ← self.resolveAmounts s abstractChecking emptyPool init.1 poolK
    balanceBp balanceTp
  let minLiquidity ← resolveMinLiquidity self.minLiquidity
  let self := { self with minLiquidity := some minLiquidity }
  self.ensureAmountsCovered abstractChecking minLiquidity poolK balances
  self.lockMinLiquidity emptyPool minLiquidity

def prepareAndValidate (self : DepositLiquidityAction T)
    (sourceOpt : Option T.AccountId) : Exec T (DepositLiquidityAction T) := do
  let abstractChecking := sourceOpt.isNone || self.isAbstractChecking
  let self ← self.resolveAccounts abstractChecking sourceOpt
  Tx.reads fun s =>
    isPoolAccountValidFor s self.source.fst.asset self.poolAccount
  let markAsset ← getMarkingAsset self.poolAccount
  Tx.reads fun s => self.validate s abstractChecking sourceOpt markAsset

/-! ## Settlement -/

/-- Both amounts join the pool and its account mints the marker tokens. -/
def reserve (self : DepositLiquidityAction T) (source : T.AccountId) :
    Exec T Unit := do
  ensure (some source = self.clientAccount)
    (poolError .sourceAndClientAccountDoNotMatchAsEqual)
  let assetRepr := T.techAssetIdInto self.destination.asset
  let poolAccountReprSys :=
    Technical.techAccountIdToAccountId self.poolAccount
  let baseAmount ← self.source.fst.amount.unwrap
  Technical.transferIn self.source.fst.asset source self.poolAccount baseAmount
  let targetAmount ← self.source.snd.amount.unwrap
  Technical.transferIn self.source.snd.asset source self.poolAccount
    targetAmount
  let receiver ← unwrap self.receiverAccount
  let destinationAmount ← self.destination.amount.unwrap
  Assets.mintTo assetRepr poolAccountReprSys receiver destinationAmount
  refreshReserves self.poolAccount self.source.fst.asset
    self.source.snd.asset

end DepositLiquidityAction
end PoolXyk
end SoraParachain

import SoraParachain.BondingCurvePool.Pricing
import SoraParachain.Pallets.Technical

/-!
# The bonding curve pool

The pool buys and sells the base asset of the runtime for one collateral.  A sale
burns the sold quantity and pays from the reserves; a purchase takes the
collateral into the reserves, hands out what the reserves hold in excess and
mints what was bought.
-/

namespace SoraParachain
namespace BondingCurvePool

variable {T : Config}

open Technical (techAccountIdToAccountId)

/-- Who receives a part of the free reserves. -/
inductive DistributionAccount (T : Config) where
  | account (a : T.AccountId)
  | techAccount (t : TechAccountIdOf T)

structure DistributionAccountData (T : Config) where
  account : DistributionAccount T
  coefficient : FixedNumber

structure DistributionAccounts (T : Config) where
  xorAllocation : DistributionAccountData T
  soraCitizens : DistributionAccountData T
  storesAndShops : DistributionAccountData T
  parliamentAndDevelopment : DistributionAccountData T
  projects : DistributionAccountData T
  valHolders : DistributionAccountData T

/-- Everyone who is paid in the main asset. -/
def DistributionAccounts.xorDistributionAsArray
    (accounts : DistributionAccounts T) : List (DistributionAccountData T) :=
  [accounts.xorAllocation, accounts.soraCitizens, accounts.storesAndShops,
    accounts.parliamentAndDevelopment, accounts.projects]

/-- The constants of the runtime and the foreign code that the pool uses: what a
ledger keeps reserved, and the exchange of the DEX API. -/
structure Environment (T : Config) where
  polkaswap : T.DEXId
  usdt : T.AssetId
  val : T.AssetId
  reservedBalance : T.currency.Ledger → T.AssetId → T.AccountId → ℕ
  dexApiExchange : T.AccountId → T.AccountId → T.DEXId → T.AssetId →
    T.AssetId → SwapAmount → Exec T SwapOutcome

/-- The environment of the pool together with what the pool stores. -/
structure Pool (T : Config) extends Environment T where
  curve : Curve
  reservesAcc : TechAccountIdOf T
  distributionAccounts : DistributionAccounts T

namespace Pool

variable (P : Pool T)

/-- The account that keeps the reserves. -/
def reservesAccountId : T.AccountId :=
  techAccountIdToAccountId P.reservesAcc

/-- Everything an account holds, reserved or not. -/
def total (s : Storage T) (assetId : T.AssetId) (who : T.AccountId) : ℕ :=
  s.free assetId who + P.reservedBalance s.ledger assetId who

/-- `assets::Pallet::total_balance`. -/
def totalBalance (s : Storage T) (assetId : T.AssetId) (who : T.AccountId) :
    Result ℕ := do
  Assets.ensureAssetExists s assetId
  pure (P.total s assetId who)

/-! ## Decisions -/

def priceForMainAsset (s : Storage T) (mainAssetId : T.AssetId)
    (quantity : ℕ) (kind : SwapKind) : Result FixedNumber := do
  let totalIssuance ← Assets.totalIssuance s mainAssetId
  P.curve.priceForMainAsset totalIssuance quantity kind

def priceForCollateralAsset (s : Storage T) (mainAssetId : T.AssetId)
    (quantity : ℕ) (kind : SwapKind) : Result FixedNumber := do
  let totalIssuance ← Assets.totalIssuance s mainAssetId
  P.curve.priceForCollateralAsset totalIssuance quantity kind

/-- The input and the output of a purchase.  The limit is not looked at. -/
def decideBuyAmounts (s : Storage T) (mainAssetId : T.AssetId) :
    SwapAmount → Result (ℕ × ℕ)
  | .withDesiredInput desiredAmountIn _ => do
      let outputAmount ←
        P.priceForCollateralAsset s mainAssetId desiredAmountIn .buy
      let outputAmount ← tryIntoBalance outputAmount
      pure (desiredAmountIn, outputAmount)
  | .withDesiredOutput desiredAmountOut _ => do
      let inputAmount ←
        P.priceForMainAsset s mainAssetId desiredAmountOut .buy
      let inputAmount ← tryIntoBalance inputAmount
      pure (inputAmount, desiredAmountOut)

/-- The input and the output of a sale.  The limit is not looked at. -/
def decideSellAmounts (s : Storage T) (mainAssetId : T.AssetId) :
    SwapAmount → Result (ℕ × ℕ)
  | .withDesiredInput desiredAmountIn _ => do
      let outputAmount ←
        P.priceForMainAsset s mainAssetId desiredAmountIn .sell
      let outputAmount ← tryIntoBalance outputAmount
      pure (desiredAmountIn, outputAmount)
  | .withDesiredOutput desiredAmountOut _ => do
      let inputAmount ←
        P.priceForCollateralAsset s mainAssetId desiredAmountOut .sell
      let inputAmount ← tryIntoBalance inputAmount
      pure (inputAmount, desiredAmountOut)

end Pool

/-! ## Purchases -/

/-- A purchase of the main asset. -/
structure BuyMainAsset (T : Config) where
  inAssetId : T.AssetId
  outAssetId : T.AssetId
  amount : SwapAmount
  fromAccountId : T.AccountId
  toAccountId : T.AccountId

namespace BuyMainAsset

variable (P : Pool T) (self : BuyMainAsset T)

/-- `fixed!(0.2)`. -/
def amountFreeCoefficient : FixedNumber :=
  ⟨2 * 10 ^ 17, by decide⟩

/-- A fifth of what the reserves hold beyond the price of everything. -/
def freeAmount (reserves : ℕ) (reservesExpected : FixedNumber) : Result ℕ :=
  let reserves := FixedWrapper.ofBalance reserves
  let reservesExpected := FixedWrapper.ofFixed reservesExpected
  if reservesExpected.less reserves = true then
    orCalculatePriceFailed
      ((reserves - reservesExpected).mulFixed
        amountFreeCoefficient).tryIntoBalance
  else .ok 0

/-- Take the input, and find how much of the reserves is free. -/
def depositInput : Exec T (ℕ × ℕ × ℕ) :=
  Tx.withTransaction do
    let (inputAmount, outputAmount) ←
      Tx.reads fun s => P.decideBuyAmounts s self.outAssetId self.amount
    let totalIssuance ←
      Tx.reads fun s => Assets.totalIssuance s self.outAssetId
    let reservesExpected ← Tx.reads fun s =>
      P.priceForMainAsset s self.outAssetId totalIssuance .sell
    Technical.transferIn self.inAssetId self.fromAccountId P.reservesAcc
      inputAmount
    let reserves ← Tx.reads fun s =>
      P.totalBalance s self.inAssetId P.reservesAccountId
    let free ← freeAmount reserves reservesExpected
    pure (free, inputAmount, outputAmount)

/-- The part of an amount that a coefficient stands for. -/
def share (amount : ℕ) (coefficient : FixedNumber) : Result ℕ :=
  orCalculatePriceFailed
    ((FixedWrapper.ofBalance amount).mulFixed coefficient).tryIntoBalance

/-- Pay one of the accounts its part of what was swapped. -/
def payShare (swappedXorAmount : ℕ) (data : DistributionAccountData T) :
    Exec T Unit := do
  let amount ← share swappedXorAmount data.coefficient
  match data.account with
  | .account account =>
      Assets.transferFrom self.outAssetId P.reservesAccountId account amount
  | .techAccount account =>
      Technical.transfer self.outAssetId P.reservesAcc account amount

/-- Swap the free amount for the main asset and pay it out; the last part buys
`VAL`, which is burned. -/
def distributeReserves (free : ℕ) : Exec T Unit :=
  Tx.withTransaction do
    if free = 0 then pure ()
    else
      let swapped ← P.dexApiExchange P.reservesAccountId P.reservesAccountId
        P.polkaswap self.inAssetId self.outAssetId (.withDesiredInput free 0)
      Technical.burn self.outAssetId P.reservesAcc swapped.amount
      Technical.mint self.outAssetId P.reservesAcc swapped.amount
      P.distributionAccounts.xorDistributionAsArray.forM
        (payShare P self swapped.amount)
      let desiredAmountIn ←
        share swapped.amount P.distributionAccounts.valHolders.coefficient
      let bought ← P.dexApiExchange P.reservesAccountId P.reservesAccountId
        P.polkaswap self.outAssetId P.val (.withDesiredInput desiredAmountIn 0)
      Technical.burn P.val P.reservesAcc bought.amount

/-- Mint what was bought to the receiver, without the fee. -/
def mintOutput (outputAmount : ℕ) : Exec T SwapOutcome := do
  let feeAmount ← orCalculatePriceFailed
    (FixedWrapper.ofFixed P.curve.fee *
      FixedWrapper.ofBalance outputAmount).tryIntoBalance
  Assets.mintTo self.outAssetId P.reservesAccountId self.toAccountId
    (wrappingSub outputAmount feeAmount)
  pure ⟨wrappingSub outputAmount feeAmount, feeAmount⟩

def swap : Exec T SwapOutcome :=
  Tx.withTransaction do
    let (inputAmountFree, _, outputAmount) ← depositInput P self
    distributeReserves P self inputAmountFree
    mintOutput P self outputAmount

end BuyMainAsset

namespace Pool

variable (P : Pool T)

/-! ## Sales -/

/-- Pay the receiver from the reserves, without the fee, and burn what was
sold. -/
def sellMainAsset (inAssetId outAssetId : T.AssetId) (amount : SwapAmount)
    (fromAccountId toAccountId : T.AccountId) : Exec T SwapOutcome :=
  Tx.withTransaction do
    let (inputAmount, outputAmount) ←
      Tx.reads fun s => P.decideSellAmounts s inAssetId amount
    let feeAmount ← orCalculatePriceFailed
      ((FixedWrapper.ofFixed P.curve.fee).mulBalance
        outputAmount).tryIntoBalance
    let reservesAmount ← Tx.reads fun s =>
      P.totalBalance s outAssetId P.reservesAccountId
    ensure (wrappingSub outputAmount feeAmount ≤ reservesAmount)
      (.bondingCurve .notEnoughReserves)
    Technical.transferOut outAssetId P.reservesAcc toAccountId
      (wrappingSub outputAmount feeAmount)
    Assets.burnFrom inAssetId P.reservesAccountId fromAccountId inputAmount
    pure ⟨wrappingSub outputAmount feeAmount, feeAmount⟩

/-- Give an account every permission that the reserves need. -/
def setReservesAccountId (account : TechAccountIdOf T) :
    Exec T (Pool T) :=
  Tx.withTransaction do
    let accountId := techAccountIdToAccountId account
    [Permissions.burn, Permissions.mint, Permissions.transfer].forM
      fun permission =>
        Permissions.assignPermission accountId accountId permission .unlimited
    pure { P with reservesAcc := account }

/-! ## The liquidity source -/

/-- Only the base asset and `USDT` are traded, on one DEX. -/
def canExchange (dexId : T.DEXId) (inputAssetId outputAssetId : T.AssetId) :
    Bool :=
  decide (dexId = P.polkaswap) &&
    (decide (inputAssetId = P.usdt) &&
        decide (outputAssetId = T.getBaseAssetId) ||
      decide (outputAssetId = P.usdt) &&
        decide (inputAssetId = T.getBaseAssetId))

/-- The outcome for a price, with the fee on it. -/
def quoted (amount : FixedNumber) : Result SwapOutcome := do
  let fee ← orCalculatePriceFailed
    ((FixedWrapper.ofFixed amount).mulFixed P.curve.fee).inner
  let amount ← tryIntoBalance amount
  let fee ← tryIntoBalance fee
  pure ⟨amount, fee⟩

/-- The price that a quote is about.  A purchase for a desired input is priced
with the issuance of the input asset. -/
def quotedPrice (s : Storage T) (inputAssetId outputAssetId : T.AssetId)
    (swapAmount : SwapAmount) : Result FixedNumber :=
  if inputAssetId = T.getBaseAssetId then
    match swapAmount with
    | .withDesiredInput baseAmountIn _ =>
        P.priceForMainAsset s inputAssetId baseAmountIn .sell
    | .withDesiredOutput targetAmountOut _ =>
        P.priceForCollateralAsset s inputAssetId targetAmountOut .sell
  else
    match swapAmount with
    | .withDesiredInput targetAmountIn _ =>
        P.priceForCollateralAsset s inputAssetId targetAmountIn .buy
    | .withDesiredOutput baseAmountOut _ =>
        P.priceForMainAsset s outputAssetId baseAmountOut .buy

def quote (s : Storage T) (dexId : T.DEXId)
    (inputAssetId outputAssetId : T.AssetId) (swapAmount : SwapAmount) :
    Result SwapOutcome := do
  ensure (P.canExchange dexId inputAssetId outputAssetId)
    (.bondingCurve .cantExchange)
  let amount ← P.quotedPrice s inputAssetId outputAssetId swapAmount
  P.quoted amount

def exchange (sender receiver : T.AccountId) (dexId : T.DEXId)
    (inputAssetId outputAssetId : T.AssetId) (desiredAmount : SwapAmount) :
    Exec T SwapOutcome := do
  ensure (¬(sender = P.reservesAccountId ∧ receiver = P.reservesAccountId))
    (.bondingCurve .cantExchangeOnItself)
  ensure (P.canExchange dexId inputAssetId outputAssetId)
    (.bondingCurve .cantExchange)
  if inputAssetId = T.getBaseAssetId then
    P.sellMainAsset inputAssetId outputAssetId desiredAmount sender receiver
  else
    BuyMainAsset.swap P
      ⟨inputAssetId, outputAssetId, desiredAmount, sender, receiver⟩

end Pool
end BondingCurvePool
end SoraParachain

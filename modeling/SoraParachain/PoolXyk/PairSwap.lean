import SoraParachain.PoolXyk.Utils

/-!
# Exchanging one asset of a pair for the other

Validation completes the action: it resolves the accounts, decides on which
side the fee is taken, computes the missing amount and compares everything with
the balances of the pool.  Settlement makes three transfers and refreshes the
stored reserves.
-/

namespace SoraParachain
namespace PoolXyk

variable {T : Config}

/-- The client of an action is its signer. -/
def resolveClient (clientAccount : Option T.AccountId)
    (source : T.AccountId) : Result T.AccountId :=
  match clientAccount with
  | none => .ok source
  | some ca =>
      if ca ≠ source then
        fail (poolError .sourceAndClientAccountDoNotMatchAsEqual)
      else .ok ca

/-- Enter the pool's balances of two assets into the reserves. -/
def refreshReserves (poolAccount : TechAccountIdOf T)
    (assetA assetB : T.AssetId) : Exec T Unit := do
  let poolAccountReprSys := Technical.techAccountIdToAccountId poolAccount
  let balanceA ← Tx.reads fun s =>
    Assets.freeBalance s assetA poolAccountReprSys
  let balanceB ← Tx.reads fun s =>
    Assets.freeBalance s assetB poolAccountReprSys
  updateReserves assetA assetB (balanceA, balanceB)

/-- A pool is empty without both balances and invalid without one. -/
def ensurePoolNotEmpty (balanceA balanceB : ℕ) : Result Unit :=
  if balanceA = 0 ∧ balanceB = 0 then fail (poolError .poolIsEmpty)
  else if balanceA = 0 ∨ balanceB = 0 then fail (poolError .poolIsInvalid)
  else .ok ()

namespace PairSwapAction

def isAbstractChecking (self : PairSwapAction T) : Bool :=
  decide (self.source.amount = .dummy) ||
    decide (self.destination.amount = .dummy)

/-- The signer is the client, and the receiver unless another is named. -/
def resolveAccounts (self : PairSwapAction T) (abstractChecking : Bool)
    (sourceOpt : Option T.AccountId) : Result (PairSwapAction T) :=
  if abstractChecking then .ok self
  else do
    let source ← unwrap sourceOpt
    let client ← resolveClient self.clientAccount source
    pure
      { self with
        clientAccount := some client
        receiverAccount := some (self.receiverAccount.getD client) }

/-- The balance of the signer, which must not be zero. -/
def sourceBalance (s : Storage T) (self : PairSwapAction T)
    (abstractChecking : Bool) (sourceOpt : Option T.AccountId) :
    Result (Option ℕ) :=
  if abstractChecking then .ok none
  else do
    let source ← unwrap sourceOpt
    let balanceSs ← Assets.freeBalance s self.source.asset source
    pure (some balanceSs)

def ensureSourceBalance (abstractChecking : Bool) (balanceSs : Option ℕ) :
    Result Unit :=
  if abstractChecking then .ok ()
  else do
    let balanceSs ← unwrap balanceSs
    ensure (balanceSs > 0) (poolError .accountBalanceIsInvalid)

/-- The side of the fee, unless the action names one. -/
def decideFeeSide (self : PairSwapAction T) : PairSwapAction T :=
  { self with
    getFeeFromDestination := some (self.getFeeFromDestination.getD
      (decideIsFeeFromDestination self.source.asset self.destination.asset)) }

/-- Compute the missing amount, or compare two given amounts, and recommend a
fee. -/
def decideAmounts (feeFromDestination : Bool) (source destination : Bounds)
    (balanceSt balanceTt : ℕ) : Result (Bounds × Bounds × ℕ) :=
  match source, destination with
  -- Both amounts are given and must agree.
  | .desired sa, .desired ta => do
      ensure (sa > 0) (poolError .zeroValueInAmountParameter)
      ensure (ta > 0) (poolError .zeroValueInAmountParameter)
      let yOutPair ←
        calcOutputForExactInput feeFromDestination balanceSt balanceTt sa
      let xInPair ←
        calcInputForExactOutput feeFromDestination balanceSt balanceTt ta
      ensure (¬(yOutPair.1 ≠ ta ∨ xInPair.1 ≠ sa ∨ yOutPair.2 ≠ xInPair.2))
        (poolError .poolPairRatioAndPairSwapRatioIsDifferent)
      pure (source, destination, yOutPair.2)
  | .desired sa, .min taMin => do
      ensure (sa > 0) (poolError .zeroValueInAmountParameter)
      let calculated ←
        calcOutputForExactInput feeFromDestination balanceSt balanceTt sa
      ensure (calculated.1 ≥ taMin)
        (poolError .calculatedValueIsOutOfDesiredBounds)
      pure (source, .calculated calculated.1, calculated.2)
  | .desired sa, _ => do
      ensure (sa > 0) (poolError .zeroValueInAmountParameter)
      fail (poolError .impossibleToDecideAssetPairAmounts)
  | .max saMax, .desired ta => do
      ensure (ta > 0) (poolError .zeroValueInAmountParameter)
      let calculated ←
        calcInputForExactOutput feeFromDestination balanceSt balanceTt ta
      ensure (calculated.1 ≤ saMax)
        (poolError .calculatedValueIsOutOfDesiredBounds)
      pure (.calculated calculated.1, destination, calculated.2)
  | _, .desired ta => do
      ensure (ta > 0) (poolError .zeroValueInAmountParameter)
      fail (poolError .impossibleToDecideAssetPairAmounts)
  | _, _ => fail (poolError .impossibleToDecideAssetPairAmounts)

/-- Fill the amounts in; an abstract check of a dummy amount skips this. -/
def resolveAmounts (self : PairSwapAction T) (required : Bool)
    (balanceSt balanceTt : ℕ) : Result (PairSwapAction T × Option ℕ) :=
  if required then do
    let feeFromDestination ← unwrap self.getFeeFromDestination
    let amounts ← decideAmounts feeFromDestination self.source.amount
      self.destination.amount balanceSt balanceTt
    pure
      ({ self with
          source := { self.source with amount := amounts.1 }
          destination := { self.destination with amount := amounts.2.1 } },
        some amounts.2.2)
  else .ok (self, none)

/-- The fee account is the one derived from the pool account. -/
def resolveFeeAccount (self : PairSwapAction T) :
    Result (PairSwapAction T) :=
  match self.feeAccount with
  | some fa => do
      isFeeAccountValidFor self.source.asset self.poolAccount fa
      pure self
  | none => do
      let fa ← getFeeAccount self.poolAccount
      pure { self with feeAccount := some fa }

/-- A fee named by the action must not be below the recommended one. -/
def decideFee (fee recomFee : Option ℕ) : Result ℕ :=
  match fee with
  | none => unwrap recomFee
  | some fee => do
      let recomFee ← unwrap recomFee
      ensure (¬fee < recomFee)
        (poolError .pairSwapActionFeeIsSmallerThanRecommended)
      pure fee

/-- The balances must cover the amounts, on whichever side the fee is. -/
def ensureAmountsCovered (abstractChecking : Bool) (balanceSs : Option ℕ)
    (balanceTt sourceAmount destinationAmount : ℕ) : Result Unit :=
  if abstractChecking then .ok ()
  else do
    let balanceSs ← unwrap balanceSs
    ensure (¬balanceSs < sourceAmount)
      (poolError .sourceBalanceIsNotLargeEnough)
    ensure (¬balanceTt < destinationAmount)
      (poolError .targetBalanceIsNotLargeEnough)

/-- Fill the fee in and check that the balances cover the amounts. -/
def resolveFee (self : PairSwapAction T) (required abstractChecking : Bool)
    (recomFee balanceSs : Option ℕ) (balanceTt : ℕ) :
    Result (PairSwapAction T) :=
  if required then do
    let sourceAmount ← self.source.amount.unwrap
    let destinationAmount ← self.destination.amount.unwrap
    let fee ← decideFee self.fee recomFee
    ensureAmountsCovered abstractChecking balanceSs balanceTt sourceAmount
      destinationAmount
    pure { self with fee := some fee }
  else .ok self

/-- Whether the square of the change of the reserve ratio stays small. -/
def poolIsValidAfterOpTest (balanceSt balanceTt sourceAmount
    destinationAmount : ℕ) : Result Bool := do
  let fxwX :=
    FixedWrapper.ofBalance balanceSt + FixedWrapper.ofBalance sourceAmount
  let fxwY :=
    FixedWrapper.ofBalance balanceTt -
      FixedWrapper.ofBalance destinationAmount
  let fxwBefore :=
    FixedWrapper.ofBalance balanceSt / FixedWrapper.ofBalance balanceTt
  let fxwAfter := fxwX / fxwY
  let fxwDiff := fxwAfter - fxwBefore
  let diff ← toBalance (fxwDiff * fxwDiff)
  pure (decide (diff < balance 100))

def ensureValidAfterOp (self : PairSwapAction T) (balanceSt balanceTt : ℕ) :
    Result Unit := do
  let sourceAmount ← self.source.amount.unwrap
  let destinationAmount ← self.destination.amount.unwrap
  let valid ← poolIsValidAfterOpTest balanceSt balanceTt sourceAmount
    destinationAmount
  ensure (valid = true) (poolError .poolBecameInvalidAfterOperation)

def prepareAndValidate (s : Storage T) (self : PairSwapAction T)
    (sourceOpt : Option T.AccountId) : Result (PairSwapAction T) := do
  let abstractCheckingFromMethod := self.isAbstractChecking
  let abstractChecking := sourceOpt.isNone || abstractCheckingFromMethod
  let abstractCheckingForQuote :=
    sourceOpt.isNone && !abstractCheckingFromMethod
  let required := abstractCheckingForQuote || !abstractChecking
  let self ← self.resolveAccounts abstractChecking sourceOpt
  let poolAccountReprSys :=
    Technical.techAccountIdToAccountId self.poolAccount
  isPoolAccountValidFor s self.source.asset self.poolAccount
  let balanceSs ← self.sourceBalance s abstractChecking sourceOpt
  let balanceSt ← Assets.freeBalance s self.source.asset poolAccountReprSys
  let balanceTt ←
    Assets.freeBalance s self.destination.asset poolAccountReprSys
  ensureSourceBalance abstractChecking balanceSs
  ensurePoolNotEmpty balanceSt balanceTt
  let self := self.decideFeeSide
  let (self, recomFee) ← self.resolveAmounts required balanceSt balanceTt
  let self ← self.resolveFeeAccount
  let self ← self.resolveFee required abstractChecking recomFee balanceSs
    balanceTt
  if abstractChecking then pure self
  else do
    self.ensureValidAfterOp balanceSt balanceTt
    pure self

/-! ## Settlement -/

/-- The whole input joins the pool; the fee and the rest of the output leave
it. -/
def settleFeeFromDestination (self : PairSwapAction T) (source : T.AccountId)
    (feeAccountReprSys : T.AccountId) : Exec T Unit := do
  let sourceAmount ← self.source.amount.unwrap
  Technical.transferIn self.source.asset source self.poolAccount sourceAmount
  let fee ← unwrap self.fee
  Technical.transferOut self.destination.asset self.poolAccount
    feeAccountReprSys fee
  let receiver ← unwrap self.receiverAccount
  let destinationAmount ← self.destination.amount.unwrap
  Technical.transferOut self.destination.asset self.poolAccount receiver
    (wrappingSub destinationAmount fee)

/-- The input joins the pool without the fee, which goes to the fee account;
the output leaves the pool. -/
def settleFeeFromSource (self : PairSwapAction T) (source : T.AccountId)
    (feeAccount : TechAccountIdOf T) : Exec T Unit := do
  let sourceAmount ← self.source.amount.unwrap
  let fee ← unwrap self.fee
  Technical.transferIn self.source.asset source self.poolAccount
    (wrappingSub sourceAmount fee)
  Technical.transferIn self.source.asset source feeAccount fee
  let receiver ← unwrap self.receiverAccount
  let destinationAmount ← self.destination.amount.unwrap
  Technical.transferOut self.destination.asset self.poolAccount receiver
    destinationAmount

def settle (self : PairSwapAction T) (source : T.AccountId)
    (feeAccount : TechAccountIdOf T) : Exec T Unit := do
  let feeFromDestination ← unwrap self.getFeeFromDestination
  if feeFromDestination then
    self.settleFeeFromDestination source
      (Technical.techAccountIdToAccountId feeAccount)
  else
    self.settleFeeFromSource source feeAccount

def reserve (self : PairSwapAction T) (source : T.AccountId) : Exec T Unit :=
  Tx.withTransaction do
    ensure (some source = self.clientAccount)
      (poolError .sourceAndClientAccountDoNotMatchAsEqual)
    let feeAccount ← unwrap self.feeAccount
    self.settle source feeAccount
    refreshReserves self.poolAccount self.source.asset self.destination.asset

end PairSwapAction
end PoolXyk
end SoraParachain

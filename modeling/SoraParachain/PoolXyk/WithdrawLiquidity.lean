import SoraParachain.PoolXyk.DepositLiquidity

/-!
# Withdrawing liquidity

Marker tokens are burned for a share of both reserves.  The share is taken of
the issuance and the minimum liquidity together, as if the first depositor had
locked that amount.
-/

namespace SoraParachain
namespace PoolXyk
namespace WithdrawLiquidityAction

variable {T : Config}

def isAbstractChecking (self : WithdrawLiquidityAction T) : Bool :=
  decide (self.destination.fst.amount = .dummy) ||
    decide (self.destination.snd.amount = .dummy) ||
    decide (self.source.amount = .dummy)

def resolveAccounts (self : WithdrawLiquidityAction T)
    (source : T.AccountId) : Result (WithdrawLiquidityAction T) := do
  let client ← resolveClient self.clientAccount source
  pure
    { self with
      clientAccount := some client
      receiverAccountA := some (self.receiverAccountA.getD client)
      receiverAccountB := some (self.receiverAccountB.getD client) }

/-- The share of a reserve that an amount of marker tokens stands for. -/
def shareOf (balance sourceK totalIss : ℕ) : Result ℕ :=
  toBalance
    (FixedWrapper.ofBalance balance * FixedWrapper.ofBalance sourceK /
      (FixedWrapper.ofBalance totalIss).addBalance minLiquidity)

/-- The two payouts for a desired amount of marker tokens. -/
def decideAmounts (self : WithdrawLiquidityAction T)
    (balanceBp balanceTp totalIss : ℕ) : Result (Bounds × Bounds) :=
  match self.source.amount with
  | .desired sourceK => do
      ensure (sourceK > 0) (poolError .zeroValueInAmountParameter)
      let recomX ← shareOf balanceBp sourceK totalIss
      let recomY ← shareOf balanceTp sourceK totalIss
      let x ← decideAgainst self.destination.fst.amount recomX
        .invalidWithdrawLiquidityBasicAssetAmount
      let y ← decideAgainst self.destination.snd.amount recomY
        .invalidWithdrawLiquidityTargetAssetAmount
      pure (x, y)
  | _ => fail (poolError .impossibleToDecideDepositLiquidityAmounts)

/-- The part of the validation that only reads the storage. -/
def validate (s : Storage T) (self : WithdrawLiquidityAction T)
    (source : T.AccountId) (markAsset : T.TechAssetId) :
    Result (WithdrawLiquidityAction T) := do
  let poolAccountReprSys :=
    Technical.techAccountIdToAccountId self.poolAccount
  ensure (self.source.asset = markAsset)
    (poolError .invalidAssetForLiquidityMarking)
  let reprKAssetId := T.techAssetIdInto self.source.asset
  let balanceKs ← Assets.freeBalance s reprKAssetId source
  ensure (¬balanceKs = 0) (poolError .accountBalanceIsInvalid)
  let balanceBp ←
    Assets.freeBalance s self.destination.fst.asset poolAccountReprSys
  let balanceTp ←
    Assets.freeBalance s self.destination.snd.asset poolAccountReprSys
  ensurePoolNotEmpty balanceBp balanceTp
  let totalIss ← Assets.totalIssuance s reprKAssetId
  let amounts ← self.decideAmounts balanceBp balanceTp totalIss
  let self :=
    { self with
      destination :=
        { fst := { self.destination.fst with amount := amounts.1 }
          snd := { self.destination.snd with amount := amounts.2 } } }
  let _ ← self.destination.snd.amount.unwrap
  let _ ← self.destination.fst.amount.unwrap
  let sourceAmount ← self.source.amount.unwrap
  ensure (¬balanceKs < sourceAmount)
    (poolError .sourceBalanceOfLiquidityTokensIsNotLargeEnough)
  pure self

def prepareAndValidate (self : WithdrawLiquidityAction T)
    (sourceOpt : Option T.AccountId) :
    Exec T (WithdrawLiquidityAction T) := do
  let source ← unwrap sourceOpt
  let self ← self.resolveAccounts source
  Tx.reads fun s =>
    isPoolAccountValidFor s self.destination.fst.asset self.poolAccount
  let markAsset ← getMarkingAsset self.poolAccount
  Tx.reads fun s => self.validate s source markAsset

/-! ## Settlement -/

/-- Both payouts leave the pool and its account burns the marker tokens. -/
def reserve (self : WithdrawLiquidityAction T) (source : T.AccountId) :
    Exec T Unit := do
  ensure (some source = self.clientAccount)
    (poolError .sourceAndClientAccountDoNotMatchAsEqual)
  let assetRepr := T.techAssetIdInto self.source.asset
  let poolAccountReprSys :=
    Technical.techAccountIdToAccountId self.poolAccount
  let receiverA ← unwrap self.receiverAccountA
  let baseAmount ← self.destination.fst.amount.unwrap
  Technical.transferOut self.destination.fst.asset self.poolAccount receiverA
    baseAmount
  let receiverB ← unwrap self.receiverAccountB
  let targetAmount ← self.destination.snd.amount.unwrap
  Technical.transferOut self.destination.snd.asset self.poolAccount receiverB
    targetAmount
  let sourceAmount ← self.source.amount.unwrap
  Assets.burnFrom assetRepr poolAccountReprSys source sourceAmount
  refreshReserves self.poolAccount self.destination.fst.asset
    self.destination.snd.asset

end WithdrawLiquidityAction
end PoolXyk
end SoraParachain

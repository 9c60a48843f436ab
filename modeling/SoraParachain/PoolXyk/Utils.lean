import SoraParachain.PoolXyk.Math

/-!
# Pool accounts, marker assets and the maps of the pool

A pool is found through its technical account, which the DEX and the two assets
determine.  Its marker asset is derived from that account.  The two maps
`Reserves` and `Properties` are keyed by the two assets alone, base asset first.
-/

namespace SoraParachain
namespace PoolXyk

variable {T : Config}

def minLiquidity : ℕ := 1000

/-! ## Accounts and assets of a pool -/

/-- The record that the marker asset of a pool is derived from. -/
def markingAssetRecord (techAcc : TechAccountIdOf T) :
    AssetRecord T.DEXId T.AccountId :=
  .arity3 (.genericU128 T.markingAssetTag) (.extra (.lstId .xykPool))
    (.extra (.accountId (Technical.techAccountIdToAccountId techAcc)))

/-- The identifier of the marker asset of a pool. -/
def markingAssetId (techAcc : TechAccountIdOf T) : T.AssetId :=
  T.assetIdOfRecord (markingAssetRecord techAcc)

/-- Derive the marker asset of a pool.  The record it is derived from is stored
on the way. -/
def getMarkingAssetRepr (techAcc : TechAccountIdOf T) : Exec T T.AssetId :=
  Assets.registerAssetIdFromTuple (markingAssetRecord techAcc)

def getMarkingAsset (techAcc : TechAccountIdOf T) : Exec T T.TechAssetId := do
  let assetId ← getMarkingAssetRepr techAcc
  okOr (poolError .unableToConvertAssetToTechAssetId)
    (T.techAssetIdTryFrom assetId)

def tryDecodeAsset (asset : T.AssetId) : Result T.TechAssetId :=
  okOr (poolError .assetDecodingError) (T.techAssetIdTryFrom asset)

/-- The fee is taken in the base asset whenever the swap involves it. -/
def decideIsFeeFromDestination (assetA assetB : T.AssetId) : Bool :=
  if T.getBaseAssetId = assetA then false
  else if T.getBaseAssetId = assetB then true
  else false

def getFeeAccount (techAcc : TechAccountIdOf T) :
    Result (TechAccountIdOf T) :=
  okOr (poolError .unableToDeriveFeeAccount) techAcc.toFeeAccount

def isFeeAccountValidFor (_assetId : T.AssetId)
    (techAcc feeAcc : TechAccountIdOf T) : Result Unit := do
  let recommended ← getFeeAccount techAcc
  if feeAcc ≠ recommended then
    fail (poolError .feeAccountIsInvalid)

/-- The pool account must be registered.  The asset is not looked at. -/
def isPoolAccountValidFor (s : Storage T) (_assetId : T.AssetId)
    (techAcc : TechAccountIdOf T) : Result Unit :=
  Technical.ensureTechAccountRegistered s techAcc

/-- The asset of the two that is traded against the base asset. -/
def decodeTargetAsset (baseAssetId assetA assetB : T.AssetId) :
    Result T.TechAssetId :=
  if baseAssetId = assetA then tryDecodeAsset assetB
  else if baseAssetId = assetB then tryDecodeAsset assetA
  else fail (poolError .baseAssetIsNotMatchedWithAnyAssetArguments)

/-- The pair of two assets on a DEX and the account of its pool. -/
def techAccountFromDexAndAssetPair (s : Storage T) (dexId : T.DEXId)
    (assetA assetB : T.AssetId) :
    Result (TradingPair T.TechAssetId × TechAccountIdOf T) := do
  let dexinfo ← DexManager.getDexInfo s dexId
  let baseAssetId := dexinfo.baseAssetId
  ensure (assetA ≠ assetB) (poolError .assetsMustNotBeSame)
  let ba ← tryDecodeAsset baseAssetId
  let ta ← decodeTargetAsset baseAssetId assetA assetB
  let tpair := ⟨ba, ta⟩
  pure (tpair, TechAccountId.toTechUnitFromDexAndTradingPair dexId tpair)

def getBoundsFromSwapAmount : SwapAmount → Bounds × Bounds
  | .withDesiredInput desiredAmountIn minAmountOut =>
      (.desired desiredAmountIn, .min minAmountOut)
  | .withDesiredOutput desiredAmountOut maxAmountIn =>
      (.max maxAmountIn, .desired desiredAmountOut)

/-! ## Reserves and properties -/

/-- Order two assets, with the values attached to them: the base asset first,
or else by their hashes. -/
def sortAssets {β : Type} (pairA pairB : T.AssetId × β) :
    (T.AssetId × β) × (T.AssetId × β) :=
  if T.getBaseAssetId = pairA.1 then (pairA, pairB)
  else if T.getBaseAssetId = pairB.1 then (pairB, pairA)
  else
    let hashKey := commMerkleOp T.hashAssetIdPair pairA.1 pairB.1
    sortWithHashKey T.hashAssetId hashKey pairA pairB

/-- Enter the accounts and the marker asset of a pool. -/
def initializePoolProperties (dexId : T.DEXId) (assetA assetB : T.AssetId)
    (reservesAccountId feesAccountId : T.AccountId)
    (markerAssetId : T.AssetId) : Exec T Unit := do
  let sorted := sortAssets (assetA, ()) (assetB, ())
  TradingPair.enableSourceForTradingPair dexId sorted.1.1 sorted.2.1 .xykPool
  Tx.modify fun s =>
    { s with
      properties := insert₂ s.properties sorted.1.1 sorted.2.1
        (some (reservesAccountId, feesAccountId, markerAssetId)) }

/-- The reserves map after the balances of two assets were entered. -/
def enterReserves (reserves : T.AssetId → T.AssetId → ℕ × ℕ)
    (assetA assetB : T.AssetId) (balancePair : ℕ × ℕ) :
    T.AssetId → T.AssetId → ℕ × ℕ :=
  let sorted := sortAssets (assetA, balancePair.1) (assetB, balancePair.2)
  insert₂ reserves sorted.1.1 sorted.2.1 (sorted.1.2, sorted.2.2)

def updateReserves (assetA assetB : T.AssetId) (balancePair : ℕ × ℕ) :
    Exec T Unit :=
  Tx.modify fun s =>
    { s with
      reserves := enterReserves s.reserves assetA assetB balancePair }

/-! ## What these read and write -/

/-- Nothing but the records of derived assets differs. -/
def SameButRecords (s s' : Storage T) : Prop :=
  s' = { s with assetRecords := s'.assetRecords }

instance : IsPreorder (Storage T) SameButRecords where
  refl _ := rfl
  trans _ _ _ hab hbc := by
    rw [SameButRecords, hbc, hab]

theorem keeps_getMarkingAsset (techAcc : TechAccountIdOf T) :
    Tx.Keeps SameButRecords (getMarkingAsset techAcc) := by
  refine Tx.keeps_bind ?_ fun _ => Tx.keeps_liftM _
  exact Tx.keeps_bind (Tx.keeps_modify fun s => rfl) fun _ => Tx.keeps_pure _

/-- The storage with the record of the marker asset of a pool. -/
def withMarkingRecord (s : Storage T) (techAcc : TechAccountIdOf T) :
    Storage T :=
  { s with
    assetRecords := Function.update s.assetRecords (markingAssetId techAcc)
      (some (markingAssetRecord techAcc)) }

theorem run_getMarkingAsset_ok {techAcc : TechAccountIdOf T}
    {marker : T.TechAssetId} {s s' : Storage T} :
    (getMarkingAsset techAcc).run s = (.ok marker, s') ↔
      T.techAssetIdTryFrom (markingAssetId techAcc) = some marker ∧
        s' = withMarkingRecord s techAcc := by
  simp only [getMarkingAsset, getMarkingAssetRepr,
    Assets.registerAssetIdFromTuple, Tx.run_bind_eq_ok, Tx.run_modify,
    Tx.run_pure, Tx.run_liftM_eq_ok, okOr_eq_ok, Prod.mk.injEq,
    Except.ok.injEq]
  constructor
  · rintro ⟨_, _, ⟨_, _, ⟨-, rfl⟩, rfl, rfl⟩, hmarker, rfl⟩
    exact ⟨hmarker, rfl⟩
  · rintro ⟨hmarker, rfl⟩
    exact ⟨_, _, ⟨(), _, ⟨trivial, rfl⟩, rfl, rfl⟩, hmarker, rfl⟩

@[simp] theorem run_updateReserves {assetA assetB : T.AssetId}
    {balancePair : ℕ × ℕ} {s : Storage T} :
    (updateReserves assetA assetB balancePair).run s =
      (.ok (), { s with
        reserves := enterReserves s.reserves assetA assetB balancePair }) :=
  rfl

theorem techAccountFromDexAndAssetPair_eq_ok {s : Storage T}
    {dexId : T.DEXId} {assetA assetB : T.AssetId}
    {tpair : TradingPair T.TechAssetId} {techAcc : TechAccountIdOf T} :
    techAccountFromDexAndAssetPair s dexId assetA assetB =
        .ok (tpair, techAcc) ↔
      ∃ dexinfo target, s.dexInfos dexId = some dexinfo ∧ assetA ≠ assetB ∧
        (dexinfo.baseAssetId = assetA ∧ target = assetB ∨
          dexinfo.baseAssetId = assetB ∧ target = assetA) ∧
        T.techAssetIdTryFrom dexinfo.baseAssetId = some tpair.baseAssetId ∧
        T.techAssetIdTryFrom target = some tpair.targetAssetId ∧
        techAcc =
          TechAccountId.toTechUnitFromDexAndTradingPair dexId tpair := by
  simp only [techAccountFromDexAndAssetPair, Tx.except_bind_eq_ok,
    DexManager.getDexInfo_eq_ok, ensure_eq_ok, tryDecodeAsset, okOr_eq_ok]
  constructor
  · rintro ⟨dexinfo, hdex, -, hne, ba, hba, ta, hta, h⟩
    cases h
    unfold decodeTargetAsset at hta
    split_ifs at hta with h₁ h₂
    · exact ⟨dexinfo, assetB, hdex, hne, Or.inl ⟨h₁, rfl⟩, hba,
        okOr_eq_ok.mp hta, rfl⟩
    · exact ⟨dexinfo, assetA, hdex, hne, Or.inr ⟨h₂, rfl⟩, hba,
        okOr_eq_ok.mp hta, rfl⟩
    · simp at hta
  · rintro ⟨dexinfo, target, hdex, hne, htarget, hba, hta, rfl⟩
    refine ⟨dexinfo, hdex, (), hne, _, hba, tpair.targetAssetId, ?_, rfl⟩
    rw [decodeTargetAsset]
    rcases htarget with ⟨h, rfl⟩ | ⟨h, rfl⟩
    · rw [if_pos h]
      exact okOr_eq_ok.mpr hta
    · rw [if_neg (fun h' => hne (h'.symm.trans h)), if_pos h]
      exact okOr_eq_ok.mpr hta

end PoolXyk
end SoraParachain

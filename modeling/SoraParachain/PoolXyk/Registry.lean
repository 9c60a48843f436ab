import SoraParachain.PoolXyk.Growth

/-!
# How assets, pairs and pools come to be

A step registers an asset, registers a pair, opens a pool or leaves all three
registries as they are.  Everything that is in a registry after a step was there
before or was entered by one of these calls.
-/

namespace SoraParachain

variable {T : Config}

open Technical (techAccountIdToAccountId IsRegistered
  techAccountIdToAccountId_inj)
open PoolXyk (Initialized IsMarkerOf initialized_of_run)

/-- The registries of assets, pairs and technical accounts are the same. -/
structure SameRegistries (s s' : Storage T) : Prop where
  assetOwners : s'.assetOwners = s.assetOwners
  enabledSources : s'.enabledSources = s.enabledSources
  techAccounts : s'.techAccounts = s.techAccounts

/-- What a step does to the registries. -/
inductive RegistryStep (s s' : Storage T) (x : Extrinsic T) : Prop where
  | same (h : SameRegistries s s')
  | asset (initialSupply : ℕ) (isMintable : Bool)
      (h : Assets.Registered (Assets.genAssetId s x.1.account) x.1.account
        initialSupply isMintable s s')
  | pair (dexId : T.DEXId) (baseAssetId targetAssetId : T.AssetId)
      (h : (TradingPair.register x.1.account dexId baseAssetId
        targetAssetId).run s = (.ok (), s'))
  | pool (dexId : T.DEXId) (assetA assetB marker : T.AssetId)
      (techAcc feeAcc : TechAccountIdOf T)
      (hcall : x.2 = .initializePool dexId assetA assetB)
      (h : Initialized s s' x.1.account dexId assetA assetB techAcc feeAcc
        marker)

theorem step_registry (s : Storage T) (x : Extrinsic T) :
    RegistryStep s (step s x) x := by
  rcases step_records_or s x with hsame | ⟨_, _, hasset⟩ | ⟨_, _, _, hpair⟩ |
    ⟨_, _, _, _, _, _, hcall, hpool⟩
  · exact .same ⟨hsame.assetOwners, hsame.enabledSources, hsame.techAccounts⟩
  · exact .asset _ _ hasset
  · exact .pair _ _ _ hpair
  · exact .pool _ _ _ _ _ _ hcall hpool

/-- A step that registers nothing writes balances, what is known of reserves
and records of marker assets, and may end the mintability of an asset of its
signer. -/
structure Settled (who : T.AccountId) (s s' : Storage T) : Prop where
  assetInfos : ∀ a, s'.assetInfos a = s.assetInfos a ∨
    Assets.isAssetOwner s a who = true ∧
      s'.assetInfos a = { s.assetInfos a with isMintable := false }
  frame : s' =
    { s with
      ledger := s'.ledger
      assetInfos := s'.assetInfos
      assetRecords := s'.assetRecords
      reserves := s'.reserves }

theorem Settled.of_frame {who : T.AccountId} {s s' : Storage T} (h : s' =
    { s with
      ledger := s'.ledger
      assetRecords := s'.assetRecords
      reserves := s'.reserves }) : Settled who s s' where
  assetInfos a := by
    rw [h]
    exact Or.inl rfl
  frame := by
    rw [h]

/-- What a step does to the registries, with the call that did it. -/
inductive RegistryCall (s s' : Storage T) (x : Extrinsic T) : Prop where
  | settled (h : Settled x.1.account s s')
  | asset (symbol name : List UInt8) (initialSupply : ℕ) (isMintable : Bool)
      (h : (Assets.register x.1.account symbol name initialSupply
        isMintable).run s = (.ok (), s'))
  | pair (dexId : T.DEXId) (baseAssetId targetAssetId : T.AssetId)
      (h : (TradingPair.register x.1.account dexId baseAssetId
        targetAssetId).run s = (.ok (), s'))
  | pool (dexId : T.DEXId) (assetA assetB : T.AssetId)
      (h : (PoolXyk.initializePool x.1.account dexId assetA assetB).run s =
        (.ok (), s'))

theorem step_call (s : Storage T) (x : Extrinsic T) :
    RegistryCall s (step s x) x := by
  obtain ⟨who, call⟩ := x
  rcases step_succeeds_or s (who, call) with h | h
  · generalize step s (who, call) = s' at h ⊢
    cases call with
    | assetsRegister symbol name initialSupply isMintable =>
        exact .asset _ _ _ _ h
    | assetsTransfer assetId dest amount =>
        obtain ⟨-, -, l, -, rfl⟩ := Assets.run_transferFrom_ok.mp h
        exact .settled (.of_frame rfl)
    | assetsMint assetId dest amount =>
        obtain ⟨-, -, -, l, -, rfl⟩ := Assets.run_mintTo_ok.mp h
        exact .settled (.of_frame rfl)
    | assetsBurn assetId amount =>
        obtain ⟨-, -, l, -, rfl⟩ := Assets.run_burnFrom_ok.mp h
        exact .settled (.of_frame rfl)
    | assetsSetNonMintable assetId =>
        obtain ⟨howner, -, rfl⟩ := Assets.run_setNonMintable_ok.mp h
        refine .settled ⟨fun a => ?_, rfl⟩
        by_cases ha : a = assetId
        · subst ha
          exact Or.inr ⟨howner, Function.update_self _ _ _⟩
        · exact Or.inl (Function.update_of_ne ha _ _)
    | tradingPairRegister dexId baseAssetId targetAssetId =>
        exact .pair _ _ _ h
    | initializePool dexId assetA assetB =>
        exact .pool _ _ _ h
    | depositLiquidity dexId assetA assetB aDesired bDesired aMin bMin =>
        obtain ⟨techAcc, mark, t, l, l', -, -, -, rfl⟩ :=
          PoolXyk.run_depositLiquidity_ok.mp h
        exact .settled (.of_frame rfl)
    | withdrawLiquidity dexId assetA assetB k aMin bMin =>
        obtain ⟨techAcc, mark, t, l, l', -, -, rfl⟩ :=
          PoolXyk.run_withdrawLiquidity_ok.mp h
        exact .settled (.of_frame rfl)
    | swapPair receiver dexId assetA assetB swapAmount =>
        obtain ⟨techAcc, t, l, -, -, rfl⟩ := PoolXyk.run_swapPair_ok.mp h
        exact .settled (.of_frame rfl)
    | createSwap action =>
        cases action with
        | pairSwap a =>
            obtain ⟨-, t, l, -, rfl⟩ :=
              PoolXyk.run_performCreateSwap_pairSwap_ok.mp h
            exact .settled (.of_frame rfl)
        | depositLiquidity a =>
            obtain ⟨-, t, l, l', -, rfl⟩ :=
              PoolXyk.run_performCreateSwap_depositLiquidity_ok.mp h
            exact .settled (.of_frame rfl)
        | withdrawLiquidity a =>
            obtain ⟨-, t, l, l', -, rfl⟩ :=
              PoolXyk.run_performCreateSwap_withdrawLiquidity_ok.mp h
            exact .settled (.of_frame rfl)
  · rw [PoolXyk.SameButRecords] at h
    refine .settled (.of_frame ?_)
    rw [h]

namespace RegistryStep

variable {s s' : Storage T} {x : Extrinsic T}

theorem exists_of_update {a b : T.AssetId} {who : T.AccountId}
    (howners : s'.assetOwners = Function.update s.assetOwners b who)
    (h : Assets.Exists s' a) :
    a = b ∨ Assets.Exists s a := by
  by_cases hab : a = b
  · exact Or.inl hab
  · rw [Assets.Exists, howners, Function.update_of_ne hab] at h
    exact Or.inr h

/-- A new asset is a generated one or marks the liquidity of a pool. -/
theorem newAsset (hstep : RegistryStep s s' x) {a : T.AssetId}
    (h : Assets.Exists s' a) :
    Assets.Exists s a ∨ (∃ who nonce, a = T.assetIdOfNonce who nonce) ∨
      ∃ techAcc, IsMarkerOf techAcc a := by
  cases hstep with
  | same hsame =>
      rw [Assets.Exists, hsame.assetOwners] at h
      exact Or.inl h
  | asset initialSupply isMintable hasset =>
      rcases exists_of_update hasset.assetOwners h with rfl | h
      · exact Or.inr (Or.inl ⟨_, _, rfl⟩)
      · exact Or.inl h
  | pair dexId baseAssetId targetAssetId hpair =>
      obtain ⟨-, -, rfl⟩ := TradingPair.run_register_ok hpair
      exact Or.inl h
  | pool dexId assetA assetB marker techAcc feeAcc hcall hinit =>
      rcases exists_of_update hinit.assetOwners h with rfl | h
      · exact Or.inr (Or.inr ⟨techAcc, hinit.isMarker⟩)
      · exact Or.inl h

/-- A new pair is one of the base asset of the runtime and another asset that
exists. -/
theorem newPair (hstep : RegistryStep s s' x) {dexId : T.DEXId}
    {tpair : TradingPair T.AssetId}
    (h : (s'.enabledSources dexId tpair).isSome = true) :
    (s.enabledSources dexId tpair).isSome = true ∨
      Assets.Exists s tpair.baseAssetId ∧
        Assets.Exists s tpair.targetAssetId ∧
        tpair.baseAssetId = T.getBaseAssetId := by
  cases hstep with
  | same hsame =>
      rw [hsame.enabledSources] at h
      exact Or.inl h
  | asset initialSupply isMintable hasset =>
      rw [hasset.frame] at h
      exact Or.inl h
  | pair dexId' baseAssetId targetAssetId hpair =>
      obtain ⟨hbaseIs, -⟩ := TradingPair.fresh_of_register hpair
      obtain ⟨hbase, htarget, rfl⟩ := TradingPair.run_register_ok hpair
      dsimp only [insert₂] at h
      split_ifs at h with heq
      · obtain ⟨-, rfl⟩ := heq
        exact Or.inr ⟨hbase, htarget, hbaseIs⟩
      · exact Or.inl h
  | pool dexId' assetA assetB marker techAcc feeAcc hcall hinit =>
      obtain ⟨set, hset, hsources⟩ := hinit.sources
      rw [hsources] at h
      dsimp only [insert₂] at h
      split_ifs at h with heq
      · obtain ⟨rfl, rfl⟩ := heq
        rw [hset]
        exact Or.inl rfl
      · exact Or.inl h

/-- Opening a pool registers no other pool account. -/
theorem registered_of_initialized (hT : T.CollisionFree) {who : T.AccountId}
    {dexId dexId' : T.DEXId} {assetA assetB marker : T.AssetId}
    {techAcc feeAcc : TechAccountIdOf T} {tpair : TradingPair T.TechAssetId}
    (hinit : Initialized s s' who dexId' assetA assetB techAcc feeAcc marker)
    (h : IsRegistered s'
      (TechAccountId.toTechUnitFromDexAndTradingPair dexId tpair)) :
    IsRegistered s
        (TechAccountId.toTechUnitFromDexAndTradingPair dexId tpair) ∨
      TechAccountId.toTechUnitFromDexAndTradingPair dexId tpair = techAcc := by
  have hfee : TechAccountId.toTechUnitFromDexAndTradingPair dexId tpair ≠
      feeAcc := by
    obtain ⟨pair, hkeeper⟩ := hinit.pool.keeper
    have hfeeAccount := hinit.feeAccount
    rw [hkeeper, TechAccountId.toFeeAccount_toTechUnit] at hfeeAccount
    intro heq
    rw [← heq] at hfeeAccount
    cases hfeeAccount
  rw [IsRegistered, hinit.techAccounts, Function.update_of_ne fun heq =>
    hfee ((techAccountIdToAccountId_inj hT).mp heq)] at h
  by_cases htech :
      TechAccountId.toTechUnitFromDexAndTradingPair dexId tpair = techAcc
  · exact Or.inr htech
  · rw [Function.update_of_ne fun heq =>
      htech ((techAccountIdToAccountId_inj hT).mp heq)] at h
    exact Or.inl h

/-- The account of a new pool was registered by opening it. -/
theorem newPool (hT : T.CollisionFree) (hstep : RegistryStep s s' x)
    {dexId : T.DEXId} {tpair : TradingPair T.TechAssetId}
    (h : IsRegistered s'
      (TechAccountId.toTechUnitFromDexAndTradingPair dexId tpair)) :
    IsRegistered s
        (TechAccountId.toTechUnitFromDexAndTradingPair dexId tpair) ∨
      ∃ dexId' assetA assetB feeAcc marker,
        x.2 = .initializePool dexId' assetA assetB ∧
          Initialized s s' x.1.account dexId' assetA assetB
            (TechAccountId.toTechUnitFromDexAndTradingPair dexId tpair) feeAcc
            marker := by
  cases hstep with
  | same hsame =>
      rw [IsRegistered, hsame.techAccounts] at h
      exact Or.inl h
  | asset initialSupply isMintable hasset =>
      rw [IsRegistered, hasset.frame] at h
      exact Or.inl h
  | pair dexId' baseAssetId targetAssetId hpair =>
      obtain ⟨-, -, rfl⟩ := TradingPair.run_register_ok hpair
      exact Or.inl h
  | pool dexId' assetA assetB marker techAcc feeAcc hcall hinit =>
      rcases registered_of_initialized hT hinit h with hold | htech
      · exact Or.inl hold
      · rw [← htech] at hinit
        exact Or.inr ⟨dexId', assetA, assetB, feeAcc, marker, hcall, hinit⟩

end RegistryStep
end SoraParachain

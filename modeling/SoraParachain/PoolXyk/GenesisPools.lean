import SoraParachain.PoolXyk.AssetAuthority
import SoraParachain.PoolXyk.Redemption

/-!
# A genesis without pools

Results about runs assume that the first state has no pool, that its DEXes trade
against the base asset and that its assets convert back.  The genesis checks none
of this.  Here it is traced back to the lists of the configuration, which are all
that the registries of the first state consist of.
-/

namespace SoraParachain

variable {T : Config}

open Technical (techAccountIdToAccountId IsRegistered)
open PoolXyk (Reversible feeCollectorOf NoPools AllNative AllReversible PairsExist
  OpensSoundPools ListsNoPool pepperConfig pepperChain starts_pepperChain)

namespace GenesisConfig

/-- Every entry of a registry comes from a list of the configuration, and the
registries of the pools are empty. -/
structure Listed (g : GenesisConfig T) (s : Storage T) : Prop where
  sources : ∀ dexId pair set, s.enabledSources dexId pair = some set →
    set = ∅ ∧ (dexId, pair) ∈ g.tradingPairs
  dexInfos : ∀ dexId info, s.dexInfos dexId = some info →
    (dexId, info) ∈ g.dexList
  techAccounts : ∀ who techAcc, s.techAccounts who = some techAcc →
    (who, techAcc) ∈ g.accountIdsToTechAccountIds
  assets : ∀ a, Assets.Exists s a → ∃ asset ∈ g.endowedAssets, asset.assetId = a
  markers : s.markerTokensIndex = ∅
  properties : ∀ a b, s.properties a b = none

section

variable {g : GenesisConfig T} {s s' : Storage T}

theorem listed_blank (ledger : T.currency.Ledger) (system : T.system.State) :
    g.Listed (blank ledger system) where
  sources _ _ _ h := by cases h
  dexInfos _ _ h := by cases h
  techAccounts _ _ h := by cases h
  assets _ h := absurd rfl h
  markers := rfl
  properties _ _ := rfl

theorem Listed.of_permissions (h : g.Listed s) (hsame : SameButPermissions s s') :
    g.Listed s' := by
  rw [SameButPermissions] at hsame
  rw [hsame]
  exact ⟨h.sources, h.dexInfos, h.techAccounts, h.assets, h.markers,
    h.properties⟩

theorem Listed.of_registered (h : g.Listed s) {asset : EndowedAsset T}
    (hmem : asset ∈ g.endowedAssets)
    (hasset : Assets.Registered asset.assetId asset.accountId asset.initialSupply
      asset.isMintable s s') : g.Listed s' := by
  have howners := hasset.assetOwners
  rw [hasset.frame]
  refine ⟨h.sources, h.dexInfos, h.techAccounts, fun a ha => ?_, h.markers,
    h.properties⟩
  by_cases heq : a = asset.assetId
  · exact ⟨asset, hmem, heq.symm⟩
  · have hold : s'.assetOwners a = s.assetOwners a := by
      rw [howners, Function.update_of_ne heq]
    apply h.assets
    rw [Assets.Exists, ← hold]
    exact ha

theorem Listed.enterTradingPair (h : g.Listed s)
    {entry : T.DEXId × TradingPair T.AssetId} (hmem : entry ∈ g.tradingPairs) :
    g.Listed (enterTradingPair entry s) := by
  refine ⟨fun dexId pair set hset => ?_, h.dexInfos, h.techAccounts, h.assets,
    h.markers, h.properties⟩
  dsimp only [SoraParachain.enterTradingPair, insert₂] at hset
  split_ifs at hset with heq
  · cases hset
    obtain ⟨rfl, rfl⟩ := heq
    exact ⟨rfl, hmem⟩
  · exact h.sources dexId pair set hset

theorem Listed.enterDex (h : g.Listed s) {entry : T.DEXId × DEXInfo T.AssetId}
    (hmem : entry ∈ g.dexList) : g.Listed (enterDex entry s) := by
  refine ⟨h.sources, fun dexId info hinfo => ?_, h.techAccounts, h.assets,
    h.markers, h.properties⟩
  dsimp only [SoraParachain.enterDex] at hinfo
  rw [Function.update_apply] at hinfo
  split_ifs at hinfo with heq
  · cases hinfo
    rw [heq]
    exact hmem
  · exact h.dexInfos dexId info hinfo

theorem Listed.enterTechAccount (h : g.Listed s)
    {entry : T.AccountId × TechAccountIdOf T}
    (hmem : entry ∈ g.accountIdsToTechAccountIds) :
    g.Listed (enterTechAccount entry s) := by
  refine ⟨h.sources, h.dexInfos, fun who techAcc hreg => ?_, h.assets, h.markers,
    h.properties⟩
  dsimp only [SoraParachain.enterTechAccount] at hreg
  rw [Function.update_apply] at hreg
  split_ifs at hreg with heq
  · cases hreg
    rw [heq]
    exact hmem
  · exact h.techAccounts who techAcc hreg

/-- The registries of the first state hold what the configuration lists. -/
theorem Starts.listed (h : g.Starts s) : g.Listed s := by
  obtain ⟨ledger, system, h⟩ := h
  obtain ⟨_, s₁, hpermissions, h⟩ := Tx.run_bind_eq_ok.mp h
  obtain ⟨_, s₂, hassets, h⟩ := Tx.run_bind_eq_ok.mp h
  obtain ⟨_, s₃, hpairs, h⟩ := Tx.run_bind_eq_ok.mp h
  obtain ⟨_, s₄, hdexes, haccounts⟩ := Tx.run_bind_eq_ok.mp h
  have h₁ : g.Listed s₁ := (listed_blank ledger system).of_permissions
    ((sameButPermissions_build g.permissions).of_run hpermissions)
  have h₂ : g.Listed s₂ := by
    refine Tx.forM_invariant (fun asset hmem s s' hrun hs => ?_) hassets h₁
    exact hs.of_registered hmem
      (Assets.registered_of_registerAssetId (Tx.run_orFail_eq_ok.mp hrun))
  have h₃ : g.Listed s₃ := by
    refine Tx.forM_invariant (fun entry hmem s s' hrun hs => ?_) hpairs h₂
    cases hrun
    exact hs.enterTradingPair hmem
  have h₄ : g.Listed s₄ := by
    refine Tx.forM_invariant (fun entry hmem s s' hrun hs => ?_) hdexes h₃
    cases hrun
    exact hs.enterDex hmem
  refine Tx.forM_invariant (fun entry hmem s s' hrun hs => ?_) haccounts h₄
  cases hrun
  exact hs.enterTechAccount hmem

/-- The endowed assets exist in the first state. -/
theorem Starts.endowed (h : g.Starts s)
    (howners : ∀ asset ∈ g.endowedAssets,
      asset.accountId ≠ T.defaultAccountId) :
    ∀ asset ∈ g.endowedAssets, Assets.Exists s asset.assetId := by
  obtain ⟨_, _, s₁, s₂, -, hassets, hsame, -⟩ := h.parts
  have hexists : ∀ asset ∈ g.endowedAssets, Assets.Exists s₂ asset.assetId := by
    refine Tx.forM_establishes (P := fun asset s => Assets.Exists s asset.assetId)
      (fun asset hmem s s' hrun => ?_)
      (fun asset hmem other _ s s' hrun hs => ?_) hassets
    · have hasset := Assets.registered_of_registerAssetId
        (Tx.run_orFail_eq_ok.mp hrun)
      rw [Assets.Exists, hasset.assetOwners, Function.update_self]
      exact howners asset hmem
    · have hasset := Assets.registered_of_registerAssetId
        (Tx.run_orFail_eq_ok.mp hrun)
      have hne : other.assetId ≠ asset.assetId := by
        intro heq
        rw [heq] at hs
        exact hasset.fresh hs
      rw [Assets.Exists, hasset.assetOwners, Function.update_of_ne hne]
      exact hs
  intro asset hmem
  rw [Assets.Exists, hsame.assetOwners]
  exact hexists asset hmem

/-- The modes that the assets rely on are those of the permissions. -/
theorem Starts.assetModes (h : g.Starts s) : Permissions.AssetModes s := by
  obtain ⟨_, _, s₁, s₂, hpermissions, hassets, hsame, -⟩ := h.parts
  have h₂ : Permissions.AssetModes s₂ := by
    refine Tx.forM_invariant (fun asset _ s s' hrun hs => ?_) hassets
      (assetModes_build hpermissions)
    exact hs.of_modes_eq (Assets.registered_of_registerAssetId
      (Tx.run_orFail_eq_ok.mp hrun)).modes
  exact h₂.of_modes_eq hsame.modes

end

/-! ## Sound configurations -/

/-- A configuration that lists no account of a pool, only DEXes that trade
against the base asset of the runtime, and pairs of endowed assets, which have
owners and convert back, as do the assets that the runtime generates. -/
structure Sound (g : GenesisConfig T) : Prop where
  keepers : ListsNoPool g
  collectors : ∀ dexId tpair, g.Leaves (techAccountIdToAccountId
    (feeCollectorOf dexId tpair))
  natives : ∀ entry ∈ g.dexList, entry.2.baseAssetId = T.getBaseAssetId
  owners : ∀ asset ∈ g.endowedAssets, asset.accountId ≠ T.defaultAccountId
  endowed : ∀ asset ∈ g.endowedAssets, Reversible asset.assetId
  generated : ∀ who nonce, Reversible (T.assetIdOfNonce who nonce)
  pairs : ∀ entry ∈ g.tradingPairs,
    (∃ asset ∈ g.endowedAssets, asset.assetId = entry.2.baseAssetId) ∧
      ∃ asset ∈ g.endowedAssets, asset.assetId = entry.2.targetAssetId

section

variable {g : GenesisConfig T} {s : Storage T}

theorem Listed.not_registered (h : g.Listed s) {techAcc : TechAccountIdOf T}
    (hleaves : g.Leaves (techAccountIdToAccountId techAcc)) :
    ¬IsRegistered s techAcc := by
  intro hregistered
  obtain ⟨entry, hentry⟩ := Option.isSome_iff_exists.mp hregistered
  exact hleaves _ (h.techAccounts _ _ hentry) rfl

theorem Sound.pairsExist (hg : g.Sound) (h : g.Starts s) : PairsExist s := by
  intro dexId pair hpair
  obtain ⟨set, hset⟩ := Option.isSome_iff_exists.mp hpair
  obtain ⟨⟨base, hbase, hbaseId⟩, ⟨target, htarget, htargetId⟩⟩ :=
    hg.pairs _ (h.listed.sources dexId pair set hset).2
  exact ⟨hbaseId ▸ h.endowed hg.owners base hbase,
    htargetId ▸ h.endowed hg.owners target htarget⟩

theorem Sound.allReversible (hg : g.Sound) (h : g.Starts s) :
    AllReversible s := by
  have hassets : ∀ a, Assets.Exists s a → Reversible a := by
    intro a ha
    obtain ⟨asset, hmem, rfl⟩ := h.listed.assets a ha
    exact hg.endowed asset hmem
  refine ⟨hg.generated, hassets, fun dexId pair hpair => ?_⟩
  obtain ⟨hbase, htarget⟩ := hg.pairsExist h dexId pair hpair
  exact ⟨hassets _ hbase, hassets _ htarget⟩

/-- A chain that starts from a sound configuration starts without any trace of a
pool, with DEXes that trade against the base asset and with pairs of existing
assets that convert back. -/
theorem sound_start (hg : g.Sound) (h : g.Starts s) :
    NoPools s ∧ AllNative s ∧ OpensSoundPools s := by
  have hlisted := h.listed
  refine ⟨⟨?_, ?_, ?_, hlisted.markers, hlisted.properties⟩, ?_, ?_, ?_, ?_, ?_⟩
  · exact fun dexId tpair => hlisted.not_registered (hg.keepers dexId tpair)
  · exact fun dexId tpair => hlisted.not_registered (hg.collectors dexId tpair)
  · rintro dexId pair ⟨set, hset, hmem⟩
    rw [(hlisted.sources dexId pair set hset).1] at hmem
    exact Finset.notMem_empty _ hmem
  · exact fun dexId info hinfo =>
      hg.natives _ (hlisted.dexInfos dexId info hinfo)
  · exact fun dexId tpair => hlisted.not_registered (hg.keepers dexId tpair)
  · exact hg.allReversible h
  · exact hg.pairsExist h
  · exact h.assetModes.burn

end

/-- The sample configuration lists nothing that it should not. -/
theorem sound_pepperConfig : pepperConfig.Sound := by
  have hconvert : ∀ a : Mock.runtime.AssetId, Reversible a := by
    intro a techAsset h
    exact (Option.some.inj h).symm
  refine ⟨fun _ _ _ => List.not_mem_nil.elim, fun _ _ _ => List.not_mem_nil.elim,
    by decide, by decide, fun asset _ => hconvert asset.assetId,
    fun who nonce => hconvert _, by decide⟩

/-- Sample: the chain of that configuration starts without pools. -/
theorem sound_start_sample :
    NoPools pepperChain ∧ AllNative pepperChain ∧ OpensSoundPools pepperChain :=
  sound_start sound_pepperConfig starts_pepperChain

end GenesisConfig
end SoraParachain

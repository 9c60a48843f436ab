import SoraParachain.PoolXyk.Books

/-!
# What a successful initialisation leaves

Opening a pool registers its two accounts and its marker asset, lets the pool
account mint and burn the marker asset and enters the properties of the pair.
The currency is not touched.
-/

namespace SoraParachain
namespace PoolXyk

variable {T : Config}

open Technical (techAccountIdToAccountId IsRegistered)

/-- The properties map after a pool was entered under its two assets. -/
def enterProperties
    (properties : T.AssetId → T.AssetId →
      Option (T.AccountId × T.AccountId × T.AssetId))
    (assetA assetB : T.AssetId)
    (entry : T.AccountId × T.AccountId × T.AssetId) :
    T.AssetId → T.AssetId → Option (T.AccountId × T.AccountId × T.AssetId) :=
  let sorted := sortAssets (assetA, ()) (assetB, ())
  insert₂ properties sorted.1.1 sorted.2.1 (some entry)

/-- What opening a pool changes. -/
structure Initialized (s s' : Storage T) (who : T.AccountId) (dexId : T.DEXId)
    (assetA assetB : T.AssetId) (techAcc feeAcc : TechAccountIdOf T)
    (marker : T.AssetId) : Prop where
  pool : IsPoolOf s dexId assetA assetB techAcc
  feeAccount : techAcc.toFeeAccount = some feeAcc
  isMarker : IsMarkerOf techAcc marker
  unregistered : ¬IsRegistered s techAcc
  fresh : ¬Assets.Exists s marker
  enabled : (s.enabledSources dexId
    ⟨(sortAssets (assetA, ()) (assetB, ())).1.1,
      (sortAssets (assetA, ()) (assetB, ())).2.1⟩).isSome = true
  ledger : s'.ledger = s.ledger
  modes : s'.modes = s.modes
  held : ∀ holder scope p, p ∈ Permissions.held s holder scope →
    p ∈ Permissions.held s' holder scope
  poolMints : Permissions.mint ∈ Permissions.held s'
    (techAccountIdToAccountId techAcc) (.limited (T.hashAssetId marker))
  poolBurns : Permissions.burn ∈ Permissions.held s'
    (techAccountIdToAccountId techAcc) (.limited (T.hashAssetId marker))
  assetOwners : s'.assetOwners = Function.update s.assetOwners marker who
  isMintable : (s'.assetInfos marker).isMintable = true
  assetInfos : ∀ a, a ≠ marker → s'.assetInfos a = s.assetInfos a
  techAccounts : s'.techAccounts = Function.update
    (Function.update s.techAccounts (techAccountIdToAccountId techAcc) techAcc)
    (techAccountIdToAccountId feeAcc) feeAcc
  dexInfos : s'.dexInfos = s.dexInfos
  reserves : s'.reserves = s.reserves
  properties : s'.properties = enterProperties s.properties assetA assetB
    (techAccountIdToAccountId techAcc, techAccountIdToAccountId feeAcc, marker)
  markerTokensIndex : s'.markerTokensIndex = insert marker s.markerTokensIndex
  sources : ∃ set, s.enabledSources dexId
      ⟨(sortAssets (assetA, ()) (assetB, ())).1.1,
        (sortAssets (assetA, ()) (assetB, ())).2.1⟩ = some set ∧
    s'.enabledSources = insert₂ s.enabledSources dexId
      ⟨(sortAssets (assetA, ()) (assetB, ())).1.1,
        (sortAssets (assetA, ()) (assetB, ())).2.1⟩
      (some (insert .xykPool set))

theorem ensurePoolIsNew_eq_ok {s : Storage T} {dexId : T.DEXId}
    {tpair : TradingPair T.TechAssetId} {techAcc feeAcc : TechAccountIdOf T}
    {mark : T.TechAssetId} {u : Unit} :
    ensurePoolIsNew s dexId tpair techAcc feeAcc mark = .ok u ↔
      ¬IsRegistered s techAcc := by
  have hreg : (Technical.ensureTechAccountRegistered s techAcc).isOk = true ↔
      IsRegistered s techAcc := by
    rw [← Technical.ensureTechAccountRegistered_eq_ok (u := ())]
    rcases Technical.ensureTechAccountRegistered s techAcc with e | ⟨⟩
    · simp [Except.isOk, Except.toBool]
    · simp [Except.isOk, Except.toBool]
  unfold ensurePoolIsNew
  split_ifs with h₁ h₂
  · simp [hreg.mp h₁]
  · simp [hreg.mp h₁]
  · have hnot : ¬IsRegistered s techAcc := fun h => h₁ (hreg.mpr h)
    simp [hnot]

/-- What opening a pool finds and registers before the marker asset. -/
theorem run_initializePoolUnchecked_ok {dexId : T.DEXId}
    {assetA assetB : T.AssetId} {s s' : Storage T}
    {tpair : TradingPair T.TechAssetId} {techAcc feeAcc : TechAccountIdOf T}
    {mark : T.TechAssetId}
    (h : (initializePoolUnchecked dexId assetA assetB).run s =
      (.ok (tpair, techAcc, feeAcc, mark), s')) :
    IsPoolOf s dexId assetA assetB techAcc ∧
      techAcc.toFeeAccount = some feeAcc ∧
      T.techAssetIdTryFrom (markingAssetId techAcc) = some mark ∧
      ¬IsRegistered s techAcc ∧
      s' =
        { withMarkingRecord s techAcc with
          system := s'.system
          techAccounts := Function.update
            (Function.update s.techAccounts (techAccountIdToAccountId techAcc)
              techAcc) (techAccountIdToAccountId feeAcc) feeAcc } := by
  obtain ⟨⟨tpair', techAcc'⟩, _, hlookup, h⟩ := Tx.run_bind_eq_ok.mp h
  obtain ⟨hpool, rfl⟩ := Tx.run_reads_eq_ok.mp hlookup
  obtain ⟨feeAcc', _, hunwrap, h⟩ := Tx.run_bind_eq_ok.mp h
  obtain ⟨hfee, rfl⟩ := Tx.run_liftM_eq_ok.mp hunwrap
  obtain ⟨mark', _, hmarking, h⟩ := Tx.run_bind_eq_ok.mp h
  obtain ⟨hmark, rfl⟩ := run_getMarkingAsset_ok.mp hmarking
  obtain ⟨_, _, hcheck, h⟩ := Tx.run_bind_eq_ok.mp h
  obtain ⟨hnew, rfl⟩ := Tx.run_reads_eq_ok.mp hcheck
  obtain ⟨_, _, hreg₁, h⟩ := Tx.run_bind_eq_ok.mp h
  obtain ⟨_, _, hreg₂, h⟩ := Tx.run_bind_eq_ok.mp h
  cases hreg₁
  cases hreg₂
  cases h
  have hunregistered := ensurePoolIsNew_eq_ok.mp hnew
  exact ⟨⟨tpair, hpool⟩, unwrap_eq_ok.mp hfee, hmark, hunregistered, rfl⟩

/-- What a successful initialisation leaves. -/
theorem initialized_of_run {who : T.AccountId} {dexId : T.DEXId}
    {assetA assetB : T.AssetId} {s s' : Storage T} {u : Unit}
    (h : (initializePool who dexId assetA assetB).run s = (.ok u, s')) :
    ∃ techAcc feeAcc marker,
      Initialized s s' who dexId assetA assetB techAcc feeAcc marker := by
  rw [initializePool, Tx.run_withTransaction_eq_ok] at h
  obtain ⟨_, _, hmanage, h⟩ := Tx.run_bind_eq_ok.mp h
  obtain ⟨-, rfl⟩ := Tx.run_reads_eq_ok.mp hmanage
  obtain ⟨⟨tpair, techAcc, feeAcc, mark⟩, s₁, hunchecked, h⟩ :=
    Tx.run_bind_eq_ok.mp h
  obtain ⟨hpool, hfee, hmark, hunregistered, hs₁⟩ :=
    run_initializePoolUnchecked_ok hunchecked
  obtain ⟨_, s₂, hregister, h⟩ := Tx.run_bind_eq_ok.mp h
  have hasset := Assets.registered_of_registerAssetId hregister
  obtain ⟨_, s₃, hmint, h⟩ := Tx.run_bind_eq_ok.mp h
  obtain ⟨_, s₄, hburn, h⟩ := Tx.run_bind_eq_ok.mp h
  have hmints := Permissions.held_of_grantPermissionWithScope hmint
  have hburns := Permissions.held_of_grantPermissionWithScope hburn
  have hgrows₃ :=
    (Permissions.keeps_grantPermissionWithScope _ _ _ _).of_run hmint
  have hgrows₄ :=
    (Permissions.keeps_grantPermissionWithScope _ _ _ _).of_run hburn
  have hgrows := hgrows₃.trans hgrows₄
  obtain ⟨_, s₅, hprops, h⟩ := Tx.run_bind_eq_ok.mp h
  rw [Tx.run_modify] at h
  cases h
  obtain ⟨_, s₆, hsource, hprops⟩ := Tx.run_bind_eq_ok.mp hprops
  obtain ⟨set, hset, hs₆⟩ :=
    TradingPair.run_enableSourceForTradingPair_ok hsource
  rw [Tx.run_modify] at hprops
  cases hprops
  have hframe := hasset.frame
  have hgrown := hgrows.frame
  refine ⟨techAcc, feeAcc, T.techAssetIdInto mark, ?_⟩
  rw [hs₁] at hframe
  rw [hframe] at hgrown
  exact {
    pool := hpool
    feeAccount := hfee
    isMarker := ⟨mark, hmark, rfl⟩
    unregistered := hunregistered
    fresh := by
      have hfresh := hasset.fresh
      rwa [hs₁] at hfresh
    enabled := by
      rw [hgrown] at hset
      rw [Option.isSome_iff_exists]
      exact ⟨set, hset⟩
    ledger := by
      rcases hasset.ledger with ⟨-, hledger⟩ | ⟨hpos, -⟩
      · rw [hs₆, hgrown, hledger, hs₁]
        rfl
      · exact absurd hpos (Nat.lt_irrefl 0)
    modes := by
      rw [hs₆]
      exact hgrows.modes.trans (hasset.modes.trans (by rw [hs₁]; rfl))
    held := by
      intro holder scope p hp
      rw [hs₆]
      refine hgrows.held holder scope p (hasset.held holder scope p ?_)
      rw [hs₁]
      exact hp
    poolMints := by
      rw [hs₆]
      exact hgrows₄.held _ _ _ hmints
    poolBurns := by
      rw [hs₆]
      exact hburns
    assetOwners := by
      rw [hs₆, hgrown]
      exact hasset.assetOwners.trans (by rw [hs₁]; rfl)
    isMintable := by
      rw [hs₆, hgrown]
      exact hasset.isMintable
    assetInfos := by
      intro a ha
      rw [hs₆, hgrown]
      exact (hasset.assetInfos a ha).trans (by rw [hs₁]; rfl)
    techAccounts := by rw [hs₆, hgrown]
    dexInfos := by rw [hs₆, hgrown]; rfl
    reserves := by rw [hs₆, hgrown]; rfl
    properties := by rw [hs₆, hgrown]; rfl
    markerTokensIndex := by rw [hs₆, hgrown]; rfl
    sources := by
      rw [hgrown] at hset
      exact ⟨set, hset, by rw [hs₆, hgrown]; rfl⟩ }

end PoolXyk
end SoraParachain

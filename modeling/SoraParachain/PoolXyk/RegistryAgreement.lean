import SoraParachain.PoolXyk.PoolLifetime

/-!
# The registries name the same pools

Opening a pool writes into five registries: the technical accounts, the sources
of the trading pair, the index of marker assets, the properties of the pair and
the owners of assets.  They stay in agreement: none of them ever names a pool
that another one does not know.
-/

namespace SoraParachain
namespace PoolXyk

variable {T : Config}

open Technical (techAccountIdToAccountId IsRegistered
  techAccountIdToAccountId_inj)

/-- The pool of a pair is open on a DEX. -/
def IsOpen (s : Storage T) (dexId : T.DEXId)
    (tpair : TradingPair T.TechAssetId) : Prop :=
  IsRegistered s (keeperOf dexId tpair)

/-- The pool is among the enabled sources of a trading pair. -/
def SourceEnabled (s : Storage T) (dexId : T.DEXId)
    (pair : TradingPair T.AssetId) : Prop :=
  ∃ set, s.enabledSources dexId pair = some set ∧ .xykPool ∈ set

/-- The technical pair of a pool converts to a trading pair. -/
def Trades (tpair : TradingPair T.TechAssetId)
    (pair : TradingPair T.AssetId) : Prop :=
  T.techAssetIdInto tpair.baseAssetId = pair.baseAssetId ∧
    T.techAssetIdInto tpair.targetAssetId = pair.targetAssetId

/-- Every DEX trades against the base asset of the runtime. -/
def AllNative (s : Storage T) : Prop :=
  ∀ dexId info, s.dexInfos dexId = some info →
    info.baseAssetId = T.getBaseAssetId

/-- An entry of the properties describes a pool. -/
def Describes (dexId : T.DEXId) (tpair : TradingPair T.TechAssetId)
    (entry : T.AccountId × T.AccountId × T.AssetId) : Prop :=
  entry.1 = techAccountIdToAccountId (keeperOf dexId tpair) ∧
    entry.2.1 = techAccountIdToAccountId (feeCollectorOf dexId tpair) ∧
    IsMarkerOf (keeperOf dexId tpair) entry.2.2

/-- What the registries name is an open pool, and an open pool has an entry of
properties. -/
structure PoolsRecorded (s : Storage T) : Prop where
  known : ∀ dexId tpair, IsOpen s dexId tpair →
    (s.dexInfos dexId).isSome = true
  entered : ∀ dexId tpair, IsOpen s dexId tpair →
    (s.properties (T.techAssetIdInto tpair.baseAssetId)
      (T.techAssetIdInto tpair.targetAssetId)).isSome = true
  sourced : ∀ dexId pair, SourceEnabled s dexId pair →
    ∃ tpair, Trades tpair pair ∧ IsOpen s dexId tpair
  collected : ∀ dexId tpair, IsRegistered s (feeCollectorOf dexId tpair) →
    IsOpen s dexId tpair
  marked : ∀ a ∈ s.markerTokensIndex, ∃ dexId tpair,
    IsOpen s dexId tpair ∧ IsMarkerOf (keeperOf dexId tpair) a
  described : ∀ a b entry, s.properties a b = some entry → ∃ dexId tpair,
    Trades tpair ⟨a, b⟩ ∧ IsOpen s dexId tpair ∧ Describes dexId tpair entry

/-- A storage that no pool has left a trace in. -/
structure NoPools (s : Storage T) : Prop where
  keepers : ∀ dexId tpair, ¬IsOpen s dexId tpair
  collectors : ∀ dexId tpair, ¬IsRegistered s (feeCollectorOf dexId tpair)
  sources : ∀ dexId pair, ¬SourceEnabled s dexId pair
  markers : s.markerTokensIndex = ∅
  properties : ∀ a b, s.properties a b = none

theorem NoPools.recorded {s : Storage T} (h : NoPools s) :
    PoolsRecorded s where
  known dexId tpair hopen := absurd hopen (h.keepers dexId tpair)
  entered dexId tpair hopen := absurd hopen (h.keepers dexId tpair)
  sourced dexId pair hsource := absurd hsource (h.sources dexId pair)
  collected dexId tpair hfee := absurd hfee (h.collectors dexId tpair)
  marked a ha := by
    rw [h.markers] at ha
    exact absurd ha (Finset.notMem_empty a)
  described a b entry hentry := by
    rw [h.properties] at hentry
    cases hentry

/-! ## What a step does to the registries of pools -/

/-- No pool is opened. -/
structure SamePools (s s' : Storage T) : Prop where
  dexInfos : s'.dexInfos = s.dexInfos
  techAccounts : s'.techAccounts = s.techAccounts
  markerTokensIndex : s'.markerTokensIndex = s.markerTokensIndex
  properties : s'.properties = s.properties
  sources : ∀ dexId pair, SourceEnabled s' dexId pair →
    SourceEnabled s dexId pair

/-- Only opening a pool enters properties. -/
theorem step_properties_or (s : Storage T) (x : Extrinsic T) :
    (step s x).properties = s.properties ∨
      ∃ dexId assetA assetB techAcc feeAcc marker,
        Initialized s (step s x) x.1.account dexId assetA assetB techAcc feeAcc
          marker := by
  cases step_call s x with
  | settled h =>
      rw [h.frame]
      exact Or.inl rfl
  | asset symbol name initialSupply isMintable h =>
      rw [(Assets.registered_of_register h).frame]
      exact Or.inl rfl
  | pair dexId baseAssetId targetAssetId h =>
      obtain ⟨-, -, hstep⟩ := TradingPair.run_register_ok h
      rw [hstep]
      exact Or.inl rfl
  | pool dexId assetA assetB h =>
      obtain ⟨techAcc, feeAcc, marker, hinit⟩ := initialized_of_run h
      exact Or.inr ⟨_, _, _, _, _, _, hinit⟩

/-- A new pair has no enabled source. -/
theorem sourceEnabled_of_register {s s' : Storage T} {who : T.AccountId}
    {dexId : T.DEXId} {baseAssetId targetAssetId : T.AssetId} {u : Unit}
    (h : (TradingPair.register who dexId baseAssetId targetAssetId).run s =
      (.ok u, s')) :
    ∀ dexId pair, SourceEnabled s' dexId pair → SourceEnabled s dexId pair := by
  intro dexId' pair hsource
  obtain ⟨-, -, rfl⟩ := TradingPair.run_register_ok h
  obtain ⟨set, hset, hmem⟩ := hsource
  dsimp only [insert₂] at hset
  split_ifs at hset
  · cases hset
    exact absurd hmem (Finset.notMem_empty _)
  · exact ⟨set, hset, hmem⟩

/-- A step opens no pool or one. -/
theorem step_pools (s : Storage T) (x : Extrinsic T) :
    SamePools s (step s x) ∨
      ∃ dexId assetA assetB techAcc feeAcc marker,
        Initialized s (step s x) x.1.account dexId assetA assetB techAcc feeAcc
          marker := by
  rcases step_properties_or s x with hproperties | hpool
  · rcases step_records_or s x with hsame | ⟨_, _, hasset⟩ | ⟨_, _, _, hpair⟩ |
      ⟨_, _, _, _, _, _, -, hpool⟩
    · refine Or.inl ⟨hsame.dexInfos, hsame.techAccounts,
        hsame.markerTokensIndex, hproperties, ?_⟩
      intro dexId pair hsource
      rw [SourceEnabled, hsame.enabledSources] at hsource
      exact hsource
    · have hsources : (step s x).enabledSources = s.enabledSources := by
        rw [hasset.frame]
      refine Or.inl ⟨by rw [hasset.frame], by rw [hasset.frame],
        by rw [hasset.frame], hproperties, ?_⟩
      intro dexId pair hsource
      rw [SourceEnabled, hsources] at hsource
      exact hsource
    · have hsources := sourceEnabled_of_register hpair
      obtain ⟨-, -, hstep⟩ := TradingPair.run_register_ok hpair
      exact Or.inl ⟨by rw [hstep], by rw [hstep], by rw [hstep], hproperties,
        hsources⟩
    · exact Or.inr ⟨_, _, _, _, _, _, hpool⟩
  · exact Or.inr hpool

theorem PoolsRecorded.of_same {s s' : Storage T} (h : PoolsRecorded s)
    (hsame : SamePools s s') : PoolsRecorded s' := by
  have hopen : ∀ techAcc, IsRegistered s' techAcc ↔ IsRegistered s techAcc := by
    intro techAcc
    rw [IsRegistered, IsRegistered, hsame.techAccounts]
  constructor
  · intro dexId tpair ht
    rw [hsame.dexInfos]
    exact h.known dexId tpair ((hopen _).mp ht)
  · intro dexId tpair ht
    rw [hsame.properties]
    exact h.entered dexId tpair ((hopen _).mp ht)
  · intro dexId pair hsource
    obtain ⟨tpair, htrades, ht⟩ :=
      h.sourced dexId pair (hsame.sources dexId pair hsource)
    exact ⟨tpair, htrades, (hopen _).mpr ht⟩
  · intro dexId tpair hfee
    exact (hopen _).mpr (h.collected dexId tpair ((hopen _).mp hfee))
  · intro a ha
    rw [hsame.markerTokensIndex] at ha
    obtain ⟨dexId, tpair, ht, hmarker⟩ := h.marked a ha
    exact ⟨dexId, tpair, (hopen _).mpr ht, hmarker⟩
  · intro a b entry hentry
    rw [hsame.properties] at hentry
    obtain ⟨dexId, tpair, htrades, ht, hdescribes⟩ :=
      h.described a b entry hentry
    exact ⟨dexId, tpair, htrades, (hopen _).mpr ht, hdescribes⟩

/-! ## Opening a pool -/

section

variable {s s' : Storage T} {who : T.AccountId} {dexId : T.DEXId}
variable {assetA assetB marker : T.AssetId} {techAcc feeAcc : TechAccountIdOf T}

/-- A new pool is the one of a technical pair that converts to the pair of its
sorted assets. -/
theorem Initialized.trades
    (h : Initialized s s' who dexId assetA assetB techAcc feeAcc marker)
    (hnative : AllNative s) (hreversible : AllReversible s) :
    ∃ tpair, techAcc = keeperOf dexId tpair ∧
      feeAcc = feeCollectorOf dexId tpair ∧ (s.dexInfos dexId).isSome = true ∧
      Trades tpair ⟨(sortAssets (assetA, ()) (assetB, ())).1.1,
        (sortAssets (assetA, ()) (assetB, ())).2.1⟩ := by
  obtain ⟨tpair, hlookup⟩ := h.pool
  obtain ⟨info, target, hinfo, hne, hsides, hbaseTry, htargetTry, rfl⟩ :=
    techAccountFromDexAndAssetPair_eq_ok.mp hlookup
  obtain ⟨hfst, hsnd⟩ := sortAssets_of_base (hnative dexId info hinfo) hne hsides
  have henabled := h.enabled
  rw [hfst, hsnd] at henabled ⊢
  obtain ⟨hrevBase, hrevTarget⟩ := hreversible.pairs dexId _ henabled
  refine ⟨tpair, rfl, (Option.some.inj h.feeAccount).symm, ?_,
    hrevBase _ hbaseTry, hrevTarget _ htargetTry⟩
  rw [hinfo]
  rfl

theorem Initialized.isOpen
    (h : Initialized s s' who dexId assetA assetB techAcc feeAcc marker) :
    IsRegistered s' techAcc := by
  rw [IsRegistered, h.techAccounts]
  apply isSome_update
  rw [Function.update_self]
  rfl

/-- Only the collector of the new pool is registered with it. -/
theorem Initialized.collector (hT : T.CollisionFree)
    (h : Initialized s s' who dexId assetA assetB techAcc feeAcc marker)
    {dexId' : T.DEXId} {tpair : TradingPair T.TechAssetId}
    (hfee : IsRegistered s' (feeCollectorOf dexId' tpair)) :
    IsRegistered s (feeCollectorOf dexId' tpair) ∨
      feeCollectorOf dexId' tpair = feeAcc := by
  obtain ⟨pair, hkeeper⟩ := h.pool.keeper
  have hne : feeCollectorOf dexId' tpair ≠ techAcc := by
    rw [hkeeper]
    intro heq
    cases heq
  by_cases hcollector : feeCollectorOf dexId' tpair = feeAcc
  · exact Or.inr hcollector
  · rw [IsRegistered, h.techAccounts,
      Function.update_of_ne fun heq =>
        hcollector ((techAccountIdToAccountId_inj hT).mp heq),
      Function.update_of_ne fun heq =>
        hne ((techAccountIdToAccountId_inj hT).mp heq)] at hfee
    exact Or.inl hfee

theorem PoolsRecorded.of_initialized (hT : T.CollisionFree)
    (h : PoolsRecorded s) (hnative : AllNative s)
    (hreversible : AllReversible s)
    (hinit : Initialized s s' who dexId assetA assetB techAcc feeAcc marker) :
    PoolsRecorded s' := by
  have hextends := Extends.of_initialized hinit
  obtain ⟨tpair, rfl, rfl, hknown, htrades⟩ := hinit.trades hnative hreversible
  have hnew : IsOpen s' dexId tpair := hinit.isOpen
  have hold : ∀ dexId' tpair', IsOpen s' dexId' tpair' →
      IsOpen s dexId' tpair' ∨ dexId' = dexId ∧ tpair' = tpair := by
    intro dexId' tpair' hopen
    refine (RegistryStep.registered_of_initialized hT hinit hopen).imp_right
      fun heq => ?_
    cases heq
    exact ⟨rfl, rfl⟩
  constructor
  · intro dexId' tpair' hopen
    rw [hinit.dexInfos]
    rcases hold dexId' tpair' hopen with hopen | ⟨rfl, rfl⟩
    · exact h.known dexId' tpair' hopen
    · exact hknown
  · intro dexId' tpair' hopen
    rw [hinit.properties]
    rcases hold dexId' tpair' hopen with hopen | ⟨rfl, rfl⟩
    · exact isSome_insert₂ (h.entered dexId' tpair' hopen)
    · rw [htrades.1, htrades.2]
      dsimp only [enterProperties, insert₂]
      rw [if_pos ⟨rfl, rfl⟩]
      rfl
  · rintro dexId' pair ⟨set', hset', hmem⟩
    obtain ⟨set, hset, hsources⟩ := hinit.sources
    rw [hsources] at hset'
    dsimp only [insert₂] at hset'
    split_ifs at hset' with heq
    · obtain ⟨rfl, rfl⟩ := heq
      exact ⟨tpair, htrades, hnew⟩
    · obtain ⟨other, hother, hopen⟩ := h.sourced dexId' pair ⟨set', hset', hmem⟩
      exact ⟨other, hother, hextends.registered _ hopen⟩
  · intro dexId' tpair' hfee
    rcases hinit.collector hT hfee with hfee | heq
    · exact hextends.registered _ (h.collected dexId' tpair' hfee)
    · cases heq
      exact hnew
  · intro a ha
    rw [hinit.markerTokensIndex] at ha
    rcases Finset.mem_insert.mp ha with rfl | ha
    · exact ⟨dexId, tpair, hnew, hinit.isMarker⟩
    · obtain ⟨dexId', tpair', hopen, hmarker⟩ := h.marked a ha
      exact ⟨dexId', tpair', hextends.registered _ hopen, hmarker⟩
  · intro a b entry hentry
    rw [hinit.properties] at hentry
    dsimp only [enterProperties, insert₂] at hentry
    split_ifs at hentry with heq
    · obtain ⟨rfl, rfl⟩ := heq
      cases hentry
      exact ⟨dexId, tpair, htrades, hnew, rfl, rfl, hinit.isMarker⟩
    · obtain ⟨dexId', tpair', htrades', hopen, hdescribes⟩ :=
        h.described a b entry hentry
      exact ⟨dexId', tpair', htrades', hextends.registered _ hopen, hdescribes⟩

end

/-! ## Any step and any run -/

/-- The registries agree, in a runtime whose DEXes and assets allow them to. -/
structure Agreeing (s : Storage T) : Prop where
  native : AllNative s
  complete : PoolsComplete s
  recorded : PoolsRecorded s

section

variable {s : Storage T} {x : Extrinsic T}

theorem AllNative.step (h : AllNative s) : AllNative (step s x) := by
  intro dexId info hinfo
  rw [(step_extends s x).dexInfos] at hinfo
  exact h dexId info hinfo

theorem Agreeing.step (hT : T.CollisionFree) (h : Agreeing s)
    (hx : OpensAsOwner x) : Agreeing (step s x) where
  native := h.native.step
  complete := h.complete.step hT hx
  recorded := by
    rcases step_pools s x with hsame | ⟨_, _, _, _, _, _, hinit⟩
    · exact h.recorded.of_same hsame
    · exact h.recorded.of_initialized hT h.native h.complete.reversible hinit

/-- The DEX of an open pool trades against the base asset of the runtime. -/
theorem Agreeing.baseIsNative (h : Agreeing s) {dexId : T.DEXId}
    {tpair : TradingPair T.TechAssetId} (hopen : IsOpen s dexId tpair) :
    BaseIsNative s dexId := by
  obtain ⟨info, hinfo⟩ :=
    Option.isSome_iff_exists.mp (h.recorded.known dexId tpair hopen)
  exact ⟨info, hinfo, h.native dexId info hinfo⟩

/-- The pool is an enabled source of just the pairs whose pool is open. -/
theorem Agreeing.sourceEnabled_iff (h : Agreeing s) (dexId : T.DEXId)
    (pair : TradingPair T.AssetId) :
    SourceEnabled s dexId pair ↔
      ∃ tpair, Trades tpair pair ∧ IsOpen s dexId tpair := by
  constructor
  · exact h.recorded.sourced dexId pair
  · rintro ⟨tpair, ⟨hbase, htarget⟩, hopen⟩
    have hpair := h.complete.pairEnabled dexId tpair hopen
      (h.baseIsNative hopen)
    rw [PairEnabled, hbase, htarget] at hpair
    exact hpair

/-- The marker assets in the index are those of the open pools. -/
theorem Agreeing.mem_markerTokensIndex_iff (h : Agreeing s) (a : T.AssetId) :
    a ∈ s.markerTokensIndex ↔
      ∃ dexId tpair, IsOpen s dexId tpair ∧
        IsMarkerOf (keeperOf dexId tpair) a := by
  constructor
  · exact h.recorded.marked a
  · rintro ⟨dexId, tpair, hopen, hmarker⟩
    obtain ⟨marker, hmarker', -, hindex, -⟩ :=
      (h.complete.complete dexId tpair hopen).marker
    rw [hmarker.unique hmarker']
    exact hindex

/-- There are properties of just the pairs that a pool is open for. -/
theorem Agreeing.properties_iff (h : Agreeing s) (a b : T.AssetId) :
    (s.properties a b).isSome = true ↔
      ∃ dexId tpair, Trades tpair ⟨a, b⟩ ∧ IsOpen s dexId tpair := by
  constructor
  · intro hsome
    obtain ⟨entry, hentry⟩ := Option.isSome_iff_exists.mp hsome
    obtain ⟨dexId, tpair, htrades, hopen, -⟩ :=
      h.recorded.described a b entry hentry
    exact ⟨dexId, tpair, htrades, hopen⟩
  · rintro ⟨dexId, tpair, ⟨hbase, htarget⟩, hopen⟩
    have hentered := h.recorded.entered dexId tpair hopen
    rw [hbase, htarget] at hentered
    exact hentered

end

/-- After every run from a genesis without pools, whose DEXes trade against the
base asset of the runtime, the registries name the same pools: a pair has the
pool among its sources exactly when the account of its pool is registered, the
account of the pool exactly when the collector of its fees is, the index holds
exactly the marker assets of the registered pools, and there are properties of
exactly the pairs with a pool, which are the accounts and the marker asset of
such a pool. -/
theorem pool_registries_agree (hT : T.CollisionFree) {genesis : Storage T}
    (hnone : NoPools genesis) (hnative : AllNative genesis)
    (hreversible : AllReversible genesis) {extrinsics : List (Extrinsic T)}
    (howners : ∀ x ∈ extrinsics, OpensAsOwner x) :
    (∀ dexId pair, SourceEnabled (runs genesis extrinsics) dexId pair ↔
      ∃ tpair, Trades tpair pair ∧
        IsOpen (runs genesis extrinsics) dexId tpair) ∧
    (∀ dexId tpair,
      IsRegistered (runs genesis extrinsics) (feeCollectorOf dexId tpair) ↔
        IsOpen (runs genesis extrinsics) dexId tpair) ∧
    (∀ a, a ∈ (runs genesis extrinsics).markerTokensIndex ↔
      ∃ dexId tpair, IsOpen (runs genesis extrinsics) dexId tpair ∧
        IsMarkerOf (keeperOf dexId tpair) a) ∧
    (∀ a b, ((runs genesis extrinsics).properties a b).isSome = true ↔
      ∃ dexId tpair, Trades tpair ⟨a, b⟩ ∧
        IsOpen (runs genesis extrinsics) dexId tpair) ∧
    ∀ a b entry, (runs genesis extrinsics).properties a b = some entry →
      ∃ dexId tpair, Trades tpair ⟨a, b⟩ ∧
        IsOpen (runs genesis extrinsics) dexId tpair ∧
        Describes dexId tpair entry := by
  have hstart : Agreeing genesis :=
    ⟨hnative, ⟨hreversible, fun dexId tpair h => absurd h (hnone.keepers _ _),
      fun dexId tpair h _ => absurd h (hnone.keepers _ _)⟩, hnone.recorded⟩
  have halong : Along step (fun _ x => OpensAsOwner x) genesis extrinsics :=
    along_of_forall_mem howners
  have hrun : Agreeing (runs genesis extrinsics) :=
    runAll_invariant (fun s x hs hx => hs.step hT hx) extrinsics genesis hstart
      halong
  refine ⟨hrun.sourceEnabled_iff, ?_, hrun.mem_markerTokensIndex_iff,
    hrun.properties_iff, hrun.recorded.described⟩
  intro dexId tpair
  exact ⟨hrun.recorded.collected dexId tpair,
    fun hopen => (hrun.complete.complete dexId tpair hopen).feeRegistered⟩

/-- The sample genesis has no pools. -/
theorem noPools_genesis : NoPools Mock.genesis := by
  have haccounts : Mock.genesis.techAccounts = fun _ => none := by
    unfold Mock.genesis
    rfl
  have hsources : Mock.genesis.enabledSources = fun _ _ => none := by
    unfold Mock.genesis
    rfl
  have hmarkers : Mock.genesis.markerTokensIndex = ∅ := by
    unfold Mock.genesis
    rfl
  have hproperties : Mock.genesis.properties = fun _ _ => none := by
    unfold Mock.genesis
    rfl
  refine ⟨unregistered_genesis, ?_, ?_, hmarkers, fun a b => by
    rw [hproperties]⟩
  · intro dexId tpair h
    rw [IsRegistered, haccounts] at h
    cases h
  · rintro dexId pair ⟨set, hset, -⟩
    rw [hsources] at hset
    cases hset

theorem allNative_genesis : AllNative Mock.genesis := by
  have hdexes : Mock.genesis.dexInfos = fun dex =>
      if dex = Mock.dexA then some ⟨Mock.goldenTicket, true⟩ else none := by
    unfold Mock.genesis
    rfl
  intro dexId info hinfo
  rw [hdexes] at hinfo
  dsimp only at hinfo
  split_ifs at hinfo
  cases hinfo
  rfl

/-- Bob opens a pool: its marker asset is in the index because it is open. -/
theorem pool_registries_agree_sample :
    Mock.markerOf Mock.dexA Mock.redPepper ∈
        (runs Mock.genesis (Mock.openPool Mock.dexA
          Mock.redPepper)).markerTokensIndex ↔
      ∃ dexId tpair, IsOpen (runs Mock.genesis (Mock.openPool Mock.dexA
          Mock.redPepper)) dexId tpair ∧
        IsMarkerOf (T := Mock.runtime) (keeperOf dexId tpair)
          (Mock.markerOf Mock.dexA Mock.redPepper) :=
  (pool_registries_agree (T := Mock.runtime) Mock.collisionFree noPools_genesis
    allNative_genesis allReversible_genesis (by
      intro x hx dexId assetA assetB hcall
      rcases List.mem_cons.mp hx with rfl | hx
      · cases hcall
      · rw [List.mem_singleton.mp hx]
        decide)).2.2.1 _

end PoolXyk
end SoraParachain

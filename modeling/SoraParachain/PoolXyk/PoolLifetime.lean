import SoraParachain.Mock
import SoraParachain.PoolXyk.Registry

/-!
# Open pools stay complete

Opening a pool does everything or nothing, and no call takes any of it back.  A
pool whose account is registered therefore has all its parts, and opening it
again is refused as such.
-/

namespace SoraParachain
namespace PoolXyk

variable {T : Config}

open Technical (techAccountIdToAccountId IsRegistered)

/-! ## Complete pools -/

/-- The account that keeps the liquidity of a pair on a DEX. -/
abbrev keeperOf (dexId : T.DEXId) (tpair : TradingPair T.TechAssetId) :
    TechAccountIdOf T :=
  TechAccountId.toTechUnitFromDexAndTradingPair dexId tpair

/-- The account that collects the fees of a pair on a DEX. -/
def feeCollectorOf (dexId : T.DEXId) (tpair : TradingPair T.TechAssetId) :
    TechAccountIdOf T :=
  .pure dexId (.feeCollectorForPair tpair)

/-- The accounts, the marker asset and the permissions of a pool are there. -/
structure Complete (s : Storage T) (dexId : T.DEXId)
    (tpair : TradingPair T.TechAssetId) : Prop where
  feeRegistered : IsRegistered s (feeCollectorOf dexId tpair)
  marker : ∃ marker, IsMarkerOf (keeperOf dexId tpair) marker ∧
    Assets.Exists s marker ∧ marker ∈ s.markerTokensIndex ∧
    Permissions.mint ∈ Permissions.held s
      (techAccountIdToAccountId (keeperOf dexId tpair))
      (.limited (T.hashAssetId marker)) ∧
    Permissions.burn ∈ Permissions.held s
      (techAccountIdToAccountId (keeperOf dexId tpair))
      (.limited (T.hashAssetId marker))

/-- The pair of a pool is registered with the pool among its sources. -/
def PairEnabled (s : Storage T) (dexId : T.DEXId)
    (tpair : TradingPair T.TechAssetId) : Prop :=
  ∃ set, s.enabledSources dexId
      ⟨T.techAssetIdInto tpair.baseAssetId,
        T.techAssetIdInto tpair.targetAssetId⟩ = some set ∧
    .xykPool ∈ set

/-- The base asset of a DEX is the one of the runtime. -/
def BaseIsNative (s : Storage T) (dexId : T.DEXId) : Prop :=
  ∃ info, s.dexInfos dexId = some info ∧ info.baseAssetId = T.getBaseAssetId

/-- A technical asset that an asset converts to converts back to it. -/
def Reversible (a : T.AssetId) : Prop :=
  ∀ techAsset, T.techAssetIdTryFrom a = some techAsset →
    T.techAssetIdInto techAsset = a

section

variable {s s' : Storage T} {dexId : T.DEXId}
variable {tpair : TradingPair T.TechAssetId}

theorem Complete.of_extends (h : Complete s dexId tpair)
    (hextends : Extends s s') : Complete s' dexId tpair := by
  obtain ⟨marker, hmarker, hexists, hindex, hmint, hburn⟩ := h.marker
  exact ⟨hextends.registered _ h.feeRegistered, marker, hmarker,
    hextends.assetExists _ hexists, hextends.markers hindex,
    hextends.held _ _ _ hmint, hextends.held _ _ _ hburn⟩

theorem PairEnabled.of_extends (h : PairEnabled s dexId tpair)
    (hextends : Extends s s') : PairEnabled s' dexId tpair := by
  obtain ⟨set, hset, hmem⟩ := h
  obtain ⟨set', hset', hle⟩ := hextends.sources _ _ set hset
  exact ⟨set', hset', hle hmem⟩

theorem reversible_of_isMarkerOf (hT : T.CollisionFree)
    {techAcc : TechAccountIdOf T} {marker : T.AssetId}
    (h : IsMarkerOf techAcc marker) : Reversible marker := by
  obtain ⟨mark, hmark, rfl⟩ := h
  have hinto := hT.into_of_tryFrom _ _ hmark
  intro techAsset htry
  rw [hinto] at htry ⊢
  exact hT.into_of_tryFrom _ _ htry

/-! ## What opening a pool establishes -/

section

variable {who : T.AccountId} {assetA assetB marker : T.AssetId}
variable {feeAcc : TechAccountIdOf T}

theorem Initialized.complete
    (h : Initialized s s' who dexId assetA assetB (keeperOf dexId tpair) feeAcc
      marker) (hwho : who ≠ T.defaultAccountId) :
    Complete s' dexId tpair := by
  have hfee : feeAcc = feeCollectorOf dexId tpair :=
    (Option.some.inj h.feeAccount).symm
  constructor
  · rw [IsRegistered, h.techAccounts, hfee, Function.update_self]
    rfl
  · refine ⟨marker, h.isMarker, ?_, ?_, h.poolMints, h.poolBurns⟩
    · rw [Assets.Exists, h.assetOwners, Function.update_self]
      exact hwho
    · rw [h.markerTokensIndex]
      exact Finset.mem_insert_self _ _

/-- Two assets, one of them the base asset of the runtime, are sorted with the
base asset first. -/
theorem sortAssets_of_base {base target : T.AssetId}
    (hbase : base = T.getBaseAssetId) (hne : assetA ≠ assetB)
    (h : base = assetA ∧ target = assetB ∨ base = assetB ∧ target = assetA) :
    (sortAssets (assetA, ()) (assetB, ())).1.1 = base ∧
      (sortAssets (assetA, ()) (assetB, ())).2.1 = target := by
  rcases h with ⟨rfl, rfl⟩ | ⟨rfl, rfl⟩
  · rw [sortAssets, if_pos hbase.symm]
    exact ⟨rfl, rfl⟩
  · have hnot : T.getBaseAssetId ≠ target := by
      rw [← hbase]
      exact hne.symm
    rw [sortAssets, if_neg hnot, if_pos hbase.symm]
    exact ⟨rfl, rfl⟩

/-- A pool on a DEX of the runtime's base asset is opened for the pair of its
account, provided the assets of the pair convert back. -/
theorem Initialized.pairEnabled
    (h : Initialized s s' who dexId assetA assetB (keeperOf dexId tpair) feeAcc
      marker) (hnative : BaseIsNative s dexId)
    (hpairs : ∀ pair, (s.enabledSources dexId pair).isSome = true →
      Reversible pair.baseAssetId ∧ Reversible pair.targetAssetId) :
    PairEnabled s' dexId tpair := by
  obtain ⟨tpair', hlookup⟩ := h.pool
  obtain ⟨info, target, hinfo, hne, hsides, hbaseTry, htargetTry, hkeeper⟩ :=
    techAccountFromDexAndAssetPair_eq_ok.mp hlookup
  cases hkeeper
  obtain ⟨info', hinfo', hbase⟩ := hnative
  rw [hinfo] at hinfo'
  cases hinfo'
  obtain ⟨hfst, hsnd⟩ := sortAssets_of_base hbase hne hsides
  obtain ⟨set, hset, hsources⟩ := h.sources
  rw [hfst, hsnd] at hset hsources
  obtain ⟨hrevBase, hrevTarget⟩ := hpairs ⟨info.baseAssetId, target⟩ (by
    rw [hset]
    rfl)
  have hinto : T.techAssetIdInto tpair.baseAssetId = info.baseAssetId :=
    hrevBase _ hbaseTry
  have hinto' : T.techAssetIdInto tpair.targetAssetId = target :=
    hrevTarget _ htargetTry
  refine ⟨insert .xykPool set, ?_, Finset.mem_insert_self _ _⟩
  rw [hinto, hinto', hsources]
  exact if_pos ⟨rfl, rfl⟩

end

/-! ## Opening a pool again -/

theorem isOk_of_eq_ok {α : Type} {x : Result α} {a : α} (h : x = .ok a) :
    x.isOk = true := by
  rw [h]
  rfl

/-- The check for a new pool tells an open pool from one that was left in
between. -/
theorem ensurePoolIsNew_of_complete {pair : TradingPair T.TechAssetId}
    {techAcc feeAcc : TechAccountIdOf T} {mark : T.TechAssetId}
    (htech : IsRegistered s techAcc) (hfee : IsRegistered s feeAcc)
    (hmark : Assets.Exists s (T.techAssetIdInto mark))
    (hdex : (s.dexInfos dexId).isSome = true)
    (hpair : (s.enabledSources dexId ⟨T.techAssetIdInto pair.baseAssetId,
      T.techAssetIdInto pair.targetAssetId⟩).isSome = true) :
    ensurePoolIsNew s dexId pair techAcc feeAcc mark =
      fail (poolError .poolIsAlreadyInitialized) := by
  have htechOk : (Technical.ensureTechAccountRegistered s techAcc).isOk =
      true :=
    isOk_of_eq_ok (a := ()) (Technical.ensureTechAccountRegistered_eq_ok.mpr
      htech)
  have hfeeOk : (Technical.ensureTechAccountRegistered s feeAcc).isOk = true :=
    isOk_of_eq_ok (a := ()) (Technical.ensureTechAccountRegistered_eq_ok.mpr
      hfee)
  have hmarkOk : (Assets.ensureAssetExists s (T.techAssetIdInto mark)).isOk =
      true :=
    isOk_of_eq_ok (a := ()) (Assets.ensureAssetExists_eq_ok.mpr hmark)
  have hpairOk : (TradingPair.ensureTradingPairExists s dexId
      (T.techAssetIdInto pair.baseAssetId)
      (T.techAssetIdInto pair.targetAssetId)).isOk = true := by
    apply isOk_of_eq_ok (a := ())
    rw [TradingPair.ensureTradingPairExists, Tx.except_bind_eq_ok]
    exact ⟨true, TradingPair.isTradingPairEnabled_eq_ok.mpr
      ⟨hdex, hpair.symm⟩, ensure_eq_ok.mpr rfl⟩
  rw [ensurePoolIsNew, if_pos htechOk, hfeeOk, hmarkOk, hpairOk]
  rfl

/-- Opening a complete pool again fails as it should. -/
theorem initializePool_again {who : T.AccountId} {assetA assetB : T.AssetId}
    {manager : Option T.AccountId} (hregistered : IsRegistered s
      (keeperOf dexId tpair)) (hcomplete : Complete s dexId tpair)
    (hpair : PairEnabled s dexId tpair)
    (hpool : IsPoolOf s dexId assetA assetB (keeperOf dexId tpair))
    (hmanage : DexManager.ensureCanManage s dexId who .publicMode =
      .ok manager) :
    (initializePool who dexId assetA assetB).run s =
      (.error (.error (poolError .poolIsAlreadyInitialized)), s) := by
  obtain ⟨tpair', hlookup⟩ := hpool
  obtain ⟨info, -, hinfo, -, -, -, -, hkeeper⟩ :=
    techAccountFromDexAndAssetPair_eq_ok.mp hlookup
  cases hkeeper
  obtain ⟨marker, ⟨mark, hmark, rfl⟩, hexists, -⟩ := hcomplete.marker
  obtain ⟨set, hset, -⟩ := hpair
  refine Tx.run_withTransaction_eq_error.mpr ⟨rfl, withMarkingRecord s
    (keeperOf dexId tpair), ?_⟩
  have hread : (Tx.reads fun s : Storage T =>
      DexManager.ensureCanManage s dexId who .publicMode).run s =
      (.ok manager, s) := Tx.run_reads_eq_ok.mpr ⟨hmanage, rfl⟩
  rw [Tx.run_bind_of_ok hread]
  refine Tx.run_bind_eq_error.mpr (Or.inl ?_)
  have hfind : (Tx.reads fun s : Storage T =>
      techAccountFromDexAndAssetPair s dexId assetA assetB).run s =
      (.ok (tpair, keeperOf dexId tpair), s) :=
    Tx.run_reads_eq_ok.mpr ⟨hlookup, rfl⟩
  rw [initializePoolUnchecked, Tx.run_bind_of_ok hfind]
  have hfee : (liftM (unwrap (keeperOf dexId tpair).toFeeAccount) :
      Exec T (TechAccountIdOf T)).run s =
      (.ok (feeCollectorOf dexId tpair), s) :=
    Tx.run_liftM_eq_ok.mpr ⟨rfl, rfl⟩
  have hmarking : (getMarkingAsset (keeperOf dexId tpair)).run s =
      (.ok mark, withMarkingRecord s (keeperOf dexId tpair)) :=
    run_getMarkingAsset_ok.mpr ⟨hmark, rfl⟩
  dsimp only
  rw [Tx.run_bind_of_ok hfee, Tx.run_bind_of_ok hmarking]
  refine Tx.run_bind_eq_error.mpr (Or.inl ?_)
  refine Tx.run_reads_eq_error.mpr ⟨?_, rfl⟩
  have hdex : (s.dexInfos dexId).isSome = true := by
    rw [hinfo]
    rfl
  have hsome : (s.enabledSources dexId ⟨T.techAssetIdInto tpair.baseAssetId,
      T.techAssetIdInto tpair.targetAssetId⟩).isSome = true := by
    rw [hset]
    rfl
  exact ensurePoolIsNew_of_complete hregistered hcomplete.feeRegistered hexists
    hdex hsome

end

/-! ## Runs -/

/-- A storage whose assets and registered pairs consist of assets that convert
back, in a runtime that generates such assets only. -/
structure AllReversible (s : Storage T) : Prop where
  generated : ∀ who nonce, Reversible (T.assetIdOfNonce who nonce)
  assets : ∀ a, Assets.Exists s a → Reversible a
  pairs : ∀ dexId pair, (s.enabledSources dexId pair).isSome = true →
    Reversible pair.baseAssetId ∧ Reversible pair.targetAssetId

/-- Every registered pool has all its parts. -/
structure PoolsComplete (s : Storage T) : Prop where
  reversible : AllReversible s
  complete : ∀ dexId tpair, IsRegistered s (keeperOf dexId tpair) →
    Complete s dexId tpair
  pairEnabled : ∀ dexId tpair, IsRegistered s (keeperOf dexId tpair) →
    BaseIsNative s dexId → PairEnabled s dexId tpair

/-- The extrinsic does not open a pool in the name of the default account, which
can own nothing. -/
def OpensAsOwner (x : Extrinsic T) : Prop :=
  ∀ dexId assetA assetB, x.2 = .initializePool dexId assetA assetB →
    x.1.account ≠ T.defaultAccountId

section

variable {s : Storage T} {x : Extrinsic T}

theorem AllReversible.step (hT : T.CollisionFree) (h : AllReversible s) :
    AllReversible (step s x) where
  generated := h.generated
  assets a ha := by
    rcases (step_registry s x).newAsset ha with ha | ⟨who, nonce, rfl⟩ |
      ⟨techAcc, hmarker⟩
    · exact h.assets a ha
    · exact h.generated who nonce
    · exact reversible_of_isMarkerOf hT hmarker
  pairs dexId pair hpair := by
    rcases (step_registry s x).newPair hpair with hpair | ⟨hbase, htarget, -⟩
    · exact h.pairs dexId pair hpair
    · exact ⟨h.assets _ hbase, h.assets _ htarget⟩

theorem BaseIsNative.of_step {dexId : T.DEXId}
    (h : BaseIsNative (step s x) dexId) : BaseIsNative s dexId := by
  obtain ⟨info, hinfo, hbase⟩ := h
  rw [(step_extends s x).dexInfos] at hinfo
  exact ⟨info, hinfo, hbase⟩

theorem PoolsComplete.step (hT : T.CollisionFree) (h : PoolsComplete s)
    (hx : OpensAsOwner x) : PoolsComplete (step s x) where
  reversible := h.reversible.step hT
  complete dexId tpair hregistered := by
    rcases (step_registry s x).newPool hT hregistered with hold |
      ⟨_, assetA, assetB, feeAcc, marker, hcall, hinit⟩
    · exact (h.complete dexId tpair hold).of_extends (step_extends s x)
    · obtain ⟨pair, hkeeper⟩ := hinit.pool.keeper
      cases hkeeper
      exact hinit.complete (hx _ _ _ hcall)
  pairEnabled dexId tpair hregistered hnative := by
    have hnative' := hnative.of_step
    rcases (step_registry s x).newPool hT hregistered with hold |
      ⟨_, assetA, assetB, feeAcc, marker, hcall, hinit⟩
    · exact (h.pairEnabled dexId tpair hold hnative').of_extends
        (step_extends s x)
    · obtain ⟨pair, hkeeper⟩ := hinit.pool.keeper
      cases hkeeper
      exact hinit.pairEnabled hnative' (h.reversible.pairs dexId)

end

/-- In a run from a genesis without pools, where no pool is opened by the
default account, every pool whose account is registered is complete; on a DEX
of the runtime's base asset its pair is enabled and opening it again, with the
assets in either order, is refused because it is open. -/
theorem pools_stay_complete (hT : T.CollisionFree) {genesis : Storage T}
    (hgenesis : ∀ dexId tpair, ¬IsRegistered genesis (keeperOf dexId tpair))
    (hreversible : AllReversible genesis) {extrinsics : List (Extrinsic T)}
    (howners : ∀ x ∈ extrinsics, OpensAsOwner x) (dexId : T.DEXId)
    (tpair : TradingPair T.TechAssetId)
    (hregistered : IsRegistered (runs genesis extrinsics)
      (keeperOf dexId tpair)) :
    Complete (runs genesis extrinsics) dexId tpair ∧
      (BaseIsNative genesis dexId →
        PairEnabled (runs genesis extrinsics) dexId tpair ∧
        ∀ who assetA assetB manager,
          IsPoolOf (runs genesis extrinsics) dexId assetA assetB
            (keeperOf dexId tpair) →
          DexManager.ensureCanManage (runs genesis extrinsics) dexId who
            .publicMode = .ok manager →
          (initializePool who dexId assetA assetB).run
              (runs genesis extrinsics) =
            (.error (.error (poolError .poolIsAlreadyInitialized)),
              runs genesis extrinsics)) := by
  have hstart : PoolsComplete genesis :=
    ⟨hreversible, fun dexId tpair h => absurd h (hgenesis dexId tpair),
      fun dexId tpair h _ => absurd h (hgenesis dexId tpair)⟩
  have halong : Along step (fun _ x => OpensAsOwner x) genesis extrinsics :=
    along_of_forall_mem howners
  have hrun : PoolsComplete (runs genesis extrinsics) :=
    runAll_invariant (fun s x hs hx => hs.step hT hx) extrinsics genesis hstart
      halong
  have hcomplete := hrun.complete dexId tpair hregistered
  refine ⟨hcomplete, fun hnative => ?_⟩
  have hnative' : BaseIsNative (runs genesis extrinsics) dexId := by
    obtain ⟨info, hinfo, hbase⟩ := hnative
    rw [← (runs_extends genesis extrinsics).dexInfos] at hinfo
    exact ⟨info, hinfo, hbase⟩
  have hpair := hrun.pairEnabled dexId tpair hregistered hnative'
  refine ⟨hpair, fun who assetA assetB manager hpool hmanage => ?_⟩
  exact initializePool_again hregistered hcomplete hpair hpool hmanage

/-- No account is registered at the sample genesis. -/
theorem unregistered_genesis (dexId : ℕ) (tpair : TradingPair ℕ) :
    ¬IsRegistered Mock.genesis (keeperOf dexId tpair) := by
  have hempty : Mock.genesis.techAccounts = fun _ => none := by
    unfold Mock.genesis
    rfl
  intro h
  rw [IsRegistered, hempty] at h
  cases h

/-- Every asset of the sample runtime converts back. -/
theorem allReversible_genesis : AllReversible Mock.genesis := by
  have hconvert : ∀ a : Mock.runtime.AssetId, Reversible a := by
    intro a techAsset h
    exact (Option.some.inj h).symm
  exact ⟨fun _ _ => hconvert _, fun _ _ => hconvert _,
    fun _ _ _ => ⟨hconvert _, hconvert _⟩⟩

/-- Bob opens a pool of the sample genesis and tries again. -/
theorem pools_stay_complete_sample :
    Complete (runs Mock.genesis (Mock.openPool Mock.dexA Mock.redPepper))
        Mock.dexA ⟨Mock.goldenTicket, Mock.redPepper⟩ ∧
      (initializePool Mock.bob.account Mock.dexA Mock.redPepper
          Mock.goldenTicket).run
          (runs Mock.genesis (Mock.openPool Mock.dexA Mock.redPepper)) =
        (.error (.error (poolError .poolIsAlreadyInitialized)),
          runs Mock.genesis (Mock.openPool Mock.dexA Mock.redPepper)) := by
  have howners : ∀ x ∈ Mock.openPool Mock.dexA Mock.redPepper,
      OpensAsOwner x := by
    intro x hx dexId assetA assetB hcall
    rcases List.mem_cons.mp hx with rfl | hx
    · cases hcall
    · rw [List.mem_singleton.mp hx]
      decide
  have hpool : IsPoolOf
      (runs Mock.genesis (Mock.openPool Mock.dexA Mock.redPepper)) Mock.dexA
      Mock.goldenTicket Mock.redPepper
      (Mock.poolOf Mock.dexA Mock.redPepper) :=
    Mock.isPoolOf (by decide +kernel) (by decide)
  obtain ⟨hcomplete, hnative⟩ := pools_stay_complete (T := Mock.runtime)
    Mock.collisionFree unregistered_genesis allReversible_genesis howners
    Mock.dexA
    ⟨Mock.goldenTicket, Mock.redPepper⟩ (by decide +kernel)
  obtain ⟨-, hagain⟩ := hnative
    ⟨⟨Mock.goldenTicket, true⟩, by decide +kernel, rfl⟩
  exact ⟨hcomplete, hagain _ _ _ (some Mock.bob.account) hpool.swap
    (by decide +kernel)⟩

/-- The sample genesis with a second DEX, whose base asset is another one. -/
def withForeignDex : Storage Mock.runtime :=
  { Mock.genesis with
    dexInfos := Function.update Mock.genesis.dexInfos 221
      (some ⟨Mock.redPepper, true⟩) }

/-- Bob opens a pool of the two assets on the second DEX. -/
def foreignPool : Storage Mock.runtime :=
  runs withForeignDex
    [(Mock.bob, .tradingPairRegister 221 Mock.goldenTicket Mock.redPepper),
      (Mock.bob, .initializePool 221 Mock.redPepper Mock.goldenTicket)]

/-- The default account opens the pool that Bob registered the pair of. -/
def ownerlessPool : Storage Mock.runtime :=
  runs Mock.genesis
    [(Mock.bob, .tradingPairRegister Mock.dexA Mock.goldenTicket
        Mock.redPepper),
      (Mock.user 0, .initializePool Mock.dexA Mock.goldenTicket
        Mock.redPepper)]

/-- The pool of the second DEX is opened for the pair of the runtime's base
asset while its account is named after the base asset of the DEX; and the
default account does not own the marker asset.  Opening such a pool again is
reported as an invalid initialisation. -/
theorem pools_left_in_between :
    (IsRegistered foreignPool
        (keeperOf 221 ⟨Mock.redPepper, Mock.goldenTicket⟩) ∧
      foreignPool.enabledSources 221 ⟨Mock.redPepper, Mock.goldenTicket⟩ =
        none ∧
      ((initializePool Mock.bob.account 221 Mock.redPepper
        Mock.goldenTicket).run foreignPool).1 =
        .error (.error (poolError .poolInitializationIsInvalid))) ∧
    IsRegistered ownerlessPool (Mock.poolOf Mock.dexA Mock.redPepper) ∧
      ¬Assets.Exists ownerlessPool (Mock.markerOf Mock.dexA Mock.redPepper) ∧
      ((initializePool Mock.bob.account Mock.dexA Mock.goldenTicket
        Mock.redPepper).run ownerlessPool).1 =
        .error (.error (poolError .poolInitializationIsInvalid)) := by
  decide +kernel

end PoolXyk
end SoraParachain

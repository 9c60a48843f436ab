import SoraParachain.Pallets.Genesis
import SoraParachain.Pallets.Prohibitions
import SoraParachain.PoolXyk.RegistryAgreement

/-!
# Who may mint, burn and move an asset

Nobody is ever granted a permission over an asset but the account that registers
it and, for a marker asset, the account of its pool.  What the genesis gave is
kept; beyond that the checks of the assets pallet pass for exactly these
accounts.
-/

namespace SoraParachain
namespace PoolXyk

variable {T : Config}

open Technical (techAccountIdToAccountId IsRegistered
  techAccountIdToAccountId_inj)
open Permissions (AssetModes SameHeld Puts)
open PermissionVectors (Holdings genesisHoldings)

/-! ## What opening a pool grants -/

/-- What opening a pool puts in, and what it stores as the record of the marker
asset. -/
structure Granted (s s' : Storage T) (who : T.AccountId)
    (techAcc : TechAccountIdOf T) (marker : T.AssetId) : Prop where
  recorded : ∃ s₁ s₂, SameHeld s s₁ ∧ s₁.assetInfos = s.assetInfos ∧
    Assets.Recorded marker who ⟨markerSymbol, markerName, 18, true⟩ s₁ s₂ ∧
      s'.assetInfos = s₂.assetInfos
  mem_held : AssetModes s → ∀ holder scope p,
    p ∈ Permissions.held s' holder scope ↔ p ∈ Permissions.held s holder scope ∨
      (p = Permissions.mint ∨ p = Permissions.burn) ∧
        scope = .limited (T.hashAssetId marker) ∧
          (who = holder ∨ techAccountIdToAccountId techAcc = holder)

theorem granted_of_run {who : T.AccountId} {dexId : T.DEXId}
    {assetA assetB : T.AssetId} {s s' : Storage T} {u : Unit}
    (h : (initializePool who dexId assetA assetB).run s = (.ok u, s')) :
    ∃ techAcc feeAcc marker,
      Initialized s s' who dexId assetA assetB techAcc feeAcc marker ∧
        Granted s s' who techAcc marker := by
  obtain ⟨techAcc, feeAcc, marker, hinit⟩ := initialized_of_run h
  rw [initializePool, Tx.run_withTransaction_eq_ok] at h
  obtain ⟨_, _, hmanage, h⟩ := Tx.run_bind_eq_ok.mp h
  obtain ⟨-, rfl⟩ := Tx.run_reads_eq_ok.mp hmanage
  obtain ⟨⟨tpair, techAcc', feeAcc', mark⟩, s₁, hunchecked, h⟩ :=
    Tx.run_bind_eq_ok.mp h
  obtain ⟨hpool, -, hmark, -, hs₁⟩ := run_initializePoolUnchecked_ok hunchecked
  cases hpool.unique hinit.pool
  cases hinit.isMarker.unique ⟨mark, hmark, rfl⟩
  obtain ⟨_, s₂, hregister, h⟩ := Tx.run_bind_eq_ok.mp h
  obtain ⟨_, s₃, hmint, h⟩ := Tx.run_bind_eq_ok.mp h
  obtain ⟨_, s₄, hburn, h⟩ := Tx.run_bind_eq_ok.mp h
  obtain ⟨_, s₅, hproperties, h⟩ := Tx.run_bind_eq_ok.mp h
  cases h
  obtain ⟨_, s₆, hsource, hproperties⟩ := Tx.run_bind_eq_ok.mp hproperties
  obtain ⟨set, -, rfl⟩ := TradingPair.run_enableSourceForTradingPair_ok hsource
  cases hproperties
  have hrecorded := Assets.recorded_of_registerAssetId hregister
  have hgrows := ((Permissions.keeps_grantPermissionWithScope _ _ _ _).of_run
    hmint).trans
      ((Permissions.keeps_grantPermissionWithScope _ _ _ _).of_run hburn)
  have hputsMint := Permissions.puts_of_grantPermissionWithScope hmint
  have hputsBurn := Permissions.puts_of_grantPermissionWithScope hburn
  have hsame : SameHeld s s₁ := by
    rw [hs₁]
    exact ⟨rfl, rfl⟩
  refine ⟨techAcc, feeAcc, _, hinit, ⟨s₁, s₂, hsame, ?_, hrecorded, ?_⟩, ?_⟩
  · rw [hs₁]
    rfl
  · change s₄.assetInfos = s₂.assetInfos
    rw [hgrows.frame]
  · intro hmodes holder scope p
    change p ∈ Permissions.held s₄ holder scope ↔ _
    rw [hputsBurn.mem_held, hputsMint.mem_held,
      hrecorded.mem_held (hmodes.of_modes_eq hsame.2), hsame.held,
      eq_comm (a := who), eq_comm (b := holder)]
    tauto

/-! ## Who controls an asset -/

/-- The account keeps the liquidity of an open pool that the asset marks. -/
def KeepsMarker (s : Storage T) (who : T.AccountId) (a : T.AssetId) : Prop :=
  ∃ dexId tpair, IsOpen s dexId tpair ∧ IsMarkerOf (keeperOf dexId tpair) a ∧
    techAccountIdToAccountId (keeperOf dexId tpair) = who

/-- The account registered the asset, or the asset marks its pool. -/
def Controls (s : Storage T) (who : T.AccountId) (a : T.AssetId) : Prop :=
  s.assetOwners a = who ∨ KeepsMarker s who a

/-- Whoever controls an asset holds the permissions to mint and to burn it, and
nobody holds anything else that the genesis did not give. -/
structure Authority (H : Holdings T) (s : Storage T) : Prop where
  modes : AssetModes s
  mem_held : ∀ who, who ≠ T.defaultAccountId → ∀ scope p,
    p ∈ Permissions.held s who scope ↔ p ∈ H who scope ∨
      (p = Permissions.mint ∨ p = Permissions.burn) ∧
        ∃ a, scope = .limited (T.hashAssetId a) ∧ Controls s who a

section

variable {H : Holdings T} {s s' : Storage T}

/-- Authority is kept when exactly those who come to control an asset are given
the permissions over it. -/
theorem Authority.grow (h : Authority H s) (gains : T.AccountId → T.AssetId → Prop)
    (hmodes : s'.modes = s.modes)
    (hheld : ∀ who scope p, p ∈ Permissions.held s' who scope ↔
      p ∈ Permissions.held s who scope ∨
        (p = Permissions.mint ∨ p = Permissions.burn) ∧
          ∃ a, scope = .limited (T.hashAssetId a) ∧ gains who a)
    (hcontrols : ∀ who, who ≠ T.defaultAccountId → ∀ a,
      Controls s' who a ↔ Controls s who a ∨ gains who a) :
    Authority H s' where
  modes := h.modes.of_modes_eq hmodes
  mem_held who hwho scope p := by
    have hsplit : (∃ a, scope = .limited (T.hashAssetId a) ∧
        Controls s' who a) ↔
        (∃ a, scope = .limited (T.hashAssetId a) ∧ Controls s who a) ∨
          ∃ a, scope = .limited (T.hashAssetId a) ∧ gains who a := by
      rw [← exists_or]
      refine exists_congr fun a => ?_
      rw [hcontrols who hwho, and_or_left]
    rw [hheld, h.mem_held who hwho, hsplit, and_or_left, or_assoc]

/-- Authority is kept when nobody gains anything. -/
theorem Authority.of_same (h : Authority H s) (hheld : SameHeld s s')
    (hcontrols : ∀ who a, Controls s' who a ↔ Controls s who a) :
    Authority H s' := by
  refine h.grow (fun _ _ => False) hheld.2 ?_ ?_
  · intro who scope p
    rw [hheld.held]
    simp
  · intro who _ a
    rw [hcontrols, or_false]

theorem keepsMarker_congr (hopen : ∀ dexId tpair,
    IsOpen s' dexId tpair ↔ IsOpen s dexId tpair) (who : T.AccountId)
    (a : T.AssetId) : KeepsMarker s' who a ↔ KeepsMarker s who a := by
  rw [KeepsMarker, KeepsMarker]
  refine exists_congr fun dexId => exists_congr fun tpair => ?_
  rw [hopen]

/-- Entering an owner gives the asset to that account; nobody owned it. -/
theorem owner_update_iff {assetId a : T.AssetId} {owner who : T.AccountId}
    (hfresh : ¬Assets.Exists s assetId)
    (howners : s'.assetOwners = Function.update s.assetOwners assetId owner)
    (hwho : who ≠ T.defaultAccountId) :
    s'.assetOwners a = who ↔ s.assetOwners a = who ∨ owner = who ∧ a = assetId := by
  rw [howners]
  by_cases ha : a = assetId
  · subst ha
    have hnot : s.assetOwners a ≠ who := by
      rw [not_not.mp hfresh]
      exact hwho.symm
    rw [Function.update_self]
    tauto
  · rw [Function.update_of_ne ha]
    tauto

theorem Authority.of_registered (h : Authority H s) {assetId : T.AssetId}
    {owner : T.AccountId} {initialSupply : ℕ} {isMintable : Bool}
    {info : AssetInfo}
    (hasset : Assets.Registered assetId owner initialSupply isMintable s s')
    (hrecorded : Assets.Recorded assetId owner info s s') : Authority H s' := by
  refine h.grow (fun who a => owner = who ∧ a = assetId) hasset.modes ?_ ?_
  · intro who scope p
    rw [hrecorded.mem_held h.modes, eq_comm (a := who)]
    have hscope : (∃ a, scope = .limited (T.hashAssetId a) ∧ owner = who ∧
        a = assetId) ↔ owner = who ∧
          scope = .limited (T.hashAssetId assetId) := by
      constructor
      · rintro ⟨a, hscope, howner, rfl⟩
        exact ⟨howner, hscope⟩
      · rintro ⟨howner, hscope⟩
        exact ⟨assetId, hscope, howner, rfl⟩
    rw [hscope]
    tauto
  · intro who hwho a
    have hopen : ∀ dexId tpair, IsOpen s' dexId tpair ↔ IsOpen s dexId tpair := by
      intro dexId tpair
      rw [IsOpen, IsRegistered, hasset.frame, IsOpen, IsRegistered]
    rw [Controls, owner_update_iff hasset.fresh hasset.assetOwners hwho,
      keepsMarker_congr hopen, Controls]
    tauto

/-- A pool account keeps the marker asset of a new pool when it did so before or
is the account of that pool. -/
theorem keepsMarker_of_initialized (hT : T.CollisionFree) {opener : T.AccountId}
    {dexId : T.DEXId} {assetA assetB marker : T.AssetId}
    {techAcc feeAcc : TechAccountIdOf T}
    (hinit : Initialized s s' opener dexId assetA assetB techAcc feeAcc marker)
    (who : T.AccountId) (a : T.AssetId) :
    KeepsMarker s' who a ↔ KeepsMarker s who a ∨
      techAccountIdToAccountId techAcc = who ∧ a = marker := by
  constructor
  · rintro ⟨dexId', tpair, hopen, hmarker, hwho⟩
    rcases RegistryStep.registered_of_initialized hT hinit hopen with hold | heq
    · exact Or.inl ⟨dexId', tpair, hold, hmarker, hwho⟩
    · have hmarker' : IsMarkerOf techAcc a := heq ▸ hmarker
      have hwho' : techAccountIdToAccountId techAcc = who := heq ▸ hwho
      exact Or.inr ⟨hwho', hmarker'.unique hinit.isMarker⟩
  · rintro (⟨dexId', tpair, hopen, hmarker, hwho⟩ | ⟨hwho, rfl⟩)
    · exact ⟨dexId', tpair,
        (Extends.of_initialized hinit).registered _ hopen, hmarker, hwho⟩
    · obtain ⟨tpair, rfl⟩ := hinit.pool.keeper
      exact ⟨dexId, tpair, hinit.isOpen, hinit.isMarker, hwho⟩

theorem Authority.of_initialized (hT : T.CollisionFree) (h : Authority H s)
    {opener : T.AccountId} {dexId : T.DEXId} {assetA assetB marker : T.AssetId}
    {techAcc feeAcc : TechAccountIdOf T}
    (hinit : Initialized s s' opener dexId assetA assetB techAcc feeAcc marker)
    (hgranted : Granted s s' opener techAcc marker) : Authority H s' := by
  refine h.grow (fun who a =>
    (opener = who ∨ techAccountIdToAccountId techAcc = who) ∧ a = marker)
    hinit.modes ?_ ?_
  · intro who scope p
    rw [hgranted.mem_held h.modes]
    have hscope : (∃ a, scope = .limited (T.hashAssetId a) ∧
        (opener = who ∨ techAccountIdToAccountId techAcc = who) ∧
          a = marker) ↔ scope = .limited (T.hashAssetId marker) ∧
            (opener = who ∨ techAccountIdToAccountId techAcc = who) := by
      constructor
      · rintro ⟨a, hscope, hgains, rfl⟩
        exact ⟨hscope, hgains⟩
      · rintro ⟨hscope, hgains⟩
        exact ⟨marker, hscope, hgains, rfl⟩
    rw [hscope]
  · intro who hwho a
    rw [Controls, owner_update_iff hinit.fresh hinit.assetOwners hwho,
      keepsMarker_of_initialized hT hinit, Controls]
    tauto

end

/-! ## Any step -/

theorem Authority.step (hT : T.CollisionFree) {H : Holdings T} {s : Storage T}
    {x : Extrinsic T} (h : Authority H s) : Authority H (step s x) := by
  cases step_call s x with
  | settled hsettled =>
      have hframe := hsettled.frame
      refine h.of_same ⟨by rw [hframe], by rw [hframe]⟩ fun who a => ?_
      rw [Controls, Controls, KeepsMarker, KeepsMarker, hframe]
      rfl
  | asset symbol name initialSupply isMintable hrun =>
      exact h.of_registered (Assets.registered_of_register hrun)
        (Assets.recorded_of_register hrun)
  | pair dexId baseAssetId targetAssetId hrun =>
      obtain ⟨-, -, hstep⟩ := TradingPair.run_register_ok hrun
      refine h.of_same ⟨by rw [hstep], by rw [hstep]⟩ fun who a => ?_
      rw [Controls, Controls, KeepsMarker, KeepsMarker, hstep]
      rfl
  | pool dexId assetA assetB hrun =>
      obtain ⟨techAcc, feeAcc, marker, hinit, hgranted⟩ := granted_of_run hrun
      exact h.of_initialized hT hinit hgranted

/-! ## The genesis -/

/-- The genesis registers no pool. -/
def ListsNoPool (g : GenesisConfig T) : Prop :=
  ∀ dexId tpair, g.Leaves (techAccountIdToAccountId (keeperOf dexId tpair))

/-- The holders that the genesis lists are all that hold anything before an
asset is registered. -/
theorem authority_of_permissions {g : PermissionsGenesis T}
    {ledger : T.currency.Ledger} {system : T.system.State} {s : Storage T}
    {u : Unit}
    (h : (PermissionVectors.build g).run (blank ledger system) = (.ok u, s)) :
    Authority (genesisHoldings g) s where
  modes := GenesisConfig.assetModes_build h
  mem_held who hwho scope p := by
    have hframe := (GenesisConfig.sameButPermissions_build g).of_run h
    have hvacant : PermissionVectors.Vacant (blank ledger system) :=
      ⟨fun _ _ => rfl, fun _ => rfl, fun _ => rfl⟩
    have hnone : ∀ a, ¬Controls s who a := by
      rintro a (howner | ⟨dexId, tpair, hopen, -⟩)
      · rw [hframe] at howner
        exact hwho howner.symm
      · rw [IsOpen, IsRegistered, hframe] at hopen
        cases hopen
    rw [(PermissionVectors.reflects_build hvacant h).mem_held]
    constructor
    · exact Or.inl
    · rintro (hp | ⟨-, a, -, ha⟩)
      · exact hp
      · exact absurd ha (hnone a)

/-- A chain whose genesis registers no pool starts with the authority that its
genesis gives. -/
theorem authority_of_starts {g : GenesisConfig T} {s : Storage T}
    (hstarts : g.Starts s) (hpools : ListsNoPool g) :
    Authority (genesisHoldings g.permissions) s := by
  obtain ⟨ledger, system, s₁, s₂, hpermissions, hassets, hsame, haccounts⟩ :=
    hstarts.parts
  have hframe :=
    (GenesisConfig.sameButPermissions_build g.permissions).of_run hpermissions
  have hnone₁ : s₁.techAccounts = fun _ => none := by
    rw [hframe]
    rfl
  -- registering the assets opens no pool
  have hbuilt : Authority (genesisHoldings g.permissions) s₂ ∧
      s₂.techAccounts = fun _ => none := by
    refine Tx.forM_invariant (I := fun s =>
        Authority (genesisHoldings g.permissions) s ∧
          s.techAccounts = fun _ => none)
      (fun asset _ s s' hrun hs => ?_) hassets
      ⟨authority_of_permissions hpermissions, hnone₁⟩
    have hregister := Tx.run_orFail_eq_ok.mp hrun
    have hasset := Assets.registered_of_registerAssetId hregister
    refine ⟨hs.1.of_registered hasset
      (Assets.recorded_of_registerAssetId hregister), ?_⟩
    rw [hasset.frame]
    exact hs.2
  obtain ⟨hauthority, hnone₂⟩ := hbuilt
  have hclosed : ∀ dexId tpair, IsOpen s dexId tpair ↔ IsOpen s₂ dexId tpair := by
    intro dexId tpair
    rw [IsOpen, IsRegistered, haccounts _ (hpools dexId tpair), IsOpen,
      IsRegistered]
  refine hauthority.of_same ⟨hsame.permissions, hsame.modes⟩ fun who a => ?_
  rw [Controls, Controls, hsame.assetOwners, keepsMarker_congr hclosed]

/-! ## Any run -/

/-- The genesis gave the account a permission for an asset or for all. -/
def GivenAtGenesis (g : GenesisConfig T) (who : T.AccountId) (p : PermissionId)
    (a : T.AssetId) : Prop :=
  p ∈ genesisHoldings g.permissions who (.limited (T.hashAssetId a)) ∨
    p ∈ genesisHoldings g.permissions who .unlimited

theorem Authority.permitted_iff {g : GenesisConfig T} {s : Storage T}
    (h : Authority (genesisHoldings g.permissions) s)
    (hhash : Function.Injective T.hashAssetId) {who : T.AccountId}
    (hwho : who ≠ T.defaultAccountId) (a : T.AssetId) {p : PermissionId}
    (hp : p = Permissions.mint ∨ p = Permissions.burn) :
    Assets.Permitted s who p a ↔ GivenAtGenesis g who p a ∨ Controls s who a := by
  have hmode : s.modes p = some .permit := by
    rcases hp with rfl | rfl
    · exact h.modes.mint
    · exact h.modes.burn
  have hscope : (∃ b, Scope.limited (T.hashAssetId a) =
      .limited (T.hashAssetId b) ∧ Controls s who b) ↔ Controls s who a := by
    constructor
    · rintro ⟨b, heq, hb⟩
      rw [hhash (Scope.limited.inj heq)]
      exact hb
    · exact fun ha => ⟨a, rfl, ha⟩
  rw [Assets.permitted_permit hmode, h.mem_held who hwho, h.mem_held who hwho,
    hscope, GivenAtGenesis]
  simp only [reduceCtorEq, false_and, exists_false, and_false, or_false, hp,
    true_and]
  tauto

/-- In every state that a chain reaches from its genesis, if that registers no
pool, an account passes the check to mint or to burn an asset exactly when the
genesis gave it the permission, for the asset or for all, or it registered the
asset, or the asset marks the pool whose liquidity it keeps; and it may move the
asset unless the genesis forbade it to move any. -/
theorem authority_over_assets (hT : T.CollisionFree)
    (hhash : Function.Injective T.hashAssetId) {g : GenesisConfig T}
    {genesis : Storage T} (hstarts : g.Starts genesis) (hpools : ListsNoPool g)
    (extrinsics : List (Extrinsic T)) {who : T.AccountId}
    (hwho : who ≠ T.defaultAccountId) (a : T.AssetId) :
    (Assets.Permitted (runs genesis extrinsics) who Permissions.mint a ↔
      GivenAtGenesis g who Permissions.mint a ∨
        Controls (runs genesis extrinsics) who a) ∧
    (Assets.Permitted (runs genesis extrinsics) who Permissions.burn a ↔
      GivenAtGenesis g who Permissions.burn a ∨
        Controls (runs genesis extrinsics) who a) ∧
    (Assets.Permitted (runs genesis extrinsics) who Permissions.transfer a ↔
      Permissions.transfer ∉ genesisHoldings g.permissions who .unlimited) := by
  have hall : Along step (fun _ _ => True) genesis extrinsics :=
    along_of_forall_mem fun _ _ => trivial
  have hrun : Authority (genesisHoldings g.permissions)
      (runs genesis extrinsics) :=
    runAll_invariant (fun _ _ hs _ => hs.step hT) extrinsics genesis
      (authority_of_starts hstarts hpools) hall
  refine ⟨hrun.permitted_iff hhash hwho a (Or.inl rfl),
    hrun.permitted_iff hhash hwho a (Or.inr rfl), ?_⟩
  rw [Assets.permitted_forbid hrun.modes.transfer, hrun.mem_held who hwho]
  simp only [reduceCtorEq, false_and, exists_false, and_false, or_false]

/-- Alice owns the assets, Bob may mint all of them and Carol move none. -/
def pepperConfig : GenesisConfig Mock.runtime where
  permissions :=
    { initialPermissionOwners :=
        [(Permissions.mint, .unlimited, [Mock.bob.account])]
      initialPermissions :=
        [(Mock.bob.account, .unlimited, [Permissions.mint]),
          (Mock.carol.account, .unlimited, [Permissions.transfer])] }
  endowedAssets :=
    [⟨Mock.goldenTicket, Mock.alice.account, [71, 84], [71, 84], 18, 0, true⟩,
      ⟨Mock.redPepper, Mock.alice.account, [82, 80], [82, 80], 18, 5, true⟩]
  tradingPairs := [(Mock.dexA, ⟨Mock.goldenTicket, Mock.redPepper⟩)]
  dexList := [(Mock.dexA, ⟨Mock.goldenTicket, true⟩)]
  accountIdsToTechAccountIds := []

@[irreducible] def pepperChain : Storage Mock.runtime :=
  (pepperConfig.build.run (blank Mock.initialLedger fun _ => 0)).2

theorem starts_pepperChain : pepperConfig.Starts pepperChain := by
  have hok : (pepperConfig.build.run
      (blank Mock.initialLedger fun _ => 0)).1 = .ok () := by
    decide +kernel
  have hrun : ∀ result : Except Failure Unit × Storage Mock.runtime,
      result.1 = .ok () → result = (.ok (), result.2) :=
    fun result h => Prod.ext h rfl
  rw [pepperChain]
  exact ⟨Mock.initialLedger, fun _ => 0, hrun _ hok⟩

/-- Bob opens a pool and may then mint its marker asset: the genesis let him
mint everything, and he registered it. -/
theorem authority_over_assets_sample :
    Assets.Permitted (runs pepperChain
        [(Mock.bob, .initializePool Mock.dexA Mock.goldenTicket Mock.redPepper)])
      Mock.bob.account Permissions.mint
      (Mock.markerOf Mock.dexA Mock.redPepper) ↔
    GivenAtGenesis pepperConfig Mock.bob.account Permissions.mint
        (Mock.markerOf Mock.dexA Mock.redPepper) ∨
      Controls (runs pepperChain
        [(Mock.bob, .initializePool Mock.dexA Mock.goldenTicket Mock.redPepper)])
        Mock.bob.account (Mock.markerOf Mock.dexA Mock.redPepper) := by
  have hhash : Function.Injective Mock.runtime.hashAssetId := by
    intro a b h
    exact Nat.eq_of_mul_eq_mul_left Nat.two_pos h
  have hpools : ListsNoPool pepperConfig := by
    intro dexId tpair entry hentry
    cases hentry
  exact (authority_over_assets Mock.collisionFree hhash starts_pepperChain hpools
    _ (by decide) _).1

end PoolXyk
end SoraParachain

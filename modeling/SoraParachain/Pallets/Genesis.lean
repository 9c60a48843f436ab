import SoraParachain.Pallets.Grants
import SoraParachain.Pallets.PermissionRuns
import SoraParachain.Pallets.Technical

/-!
# The genesis of a chain

Every pallet fills its storage from its part of the configuration, one pallet
after the other: the permissions, the assets, the trading pairs, the DEXes and
the technical accounts.  What cannot be built stops the genesis.
-/

namespace SoraParachain

variable {T : Config}

open Permissions (AssetModes)
open PermissionVectors (Holdings genesisHoldings)

/-- An asset to start with. -/
structure EndowedAsset (T : Config) where
  assetId : T.AssetId
  accountId : T.AccountId
  symbol : List UInt8
  name : List UInt8
  precision : ℕ
  initialSupply : ℕ
  isMintable : Bool

/-- The configuration of the pallets that keep registries. -/
structure GenesisConfig (T : Config) where
  permissions : PermissionsGenesis T
  endowedAssets : List (EndowedAsset T)
  tradingPairs : List (T.DEXId × TradingPair T.AssetId)
  dexList : List (T.DEXId × DEXInfo T.AssetId)
  accountIdsToTechAccountIds : List (T.AccountId × TechAccountIdOf T)

/-- A storage in which no pallet has stored anything yet. -/
def blank (ledger : T.currency.Ledger) (system : T.system.State) :
    Storage T where
  ledger := ledger
  system := system
  permissionOwners _ _ := []
  modes _ := none
  permissions _ := ∅
  assetOwners _ := T.defaultAccountId
  assetInfos _ := .default
  assetRecords _ := none
  techAccounts _ := none
  dexInfos _ := none
  enabledSources _ _ := none
  reserves _ _ := (0, 0)
  properties _ _ := none
  markerTokensIndex := ∅

/-- `Failed to register asset.` -/
def EndowedAsset.build (asset : EndowedAsset T) : Exec T Unit :=
  Tx.orFail
    (Assets.registerAssetId asset.accountId asset.assetId asset.symbol
      asset.name asset.precision asset.initialSupply asset.isMintable)
    .panic

/-- A trading pair starts without sources. -/
def enterTradingPair (entry : T.DEXId × TradingPair T.AssetId)
    (s : Storage T) : Storage T :=
  { s with enabledSources := insert₂ s.enabledSources entry.1 entry.2 (some ∅) }

def enterDex (entry : T.DEXId × DEXInfo T.AssetId) (s : Storage T) :
    Storage T :=
  { s with dexInfos := Function.update s.dexInfos entry.1 (some entry.2) }

/-- The account need not be the one of the technical account. -/
def enterTechAccount (entry : T.AccountId × TechAccountIdOf T)
    (s : Storage T) : Storage T :=
  { s with
    system := T.system.incProviders entry.1 s.system
    techAccounts := Function.update s.techAccounts entry.1 (some entry.2) }

namespace GenesisConfig

/-- The pallets in the order of the runtime. -/
def build (g : GenesisConfig T) : Exec T Unit := do
  PermissionVectors.build g.permissions
  g.endowedAssets.forM EndowedAsset.build
  g.tradingPairs.forM fun entry => Tx.modify (enterTradingPair entry)
  g.dexList.forM fun entry => Tx.modify (enterDex entry)
  g.accountIdsToTechAccountIds.forM fun entry =>
    Tx.modify (enterTechAccount entry)

/-- The chain starts in a storage. -/
def Starts (g : GenesisConfig T) (s : Storage T) : Prop :=
  ∃ ledger system, g.build.run (blank ledger system) = (.ok (), s)

/-! ## What the parts of the genesis leave -/

/-- The part of the permissions writes nothing else. -/
def SameButPermissions (s s' : Storage T) : Prop :=
  s' =
    { s with
      system := s'.system
      permissionOwners := s'.permissionOwners
      modes := s'.modes
      permissions := s'.permissions }

instance : IsPreorder (Storage T) SameButPermissions where
  refl _ := rfl
  trans a b c hab hbc := by
    rw [SameButPermissions] at hab hbc ⊢
    rw [hbc, hab]

theorem sameButPermissions_referOrPanic (who : T.AccountId) :
    Tx.Keeps SameButPermissions
      (PermissionVectors.referOrPanic who : Exec T Unit) :=
  PermissionVectors.keeps_referOrPanic (fun _ _ => rfl) who

theorem sameButPermissions_build (g : PermissionsGenesis T) :
    Tx.Keeps SameButPermissions
      (PermissionVectors.build g : Exec T Unit) := by
  refine Tx.keeps_bind (Tx.keeps_forM fun entry _ => ?_) fun _ => ?_
  · exact Tx.keeps_bind
      (Tx.keeps_forM fun who _ => sameButPermissions_referOrPanic who)
      fun _ => Tx.keeps_modify fun _ => rfl
  · refine Tx.keeps_bind (Tx.keeps_forM fun _ _ =>
      Tx.keeps_modify fun _ => rfl) fun _ => ?_
    exact Tx.keeps_forM fun entry _ =>
      Tx.keeps_bind (sameButPermissions_referOrPanic entry.1) fun _ =>
        Tx.keeps_modify fun _ => rfl

/-- The modes that the assets rely on are among those of the genesis. -/
theorem assetModes_build {g : PermissionsGenesis T} {s s' : Storage T} {u : Unit}
    (h : (PermissionVectors.build g).run s = (.ok u, s')) : AssetModes s' := by
  obtain ⟨_, s₁, -, h⟩ := Tx.run_bind_eq_ok.mp h
  obtain ⟨_, s₂, hmodes, hheld⟩ := Tx.run_bind_eq_ok.mp h
  rw [Tx.run_forM_modify] at hmodes
  cases hmodes
  refine Tx.forM_invariant (fun entry _ s s' hentry hs => ?_) hheld
    ⟨rfl, rfl, rfl⟩
  obtain ⟨_, s₃, hrefer, hset⟩ := Tx.run_bind_eq_ok.mp hentry
  obtain ⟨st, -, rfl⟩ := PermissionVectors.run_referOrPanic_ok.mp hrefer
  cases hset
  exact hs.of_modes_eq rfl

/-- The registries of assets and holders are the same. -/
structure SameAssets (s s' : Storage T) : Prop where
  permissions : s'.permissions = s.permissions
  modes : s'.modes = s.modes
  assetOwners : s'.assetOwners = s.assetOwners
  assetInfos : s'.assetInfos = s.assetInfos

instance : IsPreorder (Storage T) SameAssets where
  refl _ := ⟨rfl, rfl, rfl, rfl⟩
  trans _ _ _ h h' :=
    ⟨h'.permissions.trans h.permissions, h'.modes.trans h.modes,
      h'.assetOwners.trans h.assetOwners, h'.assetInfos.trans h.assetInfos⟩

/-- Nothing is registered for the account unless it was before. -/
def SameAccount (who : T.AccountId) (s s' : Storage T) : Prop :=
  s'.techAccounts who = s.techAccounts who

instance (who : T.AccountId) : IsPreorder (Storage T) (SameAccount who) where
  refl _ := rfl
  trans _ _ _ hab hbc := hbc.trans hab

/-- The genesis lists nothing for the account. -/
def Leaves (g : GenesisConfig T) (who : T.AccountId) : Prop :=
  ∀ entry ∈ g.accountIdsToTechAccountIds, entry.1 ≠ who

/-- A chain starts with what its permissions and then its assets leave; the
other parts register pairs, DEXes and technical accounts. -/
theorem Starts.parts {g : GenesisConfig T} {s : Storage T} (h : g.Starts s) :
    ∃ ledger system s₁ s₂,
      (PermissionVectors.build g.permissions).run (blank ledger system) =
          (.ok (), s₁) ∧
        (g.endowedAssets.forM EndowedAsset.build).run s₁ = (.ok (), s₂) ∧
        SameAssets s₂ s ∧
        ∀ who, g.Leaves who → s.techAccounts who = s₂.techAccounts who := by
  obtain ⟨ledger, system, h⟩ := h
  obtain ⟨_, s₁, hpermissions, h⟩ := Tx.run_bind_eq_ok.mp h
  obtain ⟨_, s₂, hassets, h⟩ := Tx.run_bind_eq_ok.mp h
  refine ⟨ledger, system, s₁, s₂, hpermissions, hassets, ?_, fun who hwho => ?_⟩
  · refine Tx.Keeps.of_run ?_ h
    refine Tx.keeps_bind (Tx.keeps_forM fun _ _ =>
      Tx.keeps_modify fun _ => ⟨rfl, rfl, rfl, rfl⟩) fun _ => ?_
    refine Tx.keeps_bind (Tx.keeps_forM fun _ _ =>
      Tx.keeps_modify fun _ => ⟨rfl, rfl, rfl, rfl⟩) fun _ => ?_
    exact Tx.keeps_forM fun _ _ =>
      Tx.keeps_modify fun _ => ⟨rfl, rfl, rfl, rfl⟩
  · refine Tx.Keeps.of_run (R := SameAccount who) ?_ h
    refine Tx.keeps_bind (Tx.keeps_forM fun _ _ =>
      Tx.keeps_modify fun _ => rfl) fun _ => ?_
    refine Tx.keeps_bind (Tx.keeps_forM fun _ _ =>
      Tx.keeps_modify fun _ => rfl) fun _ => ?_
    exact Tx.keeps_forM fun entry hentry => Tx.keeps_modify fun _ =>
      Function.update_of_ne (hwho entry hentry).symm _ _

end GenesisConfig
end SoraParachain

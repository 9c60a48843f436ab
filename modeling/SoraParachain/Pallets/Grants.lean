import SoraParachain.Pallets.Assets

/-!
# What grants put in

A successful grant puts one permission in the set of one account, in one scope,
and nothing else; an assignment does so when holding the permission permits.
Registering an asset assigns three permissions, of which the one to transfer is
put in nowhere because holding it forbids.
-/

namespace SoraParachain

variable {T : Config}

namespace Permissions

/-- Everybody holds the same. -/
def SameHeld (s s' : Storage T) : Prop :=
  s'.permissions = s.permissions ∧ s'.modes = s.modes

instance : IsPreorder (Storage T) SameHeld where
  refl _ := ⟨rfl, rfl⟩
  trans _ _ _ hab hbc := ⟨hbc.1.trans hab.1, hbc.2.trans hab.2⟩

section

variable {s s' : Storage T}

theorem SameHeld.held (h : SameHeld s s') (who : T.AccountId) (scope : Scope) :
    held s' who scope = held s who scope := by
  rw [Permissions.held, h.1, Permissions.held]

theorem sameHeld_incConsumers (who : T.AccountId) (e : DispatchError) :
    Tx.Keeps SameHeld (incConsumers who e : Exec T Unit) := by
  refine Tx.keeps_bind Tx.keeps_get fun _ => ?_
  refine Tx.keeps_bind (Tx.keeps_liftM _) fun st => ?_
  exact Tx.keeps_modify fun s => ⟨rfl, rfl⟩

theorem sameHeld_referFirst (accountId : T.AccountId) :
    Tx.Keeps SameHeld (referFirst accountId : Exec T Unit) := by
  refine Tx.keeps_bind Tx.keeps_get fun s => ?_
  split_ifs
  · exact sameHeld_incConsumers _ _
  · exact Tx.keeps_pure _

theorem sameHeld_makeOwner (owner : T.AccountId) (p : PermissionId)
    (scope : Scope) :
    Tx.Keeps SameHeld (makeOwner owner p scope : Exec T Bool) := by
  refine Tx.keeps_bind Tx.keeps_get fun s => ?_
  split_ifs
  · exact Tx.keeps_pure _
  · exact Tx.keeps_bind (Tx.keeps_modify fun s => ⟨rfl, rfl⟩) fun _ =>
      Tx.keeps_pure _

/-- The later storage holds what the earlier one does and one permission of one
account more. -/
structure Puts (holderId : T.AccountId) (scope : Scope) (p : PermissionId)
    (s s' : Storage T) : Prop where
  modes : s'.modes = s.modes
  mem_held : ∀ who scope' q, q ∈ held s' who scope' ↔
    q ∈ held s who scope' ∨ who = holderId ∧ scope' = scope ∧ q = p

theorem puts_insertPermission (holderId : T.AccountId) (scope : Scope)
    (p : PermissionId) (s : Storage T) :
    Puts holderId scope p s (insertPermission holderId scope p s) where
  modes := rfl
  mem_held who scope' q := by
    rw [held_insertPermission]
    split_ifs with h
    · obtain ⟨rfl, rfl⟩ := h
      rw [mem_insertSorted, or_comm]
      simp
    · constructor
      · exact Or.inl
      · rintro (hq | ⟨hwho, hscope, -⟩)
        · exact hq
        · exact absurd ⟨hwho, hscope⟩ h

theorem SameHeld.puts {s'' : Storage T} {holderId : T.AccountId} {scope : Scope}
    {p : PermissionId} (h : SameHeld s s') (h' : Puts holderId scope p s' s'') :
    Puts holderId scope p s s'' where
  modes := h'.modes.trans h.2
  mem_held who scope' q := by
    rw [h'.mem_held, h.held]

/-- A successful grant puts in what it grants. -/
theorem puts_of_grantPermissionWithScope {who accountId : T.AccountId}
    {p : PermissionId} {scope : Scope} {u : Unit}
    (h : (grantPermissionWithScope who accountId p scope).run s =
      (.ok u, s')) :
    Puts accountId scope p s s' := by
  rw [grantPermissionWithScope, Tx.run_bind_of_ok (Tx.run_get s)] at h
  dsimp only at h
  split_ifs at h
  · obtain ⟨_, s₁, hrefer, h⟩ := Tx.run_bind_eq_ok.mp h
    cases h
    exact ((sameHeld_referFirst _).of_run hrefer).puts
      (puts_insertPermission _ _ _ _)
  · simp at h
  · simp at h

/-- A successful assignment puts the permission in when holding it permits. -/
theorem held_of_assignPermission {owner holderId : T.AccountId}
    {p : PermissionId} {scope : Scope} {u : Unit}
    (h : (assignPermission owner holderId p scope).run s = (.ok u, s')) :
    ((s.modes p).getD .permit = .permit ∧ Puts holderId scope p s s') ∨
      ((s.modes p).getD .permit ≠ .permit ∧ SameHeld s s') := by
  obtain ⟨_, _, hmode, h⟩ := Tx.run_bind_eq_ok.mp h
  obtain ⟨-, rfl⟩ := Tx.run_reads_eq_ok.mp hmode
  obtain ⟨_, s₁, hinc, h⟩ := Tx.run_bind_eq_ok.mp h
  obtain ⟨_, s₂, howner, h⟩ := Tx.run_bind_eq_ok.mp h
  obtain ⟨_, s₃, hgrant, h⟩ := Tx.run_bind_eq_ok.mp h
  obtain ⟨-, rfl⟩ := Tx.run_liftM_eq_ok.mp h
  have hsame : SameHeld s s₂ :=
    trans_of SameHeld ((sameHeld_incConsumers _ _).of_run hinc)
      ((sameHeld_makeOwner _ _ _).of_run howner)
  rw [grantPermitted, Tx.run_bind_of_ok (Tx.run_get s₂), hsame.2] at hgrant
  split_ifs at hgrant with hpermit
  · obtain ⟨_, s₄, hrefer, hgrant⟩ := Tx.run_bind_eq_ok.mp hgrant
    rw [Tx.run_bind_of_ok (Tx.run_get s₄)] at hgrant
    obtain ⟨_, s₅, hinsert, hgrant⟩ := Tx.run_bind_eq_ok.mp hgrant
    cases hinsert
    cases hgrant
    have hsame' : SameHeld s s₄ :=
      trans_of SameHeld hsame ((sameHeld_referFirst _).of_run hrefer)
    exact Or.inl ⟨hpermit, hsame'.puts (puts_insertPermission _ _ _ _)⟩
  · cases hgrant
    exact Or.inr ⟨hpermit, hsame⟩

end

/-- The modes that the assets rely on: transfers are forbidden to those who hold
the permission, minting and burning are permitted to them. -/
structure AssetModes (s : Storage T) : Prop where
  transfer : s.modes Permissions.transfer = some .forbid
  mint : s.modes Permissions.mint = some .permit
  burn : s.modes Permissions.burn = some .permit

theorem AssetModes.of_modes_eq {s s' : Storage T} (h : AssetModes s)
    (hmodes : s'.modes = s.modes) : AssetModes s' := by
  constructor
  · rw [hmodes, h.transfer]
  · rw [hmodes, h.mint]
  · rw [hmodes, h.burn]

end Permissions

namespace Assets

open Permissions (AssetModes SameHeld Puts held held_of_assignPermission)

/-- What the registration of an asset puts in, and what it stores as its
record. -/
structure Recorded (assetId : T.AssetId) (owner : T.AccountId)
    (info : AssetInfo) (s s' : Storage T) : Prop where
  symbol : isSymbolValid info.symbol = true
  name : isNameValid info.name = true
  precision : info.precision ≤ maxAllowedPrecision
  assetInfos : s'.assetInfos = Function.update s.assetInfos assetId info
  mem_held : AssetModes s → ∀ who scope p, p ∈ held s' who scope ↔
    p ∈ held s who scope ∨ who = owner ∧
      scope = .limited (T.hashAssetId assetId) ∧
        (p = Permissions.mint ∨ p = Permissions.burn)

section

variable {s s' : Storage T}

/-- The three assignments of a registration. -/
theorem mem_held_of_assignments {owner : T.AccountId} {scope : Scope}
    {s₀ s₁ s₂ s₃ : Storage T} (hmodes : AssetModes s)
    (htransfer : (Permissions.assignPermission owner owner
      Permissions.transfer scope).run s₀ = (.ok (), s₁))
    (hmint : (Permissions.assignPermission owner owner Permissions.mint
      scope).run s₁ = (.ok (), s₂))
    (hburn : (Permissions.assignPermission owner owner Permissions.burn
      scope).run s₂ = (.ok (), s₃)) (hsame : SameHeld s s₀)
    (who : T.AccountId) (scope' : Scope) (p : PermissionId) :
    p ∈ held s₃ who scope' ↔ p ∈ held s who scope' ∨
      who = owner ∧ scope' = scope ∧
        (p = Permissions.mint ∨ p = Permissions.burn) := by
  have hfirst : SameHeld s s₁ := by
    rcases held_of_assignPermission htransfer with ⟨hpermit, -⟩ | ⟨-, hsame'⟩
    · rw [hsame.2, hmodes.transfer] at hpermit
      cases hpermit
    · exact trans_of SameHeld hsame hsame'
  have hmodes₁ : AssetModes s₁ := hmodes.of_modes_eq hfirst.2
  have hsecond : Puts owner scope Permissions.mint s₁ s₂ := by
    rcases held_of_assignPermission hmint with ⟨-, hputs⟩ | ⟨hnot, -⟩
    · exact hputs
    · rw [hmodes₁.mint] at hnot
      exact absurd rfl hnot
  have hmodes₂ : AssetModes s₂ := hmodes₁.of_modes_eq hsecond.modes
  have hthird : Puts owner scope Permissions.burn s₂ s₃ := by
    rcases held_of_assignPermission hburn with ⟨-, hputs⟩ | ⟨hnot, -⟩
    · exact hputs
    · rw [hmodes₂.burn] at hnot
      exact absurd rfl hnot
  rw [hthird.mem_held, hsecond.mem_held, hfirst.held]
  tauto

theorem recorded_of_registerAssetId {accountId : T.AccountId}
    {assetId : T.AssetId} {symbol name : List UInt8} {precision : ℕ}
    {initialSupply : ℕ} {isMintable : Bool} {u : Unit}
    (h : (registerAssetId accountId assetId symbol name precision
      initialSupply isMintable).run s = (.ok u, s')) :
    Recorded assetId accountId ⟨symbol, name, precision, isMintable⟩ s s' := by
  obtain ⟨_, _, hfresh, h⟩ := Tx.run_bind_eq_ok.mp h
  obtain ⟨-, rfl⟩ := Tx.run_reads_eq_ok.mp hfresh
  obtain ⟨_, s₀, hinc, h⟩ := Tx.run_bind_eq_ok.mp h
  obtain ⟨st, -, rfl⟩ := run_incConsumers_ok.mp hinc
  obtain ⟨_, _, howner, h⟩ := Tx.run_bind_eq_ok.mp h
  cases howner
  obtain ⟨_, _, hsymbol, h⟩ := Tx.run_bind_eq_ok.mp h
  obtain ⟨hvalid, rfl⟩ := Tx.run_liftM_eq_ok.mp hsymbol
  obtain ⟨_, _, hname, h⟩ := Tx.run_bind_eq_ok.mp h
  obtain ⟨hnamed, rfl⟩ := Tx.run_liftM_eq_ok.mp hname
  obtain ⟨_, _, hinfo, h⟩ := Tx.run_bind_eq_ok.mp h
  cases hinfo
  obtain ⟨_, _, hprecision, h⟩ := Tx.run_bind_eq_ok.mp h
  obtain ⟨hprecise, rfl⟩ := Tx.run_liftM_eq_ok.mp hprecision
  obtain ⟨_, s₁, htransfer, h⟩ := Tx.run_bind_eq_ok.mp h
  obtain ⟨_, s₂, hmint, h⟩ := Tx.run_bind_eq_ok.mp h
  obtain ⟨_, s₃, hburn, h⟩ := Tx.run_bind_eq_ok.mp h
  obtain ⟨_, s₄, hsupply, h⟩ := Tx.run_bind_eq_ok.mp h
  obtain ⟨l, -, rfl⟩ := run_depositInitialSupply_ok hsupply
  cases h
  have hgrows := ((Permissions.keeps_assignPermission _ _ _ _).of_run
    htransfer).trans
      (((Permissions.keeps_assignPermission _ _ _ _).of_run hmint).trans
        ((Permissions.keeps_assignPermission _ _ _ _).of_run hburn))
  exact {
    symbol := ensure_eq_ok.mp hvalid
    name := ensure_eq_ok.mp hnamed
    precision := ensure_eq_ok.mp hprecise
    assetInfos := by
      change s₃.assetInfos = _
      rw [hgrows.frame]
    mem_held := fun hmodes => by
      have hheld := mem_held_of_assignments hmodes htransfer hmint hburn
        ⟨rfl, rfl⟩
      exact hheld }

theorem recorded_of_register {who : T.AccountId} {symbol name : List UInt8}
    {initialSupply : ℕ} {isMintable : Bool} {u : Unit}
    (h : (register who symbol name initialSupply isMintable).run s =
      (.ok u, s')) :
    Recorded (genAssetId s who) who
      ⟨symbol, name, defaultBalancePrecision, isMintable⟩ s s' := by
  obtain ⟨_, s₁, hregister, h⟩ := Tx.run_bind_eq_ok.mp h
  cases h
  rw [registerFrom, Tx.run_withTransaction_eq_ok,
    Tx.run_bind_of_ok (Tx.run_get s)] at hregister
  obtain ⟨_, s₂, hregister, hpure⟩ := Tx.run_bind_eq_ok.mp hregister
  cases hpure
  exact recorded_of_registerAssetId hregister

end

/-! ## Who passes the checks -/

/-- In the permitting mode a check in a scope passes when the permission is held
there or everywhere. -/
theorem checkPermissionWithScope_permit {s : Storage T} {who : T.AccountId}
    {p : PermissionId} {scope : Scope} (hmode : s.modes p = some .permit) :
    Permissions.checkPermissionWithScope s who p scope = .ok () ↔
      p ∈ held s who scope ∨ p ∈ held s who .unlimited := by
  have hsome : ensure ((s.modes p).isSome : Prop)
      (.permissions .permissionNotFound) = .ok () := by
    rw [hmode]
    rfl
  rw [Permissions.checkPermissionWithScope, hsome]
  by_cases hheld : p ∈ held s who scope
  · simp [hmode, Permissions.accountHasPermission, hheld, bind, Except.bind]
  · by_cases hscope : scope = .unlimited
    · subst hscope
      simp [hmode, Permissions.accountHasPermission, hheld, bind, Except.bind]
    · simp only [hheld, false_or]
      by_cases hall : p ∈ held s who .unlimited
      · simp [hmode, Permissions.accountHasPermission, hscope, hall, bind,
          Except.bind]
      · simp [hmode, Permissions.accountHasPermission, hheld, hall, bind,
          Except.bind]

/-- The check of the assets pallet looks for the permission in the scope of the
asset and everywhere then. -/
theorem permitted_permit {s : Storage T} {who : T.AccountId}
    {assetId : T.AssetId} {p : PermissionId}
    (hmode : s.modes p = some .permit) :
    Permitted s who p assetId ↔
      p ∈ held s who (.limited (T.hashAssetId assetId)) ∨
        p ∈ held s who .unlimited := by
  have hscope : ∀ scope,
      Permissions.checkPermissionWithScope s who p scope = .ok () ↔
        p ∈ held s who scope ∨ p ∈ held s who .unlimited :=
    fun _ => checkPermissionWithScope_permit hmode
  rw [Permitted, checkPermissionMaybeWithParameters]
  cases hcheck : Permissions.checkPermissionWithScope s who p
      (.limited (T.hashAssetId assetId)) with
  | ok u => exact iff_of_true rfl ((hscope _).mp hcheck)
  | error e =>
      have hnot : ¬p ∈ held s who (.limited (T.hashAssetId assetId)) := by
        intro hheld
        rw [(hscope _).mpr (Or.inl hheld)] at hcheck
        cases hcheck
      rw [hscope, or_self_iff]
      exact (or_iff_right hnot).symm

end Assets
end SoraParachain

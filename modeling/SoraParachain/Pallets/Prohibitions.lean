import SoraParachain.Mock

/-!
# Prohibited transfers

Where the mode of the transfer permission is to forbid, holding it in the scope
of an asset, or in the unlimited scope, should keep an account from moving the
asset.  The check of the assets pallet asks the permissions pallet twice and is
content with either answer, so a prohibition in the scope of the asset alone is
lost.
-/

namespace SoraParachain
namespace Assets

variable {T : Config} {s : Storage T} {who : T.AccountId}
variable {assetId : T.AssetId}

/-- The account holds the transfer permission in the scope of the asset. -/
def HeldForAsset (s : Storage T) (who : T.AccountId) (assetId : T.AssetId) :
    Prop :=
  Permissions.transfer ∈
    Permissions.held s who (.limited (T.hashAssetId assetId))

/-- The account holds the transfer permission in the unlimited scope. -/
def HeldEverywhere (s : Storage T) (who : T.AccountId) : Prop :=
  Permissions.transfer ∈ Permissions.held s who .unlimited

/-- In the forbidding mode a check in a scope passes when the permission is held
neither there nor everywhere. -/
theorem checkPermissionWithScope_forbid {p : PermissionId} {scope : Scope}
    (hmode : s.modes p = some .forbid) :
    Permissions.checkPermissionWithScope s who p scope = .ok () ↔
      p ∉ Permissions.held s who scope ∧
        p ∉ Permissions.held s who .unlimited := by
  have hsome : ensure ((s.modes p).isSome : Prop)
      (.permissions .permissionNotFound) = .ok () := by
    rw [hmode]
    rfl
  rw [Permissions.checkPermissionWithScope, hsome]
  by_cases hscope : scope = .unlimited
  · subst hscope
    by_cases hheld : p ∈ Permissions.held s who .unlimited
    · simp [hmode, Permissions.accountHasPermission, hheld, bind, Except.bind]
    · simp [hmode, Permissions.accountHasPermission, hheld, bind, Except.bind]
  · by_cases hheld : p ∈ Permissions.held s who scope
    · simp [hmode, Permissions.accountHasPermission, hheld, bind, Except.bind]
    · by_cases hall : p ∈ Permissions.held s who .unlimited
      · simp [hmode, Permissions.accountHasPermission, hheld, hall, hscope,
          bind, Except.bind]
      · simp [hmode, Permissions.accountHasPermission, hheld, hall, hscope,
          bind, Except.bind]

/-- The check of the assets pallet only looks at the unlimited scope then. -/
theorem permitted_forbid {p : PermissionId}
    (hmode : s.modes p = some .forbid) :
    Permitted s who p assetId ↔ p ∉ Permissions.held s who .unlimited := by
  have hall : Permissions.checkPermissionWithScope s who p .unlimited =
      .ok () ↔ p ∉ Permissions.held s who .unlimited :=
    (checkPermissionWithScope_forbid hmode).trans and_self_iff
  rw [Permitted, checkPermissionMaybeWithParameters]
  cases hcheck : Permissions.checkPermissionWithScope s who p
      (.limited (T.hashAssetId assetId)) with
  | ok u =>
      have hheld := (checkPermissionWithScope_forbid hmode).mp hcheck
      exact iff_of_true rfl hheld.2
  | error e => exact hall

/-- A holder of the transfer permission can neither transfer nor withdraw the
asset, and anyone else passes the check. -/
def ProhibitionBites (s : Storage T) (who : T.AccountId)
    (assetId : T.AssetId) : Prop :=
  (HeldForAsset s who assetId ∨ HeldEverywhere s who →
    (∀ dest amount s',
      (transferFrom assetId who dest amount).run s ≠ (.ok (), s')) ∧
    ∀ amount, ensureCanWithdraw s assetId who amount ≠ .ok ()) ∧
  (¬(HeldForAsset s who assetId ∨ HeldEverywhere s who) →
    Permitted s who Permissions.transfer assetId)

/-- The prohibition of a registered asset bites exactly when the permission is
not held in the scope of the asset alone.  The currency lets anyone withdraw
nothing at all. -/
theorem prohibition_bites_iff
    (hzero : ∀ c a l, T.currency.ensureCanWithdraw c a 0 l = .ok ())
    (hmode : s.modes Permissions.transfer = some .forbid)
    (hexists : Exists s assetId) :
    ProhibitionBites s who assetId ↔
      (HeldForAsset s who assetId → HeldEverywhere s who) := by
  have hpermitted : Permitted s who Permissions.transfer assetId ↔
      ¬HeldEverywhere s who := permitted_forbid hmode
  constructor
  · intro hbites hheld
    by_contra hnot
    have hallowed : ensureCanWithdraw s assetId who 0 = .ok () :=
      ensureCanWithdraw_eq_ok.mpr
        ⟨hexists, hpermitted.mpr hnot, hzero _ _ _⟩
    exact (hbites.1 (Or.inl hheld)).2 0 hallowed
  · intro hscopes
    constructor
    · intro hheld
      have hall : HeldEverywhere s who := hheld.elim hscopes id
      constructor
      · intro dest amount s' hrun
        obtain ⟨-, hperm, -⟩ := run_transferFrom_ok.mp hrun
        exact hpermitted.mp hperm hall
      · intro amount hrun
        obtain ⟨-, hperm, -⟩ := ensureCanWithdraw_eq_ok.mp hrun
        exact hpermitted.mp hperm hall
    · intro hnot
      exact hpermitted.mpr fun hall => hnot (Or.inr hall)

/-- Alice was given the permission everywhere. -/
theorem prohibition_bites_iff_sample :
    ProhibitionBites Mock.genesis Mock.alice.account Mock.goldenTicket ↔
      (HeldForAsset Mock.genesis Mock.alice.account Mock.goldenTicket →
        HeldEverywhere Mock.genesis Mock.alice.account) := by
  have hzero : ∀ c a l,
      Mock.runtime.currency.ensureCanWithdraw c a 0 l = .ok () := by
    intro c a l
    simp [CoinLedger.currency]
  exact prohibition_bites_iff (T := Mock.runtime) hzero (by decide +kernel)
    (by decide +kernel)

/-- Bob is given the permission in the scope of one asset. -/
def shunned : Storage Mock.runtime :=
  Permissions.insertPermission Mock.bob.account
    (.limited (Mock.runtime.hashAssetId Mock.goldenTicket))
    Permissions.transfer Mock.genesis

/-- He can still move the asset. -/
theorem prohibition_in_scope_is_lost :
    shunned.modes Permissions.transfer = some .forbid ∧
      HeldForAsset shunned Mock.bob.account Mock.goldenTicket ∧
      ((transferFrom (T := Mock.runtime) Mock.goldenTicket Mock.bob.account
        Mock.carol.account 1).run shunned).1 = .ok () := by
  refine ⟨by decide +kernel, ?_, by decide +kernel⟩
  unfold HeldForAsset
  decide +kernel

end Assets
end SoraParachain

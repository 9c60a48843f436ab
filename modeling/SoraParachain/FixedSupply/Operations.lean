import SoraParachain.BondingCurvePool.Pallet
import SoraParachain.Pallets.AssetUpdates
import SoraParachain.PoolXyk.Quote

/-!
# Operations keep a fixed supply

An asset that exists cannot be registered again, and one that is not mintable
never becomes so.  Each operation that reaches the currency is shown to keep
this, whether it succeeds or fails on the way; what is built from such
operations keeps it as well.
-/

namespace SoraParachain

variable {T : Config}

/-- The asset exists and nobody can mint it. -/
structure IsFixed (s : Storage T) (a : T.AssetId) : Prop where
  registered : Assets.Exists s a
  notMintable : (s.assetInfos a).isMintable = false

/-- A fixed asset stays fixed, and no more of it is issued. -/
def KeepsSupply (a : T.AssetId) (s s' : Storage T) : Prop :=
  IsFixed s a → IsFixed s' a ∧ s'.issuance a ≤ s.issuance a

instance (a : T.AssetId) : IsPreorder (Storage T) (KeepsSupply a) where
  refl _ h := ⟨h, Nat.le_refl _⟩
  trans _ _ _ hab hbc h := by
    have hb := hab h
    have hc := hbc hb.1
    exact ⟨hc.1, Nat.le_trans hc.2 hb.2⟩

/-- Neither the balances nor what is stored for one asset differs. -/
structure SameAsset (a : T.AssetId) (s s' : Storage T) : Prop where
  ledger : s'.ledger = s.ledger
  owner : s'.assetOwners a = s.assetOwners a
  info : s'.assetInfos a = s.assetInfos a

variable {a : T.AssetId}

theorem IsFixed.of_sameAsset {s s' : Storage T} (h : IsFixed s a)
    (hsame : SameAsset a s s') : IsFixed s' a where
  registered := by
    have hex := h.registered
    rw [Assets.Exists] at hex ⊢
    rw [hsame.owner]
    exact hex
  notMintable := by
    rw [hsame.info]
    exact h.notMintable

theorem SameAsset.keepsSupply {s s' : Storage T} (h : SameAsset a s s') :
    KeepsSupply a s s' := by
  intro hfixed
  refine ⟨hfixed.of_sameAsset h, ?_⟩
  rw [Storage.issuance, Storage.book, h.ledger]
  exact Nat.le_refl _

/-- A write that leaves the asset alone. -/
theorem keepsSupply_modify {f : Storage T → Storage T}
    (hf : ∀ s, SameAsset a s (f s)) :
    Tx.Keeps (KeepsSupply a) (Tx.modify f : Exec T Unit) :=
  Tx.keeps_modify fun s => (hf s).keepsSupply

/-- An operation of the currency that does not issue more of the asset. -/
theorem keepsSupply_apply
    {op : T.currency.Ledger → Except ForeignError T.currency.Ledger}
    (hop : ∀ l l', op l = .ok l' →
      (T.currency.book l').issuance a ≤ (T.currency.book l).issuance a) :
    Tx.Keeps (KeepsSupply a) (Currency.apply op) := by
  refine Tx.keeps_of_ok ?_ (Currency.failsWithin_apply op)
  intro s u s' h hfixed
  obtain ⟨l, hl, rfl⟩ := Currency.run_apply_ok.mp h
  exact ⟨⟨hfixed.registered, hfixed.notMintable⟩, hop _ _ hl⟩

/-! ## The assets -/

namespace Assets

theorem keepsSupply_forceTransfer (hM : T.currency.Lawful balanceModulus)
    (assetId : T.AssetId) (source dest : T.AccountId) (amount : ℕ) :
    Tx.Keeps (KeepsSupply a) (forceTransfer assetId source dest amount) := by
  apply keepsSupply_apply
  intro l l' h
  rw [(hM.transfer_ok h).2, Book.issuance_moved]

theorem keepsSupply_transferFrom (hM : T.currency.Lawful balanceModulus)
    (assetId : T.AssetId) (source dest : T.AccountId) (amount : ℕ) :
    Tx.Keeps (KeepsSupply a) (transferFrom assetId source dest amount) := by
  refine Tx.keeps_bind (Tx.keeps_reads _) fun _ => ?_
  refine Tx.keeps_bind (Tx.keeps_reads _) fun _ => ?_
  exact keepsSupply_forceTransfer hM _ _ _ _

/-- Minting asks whether the asset is mintable. -/
theorem keepsSupply_mintTo (hM : T.currency.Lawful balanceModulus)
    (assetId : T.AssetId) (issuer dest : T.AccountId) (amount : ℕ) :
    Tx.Keeps (KeepsSupply a) (mintTo assetId issuer dest amount) := by
  refine Tx.keeps_of_ok ?_ (failsWithin_mintTo _ _ _ _)
  intro s u s' h hfixed
  obtain ⟨-, -, hmintable, l, hl, rfl⟩ := run_mintTo_ok.mp h
  have hne : a ≠ assetId := by
    intro ha
    rw [← ha, hfixed.notMintable] at hmintable
    cases hmintable
  refine ⟨⟨hfixed.registered, hfixed.notMintable⟩, ?_⟩
  change (T.currency.book l).issuance a ≤ _
  rw [hM.deposit_ok hl, Book.issuance_issued_of_ne hne]
  exact Nat.le_refl _

theorem keepsSupply_burnFrom (hM : T.currency.Lawful balanceModulus)
    (assetId : T.AssetId) (issuer dest : T.AccountId) (amount : ℕ) :
    Tx.Keeps (KeepsSupply a) (burnFrom assetId issuer dest amount) := by
  refine Tx.keeps_bind (Tx.keeps_reads _) fun _ => ?_
  refine Tx.keeps_bind (Tx.keeps_reads _) fun _ => ?_
  apply keepsSupply_apply
  intro l l' h
  rw [(hM.withdraw_ok h).2]
  exact Book.issuance_retired_le

section Extension

variable {E : T.currency.Extension}

/-- A positive update asks whether the asset is mintable, too. -/
theorem keepsSupply_updateBalance (hE : E.Lawful) (assetId : T.AssetId)
    (who : T.AccountId) (byAmount : ℤ) :
    Tx.Keeps (KeepsSupply a) (updateBalance E assetId who byAmount) := by
  refine Tx.keeps_of_ok ?_ (failsWithin_updateBalance _ _ _)
  intro s u s' h hfixed
  obtain ⟨-, -, hmintable, l, hl, rfl⟩ := run_updateBalance_ok.mp h
  refine ⟨⟨hfixed.registered, hfixed.notMintable⟩, ?_⟩
  change (T.currency.book l).issuance a ≤ _
  rw [hE.updateBalance_ok hl]
  by_cases hneg : byAmount < 0
  · rw [if_pos hneg]
    exact Book.issuance_retired_le
  · rw [if_neg hneg]
    by_cases ha : a = assetId
    · have hnot : ¬0 < byAmount := by
        intro hpos
        rw [← ha, hfixed.notMintable] at hmintable
        exact Bool.false_ne_true (hmintable hpos)
      have hzero : byAmount = 0 := by omega
      rw [ha, Book.issuance_issued_self, hzero]
      exact Nat.le_refl _
    · rw [Book.issuance_issued_of_ne ha]
      exact Nat.le_refl _

theorem keepsSupply_reserve (hE : E.Lawful) (assetId : T.AssetId)
    (who : T.AccountId) (amount : ℕ) :
    Tx.Keeps (KeepsSupply a) (reserve E assetId who amount) := by
  refine Tx.keeps_bind (Tx.keeps_reads _) fun _ => ?_
  apply keepsSupply_apply
  intro l l' h
  rw [hE.reserve_ok h]

theorem keepsSupply_unreserve (hE : E.Lawful) (assetId : T.AssetId)
    (who : T.AccountId) (amount : ℕ) :
    Tx.Keeps (KeepsSupply a) (unreserve E assetId who amount) := by
  refine Tx.keeps_bind (Tx.keeps_reads _) fun _ => ?_
  refine Tx.keeps_bind Tx.keeps_get fun _ => ?_
  refine Tx.keeps_bind (Tx.keeps_modify fun s hfixed => ?_) fun _ =>
    Tx.keeps_pure _
  refine ⟨⟨hfixed.registered, hfixed.notMintable⟩, ?_⟩
  change (T.currency.book (E.unreserve _ _ _ s.ledger).2).issuance a ≤ _
  rw [hE.unreserve]
  exact Nat.le_refl _

end Extension

/-! ### Registration -/

/-- What only grows the permissions leaves every asset alone. -/
theorem keepsSupply_of_grows {α : Type} {x : Exec T α}
    (h : Tx.Keeps Permissions.Grows x) : Tx.Keeps (KeepsSupply a) x := by
  refine h.mono fun s s' hgrows => SameAsset.keepsSupply ?_
  rw [hgrows.frame]
  exact ⟨rfl, rfl, rfl⟩

/-- The initial supply of another asset. -/
theorem keepsSupply_depositInitialSupply
    (hM : T.currency.Lawful balanceModulus) {assetId : T.AssetId}
    (hne : a ≠ assetId) (accountId : T.AccountId) (initialSupply : ℕ) :
    Tx.Keeps (KeepsSupply a)
      (depositInitialSupply accountId assetId initialSupply) := by
  unfold depositInitialSupply
  split_ifs
  · exact Tx.keeps_pure _
  · apply keepsSupply_apply
    intro l l' h
    rw [hM.deposit_ok h, Book.issuance_issued_of_ne hne]

/-- An asset that exists is not registered again. -/
theorem run_registerAssetId_of_exists {s : Storage T} {assetId : T.AssetId}
    (hex : Exists s assetId) (accountId : T.AccountId)
    (symbol name : List UInt8) (precision initialSupply : ℕ)
    (isMintable : Bool) :
    (registerAssetId accountId assetId symbol name precision initialSupply
      isMintable).run s = (fail (.assets .assetIdAlreadyExists), s) := by
  have howner : ¬(assetOwner s assetId).isNone = true := by
    rw [assetOwner, if_neg hex]
    exact Bool.false_ne_true
  have hguard : ensure ((assetOwner s assetId).isNone = true)
      (.assets .assetIdAlreadyExists) =
        fail (.assets .assetIdAlreadyExists) := if_neg howner
  refine Tx.run_bind_eq_error.mpr (Or.inl ?_)
  exact Tx.run_reads_eq_error.mpr ⟨hguard, rfl⟩

theorem keepsSupply_registerAssetId (hM : T.currency.Lawful balanceModulus)
    (accountId : T.AccountId) (assetId : T.AssetId)
    (symbol name : List UInt8) (precision initialSupply : ℕ)
    (isMintable : Bool) :
    Tx.Keeps (KeepsSupply a)
      (registerAssetId accountId assetId symbol name precision initialSupply
        isMintable) := by
  by_cases ha : a = assetId
  · intro s hfixed
    rw [run_registerAssetId_of_exists (ha ▸ hfixed.registered)]
    exact ⟨hfixed, Nat.le_refl _⟩
  · refine Tx.keeps_bind (Tx.keeps_reads _) fun _ => ?_
    refine Tx.keeps_bind
      (keepsSupply_of_grows (Permissions.keeps_incConsumers _ _)) fun _ => ?_
    refine Tx.keeps_bind (keepsSupply_modify fun s => ?_) fun _ => ?_
    · exact ⟨rfl, Function.update_of_ne ha _ _, rfl⟩
    refine Tx.keeps_bind (Tx.keeps_liftM _) fun _ => ?_
    refine Tx.keeps_bind (Tx.keeps_liftM _) fun _ => ?_
    refine Tx.keeps_bind (keepsSupply_modify fun s => ?_) fun _ => ?_
    · exact ⟨rfl, rfl, Function.update_of_ne ha _ _⟩
    refine Tx.keeps_bind (Tx.keeps_liftM _) fun _ => ?_
    have hassign : ∀ p, Tx.Keeps (KeepsSupply a)
        (Permissions.assignPermission accountId accountId p
          (.limited (T.hashAssetId assetId))) := fun p =>
      keepsSupply_of_grows (Permissions.keeps_assignPermission _ _ _ _)
    refine Tx.keeps_bind (hassign _) fun _ => ?_
    refine Tx.keeps_bind (hassign _) fun _ => ?_
    refine Tx.keeps_bind (hassign _) fun _ => ?_
    refine Tx.keeps_bind (keepsSupply_depositInitialSupply hM ha _ _)
      fun _ => ?_
    exact keepsSupply_modify fun s => ⟨rfl, rfl, rfl⟩

theorem keepsSupply_registerFrom (hM : T.currency.Lawful balanceModulus)
    (accountId : T.AccountId) (symbol name : List UInt8)
    (precision initialSupply : ℕ) (isMintable : Bool) :
    Tx.Keeps (KeepsSupply a)
      (registerFrom accountId symbol name precision initialSupply
        isMintable) := by
  apply Tx.keeps_withTransaction
  refine Tx.keeps_bind Tx.keeps_get fun _ => ?_
  refine Tx.keeps_bind ?_ fun _ => Tx.keeps_pure _
  exact keepsSupply_registerAssetId hM _ _ _ _ _ _ _

/-- The flag is only ever taken away. -/
theorem keepsSupply_setNonMintableFrom (assetId : T.AssetId)
    (who : T.AccountId) :
    Tx.Keeps (KeepsSupply a) (setNonMintableFrom assetId who) := by
  refine Tx.keeps_bind (Tx.keeps_reads _) fun _ => ?_
  refine Tx.keeps_bind (Tx.keeps_reads _) fun _ => ?_
  refine Tx.keeps_modify fun s hfixed => ⟨⟨hfixed.registered, ?_⟩, Nat.le_refl _⟩
  dsimp only
  by_cases ha : a = assetId
  · rw [ha, Function.update_self]
  · rw [Function.update_of_ne ha]
    exact hfixed.notMintable

end Assets
end SoraParachain

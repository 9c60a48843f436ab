import SoraParachain.Pallets.Assets

/-!
# Access to the assets for other pallets

The assets offer operations that none of their own calls uses.  A balance is
changed by a signed amount, moved without asking for a permission, or reserved.
-/

namespace SoraParachain
namespace Assets

variable {T : Config} (E : T.currency.Extension)

/-- Move an asset without asking whether it exists or who may move it. -/
def forceTransfer (assetId : T.AssetId) (source dest : T.AccountId)
    (amount : ℕ) : Exec T Unit :=
  Currency.transfer assetId source dest amount

/-- Change the balance of an account that may mint and burn the asset. -/
def updateBalance (assetId : T.AssetId) (who : T.AccountId) (byAmount : ℤ) :
    Exec T Unit := do
  Tx.reads fun s =>
    checkPermissionMaybeWithParameters s who Permissions.mint assetId
  Tx.reads fun s =>
    checkPermissionMaybeWithParameters s who Permissions.burn assetId
  Tx.reads fun s =>
    if 0 < byAmount then
      ensure (s.assetInfos assetId).isMintable
        (.assets .assetSupplyIsNotMintable)
    else .ok ()
  Currency.apply (E.updateBalance assetId who byAmount)

def reserve (assetId : T.AssetId) (who : T.AccountId) (amount : ℕ) :
    Exec T Unit := do
  Tx.reads fun s => ensureAssetExists s assetId
  Currency.apply (E.reserve assetId who amount)

/-- What could not be unreserved is returned. -/
def unreserve (assetId : T.AssetId) (who : T.AccountId) (amount : ℕ) :
    Exec T ℕ := do
  Tx.reads fun s => ensureAssetExists s assetId
  let s ← Tx.get
  Tx.modify fun s =>
    { s with ledger := (E.unreserve assetId who amount s.ledger).2 }
  pure (E.unreserve assetId who amount s.ledger).1

variable {E}

theorem run_updateBalance_ok {assetId : T.AssetId} {who : T.AccountId}
    {byAmount : ℤ} {s s' : Storage T} {u : Unit} :
    (updateBalance E assetId who byAmount).run s = (.ok u, s') ↔
      Permitted s who Permissions.mint assetId ∧
        Permitted s who Permissions.burn assetId ∧
        (0 < byAmount → (s.assetInfos assetId).isMintable = true) ∧
        ∃ l, E.updateBalance assetId who byAmount s.ledger = .ok l ∧
          s' = { s with ledger := l } := by
  have hguard : (if 0 < byAmount then
        ensure (s.assetInfos assetId).isMintable
          (.assets .assetSupplyIsNotMintable)
      else .ok ()) = .ok () ↔
      (0 < byAmount → (s.assetInfos assetId).isMintable = true) := by
    by_cases hpos : 0 < byAmount
    · simp [hpos]
    · simp [hpos]
  rw [updateBalance]
  constructor
  · intro h
    obtain ⟨_, hmint, h⟩ := Tx.run_reads_bind_eq_ok.mp h
    obtain ⟨_, hburn, h⟩ := Tx.run_reads_bind_eq_ok.mp h
    obtain ⟨_, hsupply, h⟩ := Tx.run_reads_bind_eq_ok.mp h
    exact ⟨hmint, hburn, hguard.mp hsupply, Currency.run_apply_ok.mp h⟩
  · intro h
    obtain ⟨hmint, hburn, hsupply, h⟩ := h
    exact Tx.run_reads_bind_eq_ok.mpr ⟨(), hmint,
      Tx.run_reads_bind_eq_ok.mpr ⟨(), hburn,
        Tx.run_reads_bind_eq_ok.mpr ⟨(), hguard.mpr hsupply,
          Currency.run_apply_ok.mpr h⟩⟩⟩

/-- An update that fails changes nothing. -/
theorem failsWithin_updateBalance {R : Storage T → Storage T → Prop}
    [IsPreorder (Storage T) R] (assetId : T.AssetId) (who : T.AccountId)
    (byAmount : ℤ) :
    Tx.FailsWithin R (updateBalance E assetId who byAmount) := by
  refine Tx.failsWithin_bind (Tx.keeps_reads _) fun _ => ?_
  refine Tx.failsWithin_bind (Tx.keeps_reads _) fun _ => ?_
  refine Tx.failsWithin_bind (Tx.keeps_reads _) fun _ => ?_
  exact Currency.failsWithin_apply _

end Assets
end SoraParachain

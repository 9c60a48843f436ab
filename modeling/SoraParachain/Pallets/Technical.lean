import SoraParachain.Pallets.Assets

/-!
# Technical accounts and swaps

A technical account is an ordinary account whose identifier is the hash of a
description; it can be used once it is registered.  A swap action is checked,
completed and then settled inside one transaction.
-/

namespace SoraParachain

variable {T : Config}

/-- What a pallet supplies to have its actions executed. -/
class SwapAction (T : Config) (A : Type) where
  isAbstractChecking : A → Bool
  prepareAndValidate : A → Option T.AccountId → Exec T A
  instantAutoClaimUsed : A → Bool
  triggeredAutoClaimUsed : A → Bool
  isAbleToClaim : A → Bool
  reserve : A → T.AccountId → Exec T Unit
  claim : A → T.AccountId → Bool
  cancel : A → T.AccountId → Exec T Unit

namespace Technical

/-- The account of a technical account. -/
def techAccountIdToAccountId (techAccountId : TechAccountIdOf T) :
    T.AccountId :=
  T.techAccountIdRepr techAccountId

theorem techAccountIdToAccountId_inj (hT : T.CollisionFree)
    {t t' : TechAccountIdOf T} :
    techAccountIdToAccountId t = techAccountIdToAccountId t' ↔ t = t' :=
  hT.repr.eq_iff

/-- The technical account registered for an account. -/
def ensureAccountRegistered (s : Storage T) (accountId : T.AccountId) :
    Result (TechAccountIdOf T) :=
  okOr (.technical .techAccountIdIsNotRegistered) (s.techAccounts accountId)

def ensureTechAccountRegistered (s : Storage T)
    (techAccountId : TechAccountIdOf T) : Result Unit := do
  let _ ← ensureAccountRegistered s (techAccountIdToAccountId techAccountId)

/-- Something is registered for the account of the technical account. -/
def IsRegistered (s : Storage T) (techAccountId : TechAccountIdOf T) : Prop :=
  (s.techAccounts (techAccountIdToAccountId techAccountId)).isSome = true

instance (s : Storage T) (techAccountId : TechAccountIdOf T) :
    Decidable (IsRegistered s techAccountId) :=
  inferInstanceAs (Decidable (_ = true))

@[simp] theorem ensureTechAccountRegistered_eq_ok {s : Storage T}
    {techAccountId : TechAccountIdOf T} {u : Unit} :
    ensureTechAccountRegistered s techAccountId = .ok u ↔
      IsRegistered s techAccountId := by
  simp only [ensureTechAccountRegistered, ensureAccountRegistered,
    Tx.except_bind_eq_ok, okOr_eq_ok, IsRegistered, Option.isSome_iff_exists]
  constructor
  · rintro ⟨a, h, -⟩
    exact ⟨a, h⟩
  · rintro ⟨a, h⟩
    exact ⟨a, h, rfl⟩

def registerTechAccountId (techAccountId : TechAccountIdOf T) :
    Exec T Unit :=
  Tx.modify fun s =>
    let accountId := techAccountIdToAccountId techAccountId
    { s with
      system := T.system.incProviders accountId s.system
      techAccounts := Function.update s.techAccounts accountId techAccountId }

/-- Move an asset from an account to a registered technical account. -/
def transferIn (asset : T.AssetId) (source : T.AccountId)
    (techDest : TechAccountIdOf T) (amount : ℕ) : Exec T Unit := do
  let dest := techAccountIdToAccountId techDest
  let _ ← Tx.reads fun s => ensureAccountRegistered s dest
  Assets.transferFrom asset source dest amount

/-- Move an asset from a registered technical account to an account. -/
def transferOut (asset : T.AssetId) (techSource : TechAccountIdOf T)
    (dest : T.AccountId) (amount : ℕ) : Exec T Unit := do
  let source := techAccountIdToAccountId techSource
  let _ ← Tx.reads fun s => ensureAccountRegistered s source
  Assets.transferFrom asset source dest amount

/-- Move an asset between two registered technical accounts. -/
def transfer (asset : T.AssetId) (techSource techDest : TechAccountIdOf T)
    (amount : ℕ) : Exec T Unit := do
  let source := techAccountIdToAccountId techSource
  let _ ← Tx.reads fun s => ensureAccountRegistered s source
  let dest := techAccountIdToAccountId techDest
  let _ ← Tx.reads fun s => ensureAccountRegistered s dest
  Assets.transferFrom asset source dest amount

/-- Mint an asset to a registered technical account, on its own behalf. -/
def mint (asset : T.AssetId) (techDest : TechAccountIdOf T) (amount : ℕ) :
    Exec T Unit := do
  let accountId := techAccountIdToAccountId techDest
  let _ ← Tx.reads fun s => ensureAccountRegistered s accountId
  Assets.mintTo asset accountId accountId amount

/-- Burn an asset of a registered technical account, on its own behalf. -/
def burn (asset : T.AssetId) (techDest : TechAccountIdOf T) (amount : ℕ) :
    Exec T Unit := do
  let accountId := techAccountIdToAccountId techDest
  let _ ← Tx.reads fun s => ensureAccountRegistered s accountId
  Assets.burnFrom asset accountId accountId amount

/-- What is done for a technical account is done if it is registered. -/
theorem run_registered_eq_ok {techAcc : TechAccountIdOf T} {k : Exec T Unit}
    {s s' : Storage T} {u : Unit} :
    (do
      let _ ← Tx.reads fun s =>
        ensureAccountRegistered s (techAccountIdToAccountId techAcc)
      k : Exec T Unit).run s = (.ok u, s') ↔
      IsRegistered s techAcc ∧ k.run s = (.ok u, s') := by
  simp only [Tx.run_bind_eq_ok, Tx.run_reads_eq_ok, ensureAccountRegistered,
    okOr_eq_ok, IsRegistered, Option.isSome_iff_exists]
  constructor
  · rintro ⟨t, _, ⟨ht, rfl⟩, h⟩
    exact ⟨⟨t, ht⟩, h⟩
  · rintro ⟨⟨t, ht⟩, h⟩
    exact ⟨t, s, ⟨ht, rfl⟩, h⟩

theorem run_transferIn_ok {asset : T.AssetId} {source : T.AccountId}
    {techDest : TechAccountIdOf T} {amount : ℕ} {s s' : Storage T}
    {u : Unit} :
    (transferIn asset source techDest amount).run s = (.ok u, s') ↔
      IsRegistered s techDest ∧
        (Assets.transferFrom asset source (techAccountIdToAccountId techDest)
          amount).run s = (.ok u, s') :=
  run_registered_eq_ok

theorem run_transferOut_ok {asset : T.AssetId}
    {techSource : TechAccountIdOf T} {dest : T.AccountId} {amount : ℕ}
    {s s' : Storage T} {u : Unit} :
    (transferOut asset techSource dest amount).run s = (.ok u, s') ↔
      IsRegistered s techSource ∧
        (Assets.transferFrom asset (techAccountIdToAccountId techSource) dest
          amount).run s = (.ok u, s') :=
  run_registered_eq_ok

section Tech

variable {asset : T.AssetId} {techSource techDest : TechAccountIdOf T}
variable {amount : ℕ} {s s' : Storage T} {u : Unit}

theorem run_transfer_ok :
    (transfer asset techSource techDest amount).run s = (.ok u, s') ↔
      IsRegistered s techSource ∧ IsRegistered s techDest ∧
        (Assets.transferFrom asset (techAccountIdToAccountId techSource)
          (techAccountIdToAccountId techDest) amount).run s = (.ok u, s') := by
  rw [← run_registered_eq_ok, ← run_registered_eq_ok]
  rfl

theorem run_mint_ok :
    (mint asset techDest amount).run s = (.ok u, s') ↔
      IsRegistered s techDest ∧
        (Assets.mintTo asset (techAccountIdToAccountId techDest)
          (techAccountIdToAccountId techDest) amount).run s =
            (.ok u, s') :=
  run_registered_eq_ok

theorem run_burn_ok :
    (burn asset techDest amount).run s = (.ok u, s') ↔
      IsRegistered s techDest ∧
        (Assets.burnFrom asset (techAccountIdToAccountId techDest)
          (techAccountIdToAccountId techDest) amount).run s =
            (.ok u, s') :=
  run_registered_eq_ok

end Tech

/-! ## Swaps -/

section

variable {A : Type} [SwapAction T A]

/-- Settle an action in one transaction.  Only an instant automatic claim is
implemented. -/
def performCreateSwapUnchecked (source : T.AccountId) (action : A) :
    Exec T Unit :=
  Tx.withTransaction do
    SwapAction.reserve action source
    if SwapAction.isAbleToClaim T action = true then
      if SwapAction.instantAutoClaimUsed T action = true then
        if SwapAction.claim (T := T) action source = true then
          pure ()
        else if SwapAction.triggeredAutoClaimUsed T action = false then
          SwapAction.cancel action source
        else fail (.technical .notImplemented)
      else fail (.technical .notImplemented)
    else fail (.technical .notImplemented)

/-- Complete and check an action, then settle it. -/
def performCreateSwap (source : T.AccountId) (action : A) : Exec T Unit := do
  ensure (SwapAction.isAbstractChecking T action = false)
    (.technical .operationWithAbstractCheckingIsImposible)
  let action ← SwapAction.prepareAndValidate action (some source)
  performCreateSwapUnchecked source action

def createSwap (who : T.AccountId) (action : A) : Exec T Unit :=
  performCreateSwap who action

end

end Technical
end SoraParachain

import SoraParachain.Mock
import SoraParachain.Pallets.PermissionVectors

/-!
# A runtime that counts references

The runtime of the mock with accounts whose references are counted.  Alice and
Bob have a provider; Carol has none, so no reference can be taken on her.
-/

namespace SoraParachain
namespace Mock

structure AccountInfo where
  nonce : ℕ
  consumers : ℕ
  providers : ℕ

/-- Counts of references are `u32`. -/
def maxConsumers : ℕ := 2 ^ 32 - 1

namespace AccountInfo

def incNonce (a : AccountInfo) : AccountInfo :=
  { a with nonce := a.nonce + 1 }

def incProviders (a : AccountInfo) : AccountInfo :=
  { a with providers := a.providers + 1 }

def incConsumers (a : AccountInfo) : AccountInfo :=
  { a with consumers := min (a.consumers + 1) maxConsumers }

def decConsumers (a : AccountInfo) : AccountInfo :=
  { a with consumers := a.consumers - 1 }

end AccountInfo

/-- Change what is known of one account. -/
def alter (who : ℕ) (f : AccountInfo → AccountInfo) (st : ℕ → AccountInfo) :
    ℕ → AccountInfo :=
  Function.update st who (f (st who))

theorem alter_apply (who other : ℕ) (f : AccountInfo → AccountInfo)
    (st : ℕ → AccountInfo) :
    alter who f st other = if other = who then f (st who) else st other :=
  Function.update_apply st who (f (st who)) other

def countingSystem : System ℕ where
  State := ℕ → AccountInfo
  accountNonce who st := (st who).nonce
  incAccountNonce who st := alter who .incNonce st
  incProviders who st := alter who .incProviders st
  incConsumers who st :=
    if 0 < (st who).providers then some (alter who .incConsumers st) else none

abbrev counting : Config :=
  { runtime with system := countingSystem }

/-- A change that leaves the providers is seen in the consumers only. -/
theorem consumers_alter (who other : ℕ) (f : AccountInfo → AccountInfo)
    (st : ℕ → AccountInfo) :
    (alter who f st other).consumers =
      if other = who then (f (st who)).consumers else (st other).consumers := by
  rw [alter_apply]
  split_ifs
  · rfl
  · rfl

theorem providers_alter {f : AccountInfo → AccountInfo}
    (hf : ∀ a, (f a).providers = a.providers) (who other : ℕ)
    (st : ℕ → AccountInfo) :
    (alter who f st other).providers = (st other).providers := by
  rw [alter_apply]
  split_ifs with h
  · rw [hf, h]
  · rfl

theorem incConsumers_eq_some {who : ℕ} {st st' : ℕ → AccountInfo} :
    countingSystem.incConsumers who st = some st' ↔
      0 < (st who).providers ∧ alter who .incConsumers st = st' := by
  simp only [countingSystem]
  split_ifs with h
  · simp [h]
  · simp [h]

def references : References counting where
  maxConsumers := maxConsumers
  consumers who (st : ℕ → AccountInfo) := (st who).consumers
  hasProvider who (st : ℕ → AccountInfo) := decide (0 < (st who).providers)
  decConsumers who (st : ℕ → AccountInfo) := alter who .decConsumers st
  isSome_inc who (st : ℕ → AccountInfo) := by
    simp only [countingSystem]
    split_ifs with h
    · simp [h]
    · simp [h]
  consumers_inc {who} {st st' : ℕ → AccountInfo} h other := by
    obtain ⟨-, rfl⟩ := incConsumers_eq_some.mp h
    exact consumers_alter who other .incConsumers st
  hasProvider_inc {who} {st st' : ℕ → AccountInfo} h other := by
    obtain ⟨-, rfl⟩ := incConsumers_eq_some.mp h
    have hkept := providers_alter (f := .incConsumers) (fun _ => rfl) who other st
    rw [hkept]
  consumers_dec who (st : ℕ → AccountInfo) other :=
    consumers_alter who other .decConsumers st
  hasProvider_dec who (st : ℕ → AccountInfo) other := by
    have hkept := providers_alter (f := .decConsumers) (fun _ => rfl) who other st
    rw [hkept]

/-- A storage without permissions, before any genesis. -/
def vacant : Storage counting where
  ledger := initialLedger
  system := fun who => ⟨0, 0, if who = carol.account then 0 else 1⟩
  permissionOwners _ _ := []
  modes _ := none
  permissions _ := ∅
  assetOwners _ := runtime.defaultAccountId
  assetInfos _ := .default
  assetRecords _ := none
  techAccounts _ := none
  dexInfos _ := none
  enabledSources _ _ := none
  reserves _ _ := (0, 0)
  properties _ _ := none
  markerTokensIndex := ∅

end Mock
end SoraParachain

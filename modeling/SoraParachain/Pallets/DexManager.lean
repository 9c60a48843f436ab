import SoraParachain.Pallets.Assets

/-!
# DEX manager

A DEX has a base asset.  Anyone may manage the public functions of a public
DEX; everything else takes the permission to manage it.
-/

namespace SoraParachain
namespace DexManager

variable {T : Config}

def getDexInfo (s : Storage T) (dexId : T.DEXId) :
    Result (DEXInfo T.AssetId) :=
  okOr (.dexManager .dexDoesNotExist) (s.dexInfos dexId)

def ensureDexExists (s : Storage T) (dexId : T.DEXId) : Result Unit :=
  ensure (s.dexInfos dexId).isSome (.dexManager .dexDoesNotExist)

def ensureDirectManager (s : Storage T) (dexId : T.DEXId)
    (who : T.AccountId) : Result Unit :=
  Permissions.checkPermissionWithScope s who Permissions.manageDex
    (.limited (T.hashDEXId dexId))

/-- Whether a signed origin may manage a DEX. -/
def ensureCanManage (s : Storage T) (dexId : T.DEXId) (who : T.AccountId)
    (mode : ManagementMode) : Result (Option T.AccountId) := do
  let dexInfo ← getDexInfo s dexId
  if dexInfo.isPublic = false ∨ mode ≠ .publicMode then
    ensureDirectManager s dexId who
  pure (some who)

@[simp] theorem getDexInfo_eq_ok {s : Storage T} {dexId : T.DEXId}
    {info : DEXInfo T.AssetId} :
    getDexInfo s dexId = .ok info ↔ s.dexInfos dexId = some info :=
  okOr_eq_ok

@[simp] theorem ensureDexExists_eq_ok {s : Storage T} {dexId : T.DEXId}
    {u : Unit} :
    ensureDexExists s dexId = .ok u ↔ (s.dexInfos dexId).isSome = true :=
  ensure_eq_ok

end DexManager
end SoraParachain

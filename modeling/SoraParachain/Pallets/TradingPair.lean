import SoraParachain.Pallets.DexManager

/-!
# Trading pairs

A registered pair carries the set of its enabled liquidity sources.
-/

namespace SoraParachain
namespace TradingPair

variable {T : Config}

def isTradingPairEnabled (s : Storage T) (dexId : T.DEXId)
    (baseAssetId targetAssetId : T.AssetId) : Result Bool := do
  DexManager.ensureDexExists s dexId
  pure (s.enabledSources dexId ⟨baseAssetId, targetAssetId⟩).isSome

/-- The enabled sources of a registered pair. -/
def listEnabledSourcesForTradingPair (s : Storage T) (dexId : T.DEXId)
    (baseAssetId targetAssetId : T.AssetId) :
    Result (Finset LiquiditySourceType) := do
  DexManager.ensureDexExists s dexId
  okOr (.tradingPair .tradingPairDoesntExist)
    (s.enabledSources dexId ⟨baseAssetId, targetAssetId⟩)

def ensureTradingPairExists (s : Storage T) (dexId : T.DEXId)
    (baseAssetId targetAssetId : T.AssetId) : Result Unit := do
  let enabled ← isTradingPairEnabled s dexId baseAssetId targetAssetId
  ensure (enabled = true) (.tradingPair .tradingPairDoesntExist)

/-- Add a source to the enabled sources of a registered pair. -/
def enableSourceForTradingPair (dexId : T.DEXId)
    (baseAssetId targetAssetId : T.AssetId)
    (sourceType : LiquiditySourceType) : Exec T Unit := do
  Tx.reads fun s =>
    ensureTradingPairExists s dexId baseAssetId targetAssetId
  let pair := ⟨baseAssetId, targetAssetId⟩
  let set ← Tx.reads fun s => unwrap (s.enabledSources dexId pair)
  Tx.modify fun s =>
    { s with
      enabledSources := insert₂ s.enabledSources dexId pair
        (some (insert sourceType set)) }

/-- Register a pair of the base asset with another asset on a DEX. -/
def register (who : T.AccountId) (dexId : T.DEXId)
    (baseAssetId targetAssetId : T.AssetId) : Exec T Unit := do
  let _ ← Tx.reads fun s =>
    DexManager.ensureCanManage s dexId who .publicMode
  Tx.reads fun s => Assets.ensureAssetExists s baseAssetId
  Tx.reads fun s => Assets.ensureAssetExists s targetAssetId
  ensure (baseAssetId ≠ targetAssetId) (.tradingPair .identicalAssetIds)
  ensure (baseAssetId = T.getBaseAssetId) (.tradingPair .forbiddenBaseAssetId)
  let tradingPair := ⟨baseAssetId, targetAssetId⟩
  Tx.reads fun s =>
    ensure (s.enabledSources dexId tradingPair).isNone
      (.tradingPair .tradingPairExists)
  Tx.modify fun s =>
    { s with
      enabledSources := insert₂ s.enabledSources dexId tradingPair (some ∅) }

@[simp] theorem isTradingPairEnabled_eq_ok {s : Storage T} {dexId : T.DEXId}
    {baseAssetId targetAssetId : T.AssetId} {b : Bool} :
    isTradingPairEnabled s dexId baseAssetId targetAssetId = .ok b ↔
      (s.dexInfos dexId).isSome = true ∧
        b = (s.enabledSources dexId ⟨baseAssetId, targetAssetId⟩).isSome := by
  rw [isTradingPairEnabled, Tx.except_bind_eq_ok]
  constructor
  · rintro ⟨_, hdex, h⟩
    exact ⟨DexManager.ensureDexExists_eq_ok.mp hdex,
      (Except.ok.inj h).symm⟩
  · rintro ⟨hdex, rfl⟩
    exact ⟨(), DexManager.ensureDexExists_eq_ok.mpr hdex, rfl⟩

theorem listEnabledSources_of_exists {s : Storage T} {dexId : T.DEXId}
    (hdex : (s.dexInfos dexId).isSome = true)
    (baseAssetId targetAssetId : T.AssetId) :
    listEnabledSourcesForTradingPair s dexId baseAssetId targetAssetId =
      okOr (.tradingPair .tradingPairDoesntExist)
        (s.enabledSources dexId ⟨baseAssetId, targetAssetId⟩) :=
  Tx.except_bind_of_ok (DexManager.ensureDexExists_eq_ok (u := ()).mpr hdex) _

theorem listEnabledSources_of_missing {s : Storage T} {dexId : T.DEXId}
    (hdex : ¬(s.dexInfos dexId).isSome = true)
    (baseAssetId targetAssetId : T.AssetId) :
    listEnabledSourcesForTradingPair s dexId baseAssetId targetAssetId =
      fail (.dexManager .dexDoesNotExist) := by
  rw [listEnabledSourcesForTradingPair, DexManager.ensureDexExists, ensure,
    if_neg hdex]
  rfl

/-- Enabling a source changes the sources of one registered pair. -/
theorem run_enableSourceForTradingPair_ok {dexId : T.DEXId}
    {baseAssetId targetAssetId : T.AssetId}
    {sourceType : LiquiditySourceType} {s s' : Storage T} {u : Unit}
    (h : (enableSourceForTradingPair dexId baseAssetId targetAssetId
      sourceType).run s = (.ok u, s')) :
    ∃ set, s.enabledSources dexId ⟨baseAssetId, targetAssetId⟩ = some set ∧
      s' =
        { s with
          enabledSources := insert₂ s.enabledSources dexId
            ⟨baseAssetId, targetAssetId⟩ (some (insert sourceType set)) } := by
  obtain ⟨_, _, hpair, h⟩ := Tx.run_bind_eq_ok.mp h
  obtain ⟨-, rfl⟩ := Tx.run_reads_eq_ok.mp hpair
  obtain ⟨set, _, hset, h⟩ := Tx.run_bind_eq_ok.mp h
  obtain ⟨hsome, rfl⟩ := Tx.run_reads_eq_ok.mp hset
  rw [Tx.run_modify] at h
  cases h
  exact ⟨set, unwrap_eq_ok.mp hsome, rfl⟩

/-- Registering a pair enables it and no other. -/
theorem run_register_ok {who : T.AccountId} {dexId : T.DEXId}
    {baseAssetId targetAssetId : T.AssetId} {s s' : Storage T} {u : Unit}
    (h : (register who dexId baseAssetId targetAssetId).run s =
      (.ok u, s')) :
    Assets.Exists s baseAssetId ∧ Assets.Exists s targetAssetId ∧
      s' =
        { s with
          enabledSources := insert₂ s.enabledSources dexId
            ⟨baseAssetId, targetAssetId⟩ (some ∅) } := by
  obtain ⟨_, _, hmanage, h⟩ := Tx.run_bind_eq_ok.mp h
  obtain ⟨-, rfl⟩ := Tx.run_reads_eq_ok.mp hmanage
  obtain ⟨_, _, hbase, h⟩ := Tx.run_bind_eq_ok.mp h
  obtain ⟨hbaseExists, rfl⟩ := Tx.run_reads_eq_ok.mp hbase
  obtain ⟨_, _, htarget, h⟩ := Tx.run_bind_eq_ok.mp h
  obtain ⟨htargetExists, rfl⟩ := Tx.run_reads_eq_ok.mp htarget
  obtain ⟨_, _, hne, h⟩ := Tx.run_bind_eq_ok.mp h
  obtain ⟨-, rfl⟩ := Tx.run_liftM_eq_ok.mp hne
  obtain ⟨_, _, hgetBase, h⟩ := Tx.run_bind_eq_ok.mp h
  obtain ⟨-, rfl⟩ := Tx.run_liftM_eq_ok.mp hgetBase
  obtain ⟨_, _, hnew, h⟩ := Tx.run_bind_eq_ok.mp h
  obtain ⟨-, rfl⟩ := Tx.run_reads_eq_ok.mp hnew
  rw [Tx.run_modify] at h
  cases h
  exact ⟨Assets.ensureAssetExists_eq_ok.mp hbaseExists,
    Assets.ensureAssetExists_eq_ok.mp htargetExists, rfl⟩

/-- Only a new pair can be registered, and only with the base asset of the
runtime. -/
theorem fresh_of_register {who : T.AccountId} {dexId : T.DEXId}
    {baseAssetId targetAssetId : T.AssetId} {s s' : Storage T} {u : Unit}
    (h : (register who dexId baseAssetId targetAssetId).run s =
      (.ok u, s')) :
    baseAssetId = T.getBaseAssetId ∧
      s.enabledSources dexId ⟨baseAssetId, targetAssetId⟩ = none := by
  obtain ⟨_, _, hmanage, h⟩ := Tx.run_bind_eq_ok.mp h
  obtain ⟨-, rfl⟩ := Tx.run_reads_eq_ok.mp hmanage
  obtain ⟨_, _, hbase, h⟩ := Tx.run_bind_eq_ok.mp h
  obtain ⟨-, rfl⟩ := Tx.run_reads_eq_ok.mp hbase
  obtain ⟨_, _, htarget, h⟩ := Tx.run_bind_eq_ok.mp h
  obtain ⟨-, rfl⟩ := Tx.run_reads_eq_ok.mp htarget
  obtain ⟨_, _, hne, h⟩ := Tx.run_bind_eq_ok.mp h
  obtain ⟨-, rfl⟩ := Tx.run_liftM_eq_ok.mp hne
  obtain ⟨_, _, hgetBase, h⟩ := Tx.run_bind_eq_ok.mp h
  obtain ⟨hbaseIs, rfl⟩ := Tx.run_liftM_eq_ok.mp hgetBase
  obtain ⟨_, _, hnew, -⟩ := Tx.run_bind_eq_ok.mp h
  obtain ⟨hnone, rfl⟩ := Tx.run_reads_eq_ok.mp hnew
  exact ⟨ensure_eq_ok.mp hbaseIs,
    Option.isNone_iff_eq_none.mp (ensure_eq_ok.mp hnone)⟩

end TradingPair
end SoraParachain

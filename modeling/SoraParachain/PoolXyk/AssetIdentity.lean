import SoraParachain.Common.AssetId32
import SoraParachain.PoolXyk.PoolLifetime

/-!
# Pools and identifiers of thirty-two bytes

The runtime identifies assets by thirty-two bytes.  A pool is named after the
technical assets that its two assets convert to, so that identifiers which
convert to the same technical asset share a pool.
-/

namespace SoraParachain

/-- What remains to be chosen for a runtime whose assets are identified by
thirty-two bytes. -/
structure RuntimeParameters where
  AccountId : Type
  DEXId : Type
  [decEqAccountId : DecidableEq AccountId]
  [decEqDEXId : DecidableEq DEXId]
  currency : MultiCurrency AssetId32 AccountId
  system : System AccountId
  getBaseAssetId : AssetId32
  defaultAccountId : AccountId
  techAccountIdRepr :
    TechAccountId AccountId (TechAssetId PredefinedAssetId) DEXId → AccountId
  assetIdOfRecord : AssetRecord DEXId AccountId → AssetId32
  assetIdOfNonce : AccountId → ℕ → AssetId32
  hashAssetId : AssetId32 → H512
  hashAssetIdPair : AssetId32 → AssetId32 → H512
  hashDEXId : DEXId → H512
  markingAssetTag : ℕ

namespace RuntimeParameters

open PredefinedAssetId (isRepresentation)

/-- The encoding of a technical asset is short, so the conversion back cannot
stop the runtime. -/
theorem isSome_ofTechAssetId (a : TechAssetId PredefinedAssetId) :
    (AssetId32.ofTechAssetId PredefinedAssetId.codec isRepresentation a).isSome =
      true := by
  cases a with
  | wrapped a =>
      rw [TechAssetId.ofTechAssetId_predefined]
      rfl
  | escaped code => rfl

/-- The runtime with the conversions between the two kinds of identifiers. -/
abbrev config (P : RuntimeParameters) : Config where
  AccountId := P.AccountId
  AssetId := AssetId32
  TechAssetId := TechAssetId PredefinedAssetId
  DEXId := P.DEXId
  decEqAccountId := P.decEqAccountId
  decEqDEXId := P.decEqDEXId
  currency := P.currency
  system := P.system
  getBaseAssetId := P.getBaseAssetId
  defaultAccountId := P.defaultAccountId
  techAssetIdInto a :=
    (AssetId32.ofTechAssetId PredefinedAssetId.codec isRepresentation a).get
      (isSome_ofTechAssetId a)
  techAssetIdTryFrom a := some (TechAssetId.tryFrom PredefinedAssetId.codec a)
  techAccountIdRepr := P.techAccountIdRepr
  assetIdOfRecord := P.assetIdOfRecord
  assetIdOfNonce := P.assetIdOfNonce
  hashAssetId := P.hashAssetId
  hashAssetIdPair := P.hashAssetIdPair
  hashDEXId := P.hashDEXId
  markingAssetTag := P.markingAssetTag

end RuntimeParameters

namespace PoolXyk

open AssetId32 (Canonical)

variable (P : RuntimeParameters)

/-- In this runtime the reversible identifiers are the canonical ones. -/
theorem reversible_iff_canonical {a : AssetId32} :
    Reversible (show P.config.AssetId from a) ↔ Canonical a := by
  rw [← AssetId32.ofTechAssetId_tryFrom_iff]
  unfold Reversible
  constructor
  · intro h
    have hback := h _ rfl
    exact Option.eq_some_of_isSome (RuntimeParameters.isSome_ofTechAssetId _) |>.trans
      (congrArg some hback)
  · intro h techAsset htech
    obtain rfl := Option.some.inj htech
    exact Option.get_of_eq_some _ h

/-- Two target assets of one base asset share a pool. -/
def SharePool (a b : AssetId32) : Prop :=
  ∃ (s : Storage P.config) (dexId : P.config.DEXId)
    (info : DEXInfo P.config.AssetId) (pairA pairB : _)
    (techAcc : TechAccountIdOf P.config),
    s.dexInfos dexId = some info ∧
    techAccountFromDexAndAssetPair s dexId info.baseAssetId a =
      .ok (pairA, techAcc) ∧
    techAccountFromDexAndAssetPair s dexId info.baseAssetId b =
      .ok (pairB, techAcc)

/-- A pool tells which technical asset its target asset converts to. -/
theorem tryFrom_eq_of_sharePool {a b : AssetId32} (h : SharePool P a b) :
    TechAssetId.tryFrom PredefinedAssetId.codec a =
      TechAssetId.tryFrom PredefinedAssetId.codec b := by
  obtain ⟨s, dexId, info, pairA, pairB, techAcc, hdex, hA, hB⟩ := h
  obtain ⟨infoA, targetA, hinfoA, hneA, hcaseA, -, htargetA, hnameA⟩ :=
    techAccountFromDexAndAssetPair_eq_ok.mp hA
  obtain ⟨infoB, targetB, hinfoB, hneB, hcaseB, -, htargetB, hnameB⟩ :=
    techAccountFromDexAndAssetPair_eq_ok.mp hB
  rw [hdex] at hinfoA hinfoB
  cases hinfoA
  cases hinfoB
  have hpair : pairA = pairB := by
    rw [hnameA] at hnameB
    simpa [TechAccountId.toTechUnitFromDexAndTradingPair] using hnameB
  have htarget : ∀ {x target : AssetId32}, info.baseAssetId ≠ x →
      (info.baseAssetId = info.baseAssetId ∧ target = x ∨
        info.baseAssetId = x ∧ target = info.baseAssetId) → target = x := by
    intro x target hne hcase
    rcases hcase with hcase | hcase
    · exact hcase.2
    · exact absurd hcase.1 hne
  rw [htarget hneA hcaseA] at htargetA
  rw [htarget hneB hcaseB] at htargetB
  rw [hpair] at htargetA
  exact Option.some.inj (htargetA.trans htargetB.symm)

/-- Two identifiers survive the conversion, are told apart by it and never share
a pool exactly when both are canonical. -/
theorem identifiers_survive_iff (a b : AssetId32) :
    (AssetId32.ofTechAssetId PredefinedAssetId.codec
          PredefinedAssetId.isRepresentation
          (TechAssetId.tryFrom PredefinedAssetId.codec a) = some a ∧
        AssetId32.ofTechAssetId PredefinedAssetId.codec
          PredefinedAssetId.isRepresentation
          (TechAssetId.tryFrom PredefinedAssetId.codec b) = some b ∧
        (a ≠ b → TechAssetId.tryFrom PredefinedAssetId.codec a ≠
          TechAssetId.tryFrom PredefinedAssetId.codec b) ∧
        (a ≠ b → ¬SharePool P a b)) ↔
      Canonical a ∧ Canonical b := by
  rw [AssetId32.ofTechAssetId_tryFrom_iff, AssetId32.ofTechAssetId_tryFrom_iff]
  constructor
  · intro h
    exact ⟨h.1, h.2.1⟩
  · intro h
    obtain ⟨ha, hb⟩ := h
    have hinj : a ≠ b → TechAssetId.tryFrom PredefinedAssetId.codec a ≠
        TechAssetId.tryFrom PredefinedAssetId.codec b := by
      intro hne heq
      exact hne (ha.tryFrom_inj hb heq)
    exact ⟨ha, hb, hinj, fun hne hshare =>
      hinj hne (tryFrom_eq_of_sharePool P hshare)⟩

/-- An identifier that counts three bytes and starts like the one of DOT. -/
def paddedDot : AssetId32 :=
  ⟨3 :: 0 :: 1 :: List.replicate 29 0, by simp⟩

/-- It is read as DOT, returns as the identifier of DOT, and shares the technical
asset with it. -/
theorem paddedDot_becomes_dot :
    AssetId32.ofTechAssetId PredefinedAssetId.codec
        PredefinedAssetId.isRepresentation
        (TechAssetId.tryFrom PredefinedAssetId.codec paddedDot) ≠
          some paddedDot ∧
      paddedDot ≠ .ofAssetId .dot ∧
      TechAssetId.tryFrom PredefinedAssetId.codec paddedDot =
        TechAssetId.tryFrom PredefinedAssetId.codec (.ofAssetId .dot) := by
  decide

end PoolXyk
end SoraParachain

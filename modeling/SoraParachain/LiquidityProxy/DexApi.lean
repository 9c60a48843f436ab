import SoraParachain.LiquidityProxy.Registry

/-!
# Listing the sources of a pair

The DEX API keeps the types of sources that are enabled on the chain.  For a pair it
lists those that pass a filter and can exchange the pair.  Whether a source can is
up to the source.
-/

namespace SoraParachain
namespace LiquidityProxy

variable {T : Config}

/-- Whether a filter lets a type of sources pass.  The first selected type that is
the same decides. -/
def LiquiditySourceFilter.matchesIndex {DEXId : Type}
    (filter : LiquiditySourceFilter DEXId) (index : LiquiditySourceType) :
    Bool :=
  let rec go : List LiquiditySourceType → Bool
    | [] => filter.forbidSelected
    | idx :: rest => if idx = index then !filter.forbidSelected else go rest
  go filter.selected

/-- What the DEX API reads of the storage, and the answers of the sources. -/
structure DexApi (T : Config) (S : Type) where
  enabledSourceTypes : S → List LiquiditySourceType
  dexInfos : S → T.DEXId → Option (DEXInfo T.AssetId)
  canExchange : S → LiquiditySourceId T.DEXId → T.AssetId → T.AssetId → Bool

namespace DexApi

variable {S : Type} (api : DexApi T S)

/-- The source of an enabled type, if it is listed. -/
def listedSource (s : S) (inputAssetId outputAssetId : T.AssetId)
    (filter : LiquiditySourceFilter T.DEXId)
    (sourceType : LiquiditySourceType) : Option (LiquiditySourceId T.DEXId) :=
  if filter.matchesIndex sourceType &&
      api.canExchange s ⟨filter.dexId, sourceType⟩ inputAssetId
        outputAssetId then
    some ⟨filter.dexId, sourceType⟩
  else none

def listLiquiditySources (s : S) (inputAssetId outputAssetId : T.AssetId)
    (filter : LiquiditySourceFilter T.DEXId) :
    Result (List (LiquiditySourceId T.DEXId)) := do
  let supportedTypes := api.enabledSourceTypes s
  ensure (api.dexInfos s filter.dexId).isSome (.dexManager .dexDoesNotExist)
  pure (supportedTypes.filterMap
    (api.listedSource s inputAssetId outputAssetId filter))

end DexApi

/-! ## What is listed -/

theorem LiquiditySourceFilter.matchesIndex_eq {DEXId : Type}
    (filter : LiquiditySourceFilter DEXId) (index : LiquiditySourceType) :
    filter.matchesIndex index =
      if index ∈ filter.selected then !filter.forbidSelected
      else filter.forbidSelected := by
  unfold matchesIndex
  induction filter.selected with
  | nil => rfl
  | cons idx rest ih =>
      rw [matchesIndex.go, ih]
      by_cases hidx : idx = index
      · rw [if_pos hidx, if_pos (hidx ▸ List.mem_cons_self)]
      · have hmem : index ∈ idx :: rest ↔ index ∈ rest := by
          rw [List.mem_cons, or_iff_right fun h => hidx h.symm]
        rw [if_neg hidx]
        simp only [hmem]

namespace DexApi

variable {S : Type} {api : DexApi T S} {s : S}
variable {inputAssetId outputAssetId : T.AssetId}
variable {filter : LiquiditySourceFilter T.DEXId}
variable {sources : List (LiquiditySourceId T.DEXId)}

theorem listedSource_eq_some {sourceType : LiquiditySourceType}
    {src : LiquiditySourceId T.DEXId} :
    api.listedSource s inputAssetId outputAssetId filter sourceType =
        some src ↔
      src = ⟨filter.dexId, sourceType⟩ ∧
        filter.matchesIndex sourceType = true ∧
        api.canExchange s src inputAssetId outputAssetId = true := by
  unfold listedSource
  split_ifs with h
  · rw [Bool.and_eq_true] at h
    constructor
    · intro heq
      rw [← Option.some.inj heq]
      exact ⟨rfl, h⟩
    · intro hsrc
      rw [hsrc.1]
  · rw [Bool.and_eq_true] at h
    constructor
    · intro heq
      cases heq
    · intro hsrc
      rw [hsrc.1] at hsrc
      exact absurd hsrc.2 h

theorem listLiquiditySources_eq_ok :
    api.listLiquiditySources s inputAssetId outputAssetId filter =
        .ok sources ↔
      (api.dexInfos s filter.dexId).isSome = true ∧
        sources = (api.enabledSourceTypes s).filterMap
          (api.listedSource s inputAssetId outputAssetId filter) := by
  rw [listLiquiditySources, Tx.except_bind_eq_ok]
  constructor
  · intro h
    obtain ⟨_, hdex, h⟩ := h
    exact ⟨ensure_eq_ok.mp hdex, (Except.ok.inj h).symm⟩
  · intro h
    exact ⟨(), ensure_eq_ok.mpr h.1, congrArg Except.ok h.2.symm⟩

/-- A listed source is on the DEX of the filter and passes it. -/
theorem listed_passes
    (h : api.listLiquiditySources s inputAssetId outputAssetId filter =
      .ok sources) :
    ∀ src ∈ sources, src.dexId = filter.dexId ∧
      filter.matchesIndex src.liquiditySourceIndex = true := by
  intro src hsrc
  obtain ⟨-, rfl⟩ := listLiquiditySources_eq_ok.mp h
  obtain ⟨sourceType, -, hlisted⟩ := List.mem_filterMap.mp hsrc
  obtain ⟨rfl, hmatches, -⟩ := listedSource_eq_some.mp hlisted
  exact ⟨rfl, hmatches⟩

end DexApi

end LiquidityProxy
end SoraParachain

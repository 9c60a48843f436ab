import Mathlib.Data.Finset.Lattice.Basic
import SoraParachain.LiquidityProxy.ExchangeSpec
import SoraParachain.Mock
import SoraParachain.Pallets.TradingPair

/-!
# Paths between assets

Two queries look the sources of a path up in the registered pairs.  One lists the
sources and looks both pairs of a path through the base asset up before it decides.
The other one only says whether there are any, and does not look at the second pair
when the first one has none, so a second pair that is not registered goes unnoticed
in one direction and is an error in the other.
-/

namespace SoraParachain
namespace LiquidityProxy

variable {T : Config}

/-- A set of sources as a vector, in the order of the enumeration. -/
def sourcesToVec (sources : Finset LiquiditySourceType) :
    List LiquiditySourceType :=
  [.xykPool, .bondingCurvePool, .multicollateralBondingCurvePool, .mockPool,
    .mockPool2, .mockPool3, .mockPool4].filter (· ∈ sources)

/-- Not a full sort: the base asset goes first if it is the input. -/
def weakSortPair (inputAssetId outputAssetId : T.AssetId) :
    TradingPair T.AssetId :=
  if inputAssetId = T.getBaseAssetId then ⟨inputAssetId, outputAssetId⟩
  else ⟨outputAssetId, inputAssetId⟩

/-- Whether two assets can be exchanged through any enabled sources. -/
def isPathAvailable (s : Storage T) (dexId : T.DEXId)
    (inputAssetId outputAssetId : T.AssetId) : Result Bool :=
  match constructTrivialPath inputAssetId outputAssetId with
  | .direct fromAssetId toAssetId => do
      let pair : TradingPair T.AssetId := weakSortPair fromAssetId toAssetId
      let sources ← TradingPair.listEnabledSourcesForTradingPair s dexId
        pair.baseAssetId pair.targetAssetId
      pure (decide (sources ≠ ∅))
  | .twofold fromAssetId intermediateAssetId toAssetId => do
      let firstSwap ← TradingPair.listEnabledSourcesForTradingPair s dexId
        intermediateAssetId fromAssetId
      -- The second pair is not looked up if the first one has no sources.
      if firstSwap ≠ ∅ then do
        let secondSwap ← TradingPair.listEnabledSourcesForTradingPair s dexId
          intermediateAssetId toAssetId
        pure (decide (secondSwap ≠ ∅))
      else pure false

/-- The sources of either pair of a path, each of which must have some. -/
def listEnabledSourcesForPath (s : Storage T) (dexId : T.DEXId)
    (inputAssetId outputAssetId : T.AssetId) :
    Result (List LiquiditySourceType) :=
  match constructTrivialPath inputAssetId outputAssetId with
  | .direct fromAssetId toAssetId => do
      let pair : TradingPair T.AssetId := weakSortPair fromAssetId toAssetId
      let sources ← TradingPair.listEnabledSourcesForTradingPair s dexId
        pair.baseAssetId pair.targetAssetId
      if sources = ∅ then fail (proxyError .unavailableExchangePath)
      else pure (sourcesToVec sources)
  | .twofold fromAssetId intermediateAssetId toAssetId => do
      let firstSwap ← TradingPair.listEnabledSourcesForTradingPair s dexId
        intermediateAssetId fromAssetId
      let secondSwap ← TradingPair.listEnabledSourcesForTradingPair s dexId
        intermediateAssetId toAssetId
      if firstSwap ≠ ∅ ∧ secondSwap ≠ ∅ then
        pure (sourcesToVec (firstSwap ∪ secondSwap))
      else fail (proxyError .unavailableExchangePath)

/-! ## Vectors of sources -/

theorem mem_sourcesToVec {source : LiquiditySourceType}
    {sources : Finset LiquiditySourceType} :
    source ∈ sourcesToVec sources ↔ source ∈ sources := by
  rw [sourcesToVec, List.mem_filter, decide_eq_true_iff, and_iff_right]
  cases source <;> decide

theorem sourcesToVec_ne_nil {sources : Finset LiquiditySourceType}
    (h : sources ≠ ∅) : sourcesToVec sources ≠ [] := by
  obtain ⟨source, hsource⟩ := Finset.nonempty_iff_ne_empty.mpr h
  exact List.ne_nil_of_mem (mem_sourcesToVec.mpr hsource)

/-! ## Two lookups -/

/-- Whether both lookups find sources, the second one only made if the first one
does. -/
def bothAvailable (first second : Result (Finset LiquiditySourceType)) :
    Result Bool := do
  let firstSwap ← first
  if firstSwap ≠ ∅ then do
    let secondSwap ← second
    pure (decide (secondSwap ≠ ∅))
  else pure false

/-- The sources that two lookups find. -/
def bothSources (first second : Result (Finset LiquiditySourceType)) :
    Result (List LiquiditySourceType) := do
  let firstSwap ← first
  let secondSwap ← second
  if firstSwap ≠ ∅ ∧ secondSwap ≠ ∅ then
    pure (sourcesToVec (firstSwap ∪ secondSwap))
  else fail (proxyError .unavailableExchangePath)

section

variable {first second : Result (Finset LiquiditySourceType)}
variable {x y : Option (Finset LiquiditySourceType)} {e : DispatchError}

/-- Both lookups find sources. -/
def BothFind (first second : Result (Finset LiquiditySourceType)) : Prop :=
  ∃ f g, first = .ok f ∧ second = .ok g ∧ f ≠ ∅ ∧ g ≠ ∅

theorem bothAvailable_eq_true :
    bothAvailable first second = .ok true ↔ BothFind first second := by
  rw [bothAvailable, Tx.except_bind_eq_ok]
  constructor
  · intro h
    obtain ⟨f, hf, h⟩ := h
    split_ifs at h with hne
    · obtain ⟨g, hg, h⟩ := Tx.except_bind_eq_ok.mp h
      exact ⟨f, g, hf, hg, hne, of_decide_eq_true (Except.ok.inj h)⟩
    · cases h
  · intro h
    obtain ⟨f, g, hf, hg, hfne, hgne⟩ := h
    refine ⟨f, hf, ?_⟩
    rw [if_pos hfne]
    refine Tx.except_bind_eq_ok.mpr ⟨g, hg, ?_⟩
    rw [decide_eq_true hgne]
    rfl

theorem bothSources_eq_ok {sources : List LiquiditySourceType} :
    bothSources first second = .ok sources ↔
      ∃ f g, first = .ok f ∧ second = .ok g ∧ f ≠ ∅ ∧ g ≠ ∅ ∧
        sources = sourcesToVec (f ∪ g) := by
  rw [bothSources, Tx.except_bind_eq_ok]
  constructor
  · intro h
    obtain ⟨f, hf, h⟩ := h
    obtain ⟨g, hg, h⟩ := Tx.except_bind_eq_ok.mp h
    split_ifs at h with hne
    · exact ⟨f, g, hf, hg, hne.1, hne.2, (Except.ok.inj h).symm⟩
    · cases h
  · intro h
    obtain ⟨f, g, hf, hg, hfne, hgne, rfl⟩ := h
    refine ⟨f, hf, Tx.except_bind_eq_ok.mpr ⟨g, hg, ?_⟩⟩
    exact if_pos ⟨hfne, hgne⟩

/-- Listing looks both up whatever the first one finds. -/
theorem bothSources_comm :
    bothSources (okOr e x) (okOr e y) = bothSources (okOr e y) (okOr e x) := by
  cases x with
  | none =>
      cases y with
      | none => rfl
      | some g => rfl
  | some f =>
      cases y with
      | none => rfl
      | some g =>
          change (if f ≠ ∅ ∧ g ≠ ∅ then _ else _) =
            (if g ≠ ∅ ∧ f ≠ ∅ then _ else _)
          simp only [and_comm (a := g ≠ ∅), Finset.union_comm g f]

/-- One lookup finds a pair without sources, the other one finds no pair. -/
def HalfFound (x y : Option (Finset LiquiditySourceType)) : Prop :=
  x = some ∅ ∧ y = none ∨ x = none ∧ y = some ∅

/-- Whether both are available depends on which is looked up first only if the
first one hides that the second one is missing. -/
theorem bothAvailable_comm_iff :
    bothAvailable (okOr e x) (okOr e y) =
        bothAvailable (okOr e y) (okOr e x) ↔ ¬HalfFound x y := by
  have hmissing : ∀ f : Finset LiquiditySourceType,
      bothAvailable (okOr e (some f)) (okOr e none) =
          bothAvailable (okOr e none) (okOr e (some f)) ↔ f ≠ ∅ := by
    intro f
    change (if f ≠ ∅ then fail e else pure false) = fail e ↔ f ≠ ∅
    by_cases hf : f = ∅
    · rw [if_neg (not_not.mpr hf)]
      exact iff_of_false (fun h => by cases h) (not_not.mpr hf)
    · rw [if_pos hf]
      exact iff_of_true rfl hf
  cases x with
  | none =>
      cases y with
      | none => simp [HalfFound]
      | some g =>
          rw [eq_comm, hmissing g]
          simp [HalfFound]
  | some f =>
      cases y with
      | none =>
          rw [hmissing f]
          simp [HalfFound]
      | some g =>
          have hcomm : bothAvailable (okOr e (some f)) (okOr e (some g)) =
              bothAvailable (okOr e (some g)) (okOr e (some f)) := by
            change (if f ≠ ∅ then pure (decide (g ≠ ∅)) else pure false) =
              (if g ≠ ∅ then pure (decide (f ≠ ∅)) else pure false)
            by_cases hf : f = ∅
            · by_cases hg : g = ∅
              · simp [hf, hg]
              · simp [hf, hg]
            · by_cases hg : g = ∅
              · simp [hf, hg]
              · simp [hf, hg]
          simp [HalfFound, hcomm]

end

/-! ## Queries by the pairs of a path -/

section

variable {s : Storage T} {dexId : T.DEXId} {a b : T.AssetId}

/-- What a query finds for the pair of the base asset and another one. -/
def lookupLeg (s : Storage T) (dexId : T.DEXId) (asset : T.AssetId) :
    Result (Finset LiquiditySourceType) :=
  TradingPair.listEnabledSourcesForTradingPair s dexId T.getBaseAssetId asset

/-- The asset of a direct path that is not the base asset. -/
def otherAsset (a b : T.AssetId) : T.AssetId :=
  if a = T.getBaseAssetId then b else a

theorem weakSortPair_of_direct (h : IsDirect T a b) :
    weakSortPair a b = ⟨T.getBaseAssetId, otherAsset a b⟩ := by
  unfold weakSortPair otherAsset
  by_cases ha : a = T.getBaseAssetId
  · rw [if_pos ha, if_pos ha, ha]
  · rw [if_neg ha, if_neg ha, h.resolve_left ha]

theorem otherAsset_comm (hne : a ≠ b) (h : IsDirect T a b) :
    otherAsset a b = otherAsset b a := by
  unfold otherAsset
  by_cases ha : a = T.getBaseAssetId
  · rw [if_pos ha, if_neg fun hb => hne (ha.trans hb.symm)]
  · rw [if_neg ha, if_pos (h.resolve_left ha)]

/-- A direct path has one pair, which takes the place of both. -/
theorem isPathAvailable_of_direct (h : IsDirect T a b) :
    isPathAvailable s dexId a b =
      bothAvailable (lookupLeg s dexId (otherAsset a b))
        (lookupLeg s dexId (otherAsset a b)) := by
  rw [isPathAvailable, constructTrivialPath_of_direct h]
  dsimp only
  rw [weakSortPair_of_direct h]
  change (do
    let sources ← lookupLeg s dexId (otherAsset a b)
    pure (decide (sources ≠ ∅))) = _
  cases hleg : lookupLeg s dexId (otherAsset a b) with
  | error e => rfl
  | ok sources =>
      change Except.ok (decide (sources ≠ ∅)) =
        (if sources ≠ ∅ then .ok (decide (sources ≠ ∅)) else .ok false)
      by_cases hsources : sources = ∅
      · simp [hsources]
      · simp [hsources]

theorem listEnabledSourcesForPath_of_direct (h : IsDirect T a b) :
    listEnabledSourcesForPath s dexId a b =
      bothSources (lookupLeg s dexId (otherAsset a b))
        (lookupLeg s dexId (otherAsset a b)) := by
  rw [listEnabledSourcesForPath, constructTrivialPath_of_direct h]
  dsimp only
  rw [weakSortPair_of_direct h]
  change (do
    let sources ← lookupLeg s dexId (otherAsset a b)
    if sources = ∅ then fail (proxyError .unavailableExchangePath)
    else pure (sourcesToVec sources)) = _
  cases hleg : lookupLeg s dexId (otherAsset a b) with
  | error e => rfl
  | ok sources =>
      change (if sources = ∅ then fail (proxyError .unavailableExchangePath)
          else pure (sourcesToVec sources)) =
        (if sources ≠ ∅ ∧ sources ≠ ∅ then
            pure (sourcesToVec (sources ∪ sources))
          else fail (proxyError .unavailableExchangePath))
      by_cases hsources : sources = ∅
      · simp [hsources]
      · simp [hsources]

theorem isPathAvailable_of_not_direct (h : ¬IsDirect T a b) :
    isPathAvailable s dexId a b =
      bothAvailable (lookupLeg s dexId a) (lookupLeg s dexId b) := by
  rw [isPathAvailable, constructTrivialPath_of_not_direct h]
  rfl

theorem listEnabledSourcesForPath_of_not_direct (h : ¬IsDirect T a b) :
    listEnabledSourcesForPath s dexId a b =
      bothSources (lookupLeg s dexId a) (lookupLeg s dexId b) := by
  rw [listEnabledSourcesForPath, constructTrivialPath_of_not_direct h]
  rfl

/-- Both queries look the same pairs up. -/
theorem exists_legs (s : Storage T) (dexId : T.DEXId) (a b : T.AssetId) :
    ∃ first second,
      isPathAvailable s dexId a b = bothAvailable first second ∧
        listEnabledSourcesForPath s dexId a b = bothSources first second := by
  by_cases h : IsDirect T a b
  · exact ⟨_, _, isPathAvailable_of_direct h,
      listEnabledSourcesForPath_of_direct h⟩
  · exact ⟨_, _, isPathAvailable_of_not_direct h,
      listEnabledSourcesForPath_of_not_direct h⟩

/-- A path is available exactly when its sources are listed. -/
theorem isPathAvailable_iff_listed :
    isPathAvailable s dexId a b = .ok true ↔
      ∃ sources, listEnabledSourcesForPath s dexId a b = .ok sources := by
  obtain ⟨first, second, havailable, hsources⟩ := exists_legs s dexId a b
  rw [havailable, hsources, bothAvailable_eq_true]
  constructor
  · intro h
    obtain ⟨f, g, hf, hg, hfne, hgne⟩ := h
    exact ⟨_, bothSources_eq_ok.mpr ⟨f, g, hf, hg, hfne, hgne, rfl⟩⟩
  · intro h
    obtain ⟨sources, h⟩ := h
    obtain ⟨f, g, hf, hg, hfne, hgne, -⟩ := bothSources_eq_ok.mp h
    exact ⟨f, g, hf, hg, hfne, hgne⟩

theorem listed_ne_nil {sources : List LiquiditySourceType}
    (h : listEnabledSourcesForPath s dexId a b = .ok sources) :
    sources ≠ [] := by
  obtain ⟨first, second, -, hsources⟩ := exists_legs s dexId a b
  rw [hsources] at h
  obtain ⟨f, g, -, -, hfne, -, rfl⟩ := bothSources_eq_ok.mp h
  apply sourcesToVec_ne_nil
  intro hempty
  have hsub : f ⊆ f ∪ g := Finset.subset_union_left
  rw [hempty] at hsub
  exact hfne (Finset.subset_empty.mp hsub)

/-! ## Both directions -/

/-- The two queries agree on a path, list something, and do not depend on its
direction. -/
structure PathQueriesAgree (s : Storage T) (dexId : T.DEXId)
    (a b : T.AssetId) : Prop where
  available_iff : isPathAvailable s dexId a b = .ok true ↔
    ∃ sources, listEnabledSourcesForPath s dexId a b = .ok sources
  listed_ne_nil : ∀ sources,
    listEnabledSourcesForPath s dexId a b = .ok sources → sources ≠ []
  available_symm : isPathAvailable s dexId a b = isPathAvailable s dexId b a
  listed_symm : listEnabledSourcesForPath s dexId a b =
    listEnabledSourcesForPath s dexId b a

/-- A path through the base asset on a DEX that exists: one of its pairs is
registered without any source, the other one is not registered. -/
structure HalfRegistered (s : Storage T) (dexId : T.DEXId)
    (a b : T.AssetId) : Prop where
  not_direct : ¬IsDirect T a b
  dex_exists : (s.dexInfos dexId).isSome = true
  half : HalfFound (s.enabledSources dexId ⟨T.getBaseAssetId, a⟩)
    (s.enabledSources dexId ⟨T.getBaseAssetId, b⟩)

theorem IsDirect.symm (h : IsDirect T a b) : IsDirect T b a := Or.symm h

/-- Only whether a path is available can depend on its direction. -/
theorem listed_symm (hne : a ≠ b) :
    listEnabledSourcesForPath s dexId a b =
      listEnabledSourcesForPath s dexId b a := by
  by_cases h : IsDirect T a b
  · rw [listEnabledSourcesForPath_of_direct h,
      listEnabledSourcesForPath_of_direct h.symm, otherAsset_comm hne h]
  · have hsymm : ¬IsDirect T b a := fun h' => h h'.symm
    rw [listEnabledSourcesForPath_of_not_direct h,
      listEnabledSourcesForPath_of_not_direct hsymm]
    unfold lookupLeg
    by_cases hdex : (s.dexInfos dexId).isSome = true
    · simp only [TradingPair.listEnabledSources_of_exists hdex]
      exact bothSources_comm
    · simp only [TradingPair.listEnabledSources_of_missing hdex]

theorem available_symm_iff (hne : a ≠ b) :
    isPathAvailable s dexId a b = isPathAvailable s dexId b a ↔
      ¬HalfRegistered s dexId a b := by
  by_cases h : IsDirect T a b
  · rw [isPathAvailable_of_direct h, isPathAvailable_of_direct h.symm,
      otherAsset_comm hne h]
    exact iff_of_true rfl fun hhalf => hhalf.not_direct h
  · have hsymm : ¬IsDirect T b a := fun h' => h h'.symm
    rw [isPathAvailable_of_not_direct h, isPathAvailable_of_not_direct hsymm]
    unfold lookupLeg
    by_cases hdex : (s.dexInfos dexId).isSome = true
    · simp only [TradingPair.listEnabledSources_of_exists hdex]
      rw [bothAvailable_comm_iff]
      exact not_congr ⟨fun hhalf => ⟨h, hdex, hhalf⟩, fun hhalf => hhalf.half⟩
    · simp only [TradingPair.listEnabledSources_of_missing hdex]
      exact iff_of_true trivial fun hhalf => hdex hhalf.dex_exists

/-- The queries agree and do not depend on the direction unless one pair of the
path has no sources and the other one is not registered. -/
theorem path_queries_agree_iff (s : Storage T) (dexId : T.DEXId)
    (hne : a ≠ b) :
    PathQueriesAgree s dexId a b ↔ ¬HalfRegistered s dexId a b := by
  rw [← available_symm_iff hne]
  constructor
  · intro h
    exact h.available_symm
  · intro h
    exact ⟨isPathAvailable_iff_listed, fun _ => listed_ne_nil, h,
      listed_symm hne⟩

end

/-- The genesis after Bob registered red pepper, for which no source is enabled
yet. -/
def pepperRegistered : Storage Mock.runtime :=
  ((TradingPair.register (T := Mock.runtime) Mock.bob.account Mock.dexA
    Mock.goldenTicket Mock.redPepper).run Mock.genesis).2

theorem path_queries_agree_iff_ticket :
    PathQueriesAgree pepperRegistered Mock.dexA Mock.redPepper
        Mock.goldenTicket ↔
      ¬HalfRegistered pepperRegistered Mock.dexA Mock.redPepper
        Mock.goldenTicket :=
  path_queries_agree_iff pepperRegistered Mock.dexA (by decide)

/-- From red pepper there is no path to black pepper, and the way back is an
error. -/
theorem path_query_depends_on_direction :
    Mock.redPepper ≠ Mock.blackPepper ∧
      isPathAvailable pepperRegistered Mock.dexA Mock.redPepper
          Mock.blackPepper = .ok false ∧
        isPathAvailable pepperRegistered Mock.dexA Mock.blackPepper
            Mock.redPepper =
          fail (.tradingPair .tradingPairDoesntExist) ∧
        ¬PathQueriesAgree pepperRegistered Mock.dexA Mock.redPepper
          Mock.blackPepper := by
  have hforth : isPathAvailable pepperRegistered Mock.dexA Mock.redPepper
      Mock.blackPepper = .ok false := by
    decide +kernel
  have hback : isPathAvailable pepperRegistered Mock.dexA Mock.blackPepper
      Mock.redPepper = fail (.tradingPair .tradingPairDoesntExist) := by
    decide +kernel
  refine ⟨by decide, hforth, hback, ?_⟩
  intro h
  have hsymm := h.available_symm
  rw [hforth, hback] at hsymm
  cases hsymm

end LiquidityProxy
end SoraParachain

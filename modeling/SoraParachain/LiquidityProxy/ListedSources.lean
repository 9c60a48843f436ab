import SoraParachain.Library.Traversal
import SoraParachain.LiquidityProxy.DexApi
import SoraParachain.LiquidityProxy.ExchangeSpec
import SoraParachain.LiquidityProxy.Mock
import SoraParachain.LiquidityProxy.Planners

/-!
# What a split depends on

A source that is not listed for a pair should not matter for a quote.  The reserves
of the XYK pool do matter: the fast split reads them whichever source is listed next
to the primary market.  Every other quote depends on the listed sources only.
-/

namespace SoraParachain
namespace LiquidityProxy

variable {T : Config}

/-- The XYK pool is not among the sources. -/
def WithoutXyk (sources : List (LiquiditySourceId T.DEXId)) : Prop :=
  ∀ src ∈ sources, src.liquiditySourceIndex ≠ .xykPool

instance (sources : List (LiquiditySourceId T.DEXId)) :
    Decidable (WithoutXyk sources) :=
  inferInstanceAs (Decidable (∀ src ∈ sources, _))

/-- A proxy whose registry is the DEX API. -/
def ProxyConfig.ListsWith (P : ProxyConfig T) (api : DexApi T (ChainOf P)) :
    Prop :=
  ∀ s inputAssetId outputAssetId filter,
    P.listLiquiditySources s inputAssetId outputAssetId filter =
      api.listLiquiditySources s inputAssetId outputAssetId filter

/-- Two states that differ in the reserves of the XYK pool only: every other source
quotes and can exchange the same, and the primary market has the same prices and
reserves. -/
structure SameButXyk (P : ProxyConfig T) (api : DexApi T (ChainOf P))
    (s s' : ChainOf P) : Prop where
  enabledSourceTypes : api.enabledSourceTypes s = api.enabledSourceTypes s'
  dexInfos : api.dexInfos s = api.dexInfos s'
  canExchange : ∀ src, src.liquiditySourceIndex ≠ .xykPool →
    api.canExchange s src = api.canExchange s' src
  quote : ∀ src, src.liquiditySourceIndex ≠ .xykPool →
    P.quote s src = P.quote s' src
  buyPrice : P.buyPrice s = P.buyPrice s'
  sellPrice : P.sellPrice s = P.sellPrice s'
  collateralReserves : P.collateralReserves s = P.collateralReserves s'

/-- Where these sources are listed, a quote is the same in any two states that
differ in the reserves of the XYK pool only. -/
def SplitIndependent (T : Config) (inputAssetId outputAssetId : T.AssetId)
    (amount : SwapAmount) (filter : LiquiditySourceFilter T.DEXId)
    (sources : List (LiquiditySourceId T.DEXId)) : Prop :=
  ∀ (P : ProxyConfig T) (api : DexApi T (ChainOf P)) (s s' : ChainOf P),
    P.ListsWith api → SameButXyk P api s s' →
      P.listLiquiditySources s inputAssetId outputAssetId filter =
        .ok sources →
      (∀ others, P.listLiquiditySources s' inputAssetId outputAssetId filter =
        .ok others → WithoutXyk others) →
      quoteSingle P s inputAssetId outputAssetId amount filter =
        quoteSingle P s' inputAssetId outputAssetId amount filter

section

variable {P : ProxyConfig T} {api : DexApi T (ChainOf P)} {s s' : ChainOf P}
variable {inputAssetId outputAssetId : T.AssetId} {amount : SwapAmount}
variable {filter : LiquiditySourceFilter T.DEXId}
variable {sources others : List (LiquiditySourceId T.DEXId)}
variable {prim sec : LiquiditySourceId T.DEXId}

/-! ## The same list -/

/-- If the XYK pool is not listed, it is no listed source. -/
theorem listedSource_xyk_eq_none
    (h : api.listLiquiditySources s inputAssetId outputAssetId filter =
      .ok sources) (hxyk : WithoutXyk sources)
    (hmem : LiquiditySourceType.xykPool ∈ api.enabledSourceTypes s) :
    api.listedSource s inputAssetId outputAssetId filter .xykPool = none := by
  obtain ⟨-, rfl⟩ := DexApi.listLiquiditySources_eq_ok.mp h
  by_contra hsome
  obtain ⟨src, hsrc⟩ := Option.ne_none_iff_exists'.mp hsome
  refine hxyk src (List.mem_filterMap.mpr ⟨_, hmem, hsrc⟩) ?_
  rw [(DexApi.listedSource_eq_some.mp hsrc).1]

/-- Two lists without the XYK pool are the same. -/
theorem SameButXyk.listed_eq (hsame : SameButXyk P api s s')
    (h : api.listLiquiditySources s inputAssetId outputAssetId filter =
      .ok sources) (hxyk : WithoutXyk sources)
    (h' : api.listLiquiditySources s' inputAssetId outputAssetId filter =
      .ok others) (hxyk' : WithoutXyk others) :
    others = sources := by
  have hnone := listedSource_xyk_eq_none h hxyk
  have hnone' := listedSource_xyk_eq_none h' hxyk'
  obtain ⟨-, rfl⟩ := DexApi.listLiquiditySources_eq_ok.mp h
  obtain ⟨-, rfl⟩ := DexApi.listLiquiditySources_eq_ok.mp h'
  rw [← hsame.enabledSourceTypes] at hnone' ⊢
  apply List.filterMap_congr
  intro sourceType hmem
  by_cases htype : sourceType = .xykPool
  · subst htype
    rw [hnone hmem, hnone' hmem]
  · unfold DexApi.listedSource
    rw [hsame.canExchange ⟨filter.dexId, sourceType⟩ htype]

/-! ## The same plan -/

theorem sampleLiquiditySource_congr {src : LiquiditySourceId T.DEXId}
    (h : P.quote s src = P.quote s' src) (fxAmount : FixedSwapAmount)
    (n : ℕ) :
    sampleLiquiditySource P s src inputAssetId outputAssetId fxAmount n =
      sampleLiquiditySource P s' src inputAssetId outputAssetId fxAmount n := by
  unfold sampleLiquiditySource quoteSample
  rw [h]

/-- Sampling looks at the quotes of the listed sources only. -/
theorem genericSplit_congr
    (h : ∀ src ∈ sources, P.quote s src = P.quote s' src) :
    genericSplit P s sources inputAssetId outputAssetId amount =
      genericSplit P s' sources inputAssetId outputAssetId amount := by
  have hrows : sampledRows P s sources inputAssetId outputAssetId
        (FixedSwapAmount.uniqueSaturatedFrom amount) =
      sampledRows P s' sources inputAssetId outputAssetId
        (FixedSwapAmount.uniqueSaturatedFrom amount) :=
    Traversal.mapM_congr fun src hsrc =>
      sampleLiquiditySource_congr (h src hsrc) _ _
  rw [genericSplit_eq, genericSplit_eq, hrows]

theorem fastSplit_of_not_direct (h : ¬IsDirect T inputAssetId outputAssetId) :
    fastSplitPrimaryVsSecondary P s prim sec inputAssetId outputAssetId
        amount = fail (proxyError .unavailableExchangePath) := by
  have hensure : ensure (IsDirect T inputAssetId outputAssetId)
      (proxyError .unavailableExchangePath) =
        fail (proxyError .unavailableExchangePath) := if_neg h
  unfold fastSplitPrimaryVsSecondary
  change (ensure (IsDirect T inputAssetId outputAssetId) _ >>= _) = _
  rw [hensure]
  rfl

/-- A pair that is not direct has no fast split; every other plan asks the listed
sources only. -/
theorem planSources_congr
    (h : ∀ src ∈ sources, P.quote s src = P.quote s' src)
    (hfast : (∃ prim sec, IsMarketPair sources prim sec) →
      ¬IsDirect T inputAssetId outputAssetId) :
    planSources P s inputAssetId outputAssetId amount sources =
      planSources P s' inputAssetId outputAssetId amount sources := by
  rcases sources_cases sources with rfl | ⟨src, rfl⟩ | ⟨prim, sec, hpair⟩ |
    hsampled
  · rfl
  · rw [planSources, planSources, h src List.mem_cons_self]
  · have hdirect := hfast ⟨prim, sec, hpair⟩
    rw [planSources_pair hpair, planSources_pair hpair,
      fastSplit_of_not_direct hdirect, fastSplit_of_not_direct hdirect]
  · rw [planSources_sampled hsampled, planSources_sampled hsampled]
    exact genericSplit_congr h

theorem splitIndependent_of_not_fast (hxyk : WithoutXyk sources)
    (hfast : (∃ prim sec, IsMarketPair sources prim sec) →
      ¬IsDirect T inputAssetId outputAssetId) :
    SplitIndependent T inputAssetId outputAssetId amount filter sources := by
  intro P api s s' hapi hsame hlist hothers
  have hok := hlist
  rw [hapi] at hok
  obtain ⟨hdex, -⟩ := DexApi.listLiquiditySources_eq_ok.mp hok
  rw [hsame.dexInfos] at hdex
  have hok' : api.listLiquiditySources s' inputAssetId outputAssetId filter =
      .ok _ := DexApi.listLiquiditySources_eq_ok.mpr ⟨hdex, rfl⟩
  have hlist' := (hapi s' inputAssetId outputAssetId filter).trans hok'
  have heq := hsame.listed_eq hok hxyk hok' (hothers _ hlist')
  rw [heq] at hlist'
  rw [quoteSingle_of_listed hlist, quoteSingle_of_listed hlist']
  exact planSources_congr (fun src hsrc => hsame.quote src (hxyk src hsrc))
    hfast

/-! ## The fast split -/

/-- Without reserves in the secondary market the primary one is quoted. -/
theorem fastSplit_of_no_reserves (h : IsDirect T inputAssetId outputAssetId)
    (hreserves : ∀ a b, P.reserves s a b = (0, 0)) :
    fastSplitPrimaryVsSecondary P s prim sec inputAssetId outputAssetId
        amount = (do
      let outcome ← P.quote s prim inputAssetId outputAssetId amount
      pure ⟨[(prim, fixedOne), (sec, fixedZero)], outcome.amount,
        outcome.fee⟩) := by
  have hensure : ensure (IsDirect T inputAssetId outputAssetId)
      (proxyError .unavailableExchangePath) = .ok () := ensure_eq_ok.mpr h
  apply (Tx.except_bind_of_ok hensure _).trans
  dsimp only
  rw [hreserves, if_pos (Or.inl rfl)]

/-- With reserves the price of the primary market is asked for first. -/
theorem fastSplit_of_price_error (h : IsDirect T inputAssetId outputAssetId)
    (hreserves : ∀ a b, P.reserves s a b = (1, 1))
    (hbuy : ∀ a b, P.buyPrice s a b = fail (proxyError .calculationError))
    (hsell : ∀ a b, P.sellPrice s a b = fail (proxyError .calculationError)) :
    fastSplitPrimaryVsSecondary P s prim sec inputAssetId outputAssetId
        amount = fail (proxyError .calculationError) := by
  have hensure : ensure (IsDirect T inputAssetId outputAssetId)
      (proxyError .unavailableExchangePath) = .ok () := ensure_eq_ok.mpr h
  apply (Tx.except_bind_of_ok hensure _).trans
  dsimp only
  rw [hreserves, if_neg (by decide)]
  by_cases hout : outputAssetId = T.getBaseAssetId
  · rw [if_pos hout, decideAmountsBuyingBaseAsset, hbuy]
    rfl
  · rw [if_neg hout, decideAmountsSellingBaseAsset, hsell]
    rfl

end

/-! ## Sources that show the reserves -/

/-- An API that lists given sources. -/
def listingApi (sources : List (LiquiditySourceId T.DEXId)) (S : Type) :
    DexApi T S where
  enabledSourceTypes _ := sources.map LiquiditySourceId.liquiditySourceIndex
  dexInfos _ _ := some ⟨T.getBaseAssetId, true⟩
  canExchange _ _ _ _ := true

theorem listingApi_lists {sources : List (LiquiditySourceId T.DEXId)}
    {S : Type} {filter : LiquiditySourceFilter T.DEXId}
    (hpass : ∀ src ∈ sources, src.dexId = filter.dexId ∧
      filter.matchesIndex src.liquiditySourceIndex = true)
    (s : S) (inputAssetId outputAssetId : T.AssetId) :
    (listingApi sources S).listLiquiditySources s inputAssetId outputAssetId
      filter = .ok sources := by
  refine DexApi.listLiquiditySources_eq_ok.mpr ⟨rfl, ?_⟩
  change sources = (sources.map _).filterMap _
  rw [List.filterMap_map]
  have hlisted : ∀ src ∈ sources,
      ((listingApi sources S).listedSource s inputAssetId outputAssetId
        filter ∘ LiquiditySourceId.liquiditySourceIndex) src = some src := by
    intro src hsrc
    obtain ⟨hdex, hmatches⟩ := hpass src hsrc
    refine DexApi.listedSource_eq_some.mpr ⟨?_, hmatches, rfl⟩
    rw [← hdex]
  exact ((List.filterMap_congr hlisted).trans List.filterMap_some).symm

/-- A proxy whose sources and prices are errors, on a state that is the reserves of
the XYK pool. -/
def erringProxy (sources : List (LiquiditySourceId T.DEXId)) :
    ProxyConfig T where
  Market := ℕ × ℕ
  getNumSamples := 0
  getTechnicalAccountId := T.defaultAccountId
  listLiquiditySources := (listingApi sources _).listLiquiditySources
  quote _ _ _ _ _ := fail (proxyError .unavailableExchangePath)
  buyPrice _ _ _ := fail (proxyError .calculationError)
  sellPrice _ _ _ := fail (proxyError .calculationError)
  collateralReserves _ _ := .ok 0
  reserves s _ _ := s.market

section

variable {inputAssetId outputAssetId : T.AssetId} {amount : SwapAmount}
variable {filter : LiquiditySourceFilter T.DEXId}
variable {sources : List (LiquiditySourceId T.DEXId)}

theorem not_splitIndependent_of_fast
    (hpass : ∀ src ∈ sources, src.dexId = filter.dexId ∧
      filter.matchesIndex src.liquiditySourceIndex = true)
    (hxyk : WithoutXyk sources)
    (hpair : ∃ prim sec, IsMarketPair sources prim sec)
    (hdirect : IsDirect T inputAssetId outputAssetId) :
    ¬SplitIndependent T inputAssetId outputAssetId amount filter sources := by
  intro h
  obtain ⟨prim, sec, hpair⟩ := hpair
  have hlists := listingApi_lists (S := ChainOf (erringProxy sources)) hpass
  have heq := h (erringProxy sources) (listingApi sources _)
    ⟨fun _ _ => 0, (0, 0)⟩ ⟨fun _ _ => 0, (1, 1)⟩ (fun _ _ _ _ => rfl)
    ⟨rfl, rfl, fun _ _ => rfl, fun _ _ => rfl, rfl, rfl, rfl⟩
    (hlists _ inputAssetId outputAssetId)
    (fun others hothers => by
      have hsame := (hlists _ inputAssetId outputAssetId).symm.trans hothers
      rwa [← Except.ok.inj hsame])
  rw [quoteSingle_of_listed (hlists _ inputAssetId outputAssetId),
    quoteSingle_of_listed (hlists _ inputAssetId outputAssetId),
    planSources_pair hpair, planSources_pair hpair,
    fastSplit_of_no_reserves hdirect fun _ _ => rfl,
    fastSplit_of_price_error hdirect (fun _ _ => rfl) (fun _ _ => rfl)
      fun _ _ => rfl] at heq
  cases heq

/-- A quote depends on the listed sources only, unless these are the primary market
and another source and the base asset is exchanged. -/
theorem split_depends_on_listed_iff (amount : SwapAmount)
    (hpass : ∀ src ∈ sources, src.dexId = filter.dexId ∧
      filter.matchesIndex src.liquiditySourceIndex = true)
    (hxyk : WithoutXyk sources) :
    SplitIndependent T inputAssetId outputAssetId amount filter sources ↔
      ¬((∃ prim sec, IsMarketPair sources prim sec) ∧
        IsDirect T inputAssetId outputAssetId) := by
  constructor
  · intro h hfast
    exact not_splitIndependent_of_fast hpass hxyk hfast.1 hfast.2 h
  · intro h
    exact splitIndependent_of_not_fast hxyk fun hpair hdirect =>
      h ⟨hpair, hdirect⟩

end

/-! ## A pool that is filtered out -/

def primaryMarket : LiquiditySourceId Mock.runtime.DEXId :=
  ⟨Mock.dexA, .multicollateralBondingCurvePool⟩

def curveMarket : LiquiditySourceId Mock.runtime.DEXId :=
  ⟨Mock.dexA, .bondingCurvePool⟩

/-- Anything but the XYK pool. -/
def withoutXykFilter : LiquiditySourceFilter ℕ :=
  ⟨Mock.dexA, [.xykPool], true⟩

/-- Three types of sources are enabled, each of which can exchange everything. -/
def threeSourcesApi (S : Type) : DexApi Mock.runtime S where
  enabledSourceTypes _ :=
    [.xykPool, .bondingCurvePool, .multicollateralBondingCurvePool]
  dexInfos _ dex :=
    if dex = Mock.dexA then some ⟨Mock.goldenTicket, true⟩ else none
  canExchange _ _ _ _ := true

/-- The primary market returns a quarter of what the other sources return, on a
state that is the reserves of the XYK pool. -/
def threeSourcesProxy : ProxyConfig Mock.runtime where
  Market := ℕ × ℕ
  getNumSamples := 2
  getTechnicalAccountId := Mock.transitAccount
  listLiquiditySources := (threeSourcesApi _).listLiquiditySources
  quote _ src _ _ amount :=
    match amount with
    | .withDesiredInput desiredAmountIn _ =>
        if src = primaryMarket then .ok ⟨desiredAmountIn / 4, 0⟩
        else .ok ⟨desiredAmountIn, 0⟩
    | .withDesiredOutput desiredAmountOut _ =>
        if src = primaryMarket then .ok ⟨4 * desiredAmountOut, 0⟩
        else .ok ⟨desiredAmountOut, 0⟩
  buyPrice _ _ _ := .ok ⟨4 * 10 ^ 18, by decide⟩
  sellPrice _ _ _ := .ok ⟨4 * 10 ^ 18, by decide⟩
  collateralReserves _ _ := .ok 0
  reserves s _ _ := s.market

def poolReserves (reserves : ℕ × ℕ) : ChainOf threeSourcesProxy :=
  ⟨fun _ _ => 0, reserves⟩

/-- Four hundred units of red pepper for the base asset, from any source but the
XYK pool. -/
def quoteWithoutXyk (reserves : ℕ × ℕ) :
    Result (AggregatedSwapOutcome ℕ) :=
  quoteSingle threeSourcesProxy (poolReserves reserves) Mock.redPepper
    Mock.goldenTicket (.withDesiredInput (balance 400) 0) withoutXykFilter

theorem split_depends_on_listed_iff_twofold :
    SplitIndependent Mock.runtime Mock.redPepper Mock.blackPepper
        (.withDesiredInput (balance 400) 0) withoutXykFilter
        [curveMarket, primaryMarket] ↔
      ¬((∃ prim sec, IsMarketPair (T := Mock.runtime)
          [curveMarket, primaryMarket] prim sec) ∧
        IsDirect Mock.runtime Mock.redPepper Mock.blackPepper) :=
  split_depends_on_listed_iff (.withDesiredInput (balance 400) 0) (by decide)
    (by decide)

/-- The pool that is filtered out makes the difference between a hundred and a
hundred and seventy-five units. -/
theorem filtered_pool_changes_split :
    ((quoteWithoutXyk (0, 0)).toOption.map AggregatedSwapOutcome.amount =
        some (balance 100) ∧
      (quoteWithoutXyk (balance 100, balance 100)).toOption.map
        AggregatedSwapOutcome.amount = some (balance 175)) ∧
      ¬SplitIndependent Mock.runtime Mock.redPepper Mock.goldenTicket
        (.withDesiredInput (balance 400) 0) withoutXykFilter
        [curveMarket, primaryMarket] := by
  have hempty : (quoteWithoutXyk (0, 0)).toOption.map
      AggregatedSwapOutcome.amount = some (balance 100) := by
    decide +kernel
  have hfull : (quoteWithoutXyk (balance 100, balance 100)).toOption.map
      AggregatedSwapOutcome.amount = some (balance 175) := by
    decide +kernel
  refine ⟨⟨hempty, hfull⟩, ?_⟩
  intro h
  have hlists : ∀ reserves, threeSourcesProxy.listLiquiditySources
      (poolReserves reserves) Mock.redPepper Mock.goldenTicket
      withoutXykFilter = .ok [curveMarket, primaryMarket] := by
    intro reserves
    rfl
  have heq : quoteWithoutXyk (0, 0) =
      quoteWithoutXyk (balance 100, balance 100) :=
    h threeSourcesProxy (threeSourcesApi _) (poolReserves (0, 0))
      (poolReserves (balance 100, balance 100)) (fun _ _ _ _ => rfl)
      ⟨rfl, rfl, fun _ _ => rfl, fun _ _ => rfl, rfl, rfl, rfl⟩ (hlists _)
      (fun others hothers => by
        rw [hlists, Except.ok.injEq] at hothers
        rw [← hothers]
        decide)
  rw [heq, hfull] at hempty
  exact absurd hempty (by decide)

end LiquidityProxy
end SoraParachain

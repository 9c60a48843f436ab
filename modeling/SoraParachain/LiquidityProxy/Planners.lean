import SoraParachain.LiquidityProxy.Quote

/-!
# Which planner divides an amount

The list of sources alone decides how an amount is divided: not at all, between the
primary market and one other source, or by sampling.  Sampling only looks at the
samples of the listed sources.
-/

namespace SoraParachain
namespace LiquidityProxy

variable {T : Config} {P : ProxyConfig T} {s s' : ChainOf P}
variable {sources : List (LiquiditySourceId T.DEXId)}
variable {prim sec : LiquiditySourceId T.DEXId}
variable {inputAssetId outputAssetId : T.AssetId} {amount : SwapAmount}

/-- Divide an amount among listed sources. -/
def planSources (P : ProxyConfig T) (s : ChainOf P)
    (inputAssetId outputAssetId : T.AssetId) (amount : SwapAmount)
    (sources : List (LiquiditySourceId T.DEXId)) :
    Result (AggregatedSwapOutcome T.DEXId) :=
  match sources with
  | [] => fail (proxyError .unavailableExchangePath)
  | [src] => do
      let outcome ← P.quote s src inputAssetId outputAssetId amount
      pure ⟨[(src, fixedOne)], outcome.amount, outcome.fee⟩
  | [_, _] =>
      match marketOf true sources, marketOf false sources with
      | some mcbc, some xyk =>
          fastSplitPrimaryVsSecondary P s mcbc xyk inputAssetId outputAssetId
            amount
      | _, _ => genericSplit P s sources inputAssetId outputAssetId amount
  | _ => genericSplit P s sources inputAssetId outputAssetId amount

theorem quoteSingle_eq_plan (filter : LiquiditySourceFilter T.DEXId) :
    quoteSingle P s inputAssetId outputAssetId amount filter =
      P.listLiquiditySources s inputAssetId outputAssetId filter >>=
        planSources P s inputAssetId outputAssetId amount := rfl

theorem quoteSingle_of_listed {filter : LiquiditySourceFilter T.DEXId}
    (h : P.listLiquiditySources s inputAssetId outputAssetId filter =
      .ok sources) :
    quoteSingle P s inputAssetId outputAssetId amount filter =
      planSources P s inputAssetId outputAssetId amount sources := by
  rw [quoteSingle_eq_plan]
  exact Tx.except_bind_of_ok h _

/-! ## The primary market and another source -/

/-- The primary market and one other source. -/
structure IsMarketPair (sources : List (LiquiditySourceId T.DEXId))
    (prim sec : LiquiditySourceId T.DEXId) : Prop where
  primary : prim.liquiditySourceIndex = .multicollateralBondingCurvePool
  other : sec.liquiditySourceIndex ≠ .multicollateralBondingCurvePool
  sources_eq : sources = [prim, sec] ∨ sources = [sec, prim]

theorem IsMarketPair.markets (h : IsMarketPair sources prim sec) :
    marketOf true sources = some prim ∧ marketOf false sources = some sec := by
  have hprim := h.primary
  have hother := h.other
  rcases h.sources_eq with rfl | rfl
  · simp [marketOf, hprim, hother]
  · simp [marketOf, hprim, hother]

/-- Such a pair is divided by the fast split. -/
theorem planSources_pair (h : IsMarketPair sources prim sec) :
    planSources P s inputAssetId outputAssetId amount sources =
      fastSplitPrimaryVsSecondary P s prim sec inputAssetId outputAssetId
        amount := by
  obtain ⟨htrue, hfalse⟩ := h.markets
  rcases h.sources_eq with rfl | rfl
  · rw [planSources]
    rw [htrue, hfalse]
  · rw [planSources]
    rw [htrue, hfalse]

/-- The list is divided by sampling. -/
def IsSampled (sources : List (LiquiditySourceId T.DEXId)) : Prop :=
  2 ≤ sources.length ∧ ∀ prim sec, ¬IsMarketPair sources prim sec

/-- Every other list of at least two sources is sampled. -/
theorem planSources_sampled (h : IsSampled sources) :
    planSources P s inputAssetId outputAssetId amount sources =
      genericSplit P s sources inputAssetId outputAssetId amount := by
  obtain ⟨hlength, hnot⟩ := h
  rcases sources with _ | ⟨x, _ | ⟨y, _ | ⟨z, rest⟩⟩⟩
  · simp at hlength
  · simp at hlength
  · have hx := hnot x y
    have hy := hnot y x
    rw [planSources]
    by_cases hxp : x.liquiditySourceIndex = .multicollateralBondingCurvePool
    · have hyp : y.liquiditySourceIndex =
          .multicollateralBondingCurvePool := by
        by_contra hyp
        exact hx ⟨hxp, hyp, Or.inl rfl⟩
      simp [marketOf, hxp, hyp]
    · have hyp : y.liquiditySourceIndex ≠
          .multicollateralBondingCurvePool := by
        intro hyp
        exact hy ⟨hyp, hxp, Or.inr rfl⟩
      simp [marketOf, hxp, hyp]
  · rfl

/-- There is nothing to divide, one source, such a pair, or a list to sample. -/
theorem sources_cases (sources : List (LiquiditySourceId T.DEXId)) :
    sources = [] ∨ (∃ src, sources = [src]) ∨
      (∃ prim sec, IsMarketPair sources prim sec) ∨ IsSampled sources := by
  by_cases hpair : ∃ prim sec, IsMarketPair sources prim sec
  · exact Or.inr (Or.inr (Or.inl hpair))
  · have hnot : ∀ prim sec, ¬IsMarketPair sources prim sec := fun prim sec h =>
      hpair ⟨prim, sec, h⟩
    rcases sources with _ | ⟨x, _ | ⟨y, rest⟩⟩
    · exact Or.inl rfl
    · exact Or.inr (Or.inl ⟨x, rfl⟩)
    · exact Or.inr (Or.inr (Or.inr ⟨Nat.le_add_left 2 rest.length, hnot⟩))

/-! ## Sampling -/

/-- The best division of sampled rows. -/
def splitOfRows (n : ℕ) (sources : List (LiquiditySourceId T.DEXId))
    (inversed : Bool) (rows : List (List FixedSwapOutcome)) :
    Result (AggregatedSwapOutcome T.DEXId) := do
  let sampleData := rows.map fun row => row.map FixedSwapOutcome.amount
  let sampleFees := rows.map fun row => row.map FixedSwapOutcome.fee
  let (distr, best) ← unwrap (findDistribution sampleData inversed)
  ensure (0 < best.bits ∧ best.bits < fixedMax.bits)
    (proxyError .aggregationError)
  ensure (n < 2 ^ 127) (proxyError .calculationError)
  let fee ← calculated (totalFee n sampleFees distr).inner
  let best ← okOr (proxyError .calculationError) (balanceOfFixed best)
  let fee ← okOr (proxyError .calculationError) (balanceOfFixed fee)
  pure ⟨sources.zip distr, best, fee⟩

/-- The desired output is sampled for the smallest sum. -/
def isDesiredOutput : FixedSwapAmount → Bool
  | .withDesiredInput _ _ => false
  | .withDesiredOutput _ _ => true

/-- The rows of samples of an amount. -/
def sampledRows (P : ProxyConfig T) (s : ChainOf P)
    (sources : List (LiquiditySourceId T.DEXId))
    (inputAssetId outputAssetId : T.AssetId) (amount : FixedSwapAmount) :
    Result (List (List FixedSwapOutcome)) :=
  sources.mapM fun src =>
    sampleLiquiditySource P s src inputAssetId outputAssetId amount
      P.getNumSamples

/-- The generic split is the best division of its samples. -/
theorem genericSplit_eq :
    genericSplit P s sources inputAssetId outputAssetId amount =
      sampledRows P s sources inputAssetId outputAssetId
          (FixedSwapAmount.uniqueSaturatedFrom amount) >>=
        splitOfRows P.getNumSamples sources
          (isDesiredOutput (FixedSwapAmount.uniqueSaturatedFrom amount)) := by
  cases amount with
  | withDesiredInput d m => rfl
  | withDesiredOutput d m => rfl

end LiquidityProxy
end SoraParachain

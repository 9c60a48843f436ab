import SoraParachain.Library.Traversal
import SoraParachain.LiquidityProxy.FastSplit
import SoraParachain.LiquidityProxy.Mock
import SoraParachain.LiquidityProxy.Planners
import SoraParachain.LiquidityProxy.SampledFees

/-!
# What the limit of an amount decides

Sources may reject an amount because of its limit, and otherwise quote it as if there
were none.  Where one source or the fast split plans, so does the proxy.  Sampling
gives every sample its part of the limit, and a rejected sample counts as the worst
possible one, so there the plan depends on which samples the limit rejects, and on
nothing else about it.
-/

namespace SoraParachain

/-- Two amounts that differ in the limit only. -/
inductive SwapAmount.SameButLimit : SwapAmount → SwapAmount → Prop
  | withDesiredInput (d m m' : ℕ) :
      SameButLimit (.withDesiredInput d m) (.withDesiredInput d m')
  | withDesiredOutput (d m m' : ℕ) :
      SameButLimit (.withDesiredOutput d m) (.withDesiredOutput d m')

theorem SwapAmount.SameButLimit.desiredAmount_eq {amount amount' : SwapAmount}
    (h : amount.SameButLimit amount') :
    LiquidityProxy.desiredAmount amount = LiquidityProxy.desiredAmount amount' := by
  cases h with
  | withDesiredInput d m m' => rfl
  | withDesiredOutput d m m' => rfl

namespace FixedSwapAmount

inductive SameButLimit : FixedSwapAmount → FixedSwapAmount → Prop
  | withDesiredInput (d m m' : FixedNumber) :
      SameButLimit (.withDesiredInput d m) (.withDesiredInput d m')
  | withDesiredOutput (d m m' : FixedNumber) :
      SameButLimit (.withDesiredOutput d m) (.withDesiredOutput d m')

theorem SameButLimit.of_uniqueSaturatedFrom {amount amount' : SwapAmount}
    (h : amount.SameButLimit amount') :
    (uniqueSaturatedFrom amount).SameButLimit (uniqueSaturatedFrom amount') := by
  cases h with
  | withDesiredInput d m m' => exact .withDesiredInput _ _ _
  | withDesiredOutput d m m' => exact .withDesiredOutput _ _ _

/-- The desired number of a converted amount, whichever way it goes. -/
theorem exists_of_convert {x y : FixedNumber} {amount : SwapAmount}
    {f : ℕ → ℕ → SwapAmount}
    (h : (do
      let d ← balanceOfFixed x
      let m ← balanceOfFixed y
      pure (f d m)) = some amount) :
    ∃ m, amount = f x.bits.toNat m := by
  obtain ⟨d, hd, h⟩ := Option.bind_eq_some_iff.mp h
  obtain ⟨m, -, h⟩ := Option.bind_eq_some_iff.mp h
  rw [balanceOfFixed_eq_some.mp hd, Int.toNat_natCast]
  exact ⟨m, (Option.some.inj h).symm⟩

theorem SameButLimit.tryInto {sample sample' : FixedSwapAmount}
    {amount amount' : SwapAmount} (h : sample.SameButLimit sample')
    (hamount : sample.tryInto = some amount)
    (hamount' : sample'.tryInto = some amount') :
    amount.SameButLimit amount' := by
  cases h with
  | withDesiredInput d m m' =>
      obtain ⟨n, rfl⟩ := exists_of_convert hamount
      obtain ⟨n', rfl⟩ := exists_of_convert hamount'
      exact .withDesiredInput _ n n'
  | withDesiredOutput d m m' =>
      obtain ⟨n, rfl⟩ := exists_of_convert hamount
      obtain ⟨n', rfl⟩ := exists_of_convert hamount'
      exact .withDesiredOutput _ n n'

end FixedSwapAmount

namespace LiquidityProxy

variable {T : Config} {P : ProxyConfig T} {s : ChainOf P}
variable {inputAssetId outputAssetId : T.AssetId}
variable {amount amount' : SwapAmount}
variable {filter : LiquiditySourceFilter T.DEXId}
variable {sources : List (LiquiditySourceId T.DEXId)}
variable {src prim sec : LiquiditySourceId T.DEXId}
variable {plan plan' : AggregatedSwapOutcome T.DEXId}

/-- Every source quotes an amount the same whatever the limit is, and fails when the
limit is violated. -/
structure VetoedByLimits (P : ProxyConfig T) (s : ChainOf P)
    (inputAssetId outputAssetId : T.AssetId) : Prop where
  same : ∀ src (amount amount' : SwapAmount), amount.SameButLimit amount' →
    ∀ outcome outcome',
      P.quote s src inputAssetId outputAssetId amount = .ok outcome →
      P.quote s src inputAssetId outputAssetId amount' = .ok outcome' →
        outcome = outcome'
  succeeds_iff : ∀ src (amount amount' : SwapAmount),
    amount.SameButLimit amount' → ∀ outcome,
      P.quote s src inputAssetId outputAssetId amount = .ok outcome →
        ((∃ outcome', P.quote s src inputAssetId outputAssetId amount' =
          .ok outcome') ↔ amount'.Allows outcome)

/-! ## The samples -/

/-- Evenly spaced amounts, each with its part of the limit. -/
def spacedSamples (n : ℕ)
    (f : FixedNumber → FixedNumber → FixedSwapAmount)
    (amount limit : FixedNumber) : Result (List FixedSwapAmount) := do
  let amounts ← unwrap (linspace fixedZero amount n .right)
  let limits ← unwrap (linspace fixedZero limit n .right)
  pure ((amounts.zip limits).map fun sample => f sample.1 sample.2)

def samplesOf (n : ℕ) : FixedSwapAmount → Result (List FixedSwapAmount)
  | .withDesiredInput amount minOut =>
      spacedSamples n .withDesiredInput amount minOut
  | .withDesiredOutput amount maxIn =>
      spacedSamples n .withDesiredOutput amount maxIn

/-- What a sample that is not quoted counts as. -/
def worstAmount : FixedSwapAmount → FixedNumber
  | .withDesiredInput _ _ => fixedZero
  | .withDesiredOutput _ _ => fixedMax

theorem sampleLiquiditySource_eq_samplesOf (sample : FixedSwapAmount) (n : ℕ) :
    sampleLiquiditySource P s src inputAssetId outputAssetId sample n =
      samplesOf n sample >>= fun samples => samples.mapM fun sample =>
        quoteSample P s src inputAssetId outputAssetId sample
          (worstAmount sample) := by
  cases sample with
  | withDesiredInput d m =>
      simp only [sampleLiquiditySource, samplesOf, spacedSamples,
        bind_assoc, pure_bind, List.mapM_map]
      rfl
  | withDesiredOutput d m =>
      simp only [sampleLiquiditySource, samplesOf, spacedSamples,
        bind_assoc, pure_bind, List.mapM_map]
      rfl

theorem forall₂_sameButLimit_of_zip
    {f : FixedNumber → FixedNumber → FixedSwapAmount}
    (hf : ∀ d m m', (f d m).SameButLimit (f d m')) :
    ∀ (amounts limits limits' : List FixedNumber),
      limits.length = limits'.length →
        List.Forall₂ FixedSwapAmount.SameButLimit
          ((amounts.zip limits).map fun sample => f sample.1 sample.2)
          ((amounts.zip limits').map fun sample => f sample.1 sample.2) := by
  intro amounts
  induction amounts with
  | nil =>
      intro limits limits' _
      exact .nil
  | cons d amounts ih =>
      intro limits limits' hlength
      cases limits with
      | nil =>
          rw [List.eq_nil_of_length_eq_zero hlength.symm]
          exact .nil
      | cons m limits =>
          obtain ⟨m', limits', rfl⟩ :=
            List.exists_cons_of_length_eq_add_one hlength.symm
          exact .cons (hf d m m') (ih limits limits' (Nat.succ.inj hlength))

theorem forall₂_sameButLimit_of_spaced {n : ℕ} {d m m' : FixedNumber}
    {f : FixedNumber → FixedNumber → FixedSwapAmount}
    {samples samples' : List FixedSwapAmount}
    (hf : ∀ d m m', (f d m).SameButLimit (f d m'))
    (h : spacedSamples n f d m = .ok samples)
    (h' : spacedSamples n f d m' = .ok samples') :
    List.Forall₂ FixedSwapAmount.SameButLimit samples samples' := by
  obtain ⟨amounts, hamounts, h⟩ := Tx.except_bind_eq_ok.mp h
  obtain ⟨limits, hlimits, h⟩ := Tx.except_bind_eq_ok.mp h
  obtain ⟨amounts', hamounts', h'⟩ := Tx.except_bind_eq_ok.mp h'
  obtain ⟨limits', hlimits', h'⟩ := Tx.except_bind_eq_ok.mp h'
  obtain rfl : amounts = amounts' :=
    Except.ok.inj (hamounts.symm.trans hamounts')
  have hlength := length_of_linspace_right (unwrap_eq_ok.mp hlimits)
  have hlength' := length_of_linspace_right (unwrap_eq_ok.mp hlimits')
  cases h
  cases h'
  exact forall₂_sameButLimit_of_zip hf amounts limits limits'
    (hlength.trans hlength'.symm)

/-- The samples of two amounts that differ in the limit differ in their parts of the
limit. -/
theorem forall₂_sameButLimit_of_samplesOf {sample sample' : FixedSwapAmount}
    {n : ℕ} {samples samples' : List FixedSwapAmount}
    (hsame : sample.SameButLimit sample')
    (h : samplesOf n sample = .ok samples)
    (h' : samplesOf n sample' = .ok samples') :
    List.Forall₂ FixedSwapAmount.SameButLimit samples samples' := by
  cases hsame with
  | withDesiredInput d m m' =>
      exact forall₂_sameButLimit_of_spaced .withDesiredInput h h'
  | withDesiredOutput d m m' =>
      exact forall₂_sameButLimit_of_spaced .withDesiredOutput h h'

/-! ## Accepted samples -/

/-- The source quotes the sample. -/
def acceptsSample (P : ProxyConfig T) (s : ChainOf P)
    (src : LiquiditySourceId T.DEXId) (inputAssetId outputAssetId : T.AssetId)
    (sample : FixedSwapAmount) : Bool :=
  match sample.tryInto with
  | none => false
  | some amount =>
      (P.quote s src inputAssetId outputAssetId amount).toOption.isSome

/-- Which of its samples a source quotes. -/
def acceptedSamples (P : ProxyConfig T) (s : ChainOf P)
    (src : LiquiditySourceId T.DEXId) (inputAssetId outputAssetId : T.AssetId)
    (amount : SwapAmount) : Result (List Bool) := do
  let samples ←
    samplesOf P.getNumSamples (FixedSwapAmount.uniqueSaturatedFrom amount)
  pure (samples.map
    (acceptsSample P s src inputAssetId outputAssetId))

variable {sample sample' : FixedSwapAmount} {worst : FixedNumber}
variable {x x' : FixedSwapOutcome}

theorem acceptsSample_of_tryInto (hamount : sample.tryInto = some amount) :
    acceptsSample P s src inputAssetId outputAssetId sample =
      (P.quote s src inputAssetId outputAssetId amount).toOption.isSome := by
  rw [acceptsSample, hamount]

theorem quoteSample_of_tryInto (hamount : sample.tryInto = some amount) :
    quoteSample P s src inputAssetId outputAssetId sample worst =
      unwrapOr ⟨worst, fixedZero⟩
        (P.quote s src inputAssetId outputAssetId amount >>= fun outcome =>
          okOr (proxyError .calculationError)
            (FixedSwapOutcome.tryFrom outcome)) := by
  rw [quoteSample, hamount]
  rfl

/-- A quoted sample is converted, every other one is the worst. -/
theorem quoteSample_cases
    (h : quoteSample P s src inputAssetId outputAssetId sample worst =
      .ok x) :
    (∃ amount outcome, sample.tryInto = some amount ∧
      P.quote s src inputAssetId outputAssetId amount = .ok outcome ∧
        unwrapOr ⟨worst, fixedZero⟩ (okOr (proxyError .calculationError)
          (FixedSwapOutcome.tryFrom outcome)) = .ok x) ∨
      acceptsSample P s src inputAssetId outputAssetId sample = false ∧
        x = ⟨worst, fixedZero⟩ := by
  cases hamount : sample.tryInto with
  | none =>
      rw [quoteSample, hamount] at h
      rw [acceptsSample, hamount]
      exact Or.inr ⟨rfl, (Except.ok.inj h).symm⟩
  | some amount =>
      rw [quoteSample_of_tryInto hamount] at h
      rw [acceptsSample_of_tryInto hamount]
      cases hquote : P.quote s src inputAssetId outputAssetId amount with
      | ok outcome =>
          rw [hquote, Tx.except_ok_bind] at h
          exact Or.inl ⟨amount, outcome, rfl, hquote, h⟩
      | error failure =>
          rw [hquote, Tx.except_error_bind] at h
          cases failure with
          | error e => exact Or.inr ⟨rfl, (Except.ok.inj h).symm⟩
          | panic => cases h

theorem acceptsSample_eq_true {outcome : SwapOutcome}
    (hamount : sample.tryInto = some amount)
    (hquote : P.quote s src inputAssetId outputAssetId amount =
      .ok outcome) :
    acceptsSample P s src inputAssetId outputAssetId sample = true := by
  rw [acceptsSample_of_tryInto hamount, hquote]
  rfl

/-- Two samples that differ in the limit count the same if both are quoted or
neither is. -/
theorem quoteSample_unique
    (hveto : VetoedByLimits P s inputAssetId outputAssetId)
    (hsame : sample.SameButLimit sample')
    (haccepts : acceptsSample P s src inputAssetId outputAssetId sample =
      acceptsSample P s src inputAssetId outputAssetId sample')
    (h : quoteSample P s src inputAssetId outputAssetId sample worst = .ok x)
    (h' : quoteSample P s src inputAssetId outputAssetId sample' worst =
      .ok x') :
    x = x' := by
  rcases quoteSample_cases h with
    ⟨amount, outcome, hamount, hquote, hx⟩ | ⟨hrejects, rfl⟩
  · have htrue := acceptsSample_eq_true hamount hquote
    rcases quoteSample_cases h' with
      ⟨amount', outcome', hamount', hquote', hx'⟩ | ⟨hrejects', -⟩
    · obtain rfl := hveto.same src amount amount'
        (hsame.tryInto hamount hamount') outcome outcome' hquote hquote'
      exact Except.ok.inj (hx.symm.trans hx')
    · rw [haccepts, hrejects'] at htrue
      cases htrue
  · rcases quoteSample_cases h' with
      ⟨amount', outcome', hamount', hquote', -⟩ | ⟨-, rfl⟩
    · have htrue := acceptsSample_eq_true hamount' hquote'
      rw [← haccepts, hrejects] at htrue
      cases htrue
    · rfl

theorem row_unique (hveto : VetoedByLimits P s inputAssetId outputAssetId)
    {samples samples' : List FixedSwapAmount}
    (hsame : List.Forall₂ FixedSwapAmount.SameButLimit samples samples') :
    ∀ {row row' : List FixedSwapOutcome},
      samples.map (acceptsSample P s src inputAssetId outputAssetId) =
        samples'.map (acceptsSample P s src inputAssetId outputAssetId) →
      (samples.mapM fun sample => quoteSample P s src inputAssetId
        outputAssetId sample (worstAmount sample)) = .ok row →
      (samples'.mapM fun sample => quoteSample P s src inputAssetId
        outputAssetId sample (worstAmount sample)) = .ok row' →
        row = row' := by
  induction hsame with
  | nil =>
      intro row row' _ h h'
      exact Except.ok.inj (h.symm.trans h')
  | @cons sample sample' samples samples' hhead htail ih =>
      intro row row' haccepts h h'
      rw [List.map_cons, List.map_cons, List.cons.injEq] at haccepts
      obtain ⟨x, rest, hx, hrest, rfl⟩ :=
        List.forall₂_cons_left_iff.mp (Traversal.mapM_eq_ok.mp h)
      obtain ⟨x', rest', hx', hrest', rfl⟩ :=
        List.forall₂_cons_left_iff.mp (Traversal.mapM_eq_ok.mp h')
      have hworst : worstAmount sample' = worstAmount sample := by
        cases hhead with
        | withDesiredInput d m m' => rfl
        | withDesiredOutput d m m' => rfl
      rw [hworst] at hx'
      have hfirst : x = x' :=
        quoteSample_unique hveto hhead haccepts.1 hx hx'
      have hothers : rest = rest' :=
        ih haccepts.2 (Traversal.mapM_eq_ok.mpr hrest)
          (Traversal.mapM_eq_ok.mpr hrest')
      rw [hfirst, hothers]

/-- A source that accepts the same samples under both limits is sampled the same. -/
theorem sampleLiquiditySource_unique {row row' : List FixedSwapOutcome}
    (hveto : VetoedByLimits P s inputAssetId outputAssetId)
    (hsame : amount.SameButLimit amount')
    (haccepts : acceptedSamples P s src inputAssetId outputAssetId amount =
      acceptedSamples P s src inputAssetId outputAssetId amount')
    (h : sampleLiquiditySource P s src inputAssetId outputAssetId
      (FixedSwapAmount.uniqueSaturatedFrom amount) P.getNumSamples = .ok row)
    (h' : sampleLiquiditySource P s src inputAssetId outputAssetId
      (FixedSwapAmount.uniqueSaturatedFrom amount') P.getNumSamples =
        .ok row') :
    row = row' := by
  rw [sampleLiquiditySource_eq_samplesOf] at h h'
  obtain ⟨samples, hsamples, h⟩ := Tx.except_bind_eq_ok.mp h
  obtain ⟨samples', hsamples', h'⟩ := Tx.except_bind_eq_ok.mp h'
  have hforall := forall₂_sameButLimit_of_samplesOf
    (FixedSwapAmount.SameButLimit.of_uniqueSaturatedFrom hsame) hsamples hsamples'
  rw [acceptedSamples, acceptedSamples, hsamples, hsamples'] at haccepts
  exact row_unique hveto hforall (Except.ok.inj haccepts) h h'

/-! ## The three planners -/

/-- Both limits reject the same samples. -/
def RejectSameSamples (P : ProxyConfig T) (s : ChainOf P)
    (sources : List (LiquiditySourceId T.DEXId))
    (inputAssetId outputAssetId : T.AssetId) (amount amount' : SwapAmount) :
    Prop :=
  ∀ src ∈ sources,
    acceptedSamples P s src inputAssetId outputAssetId amount =
      acceptedSamples P s src inputAssetId outputAssetId amount'

theorem genericSplit_unique
    (hveto : VetoedByLimits P s inputAssetId outputAssetId)
    (hsame : amount.SameButLimit amount')
    (hrejects : RejectSameSamples P s sources inputAssetId outputAssetId amount
      amount')
    (h : genericSplit P s sources inputAssetId outputAssetId amount =
      .ok plan)
    (h' : genericSplit P s sources inputAssetId outputAssetId amount' =
      .ok plan') :
    plan = plan' := by
  rw [genericSplit_eq] at h h'
  obtain ⟨rows, hrows, h⟩ := Tx.except_bind_eq_ok.mp h
  obtain ⟨rows', hrows', h'⟩ := Tx.except_bind_eq_ok.mp h'
  obtain rfl : rows = rows' := Traversal.mapM_unique hrows hrows'
    fun src hsrc row row' => sampleLiquiditySource_unique hveto hsame
      (hrejects src hsrc)
  have hinversed :
      isDesiredOutput (FixedSwapAmount.uniqueSaturatedFrom amount) =
        isDesiredOutput (FixedSwapAmount.uniqueSaturatedFrom amount') := by
    cases hsame with
    | withDesiredInput d m m' => rfl
    | withDesiredOutput d m m' => rfl
  rw [hinversed, h'] at h
  exact (Except.ok.inj h).symm

/-- The fractions of a fast split are quoted without a limit. -/
theorem quoteFractions_sameButLimit (hsame : amount.SameButLimit amount') :
    quoteFractions P s inputAssetId outputAssetId amount =
      quoteFractions P s inputAssetId outputAssetId amount' := by
  cases hsame with
  | withDesiredInput d m m' => rfl
  | withDesiredOutput d m m' => rfl

theorem decideAmountsBuyingBaseAsset_sameButLimit {base collateral : T.AssetId}
    {reserves : ℕ × ℕ} (hsame : amount.SameButLimit amount') :
    decideAmountsBuyingBaseAsset P s prim sec base collateral amount reserves =
      decideAmountsBuyingBaseAsset P s prim sec base collateral amount'
        reserves := by
  unfold decideAmountsBuyingBaseAsset
  rw [quoteFractions_sameButLimit hsame]
  cases hsame with
  | withDesiredInput d m m' => rfl
  | withDesiredOutput d m m' => rfl

theorem decideAmountsSellingBaseAsset_sameButLimit {base collateral : T.AssetId}
    {reserves : ℕ × ℕ} (hsame : amount.SameButLimit amount') :
    decideAmountsSellingBaseAsset P s prim sec base collateral amount reserves =
      decideAmountsSellingBaseAsset P s prim sec base collateral amount'
        reserves := by
  unfold decideAmountsSellingBaseAsset
  rw [quoteFractions_sameButLimit hsame]
  cases hsame with
  | withDesiredInput d m m' => rfl
  | withDesiredOutput d m m' => rfl

theorem quote_unique (hveto : VetoedByLimits P s inputAssetId outputAssetId)
    (hsame : amount.SameButLimit amount')
    {f : SwapOutcome → AggregatedSwapOutcome T.DEXId}
    (h : (P.quote s src inputAssetId outputAssetId amount >>= fun outcome =>
      pure (f outcome)) = .ok plan)
    (h' : (P.quote s src inputAssetId outputAssetId amount' >>= fun outcome =>
      pure (f outcome)) = .ok plan') :
    plan = plan' := by
  obtain ⟨outcome, hquote, h⟩ := Tx.except_bind_eq_ok.mp h
  obtain ⟨outcome', hquote', h'⟩ := Tx.except_bind_eq_ok.mp h'
  obtain rfl := hveto.same src amount amount' hsame outcome outcome' hquote
    hquote'
  exact Except.ok.inj (h.symm.trans h')

theorem fastSplit_unique
    (hveto : VetoedByLimits P s inputAssetId outputAssetId)
    (hsame : amount.SameButLimit amount')
    (h : fastSplitPrimaryVsSecondary P s prim sec inputAssetId outputAssetId
      amount = .ok plan)
    (h' : fastSplitPrimaryVsSecondary P s prim sec inputAssetId outputAssetId
      amount' = .ok plan') :
    plan = plan' := by
  unfold fastSplitPrimaryVsSecondary at h h'
  obtain ⟨_, -, h⟩ := Tx.except_bind_eq_ok.mp h
  obtain ⟨_, -, h'⟩ := Tx.except_bind_eq_ok.mp h'
  dsimp only at h h'
  generalize (if T.getBaseAssetId = inputAssetId then outputAssetId
    else inputAssetId) = otherAsset at h h'
  split_ifs at h h'
  · exact quote_unique hveto hsame h h'
  · rw [decideAmountsBuyingBaseAsset_sameButLimit hsame] at h
    exact Except.ok.inj (h.symm.trans h')
  · rw [decideAmountsSellingBaseAsset_sameButLimit hsame] at h
    exact Except.ok.inj (h.symm.trans h')

theorem planSources_unique
    (hveto : VetoedByLimits P s inputAssetId outputAssetId)
    (hsame : amount.SameButLimit amount')
    (hrejects : IsSampled sources →
      RejectSameSamples P s sources inputAssetId outputAssetId amount amount')
    (h : planSources P s inputAssetId outputAssetId amount sources =
      .ok plan)
    (h' : planSources P s inputAssetId outputAssetId amount' sources =
      .ok plan') :
    plan = plan' := by
  rcases sources_cases sources with rfl | ⟨src, rfl⟩ | ⟨prim, sec, hpair⟩ |
    hsampled
  · cases h
  · exact quote_unique hveto hsame h h'
  · rw [planSources_pair hpair] at h h'
    exact fastSplit_unique hveto hsame h h'
  · rw [planSources_sampled hsampled] at h h'
    exact genericSplit_unique hveto hsame (hrejects hsampled) h h'

/-! ## Two runs that differ in the limit -/

/-- Two limits for which a quote succeeds lead to the same result, if they reject
the same samples where the sources are sampled. -/
theorem limit_only_vetoes
    (hveto : VetoedByLimits P s inputAssetId outputAssetId)
    (hsame : amount.SameButLimit amount')
    (hlist : P.listLiquiditySources s inputAssetId outputAssetId filter =
      .ok sources)
    (hrejects : IsSampled sources →
      RejectSameSamples P s sources inputAssetId outputAssetId amount amount')
    (h : quoteSingle P s inputAssetId outputAssetId amount filter =
      .ok plan)
    (h' : quoteSingle P s inputAssetId outputAssetId amount' filter =
      .ok plan') :
    plan = plan' := by
  rw [quoteSingle_of_listed hlist] at h h'
  exact planSources_unique hveto hsame hrejects h h'

/-! ## Two pools with a limit -/

/-- A quote at a price that is rejected if it violates the limit. -/
def withVeto (price : LiquiditySourceId ℕ → ℕ → ℕ)
    (src : LiquiditySourceId ℕ) (amount : SwapAmount) : Result SwapOutcome :=
  if amount.Allows ⟨price src (desiredAmount amount), 0⟩ then
    .ok ⟨price src (desiredAmount amount), 0⟩
  else fail (proxyError .slippageNotTolerated)

theorem withVeto_eq_ok {price : LiquiditySourceId ℕ → ℕ → ℕ}
    {src : LiquiditySourceId ℕ} {outcome : SwapOutcome} :
    withVeto price src amount = .ok outcome ↔
      amount.Allows ⟨price src (desiredAmount amount), 0⟩ ∧
        outcome = ⟨price src (desiredAmount amount), 0⟩ := by
  unfold withVeto
  by_cases h : amount.Allows ⟨price src (desiredAmount amount), 0⟩
  · rw [if_pos h, Except.ok.injEq, eq_comm, and_iff_right h]
  · rw [if_neg h, fail_ne_ok]
    exact ⟨False.elim, fun hall => h hall.1⟩

theorem vetoedByLimits_withVeto (price : LiquiditySourceId ℕ → ℕ → ℕ)
    (inputAssetId outputAssetId : Mock.runtime.AssetId) :
    VetoedByLimits (Mock.proxyQuoting (withVeto price)) Mock.market
      inputAssetId outputAssetId where
  same src amount amount' hsame outcome outcome' h h' := by
    obtain ⟨-, rfl⟩ := withVeto_eq_ok.mp h
    obtain ⟨-, rfl⟩ := withVeto_eq_ok.mp h'
    rw [hsame.desiredAmount_eq]
  succeeds_iff src amount amount' hsame outcome h := by
    obtain ⟨-, rfl⟩ := withVeto_eq_ok.mp h
    rw [hsame.desiredAmount_eq]
    constructor
    · intro hok
      obtain ⟨outcome', hok⟩ := hok
      exact (withVeto_eq_ok.mp hok).1
    · intro hallows
      exact ⟨_, withVeto_eq_ok.mpr ⟨hallows, rfl⟩⟩

/-- The first pool pays six units for one and seven for two, the second one four
and nine. -/
def unevenPrice (src : LiquiditySourceId ℕ) (amount : ℕ) : ℕ :=
  if src = Mock.firstPool then amount + 5 else 5 * amount - 1

/-- Two units of the golden ticket for black pepper with a minimum. -/
def quoteUneven (minAmountOut : ℕ) : Result (AggregatedSwapOutcome ℕ) :=
  quoteSingle (Mock.proxyQuoting (withVeto unevenPrice)) Mock.market
    Mock.goldenTicket Mock.blackPepper (.withDesiredInput 2 minAmountOut)
    Mock.anyFilter

/-- A minimum of seven rejects no sample. -/
theorem limit_only_vetoes_uneven :
    ∃ plan plan', quoteUneven 0 = .ok plan ∧ quoteUneven 7 = .ok plan' ∧
      plan = plan' := by
  have hfree : (quoteUneven 0).toOption.map AggregatedSwapOutcome.amount =
      some 10 := by
    decide +kernel
  have hlimited : (quoteUneven 7).toOption.map AggregatedSwapOutcome.amount =
      some 10 := by
    decide +kernel
  obtain ⟨plan, hplan, -⟩ := Option.map_eq_some_iff.mp hfree
  obtain ⟨plan', hplan', -⟩ := Option.map_eq_some_iff.mp hlimited
  have h := Tx.toOption_eq_some.mp hplan
  have h' := Tx.toOption_eq_some.mp hplan'
  refine ⟨plan, plan', h, h', ?_⟩
  refine limit_only_vetoes (vetoedByLimits_withVeto unevenPrice _ _)
    (.withDesiredInput 2 0 7) rfl (fun _ => ?_) h h'
  unfold RejectSameSamples
  decide +kernel

/-- Any two limits for which a quote succeeds lead to the same result. -/
def LimitOnlyVetoes (P : ProxyConfig T) (s : ChainOf P)
    (inputAssetId outputAssetId : T.AssetId)
    (filter : LiquiditySourceFilter T.DEXId) : Prop :=
  ∀ amount amount' : SwapAmount, amount.SameButLimit amount' →
    ∀ plan plan',
      quoteSingle P s inputAssetId outputAssetId amount filter = .ok plan →
      quoteSingle P s inputAssetId outputAssetId amount' filter =
        .ok plan' → plan = plan'

/-- A minimum of ten units, which two halves bring, rejects the half that is sampled
from the second pool, and the quote becomes six units. -/
theorem limit_changes_split :
    VetoedByLimits (Mock.proxyQuoting (withVeto unevenPrice)) Mock.market
        Mock.goldenTicket Mock.blackPepper ∧
      ((quoteUneven 0).toOption.map AggregatedSwapOutcome.amount = some 10 ∧
        (quoteUneven 10).toOption.map AggregatedSwapOutcome.amount =
          some 6) ∧
      ¬LimitOnlyVetoes (Mock.proxyQuoting (withVeto unevenPrice)) Mock.market
        Mock.goldenTicket Mock.blackPepper Mock.anyFilter := by
  have hfree : (quoteUneven 0).toOption.map AggregatedSwapOutcome.amount =
      some 10 := by
    decide +kernel
  have hlimited : (quoteUneven 10).toOption.map AggregatedSwapOutcome.amount =
      some 6 := by
    decide +kernel
  refine ⟨vetoedByLimits_withVeto unevenPrice _ _, ⟨hfree, hlimited⟩, ?_⟩
  intro h
  obtain ⟨plan, hplan, hamount⟩ := Option.map_eq_some_iff.mp hfree
  obtain ⟨plan', hplan', hamount'⟩ := Option.map_eq_some_iff.mp hlimited
  have hsame : plan = plan' :=
    h _ _ (.withDesiredInput 2 0 10) plan plan'
      (Tx.toOption_eq_some.mp hplan) (Tx.toOption_eq_some.mp hplan')
  rw [hsame, hamount'] at hamount
  exact absurd hamount (by decide)

end LiquidityProxy
end SoraParachain

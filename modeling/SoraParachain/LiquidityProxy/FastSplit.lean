import SoraParachain.LiquidityProxy.Shares

/-!
# The fast split

The share of the secondary market comes from a difference of fixed-point numbers
that may be negative, too large or an error, and the primary market gets what it
leaves.  Whatever the prices and the reserves are, the two shares make up the
whole, and their parts of the amount leave out at most one unit.
-/

namespace SoraParachain
namespace LiquidityProxy

variable {T : Config} {P : ProxyConfig T} {s : ChainOf P}

/-- The fraction is nothing, the whole or something in between. -/
def IsShare (fraction : FixedNumber) : Prop :=
  0 ≤ fraction.bits ∧ fraction.bits ≤ fixedFormat.scale

/-- Two fractions that make up the whole. -/
structure SharesWhole (prim sec : FixedNumber) : Prop where
  sum : prim.bits + sec.bits = fixedFormat.scale
  prim : IsShare prim
  sec : IsShare sec

theorem legAmount_eq_ok {amount leg : ℕ} {fraction : FixedNumber}
    (h : IsShare fraction) :
    legAmount (FixedWrapper.ofBalance amount) fraction = .ok leg ↔
      amount < 2 ^ 127 ∧
        leg = flooredPart fixedFormat.scale amount fraction.bits.toNat := by
  have hfraction : (FixedWrapper.ofFixed fraction).Holds
      (fraction.bits.toNat : ℕ) := by
    rw [FixedWrapper.holds_ofFixed]
    exact Int.toNat_of_nonneg h.1
  have hle : flooredPart fixedFormat.scale amount fraction.bits.toNat ≤
      amount := flooredPart_le (Int.toNat_le.mpr h.2)
  have hpart : amount * fraction.bits.toNat / 10 ^ 18 =
      flooredPart fixedFormat.scale amount fraction.bits.toNat := by
    rw [flooredPart, Nat.mul_comm]
  rw [legAmount, calculated_eq_ok, FixedWrapper.tryIntoBalance_eq_ok]
  constructor
  · intro hholds
    obtain ⟨a, _, ha, -⟩ := FixedWrapper.holds_mul.mp hholds
    obtain ⟨rfl, hlt⟩ := FixedWrapper.holds_ofBalance.mp ha
    obtain ⟨hleg, -⟩ := (FixedWrapper.holds_mul_nat ha hfraction).mp hholds
    rw [hpart] at hleg
    exact ⟨hlt, by exact_mod_cast hleg⟩
  · rintro ⟨hlt, rfl⟩
    have ha := FixedWrapper.holds_ofBalance.mpr
      (⟨rfl, hlt⟩ : (amount : ℤ) = amount ∧ amount < 2 ^ 127)
    apply (FixedWrapper.holds_mul_nat ha hfraction).mpr
    rw [hpart]
    exact ⟨rfl, hle.trans_lt hlt⟩

/-- An amount that does not fit has no parts. -/
theorem legAmount_eq_fail {amount : ℕ} {fraction : FixedNumber}
    (h : IsShare fraction) (hle : 2 ^ 127 ≤ amount) :
    legAmount (FixedWrapper.ofBalance amount) fraction =
      fail (proxyError .calculationError) := by
  have hnone : ∀ leg,
      legAmount (FixedWrapper.ofBalance amount) fraction ≠ .ok leg :=
    fun leg hleg => ((legAmount_eq_ok h).mp hleg).1.not_ge hle
  unfold legAmount at hnone ⊢
  cases hpart : (FixedWrapper.ofBalance amount *
      FixedWrapper.ofFixed fraction).tryIntoBalance with
  | ok leg => exact absurd (calculated_eq_ok.mpr hpart) (hnone leg)
  | error e => rfl

/-- The parts of an amount for two fractions.  They leave out at most one unit of
it. -/
structure SplitsAmount (amount : ℕ) (prim sec : FixedNumber) (a b : ℕ) :
    Prop where
  prim : legAmount (FixedWrapper.ofBalance amount) prim = .ok a
  sec : legAmount (FixedWrapper.ofBalance amount) sec = .ok b
  sum : a + b = amount ∨ a + b + 1 = amount

namespace SharesWhole

variable {prim sec : FixedNumber}

theorem sum_toNat (h : SharesWhole prim sec) :
    [prim.bits.toNat, sec.bits.toNat].sum = fixedFormat.scale := by
  have hprim := h.prim.1
  have hsec := h.sec.1
  have hsum := h.sum
  rw [List.sum_cons, List.sum_cons, List.sum_nil, Nat.add_zero]
  omega

/-- Both parts of an amount that fits are computed. -/
theorem exists_splitsAmount (h : SharesWhole prim sec) {amount : ℕ}
    (hlt : amount < 2 ^ 127) : ∃ a b, SplitsAmount amount prim sec a b := by
  refine ⟨_, _, (legAmount_eq_ok h.prim).mpr ⟨hlt, rfl⟩,
    (legAmount_eq_ok h.sec).mpr ⟨hlt, rfl⟩, ?_⟩
  have hscale : 0 < fixedFormat.scale := by decide
  have hle := flooredSum_le (n := amount) hscale h.sum_toNat.le
  have hgap := lt_flooredSum_add_length (n := amount) hscale h.sum_toNat
  rw [flooredSum_cons, flooredSum_cons, flooredSum_nil, Nat.add_zero] at hle hgap
  rw [List.length_cons, List.length_cons, List.length_nil] at hgap
  omega

end SharesWhole

/-! ## The fractions -/

/-- What a share leaves of the whole never fails to be computed. -/
theorem exists_complement {fraction : FixedNumber} (h : IsShare fraction) :
    ∃ rest, complement fraction = .ok rest ∧ SharesWhole rest fraction := by
  have hone : (FixedWrapper.ofFixed fixedOne).Holds (fixedFormat.scale : ℕ) :=
    FixedWrapper.holds_ofFixed.mpr rfl
  have hfraction : (FixedWrapper.ofFixed fraction).Holds
      (fraction.bits.toNat : ℕ) := by
    rw [FixedWrapper.holds_ofFixed]
    exact Int.toNat_of_nonneg h.1
  obtain ⟨rest, hrest, -⟩ :=
    (FixedWrapper.holds_sub_nat hone hfraction).mpr rfl
  have hok : complement fraction = .ok rest := by
    rw [complement, unwrap_eq_ok, Tx.toOption_eq_some]
    exact hrest
  refine ⟨rest, hok, ?_, complement_bits hok h, h⟩
  rw [complement_eq_ok hok]
  exact sub_add_cancel _ _

theorem SharesWhole.swap {prim sec : FixedNumber} (h : SharesWhole prim sec) :
    SharesWhole sec prim where
  sum := by
    rw [add_comm]
    exact h.sum
  prim := h.sec
  sec := h.prim

/-- The shares still make up the whole after they were weighed against the
reserves of the primary market. -/
theorem exists_limitToReserves {prim sec : FixedNumber}
    (h : SharesWhole prim sec) (reserves amount : ℕ) :
    ∃ fractions, limitToReserves (FixedWrapper.ofBalance reserves)
        (FixedWrapper.ofBalance amount) prim sec = .ok fractions ∧
      SharesWhole fractions.1 fractions.2 := by
  unfold limitToReserves
  split
  · rename_i hless
    have hlt := reserves_lt_amount hless h.prim.1 h.prim.2
    have hbits := collateralFraction_bits hlt
    generalize collateralFraction (FixedWrapper.ofBalance reserves)
      (FixedWrapper.ofBalance amount) = fraction at hbits ⊢
    obtain ⟨rest, hrest, hwhole⟩ := exists_complement hbits
    exact ⟨(fraction, rest), Tx.except_bind_of_ok hrest _, hwhole.swap⟩
  · exact ⟨(prim, sec), rfl, h⟩

/-! ## The quotes -/

/-- The amount that a swap names. -/
def desiredAmount : SwapAmount → ℕ
  | .withDesiredInput desiredAmountIn _ => desiredAmountIn
  | .withDesiredOutput desiredAmountOut _ => desiredAmountOut

/-- The quote of a market for its part of an amount, without a limit.  A market
that gets nothing is not asked. -/
def quoteLeg (P : ProxyConfig T) (s : ChainOf P)
    (inputAssetId outputAssetId : T.AssetId) (amount : SwapAmount)
    (src : LiquiditySourceId T.DEXId) (leg : ℕ) : Result SwapOutcome :=
  if leg = 0 then .ok ⟨0, 0⟩
  else
    mapErr .calculationError (P.quote s src inputAssetId outputAssetId
      (match amount with
        | .withDesiredInput _ _ => .withDesiredInput leg 0
        | .withDesiredOutput _ _ => .withDesiredOutput leg maxBalance))

/-- The plan whose two markets are quoted for the parts `a` and `b`. -/
def quoteLegs (P : ProxyConfig T) (s : ChainOf P)
    (inputAssetId outputAssetId : T.AssetId) (amount : SwapAmount)
    (prim sec : LiquiditySourceId T.DEXId × FixedNumber) (a b : ℕ) :
    Result (AggregatedSwapOutcome T.DEXId) := do
  let outcomePrim ← quoteLeg P s inputAssetId outputAssetId amount prim.1 a
  let outcomeSec ← quoteLeg P s inputAssetId outputAssetId amount sec.1 b
  pure ⟨[prim, sec], wrappingAdd outcomePrim.amount outcomeSec.amount,
    wrappingAdd outcomePrim.fee outcomeSec.fee⟩

section

variable {inputAssetId outputAssetId : T.AssetId} {amount : SwapAmount}
  {wrappedAmount : FixedWrapper}

theorem wrappingAdd_wrappingAdd_zero (m n : ℕ) :
    wrappingAdd (wrappingAdd 0 m) n = wrappingAdd m n := by
  rw [wrappingAdd, wrappingAdd, wrappingAdd, Nat.zero_add, Nat.mod_add_mod]

/-- Quoting a fraction adds the quote of its part up. -/
theorem quoteFraction_eq {d : LiquiditySourceId T.DEXId × FixedNumber} {leg : ℕ}
    (hleg : legAmount wrappedAmount d.2 = .ok leg) {acc : ℕ × ℕ}
    (hacc : acc.1 < balanceModulus ∧ acc.2 < balanceModulus) :
    quoteFraction P s inputAssetId outputAssetId amount wrappedAmount acc d =
      (quoteLeg P s inputAssetId outputAssetId amount d.1 leg).map
        fun outcome => (wrappingAdd acc.1 outcome.amount,
          wrappingAdd acc.2 outcome.fee) := by
  unfold quoteFraction quoteLeg
  rw [Tx.except_bind_of_ok hleg]
  by_cases hzero : leg = 0
  · rw [if_pos hzero, if_neg (by omega), Except.map, wrappingAdd, wrappingAdd,
      Nat.add_zero, Nat.add_zero, Nat.mod_eq_of_lt hacc.1,
      Nat.mod_eq_of_lt hacc.2]
    rfl
  · rw [if_neg hzero, if_pos (by omega)]
    cases amount with
    | withDesiredInput d m => rfl
    | withDesiredOutput d m => rfl

/-- Quoting both fractions is quoting both parts. -/
theorem quoteFractions_eq_quoteLegs
    {prim sec : LiquiditySourceId T.DEXId × FixedNumber} {a b : ℕ}
    (hprim : legAmount wrappedAmount prim.2 = .ok a)
    (hsec : legAmount wrappedAmount sec.2 = .ok b) :
    quoteFractions P s inputAssetId outputAssetId amount wrappedAmount
        [prim, sec] =
      quoteLegs P s inputAssetId outputAssetId amount prim sec a b := by
  have hpos : 0 < balanceModulus := by decide
  rw [quoteFractions, List.foldlM_cons, quoteFraction_eq hprim ⟨hpos, hpos⟩,
    quoteLegs]
  cases quoteLeg P s inputAssetId outputAssetId amount prim.1 a with
  | error e => rfl
  | ok outcomePrim =>
      rw [Except.map, Tx.except_ok_bind, Tx.except_ok_bind, List.foldlM_cons,
        quoteFraction_eq hsec ⟨Nat.mod_lt _ hpos, Nat.mod_lt _ hpos⟩]
      cases quoteLeg P s inputAssetId outputAssetId amount sec.1 b with
      | error e => rfl
      | ok outcomeSec =>
          rw [Except.map, Tx.except_ok_bind, Tx.except_ok_bind,
            wrappingAdd_wrappingAdd_zero, wrappingAdd_wrappingAdd_zero]
          rfl

/-- Fractions of an amount that does not fit are not quoted. -/
theorem quoteFractions_eq_fail
    {prim sec : LiquiditySourceId T.DEXId × FixedNumber}
    (hprim : legAmount wrappedAmount prim.2 =
      fail (proxyError .calculationError)) :
    quoteFractions P s inputAssetId outputAssetId amount wrappedAmount
        [prim, sec] = fail (proxyError .calculationError) := by
  rw [quoteFractions, List.foldlM_cons, quoteFraction, hprim]
  rfl

end

/-! ## Both directions -/

/-- A split has two fractions that make up the whole.  The two markets are quoted
for their parts of the amount, which leave out at most one unit of it, and the
quotes are added up; an amount that does not fit is an error. -/
def QuotesSplit (P : ProxyConfig T) (s : ChainOf P)
    (primarySourceId secondarySourceId : LiquiditySourceId T.DEXId)
    (inputAssetId outputAssetId : T.AssetId) (amount : SwapAmount)
    (plan : Result (AggregatedSwapOutcome T.DEXId)) : Prop :=
  ∃ fractionPrim fractionSec, SharesWhole fractionPrim fractionSec ∧
    (2 ^ 127 ≤ desiredAmount amount ∧
        plan = fail (proxyError .calculationError) ∨
      ∃ a b, SplitsAmount (desiredAmount amount) fractionPrim fractionSec a b ∧
        plan = quoteLegs P s inputAssetId outputAssetId amount
          (primarySourceId, fractionPrim) (secondarySourceId, fractionSec) a b)

/-- Quoting fractions that make up the whole is such a split. -/
theorem SharesWhole.quotesSplit {fractionPrim fractionSec : FixedNumber}
    (h : SharesWhole fractionPrim fractionSec)
    {prim sec : LiquiditySourceId T.DEXId}
    {inputAssetId outputAssetId : T.AssetId} {amount : SwapAmount}
    {plan : Result (AggregatedSwapOutcome T.DEXId)}
    (hplan : plan = quoteFractions P s inputAssetId outputAssetId amount
      (FixedWrapper.ofBalance (desiredAmount amount))
      [(prim, fractionPrim), (sec, fractionSec)]) :
    QuotesSplit P s prim sec inputAssetId outputAssetId amount plan := by
  refine ⟨fractionPrim, fractionSec, h, ?_⟩
  rw [hplan]
  by_cases hlt : desiredAmount amount < 2 ^ 127
  · obtain ⟨a, b, hsplit⟩ := h.exists_splitsAmount hlt
    exact Or.inr ⟨a, b, hsplit,
      quoteFractions_eq_quoteLegs hsplit.prim hsplit.sec⟩
  · have hle : 2 ^ 127 ≤ desiredAmount amount := Nat.le_of_not_lt hlt
    exact Or.inl ⟨hle, quoteFractions_eq_fail (legAmount_eq_fail h.prim hle)⟩

/-- A call of the primary market failed, and the split fails with it. -/
def FailsWith {α β : Type} (call : Result α) (plan : Result β) : Prop :=
  ∃ e, call = .error e ∧ plan = .error e

variable {prim sec : LiquiditySourceId T.DEXId} {base collateral : T.AssetId}

theorem decideAmountsBuyingBaseAsset_quotesSplit (amount : SwapAmount)
    (reserves : ℕ × ℕ) :
    FailsWith (mapErr .calculationError (P.buyPrice s base collateral))
        (decideAmountsBuyingBaseAsset P s prim sec base collateral amount
          reserves) ∨
      QuotesSplit P s prim sec collateral base amount
        (decideAmountsBuyingBaseAsset P s prim sec base collateral amount
          reserves) := by
  rw [decideAmountsBuyingBaseAsset]
  cases mapErr .calculationError (P.buyPrice s base collateral) with
  | error e => exact Or.inl ⟨e, rfl, Tx.except_error_bind _ _⟩
  | ok price =>
      rw [Tx.except_ok_bind]
      right
      cases amount with
      | withDesiredInput desired minimum =>
          obtain ⟨rest, hrest, hwhole⟩ :=
            exists_complement (clamped_or_none_bits _ _ _)
          exact hwhole.quotesSplit (Tx.except_bind_of_ok hrest _)
      | withDesiredOutput desired maximum =>
          obtain ⟨rest, hrest, hwhole⟩ :=
            exists_complement (clamped_or_none_bits _ _ _)
          exact hwhole.quotesSplit (Tx.except_bind_of_ok hrest _)

theorem decideAmountsSellingBaseAsset_quotesSplit (amount : SwapAmount)
    (reserves : ℕ × ℕ) :
    FailsWith (mapErr .calculationError (P.sellPrice s base collateral))
        (decideAmountsSellingBaseAsset P s prim sec base collateral amount
          reserves) ∨
      FailsWith (unwrapOr 0 (P.collateralReserves s collateral))
        (decideAmountsSellingBaseAsset P s prim sec base collateral amount
          reserves) ∨
      QuotesSplit P s prim sec base collateral amount
        (decideAmountsSellingBaseAsset P s prim sec base collateral amount
          reserves) := by
  rw [decideAmountsSellingBaseAsset]
  cases mapErr .calculationError (P.sellPrice s base collateral) with
  | error e => exact Or.inl ⟨e, rfl, Tx.except_error_bind _ _⟩
  | ok price =>
      rw [Tx.except_ok_bind]
      right
      cases amount with
      | withDesiredInput desired minimum =>
          obtain ⟨rest, hrest, hwhole⟩ :=
            exists_complement (clamped_or_none_bits _ _ _)
          exact Or.inr (hwhole.quotesSplit (Tx.except_bind_of_ok hrest _))
      | withDesiredOutput desired maximum =>
          obtain ⟨rest, hrest, hwhole⟩ :=
            exists_complement (clamped_or_none_bits _ _ _)
          cases unwrapOr 0 (P.collateralReserves s collateral) with
          | error e =>
              refine Or.inl ⟨e, rfl, (Tx.except_bind_of_ok hrest _).trans ?_⟩
              exact Tx.except_error_bind _ _
          | ok available =>
              obtain ⟨fractions, hfractions, hlimited⟩ :=
                exists_limitToReserves hwhole available desired
              refine Or.inr (hlimited.quotesSplit
                ((Tx.except_bind_of_ok hrest _).trans ?_))
              rw [Tx.except_ok_bind]
              exact Tx.except_bind_of_ok hfractions _

/-- Whatever the reserves, the prices and the amount are, the fast split fails
with a call of the primary market or quotes two parts of the amount: its shares
make up the whole, and their parts leave out at most one unit. -/
theorem fast_split_total (P : ProxyConfig T) (s : ChainOf P)
    (primarySourceId secondarySourceId : LiquiditySourceId T.DEXId)
    (base collateral : T.AssetId) (amount : SwapAmount) (reserves : ℕ × ℕ) :
    (FailsWith (mapErr .calculationError (P.buyPrice s base collateral))
          (decideAmountsBuyingBaseAsset P s primarySourceId secondarySourceId
            base collateral amount reserves) ∨
        QuotesSplit P s primarySourceId secondarySourceId collateral base
          amount
          (decideAmountsBuyingBaseAsset P s primarySourceId secondarySourceId
            base collateral amount reserves)) ∧
      (FailsWith (mapErr .calculationError (P.sellPrice s base collateral))
          (decideAmountsSellingBaseAsset P s primarySourceId secondarySourceId
            base collateral amount reserves) ∨
        FailsWith (unwrapOr 0 (P.collateralReserves s collateral))
          (decideAmountsSellingBaseAsset P s primarySourceId secondarySourceId
            base collateral amount reserves) ∨
        QuotesSplit P s primarySourceId secondarySourceId base collateral
          amount
          (decideAmountsSellingBaseAsset P s primarySourceId secondarySourceId
            base collateral amount reserves)) :=
  ⟨decideAmountsBuyingBaseAsset_quotesSplit amount reserves,
    decideAmountsSellingBaseAsset_quotesSplit amount reserves⟩

end LiquidityProxy
end SoraParachain

import Mathlib.Data.List.GetD
import SoraParachain.Library.FlooredParts
import SoraParachain.LiquidityProxy.Exchange

/-!
# The shares of a distribution

Whoever plans a distribution, its shares do not exceed the whole: a single source
gets the whole, two markets get complementary fractions, and the parts of a best
distribution are numbers of samples that add up to all samples.
-/

namespace SoraParachain
namespace LiquidityProxy

variable {T : Config} {P : ProxyConfig T} {s : ChainOf P}

/-- The numerators of the shares that are handed out. -/
def shareBits
    (distribution : List (LiquiditySourceId T.DEXId × FixedNumber)) : List ℕ :=
  (positiveShares distribution).map fun d => d.2.bits.toNat

/-- The shares of all sources together, counting none below zero. -/
def totalShare (shares : List FixedNumber) : ℕ :=
  (shares.map fun share => share.bits.toNat).sum

@[simp] theorem totalShare_nil : totalShare [] = 0 := rfl

theorem totalShare_cons (share : FixedNumber) (shares : List FixedNumber) :
    totalShare (share :: shares) = share.bits.toNat + totalShare shares := by
  rw [totalShare, List.map_cons, List.sum_cons, totalShare]

@[simp] theorem totalShare_reverse (shares : List FixedNumber) :
    totalShare shares.reverse = totalShare shares := by
  rw [totalShare, List.map_reverse, List.sum_reverse, totalShare]

theorem sum_shareBits_le
    (distribution : List (LiquiditySourceId T.DEXId × FixedNumber)) :
    (shareBits distribution).sum ≤
      totalShare (distribution.map Prod.snd) := by
  have hsub : List.Sublist
      ((positiveShares distribution).map fun d => d.2.bits.toNat)
      (distribution.map fun d => d.2.bits.toNat) :=
    List.filter_sublist.map _
  have hle := hsub.sum_le_sum fun _ _ => Nat.zero_le _
  rw [totalShare, List.map_map]
  exact hle

/-! ## The best distribution -/

/-- No cell of a row leaves more parts than it has. -/
def LeavesNoMore (row : List Cell) : Prop :=
  ∀ j, (cellAt row j).2 ≤ j

theorem leavesNoMore_firstRow (samples : List FixedNumber) :
    LeavesNoMore (firstRow samples) := by
  intro j
  have hcell : (cellAt (firstRow samples) j).2 = 0 := by
    cases j with
    | zero => rfl
    | succ j =>
        rw [cellAt, firstRow, List.getD_cons_succ]
        exact congrArg Prod.snd
          (List.getD_map samples zeroCell.1 fun sample => (sample, 0))
  rw [hcell]
  exact Nat.zero_le j

theorem bestCell_snd_le (inversed : Bool) (before : List Cell)
    (samples : List FixedNumber) (j : ℕ) :
    (bestCell inversed before samples j).2 ≤ j := by
  refine List.foldlRecOn (motive := fun cell : Cell => cell.2 ≤ j)
    (List.range j) (betterCell inversed before samples j) le_rfl ?_
  intro cell hcell k hk
  unfold betterCell
  split
  · exact hcell
  · split_ifs
    · exact (Nat.sub_le _ _).trans (Nat.sub_le _ _)
    · exact hcell

theorem leavesNoMore_nextRow (inversed : Bool) (s : ℕ) (before : List Cell)
    (samples : List FixedNumber) :
    LeavesNoMore (nextRow inversed s before samples) := by
  intro j
  cases j with
  | zero => exact le_rfl
  | succ j =>
      rw [cellAt, nextRow, List.getD_cons_succ]
      by_cases hj : j < s
      · rw [List.getD_eq_getElem _ _ (by simpa using hj), List.getElem_map,
          List.getElem_range]
        exact bestCell_snd_le inversed before samples (j + 1)
      · rw [List.getD_eq_default _ _ (by simpa using hj)]
        exact Nat.zero_le _

theorem leavesNoMore_tableRows (inversed : Bool) (s : ℕ) :
    ∀ (rest : List (List FixedNumber)) (first : List Cell),
      LeavesNoMore first →
        ∀ row ∈ tableRows inversed s first rest, LeavesNoMore row := by
  intro rest
  induction rest with
  | nil =>
      intro first hfirst row hrow
      rw [tableRows, List.mem_singleton] at hrow
      rw [hrow]
      exact hfirst
  | cons samples rest ih =>
      intro first hfirst row hrow
      rw [tableRows, List.mem_append, List.mem_singleton] at hrow
      rcases hrow with hrow | hrow
      · exact ih _ (leavesNoMore_nextRow inversed s first samples) row hrow
      · rw [hrow]
        exact hfirst

theorem balance_eq_mul_scale (n : ℕ) :
    balance n = n * fixedFormat.scale := by
  rw [balance]

theorem balance_sub {l f : ℕ} (hle : f ≤ l) :
    (balance l : ℤ) - balance f = balance (l - f) := by
  rw [balance, balance, balance, Nat.sub_mul]
  exact (Nat.cast_sub (Nat.mul_le_mul_right _ hle)).symm

theorem floored_fraction_mul_le {c k n : ℕ} (hc : 0 < c) :
    k * c * c / (n * c) * n ≤ k * c := by
  have hq : k * c * c / (n * c) * (n * c) ≤ k * c * c := Nat.div_mul_le_self _ _
  rw [← Nat.mul_assoc] at hq
  exact Nat.le_of_mul_le_mul_right hq hc

/-- A source keeps at most its parts out of all parts. -/
theorem distributionPart_mul_le {n l f : ℕ} {total share : FixedNumber}
    (htotal : total.bits = balance n) (hle : f ≤ l)
    (h : (distributionPart total l f).inner = .ok share) :
    share.bits.toNat * n ≤ balance (l - f) := by
  have hholds : (distributionPart total l f).Holds share.bits := ⟨share, h, rfl⟩
  rw [distributionPart, FixedWrapper.holds_div] at hholds
  obtain ⟨a, b, hdiff, htot, hb, hshare, -⟩ := hholds
  obtain ⟨_, _, hl, hf, hdiff, -⟩ := FixedWrapper.holds_sub.mp hdiff
  have hl := (FixedWrapper.holds_ofBalance.mp hl).1
  have hf := (FixedWrapper.holds_ofBalance.mp hf).1
  rw [FixedWrapper.holds_ofFixed, htotal] at htot
  rw [hl, hf, balance_sub hle] at hdiff
  rw [hdiff, htot, ← Int.natCast_mul, ← Int.ofNat_fdiv] at hshare
  rw [hshare, Int.toNat_natCast, balance_eq_mul_scale, balance_eq_mul_scale]
  exact floored_fraction_mul_le fixedFormat.scale_pos

/-- The shares read off from a table stand for no more parts than there are. -/
theorem totalShare_backtrack_mul_le {n : ℕ} {total : FixedNumber}
    (htotal : total.bits = balance n) :
    ∀ {rows : List (List Cell)} {left : ℕ} {shares : List FixedNumber},
      (∀ row ∈ rows, LeavesNoMore row) →
        ((backtrack rows left).mapM fun l =>
            (distributionPart total l.1 l.2).inner) = .ok shares →
          totalShare shares * n ≤ balance left := by
  intro rows
  induction rows with
  | nil =>
      intro left shares _ h
      cases h
      simp [totalShare]
  | cons row rows ih =>
      intro left shares hrows h
      rw [backtrack, List.mapM_cons, Tx.except_bind_eq_ok] at h
      obtain ⟨share, hshare, h⟩ := h
      obtain ⟨rest, hrest, h⟩ := Tx.except_bind_eq_ok.mp h
      cases h
      generalize hf : (if left = 0 then 0 else (cellAt row left).2) = f
        at hshare hrest
      have hfle : f ≤ left := by
        rw [← hf]
        split_ifs
        · exact Nat.zero_le _
        · exact hrows row List.mem_cons_self left
      have hpart := distributionPart_mul_le htotal hfle hshare
      have hsum := ih (fun r hr => hrows r (List.mem_cons_of_mem _ hr)) hrest
      rw [totalShare_cons, Nat.add_mul]
      have hleft : balance (left - f) + balance f = balance left := by
        rw [balance, balance, balance, ← Nat.add_mul, Nat.sub_add_cancel hfle]
      rw [← hleft]
      exact Nat.add_le_add hpart hsum

theorem totalPartsOf_eq_some {n : ℕ} {total : FixedNumber}
    (h : totalPartsOf n = some total) :
    total.bits = balance n ∧ 0 < n := by
  rw [totalPartsOf, Option.filter_eq_some_iff, fixedOfBalance_eq_some] at h
  obtain ⟨hbits, hne⟩ := h
  refine ⟨hbits, Nat.pos_of_ne_zero fun hn => ?_⟩
  rw [hbits, hn, balance, Nat.zero_mul] at hne
  simp at hne

theorem totalShare_distributionOf {n : ℕ} {total : FixedNumber}
    {rows : List (List Cell)} (htotal : total.bits = balance n) (hn : 0 < n)
    (hrows : ∀ row ∈ rows, LeavesNoMore row) :
    totalShare (distributionOf total n rows).1 ≤ fixedFormat.scale := by
  rw [distributionOf]
  split
  · rw [totalShare_nil]
    exact Nat.zero_le _
  · rename_i shares hshares
    have hmul := totalShare_backtrack_mul_le htotal hrows hshares
    rw [balance_eq_mul_scale, Nat.mul_comm] at hmul
    rw [totalShare_reverse]
    exact Nat.le_of_mul_le_mul_left hmul hn

/-- A best distribution does not hand out more than the whole. -/
theorem totalShare_findDistribution {sampleData : List (List FixedNumber)}
    {inversed : Bool} {distr : List FixedNumber} {best : FixedNumber}
    (h : findDistribution sampleData inversed = some (distr, best)) :
    totalShare distr ≤ fixedFormat.scale := by
  have hdefault : totalShare [] ≤ fixedFormat.scale := by
    rw [totalShare_nil]
    exact Nat.zero_le _
  cases sampleData with
  | nil =>
      cases h
      exact hdefault
  | cons first rest =>
      rw [findDistribution] at h
      cases htotal : totalPartsOf first.length with
      | none =>
          rw [htotal, distributeParts, Option.some.injEq] at h
          cases h
          exact hdefault
      | some total =>
          rw [htotal, distributeParts] at h
          split_ifs at h with hall
          have hdistr := Option.some.inj h
          have hrows := leavesNoMore_tableRows inversed first.length rest
            (firstRow first) (leavesNoMore_firstRow first)
          obtain ⟨hbits, hpos⟩ := totalPartsOf_eq_some htotal
          have hle := totalShare_distributionOf hbits hpos hrows
          rw [hdistr] at hle
          exact hle

/-! ## Two markets -/

theorem clampedFraction_bits (delta amount : FixedWrapper) :
    0 ≤ (clampedFraction delta amount).bits ∧
      (clampedFraction delta amount).bits ≤ fixedFormat.scale := by
  unfold clampedFraction
  split
  · exact ⟨le_rfl, by decide⟩
  · rename_i fraction _
    split_ifs with habove hbelow
    · exact ⟨by decide, le_rfl⟩
    · exact ⟨le_rfl, by decide⟩
    · exact ⟨not_lt.mp hbelow, not_lt.mp habove⟩

/-- A fraction and what it leaves make up the whole. -/
theorem complement_eq_ok {fraction rest : FixedNumber}
    (h : complement fraction = .ok rest) :
    rest.bits = fixedFormat.scale - fraction.bits := by
  rw [complement, unwrap_eq_ok, Tx.toOption_eq_some] at h
  have hholds : (FixedWrapper.ofFixed fixedOne -
      FixedWrapper.ofFixed fraction).Holds rest.bits := ⟨rest, h, rfl⟩
  obtain ⟨x, y, hx, hy, hrest, -⟩ := FixedWrapper.holds_sub.mp hholds
  rw [FixedWrapper.holds_ofFixed] at hx hy
  rw [hrest, hx, hy]
  rfl

/-- Reserves below a share of an amount are below the amount. -/
theorem reserves_lt_amount {reserves amount : ℕ} {share : FixedNumber}
    (h : (FixedWrapper.ofBalance reserves).less
      (FixedWrapper.ofBalance amount * FixedWrapper.ofFixed share) = true)
    (hnonneg : 0 ≤ share.bits) (hle : share.bits ≤ fixedFormat.scale) :
    reserves < amount := by
  obtain ⟨x, y, hx, hy, hlt⟩ := FixedWrapper.less_iff.mp h
  obtain ⟨rfl, -⟩ := FixedWrapper.holds_ofBalance.mp hx
  obtain ⟨a, k, ha, hk, -⟩ := FixedWrapper.holds_mul.mp hy
  obtain ⟨rfl, hamount⟩ := FixedWrapper.holds_ofBalance.mp ha
  have hshare : (FixedWrapper.ofFixed share).Holds (share.bits.toNat : ℕ) := by
    rw [FixedWrapper.holds_ofFixed]
    exact Int.toNat_of_nonneg hnonneg
  obtain ⟨rfl, -⟩ := (FixedWrapper.holds_mul_nat
    (FixedWrapper.holds_ofBalance.mpr ⟨rfl, hamount⟩) hshare).mp hy
  have hpart : amount * share.bits.toNat / 10 ^ 18 ≤ amount := by
    rw [Nat.mul_comm]
    exact flooredPart_le (Int.toNat_le.mpr hle)
  have hlt : reserves < amount * share.bits.toNat / 10 ^ 18 := by
    exact_mod_cast hlt
  exact hlt.trans_le hpart

theorem scaled_div_le {a m c : ℕ} (h : a ≤ m) : a * c / m ≤ c :=
  Nat.div_le_of_le_mul (Nat.mul_le_mul_right c h)

theorem numberOrZero_bits {number : FixedWrapper}
    (h : ∀ z, number.Holds z → 0 ≤ z ∧ z ≤ fixedFormat.scale) :
    0 ≤ (numberOrZero number).bits ∧
      (numberOrZero number).bits ≤ fixedFormat.scale := by
  unfold numberOrZero
  split
  · exact ⟨le_rfl, by decide⟩
  · rename_i fraction hfraction
    exact h fraction.bits ⟨fraction, hfraction, rfl⟩

/-- A part of reserves below an amount is a fraction of the amount. -/
theorem holds_scaled_div_bits {part reserves amount : ℕ} {z : ℤ}
    (hpart : part ≤ fixedFormat.scale) (hlt : reserves < amount)
    (h : (FixedWrapper.ofBalance part * FixedWrapper.ofBalance reserves /
      FixedWrapper.ofBalance amount).Holds z) :
    0 ≤ z ∧ z ≤ fixedFormat.scale := by
  obtain ⟨x, y, hmul, hamount, -⟩ := FixedWrapper.holds_div.mp h
  obtain ⟨p, r, hp, hr, -⟩ := FixedWrapper.holds_mul.mp hmul
  obtain ⟨hyeq, hylt⟩ := FixedWrapper.holds_ofBalance.mp hamount
  obtain ⟨hpeq, hplt⟩ := FixedWrapper.holds_ofBalance.mp hp
  obtain ⟨hreq, hrlt⟩ := FixedWrapper.holds_ofBalance.mp hr
  rw [hyeq] at hamount
  have hp := FixedWrapper.holds_ofBalance.mpr ⟨rfl, hplt⟩
  have hr := FixedWrapper.holds_ofBalance.mpr ⟨rfl, hrlt⟩
  obtain ⟨hxeq, -⟩ := (FixedWrapper.holds_mul_nat hp hr).mp hmul
  rw [hxeq] at hmul
  obtain ⟨-, hz, -⟩ := (FixedWrapper.holds_div_nat hmul hamount).mp h
  have hle : part * reserves / 10 ^ 18 ≤ reserves := flooredPart_le hpart
  rw [hz]
  exact ⟨Int.natCast_nonneg _,
    Int.ofNat_le.mpr (scaled_div_le (hle.trans hlt.le))⟩

/-- Nine tenths of reserves below an amount are a fraction of it. -/
theorem collateralFraction_bits {reserves amount : ℕ}
    (hlt : reserves < amount) :
    0 ≤ (collateralFraction (FixedWrapper.ofBalance reserves)
        (FixedWrapper.ofBalance amount)).bits ∧
      (collateralFraction (FixedWrapper.ofBalance reserves)
        (FixedWrapper.ofBalance amount)).bits ≤ fixedFormat.scale :=
  numberOrZero_bits fun _ hz => holds_scaled_div_bits (by decide) hlt hz

theorem totalShare_pair_le {prim sec : FixedNumber}
    (h : prim.bits + sec.bits = fixedFormat.scale) (hprim : 0 ≤ prim.bits)
    (hsec : 0 ≤ sec.bits) :
    totalShare [prim, sec] ≤ fixedFormat.scale := by
  simp only [totalShare_cons, totalShare_nil, Nat.add_zero]
  have hsum : prim.bits.toNat + sec.bits.toNat = fixedFormat.scale := by
    omega
  exact hsum.le

theorem complement_bits {fraction rest : FixedNumber}
    (hrest : complement fraction = .ok rest)
    (hbits : 0 ≤ fraction.bits ∧ fraction.bits ≤ fixedFormat.scale) :
    0 ≤ rest.bits ∧ rest.bits ≤ fixedFormat.scale := by
  rw [complement_eq_ok hrest]
  exact ⟨sub_nonneg.mpr hbits.2, sub_le_self _ hbits.1⟩

theorem totalShare_complement_le {fraction rest : FixedNumber}
    (hrest : complement fraction = .ok rest)
    (hbits : 0 ≤ fraction.bits ∧ fraction.bits ≤ fixedFormat.scale) :
    totalShare [rest, fraction] ≤ fixedFormat.scale ∧
      totalShare [fraction, rest] ≤ fixedFormat.scale := by
  have heq := complement_eq_ok hrest
  have hnonneg := (complement_bits hrest hbits).1
  constructor
  · apply totalShare_pair_le _ hnonneg hbits.1
    rw [heq]
    exact sub_add_cancel _ _
  · apply totalShare_pair_le _ hbits.1 hnonneg
    rw [heq]
    exact add_sub_cancel _ _

theorem clamped_or_none_bits (c : Bool) (delta amount : FixedWrapper) :
    0 ≤ (if c then clampedFraction delta amount else fixedZero).bits ∧
      (if c then clampedFraction delta amount else fixedZero).bits ≤
        fixedFormat.scale := by
  split_ifs
  · exact clampedFraction_bits delta amount
  · exact ⟨le_rfl, by decide⟩

/-- What is handed out of the whole by a plan. -/
def PlansNoMore (plan : AggregatedSwapOutcome T.DEXId) : Prop :=
  totalShare (plan.distribution.map Prod.snd) ≤ fixedFormat.scale

theorem plansNoMore_single {src : LiquiditySourceId T.DEXId} {amount fee : ℕ} :
    PlansNoMore ⟨[(src, fixedOne)], amount, fee⟩ := by
  have hle : totalShare [fixedOne] ≤ fixedFormat.scale := by decide
  exact hle

theorem plansNoMore_pair {prim sec : LiquiditySourceId T.DEXId}
    {fractionPrim fractionSec : FixedNumber} {amount fee : ℕ}
    (hle : totalShare [fractionPrim, fractionSec] ≤ fixedFormat.scale) :
    PlansNoMore ⟨[(prim, fractionPrim), (sec, fractionSec)], amount, fee⟩ :=
  hle

theorem quoteFractions_plansNoMore {inputAssetId outputAssetId : T.AssetId}
    {amount : SwapAmount} {wrappedAmount : FixedWrapper}
    {prim sec : LiquiditySourceId T.DEXId}
    {fractionPrim fractionSec : FixedNumber}
    {plan : AggregatedSwapOutcome T.DEXId}
    (h : quoteFractions P s inputAssetId outputAssetId amount wrappedAmount
      [(prim, fractionPrim), (sec, fractionSec)] = .ok plan)
    (hle : totalShare [fractionPrim, fractionSec] ≤ fixedFormat.scale) :
    PlansNoMore plan := by
  obtain ⟨_, -, h⟩ := Tx.except_bind_eq_ok.mp h
  cases h
  exact plansNoMore_pair hle

theorem decideAmountsBuyingBaseAsset_plansNoMore
    {prim sec : LiquiditySourceId T.DEXId} {base collateral : T.AssetId}
    {amount : SwapAmount} {reserves : ℕ × ℕ}
    {plan : AggregatedSwapOutcome T.DEXId}
    (h : decideAmountsBuyingBaseAsset P s prim sec base collateral amount
      reserves = .ok plan) :
    PlansNoMore plan := by
  rw [decideAmountsBuyingBaseAsset] at h
  obtain ⟨price, -, h⟩ := Tx.except_bind_eq_ok.mp h
  cases amount with
  | withDesiredInput d m =>
      obtain ⟨rest, hrest, h⟩ := Tx.except_bind_eq_ok.mp h
      apply quoteFractions_plansNoMore h
      exact (totalShare_complement_le hrest (clamped_or_none_bits _ _ _)).1
  | withDesiredOutput d m =>
      obtain ⟨rest, hrest, h⟩ := Tx.except_bind_eq_ok.mp h
      apply quoteFractions_plansNoMore h
      exact (totalShare_complement_le hrest (clamped_or_none_bits _ _ _)).1

theorem totalShare_limitToReserves_le {reserves amount : ℕ}
    {prim sec : FixedNumber} {fractions : FixedNumber × FixedNumber}
    (h : limitToReserves (FixedWrapper.ofBalance reserves)
      (FixedWrapper.ofBalance amount) prim sec = .ok fractions)
    (hprim : 0 ≤ prim.bits ∧ prim.bits ≤ fixedFormat.scale)
    (hle : totalShare [prim, sec] ≤ fixedFormat.scale) :
    totalShare [fractions.1, fractions.2] ≤ fixedFormat.scale := by
  unfold limitToReserves at h
  split at h
  · rename_i hless
    have hlt := reserves_lt_amount hless hprim.1 hprim.2
    have hbits := collateralFraction_bits hlt
    generalize collateralFraction (FixedWrapper.ofBalance reserves)
      (FixedWrapper.ofBalance amount) = fraction at h hbits
    obtain ⟨rest, hrest, h⟩ := Tx.except_bind_eq_ok.mp h
    cases h
    exact (totalShare_complement_le hrest hbits).2
  · cases h
    exact hle

theorem decideAmountsSellingBaseAsset_plansNoMore
    {prim sec : LiquiditySourceId T.DEXId} {base collateral : T.AssetId}
    {amount : SwapAmount} {reserves : ℕ × ℕ}
    {plan : AggregatedSwapOutcome T.DEXId}
    (h : decideAmountsSellingBaseAsset P s prim sec base collateral amount
      reserves = .ok plan) :
    PlansNoMore plan := by
  rw [decideAmountsSellingBaseAsset] at h
  obtain ⟨price, -, h⟩ := Tx.except_bind_eq_ok.mp h
  cases amount with
  | withDesiredInput d m =>
      obtain ⟨rest, hrest, h⟩ := Tx.except_bind_eq_ok.mp h
      apply quoteFractions_plansNoMore h
      exact (totalShare_complement_le hrest (clamped_or_none_bits _ _ _)).1
  | withDesiredOutput d m =>
      obtain ⟨rest, hrest, h⟩ := Tx.except_bind_eq_ok.mp h
      obtain ⟨collateralReserves, -, h⟩ := Tx.except_bind_eq_ok.mp h
      obtain ⟨fractions, hfractions, h⟩ := Tx.except_bind_eq_ok.mp h
      apply quoteFractions_plansNoMore h
      have hsec := clamped_or_none_bits
        ((FixedWrapper.ofFixed price).less
          (FixedWrapper.ofBalance reserves.2 /
            FixedWrapper.ofBalance reserves.1))
        (FixedWrapper.ofBalance reserves.2 -
          (FixedWrapper.ofBalance reserves.1).multiplyAndSqrt
            (FixedWrapper.ofBalance reserves.2) *
            (FixedWrapper.ofFixed price).sqrtAccurate)
        (FixedWrapper.ofBalance d)
      exact totalShare_limitToReserves_le hfractions
        (complement_bits hrest hsec) (totalShare_complement_le hrest hsec).1

theorem fastSplitPrimaryVsSecondary_plansNoMore
    {prim sec : LiquiditySourceId T.DEXId}
    {inputAssetId outputAssetId : T.AssetId} {amount : SwapAmount}
    {plan : AggregatedSwapOutcome T.DEXId}
    (h : fastSplitPrimaryVsSecondary P s prim sec inputAssetId outputAssetId
      amount = .ok plan) :
    PlansNoMore plan := by
  rw [fastSplitPrimaryVsSecondary] at h
  obtain ⟨_, -, h⟩ := Tx.except_bind_eq_ok.mp h
  dsimp only at h
  generalize (if T.getBaseAssetId = inputAssetId then outputAssetId
    else inputAssetId) = otherAsset at h
  split_ifs at h
  · obtain ⟨outcome, -, h⟩ := Tx.except_bind_eq_ok.mp h
    cases h
    exact plansNoMore_pair (by decide)
  · exact decideAmountsBuyingBaseAsset_plansNoMore h
  · exact decideAmountsSellingBaseAsset_plansNoMore h

/-! ## Sampled sources -/

theorem totalShare_zip_le {α : Type} (sources : List α) :
    ∀ distr : List FixedNumber,
      totalShare ((sources.zip distr).map Prod.snd) ≤ totalShare distr := by
  induction sources with
  | nil =>
      intro distr
      rw [List.zip_nil_left, List.map_nil, totalShare_nil]
      exact Nat.zero_le _
  | cons src sources ih =>
      intro distr
      cases distr with
      | nil => exact le_rfl
      | cons share distr =>
          rw [List.zip_cons_cons, List.map_cons, totalShare_cons,
            totalShare_cons]
          exact Nat.add_le_add_left (ih distr) _

theorem genericSplit_plansNoMore {sources : List (LiquiditySourceId T.DEXId)}
    {inputAssetId outputAssetId : T.AssetId} {amount : SwapAmount}
    {plan : AggregatedSwapOutcome T.DEXId}
    (h : genericSplit P s sources inputAssetId outputAssetId amount =
      .ok plan) :
    PlansNoMore plan := by
  rw [genericSplit] at h
  obtain ⟨rows, -, h⟩ := Tx.except_bind_eq_ok.mp h
  obtain ⟨best, hbest, h⟩ := Tx.except_bind_eq_ok.mp h
  obtain ⟨_, -, h⟩ := Tx.except_bind_eq_ok.mp h
  obtain ⟨_, -, h⟩ := Tx.except_bind_eq_ok.mp h
  obtain ⟨_, -, h⟩ := Tx.except_bind_eq_ok.mp h
  obtain ⟨_, -, h⟩ := Tx.except_bind_eq_ok.mp h
  obtain ⟨_, -, h⟩ := Tx.except_bind_eq_ok.mp h
  cases h
  have hdistr := totalShare_findDistribution (unwrap_eq_ok.mp hbest)
  exact (totalShare_zip_le sources best.1).trans hdistr

/-! ## Every plan -/

/-- The shares of a plan do not exceed the whole. -/
theorem quoteSingle_plansNoMore {inputAssetId outputAssetId : T.AssetId}
    {amount : SwapAmount} {filter : LiquiditySourceFilter T.DEXId}
    {plan : AggregatedSwapOutcome T.DEXId}
    (h : quoteSingle P s inputAssetId outputAssetId amount filter =
      .ok plan) :
    PlansNoMore plan := by
  rw [quoteSingle] at h
  obtain ⟨sources, -, h⟩ := Tx.except_bind_eq_ok.mp h
  split at h
  · cases h
  · obtain ⟨outcome, -, h⟩ := Tx.except_bind_eq_ok.mp h
    cases h
    exact plansNoMore_single
  · split at h
    · exact fastSplitPrimaryVsSecondary_plansNoMore h
    · exact genericSplit_plansNoMore h
  · exact genericSplit_plansNoMore h

/-- The shares that are handed out do not exceed the whole. -/
theorem sum_shareBits_quoteSingle {inputAssetId outputAssetId : T.AssetId}
    {amount : SwapAmount} {filter : LiquiditySourceFilter T.DEXId}
    {plan : AggregatedSwapOutcome T.DEXId}
    (h : quoteSingle P s inputAssetId outputAssetId amount filter =
      .ok plan) :
    (shareBits plan.distribution).sum ≤ fixedFormat.scale :=
  (sum_shareBits_le plan.distribution).trans (quoteSingle_plansNoMore h)

/-- A single source is handed out everything. -/
theorem flooredSum_of_single_source {src : LiquiditySourceId T.DEXId}
    {inputAssetId outputAssetId : T.AssetId} {amount : SwapAmount}
    {filter : LiquiditySourceFilter T.DEXId}
    {plan : AggregatedSwapOutcome T.DEXId} {n : ℕ}
    (hlist : P.listLiquiditySources s inputAssetId outputAssetId filter =
      .ok [src])
    (h : quoteSingle P s inputAssetId outputAssetId amount filter =
      .ok plan) :
    flooredSum fixedFormat.scale n (shareBits plan.distribution) = n := by
  rw [quoteSingle, hlist] at h
  obtain ⟨sources, hsources, h⟩ := Tx.except_bind_eq_ok.mp h
  cases hsources
  obtain ⟨outcome, -, h⟩ := Tx.except_bind_eq_ok.mp h
  cases h
  have hbits : shareBits [(src, fixedOne)] = [fixedFormat.scale] := rfl
  rw [hbits]
  exact flooredSum_whole fixedFormat.scale_pos

end LiquidityProxy
end SoraParachain

import SoraParachain.LiquidityProxy.BestDistribution
import SoraParachain.LiquidityProxy.Mock
import SoraParachain.LiquidityProxy.Planners
import SoraParachain.LiquidityProxy.SamplingPoints

/-!
# The fee of the chosen division

The generic split gets its shares from a division of the parts among the sources,
but it looks the fees up by shares that are already rounded down.  Multiplying a
share back and rounding to the nearest integer recovers its parts exactly, and a
share of no parts is looked up at a position that no row has, so the reported fee
is that of the division.
-/

namespace SoraParachain
namespace LiquidityProxy

open Allocation

variable {T : Config} {P : ProxyConfig T} {s : ChainOf P}

/-! ## Looking a fee up -/

/-- `as usize`: a negative number wraps around. -/
def asUsize (z : ℤ) : ℕ :=
  (z % 2 ^ 64).toNat

theorem asUsize_natCast {n : ℕ} (h : n < 2 ^ 64) : asUsize n = n := by
  rw [asUsize]
  omega

/-- The position before the first one is behind the last one of any row. -/
theorem getD_asUsize_neg_one {fees : List FixedNumber}
    (h : fees.length < 2 ^ 63) :
    fees.getD (asUsize (-1)) fixedZero = fixedZero := by
  apply List.getD_eq_default
  have hwrapped : asUsize (-1) = 2 ^ 64 - 1 := by decide
  rw [hwrapped]
  omega

theorem roundingToI64_eq {x : FixedNumber} {w n : ℕ} (hn : 0 < n)
    (hlt : n < 10 ^ 9)
    (hx : x.bits = (w * fixedFormat.scale / n * n : ℕ)) :
    roundingToI64 x = w := by
  have hnearest := nearest_mul_flooredShare (w := w) hn
    (show 2 * n ≤ fixedFormat.scale by
      change 2 * n ≤ 10 ^ 18
      omega)
  rw [roundingToI64, hx]
  exact_mod_cast hnearest

/-- The share of `w` parts as a number of parts again. -/
theorem exists_parts_of_share {share : FixedNumber} {w n : ℕ} (hw : w ≤ n)
    (hlt : n < 10 ^ 9)
    (hshare : share.bits = (w * fixedFormat.scale / n : ℕ)) :
    ∃ x : FixedNumber,
      (Fixed.checked (share.bits * n) : Except ArithmeticError FixedNumber) =
          .ok x ∧
        x.bits = (w * fixedFormat.scale / n * n : ℕ) := by
  have hle : w * fixedFormat.scale / n * n ≤ 10 ^ 9 * fixedFormat.scale := by
    calc
      w * fixedFormat.scale / n * n ≤ w * fixedFormat.scale :=
        Nat.div_mul_le_self _ _
      _ ≤ 10 ^ 9 * fixedFormat.scale :=
        Nat.mul_le_mul_right _ (hw.trans hlt.le)
  have hfits : fixedFormat.Fits (w * fixedFormat.scale / n * n : ℕ) :=
    (FixedFormat.fits_natCast fixedFormat).mpr (hle.trans_lt (by decide))
  have hproduct : share.bits * n =
      ((w * fixedFormat.scale / n * n : ℕ) : ℤ) := by
    rw [hshare, Int.natCast_mul]
  refine ⟨⟨_, hfits⟩, ?_, rfl⟩
  rw [hproduct]
  exact Fixed.checked_eq_ok.mpr rfl

/-- The fee that is looked up for a share of `w` parts is the one sampled for
`w` parts. -/
theorem exists_feeOfShare (fees : List FixedNumber) {share : FixedNumber}
    {w n : ℕ} (hn : 0 < n) (hw : w ≤ n) (hlt : n < 10 ^ 9)
    (hshare : share.bits = (w * fixedFormat.scale / n : ℕ)) :
    ∃ fee, feeOfShare n fees share = some fee ∧ fee.bits = rowValue fees w := by
  obtain ⟨x, hx, hbits⟩ := exists_parts_of_share hw hlt hshare
  rw [feeOfShare, hx]
  simp only [roundingToI64_eq hn hlt hbits]
  refine ⟨_, rfl, ?_⟩
  cases w with
  | zero => rfl
  | succ k =>
      have hnonneg : ¬((k + 1 : ℕ) : ℤ) - 1 < 0 := by omega
      have hindex : (((k + 1 : ℕ) : ℤ) - 1).toNat = k := by omega
      rw [if_neg hnonneg, hindex, rowValue_succ]
      rfl

/-- The same fee is found at the wrapped position. -/
theorem feeOfShare_eq_getD_asUsize {fees : List FixedNumber}
    {share : FixedNumber} {w n : ℕ} (hn : 0 < n) (hw : w ≤ n)
    (hlt : n < 10 ^ 9) (hlength : fees.length < 2 ^ 63)
    (hshare : share.bits = (w * fixedFormat.scale / n : ℕ)) :
    feeOfShare n fees share =
      some (fees.getD (asUsize ((w : ℤ) - 1)) fixedZero) := by
  obtain ⟨x, hx, hbits⟩ := exists_parts_of_share hw hlt hshare
  rw [feeOfShare, hx]
  simp only [roundingToI64_eq hn hlt hbits]
  cases w with
  | zero =>
      have hwrapped := getD_asUsize_neg_one hlength
      exact congrArg some hwrapped.symm
  | succ k =>
      have hnonneg : ¬((k + 1 : ℕ) : ℤ) - 1 < 0 := by omega
      have hpred : ((k + 1 : ℕ) : ℤ) - 1 = (k : ℕ) := by omega
      rw [if_neg hnonneg, hpred, asUsize_natCast (by omega),
        Int.toNat_natCast]

/-! ## The sum of the fees -/

/-- Adding up the fees that are looked up for shares of parts. -/
theorem holds_foldl_feeOfShare {n : ℕ} (hn : 0 < n) (hlt : n < 10 ^ 9) :
    ∀ (sampleFees : List (List FixedNumber)) (distr : List FixedNumber)
      (parts : List ℕ) (acc : FixedWrapper) (z : ℤ),
      parts.length = sampleFees.length → (∀ w ∈ parts, w ≤ n) →
      distr.map Fixed.bits = parts.map (fun w =>
        ((w * fixedFormat.scale / n : ℕ) : ℤ)) →
      ((distr.zip sampleFees).foldl (fun acc row =>
        match feeOfShare n row.2 row.1 with
        | none => acc
        | some fee => acc + FixedWrapper.ofFixed fee) acc).Holds z →
      ∃ a, acc.Holds a ∧ z = a + worth (sampleFees.map rowValue) parts := by
  intro sampleFees
  induction sampleFees with
  | nil =>
      intro distr parts acc z hlength _ _ h
      obtain rfl := List.eq_nil_of_length_eq_zero hlength
      rw [List.zip_nil_right, List.foldl_nil] at h
      exact ⟨z, h, by simp⟩
  | cons fees sampleFees ih =>
      intro distr parts acc z hlength hparts hdistr h
      obtain ⟨w, parts, rfl⟩ := List.exists_cons_of_length_eq_add_one hlength
      rw [List.map_cons, List.map_eq_cons_iff] at hdistr
      obtain ⟨share, distr, rfl, hshare, hdistr⟩ := hdistr
      obtain ⟨fee, hfee, hbits⟩ := exists_feeOfShare fees hn
        (hparts w List.mem_cons_self) hlt hshare
      rw [List.zip_cons_cons, List.foldl_cons, hfee] at h
      obtain ⟨b, hb, rfl⟩ := ih distr parts _ z (Nat.succ.inj hlength)
        (fun v hv => hparts v (List.mem_cons_of_mem w hv)) hdistr h
      obtain ⟨a, x, ha, hx, rfl, -⟩ := FixedWrapper.holds_add.mp hb
      rw [FixedWrapper.holds_ofFixed] at hx
      refine ⟨a, ha, ?_⟩
      rw [List.map_cons, worth_cons, hx, hbits, add_assoc]

theorem holds_totalFee {n : ℕ} {sampleFees : List (List FixedNumber)}
    {distr : List FixedNumber} {parts : List ℕ} {z : ℤ} (hn : 0 < n)
    (hlt : n < 10 ^ 9) (hparts : Divides (sampleFees.map rowValue) n parts)
    (hdistr : distr.map Fixed.bits = parts.map (fun w =>
      ((w * fixedFormat.scale / n : ℕ) : ℤ)))
    (h : (totalFee n sampleFees distr).Holds z) :
    z = worth (sampleFees.map rowValue) parts := by
  have hlength : parts.length = sampleFees.length := by
    rw [hparts.length_eq, List.length_map]
  obtain ⟨a, ha, hz⟩ := holds_foldl_feeOfShare hn hlt sampleFees distr parts _ z
    hlength (fun w hw => le_of_mem_of_divides hparts hw) hdistr h
  obtain ⟨rfl, -⟩ := FixedWrapper.holds_ofBalance.mp ha
  rw [hz]
  exact zero_add _

/-! ## Rows of samples -/

theorem length_of_linspace_right {a b : FixedNumber} {n : ℕ}
    {points : List FixedNumber} (h : linspace a b n .right = some points) :
    points.length = n := by
  cases n with
  | zero =>
      cases h
      rfl
  | succ n =>
      rw [linspace, if_neg (Nat.succ_ne_zero n)] at h
      split_ifs at h
      · cases h
        exact List.length_replicate
      · obtain ⟨inner, hinner, rfl⟩ := Option.map_eq_some_iff.mp h
        rw [List.length_append, Traversal.length_of_mapM_eq_some hinner,
          List.length_range]
        rfl

/-- A source is sampled as often as asked for. -/
theorem length_of_sampleLiquiditySource {src : LiquiditySourceId T.DEXId}
    {inputAssetId outputAssetId : T.AssetId} {amount : FixedSwapAmount}
    {n : ℕ} {row : List FixedSwapOutcome}
    (h : sampleLiquiditySource P s src inputAssetId outputAssetId amount n =
      .ok row) :
    row.length = n := by
  cases amount with
  | withDesiredInput d m =>
      obtain ⟨amounts, hamounts, h⟩ := Tx.except_bind_eq_ok.mp h
      obtain ⟨limits, hlimits, h⟩ := Tx.except_bind_eq_ok.mp h
      rw [Traversal.length_of_mapM_eq_ok h, List.length_zip,
        length_of_linspace_right (unwrap_eq_ok.mp hamounts),
        length_of_linspace_right (unwrap_eq_ok.mp hlimits), Nat.min_self]
  | withDesiredOutput d m =>
      obtain ⟨amounts, hamounts, h⟩ := Tx.except_bind_eq_ok.mp h
      obtain ⟨limits, hlimits, h⟩ := Tx.except_bind_eq_ok.mp h
      rw [Traversal.length_of_mapM_eq_ok h, List.length_zip,
        length_of_linspace_right (unwrap_eq_ok.mp hamounts),
        length_of_linspace_right (unwrap_eq_ok.mp hlimits), Nat.min_self]

theorem length_of_sampled_rows {sources : List (LiquiditySourceId T.DEXId)}
    {inputAssetId outputAssetId : T.AssetId} {amount : FixedSwapAmount}
    {n : ℕ} {rows : List (List FixedSwapOutcome)}
    (h : (sources.mapM fun src => sampleLiquiditySource P s src inputAssetId
      outputAssetId amount n) = .ok rows) :
    ∀ row ∈ rows, row.length = n := by
  have hforall := Traversal.mapM_eq_ok.mp h
  clear h
  induction hforall with
  | nil => simp
  | cons hrow _ ih =>
      intro row hmem
      rcases List.mem_cons.mp hmem with rfl | hmem
      · exact length_of_sampleLiquiditySource hrow
      · exact ih row hmem

/-! ## The reported fee -/

/-- What was sampled for a source at a number of parts, nothing at no parts. -/
def sampledAt (field : FixedSwapOutcome → FixedNumber)
    (row : List FixedSwapOutcome) (w : ℕ) : ℤ :=
  rowValue (row.map field) w

theorem map_rowValue_map (field : FixedSwapOutcome → FixedNumber)
    (rows : List (List FixedSwapOutcome)) :
    (rows.map fun row => row.map field).map rowValue =
      rows.map (sampledAt field) := by
  rw [List.map_map]
  rfl

/-- The best division of rows is reported with its amount and its fee. -/
theorem division_of_splitOfRows {sources : List (LiquiditySourceId T.DEXId)}
    {n : ℕ} {inversed : Bool} {rows : List (List FixedSwapOutcome)}
    {outcome : AggregatedSwapOutcome T.DEXId} (hne : rows ≠ []) (hpos : 1 ≤ n)
    (hlt : n < 10 ^ 9) (hlength : ∀ row ∈ rows, row.length = n)
    (h : splitOfRows n sources inversed rows = .ok outcome) :
    ∃ parts,
      Divides (rows.map (sampledAt FixedSwapOutcome.fee)) n parts ∧
        outcome.distribution.map (fun d => (d.1, d.2.bits)) =
          sources.zip (parts.map fun w =>
            ((w * fixedFormat.scale / n : ℕ) : ℤ)) ∧
        (outcome.amount : ℤ) =
          worth (rows.map (sampledAt FixedSwapOutcome.amount)) parts ∧
        (outcome.fee : ℤ) =
          worth (rows.map (sampledAt FixedSwapOutcome.fee)) parts := by
  obtain ⟨⟨distr, best⟩, hfind, h⟩ := Tx.except_bind_eq_ok.mp h
  obtain ⟨_, -, h⟩ := Tx.except_bind_eq_ok.mp h
  obtain ⟨_, -, h⟩ := Tx.except_bind_eq_ok.mp h
  obtain ⟨fee, hfee, h⟩ := Tx.except_bind_eq_ok.mp h
  obtain ⟨bestBalance, hbest, h⟩ := Tx.except_bind_eq_ok.mp h
  obtain ⟨feeBalance, hfeeBalance, h⟩ := Tx.except_bind_eq_ok.mp h
  cases h
  have hamountsne :
      rows.map (fun row => row.map FixedSwapOutcome.amount) ≠ [] := by
    rwa [ne_eq, List.map_eq_nil_iff]
  have hsamples : ∀ samples ∈
      rows.map (fun row => row.map FixedSwapOutcome.amount),
      samples.length = n := by
    intro samples hsamples
    obtain ⟨row, hrow, rfl⟩ := List.mem_map.mp hsamples
    rw [List.length_map]
    exact hlength row hrow
  obtain ⟨distr', last, before, parts, hfound, -, hdivides, hshares, hworth⟩ :=
    exists_table_of_findDistribution inversed hamountsne hpos
      (hlt.trans (by decide : 10 ^ 9 < 2 ^ 64)) hsamples
  rw [hfound] at hfind
  cases unwrap_eq_ok.mp hfind
  rw [map_rowValue_map] at hdivides hworth
  have hfees : Divides (rows.map (sampledAt FixedSwapOutcome.fee)) n parts :=
    ⟨by rw [hdivides.length_eq, List.length_map, List.length_map],
      hdivides.sum_eq⟩
  have htotal : (totalFee n (rows.map fun row => row.map FixedSwapOutcome.fee)
      distr).Holds fee.bits := ⟨fee, calculated_eq_ok.mp hfee, rfl⟩
  refine ⟨parts, hfees, ?_, ?_, ?_⟩
  · rw [← hshares, List.zip_map_right]
    rfl
  · rw [← hworth]
    exact (balanceOfFixed_eq_some.mp (okOr_eq_ok.mp hbest)).symm
  · rw [← map_rowValue_map] at hfees ⊢
    rw [← holds_totalFee hpos hlt hfees hshares htotal]
    exact (balanceOfFixed_eq_some.mp (okOr_eq_ok.mp hfeeBalance)).symm

/-- The generic split reports the amount and the fee of the division whose shares
it returns. -/
theorem generic_split_fee_of_division
    {sources : List (LiquiditySourceId T.DEXId)}
    {inputAssetId outputAssetId : T.AssetId} {amount : SwapAmount}
    {outcome : AggregatedSwapOutcome T.DEXId} (hne : sources ≠ [])
    (hpos : 1 ≤ P.getNumSamples) (hlt : P.getNumSamples < 10 ^ 9)
    (h : genericSplit P s sources inputAssetId outputAssetId amount =
      .ok outcome) :
    ∃ rows parts,
      (sources.mapM fun src => sampleLiquiditySource P s src inputAssetId
          outputAssetId (FixedSwapAmount.uniqueSaturatedFrom amount)
          P.getNumSamples) = .ok rows ∧
        (∀ row ∈ rows, row.length = P.getNumSamples) ∧
        Divides (rows.map (sampledAt FixedSwapOutcome.fee)) P.getNumSamples
          parts ∧
        outcome.distribution.map (fun d => (d.1, d.2.bits)) =
          sources.zip (parts.map fun w =>
            ((w * fixedFormat.scale / P.getNumSamples : ℕ) : ℤ)) ∧
        (outcome.amount : ℤ) =
          worth (rows.map (sampledAt FixedSwapOutcome.amount)) parts ∧
        (outcome.fee : ℤ) =
          worth (rows.map (sampledAt FixedSwapOutcome.fee)) parts := by
  rw [genericSplit_eq] at h
  obtain ⟨rows, hrows, h⟩ := Tx.except_bind_eq_ok.mp h
  have hlength := length_of_sampled_rows hrows
  have hrowsne : rows ≠ [] := by
    intro hnil
    have hsame := Traversal.length_of_mapM_eq_ok hrows
    rw [hnil] at hsame
    exact hne (List.eq_nil_of_length_eq_zero hsame.symm)
  obtain ⟨parts, hparts⟩ :=
    division_of_splitOfRows hrowsne hpos hlt hlength h
  exact ⟨rows, parts, hrows, hlength, hparts⟩

/-- Eighteen units are best sold by halves. -/
theorem generic_split_fee_of_division_halves :
    ∃ outcome,
      genericSplit Mock.chargingProxy Mock.market
          [Mock.firstPool, Mock.secondPool] Mock.goldenTicket Mock.blackPepper
          (.withDesiredInput 18 0) = .ok outcome ∧
        outcome.fee = 3 ∧
        ∃ rows parts,
          ([Mock.firstPool, Mock.secondPool].mapM fun src =>
            sampleLiquiditySource Mock.chargingProxy Mock.market src
              Mock.goldenTicket Mock.blackPepper
              (FixedSwapAmount.uniqueSaturatedFrom (.withDesiredInput 18 0))
              Mock.chargingProxy.getNumSamples) = .ok rows ∧
            (∀ row ∈ rows, row.length = Mock.chargingProxy.getNumSamples) ∧
            Divides (rows.map (sampledAt FixedSwapOutcome.fee))
              Mock.chargingProxy.getNumSamples parts ∧
            outcome.distribution.map (fun d => (d.1, d.2.bits)) =
              [Mock.firstPool, Mock.secondPool].zip (parts.map fun w =>
                ((w * fixedFormat.scale / Mock.chargingProxy.getNumSamples : ℕ) :
                  ℤ)) ∧
            (outcome.amount : ℤ) =
              worth (rows.map (sampledAt FixedSwapOutcome.amount)) parts ∧
            (outcome.fee : ℤ) =
              worth (rows.map (sampledAt FixedSwapOutcome.fee)) parts := by
  have hfee : (genericSplit Mock.chargingProxy Mock.market
      [Mock.firstPool, Mock.secondPool] Mock.goldenTicket Mock.blackPepper
      (.withDesiredInput 18 0)).toOption.map AggregatedSwapOutcome.fee =
        some 3 := by
    decide +kernel
  obtain ⟨outcome, hok, hfee⟩ := Option.map_eq_some_iff.mp hfee
  have h := Tx.toOption_eq_some.mp hok
  exact ⟨outcome, h, hfee, generic_split_fee_of_division (by decide)
    (by decide) (by decide) h⟩

end LiquidityProxy
end SoraParachain

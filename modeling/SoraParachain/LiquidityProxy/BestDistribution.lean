import SoraParachain.Library.Allocation
import SoraParachain.LiquidityProxy.Shares

/-!
# The best distribution is the best

The table of accumulated values is filled with best choices, a sum that overflows
not being one, so the distribution that is read off from it is a division of all
parts among the sources, and no other division whose sum does not overflow has a
better sum.
-/

namespace SoraParachain
namespace LiquidityProxy

open Allocation

/-! ## Values of parts -/

/-- What a source yields for a number of parts. -/
def rowValue (samples : List FixedNumber) (m : ℕ) : ℤ :=
  if m = 0 then 0 else (samples.getD (m - 1) zeroCell.1).bits

theorem rowValue_zero (samples : List FixedNumber) :
    rowValue samples 0 = 0 := rfl

theorem rowValue_succ (samples : List FixedNumber) (k : ℕ) :
    rowValue samples (k + 1) = (samples.getD k zeroCell.1).bits := rfl

/-- The first sum is at least as good as the second one. -/
def AtLeastAsGood (inversed : Bool) (a b : ℤ) : Prop :=
  if inversed then a ≤ b else b ≤ a

theorem AtLeastAsGood.refl (inversed : Bool) (a : ℤ) :
    AtLeastAsGood inversed a a := by
  cases inversed with
  | true => exact le_refl a
  | false => exact le_refl a

theorem AtLeastAsGood.trans {inversed : Bool} {a b c : ℤ}
    (hab : AtLeastAsGood inversed a b) (hbc : AtLeastAsGood inversed b c) :
    AtLeastAsGood inversed a c := by
  cases inversed with
  | true => exact le_trans hab hbc
  | false => exact le_trans hbc hab

instance (inversed : Bool) : IsPreorder ℤ (AtLeastAsGood inversed) where
  refl := AtLeastAsGood.refl inversed
  trans _ _ _ := AtLeastAsGood.trans

theorem AtLeastAsGood.add {inversed : Bool} (a b c : ℤ)
    (h : AtLeastAsGood inversed a b) :
    AtLeastAsGood inversed (c + a) (c + b) := by
  cases inversed with
  | true => exact add_le_add_right h c
  | false => exact add_le_add_right h c

/-- A sum that is not better is at most as good. -/
theorem isBetter_iff {inversed : Bool} {a b : FixedNumber} :
    isBetter inversed a b = true ↔ ¬AtLeastAsGood inversed b.bits a.bits := by
  cases inversed with
  | true =>
      change decide (a.bits < b.bits) = true ↔ ¬b.bits ≤ a.bits
      rw [decide_eq_true_iff, not_le]
  | false =>
      change decide (b.bits < a.bits) = true ↔ ¬a.bits ≤ b.bits
      rw [decide_eq_true_iff, not_le]

theorem AtLeastAsGood.of_isBetter {inversed : Bool} {a b : FixedNumber}
    (h : isBetter inversed a b = true) :
    AtLeastAsGood inversed a.bits b.bits := by
  cases inversed with
  | true => exact (of_decide_eq_true h : a.bits < b.bits).le
  | false => exact (of_decide_eq_true h : b.bits < a.bits).le

/-! ## Best cells -/

/-- A cell as a number and the parts left. -/
def cellValue (cell : Cell) : ℤ × ℕ :=
  (cell.1.bits, cell.2)

/-- The cells of a row by their number of parts. -/
def cellsOf (row : List Cell) (j : ℕ) : ℤ × ℕ :=
  cellValue (cellAt row j)

/-- The best choice among those that keep at most `t` parts. -/
structure ChosenUpTo (inversed : Bool) (before : List Cell)
    (samples : List FixedNumber) (j t : ℕ) (cell : Cell) : Prop where
  left_le : cell.2 ≤ j
  value_eq : cell.1.bits =
    rowValue samples (j - cell.2) + (cellAt before cell.2).1.bits
  best : ∀ left ≤ j, j ≤ left + t →
    fixedFormat.Fits
      (rowValue samples (j - left) + (cellAt before left).1.bits) →
    AtLeastAsGood inversed cell.1.bits
      (rowValue samples (j - left) + (cellAt before left).1.bits)

variable {inversed : Bool} {before : List Cell} {samples : List FixedNumber}
variable {j t : ℕ} {cell : Cell}

theorem chosenUpTo_zero :
    ChosenUpTo inversed before samples j 0 ((cellAt before j).1, j) where
  left_le := le_rfl
  value_eq := by
    rw [Nat.sub_self, rowValue_zero, zero_add]
  best left hle hj _ := by
    obtain rfl : left = j := by omega
    rw [Nat.sub_self, rowValue_zero, zero_add]
    exact AtLeastAsGood.refl _ _

/-- Keeping one more part is passed over if it overflows, and taken if it is
better. -/
theorem ChosenUpTo.betterCell (h : ChosenUpTo inversed before samples j t cell)
    (ht : t < j) :
    ChosenUpTo inversed before samples j (t + 1)
      (betterCell inversed before samples j cell t) := by
  have hkept : j - (j - t - 1) = t + 1 := by omega
  have hbest : ∀ left ≤ j, j ≤ left + (t + 1) →
      left = j - t - 1 ∨ j ≤ left + t := by omega
  unfold LiquidityProxy.betterCell
  split
  · rename_i e hoverflow
    refine ⟨h.left_le, h.value_eq, fun left hle hj hfits => ?_⟩
    rcases hbest left hle hj with rfl | hj
    · rw [hkept, rowValue_succ, add_comm] at hfits
      rw [Fixed.cadd, Fixed.checked, dif_pos hfits] at hoverflow
      cases hoverflow
    · exact h.best left hle hj hfits
  · rename_i tmp hsum
    have htmp : tmp.bits = rowValue samples (j - (j - t - 1)) +
        (cellAt before (j - t - 1)).1.bits := by
      rw [hkept, rowValue_succ, add_comm]
      exact Fixed.checked_eq_ok.mp hsum
    split_ifs with hbetter
    · refine ⟨by change j - t - 1 ≤ j; omega, htmp,
        fun left hle hj hfits => ?_⟩
      rcases hbest left hle hj with rfl | hj
      · rw [← htmp]
        exact AtLeastAsGood.refl _ _
      · exact (AtLeastAsGood.of_isBetter hbetter).trans
          (h.best left hle hj hfits)
    · refine ⟨h.left_le, h.value_eq, fun left hle hj hfits => ?_⟩
      rcases hbest left hle hj with rfl | hj
      · rw [← htmp]
        by_contra hnot
        exact hbetter (isBetter_iff.mpr hnot)
      · exact h.best left hle hj hfits

theorem chosenUpTo_foldl :
    ∀ t ≤ j, ChosenUpTo inversed before samples j t
      ((List.range t).foldl (LiquidityProxy.betterCell inversed before samples j)
        ((cellAt before j).1, j)) := by
  intro t
  induction t with
  | zero =>
      intro _
      exact chosenUpTo_zero
  | succ t ih =>
      intro hlt
      rw [List.range_succ, List.foldl_append]
      exact (ih (Nat.le_of_succ_le hlt)).betterCell hlt

theorem bestChoice_bestCell :
    BestChoice (AtLeastAsGood inversed) fixedFormat.Fits
      (fun left => (cellsOf before left).1) (rowValue samples) j
      (cellValue (bestCell inversed before samples j)) := by
  have h : ChosenUpTo inversed before samples j j
      (bestCell inversed before samples j) := chosenUpTo_foldl j le_rfl
  exact ⟨h.left_le, h.value_eq, fun left hle => h.best left hle (by omega)⟩

/-! ## The table -/

variable {s : ℕ} {rows : List (ℕ → ℤ)} {table : List (List Cell)}

theorem cellsOf_firstRow (samples : List FixedNumber) (j : ℕ)
    (hj : j ≤ samples.length) :
    cellsOf (firstRow samples) j = (rowValue samples j, 0) := by
  cases j with
  | zero => rfl
  | succ k =>
      have hk : k < samples.length := hj
      rw [cellsOf, cellAt, firstRow, List.getD_cons_succ, rowValue_succ,
        List.getD_eq_getElem _ _ (by rwa [List.length_map]), List.getElem_map,
        List.getD_eq_getElem _ _ hk]
      rfl

theorem cellsOf_nextRow (hj : j ≤ s) :
    cellsOf (nextRow inversed s before samples) j =
      if j = 0 then (0, 0)
      else cellValue (bestCell inversed before samples j) := by
  cases j with
  | zero => rfl
  | succ k =>
      have hk : k < s := hj
      rw [cellsOf, cellAt, nextRow, List.getD_cons_succ,
        List.getD_eq_getElem _ _ (by simpa using hk), List.getElem_map,
        List.getElem_range, if_neg (Nat.succ_ne_zero k)]

/-- A table of rows of cells, the last row first. -/
def IsTable (inversed : Bool) (s : ℕ) (rows : List (ℕ → ℤ))
    (table : List (List Cell)) : Prop :=
  ∃ last before, table = last :: before ∧
    Filled (AtLeastAsGood inversed) fixedFormat.Fits s rows (cellsOf last)
      (before.map cellsOf)

theorem isTable_firstRow (samples : List FixedNumber) :
    IsTable inversed samples.length [rowValue samples] [firstRow samples] :=
  ⟨firstRow samples, [], rfl, Filled.first (cellsOf_firstRow samples)⟩

theorem IsTable.nextRow {first : List Cell}
    (hzero : (cellsOf first 0).1 = 0)
    (h : IsTable inversed s rows (first :: table)) :
    IsTable inversed s (rowValue samples :: rows)
      (nextRow inversed s first samples :: first :: table) := by
  obtain ⟨last, before, heq, hfilled⟩ := h
  obtain ⟨rfl, rfl⟩ := List.cons_eq_cons.mp heq
  refine ⟨_, _, rfl, Filled.next hfilled fun j hj => ?_⟩
  rw [cellsOf_nextRow hj]
  split_ifs with hj0
  · -- Nothing is divided, so nothing is left.
    subst hj0
    refine ⟨le_rfl, ?_, fun left hle _ => ?_⟩
    · rw [Nat.sub_self, rowValue_zero, hzero, zero_add]
    · obtain rfl : left = 0 := by omega
      rw [Nat.sub_self, rowValue_zero, hzero, zero_add]
      exact AtLeastAsGood.refl _ _
  · exact bestChoice_bestCell

/-- Filling in more rows. -/
theorem IsTable.tableRows :
    ∀ (rest : List (List FixedNumber)) (first : List Cell)
      (table : List (List Cell)) (rows : List (ℕ → ℤ)),
      (cellsOf first 0).1 = 0 → IsTable inversed s rows (first :: table) →
        IsTable inversed s ((rest.map rowValue).reverse ++ rows)
          (tableRows inversed s first rest ++ table) := by
  intro rest
  induction rest with
  | nil =>
      intro first table rows _ h
      exact h
  | cons samples rest ih =>
      intro first table rows hzero h
      have hnext := ih (LiquidityProxy.nextRow inversed s first samples)
        (first :: table) (rowValue samples :: rows) rfl (h.nextRow hzero)
      rw [LiquidityProxy.tableRows, List.map_cons, List.reverse_cons,
        List.append_assoc, List.append_assoc]
      exact hnext

theorem isTable_of_samples (first : List FixedNumber)
    (rest : List (List FixedNumber)) :
    IsTable inversed first.length ((first :: rest).map rowValue).reverse
      (LiquidityProxy.tableRows inversed first.length (firstRow first) rest) := by
  have hfirst : IsTable inversed first.length [rowValue first]
      [firstRow first] := isTable_firstRow first
  have h := IsTable.tableRows rest _ _ _ rfl hfirst
  rw [List.append_nil] at h
  rw [List.map_cons, List.reverse_cons]
  exact h

/-! ## Reading the shares off -/

/-- What every source keeps of the parts is read off from the table. -/
theorem map_sub_backtrack :
    ∀ (table : List (List Cell)) (left : ℕ),
      (∀ row ∈ table, LeavesNoMore row) →
        (backtrack table left).map (fun l => l.1 - l.2) =
          readOff (table.map cellsOf) left := by
  intro table
  induction table with
  | nil =>
      intro left _
      rfl
  | cons row table ih =>
      intro left hrows
      have hforeign : (if left = 0 then 0 else (cellAt row left).2) =
          (cellsOf row left).2 := by
        split_ifs with hzero
        · have hle := hrows row List.mem_cons_self left
          rw [hzero] at hle ⊢
          exact (Nat.eq_zero_of_le_zero hle).symm
        · rfl
      rw [backtrack, List.map_cons, List.map_cons, readOff, hforeign,
        ih _ fun r hr => hrows r (List.mem_cons_of_mem _ hr)]

/-- The share of the parts that a source keeps, with the decimals of a
fixed-point number. -/
theorem exists_distributionPart {n l f : ℕ} {total : FixedNumber}
    (htotal : total.bits = balance n) (hn : 0 < n) (hlt : n < 2 ^ 64)
    (hf : f ≤ l) (hl : l ≤ n) :
    ∃ share, (distributionPart total l f).inner = .ok share ∧
      share.bits = ((l - f) * fixedFormat.scale / n : ℕ) := by
  have hbalance : ∀ m ≤ n, balance m < 2 ^ 127 := by
    intro m hm
    have hle : balance m ≤ balance (2 ^ 64) :=
      Nat.mul_le_mul_right _ (hm.trans hlt.le)
    exact hle.trans_lt (by decide)
  have hkept : (FixedWrapper.ofBalance (balance l) -
      FixedWrapper.ofBalance (balance f)).Holds (balance (l - f) : ℕ) :=
    (FixedWrapper.holds_sub_nat
      (FixedWrapper.holds_ofBalance.mpr ⟨rfl, hbalance l hl⟩)
      (FixedWrapper.holds_ofBalance.mpr
        ⟨rfl, hbalance f (hf.trans hl)⟩)).mpr (balance_sub hf).symm
  have hparts : (FixedWrapper.ofFixed total).Holds (balance n : ℕ) := by
    rw [FixedWrapper.holds_ofFixed]
    exact htotal.symm
  have hquotient : balance (l - f) * 10 ^ 18 / balance n =
      (l - f) * fixedFormat.scale / n := by
    rw [balance, balance]
    exact Nat.mul_div_mul_right _ _ (by decide)
  have hle : (l - f) * fixedFormat.scale / n ≤ fixedFormat.scale :=
    scaled_div_le ((Nat.sub_le l f).trans hl)
  have hholds : (distributionPart total l f).Holds
      ((l - f) * fixedFormat.scale / n : ℕ) := by
    apply (FixedWrapper.holds_div_nat hkept hparts).mpr
    rw [hquotient]
    exact ⟨Nat.mul_pos hn (by decide), rfl, hle.trans_lt (by decide)⟩
  obtain ⟨share, hshare, hbits⟩ := hholds
  exact ⟨share, hshare, hbits⟩

/-- The shares that are read off are those of the parts that are kept. -/
theorem exists_mapM_backtrack {n : ℕ} {total : FixedNumber}
    (htotal : total.bits = balance n) (hn : 0 < n) (hlt : n < 2 ^ 64) :
    ∀ (table : List (List Cell)) (left : ℕ),
      (∀ row ∈ table, LeavesNoMore row) → left ≤ n →
        ∃ shares, (backtrack table left).mapM (fun l =>
            (distributionPart total l.1 l.2).inner) = .ok shares ∧
          shares.map Fixed.bits =
            ((backtrack table left).map fun l => l.1 - l.2).map fun w =>
              ((w * fixedFormat.scale / n : ℕ) : ℤ) := by
  intro table
  induction table with
  | nil =>
      intro left _ _
      exact ⟨[], rfl, rfl⟩
  | cons row table ih =>
      intro left hrows hleft
      rw [backtrack]
      generalize hf : (if left = 0 then 0 else (cellAt row left).2) = f
      have hfle : f ≤ left := by
        rw [← hf]
        split_ifs
        · exact Nat.zero_le _
        · exact hrows row List.mem_cons_self left
      obtain ⟨share, hshare, hbits⟩ :=
        exists_distributionPart htotal hn hlt hfle hleft
      obtain ⟨shares, hshares, hmap⟩ := ih f
        (fun r hr => hrows r (List.mem_cons_of_mem _ hr)) (hfle.trans hleft)
      refine ⟨share :: shares, ?_, ?_⟩
      · rw [List.mapM_cons]
        apply (Tx.except_bind_of_ok hshare _).trans
        exact Tx.except_bind_of_ok hshares _
      · rw [List.map_cons, List.map_cons, List.map_cons, hbits, hmap]

theorem totalPartsOf_of_lt {n : ℕ} (hn : 0 < n) (hlt : n < 2 ^ 64) :
    ∃ total, totalPartsOf n = some total ∧ total.bits = balance n := by
  have hle : balance n ≤ balance (2 ^ 64) := Nat.mul_le_mul_right _ hlt.le
  obtain ⟨total, htotal⟩ :=
    fixedOfBalance_of_lt (hle.trans_lt (by decide : balance (2 ^ 64) < 2 ^ 127))
  have hbits := fixedOfBalance_eq_some.mp htotal
  have hpos : 0 < balance n := Nat.mul_pos hn (by decide)
  refine ⟨total, ?_, hbits⟩
  rw [totalPartsOf, Option.filter_eq_some_iff]
  refine ⟨htotal, decide_eq_true ?_⟩
  rw [hbits]
  exact_mod_cast hpos.ne'

/-! ## The best sum -/

/-- No sum of at most one sample of every source overflows. -/
def SumsFit (rows : List (ℕ → ℤ)) (s : ℕ) : Prop :=
  ∀ parts, parts.length = rows.length → (∀ m ∈ parts, m ≤ s) →
    fixedFormat.Fits (worth rows parts)

theorem le_of_mem_of_divides {j m : ℕ} {parts : List ℕ}
    (h : Divides rows j parts) (hm : m ∈ parts) : m ≤ j := by
  rw [← h.sum_eq]
  exact List.le_sum_of_mem hm

theorem rowValue_nonneg {samples : List FixedNumber}
    (h : ∀ x ∈ samples, 0 ≤ x.bits) (m : ℕ) : 0 ≤ rowValue samples m := by
  cases m with
  | zero => exact le_refl 0
  | succ k =>
      rw [rowValue_succ]
      by_cases hk : k < samples.length
      · rw [List.getD_eq_getElem _ _ hk]
        exact h _ (List.getElem_mem hk)
      · rw [List.getD_eq_default _ _ (not_lt.mp hk)]
        exact le_refl 0

theorem worth_nonneg (h : ∀ row ∈ rows, ∀ m, 0 ≤ row m) (parts : List ℕ) :
    0 ≤ worth rows parts := by
  induction rows generalizing parts with
  | nil => cases parts <;> exact le_refl 0
  | cons row rows ih =>
      cases parts with
      | nil => exact le_refl 0
      | cons m parts =>
          rw [worth_cons]
          exact add_nonneg (h row List.mem_cons_self m)
            (ih (fun r hr => h r (List.mem_cons_of_mem _ hr)) parts)

/-- A smaller sum of numbers that are not negative fits where a larger one
does. -/
theorem fits_of_le {a b : ℤ} (ha : 0 ≤ a) (hle : a ≤ b)
    (hb : fixedFormat.Fits b) : fixedFormat.Fits a := by
  refine ⟨?_, hle.trans_lt hb.2⟩
  have hbound : (0 : ℤ) ≤ fixedFormat.bound := Int.natCast_nonneg _
  exact (neg_nonpos.mpr hbound).trans ha

theorem inherits_of_nonneg (h : ∀ row ∈ rows, ∀ m, 0 ≤ row m) :
    Inherits (AtLeastAsGood true) fixedFormat.Fits rows where
  part row hrow others hothers m parts hfits := by
    have hothers := worth_nonneg (fun r hr => h r (hothers hr)) parts
    have hrow := h row hrow m
    exact fits_of_le hothers (le_add_of_nonneg_left hrow) hfits
  better row hrow others hothers m parts parts' hbetter hfits := by
    have hothers := worth_nonneg (fun r hr => h r (hothers hr)) parts
    have hrow := h row hrow m
    exact fits_of_le (add_nonneg hrow hothers)
      (add_le_add_right hbetter (row m)) hfits

/-- No division of all parts is better than a table of samples. -/
theorem IsTable.best {sampleData : List (List FixedNumber)}
    {last : List Cell} {table : List (List Cell)}
    (hnonneg : ∀ row ∈ sampleData, ∀ x ∈ row, 0 ≤ x.bits)
    (hfits : inversed = false → SumsFit (sampleData.map rowValue) s)
    (h : IsTable inversed s (sampleData.map rowValue).reverse
      (last :: table)) {parts : List ℕ}
    (hparts : Divides (sampleData.map rowValue) s parts)
    (hsum : inversed = true →
      fixedFormat.Fits (worth (sampleData.map rowValue) parts)) :
    AtLeastAsGood inversed (cellsOf last s).1
      (worth (sampleData.map rowValue) parts) := by
  obtain ⟨last', before, heq, hfilled⟩ := h
  obtain ⟨rfl, rfl⟩ := List.cons_eq_cons.mp heq
  have hdivides := hparts.reverse
  rw [← worth_reverse hparts.length_eq] at hsum ⊢
  cases inversed with
  | true =>
      have hrows : ∀ row ∈ (sampleData.map rowValue).reverse, ∀ m,
          0 ≤ row m := by
        intro row hrow m
        obtain ⟨samples, hsamples, rfl⟩ :=
          List.mem_map.mp (List.mem_reverse.mp hrow)
        exact rowValue_nonneg (hnonneg samples hsamples) m
      exact hfilled.best AtLeastAsGood.add (inherits_of_nonneg hrows) s le_rfl
        _ hdivides (hsum rfl)
  | false =>
      have hall : ∀ j ≤ s, ∀ parts,
          Divides (sampleData.map rowValue).reverse j parts →
            fixedFormat.Fits (worth (sampleData.map rowValue).reverse
              parts) := by
        intro j hj parts hparts
        have hforward := hparts.reverse
        rw [List.reverse_reverse] at hforward
        rw [← List.reverse_reverse parts, worth_reverse hforward.length_eq]
        exact hfits rfl _ hforward.length_eq fun m hm =>
          (le_of_mem_of_divides hforward hm).trans hj
      have hzero : ∀ row ∈ (sampleData.map rowValue).reverse, row 0 = 0 := by
        intro row hrow
        obtain ⟨samples, -, rfl⟩ :=
          List.mem_map.mp (List.mem_reverse.mp hrow)
        exact rowValue_zero samples
      exact hfilled.best_of_all_fit AtLeastAsGood.add hall hzero s le_rfl _
        hdivides

/-- A distribution is read off from a table of the samples: its shares are those
of a division of all parts whose sum is the returned amount. -/
theorem exists_table_of_findDistribution {sampleData : List (List FixedNumber)}
    (inversed : Bool) (hne : sampleData ≠ []) (hpos : 0 < s)
    (hlt : s < 2 ^ 64) (hlength : ∀ row ∈ sampleData, row.length = s) :
    ∃ distr last before parts,
      findDistribution sampleData inversed =
          some (distr, (cellAt last s).1) ∧
        IsTable inversed s (sampleData.map rowValue).reverse
          (last :: before) ∧
        Divides (sampleData.map rowValue) s parts ∧
        distr.map Fixed.bits = parts.map (fun w =>
          ((w * fixedFormat.scale / s : ℕ) : ℤ)) ∧
        (cellAt last s).1.bits = worth (sampleData.map rowValue) parts := by
  obtain ⟨first, rest, rfl⟩ := List.exists_cons_of_ne_nil hne
  obtain rfl := hlength first List.mem_cons_self
  obtain ⟨total, htotal, hbits⟩ := totalPartsOf_of_lt hpos hlt
  have hall : rest.all (fun samples =>
      decide (first.length ≤ samples.length)) = true := by
    rw [List.all_eq_true]
    intro samples hsamples
    exact decide_eq_true
      (hlength samples (List.mem_cons_of_mem _ hsamples)).ge
  have hleaves := leavesNoMore_tableRows inversed first.length rest
    (firstRow first) (leavesNoMore_firstRow first)
  have htable : IsTable inversed first.length
      ((first :: rest).map rowValue).reverse
      (tableRows inversed first.length (firstRow first) rest) :=
    isTable_of_samples first rest
  generalize htbl : tableRows inversed first.length (firstRow first) rest =
    table at hleaves htable
  obtain ⟨last, before, rfl, hfilled⟩ := htable
  obtain ⟨shares, hshares, hmap⟩ := exists_mapM_backtrack hbits hpos hlt
    (last :: before) first.length hleaves le_rfl
  rw [map_sub_backtrack _ _ hleaves] at hmap
  obtain ⟨hdivides, hworth⟩ := hfilled.divides_readOff _ le_rfl
  have hforward := hdivides.reverse
  rw [List.reverse_reverse] at hforward
  refine ⟨shares.reverse, last, before, _, ?_, ⟨last, before, rfl, hfilled⟩,
    hforward, ?_, ?_⟩
  · rw [findDistribution, htotal, distributeParts, if_pos hall, htbl,
      distributionOf, hshares]
    rfl
  · rw [List.map_reverse, hmap, List.map_reverse]
    rfl
  · rw [← worth_reverse hforward.length_eq, List.reverse_reverse]
    exact hworth.symm

/-- The shares of a distribution are those of a division of all parts whose sum
is the returned amount, and no other division of all parts is better.  Where
the smallest sum is looked for, divisions whose sum overflows do not count. -/
theorem find_distribution_optimal {sampleData : List (List FixedNumber)}
    (inversed : Bool) (hne : sampleData ≠ []) (hpos : 0 < s)
    (hlt : s < 2 ^ 64) (hlength : ∀ row ∈ sampleData, row.length = s)
    (hnonneg : ∀ row ∈ sampleData, ∀ x ∈ row, 0 ≤ x.bits)
    (hfits : inversed = false → SumsFit (sampleData.map rowValue) s) :
    ∃ distr best parts,
      findDistribution sampleData inversed = some (distr, best) ∧
        Divides (sampleData.map rowValue) s parts ∧
        distr.map Fixed.bits = parts.map (fun w =>
          ((w * fixedFormat.scale / s : ℕ) : ℤ)) ∧
        best.bits = worth (sampleData.map rowValue) parts ∧
        ∀ others, Divides (sampleData.map rowValue) s others →
          (inversed = true →
            fixedFormat.Fits (worth (sampleData.map rowValue) others)) →
          AtLeastAsGood inversed best.bits
            (worth (sampleData.map rowValue) others) := by
  obtain ⟨distr, last, before, parts, hfind, htable, hdivides, hshares,
    hworth⟩ := exists_table_of_findDistribution inversed hne hpos hlt hlength
  refine ⟨distr, _, parts, hfind, hdivides, hshares, hworth, ?_⟩
  intro others hothers hsum
  exact htable.best hnonneg hfits hothers hsum

/-- Two sources, the first of which cannot take both parts. -/
def markedSamples : List (List FixedNumber) :=
  [[fixedOne, fixedMax], [fixedZero, fixedOne]]

theorem find_distribution_optimal_sample :
    ∃ distr best parts,
      findDistribution markedSamples true = some (distr, best) ∧
        Divides (markedSamples.map rowValue) 2 parts ∧
        distr.map Fixed.bits = parts.map (fun w =>
          ((w * fixedFormat.scale / 2 : ℕ) : ℤ)) ∧
        best.bits = worth (markedSamples.map rowValue) parts ∧
        ∀ others, Divides (markedSamples.map rowValue) 2 others →
          (true = true →
            fixedFormat.Fits (worth (markedSamples.map rowValue) others)) →
          AtLeastAsGood true best.bits
            (worth (markedSamples.map rowValue) others) :=
  find_distribution_optimal true (by decide) (by decide) (by decide)
    (by decide) (by decide) (fun h => Bool.noConfusion h)

/-- Either source may take both parts of samples that grow. -/
example :
    (findDistribution [[fixedZero, fixedOne], [fixedZero, fixedZero]]
      false).map (fun result => (result.1.map Fixed.bits, result.2.bits)) =
        some ([10 ^ 18, 0], 10 ^ 18) := by
  decide +kernel

end LiquidityProxy
end SoraParachain

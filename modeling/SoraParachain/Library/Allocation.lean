import Mathlib.Algebra.BigOperators.Group.List.Basic
import Mathlib.Order.RelClasses
import Mathlib.Tactic.Ring

/-!
# Dividing parts among rows

A number of parts is divided among rows, each of which yields a value for the
parts that it gets.  A table is filled row by row with the best value of the
rows so far for every number of parts, and with the parts that this leaves to
the rows before.  The division is read off from the last row to the first.  Lists
of rows and tables have the last row first.

Which of two values is better is a preorder that adding a value respects, and a
choice whose value does not fit is not made.
-/

namespace SoraParachain
namespace Allocation

variable {α : Type*}

/-- A division of `j` parts among the rows. -/
structure Divides (rows : List (ℕ → α)) (j : ℕ) (parts : List ℕ) : Prop where
  length_eq : parts.length = rows.length
  sum_eq : parts.sum = j

/-- The first row gets some of the parts and leaves the others. -/
theorem divides_cons {row : ℕ → α} {rows : List (ℕ → α)} {j : ℕ}
    {parts : List ℕ} :
    Divides (row :: rows) j parts ↔
      ∃ left rest, left ≤ j ∧ parts = (j - left) :: rest ∧
        Divides rows left rest := by
  constructor
  · intro h
    cases parts with
    | nil => exact absurd h.length_eq (by simp)
    | cons m rest =>
        have hlength := h.length_eq
        have hsum := h.sum_eq
        rw [List.length_cons, List.length_cons] at hlength
        rw [List.sum_cons] at hsum
        refine ⟨rest.sum, rest, by omega, ?_, by omega, rfl⟩
        rw [← hsum, Nat.add_sub_cancel]
  · rintro ⟨left, rest, hle, rfl, hrest⟩
    refine ⟨?_, ?_⟩
    · rw [List.length_cons, List.length_cons, hrest.length_eq]
    · rw [List.sum_cons, hrest.sum_eq, Nat.sub_add_cancel hle]

theorem Divides.reverse {rows : List (ℕ → α)} {j : ℕ} {parts : List ℕ}
    (h : Divides rows j parts) :
    Divides rows.reverse j parts.reverse where
  length_eq := by
    rw [List.length_reverse, List.length_reverse, h.length_eq]
  sum_eq := by
    rw [List.sum_reverse, h.sum_eq]

variable [AddCommMonoid α]

/-- What the rows yield for the parts they get. -/
def worth : List (ℕ → α) → List ℕ → α
  | row :: rows, m :: parts => row m + worth rows parts
  | _, _ => 0

@[simp] theorem worth_nil : worth ([] : List (ℕ → α)) [] = 0 := rfl

@[simp] theorem worth_cons (row : ℕ → α) (rows : List (ℕ → α)) (m : ℕ)
    (parts : List ℕ) :
    worth (row :: rows) (m :: parts) = row m + worth rows parts := rfl

/-! ## Order of the rows -/

theorem worth_append {rows rows' : List (ℕ → α)} {parts parts' : List ℕ}
    (h : parts.length = rows.length) :
    worth (rows ++ rows') (parts ++ parts') =
      worth rows parts + worth rows' parts' := by
  induction rows generalizing parts with
  | nil =>
      rw [List.eq_nil_of_length_eq_zero h]
      simp [worth]
  | cons row rows ih =>
      cases parts with
      | nil => cases h
      | cons m parts =>
          rw [List.cons_append, List.cons_append, worth_cons, worth_cons,
            ih (Nat.succ.inj h), add_assoc]

theorem worth_reverse {rows : List (ℕ → α)} {parts : List ℕ}
    (h : parts.length = rows.length) :
    worth rows.reverse parts.reverse = worth rows parts := by
  induction rows generalizing parts with
  | nil =>
      rw [List.eq_nil_of_length_eq_zero h]
      rfl
  | cons row rows ih =>
      cases parts with
      | nil => cases h
      | cons m parts =>
          have hlength : parts.length = rows.length := Nat.succ.inj h
          rw [List.reverse_cons, List.reverse_cons, worth_append
            (by rw [List.length_reverse, List.length_reverse, hlength]),
            ih hlength, worth_cons, worth_cons, worth_nil, add_zero, add_comm]

/-! ## Tables -/

variable (r : α → α → Prop) (Fits : α → Prop)

/-- A value for `j` parts and the parts left to the rows before: no other way to
leave them whose value fits is better. -/
structure BestChoice (before : ℕ → α) (row : ℕ → α) (j : ℕ) (cell : α × ℕ) :
    Prop where
  left_le : cell.2 ≤ j
  value_eq : cell.1 = row (j - cell.2) + before cell.2
  best : ∀ left ≤ j, Fits (row (j - left) + before left) →
    r cell.1 (row (j - left) + before left)

/-- The table of the rows up to `s` parts: the cells of the last row, and those
of the rows before. -/
inductive Filled (s : ℕ) :
    List (ℕ → α) → (ℕ → α × ℕ) → List (ℕ → α × ℕ) → Prop
  | first {row cells} (h : ∀ j ≤ s, cells j = (row j, 0)) :
      Filled s [row] cells []
  | next {rows row before cells table} (hbefore : Filled s rows before table)
      (h : ∀ j ≤ s, BestChoice r Fits (fun left => (before left).1) row j
        (cells j)) :
      Filled s (row :: rows) cells (before :: table)

/-- The parts that every row of a table keeps of `j`. -/
def readOff : List (ℕ → α × ℕ) → ℕ → List ℕ
  | [], _ => []
  | cells :: table, j => (j - (cells j).2) :: readOff table (cells j).2

/-- Where the value of some rows fits, so does that of all but one of them, and a
better one of these. -/
structure Inherits (rows : List (ℕ → α)) : Prop where
  part : ∀ row ∈ rows, ∀ others ⊆ rows, ∀ m parts,
    Fits (row m + worth others parts) → Fits (worth others parts)
  better : ∀ row ∈ rows, ∀ others ⊆ rows, ∀ m parts parts',
    r (worth others parts) (worth others parts') →
      Fits (row m + worth others parts') → Fits (row m + worth others parts)

variable {r Fits} {s : ℕ} {rows : List (ℕ → α)} {cells : ℕ → α × ℕ}

theorem Inherits.tail {row : ℕ → α} (h : Inherits r Fits (row :: rows)) :
    Inherits r Fits rows where
  part row' hrow' others hothers :=
    h.part row' (List.mem_cons_of_mem _ hrow') others
      (List.subset_cons_of_subset _ hothers)
  better row' hrow' others hothers :=
    h.better row' (List.mem_cons_of_mem _ hrow') others
      (List.subset_cons_of_subset _ hothers)

variable {table : List (ℕ → α × ℕ)}

/-- The parts read off are a division with the value of the table. -/
theorem Filled.divides_readOff (h : Filled r Fits s rows cells table) :
    ∀ j ≤ s, Divides rows j (readOff (cells :: table) j) ∧
      worth rows (readOff (cells :: table) j) = (cells j).1 := by
  induction h with
  | first hcells =>
      intro j hj
      rw [readOff, readOff, hcells j hj]
      refine ⟨⟨rfl, ?_⟩, ?_⟩
      · simp
      · simp [worth]
  | next hbefore hcells ih =>
      intro j hj
      have hcell := hcells j hj
      obtain ⟨hdivides, hworth⟩ := ih _ (Nat.le_trans hcell.left_le hj)
      rw [readOff]
      refine ⟨divides_cons.mpr ⟨_, _, hcell.left_le, rfl, hdivides⟩, ?_⟩
      rw [worth_cons, hworth, hcell.value_eq]

/-- If the value of every division fits, no choice was passed over. -/
theorem Filled.of_all_fit
    (hall : ∀ j ≤ s, ∀ parts, Divides rows j parts → Fits (worth rows parts))
    (hzero : ∀ row ∈ rows, row 0 = 0)
    (h : Filled r Fits s rows cells table) :
    Filled r (fun _ => True) s rows cells table := by
  induction h with
  | first hcells => exact Filled.first hcells
  | @next rows row before cells table hbefore hcells ih =>
      have hall' : ∀ j ≤ s, ∀ parts, Divides rows j parts →
          Fits (worth rows parts) := by
        intro j hj parts hparts
        -- The last row may get nothing.
        have hfits := hall j hj (0 :: parts) (divides_cons.mpr
          ⟨j, parts, Nat.le_refl j, by rw [Nat.sub_self], hparts⟩)
        rw [worth_cons, hzero row List.mem_cons_self, zero_add] at hfits
        exact hfits
      refine Filled.next (ih hall' fun row hrow =>
        hzero row (List.mem_cons_of_mem _ hrow)) fun j hj => ?_
      have hcell := hcells j hj
      refine ⟨hcell.left_le, hcell.value_eq, fun left hle _ => ?_⟩
      obtain ⟨hdivides, hworth⟩ :=
        hbefore.divides_readOff left (Nat.le_trans hle hj)
      apply hcell.best left hle
      rw [← hworth, ← worth_cons]
      exact hall j hj _ (divides_cons.mpr ⟨left, _, hle, rfl, hdivides⟩)

section

variable [IsPreorder α r] (hadd : ∀ a b c, r a b → r (c + a) (c + b))

include hadd

/-- No division whose value fits is better than the table. -/
theorem Filled.best (hinherits : Inherits r Fits rows)
    (h : Filled r Fits s rows cells table) :
    ∀ j ≤ s, ∀ parts, Divides rows j parts → Fits (worth rows parts) →
      r (cells j).1 (worth rows parts) := by
  induction h with
  | first hcells =>
      intro j hj parts hparts _
      obtain ⟨left, rest, hle, rfl, hrest⟩ := divides_cons.mp hparts
      have hnil : rest = [] := List.eq_nil_of_length_eq_zero hrest.length_eq
      have hzero : left = 0 := by
        rw [← hrest.sum_eq, hnil, List.sum_nil]
      rw [hcells j hj, hnil, hzero]
      simpa [worth] using refl_of r _
  | @next rows row before cells table hbefore hcells ih =>
      intro j hj parts hparts hfits
      obtain ⟨left, rest, hle, rfl, hrest⟩ := divides_cons.mp hparts
      rw [worth_cons] at hfits ⊢
      have hleft := Nat.le_trans hle hj
      have hrow : row ∈ row :: rows := List.mem_cons_self
      have hsub : rows ⊆ row :: rows := List.subset_cons_self row rows
      have hbetter := ih hinherits.tail left hleft rest hrest
        (hinherits.part row hrow rows hsub _ _ hfits)
      have hchoice := (hcells j hj).best left hle
      obtain ⟨-, hworth⟩ := hbefore.divides_readOff left hleft
      rw [← hworth] at hbetter hchoice
      exact trans_of r
        (hchoice (hinherits.better row hrow rows hsub _ _ _ hbetter hfits))
        (hadd _ _ _ hbetter)

/-- The same where the value of every division fits. -/
theorem Filled.best_of_all_fit
    (hall : ∀ j ≤ s, ∀ parts, Divides rows j parts → Fits (worth rows parts))
    (hzero : ∀ row ∈ rows, row 0 = 0)
    (h : Filled r Fits s rows cells table) :
    ∀ j ≤ s, ∀ parts, Divides rows j parts →
      r (cells j).1 (worth rows parts) :=
  fun j hj parts hparts =>
    (h.of_all_fit hall hzero).best hadd
      ⟨fun _ _ _ _ _ _ _ => trivial, fun _ _ _ _ _ _ _ _ _ => trivial⟩ j hj
      parts hparts trivial

end

end Allocation
end SoraParachain

import Mathlib.Data.List.InsertIdx
import Mathlib.Data.List.Sort
import Mathlib.Tactic.Common

/-!
# Binary search and insertion

A search halves a window of an ascending list and ends with the position of the
value, or with the position where the value can be inserted.  What it finds is
always there; that it finds everything needs the list to be ascending.  The list
may repeat values.
-/

namespace SoraParachain

variable {α : Type} [LinearOrder α]

/-- Every value is at most the values after it. -/
def Ascending (xs : List α) : Prop :=
  xs.Pairwise (· ≤ ·)

/-- Search the positions from `left` on and below `right`. -/
def searchWithin (xs : List α) (x : α) (left right : ℕ)
    (hright : right ≤ xs.length) : Except ℕ ℕ :=
  if h : left < right then
    let mid := left + (right - left) / 2
    have hmid : mid < xs.length := by omega
    if xs[mid] < x then searchWithin xs x (mid + 1) right hright
    else if x < xs[mid] then searchWithin xs x left mid (by omega)
    else .ok mid
  else .error left
termination_by right - left

/-- The position of `x`, or as an error the position to insert it at. -/
def binarySearch (xs : List α) (x : α) : Except ℕ ℕ :=
  searchWithin xs x 0 xs.length le_rfl

/-- Insert `x` where the search misses it. -/
def insertMissing (x : α) (xs : List α) : List α :=
  match binarySearch xs x with
  | .ok _ => xs
  | .error i => xs.insertIdx i x

/-! ## What the search answers -/

theorem getElem_of_searchWithin_ok {xs : List α} {x : α} {left right i : ℕ}
    {hright : right ≤ xs.length}
    (h : searchWithin xs x left right hright = .ok i) :
    ∃ hi : i < xs.length, xs[i] = x := by
  fun_induction searchWithin xs x left right hright with
  | case1 left right hright hlt mid hmid hless ih => exact ih h
  | case2 left right hright hlt mid hmid hless hmore ih => exact ih h
  | case3 left right hright hlt mid hmid hless hmore =>
      have hmid_eq : mid = i := Except.ok.inj h
      subst hmid_eq
      exact ⟨hmid, le_antisymm (not_lt.mp hmore) (not_lt.mp hless)⟩
  | case4 => cases h

theorem mem_of_binarySearch_ok {xs : List α} {x : α} {i : ℕ}
    (h : binarySearch xs x = .ok i) :
    x ∈ xs := by
  obtain ⟨hi, hx⟩ := getElem_of_searchWithin_ok h
  exact List.mem_of_getElem hx

theorem Ascending.getElem_le {xs : List α} (hxs : Ascending xs) {i j : ℕ}
    (hij : i ≤ j) (hj : j < xs.length) :
    xs[i] ≤ xs[j] := by
  by_cases heq : i = j
  · subst heq
    exact le_rfl
  · exact List.pairwise_iff_getElem.mp hxs i j (by omega) hj (by omega)

/-- A position that separates the smaller values from the greater ones. -/
def Separates (xs : List α) (x : α) (i : ℕ) : Prop :=
  i ≤ xs.length ∧ (∀ y ∈ xs.take i, y < x) ∧ ∀ y ∈ xs.drop i, x < y

/-- The window keeps the smaller values on its left and the greater ones on its
right. -/
theorem separates_of_searchWithin_error {xs : List α} {x : α}
    (hxs : Ascending xs) {left right i : ℕ} {hright : right ≤ xs.length}
    (hle : left ≤ right)
    (hleft : ∀ j (hj : j < xs.length), j < left → xs[j] < x)
    (hbeyond : ∀ j (hj : j < xs.length), right ≤ j → x < xs[j])
    (h : searchWithin xs x left right hright = .error i) :
    Separates xs x i := by
  fun_induction searchWithin xs x left right hright with
  | case1 left right hright hlt mid hmid hless ih =>
      have hmid_def : mid = left + (right - left) / 2 := rfl
      refine ih (by omega) (fun j hj hjm => ?_) hbeyond h
      exact lt_of_le_of_lt (hxs.getElem_le (by omega) hmid) hless
  | case2 left right hright hlt mid hmid hless hmore ih =>
      have hmid_def : mid = left + (right - left) / 2 := rfl
      refine ih (by omega) hleft (fun j hj hjm => ?_) h
      exact lt_of_lt_of_le hmore (hxs.getElem_le hjm hj)
  | case3 => cases h
  | case4 left right hright hlt =>
      cases h
      refine ⟨by omega, fun y hy => ?_, fun y hy => ?_⟩
      · obtain ⟨j, hj, rfl⟩ := List.mem_iff_getElem.mp hy
        rw [List.length_take] at hj
        rw [List.getElem_take]
        exact hleft j (by omega) (by omega)
      · obtain ⟨j, hj, rfl⟩ := List.mem_iff_getElem.mp hy
        rw [List.length_drop] at hj
        rw [List.getElem_drop]
        exact hbeyond _ (by omega) (by omega)

theorem separates_of_binarySearch_error {xs : List α} {x : α} {i : ℕ}
    (hxs : Ascending xs) (h : binarySearch xs x = .error i) :
    Separates xs x i := by
  refine separates_of_searchWithin_error hxs (Nat.zero_le _) ?_ ?_ h
  · intro j _ hj
    exact absurd hj (Nat.not_lt_zero j)
  · intro j hj hle
    exact absurd hle (not_le.mpr hj)

theorem Separates.not_mem {xs : List α} {x : α} {i : ℕ}
    (h : Separates xs x i) :
    x ∉ xs := by
  intro hx
  rw [← List.take_append_drop i xs, List.mem_append] at hx
  rcases hx with hx | hx
  · exact lt_irrefl x (h.2.1 x hx)
  · exact lt_irrefl x (h.2.2 x hx)

/-- In an ascending list the search finds exactly the members. -/
theorem binarySearch_isOk_iff {xs : List α} (hxs : Ascending xs) {x : α} :
    (binarySearch xs x).isOk = true ↔ x ∈ xs := by
  cases h : binarySearch xs x with
  | ok i => exact iff_of_true rfl (mem_of_binarySearch_ok h)
  | error i =>
      have hnot := (separates_of_binarySearch_error hxs h).not_mem
      exact iff_of_false Bool.false_ne_true hnot

/-! ## Insertion -/

omit [LinearOrder α] in
theorem insertIdx_eq_take_append_drop :
    ∀ {xs : List α} {i : ℕ} (x : α), i ≤ xs.length →
      xs.insertIdx i x = xs.take i ++ x :: xs.drop i := by
  intro xs
  induction xs with
  | nil =>
      intro i x hi
      obtain rfl : i = 0 := by simpa using hi
      rfl
  | cons y ys ih =>
      intro i x hi
      cases i with
      | zero => rfl
      | succ i =>
          have hi' : i ≤ ys.length := by simpa using hi
          rw [List.insertIdx_succ_cons, ih x hi']
          rfl

theorem binarySearch_error_le {xs : List α} {x : α} {left right i : ℕ}
    {hright : right ≤ xs.length} (hle : left ≤ right)
    (h : searchWithin xs x left right hright = .error i) :
    i ≤ xs.length := by
  fun_induction searchWithin xs x left right hright with
  | case1 left right hright hlt mid hmid hless ih =>
      have hmid_def : mid = left + (right - left) / 2 := rfl
      exact ih (by omega) h
  | case2 left right hright hlt mid hmid hless hmore ih =>
      have hmid_def : mid = left + (right - left) / 2 := rfl
      exact ih (by omega) h
  | case3 => cases h
  | case4 left right hright hlt =>
      cases h
      omega

/-- Insertion adds the value and nothing else, whatever the order. -/
theorem mem_insertMissing {x y : α} {xs : List α} :
    y ∈ insertMissing x xs ↔ y = x ∨ y ∈ xs := by
  unfold insertMissing
  cases h : binarySearch xs x with
  | ok i =>
      have hx := mem_of_binarySearch_ok h
      constructor
      · exact Or.inr
      · intro hy
        rcases hy with rfl | hy
        · exact hx
        · exact hy
  | error i =>
      exact List.mem_insertIdx (binarySearch_error_le (Nat.zero_le _) h)

theorem ascending_insertMissing {x : α} {xs : List α} (hxs : Ascending xs) :
    Ascending (insertMissing x xs) := by
  unfold insertMissing
  cases h : binarySearch xs x with
  | ok i => exact hxs
  | error i =>
      obtain ⟨hi, hbefore, hafter⟩ := separates_of_binarySearch_error hxs h
      change Ascending (xs.insertIdx i x)
      rw [insertIdx_eq_take_append_drop x hi]
      have htake : Ascending (xs.take i) := hxs.sublist (List.take_sublist i xs)
      refine List.pairwise_append.mpr ⟨htake, ?_, ?_⟩
      · have hdrop : Ascending (xs.drop i) := hxs.sublist (List.drop_sublist i xs)
        exact List.pairwise_cons.mpr ⟨fun y hy => (hafter y hy).le, hdrop⟩
      · intro a ha b hb
        rcases List.mem_cons.mp hb with rfl | hb
        · exact (hbefore a ha).le
        · exact ((hbefore a ha).trans (hafter b hb)).le

/-- Where a position separates the values, it comes right after the smaller
ones. -/
theorem Separates.takeWhile_eq {xs : List α} {x : α} {i : ℕ}
    (h : Separates xs x i) :
    xs.takeWhile (fun y => decide (y < x)) = xs.take i := by
  obtain ⟨-, hbefore, hafter⟩ := h
  have hsplit : (xs.take i ++ xs.drop i).takeWhile (fun y => decide (y < x)) =
      xs.take i ++ (xs.drop i).takeWhile (fun y => decide (y < x)) := by
    rw [List.takeWhile_append_of_pos]
    intro y hy
    exact decide_eq_true (hbefore y hy)
  rw [List.take_append_drop] at hsplit
  rw [hsplit]
  cases hdrop : xs.drop i with
  | nil => simp
  | cons y ys =>
      have hy : x < y := hafter y (by rw [hdrop]; exact List.mem_cons_self)
      rw [List.takeWhile_cons_of_neg (by simpa using hy.le), List.append_nil]

theorem ascending_insertionSort (xs : List α) :
    Ascending (xs.insertionSort (· ≤ ·)) :=
  List.pairwise_insertionSort _ xs

end SoraParachain

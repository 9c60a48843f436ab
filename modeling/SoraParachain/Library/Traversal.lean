import Mathlib.Data.List.Forall2

/-!
# Running a computation on every element of a list

A traversal succeeds exactly when the computation succeeds on every element, and
then its results stand in the order of the elements.
-/

namespace SoraParachain
namespace Traversal

variable {α β γ ε : Type*}

theorem mapM_eq_some {f : α → Option β} {l : List α} {ys : List β} :
    l.mapM f = some ys ↔ List.Forall₂ (fun x y => f x = some y) l ys := by
  induction l generalizing ys with
  | nil => simp [eq_comm]
  | cons x l ih =>
      simp only [List.mapM_cons, Option.bind_eq_bind,
        Option.bind_eq_some_iff, List.forall₂_cons_left_iff]
      constructor
      · rintro ⟨y, hy, rest, hrest, heq⟩
        exact ⟨y, rest, hy, ih.mp hrest, (Option.some.inj heq).symm⟩
      · rintro ⟨y, rest, hy, hrest, rfl⟩
        exact ⟨y, hy, rest, ih.mpr hrest, rfl⟩

theorem mapM_eq_ok {f : α → Except ε β} {l : List α} {ys : List β} :
    l.mapM f = .ok ys ↔ List.Forall₂ (fun x y => f x = .ok y) l ys := by
  induction l generalizing ys with
  | nil =>
      rw [List.mapM_nil, List.forall₂_nil_left_iff]
      exact ⟨fun h => (Except.ok.inj h).symm, fun h => h ▸ rfl⟩
  | cons x l ih =>
      rw [List.mapM_cons, List.forall₂_cons_left_iff]
      constructor
      · intro h
        cases hx : f x with
        | error e =>
            rw [hx] at h
            cases h
        | ok y =>
            cases hl : l.mapM f with
            | error e =>
                rw [hx, hl] at h
                cases h
            | ok rest =>
                rw [hx, hl] at h
                exact ⟨y, rest, rfl, ih.mp hl, (Except.ok.inj h).symm⟩
      · rintro ⟨y, rest, hy, hrest, rfl⟩
        rw [hy, ih.mpr hrest]
        rfl

theorem length_of_mapM_eq_some {f : α → Option β} {l : List α} {ys : List β}
    (h : l.mapM f = some ys) : ys.length = l.length :=
  (mapM_eq_some.mp h).length_eq.symm

theorem length_of_mapM_eq_ok {f : α → Except ε β} {l : List α} {ys : List β}
    (h : l.mapM f = .ok ys) : ys.length = l.length :=
  (mapM_eq_ok.mp h).length_eq.symm

theorem mapM_congr {f g : α → Except ε β} {l : List α}
    (h : ∀ x ∈ l, f x = g x) : l.mapM f = l.mapM g := by
  induction l with
  | nil => rfl
  | cons x l ih =>
      rw [List.mapM_cons, List.mapM_cons, h x List.mem_cons_self,
        ih fun y hy => h y (List.mem_cons_of_mem x hy)]

/-- Two traversals whose computations never succeed with different results. -/
theorem mapM_unique {f g : α → Except ε β} {l : List α} {ys zs : List β}
    (hf : l.mapM f = .ok ys) (hg : l.mapM g = .ok zs)
    (h : ∀ x ∈ l, ∀ y z, f x = .ok y → g x = .ok z → y = z) :
    ys = zs := by
  induction l generalizing ys zs with
  | nil => exact Except.ok.inj (hf.symm.trans hg)
  | cons x l ih =>
      obtain ⟨y, ys, hy, hys, rfl⟩ :=
        List.forall₂_cons_left_iff.mp (mapM_eq_ok.mp hf)
      obtain ⟨z, zs, hz, hzs, rfl⟩ :=
        List.forall₂_cons_left_iff.mp (mapM_eq_ok.mp hg)
      have hhead : y = z := h x List.mem_cons_self y z hy hz
      have htail : ys = zs := ih (mapM_eq_ok.mpr hys) (mapM_eq_ok.mpr hzs)
        fun w hw => h w (List.mem_cons_of_mem x hw)
      rw [hhead, htail]

/-- What is known of every result is known of the list of results. -/
theorem exists_mapM_map {f : α → Option β} {g : β → γ} {h : α → γ}
    {l : List α} (hf : ∀ x ∈ l, ∃ y, f x = some y ∧ g y = h x) :
    ∃ ys, l.mapM f = some ys ∧ ys.map g = l.map h := by
  induction l with
  | nil => exact ⟨[], rfl, rfl⟩
  | cons x l ih =>
      obtain ⟨y, hy, hg⟩ := hf x List.mem_cons_self
      obtain ⟨ys, hys, hmap⟩ := ih fun z hz =>
        hf z (List.mem_cons_of_mem x hz)
      refine ⟨y :: ys, ?_, ?_⟩
      · rw [List.mapM_cons, hy, hys]
        rfl
      · rw [List.map_cons, List.map_cons, hg, hmap]

end Traversal
end SoraParachain

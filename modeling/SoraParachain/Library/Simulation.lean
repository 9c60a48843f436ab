import SoraParachain.Library.Runs
import SoraParachain.Library.Transaction

/-!
# Machines inside machines

A store may have a part that computations of a smaller store run on.  A machine on
the larger store is simulated by one on the part when each of its steps is, on the
part, a run of the smaller machine; then so is each of its runs.
-/

namespace SoraParachain

/-- A part of a store that can be read and replaced. -/
structure Part (σ τ : Type) where
  get : σ → τ
  set : τ → σ → σ
  get_set : ∀ t s, get (set t s) = t
  set_get : ∀ s, set (get s) s = s
  set_set : ∀ t t' s, set t (set t' s) = set t s

attribute [simp] Part.get_set Part.set_get Part.set_set

namespace Tx

variable {σ τ ε α : Type} {p : Part σ τ} {x : Tx τ ε α} {s s' : σ}

/-- Run a computation on a part of the store. -/
def onPart (p : Part σ τ) (x : Tx τ ε α) : Tx σ ε α :=
  fun s => ((x (p.get s)).1, p.set (x (p.get s)).2 s)

theorem run_onPart :
    (onPart p x).run s = ((x.run (p.get s)).1, p.set (x.run (p.get s)).2 s) :=
  rfl

theorem run_onPart_eq_ok {a : α} :
    (onPart p x).run s = (.ok a, s') ↔
      ∃ t, x.run (p.get s) = (.ok a, t) ∧ s' = p.set t s := by
  rw [run_onPart]
  rcases x.run (p.get s) with ⟨result, t⟩
  constructor
  · intro h
    cases h
    exact ⟨t, rfl, rfl⟩
  · rintro ⟨_, h, rfl⟩
    cases h
    rfl

theorem run_onPart_pure (a : α) :
    (onPart p (pure a : Tx τ ε α)).run s = (.ok a, s) := by
  rw [run_onPart, run_pure, Part.set_get]

/-- Steps on a part are steps of a computation on the part. -/
theorem run_onPart_bind {β : Type} {f : α → Tx τ ε β} :
    (onPart p (x >>= f)).run s =
      (onPart p x >>= fun a => onPart p (f a)).run s := by
  rw [run_onPart, run_bind, run_bind, run_onPart]
  rcases x.run (p.get s) with ⟨result, t⟩
  cases result with
  | ok a =>
      dsimp only
      rw [run_onPart, Part.get_set, Part.set_set]
  | error e => rfl

end Tx

variable {σ τ α β : Type}
variable {step : σ → α → σ} {step' : τ → β → τ} {proj : σ → τ}
variable {Images : σ → α → List β → Prop}

theorem runAll_append (s : τ) (labels rest : List β) :
    runAll step' s (labels ++ rest) =
      runAll step' (runAll step' s labels) rest :=
  List.foldl_append

/-- On the part, each step is a run of the smaller machine over labels that it
stands for in the state before it. -/
def Simulates (step : σ → α → σ) (step' : τ → β → τ) (proj : σ → τ)
    (Images : σ → α → List β → Prop) : Prop :=
  ∀ s label, ∃ images, Images s label images ∧
    proj (step s label) = runAll step' (proj s) images

/-- The labels that the steps of a run stand for, each in the state before it. -/
inductive ImagesAlong (step : σ → α → σ) (Images : σ → α → List β → Prop) :
    σ → List α → List (List β) → Prop
  | nil (s : σ) : ImagesAlong step Images s [] []
  | cons {s : σ} {label : α} {rest : List α} {first : List β}
      {others : List (List β)} (head : Images s label first)
      (tail : ImagesAlong step Images (step s label) rest others) :
      ImagesAlong step Images s (label :: rest) (first :: others)

/-- A run is, on the part, a run of the smaller machine over what its labels stand
for, one after the other. -/
theorem Simulates.exists_runAll (h : Simulates step step' proj Images) (s : σ)
    (labels : List α) :
    ∃ images : List (List β), ImagesAlong step Images s labels images ∧
      proj (runAll step s labels) =
        runAll step' (proj s) images.flatten := by
  induction labels generalizing s with
  | nil => exact ⟨[], .nil s, rfl⟩
  | cons label rest ih =>
      obtain ⟨first, hfirst, hstep⟩ := h s label
      obtain ⟨others, hothers, hrun⟩ := ih (step s label)
      refine ⟨first :: others, .cons hfirst hothers, ?_⟩
      rw [runAll_cons, hrun, hstep, List.flatten_cons, runAll_append]

theorem mem_label_of_mem_flatten {s : σ} {labels : List α}
    {images : List (List β)} {b : β}
    (h : ImagesAlong step Images s labels images) (hb : b ∈ images.flatten) :
    ∃ label ∈ labels, ∃ s bs, Images s label bs ∧ b ∈ bs := by
  induction h with
  | nil s => cases hb
  | cons head tail ih =>
      rw [List.flatten_cons] at hb
      rcases List.mem_append.mp hb with hb | hb
      · exact ⟨_, List.mem_cons_self, _, _, head, hb⟩
      · obtain ⟨label, hmem, himages⟩ := ih hb
        exact ⟨label, List.mem_cons_of_mem _ hmem, himages⟩

/-- What every step over some labels keeps, a run over them keeps. -/
theorem runAll_related_of_mem {R : τ → τ → Prop} [IsPreorder τ R]
    {labels : List β} (h : ∀ b ∈ labels, ∀ t, R t (step' t b)) (t : τ) :
    R t (runAll step' t labels) := by
  induction labels generalizing t with
  | nil => exact refl_of R t
  | cons b rest ih =>
      have hrest : ∀ b' ∈ rest, ∀ t, R t (step' t b') :=
        fun b' hb' => h b' (List.mem_cons_of_mem b hb')
      exact trans_of R (h b List.mem_cons_self t) (ih hrest _)

/-- What the steps that the labels of a run stand for keep of the part, the run
keeps. -/
theorem Simulates.runAll_related {R : τ → τ → Prop} [IsPreorder τ R]
    (h : Simulates step step' proj Images) (s : σ) {labels : List α}
    (hkeep : ∀ label ∈ labels, ∀ s bs, Images s label bs →
      ∀ b ∈ bs, ∀ t, R t (step' t b)) :
    R (proj s) (proj (runAll step s labels)) := by
  obtain ⟨images, himages, hrun⟩ := h.exists_runAll s labels
  rw [hrun]
  apply runAll_related_of_mem
  intro b hb
  obtain ⟨label, hmem, s₁, bs, hlabel, hb⟩ :=
    mem_label_of_mem_flatten himages hb
  exact hkeep label hmem s₁ bs hlabel b hb

end SoraParachain

import Mathlib.Data.List.Basic
import Mathlib.Algebra.BigOperators.Group.List.Basic
import Mathlib.Algebra.Order.Ring.Defs
import Mathlib.Order.Defs.Unbundled
import Mathlib.Tactic.Common

/-!
# Runs of a machine with labelled steps

A machine takes one step for each label; a run is the state after a list of
labels.  A rule may ask something of every step of a run, judged in the state
before the step.  Besides the usual invariant rule there are rules for invariants
that mention what the run has accumulated and for measures that each step lowers
by a factor at most.
-/

namespace SoraParachain

variable {σ α γ : Type}

/-- The state after the steps of a list of labels. -/
def runAll (step : σ → α → σ) (s : σ) (labels : List α) : σ :=
  labels.foldl step s

/-- Every step of the run satisfies a condition in the state before it. -/
def Along (step : σ → α → σ) (P : σ → α → Prop) : σ → List α → Prop
  | _, [] => True
  | s, label :: rest => P s label ∧ Along step P (step s label) rest

/-- The sum of what each step of the run contributes. -/
def totalAlong (step : σ → α → σ) (f : σ → α → ℕ) : σ → List α → ℕ
  | _, [] => 0
  | s, label :: rest => f s label + totalAlong step f (step s label) rest

/-- What a value becomes when each step of the run updates it. -/
def historyAlong (step : σ → α → σ) (update : σ → α → γ → γ) :
    γ → σ → List α → γ
  | h, _, [] => h
  | h, s, label :: rest =>
      historyAlong step update (update s label h) (step s label) rest

section

variable {step : σ → α → σ} {P : σ → α → Prop}

@[simp] theorem runAll_nil (s : σ) : runAll step s [] = s := rfl

@[simp] theorem runAll_cons (s : σ) (label : α) (rest : List α) :
    runAll step s (label :: rest) = runAll step (step s label) rest := rfl

@[simp] theorem along_nil (s : σ) : Along step P s [] := trivial

@[simp] theorem along_cons (s : σ) (label : α) (rest : List α) :
    Along step P s (label :: rest) ↔
      P s label ∧ Along step P (step s label) rest :=
  Iff.rfl

instance decidableAlong [∀ s label, Decidable (P s label)] :
    ∀ (s : σ) (labels : List α), Decidable (Along step P s labels)
  | _, [] => isTrue trivial
  | s, label :: rest =>
      @instDecidableAnd _ _ inferInstance
        (decidableAlong (step s label) rest)

/-- What holds of every label holds along the run. -/
theorem along_of_forall_mem {Q : α → Prop} :
    ∀ {labels : List α} {s : σ}, (∀ label ∈ labels, Q label) →
      Along step (fun _ label => Q label) s labels := by
  intro labels
  induction labels with
  | nil => exact fun _ => trivial
  | cons label rest ih =>
      intro s h
      have hlabel : Q label := h label List.mem_cons_self
      exact ⟨hlabel, ih fun other hother =>
        h other (List.mem_cons_of_mem label hother)⟩

/-- Conditions that hold along a run hold together. -/
theorem Along.and {Q : σ → α → Prop} :
    ∀ {labels : List α} {s : σ}, Along step P s labels →
      Along step Q s labels →
        Along step (fun s label => P s label ∧ Q s label) s labels := by
  intro labels
  induction labels with
  | nil => exact fun _ _ => trivial
  | cons label rest ih =>
      intro s hP hQ
      exact ⟨⟨hP.1, hQ.1⟩, ih hP.2 hQ.2⟩

/-- A property that every permitted step preserves holds after every permitted
run. -/
theorem runAll_invariant {I : σ → Prop}
    (hstep : ∀ s label, I s → P s label → I (step s label)) :
    ∀ (labels : List α) (s : σ), I s → Along step P s labels →
      I (runAll step s labels) := by
  intro labels
  induction labels with
  | nil => exact fun s hs _ => hs
  | cons label rest ih =>
      intro s hs hall
      exact ih _ (hstep s label hs hall.1) hall.2

/-- A preorder that every step respects relates the ends of every run. -/
theorem runAll_related {R : σ → σ → Prop} [IsPreorder σ R]
    (hstep : ∀ s label, R s (step s label)) :
    ∀ (labels : List α) (s : σ), R s (runAll step s labels) := by
  intro labels
  induction labels with
  | nil => exact fun s => refl_of R s
  | cons label rest ih =>
      intro s
      exact trans_of R (hstep s label) (ih (step s label))

/-- When no permitted step adds more to a measure than it earns, a permitted run
does not either. -/
theorem runAll_add_totalAlong_le (measure : σ → ℕ) (spent earned : σ → α → ℕ)
    (hstep : ∀ s label, P s label →
      measure (step s label) + spent s label ≤
        measure s + earned s label) :
    ∀ (labels : List α) (s : σ), Along step P s labels →
      measure (runAll step s labels) + totalAlong step spent s labels ≤
        measure s + totalAlong step earned s labels := by
  intro labels
  induction labels with
  | nil => exact fun s _ => Nat.le_refl _
  | cons label rest ih =>
      intro s hall
      have hfirst := hstep s label hall.1
      have hrest := ih (step s label) hall.2
      rw [runAll_cons]
      simp only [totalAlong]
      omega

/-- The invariant rule for a property of the state and of a history that the
run keeps. -/
theorem runAll_history_invariant {update : σ → α → γ → γ}
    {I : σ → γ → Prop}
    (hstep : ∀ s label h, I s h → P s label →
      I (step s label) (update s label h)) :
    ∀ (labels : List α) (s : σ) (h : γ), I s h → Along step P s labels →
      I (runAll step s labels) (historyAlong step update h s labels) := by
  intro labels
  induction labels with
  | nil => exact fun s h hs _ => hs
  | cons label rest ih =>
      intro s h hs hall
      exact ih _ _ (hstep s label h hs hall.1) hall.2

/-- The invariant rule for a property of the state and of a sum that every step
adds to. -/
theorem runAll_total_invariant {f : σ → α → ℕ} {I : σ → ℕ → Prop}
    (hstep : ∀ s label n, I s n → P s label →
      I (step s label) (n + f s label)) :
    ∀ (labels : List α) (s : σ) (n : ℕ), I s n → Along step P s labels →
      I (runAll step s labels) (n + totalAlong step f s labels) := by
  intro labels
  induction labels with
  | nil => exact fun s n hs _ => hs
  | cons label rest ih =>
      intro s n hs hall
      have hrest := ih _ _ (hstep s label n hs hall.1) hall.2
      rw [Nat.add_assoc] at hrest
      exact hrest

/-- When every permitted step lowers a measure by at most a factor for each unit
of its cost, a permitted run does so for its total cost. -/
theorem runAll_mul_pow_le {K : Type} [CommSemiring K] [PartialOrder K]
    [IsOrderedRing K] {q : K} (hq : 0 ≤ q) {I : σ → Prop} (measure : σ → K)
    (cost : σ → α → ℕ)
    (hinv : ∀ s label, I s → P s label → I (step s label))
    (hstep : ∀ s label, I s → P s label →
      measure s * q ^ cost s label ≤ measure (step s label)) :
    ∀ (labels : List α) (s : σ), I s → Along step P s labels →
      measure s * q ^ totalAlong step cost s labels ≤
        measure (runAll step s labels) := by
  intro labels
  induction labels with
  | nil =>
      intro s _ _
      rw [totalAlong, pow_zero, mul_one, runAll_nil]
  | cons label rest ih =>
      intro s hs hall
      have hfirst := hstep s label hs hall.1
      have hrest := ih (step s label) (hinv s label hs hall.1) hall.2
      calc
        measure s * q ^ totalAlong step cost s (label :: rest) =
            measure s * q ^ cost s label *
              q ^ totalAlong step cost (step s label) rest := by
          rw [totalAlong, pow_add, mul_assoc]
        _ ≤ measure (step s label) *
              q ^ totalAlong step cost (step s label) rest :=
          mul_le_mul_of_nonneg_right hfirst (pow_nonneg hq _)
        _ ≤ measure (runAll step s (label :: rest)) := hrest

end
end SoraParachain

import Mathlib.Order.Defs.Unbundled
import Mathlib.Tactic.Common

/-!
# Fallible computations over a mutable store

A `Tx` reads and writes a store and may fail.  A failing computation keeps
whatever it wrote before it failed; only an explicit `withTransaction` block
rolls its writes back.  The lemmas below invert successful and failed runs one
statement at a time, so that a proof about a long computation can follow the
program text.
-/

namespace SoraParachain

/-- A computation over stores `σ` that returns an `α` or fails with an `ε`. -/
def Tx (σ ε α : Type) : Type :=
  σ → Except ε α × σ

namespace Tx

variable {σ ε α β : Type}

/-- The outcome of a computation together with the store it leaves behind. -/
def run (x : Tx σ ε α) (s : σ) : Except ε α × σ :=
  x s

instance : Monad (Tx σ ε) where
  pure a := fun s => (.ok a, s)
  bind x f := fun s =>
    match x s with
    | (.ok a, s') => f a s'
    | (.error e, s') => (.error e, s')

instance : MonadExceptOf ε (Tx σ ε) where
  throw e := fun s => (.error e, s)
  tryCatch x handler := fun s =>
    match x s with
    | (.ok a, s') => (.ok a, s')
    | (.error e, s') => handler e s'

def get : Tx σ ε σ :=
  fun s => (.ok s, s)

def modify (f : σ → σ) : Tx σ ε Unit :=
  fun s => (.ok (), f s)

/-- Ask a question about the store. -/
def reads (f : σ → Except ε α) : Tx σ ε α :=
  fun s => (f s, s)

/-- Run a pure fallible function. -/
def ofExcept : Except ε α → Tx σ ε α
  | .ok a => pure a
  | .error e => throw e

instance : MonadLift (Except ε) (Tx σ ε) := ⟨ofExcept⟩

/-- Undo every write of a failing computation. -/
def withTransaction (x : Tx σ ε α) : Tx σ ε α :=
  fun s =>
    match x s with
    | (.ok a, s') => (.ok a, s')
    | (.error e, _) => (.error e, s)

/-- Report every failure of a computation as one. -/
def orFail (x : Tx σ ε α) (e : ε) : Tx σ ε α :=
  fun s =>
    match x s with
    | (.ok a, s') => (.ok a, s')
    | (.error _, s') => (.error e, s')

/-- Keep the outcome of a computation and undo every write. -/
def rollback (x : Tx σ ε α) : Tx σ ε α :=
  fun s => ((x s).1, s)

/-! ## Successful runs -/

@[simp] theorem toOption_eq_some {x : Except ε α} {a : α} :
    x.toOption = some a ↔ x = .ok a := by
  cases x with
  | ok b => simp [Except.toOption]
  | error e => simp [Except.toOption]

/-- A sequence of pure fallible steps succeeds exactly when both parts do. -/
theorem except_bind_eq_ok {x : Except ε α} {f : α → Except ε β} {b : β} :
    (x >>= f) = .ok b ↔ ∃ a, x = .ok a ∧ f a = .ok b := by
  cases x with
  | ok a => simp [bind, Except.bind]
  | error e => simp [bind, Except.bind]

/-- A sequence of pure fallible steps fails in its first part or in its
second. -/
theorem except_bind_eq_error {x : Except ε α} {f : α → Except ε β} {e : ε} :
    (x >>= f) = .error e ↔
      x = .error e ∨ ∃ a, x = .ok a ∧ f a = .error e := by
  cases x with
  | ok a => simp [bind, Except.bind]
  | error e => simp [bind, Except.bind]

/-- The second parts of two sequences need only agree after a success of the
first part. -/
theorem except_bind_congr {x : Except ε α} {f g : α → Except ε β}
    (h : ∀ a, x = .ok a → f a = g a) :
    (x >>= f) = x >>= g := by
  cases x with
  | ok a => exact h a rfl
  | error e => rfl

theorem except_ok_bind (a : α) (f : α → Except ε β) :
    (.ok a >>= f) = f a := rfl

theorem except_bind_of_ok {x : Except ε α} {a : α} (h : x = .ok a)
    (f : α → Except ε β) :
    (x >>= f) = f a := by
  rw [h]
  rfl

theorem except_error_bind (e : ε) (f : α → Except ε β) :
    (.error e >>= f) = .error e := rfl

@[simp] theorem run_pure (a : α) (s : σ) :
    (pure a : Tx σ ε α).run s = (.ok a, s) := rfl

@[simp] theorem run_get (s : σ) :
    (get : Tx σ ε σ).run s = (.ok s, s) := rfl

@[simp] theorem run_modify (f : σ → σ) (s : σ) :
    (modify f : Tx σ ε Unit).run s = (.ok (), f s) := rfl

@[simp] theorem run_throw (e : ε) (s : σ) :
    (throw e : Tx σ ε α).run s = (.error e, s) := rfl

theorem run_bind (x : Tx σ ε α) (f : α → Tx σ ε β) (s : σ) :
    (x >>= f).run s =
      match x.run s with
      | (.ok a, s') => (f a).run s'
      | (.error e, s') => (.error e, s') := rfl

theorem run_bind_congr {x : Tx σ ε α} {f g : α → Tx σ ε β} {s : σ}
    (h : ∀ a s', x.run s = (.ok a, s') → (f a).run s' = (g a).run s') :
    (x >>= f).run s = (x >>= g).run s := by
  rw [run_bind, run_bind]
  rcases hx : x.run s with ⟨result, s'⟩
  cases result with
  | ok a => exact h a s' hx
  | error e => rfl

/-- Both parts may differ as long as they run alike. -/
theorem run_bind_congr_of_run_eq {x y : Tx σ ε α} {f g : α → Tx σ ε β} {s : σ}
    (hx : x.run s = y.run s)
    (h : ∀ a s', y.run s = (.ok a, s') → (f a).run s' = (g a).run s') :
    (x >>= f).run s = (y >>= g).run s := by
  rw [run_bind, hx, ← run_bind]
  exact run_bind_congr h

/-- A sequence succeeds exactly when both of its parts do, one after the
other. -/
theorem run_bind_eq_ok {x : Tx σ ε α} {f : α → Tx σ ε β}
    {s s'' : σ} {b : β} :
    (x >>= f).run s = (.ok b, s'') ↔
      ∃ a s', x.run s = (.ok a, s') ∧ (f a).run s' = (.ok b, s'') := by
  rw [run_bind]
  rcases hx : x.run s with ⟨result, s'⟩
  cases result with
  | ok a => simp
  | error e => simp

/-- A sequence fails in its first part, or in its second after the first
succeeded. -/
theorem run_bind_eq_error {x : Tx σ ε α} {f : α → Tx σ ε β}
    {s s'' : σ} {e : ε} :
    (x >>= f).run s = (.error e, s'') ↔
      x.run s = (.error e, s'') ∨
        ∃ a s', x.run s = (.ok a, s') ∧ (f a).run s' = (.error e, s'') := by
  rw [run_bind]
  rcases hx : x.run s with ⟨result, s'⟩
  cases result with
  | ok a => simp
  | error e' => simp

/-- What a part that is known to succeed contributes to a sequence. -/
theorem run_bind_of_ok {x : Tx σ ε α} {f : α → Tx σ ε β}
    {s s' : σ} {a : α} (hx : x.run s = (.ok a, s')) :
    (x >>= f).run s = (f a).run s' := by
  rw [run_bind, hx]

theorem run_reads (f : σ → Except ε α) (s : σ) :
    (reads f).run s = (f s, s) := rfl

@[simp] theorem run_reads_eq_ok {f : σ → Except ε α} {a : α} {s s' : σ} :
    (reads f).run s = (.ok a, s') ↔ f s = .ok a ∧ s = s' :=
  Prod.ext_iff

@[simp] theorem run_reads_eq_error {f : σ → Except ε α} {e : ε}
    {s s' : σ} :
    (reads f).run s = (.error e, s') ↔ f s = .error e ∧ s = s' :=
  Prod.ext_iff

@[simp] theorem run_ofExcept_eq_ok {x : Except ε α} {a : α} {s s' : σ} :
    (ofExcept x : Tx σ ε α).run s = (.ok a, s') ↔ x = .ok a ∧ s = s' := by
  cases x with
  | ok b => simp [ofExcept]
  | error e => simp [ofExcept]

@[simp] theorem run_ofExcept_eq_error {x : Except ε α} {e : ε} {s s' : σ} :
    (ofExcept x : Tx σ ε α).run s = (.error e, s') ↔
      x = .error e ∧ s = s' := by
  cases x with
  | ok b => simp [ofExcept]
  | error e' => simp [ofExcept]

@[simp] theorem run_liftM_eq_ok {x : Except ε α} {a : α} {s s' : σ} :
    (liftM x : Tx σ ε α).run s = (.ok a, s') ↔ x = .ok a ∧ s = s' :=
  run_ofExcept_eq_ok

@[simp] theorem run_liftM_eq_error {x : Except ε α} {e : ε} {s s' : σ} :
    (liftM x : Tx σ ε α).run s = (.error e, s') ↔
      x = .error e ∧ s = s' :=
  run_ofExcept_eq_error

/-- A question leaves the store as it is for what follows. -/
theorem run_reads_bind_eq_ok {f : σ → Except ε α} {g : α → Tx σ ε β}
    {s s' : σ} {b : β} :
    (reads f >>= g).run s = (.ok b, s') ↔
      ∃ a, f s = .ok a ∧ (g a).run s = (.ok b, s') := by
  rw [run_bind_eq_ok]
  constructor
  · intro h
    obtain ⟨a, s₁, hf, hg⟩ := h
    obtain ⟨ha, rfl⟩ := run_reads_eq_ok.mp hf
    exact ⟨a, ha, hg⟩
  · intro h
    obtain ⟨a, ha, hg⟩ := h
    exact ⟨a, s, run_reads_eq_ok.mpr ⟨ha, rfl⟩, hg⟩

/-- So does a pure step. -/
theorem run_liftM_bind_eq_ok {x : Except ε α} {g : α → Tx σ ε β}
    {s s' : σ} {b : β} :
    ((liftM x : Tx σ ε α) >>= g).run s = (.ok b, s') ↔
      ∃ a, x = .ok a ∧ (g a).run s = (.ok b, s') := by
  rw [run_bind_eq_ok]
  constructor
  · intro h
    obtain ⟨a, s₁, hx, hg⟩ := h
    obtain ⟨ha, rfl⟩ := run_liftM_eq_ok.mp hx
    exact ⟨a, ha, hg⟩
  · intro h
    obtain ⟨a, ha, hg⟩ := h
    exact ⟨a, s, run_liftM_eq_ok.mpr ⟨ha, rfl⟩, hg⟩

/-- A loop succeeds when its first turn does and then the rest. -/
theorem run_forM_cons_eq_ok {b : β} {rest : List β} {f : β → Tx σ ε Unit}
    {s s'' : σ} {u : Unit} :
    ((b :: rest).forM f).run s = (.ok u, s'') ↔
      ∃ s', (f b).run s = (.ok (), s') ∧
        (rest.forM f).run s' = (.ok u, s'') := by
  have hloop : (b :: rest).forM f = f b >>= fun _ => rest.forM f := rfl
  rw [hloop, run_bind_eq_ok]
  constructor
  · intro h
    obtain ⟨_, s', hfirst, hrest⟩ := h
    exact ⟨s', hfirst, hrest⟩
  · intro h
    obtain ⟨s', hfirst, hrest⟩ := h
    exact ⟨(), s', hfirst, hrest⟩

/-- What every successful turn of a loop preserves, a successful loop does. -/
theorem forM_invariant {I : σ → Prop} {f : β → Tx σ ε Unit} :
    ∀ {xs : List β} {s s' : σ} {u : Unit},
      (∀ b ∈ xs, ∀ s s', (f b).run s = (.ok (), s') → I s → I s') →
      (xs.forM f).run s = (.ok u, s') → I s → I s' := by
  intro xs
  induction xs with
  | nil =>
      intro s s' u _ h hs
      cases h
      exact hs
  | cons b rest ih =>
      intro s s'' u hturn h hs
      obtain ⟨s', hfirst, hrest⟩ := run_forM_cons_eq_ok.mp h
      have hs' : I s' := hturn b List.mem_cons_self s s' hfirst hs
      exact ih (fun c hc => hturn c (List.mem_cons_of_mem b hc)) hrest hs'

/-- What every turn of a loop establishes for its element and keeps for the
others holds of all elements in the end. -/
theorem forM_establishes {P : β → σ → Prop} {f : β → Tx σ ε Unit} :
    ∀ {xs : List β} {s s' : σ} {u : Unit},
      (∀ b ∈ xs, ∀ s s', (f b).run s = (.ok (), s') → P b s') →
      (∀ b ∈ xs, ∀ c ∈ xs, ∀ s s', (f b).run s = (.ok (), s') → P c s → P c s') →
      (xs.forM f).run s = (.ok u, s') → ∀ b ∈ xs, P b s' := by
  intro xs
  induction xs with
  | nil => exact fun _ _ _ => List.forall_mem_nil _
  | cons b rest ih =>
      intro s s'' u hset hkeep h
      obtain ⟨s', hfirst, hrest⟩ := run_forM_cons_eq_ok.mp h
      rw [List.forall_mem_cons]
      constructor
      · have hb : P b s' := hset b List.mem_cons_self s s' hfirst
        exact forM_invariant (fun c hc => hkeep c (List.mem_cons_of_mem b hc) b
          List.mem_cons_self) hrest hb
      · exact ih (fun c hc => hset c (List.mem_cons_of_mem b hc))
          (fun c hc d hd => hkeep c (List.mem_cons_of_mem b hc) d
            (List.mem_cons_of_mem b hd)) hrest

/-- A loop of writes folds them. -/
theorem run_forM_modify (f : β → σ → σ) :
    ∀ (xs : List β) (s : σ),
      (xs.forM fun b => (modify (f b) : Tx σ ε Unit)).run s =
        (.ok (), xs.foldl (fun s b => f b s) s) := by
  intro xs
  induction xs with
  | nil => exact fun s => rfl
  | cons b rest ih => exact fun s => ih (f b s)

@[simp] theorem run_orFail_eq_ok {x : Tx σ ε α} {e : ε} {s s' : σ} {a : α} :
    (orFail x e).run s = (.ok a, s') ↔ x.run s = (.ok a, s') := by
  have hrun : (orFail x e).run s =
      match x.run s with
      | (.ok a, s') => (.ok a, s')
      | (.error _, s') => (.error e, s') := rfl
  rw [hrun]
  rcases x.run s with ⟨result, s''⟩
  cases result with
  | ok b => simp
  | error e' => simp

theorem run_withTransaction (x : Tx σ ε α) (s : σ) :
    (withTransaction x).run s =
      match x.run s with
      | (.ok a, s') => (.ok a, s')
      | (.error e, _) => (.error e, s) := rfl

theorem run_withTransaction_congr {x y : Tx σ ε α} {s : σ}
    (h : x.run s = y.run s) :
    (withTransaction x).run s = (withTransaction y).run s := by
  rw [run_withTransaction, run_withTransaction, h]

@[simp] theorem run_withTransaction_eq_ok {x : Tx σ ε α}
    {s s' : σ} {a : α} :
    (withTransaction x).run s = (.ok a, s') ↔ x.run s = (.ok a, s') := by
  rw [run_withTransaction]
  rcases hx : x.run s with ⟨result, s''⟩
  cases result with
  | ok b => simp
  | error e => simp

/-- A failed transaction leaves the store as it found it. -/
@[simp] theorem run_withTransaction_eq_error {x : Tx σ ε α}
    {s s' : σ} {e : ε} :
    (withTransaction x).run s = (.error e, s') ↔
      s = s' ∧ ∃ s'', x.run s = (.error e, s'') := by
  rw [run_withTransaction]
  rcases hx : x.run s with ⟨result, s''⟩
  cases result with
  | ok b => simp
  | error e' => simp [and_comm]

@[simp] theorem run_rollback_eq_ok {x : Tx σ ε α} {s s' : σ} {a : α} :
    (rollback x).run s = (.ok a, s') ↔ s = s' ∧ ∃ s'', x.run s = (.ok a, s'') := by
  have hrun : (rollback x).run s = ((x.run s).1, s) := rfl
  rw [hrun, Prod.mk.injEq, and_comm]
  constructor
  · rintro ⟨hs, ha⟩
    exact ⟨hs, (x.run s).2, Prod.ext ha rfl⟩
  · rintro ⟨hs, s'', ha⟩
    exact ⟨hs, by rw [ha]⟩

/-! ## What a run leaves of the store

A relation between the stores before and after may hold whether or not the run
succeeds. -/

/-- Every run relates the store it finds to the store it leaves. -/
def Keeps (R : σ → σ → Prop) (x : Tx σ ε α) : Prop :=
  ∀ s, R s (x.run s).2

/-- The later store has a property if the earlier one has it. -/
def Preserves (I : σ → Prop) (s s' : σ) : Prop :=
  I s → I s'

instance (I : σ → Prop) : IsPreorder σ (Preserves I) where
  refl _ h := h
  trans _ _ _ hab hbc h := hbc (hab h)

section

variable {R : σ → σ → Prop}

theorem Keeps.of_run {x : Tx σ ε α} (hx : Keeps R x) {s s' : σ}
    {r : Except ε α} (h : x.run s = (r, s')) :
    R s s' := by
  have hs := hx s
  rwa [h] at hs

theorem keeps_modify {f : σ → σ} (hf : ∀ s, R s (f s)) :
    Keeps R (modify f : Tx σ ε Unit) :=
  hf

/-- Every failing run relates the store it finds to the store it leaves. -/
def FailsWithin (R : σ → σ → Prop) (x : Tx σ ε α) : Prop :=
  ∀ s e s', x.run s = (.error e, s') → R s s'

theorem Keeps.mono {R' : σ → σ → Prop} {x : Tx σ ε α} (hx : Keeps R x)
    (h : ∀ s s', R s s' → R' s s') : Keeps R' x :=
  fun s => h _ _ (hx s)

/-- A run succeeds or fails. -/
theorem keeps_of_ok {x : Tx σ ε α}
    (hok : ∀ s a s', x.run s = (.ok a, s') → R s s')
    (hfail : FailsWithin R x) : Keeps R x := by
  intro s
  rcases h : x.run s with ⟨r, s'⟩
  cases r with
  | ok a => exact hok s a s' h
  | error e => exact hfail s e s' h

/-- Returning a value after a computation adds no failure. -/
theorem failsWithin_bind_pure {x : Tx σ ε α} (hx : FailsWithin R x)
    (f : α → β) :
    FailsWithin R (x >>= fun a => pure (f a)) := by
  intro s e s' h
  rcases run_bind_eq_error.mp h with h | ⟨_, _, -, h⟩
  · exact hx s e s' h
  · simp at h

variable [IsPreorder σ R]

theorem keeps_pure (a : α) : Keeps R (pure a : Tx σ ε α) :=
  fun s => refl_of R s

theorem keeps_get : Keeps R (get : Tx σ ε σ) :=
  fun s => refl_of R s

theorem keeps_reads (f : σ → Except ε α) : Keeps R (reads f) :=
  fun s => refl_of R s

theorem keeps_liftM (x : Except ε α) : Keeps R (liftM x : Tx σ ε α) := by
  intro s
  cases x with
  | ok a => exact refl_of R s
  | error e => exact refl_of R s

theorem keeps_bind {x : Tx σ ε α} {f : α → Tx σ ε β} (hx : Keeps R x)
    (hf : ∀ a, Keeps R (f a)) :
    Keeps R (x >>= f) := by
  intro s
  rw [run_bind]
  rcases h : x.run s with ⟨r, s'⟩
  have hs : R s s' := hx.of_run h
  cases r with
  | ok a => exact trans_of R hs (hf a s')
  | error e => exact hs

/-- What follows a pure step need only be judged for the value it returns. -/
theorem keeps_liftM_bind {x : Except ε α} {f : α → Tx σ ε β}
    (hf : ∀ a, x = .ok a → Keeps R (f a)) :
    Keeps R ((liftM x : Tx σ ε α) >>= f) := by
  intro s
  cases x with
  | ok a => exact hf a rfl s
  | error e => exact refl_of R s

/-- A loop keeps what its body keeps. -/
theorem keeps_forM {f : β → Tx σ ε Unit} :
    ∀ {xs : List β}, (∀ b ∈ xs, Keeps R (f b)) → Keeps R (xs.forM f) := by
  intro xs
  induction xs with
  | nil => exact fun _ => keeps_pure _
  | cons b rest ih =>
      intro hf
      exact keeps_bind (hf b List.mem_cons_self) fun _ =>
        ih fun c hc => hf c (List.mem_cons_of_mem b hc)

/-- What is undone relates the store to itself. -/
theorem keeps_rollback (x : Tx σ ε α) : Keeps R (rollback x) :=
  fun s => refl_of R s

theorem keeps_withTransaction {x : Tx σ ε α} (hx : Keeps R x) :
    Keeps R (withTransaction x) := by
  intro s
  rw [run_withTransaction]
  rcases h : x.run s with ⟨r, s'⟩
  cases r with
  | ok a => exact hx.of_run h
  | error e => exact refl_of R s

/-! ## What a failure leaves of the store -/

/-- Nothing before the part that may fail late writes beyond the relation. -/
theorem failsWithin_bind {x : Tx σ ε α} {f : α → Tx σ ε β} (hx : Keeps R x)
    (hf : ∀ a, FailsWithin R (f a)) :
    FailsWithin R (x >>= f) := by
  intro s e s'' h
  rcases run_bind_eq_error.mp h with h | ⟨a, s', ha, h⟩
  · exact hx.of_run h
  · exact trans_of R (hx.of_run ha) (hf a s' e s'' h)

/-- A transaction that fails relates the store to itself. -/
theorem failsWithin_withTransaction (x : Tx σ ε α) :
    FailsWithin R (withTransaction x) := by
  intro s e s' h
  rw [(run_withTransaction_eq_error.mp h).1]
  exact refl_of R s'

end

/-! ## What a failure reports -/

section

variable {P : ε → Prop}

/-- The pure computation never fails with an error that satisfies `P`. -/
def Never (P : ε → Prop) (x : Except ε α) : Prop :=
  ∀ e, x = .error e → ¬P e

/-- From the given store the computation never fails with an error that
satisfies `P`. -/
def NeverFrom (P : ε → Prop) (x : Tx σ ε α) (s : σ) : Prop :=
  ∀ e s', x.run s = (.error e, s') → ¬P e

theorem never_ok (a : α) : Never P (.ok a : Except ε α) := by
  intro e h
  cases h

theorem never_error {e : ε} (he : ¬P e) :
    Never P (.error e : Except ε α) := by
  intro e' h
  cases h
  exact he

theorem never_bind {x : Except ε α} {f : α → Except ε β} (hx : Never P x)
    (hf : ∀ a, x = .ok a → Never P (f a)) :
    Never P (x >>= f) := by
  intro e h
  rcases except_bind_eq_error.mp h with h | ⟨a, ha, h⟩
  · exact hx e h
  · exact hf a ha e h

theorem neverFrom_pure (a : α) (s : σ) :
    NeverFrom P (pure a : Tx σ ε α) s := by
  intro e s' h
  simp at h

theorem neverFrom_get (s : σ) : NeverFrom P (get : Tx σ ε σ) s := by
  intro e s' h
  simp at h

theorem neverFrom_modify (f : σ → σ) (s : σ) :
    NeverFrom P (modify f : Tx σ ε Unit) s := by
  intro e s' h
  simp at h

theorem neverFrom_reads {f : σ → Except ε α} {s : σ} (hf : Never P (f s)) :
    NeverFrom P (reads f) s :=
  fun e _ h => hf e (run_reads_eq_error.mp h).1

theorem neverFrom_liftM {x : Except ε α} (hx : Never P x) (s : σ) :
    NeverFrom P (liftM x : Tx σ ε α) s :=
  fun e _ h => hx e (run_liftM_eq_error.mp h).1

/-- The second part need only be judged in the stores that the first part may
leave. -/
theorem neverFrom_bind {x : Tx σ ε α} {f : α → Tx σ ε β} {s : σ}
    (hx : NeverFrom P x s)
    (hf : ∀ a s', x.run s = (.ok a, s') → NeverFrom P (f a) s') :
    NeverFrom P (x >>= f) s := by
  intro e s'' h
  rcases run_bind_eq_error.mp h with h | ⟨a, s', ha, h⟩
  · exact hx e s'' h
  · exact hf a s' ha e s'' h

theorem neverFrom_withTransaction {x : Tx σ ε α} {s : σ}
    (hx : NeverFrom P x s) :
    NeverFrom P (withTransaction x) s := by
  intro e s' h
  obtain ⟨-, s'', h⟩ := run_withTransaction_eq_error.mp h
  exact hx e s'' h

end

end Tx
end SoraParachain

import Mathlib.Algebra.Order.BigOperators.Group.List
import Mathlib.Algebra.BigOperators.Group.List.Basic
import Mathlib.Algebra.GroupWithZero.Nat
import Mathlib.Tactic.Common

/-!
# Ledgers of several currencies

A `Book` lists the free balance of every account in every currency, with the
issuance of each currency beside it.  A `MultiCurrency` is an implementation
whose ledgers can be read as books.  Its laws say what a successful operation
does to the book and when an operation is bound to succeed; everything a client
may rely on is stated through the book.
-/

namespace SoraParachain

/-- Free balances by currency and account, and the issuance of each currency. -/
@[ext] structure Book (CurrencyId AccountId : Type) where
  free : CurrencyId → AccountId → ℕ
  issuance : CurrencyId → ℕ

namespace Book

variable {CurrencyId AccountId : Type}
variable [DecidableEq CurrencyId] [DecidableEq AccountId]

/-- The book after `n` units went from one account to another. -/
def moved (b : Book CurrencyId AccountId) (c : CurrencyId)
    (source dest : AccountId) (n : ℕ) : Book CurrencyId AccountId where
  free d a :=
    if d = c ∧ source ≠ dest then
      if a = source then b.free c source - n
      else if a = dest then b.free c dest + n
      else b.free c a
    else b.free d a
  issuance := b.issuance

/-- The book after `n` fresh units were given to an account. -/
def issued (b : Book CurrencyId AccountId) (c : CurrencyId)
    (who : AccountId) (n : ℕ) : Book CurrencyId AccountId where
  free d a := if d = c ∧ a = who then b.free c who + n else b.free d a
  issuance d := if d = c then b.issuance c + n else b.issuance d

/-- The book after `n` units of an account were destroyed. -/
def retired (b : Book CurrencyId AccountId) (c : CurrencyId)
    (who : AccountId) (n : ℕ) : Book CurrencyId AccountId where
  free d a := if d = c ∧ a = who then b.free c who - n else b.free d a
  issuance d := if d = c then b.issuance c - n else b.issuance d

variable {b : Book CurrencyId AccountId} {c d : CurrencyId}
variable {a source dest who : AccountId} {n : ℕ}

/-! ## What a move changes -/

@[simp] theorem issuance_moved :
    (b.moved c source dest n).issuance d = b.issuance d := rfl

theorem free_moved_source (h : source ≠ dest) :
    (b.moved c source dest n).free c source = b.free c source - n := by
  simp [moved, h]

theorem free_moved_dest (h : source ≠ dest) :
    (b.moved c source dest n).free c dest = b.free c dest + n := by
  simp [moved, h, h.symm]

@[simp] theorem free_moved_self :
    (b.moved c who who n).free d a = b.free d a := by
  simp [moved]

theorem free_moved_of_ne_currency (h : d ≠ c) :
    (b.moved c source dest n).free d a = b.free d a := by
  simp [moved, h]

theorem free_moved_of_ne_account (hs : a ≠ source) (hd : a ≠ dest) :
    (b.moved c source dest n).free d a = b.free d a := by
  by_cases hc : d = c
  · subst hc
    simp [moved, hs, hd]
  · exact free_moved_of_ne_currency hc

/-- Only the account that pays can end up with less. -/
theorem free_le_free_moved (h : a ≠ source) :
    b.free d a ≤ (b.moved c source dest n).free d a := by
  by_cases hd : a = dest
  · subst hd
    by_cases hc : d = c
    · subst hc
      rw [free_moved_dest (Ne.symm h)]
      omega
    · rw [free_moved_of_ne_currency hc]
  · rw [free_moved_of_ne_account h hd]

/-- A move takes its amount from the account that pays, at most. -/
theorem free_le_free_moved_add :
    b.free d a ≤ (b.moved c source dest n).free d a +
      if c = d ∧ source = a then n else 0 := by
  by_cases hd : c = d
  · subst hd
    by_cases ha : source = a
    · subst ha
      rw [if_pos ⟨rfl, rfl⟩]
      by_cases hself : source = dest
      · subst hself
        rw [free_moved_self]
        exact Nat.le_add_right _ _
      · rw [free_moved_source hself]
        omega
    · exact (free_le_free_moved (Ne.symm ha)).trans (Nat.le_add_right _ _)
  · rw [free_moved_of_ne_currency (Ne.symm hd)]
    exact Nat.le_add_right _ _

/-! ## What issuing and retiring change -/

@[simp] theorem issuance_issued_self :
    (b.issued c who n).issuance c = b.issuance c + n := by
  simp [issued]

@[simp] theorem issuance_retired_self :
    (b.retired c who n).issuance c = b.issuance c - n := by
  simp [retired]

theorem issuance_issued_of_ne (h : d ≠ c) :
    (b.issued c who n).issuance d = b.issuance d := by
  simp [issued, h]

theorem issuance_retired_of_ne (h : d ≠ c) :
    (b.retired c who n).issuance d = b.issuance d := by
  simp [retired, h]

theorem issuance_retired_le :
    (b.retired c who n).issuance d ≤ b.issuance d := by
  by_cases h : d = c
  · rw [h, issuance_retired_self]
    exact Nat.sub_le _ _
  · rw [issuance_retired_of_ne h]

@[simp] theorem free_issued_self :
    (b.issued c who n).free c who = b.free c who + n := by
  simp [issued]

@[simp] theorem free_retired_self :
    (b.retired c who n).free c who = b.free c who - n := by
  simp [retired]

theorem free_issued_of_ne_account (h : a ≠ who) :
    (b.issued c who n).free d a = b.free d a := by
  simp [issued, h]

theorem free_retired_of_ne_account (h : a ≠ who) :
    (b.retired c who n).free d a = b.free d a := by
  simp [retired, h]

theorem free_issued_of_ne_currency (h : d ≠ c) :
    (b.issued c who n).free d a = b.free d a := by
  simp [issued, h]

theorem free_retired_of_ne_currency (h : d ≠ c) :
    (b.retired c who n).free d a = b.free d a := by
  simp [retired, h]

/-- Retiring takes its amount from one account, at most. -/
theorem free_le_free_retired_add :
    b.free d a ≤ (b.retired c who n).free d a + if d = c then n else 0 := by
  by_cases hd : d = c
  · rw [hd, if_pos rfl]
    by_cases ha : a = who
    · rw [ha, free_retired_self]
      omega
    · rw [free_retired_of_ne_account ha]
      exact Nat.le_add_right _ _
  · rw [free_retired_of_ne_currency hd]
    exact Nat.le_add_right _ _

theorem free_le_free_issued :
    b.free d a ≤ (b.issued c who n).free d a := by
  unfold issued
  dsimp only
  split_ifs with h
  · rw [h.1, h.2]
    omega
  · exact le_rfl

end Book

/-! ## Implementations -/

/-- Why a module outside this development refused an operation. -/
structure ForeignError where
  index : ℕ
  error : ℕ
  deriving DecidableEq, Repr

/-- The operations of a ledger of several currencies. -/
structure MultiCurrency (CurrencyId AccountId : Type) where
  Ledger : Type
  book : Ledger → Book CurrencyId AccountId
  transfer : CurrencyId → AccountId → AccountId → ℕ → Ledger →
    Except ForeignError Ledger
  deposit : CurrencyId → AccountId → ℕ → Ledger → Except ForeignError Ledger
  withdraw : CurrencyId → AccountId → ℕ → Ledger → Except ForeignError Ledger
  ensureCanWithdraw : CurrencyId → AccountId → ℕ → Ledger →
    Except ForeignError Unit

namespace MultiCurrency

variable {CurrencyId AccountId : Type}
variable [DecidableEq CurrencyId] [DecidableEq AccountId]

/-- What the operations promise.  Amounts and issuances are below `capacity`;
nothing is taken beyond what is asked, so an account may keep any remainder. -/
structure Lawful (M : MultiCurrency CurrencyId AccountId)
    (capacity : ℕ) : Prop where
  transfer_ok : ∀ {c source dest n l l'},
    M.transfer c source dest n l = .ok l' →
      (source = dest ∨ n ≤ (M.book l).free c source) ∧
        M.book l' = (M.book l).moved c source dest n
  deposit_ok : ∀ {c who n l l'},
    M.deposit c who n l = .ok l' → M.book l' = (M.book l).issued c who n
  withdraw_ok : ∀ {c who n l l'},
    M.withdraw c who n l = .ok l' →
      n ≤ (M.book l).free c who ∧ M.book l' = (M.book l).retired c who n
  free_le_issuance : ∀ l c who,
    (M.book l).free c who ≤ (M.book l).issuance c
  issuance_lt : ∀ l c, (M.book l).issuance c < capacity
  transfer_succeeds : ∀ {c source n l},
    M.ensureCanWithdraw c source n l = .ok () →
      ∀ dest, ∃ l', M.transfer c source dest n l = .ok l'
  deposit_succeeds : ∀ {c n l},
    (M.book l).issuance c + n < capacity →
      ∀ who, ∃ l', M.deposit c who n l = .ok l'
  ensureCanWithdraw_transfer : ∀ {c d source dest who n m l l'},
    M.transfer c source dest n l = .ok l' → d ≠ c →
      M.ensureCanWithdraw d who m l' = M.ensureCanWithdraw d who m l

/-- How the check for a withdrawal relates to the operations.  It looks at one
account in one currency; what an account pays to another one passed it, and adds
up with what the account can still pay. -/
structure Checked (M : MultiCurrency CurrencyId AccountId) : Prop where
  ensureCanWithdraw_of_le : ∀ {c who m n l}, m ≤ n →
    M.ensureCanWithdraw c who n l = .ok () →
      M.ensureCanWithdraw c who m l = .ok ()
  ensureCanWithdraw_of_transfer : ∀ {c source dest n l l'},
    M.transfer c source dest n l = .ok l' → source ≠ dest →
      M.ensureCanWithdraw c source n l = .ok ()
  ensureCanWithdraw_transferred : ∀ {c source dest n m l l'},
    M.transfer c source dest n l = .ok l' → source ≠ dest →
      (M.ensureCanWithdraw c source m l' = .ok () ↔
        M.ensureCanWithdraw c source (n + m) l = .ok ())
  ensureCanWithdraw_deposit : ∀ {c d who other n m l l'},
    M.deposit c other n l = .ok l' → d ≠ c →
      M.ensureCanWithdraw d who m l' = M.ensureCanWithdraw d who m l

/-- What a ledger may offer beside these: signed updates, and amounts that an
account keeps without being free to use them. -/
structure Extension (M : MultiCurrency CurrencyId AccountId) where
  updateBalance : CurrencyId → AccountId → ℤ → M.Ledger →
    Except ForeignError M.Ledger
  reserve : CurrencyId → AccountId → ℕ → M.Ledger →
    Except ForeignError M.Ledger
  unreserve : CurrencyId → AccountId → ℕ → M.Ledger → ℕ × M.Ledger

/-- A signed update deposits or withdraws; what is reserved stays issued. -/
structure Extension.Lawful {M : MultiCurrency CurrencyId AccountId}
    (E : M.Extension) : Prop where
  updateBalance_ok : ∀ {c who n l l'},
    E.updateBalance c who n l = .ok l' →
      M.book l' =
        if n < 0 then (M.book l).retired c who n.natAbs
        else (M.book l).issued c who n.natAbs
  reserve_ok : ∀ {c who n l l'},
    E.reserve c who n l = .ok l' →
      (M.book l').issuance = (M.book l).issuance
  unreserve : ∀ c who n l,
    (M.book (E.unreserve c who n l).2).issuance = (M.book l).issuance

end MultiCurrency

/-! ## Sequences of payments -/

/-- A transfer of an amount between two accounts. -/
structure Payment (CurrencyId AccountId : Type) where
  currency : CurrencyId
  source : AccountId
  dest : AccountId
  amount : ℕ

section Payments

variable {CurrencyId AccountId : Type}
variable {M : MultiCurrency CurrencyId AccountId} {capacity : ℕ}

/-- Make the payments in order, as long as each succeeds. -/
def MultiCurrency.payAll (M : MultiCurrency CurrencyId AccountId) :
    List (Payment CurrencyId AccountId) → M.Ledger →
      Except ForeignError M.Ledger
  | [], l => .ok l
  | p :: rest, l =>
      match M.transfer p.currency p.source p.dest p.amount l with
      | .ok l' => M.payAll rest l'
      | .error e => .error e

theorem MultiCurrency.payAll_cons_eq_ok {p : Payment CurrencyId AccountId}
    {rest : List (Payment CurrencyId AccountId)} {l l' : M.Ledger} :
    M.payAll (p :: rest) l = .ok l' ↔
      ∃ l₁, M.transfer p.currency p.source p.dest p.amount l = .ok l₁ ∧
        M.payAll rest l₁ = .ok l' := by
  rw [MultiCurrency.payAll]
  rcases M.transfer p.currency p.source p.dest p.amount l with e | l₁
  · simp
  · simp

variable [DecidableEq CurrencyId] [DecidableEq AccountId]

/-- The book after the payments. -/
def Book.paid (b : Book CurrencyId AccountId) :
    List (Payment CurrencyId AccountId) → Book CurrencyId AccountId
  | [] => b
  | p :: rest => (b.moved p.currency p.source p.dest p.amount).paid rest

/-- Every payment finds its amount when its turn comes. -/
def Book.Covers (b : Book CurrencyId AccountId) :
    List (Payment CurrencyId AccountId) → Prop
  | [] => True
  | p :: rest =>
      (p.source = p.dest ∨ p.amount ≤ b.free p.currency p.source) ∧
        (b.moved p.currency p.source p.dest p.amount).Covers rest

/-- Payments that succeeded were covered and leave the book they describe. -/
theorem MultiCurrency.Lawful.payAll_ok (hM : M.Lawful capacity) :
    ∀ {payments : List (Payment CurrencyId AccountId)} {l l' : M.Ledger},
      M.payAll payments l = .ok l' →
        (M.book l).Covers payments ∧
          M.book l' = (M.book l).paid payments := by
  intro payments
  induction payments with
  | nil =>
      intro l l' h
      cases h
      exact ⟨trivial, rfl⟩
  | cons p rest ih =>
      intro l l' h
      obtain ⟨l₁, hp, hrest⟩ := MultiCurrency.payAll_cons_eq_ok.mp h
      obtain ⟨hcovered, hbook⟩ := hM.transfer_ok hp
      obtain ⟨hcovers, hpaid⟩ := ih hrest
      rw [hbook] at hcovers hpaid
      exact ⟨⟨hcovered, hcovers⟩, hpaid⟩

theorem Book.issuance_paid (c : CurrencyId) :
    ∀ (payments : List (Payment CurrencyId AccountId))
      (b : Book CurrencyId AccountId),
      (b.paid payments).issuance c = b.issuance c
  | [], _ => rfl
  | _ :: rest, _ => Book.issuance_paid c rest _

/-- What the payments take from an account in a currency. -/
def outflow (payments : List (Payment CurrencyId AccountId)) (c : CurrencyId)
    (a : AccountId) : ℕ :=
  (payments.map fun p =>
    if p.currency = c ∧ p.source = a then p.amount else 0).sum

theorem outflow_cons (p : Payment CurrencyId AccountId)
    (rest : List (Payment CurrencyId AccountId)) (c : CurrencyId)
    (a : AccountId) :
    outflow (p :: rest) c a =
      (if p.currency = c ∧ p.source = a then p.amount else 0) +
        outflow rest c a := by
  rw [outflow, List.map_cons, List.sum_cons, outflow]

/-- Payments take no more from an account than their outflow. -/
theorem Book.free_le_free_paid_add_outflow {c : CurrencyId} {a : AccountId} :
    ∀ {payments : List (Payment CurrencyId AccountId)}
      {b : Book CurrencyId AccountId},
      b.free c a ≤ (b.paid payments).free c a + outflow payments c a := by
  intro payments
  induction payments with
  | nil => exact Nat.le_add_right _ _
  | cons p rest ih =>
      intro b
      rw [outflow_cons, Book.paid]
      have hrest := ih (b := b.moved p.currency p.source p.dest p.amount)
      have hmoved : b.free c a ≤
          (b.moved p.currency p.source p.dest p.amount).free c a +
            if p.currency = c ∧ p.source = a then p.amount else 0 :=
        Book.free_le_free_moved_add
      split_ifs at hmoved ⊢ with h
      · omega
      · omega

/-- A payment is received in full where the payments take nothing from the
receiver. -/
theorem Book.free_add_le_free_paid {c : CurrencyId} {source dest : AccountId}
    {amount : ℕ} {rest : List (Payment CurrencyId AccountId)}
    {b : Book CurrencyId AccountId} (hne : source ≠ dest)
    (hnone : outflow (⟨c, source, dest, amount⟩ :: rest) c dest = 0) :
    b.free c dest + amount ≤
      (b.paid (⟨c, source, dest, amount⟩ :: rest)).free c dest := by
  have hrest : outflow rest c dest = 0 := by
    rw [outflow_cons] at hnone
    exact Nat.eq_zero_of_add_eq_zero_left hnone
  calc b.free c dest + amount
      = (b.moved c source dest amount).free c dest :=
        (Book.free_moved_dest hne).symm
    _ ≤ (b.paid (⟨c, source, dest, amount⟩ :: rest)).free c dest +
          outflow rest c dest := Book.free_le_free_paid_add_outflow
    _ = (b.paid (⟨c, source, dest, amount⟩ :: rest)).free c dest := by
        rw [hrest, Nat.add_zero]

/-- Payments in other currencies or between other accounts do not touch a
balance. -/
theorem Book.free_paid_of_untouched {c : CurrencyId} {a : AccountId} :
    ∀ {payments : List (Payment CurrencyId AccountId)}
      {b : Book CurrencyId AccountId},
      (∀ p ∈ payments, c ≠ p.currency ∨ a ≠ p.source ∧ a ≠ p.dest) →
        (b.paid payments).free c a = b.free c a := by
  intro payments
  induction payments with
  | nil => exact fun _ => rfl
  | cons p rest ih =>
      intro b h
      rw [Book.paid, ih fun q hq => h q (List.mem_cons_of_mem p hq)]
      rcases h p List.mem_cons_self with hp | hp
      · exact Book.free_moved_of_ne_currency hp
      · exact Book.free_moved_of_ne_account hp.1 hp.2

theorem Book.free_paid_of_ne_currency {c : CurrencyId} {a : AccountId}
    {payments : List (Payment CurrencyId AccountId)}
    {b : Book CurrencyId AccountId} (h : ∀ p ∈ payments, c ≠ p.currency) :
    (b.paid payments).free c a = b.free c a :=
  Book.free_paid_of_untouched fun p hp => Or.inl (h p hp)

theorem Book.free_paid_of_ne_account {c : CurrencyId} {a : AccountId}
    {payments : List (Payment CurrencyId AccountId)}
    {b : Book CurrencyId AccountId}
    (h : ∀ p ∈ payments, a ≠ p.source ∧ a ≠ p.dest) :
    (b.paid payments).free c a = b.free c a :=
  Book.free_paid_of_untouched fun p hp => Or.inr (h p hp)

section Checks

variable {c d : CurrencyId} {w v x y z : AccountId} {m n k : ℕ} {l : M.Ledger}

/-- Two payments of one account succeed exactly when their sum passes the
check. -/
theorem MultiCurrency.Lawful.payAll_pair_iff (hM : M.Lawful capacity)
    (hC : M.Checked) (hx : w ≠ x) (hy : w ≠ y) :
    (∃ l', M.payAll [⟨c, w, x, m⟩, ⟨c, w, y, n⟩] l = .ok l') ↔
      M.ensureCanWithdraw c w (m + n) l = .ok () := by
  simp only [MultiCurrency.payAll_cons_eq_ok]
  constructor
  · rintro ⟨l', l₁, hfirst, l₂, hsecond, -⟩
    exact (hC.ensureCanWithdraw_transferred hfirst hx).mp
      (hC.ensureCanWithdraw_of_transfer hsecond hy)
  · intro hcheck
    have hfirst := hC.ensureCanWithdraw_of_le (Nat.le_add_right m n) hcheck
    obtain ⟨l₁, hl₁⟩ := hM.transfer_succeeds hfirst x
    have hsecond := (hC.ensureCanWithdraw_transferred hl₁ hx).mpr hcheck
    obtain ⟨l₂, hl₂⟩ := hM.transfer_succeeds hsecond y
    exact ⟨l₂, l₁, hl₁, l₂, hl₂, rfl⟩

/-- One payment succeeds exactly when its amount passes the check. -/
theorem MultiCurrency.Lawful.transfer_iff (hM : M.Lawful capacity)
    (hC : M.Checked) (hx : w ≠ x) :
    (∃ l', M.transfer c w x m l = .ok l') ↔
      M.ensureCanWithdraw c w m l = .ok () :=
  ⟨fun ⟨_, h⟩ => hC.ensureCanWithdraw_of_transfer h hx,
    fun h => hM.transfer_succeeds h x⟩

/-- After a payment in another currency, two payments of one account still
depend on their sum. -/
theorem MultiCurrency.Lawful.payAll_cons_pair_iff (hM : M.Lawful capacity)
    (hC : M.Checked) (hcd : d ≠ c) (hx : w ≠ x) (hy : v ≠ y) (hz : v ≠ z) :
    (∃ l', M.payAll [⟨c, w, x, k⟩, ⟨d, v, y, m⟩, ⟨d, v, z, n⟩] l = .ok l') ↔
      M.ensureCanWithdraw c w k l = .ok () ∧
        M.ensureCanWithdraw d v (m + n) l = .ok () := by
  constructor
  · rintro ⟨l', h⟩
    obtain ⟨l₁, hfirst, hrest⟩ := MultiCurrency.payAll_cons_eq_ok.mp h
    have hpair := (hM.payAll_pair_iff hC hy hz).mp ⟨l', hrest⟩
    rw [hM.ensureCanWithdraw_transfer hfirst hcd] at hpair
    exact ⟨(hM.transfer_iff hC hx).mp ⟨l₁, hfirst⟩, hpair⟩
  · intro h
    obtain ⟨l₁, hfirst⟩ := hM.transfer_succeeds h.1 x
    have hpair := h.2
    rw [← hM.ensureCanWithdraw_transfer hfirst hcd] at hpair
    obtain ⟨l', hrest⟩ := (hM.payAll_pair_iff hC hy hz).mpr hpair
    exact ⟨l', MultiCurrency.payAll_cons_eq_ok.mpr ⟨l₁, hfirst, hrest⟩⟩

/-- So does a payment in another currency after the two. -/
theorem MultiCurrency.Lawful.payAll_pair_cons_iff (hM : M.Lawful capacity)
    (hC : M.Checked) (hcd : d ≠ c) (hx : w ≠ x) (hy : w ≠ y) (hz : v ≠ z) :
    (∃ l', M.payAll [⟨c, w, x, m⟩, ⟨c, w, y, n⟩, ⟨d, v, z, k⟩] l = .ok l') ↔
      M.ensureCanWithdraw c w (m + n) l = .ok () ∧
        M.ensureCanWithdraw d v k l = .ok () := by
  -- The check in the other currency does not see the first two payments.
  have hcheck : ∀ {l₁ l₂}, M.transfer c w x m l = .ok l₁ →
      M.transfer c w y n l₁ = .ok l₂ →
        M.ensureCanWithdraw d v k l₂ = M.ensureCanWithdraw d v k l := by
    intro l₁ l₂ hfirst hsecond
    rw [hM.ensureCanWithdraw_transfer hsecond hcd,
      hM.ensureCanWithdraw_transfer hfirst hcd]
  simp only [MultiCurrency.payAll_cons_eq_ok]
  constructor
  · rintro ⟨l', l₁, hfirst, l₂, hsecond, l₃, hthird, -⟩
    have hlast := (hM.transfer_iff hC hz).mp ⟨l₃, hthird⟩
    rw [hcheck hfirst hsecond] at hlast
    refine ⟨(hM.payAll_pair_iff hC hx hy).mp ⟨l₂, ?_⟩, hlast⟩
    simp only [MultiCurrency.payAll_cons_eq_ok]
    exact ⟨l₁, hfirst, l₂, hsecond, rfl⟩
  · intro h
    obtain ⟨l₂, hpair⟩ := (hM.payAll_pair_iff hC hx hy).mpr h.1
    simp only [MultiCurrency.payAll_cons_eq_ok] at hpair
    obtain ⟨l₁, hfirst, l₂', hsecond, -⟩ := hpair
    have hlast := h.2
    rw [← hcheck hfirst hsecond] at hlast
    obtain ⟨l₃, hthird⟩ := hM.transfer_succeeds hlast z
    exact ⟨l₃, l₁, hfirst, l₂', hsecond, l₃, hthird, rfl⟩

end Checks

end Payments

/-! ## A ledger of coins

A ledger may simply be the list of amounts that accounts hold.  It obeys every
law, so the laws ask for nothing contradictory, and it can be evaluated. -/

/-- One amount held by an account in a currency. -/
structure Coin (CurrencyId AccountId : Type) where
  currency : CurrencyId
  owner : AccountId
  amount : ℕ
  deriving DecidableEq

namespace CoinLedger

variable {CurrencyId AccountId : Type}
variable {coins : List (Coin CurrencyId AccountId)}

/-- The sum of the amounts of the coins that satisfy a condition. -/
def worth (p : Coin CurrencyId AccountId → Bool)
    (coins : List (Coin CurrencyId AccountId)) : ℕ :=
  ((coins.filter p).map Coin.amount).sum

theorem worth_cons (p : Coin CurrencyId AccountId → Bool)
    (coin : Coin CurrencyId AccountId) :
    worth p (coin :: coins) =
      (if p coin then coin.amount else 0) + worth p coins := by
  unfold worth
  by_cases h : p coin
  · simp [h]
  · simp [h]

theorem worth_le_sum (p : Coin CurrencyId AccountId → Bool)
    (coins : List (Coin CurrencyId AccountId)) :
    worth p coins ≤ (coins.map Coin.amount).sum := by
  induction coins with
  | nil => exact Nat.le_refl _
  | cons coin rest ih =>
      rw [worth_cons, List.map_cons, List.sum_cons]
      split_ifs
      · omega
      · omega

/-- A condition that implies another one counts within it. -/
theorem worth_split {p q : Coin CurrencyId AccountId → Bool}
    (h : ∀ coin, q coin → p coin) :
    worth p coins =
      worth q coins + worth p (coins.filter (fun coin => !q coin)) := by
  induction coins with
  | nil => rfl
  | cons coin rest ih =>
      rw [worth_cons, worth_cons, ih]
      by_cases hq : q coin
      · simp [hq, h coin hq]
        omega
      · simp only [hq, Bool.not_false, List.filter_cons_of_pos, worth_cons]
        simp only [Bool.false_eq_true, if_false]
        omega

theorem worth_filter_of_disjoint {p q : Coin CurrencyId AccountId → Bool}
    (h : ∀ coin, p coin → q coin = false) :
    worth p (coins.filter (fun coin => !q coin)) = worth p coins := by
  induction coins with
  | nil => rfl
  | cons coin rest ih =>
      by_cases hq : q coin
      · have hp : p coin = false := by
          by_contra hp
          simp [h coin (by simpa using hp)] at hq
        simp [hq, worth_cons, hp, ih]
      · simp [hq, worth_cons, ih]

variable [DecidableEq CurrencyId] [DecidableEq AccountId]

/-- Whether a coin belongs to an account in a currency. -/
def belongs (c : CurrencyId) (who : AccountId)
    (coin : Coin CurrencyId AccountId) : Bool :=
  coin.currency = c ∧ coin.owner = who

/-- Whether a coin is of a currency. -/
def ofCurrency (c : CurrencyId) (coin : Coin CurrencyId AccountId) : Bool :=
  coin.currency = c

def book (coins : List (Coin CurrencyId AccountId)) :
    Book CurrencyId AccountId where
  free c who := worth (belongs c who) coins
  issuance c := worth (ofCurrency c) coins

/-- Replace everything an account holds in a currency by one coin. -/
def settle (coins : List (Coin CurrencyId AccountId)) (c : CurrencyId)
    (who : AccountId) (n : ℕ) : List (Coin CurrencyId AccountId) :=
  ⟨c, who, n⟩ :: coins.filter (fun coin => !belongs c who coin)

variable {c d : CurrencyId} {a who source dest : AccountId} {n : ℕ}

theorem free_settle_self :
    (book (settle coins c who n)).free c who = n := by
  have hrest : worth (belongs c who)
      (coins.filter (fun coin => !belongs c who coin)) = 0 := by
    have h : worth (belongs c who) coins = worth (belongs c who) coins +
        worth (belongs c who)
          (coins.filter (fun coin => !belongs c who coin)) :=
      worth_split (fun _ h => h)
    omega
  simp only [book, settle, worth_cons, hrest]
  simp [belongs]

theorem free_settle_of_ne (h : ¬(d = c ∧ a = who)) :
    (book (settle coins c who n)).free d a = (book coins).free d a := by
  have hhead : belongs d a (⟨c, who, n⟩ : Coin CurrencyId AccountId) =
      false := by
    simp only [belongs, decide_eq_false_iff_not]
    rintro ⟨hc, hwho⟩
    exact h ⟨hc.symm, hwho.symm⟩
  simp only [book, settle, worth_cons, hhead, Bool.false_eq_true, if_false,
    Nat.zero_add]
  refine worth_filter_of_disjoint (fun coin hcoin => ?_)
  simp only [belongs, decide_eq_true_eq] at hcoin
  simp only [belongs, decide_eq_false_iff_not]
  rintro ⟨hc, hwho⟩
  exact h ⟨hcoin.1.symm.trans hc, hcoin.2.symm.trans hwho⟩

/-- An issuance is the balance of any one account and what is left without
it. -/
theorem issuance_eq_free_add (coins : List (Coin CurrencyId AccountId))
    (c : CurrencyId) (who : AccountId) :
    (book coins).issuance c =
      (book coins).free c who +
        (book (coins.filter (fun coin => !belongs c who coin))).issuance c :=
  worth_split (fun coin h => by
    simp only [belongs, decide_eq_true_eq] at h
    simp [ofCurrency, h.1])

/-- The issuance follows the balance that was replaced. -/
theorem issuance_settle_self (coins : List (Coin CurrencyId AccountId))
    (c : CurrencyId) (who : AccountId) (n : ℕ) :
    (book (settle coins c who n)).issuance c + (book coins).free c who =
      (book coins).issuance c + n := by
  have hrest := issuance_eq_free_add coins c who
  have hhead : (book (settle coins c who n)).issuance c = n +
      (book (coins.filter (fun coin => !belongs c who coin))).issuance c := by
    simp [book, settle, worth_cons, ofCurrency]
  omega

theorem issuance_settle_of_ne (h : d ≠ c) :
    (book (settle coins c who n)).issuance d = (book coins).issuance d := by
  have hhead : ofCurrency d (⟨c, who, n⟩ : Coin CurrencyId AccountId) =
      false := by
    simpa [ofCurrency] using Ne.symm h
  simp only [book, settle, worth_cons, hhead, Bool.false_eq_true, if_false,
    Nat.zero_add]
  refine worth_filter_of_disjoint (fun coin hcoin => ?_)
  simp only [ofCurrency, decide_eq_true_eq] at hcoin
  simp only [belongs, decide_eq_false_iff_not]
  rintro ⟨hc, -⟩
  exact h (hcoin.symm.trans hc)

/-- What leaves one account and joins another leaves every issuance as it is. -/
theorem issuance_settle_settle (coins : List (Coin CurrencyId AccountId))
    {source dest : AccountId} (hne : source ≠ dest)
    (hn : n ≤ (book coins).free c source) (d : CurrencyId) :
    (book (settle (settle coins c source ((book coins).free c source - n)) c
      dest ((book coins).free c dest + n))).issuance d =
        (book coins).issuance d := by
  by_cases hd : d = c
  · subst hd
    have hsource := issuance_settle_self coins d source
      ((book coins).free d source - n)
    have hdest := issuance_settle_self
      (settle coins d source ((book coins).free d source - n)) d dest
      ((book coins).free d dest + n)
    rw [free_settle_of_ne (by simp [hne.symm])] at hdest
    omega
  · rw [issuance_settle_of_ne hd, issuance_settle_of_ne hd]

theorem free_le_issuance (coins : List (Coin CurrencyId AccountId))
    (c : CurrencyId) (who : AccountId) :
    (book coins).free c who ≤ (book coins).issuance c := by
  rw [issuance_eq_free_add coins c who]
  exact Nat.le_add_right _ _

end CoinLedger

/-- A list of coins none of whose issuances reaches the capacity. -/
structure CoinLedger (CurrencyId AccountId : Type)
    [DecidableEq CurrencyId] [DecidableEq AccountId] (capacity : ℕ) where
  coins : List (Coin CurrencyId AccountId)
  issuance_lt : ∀ c, (CoinLedger.book coins).issuance c < capacity

namespace CoinLedger

variable {CurrencyId AccountId : Type}
variable [DecidableEq CurrencyId] [DecidableEq AccountId] {capacity : ℕ}

/-- Change what two accounts hold in a currency, keeping their sum. -/
def exchange (l : CoinLedger CurrencyId AccountId capacity) (c : CurrencyId)
    (source dest : AccountId) (n : ℕ) (hne : source ≠ dest)
    (hn : n ≤ (book l.coins).free c source) :
    CoinLedger CurrencyId AccountId capacity where
  coins := settle
    (settle l.coins c source ((book l.coins).free c source - n))
    c dest ((book l.coins).free c dest + n)
  issuance_lt d := by
    rw [issuance_settle_settle l.coins hne hn]
    exact l.issuance_lt d

/-- Change what one account holds in a currency. -/
def adjust (l : CoinLedger CurrencyId AccountId capacity) (c : CurrencyId)
    (who : AccountId) (n : ℕ)
    (hn : (book l.coins).issuance c + n <
      capacity + (book l.coins).free c who) :
    CoinLedger CurrencyId AccountId capacity where
  coins := settle l.coins c who n
  issuance_lt d := by
    by_cases hd : d = c
    · subst hd
      have h := issuance_settle_self l.coins d who n
      omega
    · rw [issuance_settle_of_ne hd]
      exact l.issuance_lt d

/-- The currency kept as a list of coins. -/
def currency (CurrencyId AccountId : Type)
    [DecidableEq CurrencyId] [DecidableEq AccountId] (capacity : ℕ) :
    MultiCurrency CurrencyId AccountId where
  Ledger := CoinLedger CurrencyId AccountId capacity
  book l := book l.coins
  transfer c source dest n l :=
    if hne : source = dest then .ok l
    else if hn : n ≤ (book l.coins).free c source then
      .ok (l.exchange c source dest n hne hn)
    else .error ⟨0, 0⟩
  deposit c who n l :=
    if hn : (book l.coins).issuance c + n < capacity then
      .ok (l.adjust c who ((book l.coins).free c who + n) (by omega))
    else .error ⟨0, 1⟩
  withdraw c who n l :=
    if hn : n ≤ (book l.coins).free c who then
      .ok (l.adjust c who ((book l.coins).free c who - n)
        (Nat.lt_of_le_of_lt (Nat.add_le_add_left (Nat.sub_le _ _) _)
        (Nat.add_lt_add_right (l.issuance_lt c) _)))
    else .error ⟨0, 0⟩
  ensureCanWithdraw c who n l :=
    if n ≤ (book l.coins).free c who then .ok () else .error ⟨0, 0⟩

variable {l l' : CoinLedger CurrencyId AccountId capacity}
variable {c : CurrencyId} {source dest who : AccountId} {n : ℕ}

theorem book_exchange (hne : source ≠ dest)
    (hn : n ≤ (book l.coins).free c source) :
    book (l.exchange c source dest n hne hn).coins =
      (book l.coins).moved c source dest n := by
  ext d a
  · by_cases hd : d = c
    · subst hd
      by_cases hdest : a = dest
      · subst hdest
        rw [Book.free_moved_dest hne]
        exact free_settle_self
      · rw [exchange, free_settle_of_ne (by simp [hdest])]
        by_cases hsource : a = source
        · subst hsource
          rw [Book.free_moved_source hne]
          exact free_settle_self
        · rw [free_settle_of_ne (by simp [hsource]),
            Book.free_moved_of_ne_account hsource hdest]
    · rw [exchange, free_settle_of_ne (by simp [hd]),
        free_settle_of_ne (by simp [hd]),
        Book.free_moved_of_ne_currency hd]
  · rw [Book.issuance_moved]
    exact issuance_settle_settle l.coins hne hn d

theorem book_settle_issued (coins : List (Coin CurrencyId AccountId)) :
    book (settle coins c who ((book coins).free c who + n)) =
      (book coins).issued c who n := by
  ext d a
  · by_cases h : d = c ∧ a = who
    · obtain ⟨rfl, rfl⟩ := h
      rw [free_settle_self, Book.free_issued_self]
    · rw [free_settle_of_ne h]
      simp [Book.issued, h]
  · by_cases hd : d = c
    · subst hd
      have h := issuance_settle_self coins d who
        ((book coins).free d who + n)
      rw [Book.issuance_issued_self]
      omega
    · rw [issuance_settle_of_ne hd, Book.issuance_issued_of_ne hd]

theorem book_settle_retired (coins : List (Coin CurrencyId AccountId))
    (hn : n ≤ (book coins).free c who) :
    book (settle coins c who ((book coins).free c who - n)) =
      (book coins).retired c who n := by
  ext d a
  · by_cases h : d = c ∧ a = who
    · obtain ⟨rfl, rfl⟩ := h
      rw [free_settle_self, Book.free_retired_self]
    · rw [free_settle_of_ne h]
      simp [Book.retired, h]
  · by_cases hd : d = c
    · subst hd
      have h := issuance_settle_self coins d who
        ((book coins).free d who - n)
      rw [Book.issuance_retired_self]
      omega
    · rw [issuance_settle_of_ne hd, Book.issuance_retired_of_ne hd]

/-- The list of coins keeps every promise. -/
theorem currency_lawful :
    (currency CurrencyId AccountId capacity).Lawful capacity where
  transfer_ok := by
    intro c source dest n l l' h
    simp only [currency] at h ⊢
    split at h
    · cases h
      rename_i hne
      exact ⟨Or.inl hne, by ext <;> simp [hne]⟩
    · split at h
      · cases h
        rename_i hne hn
        exact ⟨Or.inr hn, book_exchange hne hn⟩
      · cases h
  deposit_ok := by
    intro c who n l l' h
    simp only [currency] at h ⊢
    split at h
    · cases h
      exact book_settle_issued l.coins
    · cases h
  withdraw_ok := by
    intro c who n l l' h
    simp only [currency] at h ⊢
    split at h
    · cases h
      rename_i hn
      exact ⟨hn, book_settle_retired l.coins hn⟩
    · cases h
  free_le_issuance l c who := CoinLedger.free_le_issuance l.coins c who
  issuance_lt l c := l.issuance_lt c
  transfer_succeeds := by
    intro c source n l h dest
    simp only [currency] at h ⊢
    split at h
    · rename_i hn
      by_cases hne : source = dest
      · exact ⟨l, by simp [hne]⟩
      · exact ⟨l.exchange c source dest n hne hn, by simp [hne, hn]⟩
    · cases h
  deposit_succeeds := by
    intro c n l hn who
    exact ⟨_, dif_pos hn⟩
  ensureCanWithdraw_transfer := by
    intro c d source dest who n m l l' h hd
    simp only [currency] at h ⊢
    split at h
    · cases h
      rfl
    · split at h
      · cases h
        rename_i hne hn
        rw [book_exchange hne hn, Book.free_moved_of_ne_currency hd]
      · cases h

/-- Its check compares with the balance. -/
theorem currency_checked :
    (currency CurrencyId AccountId capacity).Checked where
  ensureCanWithdraw_of_le := by
    intro c who m n l hle h
    simp only [currency] at h ⊢
    split at h
    · rename_i hn
      exact if_pos (hle.trans hn)
    · cases h
  ensureCanWithdraw_of_transfer := by
    intro c source dest n l l' h hne
    obtain ⟨hcovered, -⟩ := currency_lawful.transfer_ok h
    exact if_pos (hcovered.resolve_left hne)
  ensureCanWithdraw_transferred := by
    intro c source dest n m l l' h hne
    obtain ⟨hcovered, hbook⟩ := currency_lawful.transfer_ok h
    have hn : n ≤ (book l.coins).free c source := hcovered.resolve_left hne
    have hfree : (book l'.coins).free c source =
        (book l.coins).free c source - n := by
      have hmoved : book l'.coins = (book l.coins).moved c source dest n :=
        hbook
      rw [hmoved, Book.free_moved_source hne]
    simp only [currency]
    rw [hfree]
    split_ifs with h₁ h₂ h₂
    · exact Iff.rfl
    · omega
    · omega
    · exact Iff.rfl
  ensureCanWithdraw_deposit := by
    intro c d who other n m l l' h hne
    have hbook : book l'.coins = (book l.coins).issued c other n :=
      currency_lawful.deposit_ok h
    simp only [currency]
    rw [hbook, Book.free_issued_of_ne_currency hne]

/-- Coins change hands in signed amounts, but nothing can be reserved. -/
def extension (CurrencyId AccountId : Type)
    [DecidableEq CurrencyId] [DecidableEq AccountId] (capacity : ℕ) :
    (currency CurrencyId AccountId capacity).Extension where
  updateBalance c who n l :=
    if n < 0 then
      (currency CurrencyId AccountId capacity).withdraw c who n.natAbs l
    else (currency CurrencyId AccountId capacity).deposit c who n.natAbs l
  reserve _ _ n l := if n = 0 then .ok l else .error ⟨0, 2⟩
  unreserve _ _ n l := (n, l)

theorem extension_lawful :
    (extension CurrencyId AccountId capacity).Lawful where
  updateBalance_ok := by
    intro c who n l l' h
    simp only [extension] at h
    split_ifs at h with hn
    · rw [if_pos hn]
      exact (currency_lawful.withdraw_ok h).2
    · rw [if_neg hn]
      exact currency_lawful.deposit_ok h
  reserve_ok := by
    intro c who n l l' h
    simp only [extension] at h
    split_ifs at h
    cases h
    rfl
  unreserve _ _ _ _ := rfl

end CoinLedger
end SoraParachain

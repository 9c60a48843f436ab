import Mathlib.Algebra.BigOperators.Group.Finset.Basic
import Mathlib.Algebra.BigOperators.Group.Finset.Piecewise
import SoraParachain.Library.Ledger
import SoraParachain.Library.Runs

/-!
# Auditing a set of accounts

An auditor looks at one currency and a finite set of accounts.  Moves inside the
set change nothing that it sees; what is issued or retired inside the set changes
its holdings and the issuance by the same amount.
-/

namespace SoraParachain
namespace Book

variable {CurrencyId AccountId : Type}
variable [DecidableEq CurrencyId] [DecidableEq AccountId]

/-- What a set of accounts holds of a currency. -/
def heldBy (b : Book CurrencyId AccountId) (c : CurrencyId)
    (accounts : Finset AccountId) : ℕ :=
  ∑ a ∈ accounts, b.free c a

variable {b b' b'' : Book CurrencyId AccountId} {c d : CurrencyId}
variable {accounts : Finset AccountId} {a source dest who : AccountId} {n : ℕ}

omit [DecidableEq CurrencyId] in
/-- One account apart from the others. -/
theorem heldBy_eq_add (h : a ∈ accounts) :
    b.heldBy c accounts = b.free c a + b.heldBy c (accounts.erase a) :=
  (Finset.add_sum_erase accounts (b.free c) h).symm

omit [DecidableEq CurrencyId] [DecidableEq AccountId] in
theorem heldBy_congr (h : ∀ a ∈ accounts, b'.free c a = b.free c a) :
    b'.heldBy c accounts = b.heldBy c accounts :=
  Finset.sum_congr rfl h

/-- A covered move between two accounts of the set keeps what the set holds. -/
theorem heldBy_moved (hsource : source ∈ accounts) (hdest : dest ∈ accounts)
    (hcovered : source = dest ∨ n ≤ b.free c source) :
    (b.moved c source dest n).heldBy d accounts = b.heldBy d accounts := by
  by_cases hd : d = c
  · subst hd
    by_cases hne : source = dest
    · subst hne
      exact heldBy_congr fun a _ => free_moved_self
    · have hcover : n ≤ b.free d source := hcovered.resolve_left hne
      have hdest' : dest ∈ accounts.erase source :=
        Finset.mem_erase.mpr ⟨Ne.symm hne, hdest⟩
      have hrest : (b.moved d source dest n).heldBy d
          ((accounts.erase source).erase dest) =
            b.heldBy d ((accounts.erase source).erase dest) := by
        apply heldBy_congr
        intro a ha
        obtain ⟨had, ha⟩ := Finset.mem_erase.mp ha
        exact free_moved_of_ne_account (Finset.mem_erase.mp ha).1 had
      rw [heldBy_eq_add hsource, heldBy_eq_add hdest', hrest,
        free_moved_source hne, free_moved_dest hne, heldBy_eq_add hsource,
        heldBy_eq_add hdest']
      omega
  · exact heldBy_congr fun a _ => free_moved_of_ne_currency hd

theorem heldBy_issued (hwho : who ∈ accounts) :
    (b.issued c who n).heldBy c accounts = b.heldBy c accounts + n := by
  have hrest : (b.issued c who n).heldBy c (accounts.erase who) =
      b.heldBy c (accounts.erase who) :=
    heldBy_congr fun a ha => free_issued_of_ne_account (Finset.mem_erase.mp ha).1
  rw [heldBy_eq_add hwho, hrest, free_issued_self, heldBy_eq_add hwho]
  omega

theorem heldBy_retired (hwho : who ∈ accounts) (hcovered : n ≤ b.free c who) :
    (b.retired c who n).heldBy c accounts + n = b.heldBy c accounts := by
  have hrest : (b.retired c who n).heldBy c (accounts.erase who) =
      b.heldBy c (accounts.erase who) :=
    heldBy_congr fun a ha =>
      free_retired_of_ne_account (Finset.mem_erase.mp ha).1
  rw [heldBy_eq_add hwho, hrest, free_retired_self, heldBy_eq_add hwho]
  omega

/-- From one book to another, the accounts of the set and the issuance gain and
lose the same, and no other account changes. -/
structure Audited (b b' : Book CurrencyId AccountId)
    (accounts : Finset AccountId) (c : CurrencyId)
    (gained lost : ℕ) : Prop where
  held : b'.heldBy c accounts + lost = b.heldBy c accounts + gained
  issuance : b'.issuance c + lost = b.issuance c + gained
  others : ∀ a, a ∉ accounts → b'.free c a = b.free c a

namespace Audited

variable {gained gained' lost lost' : ℕ}

omit [DecidableEq CurrencyId] [DecidableEq AccountId] in
theorem refl (b : Book CurrencyId AccountId) (accounts : Finset AccountId)
    (c : CurrencyId) : Audited b b accounts c 0 0 :=
  ⟨rfl, rfl, fun _ _ => rfl⟩

omit [DecidableEq CurrencyId] [DecidableEq AccountId] in
theorem trans (h : Audited b b' accounts c gained lost)
    (h' : Audited b' b'' accounts c gained' lost') :
    Audited b b'' accounts c (gained + gained') (lost + lost') where
  held := by
    have := h.held
    have := h'.held
    omega
  issuance := by
    have := h.issuance
    have := h'.issuance
    omega
  others a ha := (h'.others a ha).trans (h.others a ha)

theorem moved (hsource : source ∈ accounts) (hdest : dest ∈ accounts)
    (hcovered : source = dest ∨ n ≤ b.free d source) :
    Audited b (b.moved d source dest n) accounts c 0 0 where
  held := heldBy_moved hsource hdest hcovered
  issuance := rfl
  others a ha := by
    apply free_moved_of_ne_account
    · rintro rfl
      exact ha hsource
    · rintro rfl
      exact ha hdest

theorem paid :
    ∀ {payments : List (Payment CurrencyId AccountId)}
      {b : Book CurrencyId AccountId},
      (∀ p ∈ payments, p.source ∈ accounts ∧ p.dest ∈ accounts) →
      b.Covers payments → Audited b (b.paid payments) accounts c 0 0 := by
  intro payments
  induction payments with
  | nil => exact fun _ _ => refl _ _ _
  | cons p rest ih =>
      intro b hmembers hcovers
      obtain ⟨hsource, hdest⟩ := hmembers p List.mem_cons_self
      have hfirst : Audited b (b.moved p.currency p.source p.dest p.amount)
          accounts c 0 0 :=
        moved hsource hdest hcovers.1
      exact hfirst.trans (ih (fun q hq =>
        hmembers q (List.mem_cons_of_mem p hq)) hcovers.2)

theorem issued (hwho : who ∈ accounts) :
    Audited b (b.issued d who n) accounts c (if c = d then n else 0) 0 where
  held := by
    split_ifs with h
    · subst h
      exact heldBy_issued hwho
    · exact heldBy_congr fun a _ => free_issued_of_ne_currency h
  issuance := by
    split_ifs with h
    · subst h
      rw [issuance_issued_self]
      rfl
    · rw [issuance_issued_of_ne h]
  others a ha := by
    apply free_issued_of_ne_account
    rintro rfl
    exact ha hwho

theorem retired (hwho : who ∈ accounts) (hcovered : n ≤ b.free d who)
    (hissued : b.free d who ≤ b.issuance d) :
    Audited b (b.retired d who n) accounts c 0 (if c = d then n else 0) where
  held := by
    split_ifs with h
    · subst h
      exact heldBy_retired hwho hcovered
    · exact heldBy_congr fun a _ => free_retired_of_ne_currency h
  issuance := by
    split_ifs with h
    · subst h
      rw [issuance_retired_self]
      omega
    · rw [issuance_retired_of_ne h]
  others a ha := by
    apply free_retired_of_ne_account
    rintro rfl
    exact ha hwho

end Audited

omit [DecidableEq CurrencyId] [DecidableEq AccountId] in
/-- What every step of a run passes on to the auditor adds up. -/
theorem audited_runAll {σ α : Type} {step : σ → α → σ} {P : σ → α → Prop}
    {book : σ → Book CurrencyId AccountId} {gains losses : σ → α → ℕ}
    (hstep : ∀ s label, P s label →
      Audited (book s) (book (step s label)) accounts c (gains s label)
        (losses s label)) :
    ∀ (labels : List α) (s : σ), Along step P s labels →
      Audited (book s) (book (runAll step s labels)) accounts c
        (totalAlong step gains s labels) (totalAlong step losses s labels) := by
  intro labels
  induction labels with
  | nil => exact fun s _ => Audited.refl _ _ _
  | cons label rest ih =>
      intro s hall
      exact (hstep s label hall.1).trans (ih (step s label) hall.2)

end Book
end SoraParachain

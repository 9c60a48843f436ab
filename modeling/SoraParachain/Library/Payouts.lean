import SoraParachain.Library.Ledger

/-!
# Payouts against what is retired

An account pays out in two currencies while another account retires some of a
third.  Whether this goes through depends on three checks of the ledger before
it, and so do the checks of the ledger after it.
-/

namespace SoraParachain
namespace MultiCurrency

variable {CurrencyId AccountId : Type}

/-- How the check for a withdrawal relates to withdrawing for good: it decides
whether a withdrawal succeeds, and what is withdrawn adds up with what the
account can still withdraw. -/
structure Retiring (M : MultiCurrency CurrencyId AccountId) : Prop where
  withdraw_iff : ∀ {c who n l},
    (∃ l', M.withdraw c who n l = .ok l') ↔
      M.ensureCanWithdraw c who n l = .ok ()
  ensureCanWithdraw_withdrawn : ∀ {c who n m l l'},
    M.withdraw c who n l = .ok l' →
      (M.ensureCanWithdraw c who m l' = .ok () ↔
        M.ensureCanWithdraw c who (n + m) l = .ok ())
  ensureCanWithdraw_withdraw : ∀ {c d who other n m l l'},
    M.withdraw c other n l = .ok l' → d ≠ c →
      M.ensureCanWithdraw d who m l' = M.ensureCanWithdraw d who m l

variable [DecidableEq CurrencyId] [DecidableEq AccountId]
variable {M : MultiCurrency CurrencyId AccountId} {capacity : ℕ}
variable {c d e : CurrencyId} {payer who : AccountId} {a b k m : ℕ}
variable {l l' : M.Ledger}

/-- Payouts in two currencies leave every check in a third one as it was. -/
theorem Lawful.ensureCanWithdraw_payAll (hM : M.Lawful capacity) (hec : e ≠ c)
    (hed : e ≠ d)
    (hpaid : M.payAll [⟨c, payer, who, a⟩, ⟨d, payer, who, b⟩] l = .ok l')
    (other : AccountId) :
    M.ensureCanWithdraw e other m l' = M.ensureCanWithdraw e other m l := by
  obtain ⟨l₁, hfirst, hrest⟩ := payAll_cons_eq_ok.mp hpaid
  obtain ⟨l₂, hsecond, hnil⟩ := payAll_cons_eq_ok.mp hrest
  cases hnil
  rw [hM.ensureCanWithdraw_transfer hsecond hed,
    hM.ensureCanWithdraw_transfer hfirst hec]

/-- Two payouts succeed exactly when each passes its check. -/
theorem Lawful.payouts_iff (hM : M.Lawful capacity) (hC : M.Checked)
    (hcd : c ≠ d) (hpayer : payer ≠ who) :
    (∃ l', M.payAll [⟨c, payer, who, a⟩, ⟨d, payer, who, b⟩] l = .ok l') ↔
      M.ensureCanWithdraw c payer a l = .ok () ∧
        M.ensureCanWithdraw d payer b l = .ok () := by
  simp only [payAll_cons_eq_ok]
  constructor
  · rintro ⟨l', l₁, hfirst, l₂, hsecond, -⟩
    have hcheck := hC.ensureCanWithdraw_of_transfer hsecond hpayer
    rw [hM.ensureCanWithdraw_transfer hfirst hcd.symm] at hcheck
    exact ⟨hC.ensureCanWithdraw_of_transfer hfirst hpayer, hcheck⟩
  · rintro ⟨hfst, hsnd⟩
    obtain ⟨l₁, hfirst⟩ := hM.transfer_succeeds hfst who
    rw [← hM.ensureCanWithdraw_transfer hfirst hcd.symm] at hsnd
    obtain ⟨l₂, hsecond⟩ := hM.transfer_succeeds hsnd who
    exact ⟨l₂, l₁, hfirst, l₂, hsecond, rfl⟩

/-- After two payouts the payer can still pay what the sums would have passed
the checks for. -/
theorem Lawful.ensureCanWithdraw_paidOut (hM : M.Lawful capacity)
    (hC : M.Checked) (hcd : c ≠ d) (hpayer : payer ≠ who)
    (hpaid : M.payAll [⟨c, payer, who, a⟩, ⟨d, payer, who, b⟩] l = .ok l') :
    (M.ensureCanWithdraw c payer m l' = .ok () ↔
      M.ensureCanWithdraw c payer (a + m) l = .ok ()) ∧
    (M.ensureCanWithdraw d payer m l' = .ok () ↔
      M.ensureCanWithdraw d payer (b + m) l = .ok ()) := by
  obtain ⟨l₁, hfirst, hrest⟩ := payAll_cons_eq_ok.mp hpaid
  obtain ⟨l₂, hsecond, hnil⟩ := payAll_cons_eq_ok.mp hrest
  cases hnil
  constructor
  · rw [hM.ensureCanWithdraw_transfer hsecond hcd]
    exact hC.ensureCanWithdraw_transferred hfirst hpayer
  · rw [hC.ensureCanWithdraw_transferred hsecond hpayer,
      hM.ensureCanWithdraw_transfer hfirst hcd.symm]

/-- A redemption goes through exactly when its three amounts pass their checks
beforehand. -/
theorem Lawful.redemption_iff (hM : M.Lawful capacity) (hC : M.Checked)
    (hR : M.Retiring) (hcd : c ≠ d) (hec : e ≠ c) (hed : e ≠ d)
    (hpayer : payer ≠ who) :
    (∃ l₁ l₂, M.payAll [⟨c, payer, who, a⟩, ⟨d, payer, who, b⟩] l = .ok l₁ ∧
      M.withdraw e who k l₁ = .ok l₂) ↔
      M.ensureCanWithdraw c payer a l = .ok () ∧
        M.ensureCanWithdraw d payer b l = .ok () ∧
          M.ensureCanWithdraw e who k l = .ok () := by
  constructor
  · rintro ⟨l₁, l₂, hpaid, hretired⟩
    obtain ⟨hfst, hsnd⟩ := (hM.payouts_iff hC hcd hpayer).mp ⟨l₁, hpaid⟩
    have hcheck := hR.withdraw_iff.mp ⟨l₂, hretired⟩
    rw [hM.ensureCanWithdraw_payAll hec hed hpaid] at hcheck
    exact ⟨hfst, hsnd, hcheck⟩
  · rintro ⟨hfst, hsnd, hcheck⟩
    obtain ⟨l₁, hpaid⟩ := (hM.payouts_iff hC hcd hpayer).mpr ⟨hfst, hsnd⟩
    rw [← hM.ensureCanWithdraw_payAll hec hed hpaid] at hcheck
    obtain ⟨l₂, hretired⟩ := hR.withdraw_iff.mpr hcheck
    exact ⟨l₁, l₂, hpaid, hretired⟩

/-- What can still be paid out and retired after a redemption. -/
theorem Lawful.redemption_leaves (hM : M.Lawful capacity) (hC : M.Checked)
    (hR : M.Retiring) (hcd : c ≠ d) (hec : e ≠ c) (hed : e ≠ d)
    (hpayer : payer ≠ who) {l₂ : M.Ledger}
    (hpaid : M.payAll [⟨c, payer, who, a⟩, ⟨d, payer, who, b⟩] l = .ok l')
    (hretired : M.withdraw e who k l' = .ok l₂) :
    (M.ensureCanWithdraw c payer m l₂ = .ok () ↔
      M.ensureCanWithdraw c payer (a + m) l = .ok ()) ∧
    (M.ensureCanWithdraw d payer m l₂ = .ok () ↔
      M.ensureCanWithdraw d payer (b + m) l = .ok ()) ∧
    (M.ensureCanWithdraw e who m l₂ = .ok () ↔
      M.ensureCanWithdraw e who (k + m) l = .ok ()) := by
  obtain ⟨hfst, hsnd⟩ := hM.ensureCanWithdraw_paidOut (m := m) hC hcd hpayer hpaid
  refine ⟨?_, ?_, ?_⟩
  · rw [hR.ensureCanWithdraw_withdraw hretired hec.symm]
    exact hfst
  · rw [hR.ensureCanWithdraw_withdraw hretired hed.symm]
    exact hsnd
  · rw [hR.ensureCanWithdraw_withdrawn hretired,
      hM.ensureCanWithdraw_payAll hec hed hpaid]

end MultiCurrency

namespace CoinLedger

variable {CurrencyId AccountId : Type}
variable [DecidableEq CurrencyId] [DecidableEq AccountId] {capacity : ℕ}

/-- A list of coins is checked before it is withdrawn from. -/
theorem currency_retiring :
    (currency CurrencyId AccountId capacity).Retiring where
  withdraw_iff := by
    intro c who n l
    simp only [currency]
    split_ifs with h
    · exact iff_of_true ⟨_, rfl⟩ rfl
    · simp
  ensureCanWithdraw_withdrawn := by
    intro c who n m l l' h
    obtain ⟨hn, hbook⟩ := currency_lawful.withdraw_ok h
    have hcovered : n ≤ (book l.coins).free c who := hn
    have hfree : (book l'.coins).free c who = (book l.coins).free c who - n := by
      have hretired : book l'.coins = (book l.coins).retired c who n := hbook
      rw [hretired, Book.free_retired_self]
    simp only [currency]
    rw [hfree]
    split_ifs with h₁ h₂ h₂
    · exact Iff.rfl
    · omega
    · omega
    · exact Iff.rfl
  ensureCanWithdraw_withdraw := by
    intro c d who other n m l l' h hne
    have hbook : book l'.coins = (book l.coins).retired c other n :=
      (currency_lawful.withdraw_ok h).2
    simp only [currency]
    rw [hbook, Book.free_retired_of_ne_currency hne]

end CoinLedger
end SoraParachain

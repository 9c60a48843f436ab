import SoraParachain.PoolXyk.Math

/-!
# The amounts of a deposit into a pool with reserves

Of two desired amounts one is kept and the other is lowered to the ratio of the
reserves.  The two quotes go in opposite directions and each of them is rounded
twice.  Still a quote that exceeds the desired amount of one asset leaves the
quote for the other asset below what was desired of it.
-/

namespace SoraParachain
namespace PoolXyk

/-- What goes with an amount at the ratio of the reserves, with the product and
the quotient both rounded down. -/
def quoteOf (amount reserve other : ℕ) : ℕ :=
  amount * other / S * S / reserve

/-- No operation of a quote leaves the range of fixed-point balances. -/
structure QuoteFits (amount reserve other : ℕ) : Prop where
  amount_lt : amount < 2 ^ 127
  reserve_lt : reserve < 2 ^ 127
  other_lt : other < 2 ^ 127
  product_lt : amount * other / S < 2 ^ 127
  quote_lt : quoteOf amount reserve other < 2 ^ 127

variable {reserveA reserveB a b aMin bMin : ℕ}

theorem calculateQuote_of_fits (h : QuoteFits a reserveA reserveB)
    (hpos : 0 < reserveA) :
    calculateQuote a reserveA reserveB = .ok (quoteOf a reserveA reserveB) :=
  calculateQuote_eq_ok.mpr ⟨h.amount_lt, h.reserve_lt, h.other_lt, hpos,
    h.product_lt, rfl, h.quote_lt⟩

/-- Both roundings favour the pool. -/
theorem quoteOf_mul_le (amount reserve other : ℕ) :
    quoteOf amount reserve other * reserve ≤ amount * other := by
  calc
    quoteOf amount reserve other * reserve ≤ amount * other / S * S :=
      Nat.div_mul_le_self _ _
    _ ≤ amount * other := Nat.div_mul_le_self _ _

/-- If the first asset would need more than `b` of the second one, then `b`
needs less than `a` of the first one. -/
theorem quoteOf_lt_of_lt_quoteOf
    (h : b < quoteOf a reserveA reserveB) :
    quoteOf b reserveB reserveA < a := by
  have hforth := quoteOf_mul_le a reserveA reserveB
  have hback := quoteOf_mul_le b reserveB reserveA
  have hA : 0 < reserveA := by
    rcases Nat.eq_zero_or_pos reserveA with hzero | hpos
    · rw [hzero, quoteOf, Nat.div_zero] at h
      omega
    · exact hpos
  have hscaled : quoteOf b reserveB reserveA * reserveB < a * reserveB :=
    calc
      quoteOf b reserveB reserveA * reserveB ≤ b * reserveA := hback
      _ < quoteOf a reserveA reserveB * reserveA :=
        Nat.mul_lt_mul_of_pos_right h hA
      _ ≤ a * reserveB := hforth
  exact lt_of_mul_lt_mul_right hscaled (Nat.zero_le _)

/-- The amounts stay within the ranges that were asked for, one of them is the
desired one and the other is its quote; and the deposit is refused only because
the amount that has to be lowered would fall below its minimum. -/
theorem optimal_deposit_within_ranges (hA : 0 < reserveA) (hB : 0 < reserveB)
    (hfitsA : QuoteFits a reserveA reserveB)
    (hfitsB : QuoteFits b reserveB reserveA)
    (haMin : aMin ≤ a) (hbMin : bMin ≤ b) :
    ((∃ a' b', calculateOptimalDeposit reserveA reserveB a b aMin bMin =
          .ok (a', b') ∧
        (aMin ≤ a' ∧ a' ≤ a) ∧ (bMin ≤ b' ∧ b' ≤ b) ∧
        (a' = a ∧ b' = quoteOf a reserveA reserveB ∨
          b' = b ∧ a' = quoteOf b reserveB reserveA)) ∨
      ∃ e, calculateOptimalDeposit reserveA reserveB a b aMin bMin =
          .error e ∧
        (quoteOf a reserveA reserveB ≤ b ∧
            quoteOf a reserveA reserveB < bMin ∨
          b < quoteOf a reserveA reserveB ∧
            quoteOf b reserveB reserveA < aMin)) ∧
      (b < quoteOf a reserveA reserveB → quoteOf b reserveB reserveA ≤ a) := by
  refine ⟨?_, fun h => (quoteOf_lt_of_lt_quoteOf h).le⟩
  have hqa := calculateQuote_of_fits hfitsA hA
  have hqb := calculateQuote_of_fits hfitsB hB
  cases hres : calculateOptimalDeposit reserveA reserveB a b aMin bMin with
  | ok amounts =>
      obtain ⟨a', b'⟩ := amounts
      obtain ⟨qb, qa, hqb', hqa', hcase⟩ :=
        calculateOptimalDeposit_eq_ok.mp hres
      cases hqa.symm.trans hqa'
      cases hqb.symm.trans hqb'
      rcases hcase with ⟨hle, hmin, rfl, rfl⟩ | ⟨-, hmin, hmax, rfl, rfl⟩
      · exact Or.inl ⟨_, _, rfl, ⟨haMin, le_rfl⟩, ⟨hmin, hle⟩,
          Or.inl ⟨rfl, rfl⟩⟩
      · exact Or.inl ⟨_, _, rfl, ⟨hmin, hmax⟩, ⟨hbMin, le_rfl⟩,
          Or.inr ⟨rfl, rfl⟩⟩
  | error e =>
      refine Or.inr ⟨e, rfl, ?_⟩
      by_contra hrange
      -- with both minima respected one of the branches would have been taken
      have hok : ∃ a' b',
          calculateOptimalDeposit reserveA reserveB a b aMin bMin =
            .ok (a', b') := by
        by_cases hle : quoteOf a reserveA reserveB ≤ b
        · have hmin : bMin ≤ quoteOf a reserveA reserveB := by
            by_contra hlt
            exact hrange (Or.inl ⟨hle, not_le.mp hlt⟩)
          exact ⟨_, _, calculateOptimalDeposit_eq_ok.mpr ⟨_, _, hqb, hqa,
            Or.inl ⟨hle, hmin, rfl, rfl⟩⟩⟩
        · have hgt := not_le.mp hle
          have hmin : aMin ≤ quoteOf b reserveB reserveA := by
            by_contra hlt
            exact hrange (Or.inr ⟨hgt, not_le.mp hlt⟩)
          exact ⟨_, _, calculateOptimalDeposit_eq_ok.mpr ⟨_, _, hqb, hqa,
            Or.inr ⟨hgt, hmin, (quoteOf_lt_of_lt_quoteOf hgt).le, rfl, rfl⟩⟩⟩
      obtain ⟨a', b', hok⟩ := hok
      rw [hres] at hok
      cases hok

/-- A pool with two units of the second asset for each five of the first one. -/
theorem optimal_deposit_within_ranges_sample :
    ((∃ a' b', calculateOptimalDeposit (balance 360) (balance 144) (balance 5)
          (balance 1) 0 0 = .ok (a', b') ∧
        (0 ≤ a' ∧ a' ≤ balance 5) ∧ (0 ≤ b' ∧ b' ≤ balance 1) ∧
        (a' = balance 5 ∧
            b' = quoteOf (balance 5) (balance 360) (balance 144) ∨
          b' = balance 1 ∧
            a' = quoteOf (balance 1) (balance 144) (balance 360))) ∨
      ∃ e, calculateOptimalDeposit (balance 360) (balance 144) (balance 5)
          (balance 1) 0 0 = .error e ∧
        (quoteOf (balance 5) (balance 360) (balance 144) ≤ balance 1 ∧
            quoteOf (balance 5) (balance 360) (balance 144) < 0 ∨
          balance 1 < quoteOf (balance 5) (balance 360) (balance 144) ∧
            quoteOf (balance 1) (balance 144) (balance 360) < 0)) ∧
      (balance 1 < quoteOf (balance 5) (balance 360) (balance 144) →
        quoteOf (balance 1) (balance 144) (balance 360) ≤ balance 5) :=
  optimal_deposit_within_ranges (by decide) (by decide)
    ⟨by decide, by decide, by decide, by decide, by decide⟩
    ⟨by decide, by decide, by decide, by decide, by decide⟩ (by decide)
    (by decide)

end PoolXyk
end SoraParachain

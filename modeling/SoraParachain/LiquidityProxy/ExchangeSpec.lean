import SoraParachain.LiquidityProxy.Trades

/-!
# What an exchange does along its path

A direct exchange is a single exchange.  An exchange through the base asset first
decides on its input, which is given or priced backwards, and then makes two single
exchanges of everything that it has.
-/

namespace SoraParachain
namespace LiquidityProxy

variable {T : Config} {P : ProxyConfig T} {E : Sources P}
  {sender receiver : T.AccountId}
  {inputAssetId outputAssetId intermediateAssetId : T.AssetId}
  {amount : SwapAmount} {filter : LiquiditySourceFilter T.DEXId}
  {s s' : ChainOf P} {outcome : SwapOutcome}

/-- One of the two assets is the base asset. -/
def IsDirect (T : Config) (inputAssetId outputAssetId : T.AssetId) : Prop :=
  inputAssetId = T.getBaseAssetId ∨ outputAssetId = T.getBaseAssetId

instance : Decidable (IsDirect T inputAssetId outputAssetId) :=
  inferInstanceAs (Decidable (_ ∨ _))

theorem constructTrivialPath_of_direct
    (h : IsDirect T inputAssetId outputAssetId) :
    constructTrivialPath inputAssetId outputAssetId =
      (.direct inputAssetId outputAssetId : ExchangePath T) :=
  if_pos h

theorem constructTrivialPath_of_not_direct
    (h : ¬IsDirect T inputAssetId outputAssetId) :
    constructTrivialPath inputAssetId outputAssetId =
      (.twofold inputAssetId T.getBaseAssetId outputAssetId :
        ExchangePath T) :=
  if_neg h

/-- The input of an exchange through another asset: the given one, or the one
that is priced backwards from the desired output. -/
def twofoldInput (P : ProxyConfig T) (s : ChainOf P)
    (inputAssetId intermediateAssetId outputAssetId : T.AssetId)
    (amount : SwapAmount) (filter : LiquiditySourceFilter T.DEXId) : Result ℕ :=
  match amount with
  | .withDesiredInput desiredAmountIn _ => .ok desiredAmountIn
  | .withDesiredOutput desiredAmountOut maxAmountIn => do
      let secondQuote ← quoteSingle P s intermediateAssetId outputAssetId
        (.withDesiredOutput desiredAmountOut maxBalance) filter
      let firstQuote ← quoteSingle P s inputAssetId intermediateAssetId
        (.withDesiredOutput secondQuote.amount maxBalance) filter
      ensure (firstQuote.amount ≤ maxAmountIn)
        (proxyError .slippageNotTolerated)
      pure firstQuote.amount

/-- An input is priced backwards over both steps and checked against the
limit. -/
theorem twofoldInput_output_eq_ok {desiredAmountOut maxAmountIn input : ℕ} :
    twofoldInput P s inputAssetId intermediateAssetId outputAssetId
        (.withDesiredOutput desiredAmountOut maxAmountIn) filter = .ok input ↔
      ∃ second first,
        quoteSingle P s intermediateAssetId outputAssetId
          (.withDesiredOutput desiredAmountOut maxBalance) filter =
            .ok second ∧
        quoteSingle P s inputAssetId intermediateAssetId
          (.withDesiredOutput second.amount maxBalance) filter = .ok first ∧
        first.amount ≤ maxAmountIn ∧ input = first.amount := by
  rw [twofoldInput, Tx.except_bind_eq_ok]
  constructor
  · intro h
    obtain ⟨second, hsecond, h⟩ := h
    obtain ⟨first, hfirst, h⟩ := Tx.except_bind_eq_ok.mp h
    obtain ⟨_, hcheck, h⟩ := Tx.except_bind_eq_ok.mp h
    exact ⟨second, first, hsecond, hfirst, ensure_eq_ok.mp hcheck,
      (Except.ok.inj h).symm⟩
  · intro h
    obtain ⟨second, first, hsecond, hfirst, hle, rfl⟩ := h
    refine ⟨second, hsecond, Tx.except_bind_eq_ok.mpr ⟨first, hfirst, ?_⟩⟩
    exact Tx.except_bind_eq_ok.mpr ⟨(), ensure_eq_ok.mpr hle, rfl⟩

/-- An input that is priced backwards is within the limit. -/
theorem twofoldInput_le {desiredAmountOut maxAmountIn input : ℕ}
    (h : twofoldInput P s inputAssetId intermediateAssetId outputAssetId
      (.withDesiredOutput desiredAmountOut maxAmountIn) filter = .ok input) :
    input ≤ maxAmountIn := by
  obtain ⟨second, first, -, -, hle, rfl⟩ := twofoldInput_output_eq_ok.mp h
  exact hle

/-- What an exchange through another asset makes sure of after its second step. -/
def FinalCheck (amount : SwapAmount) (second : SwapOutcome) : Prop :=
  match amount with
  | .withDesiredInput _ minAmountOut => minAmountOut ≤ second.amount
  | .withDesiredOutput _ _ => True

/-- The amount that an exchange through another asset returns. -/
def twofoldAmount (amount : SwapAmount) (input : ℕ) (second : SwapOutcome) : ℕ :=
  match amount with
  | .withDesiredInput _ _ => second.amount
  | .withDesiredOutput _ _ => input

theorem run_exchangeForward_eq_ok {desiredAmountIn : ℕ}
    {first second : SwapOutcome} :
    (exchangeForward P E sender receiver inputAssetId intermediateAssetId
        outputAssetId desiredAmountIn filter).run s = (.ok (first, second), s') ↔
      ∃ s₁,
        (exchangeSingle P E sender P.getTechnicalAccountId inputAssetId
          intermediateAssetId (.withDesiredInput desiredAmountIn 0) filter).run s
            = (.ok first, s₁) ∧
        (exchangeSingle P E P.getTechnicalAccountId receiver
          intermediateAssetId outputAssetId (.withDesiredInput first.amount 0)
          filter).run s₁ = (.ok second, s') := by
  rw [exchangeForward, Tx.run_bind_eq_ok]
  constructor
  · intro h
    obtain ⟨first', s₁, hfirst, h⟩ := h
    obtain ⟨second', s₂, hsecond, h⟩ := Tx.run_bind_eq_ok.mp h
    cases h
    exact ⟨s₁, hfirst, hsecond⟩
  · intro h
    obtain ⟨s₁, hfirst, hsecond⟩ := h
    exact ⟨first, s₁, hfirst,
      Tx.run_bind_eq_ok.mpr ⟨second, s', hsecond, rfl⟩⟩

/-- Both steps credit what the second one returns. -/
theorem exchangeForward_credits (hE : Credits E SwapAmount.IsDesiredInput)
    (hassets : MovesOnlyItsAssets E receiver) {desiredAmountIn : ℕ}
    {first second : SwapOutcome} (hin : outputAssetId ≠ inputAssetId)
    (hintermediate : outputAssetId ≠ intermediateAssetId)
    (h : (exchangeForward P E sender receiver inputAssetId intermediateAssetId
      outputAssetId desiredAmountIn filter).run s = (.ok (first, second), s')) :
    s'.free outputAssetId receiver =
      s.free outputAssetId receiver + second.amount := by
  obtain ⟨s₁, hfirst, hsecond⟩ := run_exchangeForward_eq_ok.mp h
  rw [exchangeSingle_credits hE hsecond,
    exchangeSingle_free_of_ne hassets hfirst hin hintermediate]

/-- Both steps debit no more than the input. -/
theorem exchangeForward_debits_le (hE : Debits E SwapAmount.IsDesiredInput)
    (hassets : MovesOnlyItsAssets E sender) {desiredAmountIn : ℕ}
    {first second : SwapOutcome} (hout : inputAssetId ≠ outputAssetId)
    (hintermediate : inputAssetId ≠ intermediateAssetId)
    (h : (exchangeForward P E sender receiver inputAssetId intermediateAssetId
      outputAssetId desiredAmountIn filter).run s = (.ok (first, second), s')) :
    s.free inputAssetId sender ≤
      s'.free inputAssetId sender + desiredAmountIn := by
  obtain ⟨s₁, hfirst, hsecond⟩ := run_exchangeForward_eq_ok.mp h
  obtain ⟨plan, hplan, hdebit⟩ := exchangeSingle_debits hE hfirst
  have hle : flooredSum fixedFormat.scale desiredAmountIn
      (shareBits plan.distribution) ≤ desiredAmountIn :=
    flooredSum_le fixedFormat.scale_pos (sum_shareBits_quoteSingle hplan)
  rw [exchangeSingle_free_of_ne hassets hsecond hintermediate hout, ← hdebit]
  exact Nat.add_le_add_left hle _

theorem checkedAdd_eq_ok {a b n : ℕ} :
    checkedAdd a b = .ok n ↔ n = a + b ∧ a + b < balanceModulus := by
  unfold checkedAdd
  split_ifs with h
  · rw [Except.ok.injEq, eq_comm]
    exact ⟨fun hn => ⟨hn, h⟩, fun hn => hn.1⟩
  · constructor
    · intro hn
      cases hn
    · intro hn
      exact absurd hn.2 h

/-- An exchange through another asset ends when the fees of its steps add up. -/
theorem run_addFees_eq_ok {n : ℕ} {first second : SwapOutcome} :
    (do
      let cumulativeFee ← checkedAdd first.fee second.fee
      pure ⟨n, cumulativeFee⟩ : ProxyExec P SwapOutcome).run s =
        (.ok outcome, s') ↔
      s' = s ∧ first.fee + second.fee < balanceModulus ∧
        outcome = ⟨n, first.fee + second.fee⟩ := by
  rw [Tx.run_bind_eq_ok]
  constructor
  · intro h
    obtain ⟨fee, s₁, hadd, h⟩ := h
    obtain ⟨hsum, hs₁⟩ := Tx.run_liftM_eq_ok.mp hadd
    obtain ⟨hfee, hlt⟩ := checkedAdd_eq_ok.mp hsum
    cases h
    exact ⟨hs₁.symm, hlt, by rw [hfee]⟩
  · intro h
    obtain ⟨rfl, hlt, rfl⟩ := h
    exact ⟨_, s', Tx.run_liftM_eq_ok.mpr
      ⟨checkedAdd_eq_ok.mpr ⟨rfl, hlt⟩, rfl⟩, rfl⟩

/-- An exchange through another asset succeeds exactly when its input is found,
both steps succeed, the final check passes and the fees add up. -/
theorem run_exchangeTwofold_eq_ok :
    (exchangeTwofold P E sender receiver inputAssetId intermediateAssetId
        outputAssetId amount filter).run s = (.ok outcome, s') ↔
      ∃ input first second,
        twofoldInput P s inputAssetId intermediateAssetId outputAssetId amount
          filter = .ok input ∧
        (exchangeForward P E sender receiver inputAssetId intermediateAssetId
          outputAssetId input filter).run s = (.ok (first, second), s') ∧
        FinalCheck amount second ∧
        first.fee + second.fee < balanceModulus ∧
        outcome =
          ⟨twofoldAmount amount input second, first.fee + second.fee⟩ := by
  cases amount with
  | withDesiredInput d m =>
      rw [exchangeTwofold, Tx.run_bind_eq_ok]
      constructor
      · intro h
        obtain ⟨swaps, s₁, hswaps, h⟩ := h
        obtain ⟨_, s₂, hensure, h⟩ := Tx.run_bind_eq_ok.mp h
        obtain ⟨hcheck, hs₂⟩ := Tx.run_liftM_eq_ok.mp hensure
        obtain ⟨hs', hfee, houtcome⟩ := run_addFees_eq_ok.mp h
        rw [hs₂, ← hs'] at hswaps
        have hmin : m ≤ swaps.2.amount := ensure_eq_ok.mp hcheck
        exact ⟨d, swaps.1, swaps.2, rfl, hswaps, hmin, hfee, houtcome⟩
      · intro h
        obtain ⟨input, first, second, hinput, hswaps, hcheck, hfee, rfl⟩ := h
        cases hinput
        have hmin : m ≤ second.amount := hcheck
        refine ⟨(first, second), s', hswaps, ?_⟩
        refine Tx.run_bind_eq_ok.mpr ⟨(), s', Tx.run_liftM_eq_ok.mpr
          ⟨ensure_eq_ok.mpr hmin, rfl⟩, ?_⟩
        exact run_addFees_eq_ok.mpr ⟨rfl, hfee, rfl⟩
  | withDesiredOutput d m =>
      rw [exchangeTwofold, Tx.run_bind_eq_ok]
      constructor
      · intro h
        obtain ⟨second, s₁, hread, h⟩ := h
        obtain ⟨hsecond, hs₁⟩ := Tx.run_reads_eq_ok.mp hread
        subst hs₁
        obtain ⟨first, s₂, hread, h⟩ := Tx.run_bind_eq_ok.mp h
        obtain ⟨hfirst, hs₂⟩ := Tx.run_reads_eq_ok.mp hread
        subst hs₂
        obtain ⟨_, s₃, hensure, h⟩ := Tx.run_bind_eq_ok.mp h
        obtain ⟨hcheck, hs₃⟩ := Tx.run_liftM_eq_ok.mp hensure
        subst hs₃
        obtain ⟨swaps, s₄, hswaps, h⟩ := Tx.run_bind_eq_ok.mp h
        obtain ⟨hs', hfee, houtcome⟩ := run_addFees_eq_ok.mp h
        rw [← hs'] at hswaps
        have hinput := twofoldInput_output_eq_ok.mpr
          ⟨second, first, hsecond, hfirst, ensure_eq_ok.mp hcheck, rfl⟩
        exact ⟨first.amount, swaps.1, swaps.2, hinput, hswaps, trivial, hfee,
          houtcome⟩
      · intro h
        obtain ⟨input, first, second, hinput, hswaps, -, hfee, rfl⟩ := h
        obtain ⟨secondQuote, firstQuote, hsecond, hfirst, hle, rfl⟩ :=
          twofoldInput_output_eq_ok.mp hinput
        refine ⟨secondQuote, s, Tx.run_reads_eq_ok.mpr ⟨hsecond, rfl⟩, ?_⟩
        refine Tx.run_bind_eq_ok.mpr
          ⟨firstQuote, s, Tx.run_reads_eq_ok.mpr ⟨hfirst, rfl⟩, ?_⟩
        rw [Tx.run_bind_of_ok (Tx.run_liftM_eq_ok.mpr
            ⟨ensure_eq_ok (u := ()).mpr hle, rfl⟩),
          Tx.run_bind_of_ok hswaps]
        exact run_addFees_eq_ok.mpr ⟨rfl, hfee, rfl⟩

/-- An exchange succeeds exactly when the assets differ and its path does. -/
theorem run_exchange_eq_ok :
    (exchange P E sender receiver inputAssetId outputAssetId amount filter).run s
        = (.ok outcome, s') ↔
      inputAssetId ≠ outputAssetId ∧
        (IsDirect T inputAssetId outputAssetId →
          (exchangeSingle P E sender receiver inputAssetId outputAssetId amount
            filter).run s = (.ok outcome, s')) ∧
        (¬IsDirect T inputAssetId outputAssetId →
          (exchangeTwofold P E sender receiver inputAssetId T.getBaseAssetId
            outputAssetId amount filter).run s = (.ok outcome, s')) := by
  rw [exchange, Tx.run_bind_eq_ok]
  constructor
  · intro h
    obtain ⟨_, s₁, hensure, h⟩ := h
    obtain ⟨hcheck, hs₁⟩ := Tx.run_liftM_eq_ok.mp hensure
    subst hs₁
    have hne := ensure_eq_ok.mp hcheck
    rw [Tx.run_withTransaction_eq_ok] at h
    refine ⟨hne, ?_, ?_⟩
    · intro hdirect
      rw [constructTrivialPath_of_direct hdirect] at h
      exact h
    · intro hdirect
      rw [constructTrivialPath_of_not_direct hdirect] at h
      exact h
  · intro h
    obtain ⟨hne, hdirect, htwofold⟩ := h
    refine ⟨(), s, Tx.run_liftM_eq_ok.mpr ⟨ensure_eq_ok.mpr hne, rfl⟩, ?_⟩
    rw [Tx.run_withTransaction_eq_ok]
    by_cases hpath : IsDirect T inputAssetId outputAssetId
    · rw [constructTrivialPath_of_direct hpath]
      exact hdirect hpath
    · rw [constructTrivialPath_of_not_direct hpath]
      exact htwofold hpath

end LiquidityProxy
end SoraParachain

import SoraParachain.Library.ConstantProduct
import SoraParachain.Mock
import SoraParachain.PoolXyk.Books

/-!
# What an exchange costs and pays

An exchange is settled by three transfers between the sender, the receiver, the
pool and its fee account.  The amounts of the transfers are followed from the
formulas to the balances of each party.
-/

namespace SoraParachain
namespace PoolXyk

variable {T : Config} {s s' : Storage T}
variable {dexId : T.DEXId} {inputAssetId outputAssetId : T.AssetId}
variable {sender receiver w : T.AccountId} {techAcc : TechAccountIdOf T}

open Technical (techAccountIdToAccountId)

/-! ## The terms of an exchange -/

/-- The side of the fee of an exchange, decided by its direction. -/
theorem feeFromDestination_exchangeAction (swapAmount : SwapAmount) :
    (exchangeAction receiver techAcc inputAssetId outputAssetId
      swapAmount).feeFromDestination =
        decideIsFeeFromDestination inputAssetId outputAssetId := rfl

theorem exactInput_terms {desiredIn minOut : ℕ} {t : PairSwapAction.Terms T}
    (h : PairSwapAction.Agreed s (exchangeAction receiver techAcc inputAssetId
      outputAssetId (.withDesiredInput desiredIn minOut)) w t) :
    t.amountIn = desiredIn ∧ minOut ≤ t.amountOut ∧
      calcOutputForExactInput
        (decideIsFeeFromDestination inputAssetId outputAssetId)
        (s.free inputAssetId (techAccountIdToAccountId techAcc))
        (s.free outputAssetId (techAccountIdToAccountId techAcc)) desiredIn =
          .ok (t.amountOut, t.fee) := by
  obtain ⟨recomFee, hamounts, ⟨-, hfee⟩ | ⟨hfee, -⟩⟩ := h.amounts
  · have hin := h.amountIn
    have hout := h.amountOut
    obtain ⟨_, -, hamounts⟩ := Tx.except_bind_eq_ok.mp hamounts
    obtain ⟨⟨out, fee⟩, hcalc, hamounts⟩ := Tx.except_bind_eq_ok.mp hamounts
    obtain ⟨_, hmin, hamounts⟩ := Tx.except_bind_eq_ok.mp hamounts
    simp only [pure, Except.pure, Except.ok.injEq, Prod.mk.injEq] at hamounts
    obtain ⟨hsource, hdest, hrecom⟩ := hamounts
    rw [← hsource] at hin
    rw [← hdest] at hout
    cases hin
    cases hout
    rw [hfee, ← hrecom]
    exact ⟨rfl, ensure_eq_ok.mp hmin, hcalc⟩
  · cases hfee

theorem exactOutput_terms {desiredOut maxIn : ℕ} {t : PairSwapAction.Terms T}
    (h : PairSwapAction.Agreed s (exchangeAction receiver techAcc inputAssetId
      outputAssetId (.withDesiredOutput desiredOut maxIn)) w t) :
    t.amountOut = desiredOut ∧ t.amountIn ≤ maxIn ∧
      calcInputForExactOutput
        (decideIsFeeFromDestination inputAssetId outputAssetId)
        (s.free inputAssetId (techAccountIdToAccountId techAcc))
        (s.free outputAssetId (techAccountIdToAccountId techAcc)) desiredOut =
          .ok (t.amountIn, t.fee) := by
  obtain ⟨recomFee, hamounts, ⟨-, hfee⟩ | ⟨hfee, -⟩⟩ := h.amounts
  · have hin := h.amountIn
    have hout := h.amountOut
    obtain ⟨_, -, hamounts⟩ := Tx.except_bind_eq_ok.mp hamounts
    obtain ⟨⟨amountIn, fee⟩, hcalc, hamounts⟩ :=
      Tx.except_bind_eq_ok.mp hamounts
    obtain ⟨_, hmax, hamounts⟩ := Tx.except_bind_eq_ok.mp hamounts
    simp only [pure, Except.pure, Except.ok.injEq, Prod.mk.injEq] at hamounts
    obtain ⟨hsource, hdest, hrecom⟩ := hamounts
    rw [← hsource] at hin
    rw [← hdest] at hout
    cases hin
    cases hout
    rw [hfee, ← hrecom]
    exact ⟨rfl, ensure_eq_ok.mp hmax, hcalc⟩
  · cases hfee

/-- The fee is part of the amount on its side. -/
theorem fee_le_of_exchange {swapAmount : SwapAmount}
    {t : PairSwapAction.Terms T}
    (h : PairSwapAction.Agreed s (exchangeAction receiver techAcc inputAssetId
      outputAssetId swapAmount) w t) :
    (decideIsFeeFromDestination inputAssetId outputAssetId = true →
        t.fee ≤ t.amountOut) ∧
      (decideIsFeeFromDestination inputAssetId outputAssetId = false →
        t.fee ≤ t.amountIn) := by
  have hx := h.sourceReserve
  cases swapAmount with
  | withDesiredInput desiredIn minOut =>
      obtain ⟨hin, -, hcalc⟩ := exactInput_terms h
      constructor
      · intro hside
        rw [hside] at hcalc
        obtain ⟨-, -, -, -, -, -, -, hfee⟩ :=
          calcOutputForExactInput_destination.mp hcalc
        omega
      · intro hside
        rw [hside] at hcalc
        obtain ⟨-, hfee, -⟩ := calcOutputForExactInput_source.mp hcalc
        omega
  | withDesiredOutput desiredOut maxIn =>
      obtain ⟨hout, -, hcalc⟩ := exactOutput_terms h
      constructor
      · intro hside
        rw [hside] at hcalc
        obtain ⟨-, -, -, -, hfee⟩ :=
          calcInputForExactOutput_destination hx hcalc
        omega
      · intro hside
        rw [hside] at hcalc
        obtain ⟨-, -, -, -, -, -, hfee⟩ := calcInputForExactOutput_source hcalc
        omega

/-! ## The balances after an exchange -/

/-- The account is neither the pool nor its fee account. -/
structure Outsider (techAcc : TechAccountIdOf T) (who : T.AccountId) :
    Prop where
  ne_pool : techAccountIdToAccountId techAcc ≠ who
  ne_fee : ∀ feeAcc, techAcc.toFeeAccount = some feeAcc →
    techAccountIdToAccountId feeAcc ≠ who

theorem outsider_of_signer (who : Signer T) (techAcc : TechAccountIdOf T) :
    Outsider techAcc who.account :=
  ⟨who.notTechnical techAcc, fun feeAcc _ => who.notTechnical feeAcc⟩

/-- What leaves the sender, what reaches the receiver and what an exchange
does to the reserves. -/
structure Exchanged (s s' : Storage T) (techAcc : TechAccountIdOf T)
    (inputAssetId outputAssetId : T.AssetId) (sender receiver : T.AccountId)
    (t : PairSwapAction.Terms T) : Prop where
  debited : s'.free inputAssetId sender + t.amountIn =
    s.free inputAssetId sender
  credited : s'.free outputAssetId receiver =
    s.free outputAssetId receiver +
      if decideIsFeeFromDestination inputAssetId outputAssetId then
        t.amountOut - t.fee
      else t.amountOut
  gained : s.free inputAssetId (techAccountIdToAccountId techAcc) +
    (if decideIsFeeFromDestination inputAssetId outputAssetId then t.amountIn
      else t.amountIn - t.fee) ≤
    s'.free inputAssetId (techAccountIdToAccountId techAcc)
  paid : s.free outputAssetId (techAccountIdToAccountId techAcc) ≤
    s'.free outputAssetId (techAccountIdToAccountId techAcc) + t.amountOut

/-- The moves of an exchange whose fee is taken from the output. -/
theorem exchanged_of_fee_from_destination {t : PairSwapAction.Terms T}
    {fee : T.AccountId} (hne : inputAssetId ≠ outputAssetId)
    (hside : decideIsFeeFromDestination inputAssetId outputAssetId = true)
    (hsender : techAccountIdToAccountId techAcc ≠ sender)
    (hreceiver : techAccountIdToAccountId techAcc ≠ receiver)
    (hfee : fee ≠ receiver) (hle : t.fee ≤ t.amountOut)
    (hcovered : t.amountIn ≤ s.free inputAssetId sender)
    (hbook : s'.book =
      ((s.book.moved inputAssetId sender (techAccountIdToAccountId techAcc)
        t.amountIn).moved outputAssetId (techAccountIdToAccountId techAcc) fee
          t.fee).moved outputAssetId (techAccountIdToAccountId techAcc)
            receiver (t.amountOut - t.fee)) :
    Exchanged s s' techAcc inputAssetId outputAssetId sender receiver t := by
  have hin : ∀ who, s'.free inputAssetId who =
      (s.book.moved inputAssetId sender (techAccountIdToAccountId techAcc)
        t.amountIn).free inputAssetId who := by
    intro who
    rw [Storage.free, hbook, Book.free_moved_of_ne_currency hne,
      Book.free_moved_of_ne_currency hne]
  refine ⟨?_, ?_, ?_, ?_⟩
  · rw [hin, Book.free_moved_source hsender.symm]
    exact Nat.sub_add_cancel hcovered
  · rw [if_pos hside, Storage.free, hbook, Book.free_moved_dest hreceiver,
      Book.free_moved_of_ne_account hreceiver.symm hfee.symm,
      Book.free_moved_of_ne_currency hne.symm]
    rfl
  · rw [if_pos hside, hin, Book.free_moved_dest hsender.symm]
    exact le_rfl
  · have hpool : s.free outputAssetId (techAccountIdToAccountId techAcc) ≤
        ((s.book.moved inputAssetId sender (techAccountIdToAccountId techAcc)
          t.amountIn).moved outputAssetId (techAccountIdToAccountId techAcc)
            fee t.fee).free outputAssetId (techAccountIdToAccountId techAcc) +
              t.fee := by
      by_cases hself : techAccountIdToAccountId techAcc = fee
      · rw [← hself, Book.free_moved_self,
          Book.free_moved_of_ne_currency hne.symm]
        exact Nat.le_add_right _ _
      · rw [Book.free_moved_source hself,
          Book.free_moved_of_ne_currency hne.symm]
        exact le_tsub_add
    rw [Storage.free, Storage.free, hbook, Book.free_moved_source hreceiver]
    rw [Storage.free] at hpool
    omega

/-- The moves of an exchange whose fee is taken from the input. -/
theorem exchanged_of_fee_from_source {t : PairSwapAction.Terms T}
    {fee : T.AccountId} (hne : inputAssetId ≠ outputAssetId)
    (hside : decideIsFeeFromDestination inputAssetId outputAssetId = false)
    (hsender : techAccountIdToAccountId techAcc ≠ sender)
    (hreceiver : techAccountIdToAccountId techAcc ≠ receiver)
    (hfee : fee ≠ sender) (hle : t.fee ≤ t.amountIn)
    (hcovered : t.amountIn ≤ s.free inputAssetId sender)
    (hbook : s'.book =
      ((s.book.moved inputAssetId sender (techAccountIdToAccountId techAcc)
        (t.amountIn - t.fee)).moved inputAssetId sender fee t.fee).moved
          outputAssetId (techAccountIdToAccountId techAcc) receiver
            t.amountOut) :
    Exchanged s s' techAcc inputAssetId outputAssetId sender receiver t := by
  refine ⟨?_, ?_, ?_, ?_⟩
  · rw [Storage.free, hbook, Book.free_moved_of_ne_currency hne,
      Book.free_moved_source hfee.symm, Book.free_moved_source hsender.symm]
    rw [Storage.free] at hcovered ⊢
    omega
  · rw [if_neg (by simp [hside]), Storage.free, hbook,
      Book.free_moved_dest hreceiver, Book.free_moved_of_ne_currency hne.symm,
      Book.free_moved_of_ne_currency hne.symm]
    rfl
  · rw [if_neg (by simp [hside]), Storage.free, Storage.free, hbook,
      Book.free_moved_of_ne_currency hne]
    calc
      s.book.free inputAssetId (techAccountIdToAccountId techAcc) +
          (t.amountIn - t.fee) =
          (s.book.moved inputAssetId sender (techAccountIdToAccountId techAcc)
            (t.amountIn - t.fee)).free inputAssetId
              (techAccountIdToAccountId techAcc) :=
        (Book.free_moved_dest hsender.symm).symm
      _ ≤ _ := Book.free_le_free_moved hsender
  · rw [Storage.free, Storage.free, hbook, Book.free_moved_source hreceiver,
      Book.free_moved_of_ne_currency hne.symm,
      Book.free_moved_of_ne_currency hne.symm]
    exact le_tsub_add

theorem exchanged_of_settles (hM : T.currency.Lawful balanceModulus)
    {swapAmount : SwapAmount} {t : PairSwapAction.Terms T}
    {l : T.currency.Ledger} (hne : inputAssetId ≠ outputAssetId)
    (hsender : Outsider techAcc sender) (hreceiver : Outsider techAcc receiver)
    (h : (exchangeAction receiver techAcc inputAssetId outputAssetId
      swapAmount).Settles s sender t l)
    (hbook : s'.book = T.currency.book l) :
    Exchanged s s' techAcc inputAssetId outputAssetId sender receiver t := by
  obtain ⟨-, hpaid⟩ := h.book hM
  obtain ⟨hdest, hsource⟩ := fee_le_of_exchange h.agreed
  have hcovered := h.agreed.sourceCovered
  have hfeeAcc := h.agreed.feeAccount
  rw [hpaid, PairSwapAction.payments, feeFromDestination_exchangeAction]
    at hbook
  cases hside : decideIsFeeFromDestination inputAssetId outputAssetId with
  | true =>
      rw [hside, if_pos rfl, wrappingSub_of_le (hdest hside)] at hbook
      exact exchanged_of_fee_from_destination hne hside hsender.ne_pool
        hreceiver.ne_pool (hreceiver.ne_fee t.feeAccount hfeeAcc) (hdest hside)
        hcovered hbook
  | false =>
      rw [hside, if_neg Bool.false_ne_true,
        wrappingSub_of_le (hsource hside)] at hbook
      exact exchanged_of_fee_from_source hne hside hsender.ne_pool
        hreceiver.ne_pool (hsender.ne_fee t.feeAccount hfeeAcc)
        (hsource hside) hcovered hbook

/-- A successful exchange follows its terms. -/
theorem exchanged_of_run (hM : T.currency.Lawful balanceModulus)
    {swapAmount : SwapAmount} {outcome : SwapOutcome}
    (hpool : IsPoolOf s dexId inputAssetId outputAssetId techAcc)
    (hsender : Outsider techAcc sender) (hreceiver : Outsider techAcc receiver)
    (h : (exchange sender receiver dexId inputAssetId outputAssetId
      swapAmount).run s = (.ok outcome, s')) :
    ∃ t : PairSwapAction.Terms T,
      PairSwapAction.Agreed s (exchangeAction receiver techAcc inputAssetId
        outputAssetId swapAmount) sender t ∧
      outcome = outcomeOf (exchangeAction receiver techAcc inputAssetId
        outputAssetId swapAmount) t swapAmount ∧
      Exchanged s s' techAcc inputAssetId outputAssetId sender receiver t := by
  obtain ⟨techAcc', t, l, hpool', hset, houtcome, rfl⟩ := run_exchange_ok.mp h
  obtain rfl := hpool.unique hpool'
  exact ⟨t, hset.agreed, houtcome, exchanged_of_settles hM hpool.assets_ne
    hsender hreceiver hset rfl⟩

/-- The call of an exchange succeeds when the exchange does. -/
theorem exchange_of_swapPair {swapAmount : SwapAmount} {u : Unit}
    (h : (swapPair sender receiver dexId inputAssetId outputAssetId
      swapAmount).run s = (.ok u, s')) :
    ∃ outcome, (exchange sender receiver dexId inputAssetId outputAssetId
      swapAmount).run s = (.ok outcome, s') := by
  obtain ⟨techAcc, t, l, hpool, hset, rfl⟩ := run_swapPair_ok.mp h
  exact ⟨_, run_exchange_ok.mpr ⟨techAcc, t, l, hpool, hset, rfl, rfl⟩⟩

/-! ## The product of the reserves -/

/-- What an exchange leaves of the product of the reserves.  An exact input may
lower it by the rounding of the output, an exact output by less than one unit
of input against the remaining reserve. -/
def ProductKept (swapAmount : SwapAmount) (feeFromDestination : Bool)
    (x y x' y' amountIn : ℕ) : Prop :=
  match swapAmount with
  | .withDesiredInput _ _ => S * (x * y) ≤ S * (x' * y') + y * (y - y')
  | .withDesiredOutput _ _ =>
      if feeFromDestination then x * y < x' * y' + y'
      else x * y < x' * y' + y' + amountIn + 1

theorem productKept_of_exact_input {x y x' y' u out : ℕ}
    (hpos : 0 < y) (hout : out = u * S / ((x + u) * S / y))
    (hx : x + u ≤ x') (hy : y ≤ y' + out) :
    S * (x * y) ≤ S * (x' * y') + y * (y - y') := by
  have hr : (x + u) * S * out ≤ y * (u * S + out) := by
    refine quotient_by_floored_le
      (Nat.lt_mul_of_div_lt (Nat.lt_succ_self ((x + u) * S / y)) hpos) ?_
    rw [hout]
    exact Nat.mul_div_le _ _
  have hp : y - y' ≤ out := by omega
  calc
    S * (x * y) ≤ S * ((x + u) * (y - (y - y'))) + y * (y - y') :=
      ConstantProduct.product_of_exact_input hr hp (Nat.sub_le _ _)
    _ ≤ S * (x' * y') + y * (y - y') := by
      refine Nat.add_le_add_right (Nat.mul_le_mul_left _ ?_) _
      exact Nat.mul_le_mul hx (by omega)

/-- The price of an exact output is short by less than one unit. -/
theorem lt_price_succ {x v z amountIn : ℕ} (hv : 0 < v)
    (hq : 0 < z * S / v) (hin : amountIn = x * S / (z * S / v)) :
    x * v < (amountIn + 1) * z := by
  refine lt_quotient_by_floored_succ (Nat.div_mul_le_self (z * S) v) ?_ hv
  rw [hin]
  exact Nat.lt_mul_of_div_lt (Nat.lt_succ_self _) hq

/-- No exchange lowers the product of the reserves beyond its rounding. -/
theorem exchange_keeps_product (hM : T.currency.Lawful balanceModulus)
    {swapAmount : SwapAmount} {outcome : SwapOutcome}
    (hpool : IsPoolOf s dexId inputAssetId outputAssetId techAcc)
    (hsender : Outsider techAcc sender) (hreceiver : Outsider techAcc receiver)
    (h : (exchange sender receiver dexId inputAssetId outputAssetId
      swapAmount).run s = (.ok outcome, s')) :
    ProductKept swapAmount
      (decideIsFeeFromDestination inputAssetId outputAssetId)
      (s.free inputAssetId (techAccountIdToAccountId techAcc))
      (s.free outputAssetId (techAccountIdToAccountId techAcc))
      (s'.free inputAssetId (techAccountIdToAccountId techAcc))
      (s'.free outputAssetId (techAccountIdToAccountId techAcc))
      outcome.amount := by
  obtain ⟨t, hagreed, houtcome, hexchanged⟩ :=
    exchanged_of_run hM hpool hsender hreceiver h
  have hx := hexchanged.gained
  have hy := hexchanged.paid
  cases swapAmount with
  | withDesiredInput desiredIn minOut =>
      obtain ⟨hin, -, hcalc⟩ := exactInput_terms hagreed
      cases hside : decideIsFeeFromDestination inputAssetId outputAssetId with
      | true =>
          rw [hside] at hcalc
          obtain ⟨-, -, hpos, -, -, hout, -, -⟩ :=
            calcOutputForExactInput_destination.mp hcalc
          rw [if_pos hside, hin] at hx
          exact productKept_of_exact_input hpos hout hx hy
      | false =>
          rw [hside] at hcalc
          obtain ⟨-, -, -, -, hpos, -, -, hout, -⟩ :=
            calcOutputForExactInput_source.mp hcalc
          rw [if_neg (by simp [hside]), hin] at hx
          exact productKept_of_exact_input hpos hout hx hy
  | withDesiredOutput desiredOut maxIn =>
      obtain ⟨hout, -, hcalc⟩ := exactOutput_terms hagreed
      rw [hout] at hy
      cases hside : decideIsFeeFromDestination inputAssetId outputAssetId with
      | true =>
          rw [hside] at hcalc
          obtain ⟨hv, hlt, hq, hin, -⟩ :=
            calcInputForExactOutput_destination hagreed.sourceReserve hcalc
          have hproduct := ConstantProduct.product_of_exact_output
            (lt_price_succ hv hq hin) (show desiredOut ≤ _ by omega) hlt.le
          rw [if_pos hside] at hx
          refine lt_of_lt_of_le hproduct (Nat.add_le_add ?_ (by omega))
          exact Nat.mul_le_mul hx (by omega)
      | false =>
          rw [hside] at hcalc
          obtain ⟨hlt, hv, -, hq, hin, -, hfee⟩ :=
            calcInputForExactOutput_source hcalc
          have hproduct := ConstantProduct.product_of_exact_output_with_fee
            hlt.le (lt_price_succ hv hq hin) (by omega)
            (show 1000 * t.fee ≤ 3 * t.amountIn by omega)
          rw [if_neg (by simp [hside])] at hx
          rw [houtcome]
          apply lt_of_lt_of_le hproduct
          refine Nat.add_le_add_right (Nat.add_le_add_right
            (Nat.add_le_add ?_ (by omega)) _) _
          exact Nat.mul_le_mul hx (by omega)

/-- Alice pays the smallest amount of the base asset into the dusty pool. -/
theorem exchange_keeps_product_sample :
    ∃ outcome : SwapOutcome,
      ProductKept (.withDesiredInput 1 0)
        (decideIsFeeFromDestination (T := Mock.runtime) Mock.goldenTicket
          Mock.redPepper)
        (Mock.dusty.free Mock.goldenTicket
          (Mock.poolAccountOf Mock.dexA Mock.redPepper))
        (Mock.dusty.free Mock.redPepper
          (Mock.poolAccountOf Mock.dexA Mock.redPepper))
        ((step Mock.dusty Mock.payOne).free Mock.goldenTicket
          (Mock.poolAccountOf Mock.dexA Mock.redPepper))
        ((step Mock.dusty Mock.payOne).free Mock.redPepper
          (Mock.poolAccountOf Mock.dexA Mock.redPepper)) outcome.amount := by
  obtain ⟨outcome, h⟩ := exchange_of_swapPair
    (Extrinsic.succeeds_iff.mp (by decide +kernel :
      Mock.payOne.Succeeds Mock.dusty))
  exact ⟨outcome, exchange_keeps_product Mock.currency_lawful
    (Mock.isPoolOf (by decide +kernel) (by decide))
    (outsider_of_signer Mock.alice _) (outsider_of_signer Mock.carol _) h⟩

/-- The rounding does lower the product: in the dusty pool the reserves are
`1` and `15 · 10 ^ 17` before and `2` and `5 · 10 ^ 17` after. -/
theorem exchange_lowers_product :
    Mock.payOne.Succeeds Mock.dusty ∧
      (step Mock.dusty Mock.payOne).free Mock.goldenTicket
          (Mock.poolAccountOf Mock.dexA Mock.redPepper) *
        (step Mock.dusty Mock.payOne).free Mock.redPepper
          (Mock.poolAccountOf Mock.dexA Mock.redPepper) <
      Mock.dusty.free Mock.goldenTicket
          (Mock.poolAccountOf Mock.dexA Mock.redPepper) *
        Mock.dusty.free Mock.redPepper
          (Mock.poolAccountOf Mock.dexA Mock.redPepper) := by
  decide +kernel

/-! ## Exact amounts -/

/-- The fee is taken from the output exactly when that is the base asset. -/
theorem decideIsFeeFromDestination_iff (hne : inputAssetId ≠ outputAssetId) :
    decideIsFeeFromDestination inputAssetId outputAssetId = true ↔
      T.getBaseAssetId = outputAssetId := by
  unfold decideIsFeeFromDestination
  split_ifs with h₁ h₂
  · rw [false_iff]
    exact fun h => hne (h₁.symm.trans h)
  · simp [h₂]
  · simp [h₂]

/-- An exchange for an exact output pays it, for the reported input within the
limit, exactly when the fee is taken from the input or rounds to nothing. -/
theorem exchange_pays_desired_output_iff
    (hM : T.currency.Lawful balanceModulus) {desiredOut maxIn : ℕ}
    {outcome : SwapOutcome}
    (hpool : IsPoolOf s dexId inputAssetId outputAssetId techAcc)
    (hsender : Outsider techAcc sender) (hreceiver : Outsider techAcc receiver)
    (h : (exchange sender receiver dexId inputAssetId outputAssetId
      (.withDesiredOutput desiredOut maxIn)).run s = (.ok outcome, s')) :
    (s'.free outputAssetId receiver =
          s.free outputAssetId receiver + desiredOut ∧
        s'.free inputAssetId sender + outcome.amount =
          s.free inputAssetId sender ∧
        outcome.amount ≤ maxIn) ↔
      (T.getBaseAssetId ≠ outputAssetId ∨ desiredOut ≤ 332) := by
  obtain ⟨t, hagreed, houtcome, hexchanged⟩ :=
    exchanged_of_run hM hpool hsender hreceiver h
  obtain ⟨hout, hmax, hcalc⟩ := exactOutput_terms hagreed
  have hamount : outcome.amount = t.amountIn := by rw [houtcome]; rfl
  have hdebited := hexchanged.debited
  have hcredited := hexchanged.credited
  rw [hout] at hcredited
  have hside := decideIsFeeFromDestination_iff (T := T) hpool.assets_ne
  cases hfrom : decideIsFeeFromDestination inputAssetId outputAssetId with
  | true =>
      rw [hfrom] at hcalc
      obtain ⟨-, -, -, -, hfee⟩ :=
        calcInputForExactOutput_destination hagreed.sourceReserve hcalc
      rw [if_pos hfrom] at hcredited
      have hbase := hside.mp hfrom
      constructor
      · rintro ⟨hreceived, -, -⟩
        exact Or.inr (by omega)
      · rintro (hne | hsmall)
        · exact absurd hbase hne
        · exact ⟨by omega, by omega, by omega⟩
  | false =>
      rw [if_neg (by simp [hfrom])] at hcredited
      have hbase : T.getBaseAssetId ≠ outputAssetId := fun hbase => by
        rw [hside.mpr hbase] at hfrom
        cases hfrom
      exact ⟨fun _ => Or.inl hbase, fun _ => ⟨hcredited, by omega, by omega⟩⟩

/-- Alice buys base asset for Carol. -/
theorem exchange_pays_desired_output_iff_sample :
    ∃ outcome : SwapOutcome,
      ((step Mock.funded (Mock.buyTicket Mock.unit)).free Mock.goldenTicket
            Mock.carol.account =
          Mock.funded.free Mock.goldenTicket Mock.carol.account + Mock.unit ∧
        (step Mock.funded (Mock.buyTicket Mock.unit)).free Mock.redPepper
            Mock.alice.account + outcome.amount =
          Mock.funded.free Mock.redPepper Mock.alice.account ∧
        outcome.amount ≤ 10 * Mock.unit) ↔
      (Mock.runtime.getBaseAssetId ≠ Mock.goldenTicket ∨ Mock.unit ≤ 332) := by
  obtain ⟨outcome, h⟩ := exchange_of_swapPair
    (Extrinsic.succeeds_iff.mp (by decide +kernel :
      (Mock.buyTicket Mock.unit).Succeeds Mock.funded))
  exact ⟨outcome, exchange_pays_desired_output_iff Mock.currency_lawful
    (Mock.isPoolOf (by decide +kernel) (by decide)).swap
    (outsider_of_signer Mock.alice _) (outsider_of_signer Mock.carol _) h⟩

/-- Carol receives less than the one unit that was bought for her. -/
theorem exchange_pays_less_than_desired_output :
    (Mock.buyTicket Mock.unit).Succeeds Mock.funded ∧
      (step Mock.funded (Mock.buyTicket Mock.unit)).free Mock.goldenTicket
          Mock.carol.account <
        Mock.funded.free Mock.goldenTicket Mock.carol.account + Mock.unit := by
  decide +kernel

/-- The output before the fee for an exact input. -/
def grossOutput (x y xIn : ℕ) : ℕ :=
  xIn * S / ((x + xIn) * S / y)

/-- An exchange of an exact input debits it and credits the reported output;
this is at least the minimum exactly when the fee is taken from the input or
the output less its fee is. -/
theorem exchange_pays_minimum_output_iff
    (hM : T.currency.Lawful balanceModulus) {desiredIn minOut : ℕ}
    {outcome : SwapOutcome}
    (hpool : IsPoolOf s dexId inputAssetId outputAssetId techAcc)
    (hsender : Outsider techAcc sender) (hreceiver : Outsider techAcc receiver)
    (h : (exchange sender receiver dexId inputAssetId outputAssetId
      (.withDesiredInput desiredIn minOut)).run s = (.ok outcome, s')) :
    (s'.free inputAssetId sender + desiredIn = s.free inputAssetId sender ∧
        s'.free outputAssetId receiver =
          s.free outputAssetId receiver + outcome.amount ∧
        minOut ≤ outcome.amount) ↔
      (T.getBaseAssetId ≠ outputAssetId ∨
        minOut ≤
          grossOutput (s.free inputAssetId (techAccountIdToAccountId techAcc))
            (s.free outputAssetId (techAccountIdToAccountId techAcc))
            desiredIn -
          3 * grossOutput
            (s.free inputAssetId (techAccountIdToAccountId techAcc))
            (s.free outputAssetId (techAccountIdToAccountId techAcc))
            desiredIn / 1000) := by
  obtain ⟨t, hagreed, houtcome, hexchanged⟩ :=
    exchanged_of_run hM hpool hsender hreceiver h
  obtain ⟨hin, hmin, hcalc⟩ := exactInput_terms hagreed
  have hdebited := hexchanged.debited
  rw [hin] at hdebited
  have hcredited := hexchanged.credited
  have hside := decideIsFeeFromDestination_iff (T := T) hpool.assets_ne
  rw [outcomeOf, feeFromDestination_exchangeAction] at houtcome
  cases hfrom : decideIsFeeFromDestination inputAssetId outputAssetId with
  | true =>
      have hle := (fee_le_of_exchange hagreed).1 hfrom
      rw [hfrom] at hcalc
      obtain ⟨-, -, -, -, -, hout, -, hfee⟩ :=
        calcOutputForExactInput_destination.mp hcalc
      rw [if_pos hfrom] at hcredited
      rw [if_pos hfrom, wrappingSub_of_le hle] at houtcome
      rw [grossOutput, ← hout, ← hfee, houtcome]
      have hbase := hside.mp hfrom
      constructor
      · rintro ⟨-, -, hminimum⟩
        exact Or.inr hminimum
      · rintro (hne | hminimum)
        · exact absurd hbase hne
        · exact ⟨hdebited, hcredited, hminimum⟩
  | false =>
      rw [if_neg (by simp [hfrom])] at hcredited houtcome
      have hbase : T.getBaseAssetId ≠ outputAssetId := fun hbase => by
        rw [hside.mpr hbase] at hfrom
        cases hfrom
      rw [houtcome]
      exact ⟨fun _ => Or.inl hbase, fun _ => ⟨hdebited, hcredited, hmin⟩⟩

/-- Alice sells one unit for Carol and accepts any output. -/
theorem exchange_pays_minimum_output_iff_sample :
    ∃ outcome : SwapOutcome,
      ((step Mock.funded (Mock.sellPepper 0)).free Mock.redPepper
            Mock.alice.account + Mock.unit =
          Mock.funded.free Mock.redPepper Mock.alice.account ∧
        (step Mock.funded (Mock.sellPepper 0)).free Mock.goldenTicket
            Mock.carol.account =
          Mock.funded.free Mock.goldenTicket Mock.carol.account +
            outcome.amount ∧
        0 ≤ outcome.amount) ↔
      (Mock.runtime.getBaseAssetId ≠ Mock.goldenTicket ∨
        0 ≤
          grossOutput
            (Mock.funded.free Mock.redPepper
              (techAccountIdToAccountId
                (Mock.poolOf Mock.dexA Mock.redPepper)))
            (Mock.funded.free Mock.goldenTicket
              (techAccountIdToAccountId
                (Mock.poolOf Mock.dexA Mock.redPepper))) Mock.unit -
          3 * grossOutput
            (Mock.funded.free Mock.redPepper
              (techAccountIdToAccountId
                (Mock.poolOf Mock.dexA Mock.redPepper)))
            (Mock.funded.free Mock.goldenTicket
              (techAccountIdToAccountId
                (Mock.poolOf Mock.dexA Mock.redPepper))) Mock.unit /
                1000) := by
  obtain ⟨outcome, h⟩ := exchange_of_swapPair
    (Extrinsic.succeeds_iff.mp (by decide +kernel :
      (Mock.sellPepper 0).Succeeds Mock.funded))
  have hpays := exchange_pays_minimum_output_iff Mock.currency_lawful
    (Mock.isPoolOf (by decide +kernel) (by decide)).swap
    (outsider_of_signer Mock.alice _) (outsider_of_signer Mock.carol _) h
  exact ⟨outcome, hpays⟩

/-- Carol receives less than the minimum that was asked for. -/
theorem exchange_pays_less_than_minimum_output :
    (Mock.sellPepper 999999000000999999).Succeeds Mock.funded ∧
      (step Mock.funded (Mock.sellPepper 999999000000999999)).free
          Mock.goldenTicket Mock.carol.account <
        Mock.funded.free Mock.goldenTicket Mock.carol.account +
          999999000000999999 := by
  decide +kernel

end PoolXyk
end SoraParachain

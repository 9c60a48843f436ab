import SoraParachain.PoolXyk.ExchangeAmounts

/-!
# Quotes and exchanges

A quote executes the exchange for an account of its own, which first receives a
fixed amount of the input asset, and undoes everything.  It prices the exchange
as the pool does, but only up to the amount that the account was given.
-/

namespace SoraParachain
namespace PoolXyk

variable {T : Config} {s s' : Storage T}
variable {dexId : T.DEXId} {inputAssetId outputAssetId : T.AssetId}
variable {sender receiver w : T.AccountId} {techAcc : TechAccountIdOf T}
variable {swapAmount : SwapAmount}

open Technical (techAccountIdToAccountId techAccountIdToAccountId_inj)

/-- `PoolXYK`. -/
def quoteTag : List UInt8 := [80, 111, 111, 108, 88, 89, 75]

/-- `QuoteOperation`. -/
def quoteData : List UInt8 :=
  [81, 117, 111, 116, 101, 79, 112, 101, 114, 97, 116, 105, 111, 110]

/-- The account that quotes are executed for. -/
def quoteRepr : T.AccountId :=
  techAccountIdToAccountId (T := T) (.generic quoteTag quoteData)

/-- What the account of the quotes is given of the input asset. -/
def quoteFunds : ℕ := balance 999999999

def quote (dexId : T.DEXId) (inputAssetId outputAssetId : T.AssetId)
    (swapAmount : SwapAmount) : Exec T SwapOutcome :=
  Tx.rollback do
    Currency.deposit inputAssetId quoteRepr quoteFunds
    exchange quoteRepr quoteRepr dexId inputAssetId outputAssetId swapAmount

/-- `CanExchangeOperation`. -/
def canExchangeData : List UInt8 :=
  [67, 97, 110, 69, 120, 99, 104, 97, 110, 103, 101, 79, 112, 101, 114, 97, 116,
    105, 111, 110]

/-- The account that exchanges are tried for. -/
def canExchangeRepr : T.AccountId :=
  techAccountIdToAccountId (T := T) (.generic quoteTag canExchangeData)

/-- A thousand millionth of a unit, for whatever it is worth. -/
def canExchangeAmount : SwapAmount :=
  .withDesiredInput (10 ^ 9) 0

/-- Try to exchange a little; a panic is not an answer. -/
def canExchange (dexId : T.DEXId) (inputAssetId outputAssetId : T.AssetId) :
    Exec T Bool :=
  Tx.rollback do
    tryCatch
      (do
        Currency.deposit inputAssetId canExchangeRepr quoteFunds
        let _ ← exchange canExchangeRepr canExchangeRepr dexId inputAssetId
          outputAssetId canExchangeAmount
        pure true)
      fun
        | .error _ => pure false
        | .panic => throw .panic

/-- The storage after the account of the quotes was given its funds. -/
def fundedWith (s : Storage T) (l : T.currency.Ledger) : Storage T :=
  { s with ledger := l }

theorem run_quote_ok {outcome : SwapOutcome} :
    (quote dexId inputAssetId outputAssetId swapAmount).run s =
        (.ok outcome, s') ↔
      s = s' ∧ ∃ l s'',
        T.currency.deposit inputAssetId quoteRepr quoteFunds s.ledger = .ok l ∧
        (exchange quoteRepr quoteRepr dexId inputAssetId outputAssetId
          swapAmount).run (fundedWith s l) = (.ok outcome, s'') := by
  rw [quote, Tx.run_rollback_eq_ok]
  refine and_congr_right fun _ => ?_
  simp only [Tx.run_bind_eq_ok, Currency.deposit, Currency.run_apply_ok]
  constructor
  · rintro ⟨s'', _, _, ⟨l, hl, rfl⟩, h⟩
    exact ⟨l, s'', hl, h⟩
  · rintro ⟨l, s'', hl, h⟩
    exact ⟨s'', (), _, ⟨l, hl, rfl⟩, h⟩

/-- No pool and no fee account is the account of the quotes. -/
theorem outsider_quoteRepr (hT : T.CollisionFree)
    (hpool : IsPoolOf s dexId inputAssetId outputAssetId techAcc) :
    Outsider techAcc quoteRepr := by
  obtain ⟨tpair, rfl⟩ := hpool.keeper
  constructor
  · intro h
    cases (techAccountIdToAccountId_inj hT).mp h
  · intro feeAcc hfee h
    cases hfee
    cases (techAccountIdToAccountId_inj hT).mp h

/-! ## Payments as checks -/

/-- The payments of an exchange succeed when its sender can pay the input and
the pool can pay the output. -/
theorem payments_succeed_iff (hM : T.currency.Lawful balanceModulus)
    (hC : T.currency.Checked) (hT : T.CollisionFree)
    {t : PairSwapAction.Terms T} (hne : inputAssetId ≠ outputAssetId)
    (hw : Outsider techAcc w) (hreceiver : Outsider techAcc receiver)
    (hagreed : PairSwapAction.Agreed s (exchangeAction receiver techAcc
      inputAssetId outputAssetId swapAmount) sender t)
    (l : T.currency.Ledger) :
    (∃ l', T.currency.payAll ((exchangeAction receiver techAcc inputAssetId
        outputAssetId swapAmount).payments w t) l = .ok l') ↔
      T.currency.ensureCanWithdraw inputAssetId w t.amountIn l = .ok () ∧
        T.currency.ensureCanWithdraw outputAssetId
          (techAccountIdToAccountId techAcc) t.amountOut l = .ok () := by
  obtain ⟨hdest, hsource⟩ := fee_le_of_exchange hagreed
  have hfeeAcc : techAcc.toFeeAccount = some t.feeAccount := hagreed.feeAccount
  have hpoolFee : techAccountIdToAccountId techAcc ≠
      techAccountIdToAccountId t.feeAccount := fun h =>
    TechAccountId.toFeeAccount_ne hfeeAcc
      ((techAccountIdToAccountId_inj hT).mp h).symm
  have hin : w ≠ techAccountIdToAccountId techAcc := hw.ne_pool.symm
  have hfee : w ≠ techAccountIdToAccountId t.feeAccount :=
    (hw.ne_fee _ hfeeAcc).symm
  rw [PairSwapAction.payments, feeFromDestination_exchangeAction]
  cases hside : decideIsFeeFromDestination inputAssetId outputAssetId with
  | true =>
      have hsum : t.fee + (t.amountOut - t.fee) = t.amountOut :=
        Nat.add_sub_of_le (hdest hside)
      have hpays := hM.payAll_cons_pair_iff hC (m := t.fee)
        (n := t.amountOut - t.fee) (k := t.amountIn) (l := l) hne.symm hin
        hpoolFee hreceiver.ne_pool
      rw [hsum] at hpays
      rw [if_pos rfl, wrappingSub_of_le (hdest hside)]
      exact hpays
  | false =>
      have hsum : t.amountIn - t.fee + t.fee = t.amountIn :=
        Nat.sub_add_cancel (hsource hside)
      have hpays := hM.payAll_pair_cons_iff hC (m := t.amountIn - t.fee)
        (n := t.fee) (k := t.amountOut) (l := l) hne.symm hin hfee
        hreceiver.ne_pool
      rw [hsum] at hpays
      rw [if_neg Bool.false_ne_true, wrappingSub_of_le (hsource hside)]
      exact hpays

/-! ## The input that an exchange takes -/

/-- The input of an exchange against two reserves. -/
def inputFor (feeFromDestination : Bool) (x y : ℕ) : SwapAmount → ℕ
  | .withDesiredInput desiredIn _ => desiredIn
  | .withDesiredOutput desiredOut _ =>
      if feeFromDestination then
        x * S / ((y - 1000 * desiredOut / 997) * S / (1000 * desiredOut / 997))
      else
        x * S / ((y - desiredOut - 3 * (y - desiredOut) / 1000) * S /
          desiredOut)

/-- The input that an exchange on the pool of two assets takes. -/
def inputOf (s : Storage T) (techAcc : TechAccountIdOf T)
    (inputAssetId outputAssetId : T.AssetId) (swapAmount : SwapAmount) : ℕ :=
  inputFor (decideIsFeeFromDestination inputAssetId outputAssetId)
    (s.free inputAssetId (techAccountIdToAccountId techAcc))
    (s.free outputAssetId (techAccountIdToAccountId techAcc)) swapAmount

theorem amountIn_eq_inputOf {t : PairSwapAction.Terms T}
    (h : PairSwapAction.Agreed s (exchangeAction receiver techAcc inputAssetId
      outputAssetId swapAmount) w t) :
    t.amountIn = inputOf s techAcc inputAssetId outputAssetId swapAmount := by
  have hx := h.sourceReserve
  rw [inputOf]
  cases swapAmount with
  | withDesiredInput desiredIn minOut =>
      obtain ⟨hin, -, -⟩ := exactInput_terms h
      exact hin
  | withDesiredOutput desiredOut maxIn =>
      obtain ⟨-, -, hcalc⟩ := exactOutput_terms h
      rw [inputFor]
      cases hside : decideIsFeeFromDestination inputAssetId outputAssetId with
      | true =>
          rw [hside] at hcalc
          obtain ⟨-, -, -, hin, -⟩ := calcInputForExactOutput_destination hx hcalc
          rw [if_pos rfl]
          exact hin
      | false =>
          rw [hside] at hcalc
          obtain ⟨-, -, -, -, hin, -⟩ := calcInputForExactOutput_source hcalc
          rw [if_neg Bool.false_ne_true]
          exact hin

/-! ## Quoting an exchange that succeeds -/

/-- The account of the quotes can be given its funds, may transfer the input
asset, and can then pay what the exchange takes. -/
structure QuoteCovers (s : Storage T) (techAcc : TechAccountIdOf T)
    (inputAssetId outputAssetId : T.AssetId) (swapAmount : SwapAmount) :
    Prop where
  room : s.issuance inputAssetId + quoteFunds < balanceModulus
  permitted : Assets.Permitted s quoteRepr Permissions.transfer inputAssetId
  covered : ∀ l,
    T.currency.deposit inputAssetId quoteRepr quoteFunds s.ledger = .ok l →
      T.currency.ensureCanWithdraw inputAssetId quoteRepr
        (inputOf s techAcc inputAssetId outputAssetId swapAmount) l = .ok ()

/-- The funds of the quotes do not reach the pool. -/
theorem free_fundedWith (hM : T.currency.Lawful balanceModulus)
    {l : T.currency.Ledger} {who : T.AccountId} {assetId : T.AssetId}
    (hl : T.currency.deposit inputAssetId quoteRepr quoteFunds s.ledger = .ok l)
    (hwho : who ≠ quoteRepr) :
    (fundedWith s l).free assetId who = s.free assetId who := by
  have hbook : (fundedWith s l).book =
      s.book.issued inputAssetId quoteRepr quoteFunds := hM.deposit_ok hl
  rw [Storage.free, hbook, Book.free_issued_of_ne_account hwho]
  rfl

/-- The deposit for a quote succeeds when the issuance leaves room for it. -/
theorem deposit_iff_room (hM : T.currency.Lawful balanceModulus) :
    (∃ l, T.currency.deposit inputAssetId quoteRepr quoteFunds s.ledger =
        .ok l) ↔
      s.issuance inputAssetId + quoteFunds < balanceModulus := by
  constructor
  · rintro ⟨l, hl⟩
    have hlt := hM.issuance_lt l inputAssetId
    rw [hM.deposit_ok hl, Book.issuance_issued_self] at hlt
    exact hlt
  · intro hroom
    exact hM.deposit_succeeds hroom _

theorem inputOf_fundedWith (hM : T.currency.Lawful balanceModulus)
    {l : T.currency.Ledger}
    (hl : T.currency.deposit inputAssetId quoteRepr quoteFunds s.ledger = .ok l)
    (hpool : techAccountIdToAccountId techAcc ≠ quoteRepr) :
    inputOf (fundedWith s l) techAcc inputAssetId outputAssetId swapAmount =
      inputOf s techAcc inputAssetId outputAssetId swapAmount := by
  rw [inputOf, inputOf, free_fundedWith hM hl hpool,
    free_fundedWith hM hl hpool]

/-- The terms that the sender agreed to suit the account of the quotes, as soon
as it can pay the input. -/
theorem agreed_fundedWith {l : T.currency.Ledger}
    {t : PairSwapAction.Terms T}
    (h : PairSwapAction.Agreed s (exchangeAction receiver techAcc inputAssetId
      outputAssetId swapAmount) sender t)
    (hpool : ∀ assetId,
      (fundedWith s l).free assetId (techAccountIdToAccountId techAcc) =
        s.free assetId (techAccountIdToAccountId techAcc))
    (hpos : 0 < (fundedWith s l).free inputAssetId w)
    (hcovered : t.amountIn ≤ (fundedWith s l).free inputAssetId w) :
    PairSwapAction.Agreed (fundedWith s l) (exchangeAction w techAcc
      inputAssetId outputAssetId swapAmount) w t where
  client := Or.inl rfl
  registered := h.registered
  sourceExists := h.sourceExists
  destinationExists := h.destinationExists
  signerPositive := hpos
  sourceReserve := (hpool inputAssetId).symm ▸ h.sourceReserve
  destinationReserve := (hpool outputAssetId).symm ▸ h.destinationReserve
  amounts := by
    have hamounts := h.amounts
    simp only [PairSwapAction.poolRepr, exchangeAction] at hamounts ⊢
    rw [hpool, hpool]
    exact hamounts
  amountIn := h.amountIn
  amountOut := h.amountOut
  feeAccount := h.feeAccount
  feeAccountNamed := Or.inl rfl
  sourceCovered := hcovered
  destinationCovered := (hpool outputAssetId).symm ▸ h.destinationCovered
  validAfter := by
    have hvalid := h.validAfter
    simp only [PairSwapAction.poolRepr, exchangeAction] at hvalid ⊢
    rw [hpool, hpool]
    exact hvalid

/-- The account of the quotes holds the input once its check passes. -/
theorem amountIn_le_of_check (hM : T.currency.Lawful balanceModulus)
    {l : T.currency.Ledger} {n : ℕ} {dest : T.AccountId}
    (hdest : dest ≠ w)
    (h : T.currency.ensureCanWithdraw inputAssetId w n l = .ok ()) :
    n ≤ (T.currency.book l).free inputAssetId w := by
  obtain ⟨l', hl'⟩ := hM.transfer_succeeds h dest
  have hcovered := (hM.transfer_ok hl').1
  exact hcovered.resolve_left hdest.symm

/-- A covered quote of an exchange that succeeds reports its outcome. -/
theorem quote_of_exchange (hM : T.currency.Lawful balanceModulus)
    (hC : T.currency.Checked) (hT : T.CollisionFree) {outcome : SwapOutcome}
    (hpool : IsPoolOf s dexId inputAssetId outputAssetId techAcc)
    (hsender : Outsider techAcc sender) (hreceiver : Outsider techAcc receiver)
    (h : (exchange sender receiver dexId inputAssetId outputAssetId
      swapAmount).run s = (.ok outcome, s'))
    (hcovers : QuoteCovers s techAcc inputAssetId outputAssetId swapAmount) :
    (quote dexId inputAssetId outputAssetId swapAmount).run s =
      (.ok outcome, s) := by
  obtain ⟨techAcc', t, l', hpool', hset, houtcome, -⟩ := run_exchange_ok.mp h
  obtain rfl := hpool.unique hpool'
  have hquote : Outsider techAcc quoteRepr := outsider_quoteRepr hT hpool
  obtain ⟨l, hl⟩ := (deposit_iff_room hM).mpr hcovers.room
  -- The pool pays the output to anyone, and the funds do not concern it.
  have hchecks := (payments_succeed_iff hM hC hT hpool.assets_ne hsender
    hreceiver hset.agreed s.ledger).mp ⟨l', hset.paid⟩
  have hin := hcovers.covered l hl
  rw [← amountIn_eq_inputOf hset.agreed] at hin
  have hout := hchecks.2
  rw [← hC.ensureCanWithdraw_deposit hl hpool.assets_ne.symm] at hout
  have hcovered : t.amountIn ≤ (fundedWith s l).free inputAssetId quoteRepr :=
    amountIn_le_of_check hM hquote.ne_pool hin
  have hpos : 0 < (fundedWith s l).free inputAssetId quoteRepr := by
    have hbook : (fundedWith s l).book =
        s.book.issued inputAssetId quoteRepr quoteFunds := hM.deposit_ok hl
    rw [Storage.free, hbook, Book.free_issued_self]
    exact Nat.add_pos_right _ (by decide)
  have hagreed := agreed_fundedWith hset.agreed
    (fun _ => free_fundedWith hM hl hquote.ne_pool) hpos hcovered
  obtain ⟨l₂, hl₂⟩ := (payments_succeed_iff hM hC hT hpool.assets_ne hquote
    hquote hagreed l).mpr ⟨hin, hout⟩
  refine run_quote_ok.mpr ⟨rfl, l, _, hl, run_exchange_ok.mpr
    ⟨techAcc, t, l₂, hpool.of_dexInfos_eq rfl, ⟨hagreed, ?_, hl₂⟩, houtcome,
      rfl⟩⟩
  exact
    { registered := hset.payable.registered
      feeRegistered := hset.payable.feeRegistered
      sourceExists := hset.payable.sourceExists
      destinationExists := hset.payable.destinationExists
      signerPermitted := hcovers.permitted
      poolPermitted := hset.payable.poolPermitted }

/-- A quote that succeeds was covered. -/
theorem quoteCovers_of_quote (hM : T.currency.Lawful balanceModulus)
    (hC : T.currency.Checked) (hT : T.CollisionFree) {outcome : SwapOutcome}
    (hpool : IsPoolOf s dexId inputAssetId outputAssetId techAcc)
    (h : (quote dexId inputAssetId outputAssetId swapAmount).run s =
      (.ok outcome, s)) :
    QuoteCovers s techAcc inputAssetId outputAssetId swapAmount := by
  obtain ⟨-, l, s'', hl, hrun⟩ := run_quote_ok.mp h
  obtain ⟨techAcc', t, l', hpool', hset, -, -⟩ := run_exchange_ok.mp hrun
  obtain rfl := (hpool.of_dexInfos_eq rfl).unique hpool'
  have hquote : Outsider techAcc quoteRepr := outsider_quoteRepr hT hpool
  have hchecks := (payments_succeed_iff hM hC hT hpool.assets_ne hquote hquote
    hset.agreed l).mp ⟨l', hset.paid⟩
  constructor
  · exact (deposit_iff_room hM).mp ⟨l, hl⟩
  · exact hset.payable.signerPermitted
  · intro l₀ hl₀
    rw [hl] at hl₀
    cases hl₀
    rw [← inputOf_fundedWith hM hl hquote.ne_pool,
      ← amountIn_eq_inputOf hset.agreed]
    exact hchecks.1

/-- When an exchange succeeds, the quote in the same state reports the same
outcome exactly when the account of the quotes can be funded, may transfer the
input asset and can then pay the input. -/
theorem quote_agrees_with_exchange_iff
    (hM : T.currency.Lawful balanceModulus) (hC : T.currency.Checked)
    (hT : T.CollisionFree) {outcome : SwapOutcome}
    (hpool : IsPoolOf s dexId inputAssetId outputAssetId techAcc)
    (hsender : Outsider techAcc sender) (hreceiver : Outsider techAcc receiver)
    (h : (exchange sender receiver dexId inputAssetId outputAssetId
      swapAmount).run s = (.ok outcome, s')) :
    (quote dexId inputAssetId outputAssetId swapAmount).run s =
        (.ok outcome, s) ↔
      QuoteCovers s techAcc inputAssetId outputAssetId swapAmount :=
  ⟨quoteCovers_of_quote hM hC hT hpool,
    quote_of_exchange hM hC hT hpool hsender hreceiver h⟩

/-- Alice sells one unit for Carol. -/
theorem quote_agrees_with_exchange_iff_sample :
    ∃ outcome : SwapOutcome,
      (quote Mock.dexA Mock.redPepper Mock.goldenTicket
          (.withDesiredInput Mock.unit 0)).run Mock.funded =
        (.ok outcome, Mock.funded) ↔
      QuoteCovers Mock.funded (Mock.poolOf Mock.dexA Mock.redPepper)
        Mock.redPepper Mock.goldenTicket (.withDesiredInput Mock.unit 0) := by
  obtain ⟨outcome, h⟩ := exchange_of_swapPair
    (Extrinsic.succeeds_iff.mp (by decide +kernel :
      (Mock.sellPepper 0).Succeeds Mock.funded))
  exact ⟨outcome, quote_agrees_with_exchange_iff Mock.currency_lawful
    CoinLedger.currency_checked Mock.collisionFree
    (Mock.isPoolOf (by decide +kernel) (by decide)).swap
    (outsider_of_signer Mock.alice _) (outsider_of_signer Mock.carol _) h⟩

/-- Alice mints both assets of a pool and deposits half of them. -/
@[irreducible] def flooded : Storage Mock.runtime :=
  runs Mock.genesis
    (Mock.openPool Mock.dexA Mock.redPepper ++
      [(Mock.alice, .assetsMint Mock.goldenTicket Mock.alice.account
          (10 ^ 10 * Mock.unit)),
        (Mock.alice, .assetsMint Mock.redPepper Mock.alice.account
          (10 ^ 10 * Mock.unit)),
        (Mock.alice, .depositLiquidity Mock.dexA Mock.goldenTicket
          Mock.redPepper (5 * 10 ^ 9 * Mock.unit) (5 * 10 ^ 9 * Mock.unit) 0
          0)])

/-- A sale of a thousand million units. -/
def largeSale : SwapAmount :=
  .withDesiredInput (10 ^ 9 * Mock.unit) 0

/-- Alice can sell a thousand million units, which is more than a quote can
pay. -/
theorem exchange_succeeds_without_quote :
    Extrinsic.Succeeds flooded (Mock.swap Mock.redPepper Mock.goldenTicket
        largeSale) ∧
      (quote Mock.dexA Mock.redPepper Mock.goldenTicket largeSale).run flooded =
        (fail (poolError .sourceBalanceIsNotLargeEnough), flooded) :=
  ⟨by decide +kernel, Prod.ext (by decide +kernel) rfl⟩

end PoolXyk
end SoraParachain

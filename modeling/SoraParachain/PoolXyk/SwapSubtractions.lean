import SoraParachain.PoolXyk.ExchangeAmounts
import SoraParachain.PoolXyk.FeeRule
import SoraParachain.PoolXyk.OverflowChecks

/-!
# The differences of a swap

With overflow checks a swap panics exactly where it computes a negative
difference.  The price of an exact output does when the output is more than the
reserve.  The settlement does when the action names a fee that is more than the
amount it is part of; a fee that the pallet works out itself never is.
-/

namespace SoraParachain
namespace PoolXyk
namespace PairSwapAction

variable {T : Config} {s : Storage T} {a : PairSwapAction T}
variable {w : T.AccountId}

/-! ## The fee at the settlement -/

variable {t : Terms T}

/-- The settlement of accepted terms gets to the difference of the amount and
the fee.  A fee that is taken from the destination is paid before. -/
def GetsToFee (s : Storage T) (a : PairSwapAction T) (w : T.AccountId)
    (t : Terms T) : Prop :=
  a.feeFromDestination = true →
    Payable s a w t ∧ ∃ l, T.currency.payAll
      [⟨a.source.asset, w, a.poolRepr, t.amountIn⟩,
        ⟨a.destination.asset, a.poolRepr,
          Technical.techAccountIdToAccountId t.feeAccount, t.fee⟩]
      s.ledger = .ok l

theorem run_settleFeeFromDestinationBy_checkedSub
    (hin : t.source.toOption = some t.amountIn)
    (hout : t.destination.toOption = some t.amountOut)
    (hside : a.feeFromDestination = true)
    (h : GetsToFee s a w t → t.fee ≤ t.amountOut) :
    ((a.completed w t).settleFeeFromDestinationBy checkedSub w
        (Technical.techAccountIdToAccountId t.feeAccount)).run s =
      ((a.completed w t).settleFeeFromDestinationBy uncheckedSub w
        (Technical.techAccountIdToAccountId t.feeAccount)).run s := by
  apply Tx.run_bind_congr
  intro amountIn s₁ h₁
  rw [Tx.run_liftM_eq_ok, Bounds.unwrap_eq_ok] at h₁
  obtain ⟨h₁, rfl⟩ := h₁
  cases hin.symm.trans h₁
  apply Tx.run_bind_congr
  intro _ s₂ h₂
  rw [Technical.run_transferIn_ok, Assets.run_transferFrom_ok] at h₂
  obtain ⟨hreg, hsource, hsigner, l₁, hpaid₁, rfl⟩ := h₂
  apply Tx.run_bind_congr
  intro fee s₃ h₃
  rw [Tx.run_liftM_eq_ok, unwrap_eq_ok] at h₃
  obtain ⟨h₃, rfl⟩ := h₃
  cases h₃
  apply Tx.run_bind_congr
  intro _ s₄ h₄
  rw [Technical.run_transferOut_ok, Assets.run_transferFrom_ok] at h₄
  obtain ⟨-, hdestination, hpool, l₂, hpaid₂, rfl⟩ := h₄
  apply Tx.run_bind_congr
  intro _ s₅ h₅
  apply Tx.run_bind_congr
  intro amountOut s₆ h₆
  rw [Tx.run_liftM_eq_ok, Bounds.unwrap_eq_ok] at h₆
  obtain ⟨h₆, -⟩ := h₆
  cases hout.symm.trans h₆
  have hgets : GetsToFee s a w t := by
    refine fun _ => ⟨⟨hreg, fun hfalse => ?_, hsource, hdestination, hsigner,
      hpool⟩, l₂, ?_⟩
    · rw [hside] at hfalse
      cases hfalse
    · exact MultiCurrency.payAll_cons_eq_ok.mpr ⟨l₁, hpaid₁,
        MultiCurrency.payAll_cons_eq_ok.mpr ⟨l₂, hpaid₂, rfl⟩⟩
  rw [checkedSub_of_le (h hgets)]

theorem run_settleFeeFromDestinationBy_panics
    (hin : t.source.toOption = some t.amountIn)
    (hout : t.destination.toOption = some t.amountOut)
    (hside : a.feeFromDestination = true) (h : GetsToFee s a w t)
    (hlt : t.amountOut < t.fee) :
    ∃ s', ((a.completed w t).settleFeeFromDestinationBy checkedSub w
        (Technical.techAccountIdToAccountId t.feeAccount)).run s =
      (.error .panic, s') := by
  obtain ⟨hpay, l, hl⟩ := h hside
  obtain ⟨l₁, hpaid₁, hl⟩ := MultiCurrency.payAll_cons_eq_ok.mp hl
  obtain ⟨l₂, hpaid₂, hl⟩ := MultiCurrency.payAll_cons_eq_ok.mp hl
  have hsold : (Technical.transferIn a.source.asset w a.poolAccount
      t.amountIn).run s = (.ok (), { s with ledger := l₁ }) :=
    Technical.run_transferIn_ok.mpr ⟨hpay.registered,
      Assets.run_transferFrom_ok.mpr
        ⟨hpay.sourceExists, hpay.signerPermitted, l₁, hpaid₁, rfl⟩⟩
  have hfee : (Technical.transferOut a.destination.asset a.poolAccount
      (Technical.techAccountIdToAccountId t.feeAccount) t.fee).run
        { s with ledger := l₁ } = (.ok (), { s with ledger := l₂ }) :=
    Technical.run_transferOut_ok.mpr ⟨hpay.registered,
      Assets.run_transferFrom_ok.mpr
        ⟨hpay.destinationExists, hpay.poolPermitted, l₂, hpaid₂, rfl⟩⟩
  refine ⟨{ s with ledger := l₂ }, ?_⟩
  refine (Tx.run_bind_of_ok (Tx.run_liftM_eq_ok.mpr
    ⟨Bounds.unwrap_eq_ok.mpr hin, rfl⟩)).trans ?_
  apply (Tx.run_bind_of_ok hsold).trans
  refine (Tx.run_bind_of_ok (Tx.run_liftM_eq_ok.mpr
    ⟨unwrap_eq_ok.mpr rfl, rfl⟩)).trans ?_
  apply (Tx.run_bind_of_ok hfee).trans
  refine (Tx.run_bind_of_ok (Tx.run_liftM_eq_ok.mpr
    ⟨unwrap_eq_ok.mpr rfl, rfl⟩)).trans ?_
  refine (Tx.run_bind_of_ok (Tx.run_liftM_eq_ok.mpr
    ⟨Bounds.unwrap_eq_ok.mpr hout, rfl⟩)).trans ?_
  rw [checkedSub_of_lt hlt]
  rfl

theorem run_settleFeeFromSourceBy_checkedSub
    (hin : t.source.toOption = some t.amountIn) (hle : t.fee ≤ t.amountIn) :
    ((a.completed w t).settleFeeFromSourceBy checkedSub w t.feeAccount).run s =
      ((a.completed w t).settleFeeFromSourceBy uncheckedSub w
        t.feeAccount).run s := by
  apply Tx.run_bind_congr
  intro amountIn s₁ h₁
  rw [Tx.run_liftM_eq_ok, Bounds.unwrap_eq_ok] at h₁
  obtain ⟨h₁, rfl⟩ := h₁
  cases hin.symm.trans h₁
  apply Tx.run_bind_congr
  intro fee s₂ h₂
  rw [Tx.run_liftM_eq_ok, unwrap_eq_ok] at h₂
  obtain ⟨h₂, rfl⟩ := h₂
  cases h₂
  rw [checkedSub_of_le hle]

theorem run_settleFeeFromSourceBy_panics
    (hin : t.source.toOption = some t.amountIn) (hlt : t.amountIn < t.fee) :
    ((a.completed w t).settleFeeFromSourceBy checkedSub w t.feeAccount).run s =
      (.error .panic, s) := by
  refine (Tx.run_bind_of_ok (Tx.run_liftM_eq_ok.mpr
    ⟨Bounds.unwrap_eq_ok.mpr hin, rfl⟩)).trans ?_
  refine (Tx.run_bind_of_ok (Tx.run_liftM_eq_ok.mpr
    ⟨unwrap_eq_ok.mpr rfl, rfl⟩)).trans ?_
  rw [checkedSub_of_lt hlt]
  rfl

theorem run_settleBy_checkedSub
    (hin : t.source.toOption = some t.amountIn)
    (hout : t.destination.toOption = some t.amountOut)
    (h : GetsToFee s a w t →
      t.fee ≤ amountOnFeeSide a.feeFromDestination t.amountIn t.amountOut) :
    ((a.completed w t).settleBy checkedSub w t.feeAccount).run s =
      ((a.completed w t).settle w t.feeAccount).run s := by
  rw [← settleBy_uncheckedSub]
  apply Tx.run_bind_congr
  intro side s₁ h₁
  rw [Tx.run_liftM_eq_ok, unwrap_eq_ok] at h₁
  obtain ⟨h₁, rfl⟩ := h₁
  cases h₁
  cases hside : a.feeFromDestination with
  | true =>
      rw [hside] at h
      exact run_settleFeeFromDestinationBy_checkedSub hin hout hside h
  | false =>
      rw [hside] at h
      have hgets : GetsToFee s a w t := by
        intro htrue
        rw [hside] at htrue
        cases htrue
      exact run_settleFeeFromSourceBy_checkedSub hin (h hgets)

theorem run_settleBy_panics
    (hin : t.source.toOption = some t.amountIn)
    (hout : t.destination.toOption = some t.amountOut)
    (h : GetsToFee s a w t)
    (hlt : amountOnFeeSide a.feeFromDestination t.amountIn t.amountOut <
      t.fee) :
    ∃ s', ((a.completed w t).settleBy checkedSub w t.feeAccount).run s =
      (.error .panic, s') := by
  have hrun : ((a.completed w t).settleBy checkedSub w t.feeAccount).run s =
      (if a.feeFromDestination then
        (a.completed w t).settleFeeFromDestinationBy checkedSub w
          (Technical.techAccountIdToAccountId t.feeAccount)
      else
        (a.completed w t).settleFeeFromSourceBy checkedSub w
          t.feeAccount).run s := rfl
  rw [hrun]
  cases hside : a.feeFromDestination with
  | true =>
      rw [hside] at hlt
      exact run_settleFeeFromDestinationBy_panics hin hout hside h hlt
  | false =>
      rw [hside] at hlt
      exact ⟨s, run_settleFeeFromSourceBy_panics hin hlt⟩

theorem run_reserveBy_checkedSub
    (hin : t.source.toOption = some t.amountIn)
    (hout : t.destination.toOption = some t.amountOut)
    (h : GetsToFee s a w t →
      t.fee ≤ amountOnFeeSide a.feeFromDestination t.amountIn t.amountOut) :
    ((a.completed w t).reserveBy checkedSub w).run s =
      ((a.completed w t).reserve w).run s := by
  apply Tx.run_withTransaction_congr
  apply Tx.run_bind_congr
  intro _ s₁ h₁
  obtain ⟨-, rfl⟩ := Tx.run_liftM_eq_ok.mp h₁
  apply Tx.run_bind_congr
  intro feeAccount s₂ h₂
  rw [Tx.run_liftM_eq_ok, unwrap_eq_ok] at h₂
  obtain ⟨h₂, rfl⟩ := h₂
  cases h₂
  rw [Tx.run_bind, Tx.run_bind, run_settleBy_checkedSub hin hout h]

theorem run_reserveBy_panics
    (hin : t.source.toOption = some t.amountIn)
    (hout : t.destination.toOption = some t.amountOut)
    (h : GetsToFee s a w t)
    (hlt : amountOnFeeSide a.feeFromDestination t.amountIn t.amountOut <
      t.fee) :
    ((a.completed w t).reserveBy checkedSub w).run s = (.error .panic, s) := by
  obtain ⟨s', hpanics⟩ := run_settleBy_panics hin hout h hlt
  refine Tx.run_withTransaction_eq_error.mpr ⟨rfl, s', ?_⟩
  refine (Tx.run_bind_of_ok (Tx.run_liftM_eq_ok.mpr
    ⟨(ensure_eq_ok (u := ())).mpr rfl, rfl⟩)).trans ?_
  refine (Tx.run_bind_of_ok (Tx.run_liftM_eq_ok.mpr
    ⟨unwrap_eq_ok.mpr rfl, rfl⟩)).trans ?_
  rw [Tx.run_bind, hpanics]

/-! ## Which actions compute a negative difference -/

/-- The price of an output, with the fee taken from the source. -/
def pricedInput (x y yOut : ℕ) : ℕ :=
  x * S / ((y - yOut - 3 * (y - yOut) / 1000) * S / yOut)

/-- The amount that the fee of an action is part of. -/
def amountBearingFee (side : Bool) (x y : ℕ) : Bounds → Bounds → ℕ
  | .desired sa, .desired ta => amountOnFeeSide side sa ta
  | .desired sa, .min _ => amountOnFeeSide side sa (grossOutput x y sa)
  | .max _, .desired ta => amountOnFeeSide side (pricedInput x y ta) ta
  | _, _ => 0

theorem amountOnFeeSide_of_output {side : Bool} {x y sa yOut fee : ℕ}
    (h : calcOutputForExactInput side x y sa = .ok (yOut, fee)) :
    amountOnFeeSide side sa yOut =
      amountOnFeeSide side sa (grossOutput x y sa) := by
  cases side with
  | true =>
      obtain ⟨-, -, -, -, -, hout, -⟩ :=
        calcOutputForExactInput_destination.mp h
      rw [hout, grossOutput]
  | false =>
      rw [amountOnFeeSide, amountOnFeeSide, if_neg Bool.false_ne_true,
        if_neg Bool.false_ne_true]

theorem amountOnFeeSide_of_input {side : Bool} {x y ta xIn fee : ℕ}
    (h : calcInputForExactOutput side x y ta = .ok (xIn, fee)) :
    amountOnFeeSide side xIn ta =
      amountOnFeeSide side (pricedInput x y ta) ta := by
  cases side with
  | true =>
      rw [amountOnFeeSide, amountOnFeeSide, if_pos rfl, if_pos rfl]
  | false =>
      obtain ⟨-, -, -, -, hin, -⟩ := calcInputForExactOutput_source h
      rw [hin, pricedInput]

theorem Agreed.amountOnFeeSide_eq (h : Agreed s a w t) :
    amountOnFeeSide a.feeFromDestination t.amountIn t.amountOut =
      amountBearingFee a.feeFromDestination
        (s.free a.source.asset a.poolRepr)
        (s.free a.destination.asset a.poolRepr) a.source.amount
        a.destination.amount := by
  obtain ⟨recomFee, hamounts, -⟩ := h.amounts
  obtain ⟨hsource, hdestination | ⟨taMin, hdestination⟩, hcalc⟩ |
    ⟨⟨saMax, hsource⟩, hdestination, hcalc⟩ :=
      priced_of_decideAmounts hamounts h.amountIn h.amountOut
  · rw [hsource, hdestination, amountBearingFee]
  · rw [hsource, hdestination, amountBearingFee]
    exact amountOnFeeSide_of_output hcalc
  · rw [hsource, hdestination, amountBearingFee]
    exact amountOnFeeSide_of_input hcalc

/-- The differences that a submitted action makes the pallet compute are not
negative. -/
structure SubtractionsCovered (s : Storage T) (a : PairSwapAction T)
    (w : T.AccountId) : Prop where
  output : ∀ ta, Prices s a w ta →
    ta ≤ s.free a.destination.asset a.poolRepr
  fee : ∀ t, Agreed s a w t → a.fee = some t.fee → GetsToFee s a w t →
    t.fee ≤ amountBearingFee a.feeFromDestination
      (s.free a.source.asset a.poolRepr)
      (s.free a.destination.asset a.poolRepr) a.source.amount
      a.destination.amount

/-- A fee that the action does not name is part of its amount anyway. -/
theorem SubtractionsCovered.fee_le (h : SubtractionsCovered s a w)
    (hagreed : Agreed s a w t) (hgets : GetsToFee s a w t) :
    t.fee ≤ amountOnFeeSide a.feeFromDestination t.amountIn t.amountOut := by
  obtain ⟨recomFee, hamounts, ⟨-, hfee⟩ | ⟨hfee, -⟩⟩ := hagreed.amounts
  · rw [hfee]
    exact recomFee_le hagreed.sourceReserve hamounts hagreed.amountIn
      hagreed.amountOut
  · rw [hagreed.amountOnFeeSide_eq]
    exact h.fee t hagreed hfee hgets

/-! ### Submitted actions -/

theorem run_createSwapBy_checkedSub (hab : a.isAbstractChecking = false)
    (h : SubtractionsCovered s a w) :
    (createSwapBy checkedSub w a).run s =
      (Technical.createSwap w (PolySwapAction.pairSwap a)).run s := by
  rw [← createSwapBy_uncheckedSub]
  apply Tx.run_bind_congr
  intro _ s₁ h₁
  obtain ⟨-, rfl⟩ := Tx.run_liftM_eq_ok.mp h₁
  have hvalidate : (Tx.reads fun s =>
      a.prepareAndValidateBy checkedSub s (some w)).run s =
    (Tx.reads fun s =>
      a.prepareAndValidateBy uncheckedSub s (some w)).run s := by
    rw [Tx.run_reads, Tx.run_reads, prepareAndValidateBy_checkedSub hab h.output,
      prepareAndValidateBy_uncheckedSub]
  apply Tx.run_bind_congr_of_run_eq hvalidate
  intro act s₂ h₂
  obtain ⟨hact, rfl⟩ := Tx.run_reads_eq_ok.mp h₂
  rw [prepareAndValidateBy_uncheckedSub] at hact
  obtain ⟨t, ht, rfl⟩ := (prepareAndValidate_eq_ok hab).mp hact
  apply Tx.run_withTransaction_congr
  rw [reserveBy_uncheckedSub]
  exact run_reserveBy_checkedSub ht.amountIn ht.amountOut (h.fee_le ht)

theorem neverPanics_performCreateSwapUnchecked (ht : Agreed s a w t)
    (source : T.AccountId) :
    NeverTx Panics (Technical.performCreateSwapUnchecked source
      (PolySwapAction.pairSwap (a.completed w t))) := by
  rw [performCreateSwapUnchecked_pairSwap]
  exact quietTx_withTransaction (neverPanics_reserve ht.isResolved source)

theorem neverPanics_createSwap (a : PairSwapAction T) (w : T.AccountId) :
    NeverTx Panics (Technical.createSwap w (PolySwapAction.pairSwap a)) := by
  intro s
  refine Tx.neverFrom_bind (Tx.neverFrom_liftM (quiet_ensure rfl) s)
    fun _ s₁ hrun => ?_
  obtain ⟨hensure, rfl⟩ := Tx.run_liftM_eq_ok.mp hrun
  have hab : a.isAbstractChecking = false := ensure_eq_ok.mp hensure
  have hvalidate : NeverTx Panics
      ((PolySwapAction.pairSwap a).prepareAndValidate (some w)) :=
    PolySwapAction.neverPanics_prepareAndValidate hab
  apply Tx.neverFrom_bind (hvalidate s)
  intro act s₂ h
  obtain ⟨_, _, hvalid, hact⟩ := Tx.run_bind_eq_ok.mp h
  obtain ⟨hvalid, -⟩ := Tx.run_reads_eq_ok.mp hvalid
  obtain ⟨t, ht, rfl⟩ := (prepareAndValidate_eq_ok hab).mp hvalid
  cases hact
  exact neverPanics_performCreateSwapUnchecked ht w s₂

theorem run_createSwapBy_panics_of_price (hab : a.isAbstractChecking = false)
    {ta : ℕ} (h : Prices s a w ta)
    (hlt : s.free a.destination.asset a.poolRepr < ta) :
    (createSwapBy checkedSub w a).run s = (.error .panic, s) := by
  refine (Tx.run_bind_of_ok (Tx.run_liftM_eq_ok.mpr
    ⟨(ensure_eq_ok (u := ())).mpr hab, rfl⟩)).trans ?_
  have hvalidate : (Tx.reads fun s =>
      a.prepareAndValidateBy checkedSub s (some w)).run s =
        (.error .panic, s) :=
    Prod.ext (prepareAndValidateBy_panics hab h hlt) rfl
  rw [Tx.run_bind, hvalidate]

theorem run_createSwapBy_panics_of_fee (hab : a.isAbstractChecking = false)
    (houtput : ∀ ta, Prices s a w ta →
      ta ≤ s.free a.destination.asset a.poolRepr)
    (ht : Agreed s a w t) (hgets : GetsToFee s a w t)
    (hlt : amountOnFeeSide a.feeFromDestination t.amountIn t.amountOut <
      t.fee) :
    (createSwapBy checkedSub w a).run s = (.error .panic, s) := by
  refine (Tx.run_bind_of_ok (Tx.run_liftM_eq_ok.mpr
    ⟨(ensure_eq_ok (u := ())).mpr hab, rfl⟩)).trans ?_
  have hvalidate : (Tx.reads fun s =>
      a.prepareAndValidateBy checkedSub s (some w)).run s =
        (.ok (a.completed w t), s) :=
    Tx.run_reads_eq_ok.mpr
      ⟨(prepareAndValidateBy_checkedSub hab houtput).trans
        ((prepareAndValidate_eq_ok hab).mpr ⟨t, ht, rfl⟩), rfl⟩
  apply (Tx.run_bind_of_ok hvalidate).trans
  exact Tx.run_withTransaction_eq_error.mpr
    ⟨rfl, s, run_reserveBy_panics ht.amountIn ht.amountOut hgets hlt⟩

/-- A submitted action panics exactly when it makes the pallet compute a
negative difference. -/
theorem neverPanics_createSwapBy_iff (hab : a.isAbstractChecking = false) :
    Tx.NeverFrom Panics (createSwapBy checkedSub w a) s ↔
      SubtractionsCovered s a w := by
  constructor
  · intro h
    have houtput : ∀ ta, Prices s a w ta →
        ta ≤ s.free a.destination.asset a.poolRepr := by
      intro ta hprices
      by_contra hlt
      exact h _ _ (run_createSwapBy_panics_of_price hab hprices
        (not_le.mp hlt)) rfl
    refine ⟨houtput, fun t ht hfee hgets => ?_⟩
    by_contra hlt
    rw [← ht.amountOnFeeSide_eq] at hlt
    exact h _ _ (run_createSwapBy_panics_of_fee hab houtput ht hgets
      (not_le.mp hlt)) rfl
  · intro h e s' hrun
    rw [run_createSwapBy_checkedSub hab h] at hrun
    exact neverPanics_createSwap a w s e s' hrun

theorem neverPanics_createSwapBy_of_abstract
    (hab : a.isAbstractChecking = true) :
    Tx.NeverFrom Panics (createSwapBy checkedSub w a) s := by
  refine Tx.neverFrom_bind (Tx.neverFrom_liftM (quiet_ensure rfl) s)
    fun _ s₁ hensure => ?_
  obtain ⟨hensure, -⟩ := Tx.run_liftM_eq_ok.mp hensure
  have hfalse : a.isAbstractChecking = false := ensure_eq_ok.mp hensure
  rw [hab] at hfalse
  cases hfalse

end PairSwapAction

/-! ### Exchanges -/

section

open PairSwapAction

variable {s : Storage T} {who receiver : T.AccountId} {dexId : T.DEXId}
variable {inputAssetId outputAssetId : T.AssetId} {swapAmount : SwapAmount}
variable {techAcc : TechAccountIdOf T} {t : Terms T}

/-- The outcome takes the fee from an output that pays it. -/
theorem exchangeOutcomeBy_checkedSub
    (ht : Agreed s (exchangeAction receiver techAcc inputAssetId outputAssetId
      swapAmount) who t) :
    exchangeOutcomeBy checkedSub ((exchangeAction receiver techAcc inputAssetId
        outputAssetId swapAmount).completed who t) swapAmount =
      exchangeOutcomeBy uncheckedSub ((exchangeAction receiver techAcc
        inputAssetId outputAssetId swapAmount).completed who t)
        swapAmount := by
  apply Tx.except_bind_congr
  intro fee hfee
  cases unwrap_eq_ok.mp hfee
  apply Tx.except_bind_congr
  intro side hside
  cases unwrap_eq_ok.mp hside
  cases swapAmount with
  | withDesiredInput desired minimum =>
      apply Tx.except_bind_congr
      intro amount hamount
      have hamount := Bounds.unwrap_eq_ok.mp hamount
      cases ht.amountOut.symm.trans hamount
      rw [feeFromDestination_exchangeAction]
      cases hdecided : decideIsFeeFromDestination inputAssetId outputAssetId with
      | true => rw [checkedSub_of_le ((fee_le_of_exchange ht).1 hdecided)]
      | false => rfl
  | withDesiredOutput desired maximum => rfl

theorem exchange_fee_le
    (ht : Agreed s (exchangeAction receiver techAcc inputAssetId outputAssetId
      swapAmount) who t) :
    t.fee ≤ amountOnFeeSide
      (exchangeAction receiver techAcc inputAssetId outputAssetId
        swapAmount).feeFromDestination t.amountIn t.amountOut := by
  obtain ⟨recomFee, hamounts, ⟨-, hfee⟩ | ⟨hfee, -⟩⟩ := ht.amounts
  · rw [hfee]
    exact recomFee_le ht.sourceReserve hamounts ht.amountIn ht.amountOut
  · cases hfee

/-- The prices of an exchange are those of the action it builds. -/
def PriceCovered (s : Storage T) (who receiver : T.AccountId)
    (dexId : T.DEXId) (inputAssetId outputAssetId : T.AssetId)
    (swapAmount : SwapAmount) : Prop :=
  ∀ techAcc ta, IsPoolOf s dexId inputAssetId outputAssetId techAcc →
    Prices s (exchangeAction receiver techAcc inputAssetId outputAssetId
      swapAmount) who ta →
    ta ≤ s.free outputAssetId (Technical.techAccountIdToAccountId techAcc)

theorem run_swapPairBy_checkedSub
    (h : PriceCovered s who receiver dexId inputAssetId outputAssetId
      swapAmount) :
    (swapPairBy checkedSub who receiver dexId inputAssetId outputAssetId
        swapAmount).run s =
      (swapPair who receiver dexId inputAssetId outputAssetId
        swapAmount).run s := by
  rw [← swapPairBy_uncheckedSub]
  have hexchange : (exchangeBy checkedSub who receiver dexId inputAssetId
      outputAssetId swapAmount).run s =
    (exchangeBy uncheckedSub who receiver dexId inputAssetId outputAssetId
      swapAmount).run s := by
    apply Tx.run_bind_congr
    intro p s₁ hlookup
    obtain ⟨hp, rfl⟩ := Tx.run_reads_eq_ok.mp hlookup
    have hab : (exchangeAction receiver p.2 inputAssetId outputAssetId
        swapAmount).isAbstractChecking = false :=
      isAbstractChecking_exchangeAction _ _ _ _ _
    have hvalidate : (exchangeAction receiver p.2 inputAssetId outputAssetId
        swapAmount).prepareAndValidateBy checkedSub s (some who) =
      (exchangeAction receiver p.2 inputAssetId outputAssetId
        swapAmount).prepareAndValidateBy uncheckedSub s (some who) := by
      rw [prepareAndValidateBy_uncheckedSub]
      exact prepareAndValidateBy_checkedSub hab fun ta =>
        h p.2 ta ⟨p.1, hp⟩
    have hreads : (Tx.reads fun s => (exchangeAction receiver p.2 inputAssetId
        outputAssetId swapAmount).prepareAndValidateBy checkedSub s
          (some who)).run s =
      (Tx.reads fun s => (exchangeAction receiver p.2 inputAssetId
        outputAssetId swapAmount).prepareAndValidateBy uncheckedSub s
          (some who)).run s := by
      rw [Tx.run_reads, Tx.run_reads, hvalidate]
    apply Tx.run_bind_congr_of_run_eq hreads
    intro act s₂ hvalid
    obtain ⟨hact, rfl⟩ := Tx.run_reads_eq_ok.mp hvalid
    rw [prepareAndValidateBy_uncheckedSub] at hact
    obtain ⟨t, ht, rfl⟩ := (prepareAndValidate_eq_ok hab).mp hact
    rw [exchangeOutcomeBy_checkedSub ht]
    apply Tx.run_bind_congr
    intro outcome s₃ houtcome
    obtain ⟨-, rfl⟩ := Tx.run_liftM_eq_ok.mp houtcome
    refine Tx.run_bind_congr_of_run_eq ?_ fun _ _ _ => rfl
    rw [reserveBy_uncheckedSub]
    exact Tx.run_withTransaction_congr (run_reserveBy_checkedSub ht.amountIn
      ht.amountOut fun _ => exchange_fee_le ht)
  exact Tx.run_bind_congr_of_run_eq hexchange fun _ _ _ => rfl

theorem neverPanics_exchangeOutcome {a : PairSwapAction T}
    (h : a.IsResolved) (swapAmount : SwapAmount) :
    Tx.Never Panics (exchangeOutcome a swapAmount) := by
  refine Tx.never_bind (neverPanics_unwrap h.fee) fun _ _ => ?_
  apply Tx.never_bind (neverPanics_unwrap h.feeSide)
  intro side _
  cases swapAmount with
  | withDesiredInput desired minimum =>
      refine Tx.never_bind h.destination.unwrap fun _ _ => ?_
      split_ifs
      · exact Tx.never_ok _
      · exact Tx.never_ok _
  | withDesiredOutput desired maximum =>
      exact Tx.never_bind h.source.unwrap fun _ _ => Tx.never_ok _

/-- Without overflow checks an exchange never panics. -/
theorem neverPanics_swapPair (who receiver : T.AccountId) (dexId : T.DEXId)
    (inputAssetId outputAssetId : T.AssetId) (swapAmount : SwapAmount) :
    NeverTx Panics (swapPair who receiver dexId inputAssetId outputAssetId
      swapAmount) := by
  intro s
  refine Tx.neverFrom_bind ?_ fun _ s' _ => Tx.neverFrom_pure () s'
  refine Tx.neverFrom_bind (Tx.neverFrom_reads ?_) fun p s₁ _ => ?_
  · exact quiet_techAccountFromDexAndAssetPair
  have hab : (exchangeAction receiver p.2 inputAssetId outputAssetId
      swapAmount).isAbstractChecking = false :=
    isAbstractChecking_exchangeAction _ _ _ _ _
  refine Tx.neverFrom_bind (Tx.neverFrom_reads ?_) fun act s₂ hvalid => ?_
  · exact PairSwapAction.neverPanics_prepareAndValidate hab
  obtain ⟨hact, -⟩ := Tx.run_reads_eq_ok.mp hvalid
  obtain ⟨t, ht, rfl⟩ := (prepareAndValidate_eq_ok hab).mp hact
  refine Tx.neverFrom_bind (Tx.neverFrom_liftM ?_ _) fun outcome s₃ _ => ?_
  · exact neverPanics_exchangeOutcome ht.isResolved swapAmount
  exact quietTx_bind (neverPanics_performCreateSwapUnchecked ht who)
    (fun _ => Tx.neverFrom_pure _) s₃

theorem run_swapPairBy_panics {ta : ℕ}
    (hpool : IsPoolOf s dexId inputAssetId outputAssetId techAcc)
    (hprices : Prices s (exchangeAction receiver techAcc inputAssetId
      outputAssetId swapAmount) who ta)
    (hlt : s.free outputAssetId
      (Technical.techAccountIdToAccountId techAcc) < ta) :
    (swapPairBy checkedSub who receiver dexId inputAssetId outputAssetId
      swapAmount).run s = (.error .panic, s) := by
  obtain ⟨tpair, hp⟩ := hpool
  have hab : (exchangeAction receiver techAcc inputAssetId outputAssetId
      swapAmount).isAbstractChecking = false :=
    isAbstractChecking_exchangeAction _ _ _ _ _
  have hvalidate : (Tx.reads fun s => (exchangeAction receiver techAcc
      inputAssetId outputAssetId swapAmount).prepareAndValidateBy checkedSub s
        (some who)).run s = (.error .panic, s) := by
    rw [Tx.run_reads, prepareAndValidateBy_panics hab hprices hlt]
  have hexchange : (exchangeBy checkedSub who receiver dexId inputAssetId
      outputAssetId swapAmount).run s = (.error .panic, s) := by
    have hlookup : (Tx.reads fun s => techAccountFromDexAndAssetPair s dexId
        inputAssetId outputAssetId).run s = (.ok (tpair, techAcc), s) :=
      Tx.run_reads_eq_ok.mpr ⟨hp, rfl⟩
    apply (Tx.run_bind_of_ok hlookup).trans
    exact Tx.run_bind_eq_error.mpr (Or.inl hvalidate)
  exact Tx.run_bind_eq_error.mpr (Or.inl hexchange)

/-- An exchange panics exactly when it asks for the price of an output that is
more than the reserve. -/
theorem neverPanics_swapPairBy_iff :
    Tx.NeverFrom Panics (swapPairBy checkedSub who receiver dexId inputAssetId
        outputAssetId swapAmount) s ↔
      PriceCovered s who receiver dexId inputAssetId outputAssetId
        swapAmount := by
  constructor
  · intro h techAcc ta hpool hprices
    by_contra hlt
    exact h _ _ (run_swapPairBy_panics hpool hprices (not_le.mp hlt)) rfl
  · intro h e s' hrun
    rw [run_swapPairBy_checkedSub h] at hrun
    exact neverPanics_swapPair _ _ _ _ _ _ s e s' hrun

end

/-- In every state and for every call, no difference of a swap is negative
exactly when an output that is priced by the fee on the source is within the
reserve and a fee that the action names is within the amount it is part of. -/
theorem swap_subtractions_covered_iff (s : Storage T) (who : T.AccountId) :
    (∀ receiver dexId inputAssetId outputAssetId swapAmount,
        Tx.NeverFrom Panics (swapPairBy checkedSub who receiver dexId
            inputAssetId outputAssetId swapAmount) s ↔
          PriceCovered s who receiver dexId inputAssetId outputAssetId
            swapAmount) ∧
      ∀ action : PairSwapAction T,
        Tx.NeverFrom Panics (createSwapBy checkedSub who action) s ↔
          (action.isAbstractChecking = false →
            action.SubtractionsCovered s who) := by
  refine ⟨fun _ _ _ _ _ => neverPanics_swapPairBy_iff, fun action => ?_⟩
  cases hab : action.isAbstractChecking with
  | true =>
      refine iff_of_true ?_ fun hfalse => Bool.noConfusion hfalse
      exact PairSwapAction.neverPanics_createSwapBy_of_abstract hab
  | false =>
      rw [PairSwapAction.neverPanics_createSwapBy_iff hab]
      exact ⟨fun h _ => h, fun h => h rfl⟩

/-- A sale of a thousand of the base asset that names a fee. -/
def namedFee (fee : ℕ) : PairSwapAction Mock.runtime where
  clientAccount := none
  receiverAccount := some Mock.carol.account
  poolAccount := Mock.poolOf Mock.dexA Mock.redPepper
  source := ⟨Mock.goldenTicket, .desired 1000⟩
  destination := ⟨Mock.redPepper, .min 1⟩
  fee := some fee
  feeAccount := none
  getFeeFromDestination := none

/-- Twice the reserve as an exact output, and a fee of one more than the amount
it is taken from. -/
theorem swap_differences_below_zero :
    ((swapPairBy checkedSub Mock.alice.account Mock.carol.account
        Mock.dexA Mock.goldenTicket Mock.redPepper
        (.withDesiredOutput (2000000 * Mock.unit)
          (4000000 * Mock.unit))).run Mock.funded).1 = .error .panic ∧
      ((createSwapBy checkedSub Mock.alice.account (namedFee 1001)).run
        Mock.funded).1 = .error .panic ∧
      ((createSwapBy checkedSub Mock.alice.account (namedFee 1000)).run
        Mock.funded).1 = .ok () := by
  decide +kernel

end PoolXyk
end SoraParachain

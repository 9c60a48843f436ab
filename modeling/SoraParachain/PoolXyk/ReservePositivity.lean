import SoraParachain.PoolXyk.Errors
import SoraParachain.PoolXyk.ExchangeAmounts
import SoraParachain.PoolXyk.Growth
import SoraParachain.PoolXyk.ShareWorth

/-!
# Reserves stay positive

A call that succeeds takes less from a technical account than it holds: only
the pool that the call works on pays anything out, and what it pays is below
its reserve.  A swap for the whole reserve would divide by the remaining zero,
and a withdrawal leaves the share of the minimum liquidity behind.  Calls that
fail take nothing, so the two balances of a pool stay positive over any run.
-/

namespace SoraParachain

variable {T : Config}

/-- The calls that move assets without registering any and mint marker tokens
only. -/
def Call.isTraffic : Call T → Bool
  | .assetsTransfer _ _ _ => true
  | .depositLiquidity _ _ _ _ _ _ _ => true
  | .withdrawLiquidity _ _ _ _ _ _ => true
  | .swapPair _ _ _ _ _ => true
  | _ => false

/-- A call of the pool for two assets on a DEX, in either order. -/
def Call.IsOnPair (dexId : T.DEXId) (assetA assetB : T.AssetId)
    (call : Call T) : Prop :=
  ∃ x y, (x = assetA ∧ y = assetB ∨ x = assetB ∧ y = assetA) ∧
    ((∃ receiver swapAmount, call = .swapPair receiver dexId x y swapAmount) ∨
      (∃ xDesired yDesired xMin yMin,
        call = .depositLiquidity dexId x y xDesired yDesired xMin yMin) ∨
      ∃ k xMin yMin, call = .withdrawLiquidity dexId x y k xMin yMin)

/-- Payments that take less than a balance leave it positive. -/
theorem Book.free_paid_pos {CurrencyId AccountId : Type}
    [DecidableEq CurrencyId] [DecidableEq AccountId]
    {b : Book CurrencyId AccountId} {c : CurrencyId} {a : AccountId}
    {payments : List (Payment CurrencyId AccountId)}
    (h : outflow payments c a < b.free c a) :
    0 < (b.paid payments).free c a := by
  have hle : b.free c a ≤ (b.paid payments).free c a + outflow payments c a :=
    Book.free_le_free_paid_add_outflow
  omega

namespace PoolXyk

variable {s s' : Storage T} {w who receiver : T.AccountId}
variable {dexId : T.DEXId} {assetA assetB c : T.AssetId}
variable {techAcc other : TechAccountIdOf T} {u : Unit}

open Technical (techAccountIdToAccountId)

/-! ## What the calls take from a technical account -/

/-- The test of the ratio after a swap divides by the remaining reserve. -/
theorem lt_of_validAfter {x y amountIn amountOut : ℕ}
    (h : PairSwapAction.poolIsValidAfterOpTest x y amountIn amountOut =
      .ok true) (hle : amountOut ≤ y) :
    amountOut < y := by
  obtain ⟨diff, hdiff, -⟩ := Tx.except_bind_eq_ok.mp h
  rw [toBalance_eq_ok] at hdiff
  obtain ⟨z, -, hz, -, -⟩ := FixedWrapper.holds_mul.mp hdiff
  obtain ⟨q, -, hafter, -, -⟩ := FixedWrapper.holds_sub.mp hz
  obtain ⟨-, r, -, hr, hne, -⟩ := FixedWrapper.holds_div.mp hafter
  obtain ⟨y', out', hy, hout, rfl, -⟩ := FixedWrapper.holds_sub.mp hr
  obtain ⟨rfl, -⟩ := FixedWrapper.holds_ofBalance.mp hy
  obtain ⟨rfl, -⟩ := FixedWrapper.holds_ofBalance.mp hout
  apply lt_of_le_of_ne hle
  intro heq
  apply hne
  rw [heq]
  exact Int.sub_self _

/-- An exchange takes its output from the pool and nothing else from any
technical account. -/
theorem outflow_exchange {swapAmount : SwapAmount}
    {t : PairSwapAction.Terms T}
    (hagreed : PairSwapAction.Agreed s (exchangeAction receiver techAcc assetA
      assetB swapAmount) w t)
    (hw : techAccountIdToAccountId other ≠ w) :
    outflow ((exchangeAction receiver techAcc assetA assetB
        swapAmount).payments w t) c (techAccountIdToAccountId other) =
      if assetB = c ∧ techAccountIdToAccountId techAcc =
          techAccountIdToAccountId other then t.amountOut else 0 := by
  have hsigner : ∀ d : T.AssetId,
      ¬(d = c ∧ w = techAccountIdToAccountId other) :=
    fun d h => hw h.2.symm
  obtain ⟨hdest, -⟩ := fee_le_of_exchange hagreed
  rw [PairSwapAction.payments, feeFromDestination_exchangeAction]
  cases hside : decideIsFeeFromDestination assetA assetB with
  | true =>
      have hle := hdest hside
      rw [if_pos rfl, outflow_cons, outflow_cons, outflow_cons,
        if_neg (hsigner _), wrappingSub_of_le hle]
      change 0 + ((if assetB = c ∧ techAccountIdToAccountId techAcc =
          techAccountIdToAccountId other then t.fee else 0) +
        ((if assetB = c ∧ techAccountIdToAccountId techAcc =
          techAccountIdToAccountId other then t.amountOut - t.fee else 0) +
            0)) = _
      split_ifs
      · omega
      · rfl
  | false =>
      rw [if_neg Bool.false_ne_true, outflow_cons, outflow_cons, outflow_cons,
        if_neg (hsigner _), if_neg (hsigner _)]
      change 0 + (0 + ((if assetB = c ∧ techAccountIdToAccountId techAcc =
        techAccountIdToAccountId other then t.amountOut else 0) + 0)) = _
      split_ifs
      · omega
      · rfl

theorem positive_of_swapPair (hM : T.currency.Lawful balanceModulus)
    {swapAmount : SwapAmount} (hw : techAccountIdToAccountId other ≠ w)
    (hpos : 0 < s.free c (techAccountIdToAccountId other))
    (h : (swapPair w receiver dexId assetA assetB swapAmount).run s =
      (.ok u, s')) :
    0 < s'.free c (techAccountIdToAccountId other) := by
  obtain ⟨techAcc, t, l, -, hset, rfl⟩ := run_swapPair_ok.mp h
  obtain ⟨-, hbook⟩ := hset.book hM
  have hagreed := hset.agreed
  have hlt : t.amountOut <
      s.free assetB (techAccountIdToAccountId techAcc) :=
    lt_of_validAfter hagreed.validAfter hagreed.destinationCovered
  change 0 < (T.currency.book l).free c (techAccountIdToAccountId other)
  rw [hbook]
  apply Book.free_paid_pos
  rw [outflow_exchange hagreed hw]
  split_ifs with heq
  · rw [← heq.1, ← heq.2]
    exact hlt
  · exact hpos

theorem positive_of_depositLiquidity (hM : T.currency.Lawful balanceModulus)
    {aDesired bDesired aMin bMin : ℕ}
    (hw : techAccountIdToAccountId other ≠ w)
    (hpos : 0 < s.free c (techAccountIdToAccountId other))
    (h : (depositLiquidity w dexId assetA assetB aDesired bDesired aMin
      bMin).run s = (.ok u, s')) :
    0 < s'.free c (techAccountIdToAccountId other) := by
  obtain ⟨techAcc, -, -, -, -, hpool, -⟩ := run_depositLiquidity_ok.mp h
  obtain ⟨mark, t, -, hdeposited⟩ := deposited_of_run hM hpool h
  rw [Storage.free, hdeposited.book]
  apply lt_of_lt_of_le hpos
  exact ((Book.free_le_free_moved hw).trans
    (Book.free_le_free_moved hw)).trans Book.free_le_free_issued

/-- A payout is below the reserve it is taken from. -/
theorem payout_lt {reserve k supply p : ℕ}
    (h : WithdrawLiquidityAction.shareOf reserve k supply = .ok p)
    (hreserve : 0 < reserve) (hk : k ≤ supply) :
    p < reserve := by
  have hfair : FairPayout reserve (reserve - p) p 0 k supply (supply - k) :=
    .of_shareOf h (Nat.zero_le p) hreserve rfl hk rfl
  have hleft := hfair.positive
  omega

theorem positive_of_withdrawLiquidity (hM : T.currency.Lawful balanceModulus)
    {k aMin bMin : ℕ} (hw : techAccountIdToAccountId other ≠ w)
    (hpos : 0 < s.free c (techAccountIdToAccountId other))
    (h : (withdrawLiquidity w dexId assetA assetB k aMin bMin).run s =
      (.ok u, s')) :
    0 < s'.free c (techAccountIdToAccountId other) := by
  obtain ⟨techAcc, mark, t, l, l', hpool, hset, rfl⟩ :=
    run_withdrawLiquidity_ok.mp h
  have hagreed := hset.agreed
  have hk : t.burned ≤ s.issuance (T.techAssetIdInto mark) :=
    hagreed.covered.trans (hM.free_le_issuance _ _ _)
  have hltA := payout_lt hagreed.shareA hagreed.reserves.1 hk
  have hltB := payout_lt hagreed.shareB hagreed.reserves.2 hk
  obtain ⟨-, hpaid⟩ := hM.payAll_ok hset.paid
  have hne := hpool.assets_ne
  change 0 < (T.currency.book l').free c (techAccountIdToAccountId other)
  rw [(hM.withdraw_ok hset.burned).2, Book.free_retired_of_ne_account hw, hpaid]
  apply Book.free_paid_pos
  rw [WithdrawLiquidityAction.payments, outflow_cons, outflow_cons]
  change (if assetA = c ∧ techAccountIdToAccountId techAcc =
      techAccountIdToAccountId other then t.amountA else 0) +
    ((if assetB = c ∧ techAccountIdToAccountId techAcc =
      techAccountIdToAccountId other then t.amountB else 0) + 0) < _
  split_ifs with hA hB hB
  · exact absurd (hA.1.trans hB.1.symm) hne
  · rw [← hA.1, ← hA.2]
    exact hltA
  · rw [← hB.1, ← hB.2, Nat.zero_add]
    exact hltB
  · exact hpos

theorem positive_of_transfer (hM : T.currency.Lawful balanceModulus)
    {assetId : T.AssetId} {dest : T.AccountId} {amount : ℕ}
    (hw : techAccountIdToAccountId other ≠ w)
    (hpos : 0 < s.free c (techAccountIdToAccountId other))
    (h : (Assets.transfer w assetId dest amount).run s = (.ok u, s')) :
    0 < s'.free c (techAccountIdToAccountId other) := by
  obtain ⟨-, -, l, hl, rfl⟩ := Assets.run_transferFrom_ok.mp h
  obtain ⟨-, hbook⟩ := hM.transfer_ok hl
  change 0 < (T.currency.book l).free c (techAccountIdToAccountId other)
  rw [hbook]
  exact lt_of_lt_of_le hpos (Book.free_le_free_moved hw)

/-- No call takes the last of what a technical account holds of an asset. -/
theorem step_keeps_positive (hM : T.currency.Lawful balanceModulus)
    {x : Extrinsic T} (hx : x.2.isTraffic = true)
    (hpos : 0 < s.free c (techAccountIdToAccountId other)) :
    0 < (step s x).free c (techAccountIdToAccountId other) := by
  obtain ⟨who, call⟩ := x
  have hw := who.notTechnical other
  rcases step_succeeds_or s (who, call) with h | h
  · cases call with
    | assetsTransfer assetId dest amount =>
        exact positive_of_transfer hM hw hpos h
    | depositLiquidity dexId assetA assetB aDesired bDesired aMin bMin =>
        exact positive_of_depositLiquidity hM hw hpos h
    | withdrawLiquidity dexId assetA assetB k aMin bMin =>
        exact positive_of_withdrawLiquidity hM hw hpos h
    | swapPair receiver dexId assetA assetB swapAmount =>
        exact positive_of_swapPair hM hw hpos h
    | _ => cases hx
  · rw [SameButRecords] at h
    rw [h]
    exact hpos

theorem runs_keeps_positive (hM : T.currency.Lawful balanceModulus)
    {extrinsics : List (Extrinsic T)}
    (htraffic : ∀ x ∈ extrinsics, x.2.isTraffic = true)
    (hpos : 0 < s.free c (techAccountIdToAccountId other)) :
    0 < (runs s extrinsics).free c (techAccountIdToAccountId other) := by
  induction extrinsics generalizing s with
  | nil => exact hpos
  | cons x rest ih =>
      have hx : x.2.isTraffic = true := htraffic x List.mem_cons_self
      have hrest : ∀ y ∈ rest, y.2.isTraffic = true :=
        fun y hy => htraffic y (List.mem_cons_of_mem x hy)
      exact ih hrest (step_keeps_positive hM hx hpos)

/-! ## A pool with both balances -/

/-- No call on a pool with both balances reports that one is missing. -/
theorem not_reportsDrained (hpool : IsPoolOf s dexId assetA assetB techAcc)
    (hA : 0 < s.free assetA (techAccountIdToAccountId techAcc))
    (hB : 0 < s.free assetB (techAccountIdToAccountId techAcc))
    {x : Extrinsic T} (hx : x.2.IsOnPair dexId assetA assetB) {e : Failure}
    (h : x.run s = (.error e, s')) :
    ¬ReportsDrained e := by
  obtain ⟨who, call⟩ := x
  obtain ⟨assetX, assetY, hassets, hcall⟩ := hx
  obtain ⟨hpoolXY, hX, hY⟩ : IsPoolOf s dexId assetX assetY techAcc ∧
      0 < s.free assetX (techAccountIdToAccountId techAcc) ∧
      0 < s.free assetY (techAccountIdToAccountId techAcc) := by
    rcases hassets with ⟨rfl, rfl⟩ | ⟨rfl, rfl⟩
    · exact ⟨hpool, hA, hB⟩
    · exact ⟨hpool.swap, hB, hA⟩
  rcases hcall with ⟨receiver, swapAmount, rfl⟩ | ⟨xDes, yDes, xMin, yMin, rfl⟩ |
    ⟨k, xMin, yMin, rfl⟩
  · exact swapPair_not_drained hpoolXY hX hY swapAmount e s' h
  · exact depositLiquidity_not_drained hpoolXY hX hY _ _ _ _ e s' h
  · exact withdrawLiquidity_not_drained hpoolXY hX hY _ _ _ e s' h

/-- Once both balances of a pool are positive they stay positive over any run
of exchanges, deposits, withdrawals and transfers, and the pool does not report
again that it is empty or invalid. -/
theorem reserves_stay_positive (hM : T.currency.Lawful balanceModulus)
    (hpool : IsPoolOf s dexId assetA assetB techAcc)
    (hA : 0 < s.free assetA (techAccountIdToAccountId techAcc))
    (hB : 0 < s.free assetB (techAccountIdToAccountId techAcc))
    {extrinsics : List (Extrinsic T)}
    (htraffic : ∀ x ∈ extrinsics, x.2.isTraffic = true) :
    0 < (runs s extrinsics).free assetA (techAccountIdToAccountId techAcc) ∧
      0 < (runs s extrinsics).free assetB (techAccountIdToAccountId techAcc) ∧
      ∀ (x : Extrinsic T) (e : Failure) (s' : Storage T),
        x.2.IsOnPair dexId assetA assetB →
          x.run (runs s extrinsics) = (.error e, s') → ¬ReportsDrained e := by
  have hA' := runs_keeps_positive hM htraffic hA
  have hB' := runs_keeps_positive hM htraffic hB
  have hpool' : IsPoolOf (runs s extrinsics) dexId assetA assetB techAcc :=
    hpool.of_dexInfos_eq (runs_extends s extrinsics).dexInfos
  refine ⟨hA', hB', ?_⟩
  intro x e s' hx h
  exact not_reportsDrained hpool' hA' hB' hx h

/-- The sample pool after a sale, a withdrawal and a gift. -/
theorem reserves_stay_positive_sample :
    0 < (runs Mock.funded [Mock.sellPepper 0, Mock.withdrawUnit]).free
        Mock.goldenTicket
        (techAccountIdToAccountId (Mock.poolOf Mock.dexA Mock.redPepper)) ∧
      0 < (runs Mock.funded [Mock.sellPepper 0, Mock.withdrawUnit]).free
        Mock.redPepper
        (techAccountIdToAccountId (Mock.poolOf Mock.dexA Mock.redPepper)) := by
  have hpool : IsPoolOf Mock.funded Mock.dexA Mock.goldenTicket Mock.redPepper
      (Mock.poolOf Mock.dexA Mock.redPepper) :=
    Mock.isPoolOf (by decide +kernel) (by decide)
  have hstay := reserves_stay_positive Mock.currency_lawful hpool
    (by decide +kernel) (by decide +kernel)
    (show ∀ x ∈ [Mock.sellPepper 0, Mock.withdrawUnit],
      x.2.isTraffic = true by decide)
  exact ⟨hstay.1, hstay.2.1⟩

end PoolXyk
end SoraParachain

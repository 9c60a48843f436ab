import SoraParachain.PoolXyk.Pallet
import SoraParachain.PoolXyk.WithdrawSpec

/-!
# What a successful call of the pool settles

The calls add a lookup of the pool account to the validation and the settlement
of an action.  A call that fails leaves at most the record of a marker asset
behind.
-/

namespace SoraParachain
namespace PoolXyk

variable {T : Config}

open Technical (techAccountIdToAccountId IsRegistered performCreateSwap
  performCreateSwapUnchecked)

/-! ## Settled actions -/

/-- A swap signed by `w` is accepted on terms and settles into a ledger. -/
structure PairSwapAction.Settles (s : Storage T) (a : PairSwapAction T)
    (w : T.AccountId) (t : PairSwapAction.Terms T) (l : T.currency.Ledger) :
    Prop where
  agreed : PairSwapAction.Agreed s a w t
  payable : PairSwapAction.Payable s a w t
  paid : T.currency.payAll (a.payments w t) s.ledger = .ok l

/-- A deposit signed by `w` is accepted on terms and settles into a ledger. -/
structure DepositLiquidityAction.Settles (s : Storage T)
    (a : DepositLiquidityAction T) (w : T.AccountId)
    (t : DepositLiquidityAction.Terms) (l l' : T.currency.Ledger) : Prop where
  agreed : DepositLiquidityAction.Agreed s a w t
  payable : DepositLiquidityAction.Payable s a w
  paid : T.currency.payAll (a.payments w t) s.ledger = .ok l
  minted : T.currency.deposit a.marker (a.receiver w) t.minted l = .ok l'

/-- A withdrawal signed by `w` is accepted on terms and settles into a
ledger. -/
structure WithdrawLiquidityAction.Settles (s : Storage T)
    (a : WithdrawLiquidityAction T) (w : T.AccountId)
    (t : WithdrawLiquidityAction.Terms) (l l' : T.currency.Ledger) :
    Prop where
  agreed : WithdrawLiquidityAction.Agreed s a w t
  payable : WithdrawLiquidityAction.Payable s a w
  paid : T.currency.payAll (a.payments w t) s.ledger = .ok l
  burned : T.currency.withdraw a.marker w t.burned l = .ok l'

theorem withMarkingRecord_idem (s : Storage T) (techAcc : TechAccountIdOf T) :
    withMarkingRecord (withMarkingRecord s techAcc) techAcc =
      withMarkingRecord s techAcc := by
  simp only [withMarkingRecord, Function.update_idem]

/-- The record of a marker asset does not matter for a deposit. -/
theorem DepositLiquidityAction.settles_withMarkingRecord {s : Storage T}
    {a : DepositLiquidityAction T} {w : T.AccountId}
    {t : DepositLiquidityAction.Terms} {l l' : T.currency.Ledger}
    {techAcc : TechAccountIdOf T} :
    a.Settles (withMarkingRecord s techAcc) w t l l' ↔ a.Settles s w t l l' := by
  constructor
  · rintro ⟨⟨hclient, hreg, hmark, hA, hB, hpos, hamounts, hlocked, hcovered⟩,
      ⟨hreg', hA', hB', hAp, hBp, hmex, hmp, hmm⟩, hpaid, hminted⟩
    exact ⟨⟨hclient, hreg, hmark, hA, hB, hpos,
      amountsAgreed_resolved.mp hamounts, hlocked, hcovered⟩,
      ⟨hreg', hA', hB', hAp, hBp, hmex, hmp, hmm⟩, hpaid, hminted⟩
  · rintro ⟨⟨hclient, hreg, hmark, hA, hB, hpos, hamounts, hlocked, hcovered⟩,
      ⟨hreg', hA', hB', hAp, hBp, hmex, hmp, hmm⟩, hpaid, hminted⟩
    exact ⟨⟨hclient, hreg, hmark, hA, hB, hpos,
      amountsAgreed_resolved.mpr hamounts, hlocked, hcovered⟩,
      ⟨hreg', hA', hB', hAp, hBp, hmex, hmp, hmm⟩, hpaid, hminted⟩

/-- Nor does it for a withdrawal. -/
theorem WithdrawLiquidityAction.settles_withMarkingRecord {s : Storage T}
    {a : WithdrawLiquidityAction T} {w : T.AccountId}
    {t : WithdrawLiquidityAction.Terms} {l l' : T.currency.Ledger}
    {techAcc : TechAccountIdOf T} :
    a.Settles (withMarkingRecord s techAcc) w t l l' ↔ a.Settles s w t l l' := by
  constructor
  · rintro ⟨⟨hclient, hreg, hmark, hmex, hpos, hA, hB, hreserves, hdesired,
      hburned, hshareA, hshareB, hfst, hsnd, hcovered⟩,
      ⟨hreg', hA', hB', hAp, hBp, hmex', hbp⟩, hpaid, hwithdrawn⟩
    exact ⟨⟨hclient, hreg, hmark, hmex, hpos, hA, hB, hreserves, hdesired,
      hburned, hshareA, hshareB, hfst, hsnd, hcovered⟩,
      ⟨hreg', hA', hB', hAp, hBp, hmex', hbp⟩, hpaid, hwithdrawn⟩
  · rintro ⟨⟨hclient, hreg, hmark, hmex, hpos, hA, hB, hreserves, hdesired,
      hburned, hshareA, hshareB, hfst, hsnd, hcovered⟩,
      ⟨hreg', hA', hB', hAp, hBp, hmex', hbp⟩, hpaid, hwithdrawn⟩
    exact ⟨⟨hclient, hreg, hmark, hmex, hpos, hA, hB, hreserves, hdesired,
      hburned, hshareA, hshareB, hfst, hsnd, hcovered⟩,
      ⟨hreg', hA', hB', hAp, hBp, hmex', hbp⟩, hpaid, hwithdrawn⟩

/-! ## Actions as swaps of the technical pallet -/

/-- Every action of the pool is claimed as soon as it is settled. -/
theorem run_performCreateSwapUnchecked_ok {source : T.AccountId}
    {action : PolySwapAction T} {s s' : Storage T} {u : Unit} :
    (performCreateSwapUnchecked source action).run s = (.ok u, s') ↔
      (action.reserve source).run s = (.ok u, s') := by
  have hclaim : ∀ s₁ : Storage T,
      (performCreateSwapUnchecked source action).run s₁ =
        (Tx.withTransaction (action.reserve source >>= fun _ => pure ())).run
          s₁ := fun _ => rfl
  simp only [hclaim, Tx.run_withTransaction_eq_ok, Tx.run_bind_eq_ok,
    Tx.run_pure, Prod.mk.injEq]
  constructor
  · rintro ⟨_, _, h, -, rfl⟩
    exact h
  · intro h
    exact ⟨(), s', h, trivial, rfl⟩

theorem run_performCreateSwap_ok {source : T.AccountId}
    {action : PolySwapAction T} {s s' : Storage T} {u : Unit} :
    (performCreateSwap source action).run s = (.ok u, s') ↔
      action.isAbstractChecking = false ∧
        ∃ act s₁, (action.prepareAndValidate (some source)).run s =
          (.ok act, s₁) ∧ (act.reserve source).run s₁ = (.ok u, s') := by
  simp only [performCreateSwap, Tx.run_bind_eq_ok, Tx.run_liftM_eq_ok,
    ensure_eq_ok, run_performCreateSwapUnchecked_ok]
  constructor
  · rintro ⟨_, _, ⟨hab, rfl⟩, h⟩
    exact ⟨hab, h⟩
  · rintro ⟨hab, h⟩
    exact ⟨(), s, ⟨hab, rfl⟩, h⟩

theorem run_performCreateSwap_pairSwap_ok {w : T.AccountId}
    {a : PairSwapAction T} {s s' : Storage T} {u : Unit} :
    (performCreateSwap w (PolySwapAction.pairSwap a)).run s = (.ok u, s') ↔
      a.isAbstractChecking = false ∧
        ∃ t l, a.Settles s w t l ∧ s' = a.settled s l := by
  rw [run_performCreateSwap_ok]
  apply and_congr_right
  intro hab
  simp only [PolySwapAction.prepareAndValidate, Tx.run_bind_eq_ok,
    Tx.run_reads_eq_ok, Tx.run_pure, Prod.mk.injEq, Except.ok.injEq,
    PairSwapAction.prepareAndValidate_eq_ok hab]
  constructor
  · rintro ⟨_, _, ⟨_, _, ⟨⟨t, ht, rfl⟩, rfl⟩, rfl, rfl⟩, h⟩
    obtain ⟨hpay, l, hl, rfl⟩ :=
      (PairSwapAction.run_reserve_ok ht.amountIn ht.amountOut).mp h
    exact ⟨t, l, ⟨ht, hpay, hl⟩, rfl⟩
  · rintro ⟨t, l, ⟨ht, hpay, hl⟩, rfl⟩
    exact ⟨_, s, ⟨_, s, ⟨⟨t, ht, rfl⟩, rfl⟩, rfl, rfl⟩,
      (PairSwapAction.run_reserve_ok ht.amountIn ht.amountOut).mpr
        ⟨hpay, l, hl, rfl⟩⟩

theorem run_performCreateSwap_depositLiquidity_ok {w : T.AccountId}
    {a : DepositLiquidityAction T} {s s' : Storage T} {u : Unit} :
    (performCreateSwap w (PolySwapAction.depositLiquidity a)).run s =
        (.ok u, s') ↔
      a.isAbstractChecking = false ∧
        ∃ t l l', a.Settles s w t l l' ∧
          s' = a.settled (withMarkingRecord s a.poolAccount) l' := by
  rw [run_performCreateSwap_ok]
  apply and_congr_right
  intro hab
  simp only [PolySwapAction.prepareAndValidate, Tx.run_bind_eq_ok,
    Tx.run_pure, Prod.mk.injEq, Except.ok.injEq,
    DepositLiquidityAction.run_prepareAndValidate_ok hab]
  constructor
  · rintro ⟨_, _, ⟨_, _, ⟨t, ht, rfl, rfl⟩, rfl, rfl⟩, h⟩
    obtain ⟨hpay, l, l', hl, hl', rfl⟩ :=
      (DepositLiquidityAction.run_reserve_ok ht.amounts.toOption.1
        ht.amounts.toOption.2).mp h
    exact ⟨t, l, l', ⟨ht, ⟨hpay.1, hpay.2, hpay.3, hpay.4, hpay.5, hpay.6,
      hpay.7, hpay.8⟩, hl, hl'⟩, rfl⟩
  · rintro ⟨t, l, l', ⟨ht, hpay, hl, hl'⟩, rfl⟩
    exact ⟨_, _, ⟨_, _, ⟨t, ht, rfl, rfl⟩, rfl, rfl⟩,
      (DepositLiquidityAction.run_reserve_ok ht.amounts.toOption.1
        ht.amounts.toOption.2).mpr
        ⟨⟨hpay.1, hpay.2, hpay.3, hpay.4, hpay.5, hpay.6, hpay.7, hpay.8⟩, l,
          l', hl, hl', rfl⟩⟩

theorem run_performCreateSwap_withdrawLiquidity_ok {w : T.AccountId}
    {a : WithdrawLiquidityAction T} {s s' : Storage T} {u : Unit} :
    (performCreateSwap w (PolySwapAction.withdrawLiquidity a)).run s =
        (.ok u, s') ↔
      a.isAbstractChecking = false ∧
        ∃ t l l', a.Settles s w t l l' ∧
          s' = a.settled (withMarkingRecord s a.poolAccount) l' := by
  rw [run_performCreateSwap_ok]
  apply and_congr_right
  intro hab
  simp only [PolySwapAction.prepareAndValidate, Tx.run_bind_eq_ok,
    Tx.run_pure, Prod.mk.injEq, Except.ok.injEq,
    WithdrawLiquidityAction.run_prepareAndValidate_ok]
  constructor
  · rintro ⟨_, _, ⟨_, _, ⟨t, ht, rfl, rfl⟩, rfl, rfl⟩, h⟩
    obtain ⟨hpay, l, l', hl, hl', rfl⟩ :=
      (WithdrawLiquidityAction.run_reserve_ok
        (toOption_of_decideAgainst ht.fst) (toOption_of_decideAgainst ht.snd)
        ht.desired).mp h
    exact ⟨t, l, l', ⟨ht, ⟨hpay.1, hpay.2, hpay.3, hpay.4, hpay.5, hpay.6,
      hpay.7⟩, hl, hl'⟩, rfl⟩
  · rintro ⟨t, l, l', ⟨ht, hpay, hl, hl'⟩, rfl⟩
    exact ⟨_, _, ⟨_, _, ⟨t, ht, rfl, rfl⟩, rfl, rfl⟩,
      (WithdrawLiquidityAction.run_reserve_ok
        (toOption_of_decideAgainst ht.fst) (toOption_of_decideAgainst ht.snd)
        ht.desired).mpr
        ⟨⟨hpay.1, hpay.2, hpay.3, hpay.4, hpay.5, hpay.6, hpay.7⟩, l, l', hl,
          hl', rfl⟩⟩

/-! ## Calls -/

/-- The pool account of two assets on a DEX. -/
def IsPoolOf (s : Storage T) (dexId : T.DEXId) (assetA assetB : T.AssetId)
    (techAcc : TechAccountIdOf T) : Prop :=
  ∃ tpair, techAccountFromDexAndAssetPair s dexId assetA assetB =
    .ok (tpair, techAcc)

instance (s : Storage T) (dexId : T.DEXId) (assetA assetB : T.AssetId)
    (techAcc : TechAccountIdOf T) :
    Decidable (IsPoolOf s dexId assetA assetB techAcc) :=
  match h : techAccountFromDexAndAssetPair s dexId assetA assetB with
  | .ok p =>
      if heq : p.2 = techAcc then isTrue ⟨p.1, by rw [h, ← heq]⟩
      else isFalse fun ⟨_, h'⟩ => heq (by rw [h] at h'; cases h'; rfl)
  | .error _ => isFalse fun ⟨_, h'⟩ => by rw [h] at h'; cases h'

theorem IsPoolOf.unique {s : Storage T} {dexId : T.DEXId}
    {assetA assetB : T.AssetId} {t₁ t₂ : TechAccountIdOf T}
    (h₁ : IsPoolOf s dexId assetA assetB t₁)
    (h₂ : IsPoolOf s dexId assetA assetB t₂) :
    t₁ = t₂ := by
  obtain ⟨tpair₁, h₁⟩ := h₁
  obtain ⟨tpair₂, h₂⟩ := h₂
  rw [h₁] at h₂
  cases h₂
  rfl

/-- The assets of a pool differ. -/
theorem IsPoolOf.assets_ne {s : Storage T} {dexId : T.DEXId}
    {assetA assetB : T.AssetId} {techAcc : TechAccountIdOf T}
    (h : IsPoolOf s dexId assetA assetB techAcc) :
    assetA ≠ assetB := by
  obtain ⟨tpair, h⟩ := h
  obtain ⟨_, _, -, hne, -⟩ := techAccountFromDexAndAssetPair_eq_ok.mp h
  exact hne

/-- The order of the assets does not matter. -/
theorem IsPoolOf.swap {s : Storage T} {dexId : T.DEXId}
    {assetA assetB : T.AssetId} {techAcc : TechAccountIdOf T}
    (h : IsPoolOf s dexId assetA assetB techAcc) :
    IsPoolOf s dexId assetB assetA techAcc := by
  obtain ⟨tpair, h⟩ := h
  obtain ⟨dexinfo, target, hdex, hne, htarget, hba, hta, htech⟩ :=
    techAccountFromDexAndAssetPair_eq_ok.mp h
  exact ⟨tpair, techAccountFromDexAndAssetPair_eq_ok.mpr ⟨dexinfo, target,
    hdex, hne.symm, htarget.symm, hba, hta, htech⟩⟩

/-- The account of a pool keeps the liquidity of a pair on its DEX. -/
theorem IsPoolOf.keeper {s : Storage T} {dexId : T.DEXId}
    {assetA assetB : T.AssetId} {techAcc : TechAccountIdOf T}
    (h : IsPoolOf s dexId assetA assetB techAcc) :
    ∃ tpair,
      techAcc = TechAccountId.toTechUnitFromDexAndTradingPair dexId tpair := by
  obtain ⟨tpair, h⟩ := h
  obtain ⟨_, _, -, -, -, -, -, htech⟩ :=
    techAccountFromDexAndAssetPair_eq_ok.mp h
  exact ⟨tpair, htech⟩

/-- Only the registered DEXes matter. -/
theorem IsPoolOf.of_dexInfos_eq {s s' : Storage T} {dexId : T.DEXId}
    {assetA assetB : T.AssetId} {techAcc : TechAccountIdOf T}
    (h : IsPoolOf s dexId assetA assetB techAcc)
    (hdex : s'.dexInfos = s.dexInfos) :
    IsPoolOf s' dexId assetA assetB techAcc := by
  obtain ⟨tpair, h⟩ := h
  refine ⟨tpair, ?_⟩
  rw [techAccountFromDexAndAssetPair_eq_ok] at h ⊢
  rwa [hdex]

/-- What an exchange reports about the terms. -/
def outcomeOf (a : PairSwapAction T) (t : PairSwapAction.Terms T) :
    SwapAmount → SwapOutcome
  | .withDesiredInput _ _ =>
      if a.feeFromDestination then ⟨wrappingSub t.amountOut t.fee, t.fee⟩
      else ⟨t.amountOut, t.fee⟩
  | .withDesiredOutput _ _ => ⟨t.amountIn, t.fee⟩

theorem exchangeOutcome_eq_ok {a : PairSwapAction T} {w : T.AccountId}
    {t : PairSwapAction.Terms T} {swapAmount : SwapAmount}
    {outcome : SwapOutcome} (hin : t.source.toOption = some t.amountIn)
    (hout : t.destination.toOption = some t.amountOut) :
    exchangeOutcome (a.completed w t) swapAmount = .ok outcome ↔
      outcome = outcomeOf a t swapAmount := by
  have hdest : ∀ (b : Bool) (amount fee : ℕ),
      (if b then pure ⟨wrappingSub amount fee, fee⟩
        else pure ⟨amount, fee⟩ : Result SwapOutcome) = .ok outcome ↔
      outcome = if b then ⟨wrappingSub amount fee, fee⟩ else ⟨amount, fee⟩ := by
    intro b amount fee
    cases b with
    | true => simp [pure, Except.pure, eq_comm]
    | false => simp [pure, Except.pure, eq_comm]
  cases swapAmount with
  | withDesiredInput desired minimum =>
      simp only [exchangeOutcome, PairSwapAction.completed,
        Tx.except_bind_eq_ok, unwrap_eq_ok, Bounds.unwrap_eq_ok, hout,
        Option.some.injEq, exists_eq_left', hdest]
      exact Iff.rfl
  | withDesiredOutput desired maximum =>
      simp only [exchangeOutcome, PairSwapAction.completed,
        Tx.except_bind_eq_ok, unwrap_eq_ok, Bounds.unwrap_eq_ok, hin,
        Option.some.injEq, exists_eq_left']
      exact ⟨fun h => by cases h; rfl, fun h => by rw [h]; rfl⟩

theorem isAbstractChecking_exchangeAction (receiver : T.AccountId)
    (techAcc : TechAccountIdOf T) (inputAssetId outputAssetId : T.AssetId)
    (swapAmount : SwapAmount) :
    (exchangeAction receiver techAcc inputAssetId outputAssetId
      swapAmount).isAbstractChecking = false := by
  cases swapAmount with
  | withDesiredInput desired minimum => rfl
  | withDesiredOutput desired maximum => rfl

/-- An exchange settles its action and reports on the terms. -/
theorem run_exchange_ok {sender receiver : T.AccountId} {dexId : T.DEXId}
    {inputAssetId outputAssetId : T.AssetId} {swapAmount : SwapAmount}
    {outcome : SwapOutcome} {s s' : Storage T} :
    (exchange sender receiver dexId inputAssetId outputAssetId
        swapAmount).run s = (.ok outcome, s') ↔
      ∃ techAcc t l, IsPoolOf s dexId inputAssetId outputAssetId techAcc ∧
        (exchangeAction receiver techAcc inputAssetId outputAssetId
          swapAmount).Settles s sender t l ∧
        outcome = outcomeOf (exchangeAction receiver techAcc inputAssetId
          outputAssetId swapAmount) t swapAmount ∧
        s' = (exchangeAction receiver techAcc inputAssetId outputAssetId
          swapAmount).settled s l := by
  simp only [exchange, Tx.run_bind_eq_ok, Tx.run_reads_eq_ok,
    Tx.run_liftM_eq_ok, Tx.run_pure, run_performCreateSwapUnchecked_ok,
    Prod.mk.injEq, Except.ok.injEq,
    PairSwapAction.prepareAndValidate_eq_ok
      (isAbstractChecking_exchangeAction _ _ _ _ _)]
  constructor
  · rintro ⟨⟨tpair, techAcc⟩, _, ⟨hpool, rfl⟩, _, _, ⟨⟨t, ht, rfl⟩, rfl⟩, _, _,
      ⟨houtcome, rfl⟩, _, _, hreserve, rfl, rfl⟩
    obtain ⟨hpay, l, hl, rfl⟩ :=
      (PairSwapAction.run_reserve_ok ht.amountIn ht.amountOut).mp hreserve
    exact ⟨techAcc, t, l, ⟨tpair, hpool⟩, ⟨ht, hpay, hl⟩,
      (exchangeOutcome_eq_ok ht.amountIn ht.amountOut).mp houtcome, rfl⟩
  · rintro ⟨techAcc, t, l, ⟨tpair, hpool⟩, ⟨ht, hpay, hl⟩, rfl, rfl⟩
    exact ⟨(tpair, techAcc), s, ⟨hpool, rfl⟩, _, s, ⟨⟨t, ht, rfl⟩, rfl⟩, _, s,
      ⟨(exchangeOutcome_eq_ok ht.amountIn ht.amountOut).mpr rfl, rfl⟩, (), _,
      (PairSwapAction.run_reserve_ok ht.amountIn ht.amountOut).mpr
        ⟨hpay, l, hl, rfl⟩, rfl, rfl⟩

theorem run_swapPair_ok {who receiver : T.AccountId} {dexId : T.DEXId}
    {inputAssetId outputAssetId : T.AssetId} {swapAmount : SwapAmount}
    {s s' : Storage T} {u : Unit} :
    (swapPair who receiver dexId inputAssetId outputAssetId
        swapAmount).run s = (.ok u, s') ↔
      ∃ techAcc t l, IsPoolOf s dexId inputAssetId outputAssetId techAcc ∧
        (exchangeAction receiver techAcc inputAssetId outputAssetId
          swapAmount).Settles s who t l ∧
        s' = (exchangeAction receiver techAcc inputAssetId outputAssetId
          swapAmount).settled s l := by
  simp only [swapPair, Tx.run_bind_eq_ok, run_exchange_ok, Tx.run_pure,
    Prod.mk.injEq]
  constructor
  · rintro ⟨_, _, ⟨techAcc, t, l, hpool, hset, -, rfl⟩, -, rfl⟩
    exact ⟨techAcc, t, l, hpool, hset, rfl⟩
  · rintro ⟨techAcc, t, l, hpool, hset, rfl⟩
    exact ⟨_, _, ⟨techAcc, t, l, hpool, hset, rfl, rfl⟩, trivial, rfl⟩

/-- A deposit call settles its action. -/
theorem run_depositLiquidity_ok {who : T.AccountId} {dexId : T.DEXId}
    {assetA assetB : T.AssetId} {aDesired bDesired aMin bMin : ℕ}
    {s s' : Storage T} {u : Unit} :
    (depositLiquidity who dexId assetA assetB aDesired bDesired aMin
        bMin).run s = (.ok u, s') ↔
      ∃ techAcc markAsset t l l', IsPoolOf s dexId assetA assetB techAcc ∧
        (aDesired ≥ aMin ∧ bDesired ≥ bMin) ∧
        (depositAction techAcc assetA assetB aDesired bDesired aMin bMin
          markAsset).Settles s who t l l' ∧
        s' = (depositAction techAcc assetA assetB aDesired bDesired aMin bMin
          markAsset).settled (withMarkingRecord s techAcc) l' := by
  simp only [depositLiquidity, Tx.run_bind_eq_ok, Tx.run_reads_eq_ok,
    Tx.run_liftM_eq_ok, ensure_eq_ok, run_getMarkingAsset_ok,
    run_performCreateSwap_depositLiquidity_ok]
  constructor
  · rintro ⟨⟨tpair, techAcc⟩, _, ⟨hpool, rfl⟩, _, _, ⟨hmin, rfl⟩, markAsset, _,
      ⟨-, rfl⟩, -, t, l, l', hset, rfl⟩
    refine ⟨techAcc, markAsset, t, l, l', ⟨tpair, hpool⟩, hmin,
      DepositLiquidityAction.settles_withMarkingRecord.mp hset, ?_⟩
    exact congrArg (DepositLiquidityAction.settled · _ l')
      (withMarkingRecord_idem s techAcc)
  · rintro ⟨techAcc, markAsset, t, l, l', ⟨tpair, hpool⟩, hmin, hset, rfl⟩
    refine ⟨(tpair, techAcc), s, ⟨hpool, rfl⟩, (), s, ⟨hmin, rfl⟩, markAsset, _,
      ⟨hset.agreed.marker, rfl⟩, rfl, t, l, l',
      DepositLiquidityAction.settles_withMarkingRecord.mpr hset, ?_⟩
    exact congrArg (DepositLiquidityAction.settled · _ l')
      (withMarkingRecord_idem s techAcc).symm

/-- A withdrawal call settles its action. -/
theorem run_withdrawLiquidity_ok {who : T.AccountId} {dexId : T.DEXId}
    {assetA assetB : T.AssetId} {k aMin bMin : ℕ} {s s' : Storage T}
    {u : Unit} :
    (withdrawLiquidity who dexId assetA assetB k aMin bMin).run s =
        (.ok u, s') ↔
      ∃ techAcc markAsset t l l', IsPoolOf s dexId assetA assetB techAcc ∧
        (withdrawAction techAcc assetA assetB k aMin bMin
          markAsset).Settles s who t l l' ∧
        s' = (withdrawAction techAcc assetA assetB k aMin bMin
          markAsset).settled (withMarkingRecord s techAcc) l' := by
  simp only [withdrawLiquidity, Tx.run_bind_eq_ok, Tx.run_reads_eq_ok,
    run_getMarkingAsset_ok, run_performCreateSwap_withdrawLiquidity_ok]
  constructor
  · rintro ⟨⟨tpair, techAcc⟩, _, ⟨hpool, rfl⟩, markAsset, _, ⟨-, rfl⟩, -, t, l,
      l', hset, rfl⟩
    refine ⟨techAcc, markAsset, t, l, l', ⟨tpair, hpool⟩,
      WithdrawLiquidityAction.settles_withMarkingRecord.mp hset, ?_⟩
    exact congrArg (WithdrawLiquidityAction.settled · _ l')
      (withMarkingRecord_idem s techAcc)
  · rintro ⟨techAcc, markAsset, t, l, l', ⟨tpair, hpool⟩, hset, rfl⟩
    refine ⟨(tpair, techAcc), s, ⟨hpool, rfl⟩, markAsset, _,
      ⟨hset.agreed.marker, rfl⟩, rfl, t, l, l',
      WithdrawLiquidityAction.settles_withMarkingRecord.mpr hset, ?_⟩
    exact congrArg (WithdrawLiquidityAction.settled · _ l')
      (withMarkingRecord_idem s techAcc).symm

/-! ## What a failed call leaves -/

/-- Validation writes at most the record of a marker asset. -/
theorem keeps_prepareAndValidate (action : PolySwapAction T)
    (source : Option T.AccountId) :
    Tx.Keeps SameButRecords (action.prepareAndValidate source) := by
  cases action with
  | pairSwap a =>
      exact Tx.keeps_bind (Tx.keeps_reads _) fun _ => Tx.keeps_pure _
  | depositLiquidity a =>
      refine Tx.keeps_bind ?_ fun _ => Tx.keeps_pure _
      refine Tx.keeps_bind (Tx.keeps_liftM _) fun _ => ?_
      refine Tx.keeps_bind (Tx.keeps_reads _) fun _ => ?_
      exact Tx.keeps_bind (keeps_getMarkingAsset _) fun _ => Tx.keeps_reads _
  | withdrawLiquidity a =>
      refine Tx.keeps_bind ?_ fun _ => Tx.keeps_pure _
      refine Tx.keeps_bind (Tx.keeps_liftM _) fun _ => ?_
      refine Tx.keeps_bind (Tx.keeps_liftM _) fun _ => ?_
      refine Tx.keeps_bind (Tx.keeps_reads _) fun _ => ?_
      exact Tx.keeps_bind (keeps_getMarkingAsset _) fun _ => Tx.keeps_reads _

theorem failsWithin_performCreateSwap (who : T.AccountId)
    (action : PolySwapAction T) :
    Tx.FailsWithin SameButRecords (performCreateSwap who action) := by
  refine Tx.failsWithin_bind (Tx.keeps_liftM _) fun _ => ?_
  refine Tx.failsWithin_bind (keeps_prepareAndValidate _ _) fun _ => ?_
  exact Tx.failsWithin_withTransaction _

theorem failsWithin_depositLiquidity (who : T.AccountId) (dexId : T.DEXId)
    (assetA assetB : T.AssetId) (aDesired bDesired aMin bMin : ℕ) :
    Tx.FailsWithin SameButRecords
      (depositLiquidity who dexId assetA assetB aDesired bDesired aMin
        bMin) := by
  refine Tx.failsWithin_bind (Tx.keeps_reads _) fun _ => ?_
  refine Tx.failsWithin_bind (Tx.keeps_liftM _) fun _ => ?_
  refine Tx.failsWithin_bind (keeps_getMarkingAsset _) fun _ => ?_
  exact failsWithin_performCreateSwap _ _

theorem failsWithin_withdrawLiquidity (who : T.AccountId) (dexId : T.DEXId)
    (assetA assetB : T.AssetId) (k aMin bMin : ℕ) :
    Tx.FailsWithin SameButRecords
      (withdrawLiquidity who dexId assetA assetB k aMin bMin) := by
  refine Tx.failsWithin_bind (Tx.keeps_reads _) fun _ => ?_
  refine Tx.failsWithin_bind (keeps_getMarkingAsset _) fun _ => ?_
  exact failsWithin_performCreateSwap _ _

theorem failsWithin_exchange (sender receiver : T.AccountId) (dexId : T.DEXId)
    (inputAssetId outputAssetId : T.AssetId) (swapAmount : SwapAmount) :
    Tx.FailsWithin SameButRecords
      (exchange sender receiver dexId inputAssetId outputAssetId
        swapAmount) := by
  refine Tx.failsWithin_bind (Tx.keeps_reads _) fun _ => ?_
  refine Tx.failsWithin_bind (Tx.keeps_reads _) fun _ => ?_
  refine Tx.failsWithin_bind (Tx.keeps_liftM _) fun _ => ?_
  exact Tx.failsWithin_bind_pure (Tx.failsWithin_withTransaction _) _

theorem failsWithin_swapPair (who receiver : T.AccountId) (dexId : T.DEXId)
    (inputAssetId outputAssetId : T.AssetId) (swapAmount : SwapAmount) :
    Tx.FailsWithin SameButRecords
      (swapPair who receiver dexId inputAssetId outputAssetId
        swapAmount) :=
  Tx.failsWithin_bind_pure (failsWithin_exchange _ _ _ _ _ _) _

end PoolXyk
end SoraParachain

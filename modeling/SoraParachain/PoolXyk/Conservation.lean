import SoraParachain.Mock
import SoraParachain.PoolXyk.Books

/-!
# What settling an action leaves alone

An action moves assets between its signer, its receivers, the pool account and
the fee account of the pool.  Only the marker asset of the pool is issued or
retired on the way.
-/

namespace SoraParachain
namespace PoolXyk

variable {T : Config}

open Technical (techAccountIdToAccountId performCreateSwap)

namespace PolySwapAction

/-- The pool account of an action. -/
def poolAccount : PolySwapAction T → TechAccountIdOf T
  | .pairSwap a => a.poolAccount
  | .depositLiquidity a => a.poolAccount
  | .withdrawLiquidity a => a.poolAccount

/-- The accounts that an action signed by `w` pays something to. -/
def receivers (w : T.AccountId) : PolySwapAction T → List T.AccountId
  | .pairSwap a => [a.receiver w]
  | .depositLiquidity a => [a.receiver w]
  | .withdrawLiquidity a => [a.receiverA w, a.receiverB w]

/-- An account that an action signed by `w` may change a balance of. -/
def IsParty (action : PolySwapAction T) (w x : T.AccountId) : Prop :=
  x = w ∨ x ∈ action.receivers w ∨
    x = techAccountIdToAccountId action.poolAccount ∨
    ∃ feeAccount, action.poolAccount.toFeeAccount = some feeAccount ∧
      x = techAccountIdToAccountId feeAccount

/-- How the issuances change: a deposit issues what it resolved for its
destination, a withdrawal retires its source amount. -/
def ChangesSupply (s s' : Storage T) (w : T.AccountId) :
    PolySwapAction T → Prop
  | .pairSwap _ => ∀ c, s'.issuance c = s.issuance c
  | .depositLiquidity a =>
      IsMarkerOf a.poolAccount a.marker ∧
        (∀ c, c ≠ a.marker → s'.issuance c = s.issuance c) ∧
        ∃ t l l', a.Settles s w t l l' ∧
          s'.issuance a.marker = s.issuance a.marker + t.minted
  | .withdrawLiquidity a =>
      IsMarkerOf a.poolAccount a.marker ∧
        (∀ c, c ≠ a.marker → s'.issuance c = s.issuance c) ∧
        ∃ k, a.source.amount = .desired k ∧
          s'.issuance a.marker + k = s.issuance a.marker

/-- An action touches nothing but the supply of its marker asset and the
balances of its parties. -/
structure Conserves (action : PolySwapAction T) (w : T.AccountId)
    (s s' : Storage T) : Prop where
  supply : action.ChangesSupply s s' w
  frame : ∀ x, ¬action.IsParty w x → ∀ c, s'.free c x = s.free c x

end PolySwapAction

variable {s s' : Storage T} {w : T.AccountId} {l l' : T.currency.Ledger}

/-! ## One action -/

theorem PairSwapAction.Settles.conserves {a : PairSwapAction T}
    {t : PairSwapAction.Terms T} (hM : T.currency.Lawful balanceModulus)
    (h : a.Settles s w t l) :
    (PolySwapAction.pairSwap a).Conserves w s (a.settled s l) := by
  obtain ⟨-, hbook⟩ := h.book hM
  constructor
  · intro c
    change (T.currency.book l).issuance c = _
    rw [hbook, Book.issuance_paid]
    rfl
  · intro x hx c
    change (T.currency.book l).free c x = _
    rw [hbook]
    apply Book.free_paid_of_ne_account
    have hsigner : x ≠ w := fun heq => hx (Or.inl heq)
    have hreceiver : x ≠ a.receiver w := fun heq =>
      hx (Or.inr (Or.inl (List.mem_singleton.mpr heq)))
    have hpool : x ≠ a.poolRepr := fun heq =>
      hx (Or.inr (Or.inr (Or.inl heq)))
    have hfee : x ≠ techAccountIdToAccountId t.feeAccount := fun heq =>
      hx (Or.inr (Or.inr (Or.inr ⟨t.feeAccount, h.agreed.feeAccount, heq⟩)))
    unfold PairSwapAction.payments
    split_ifs
    · simp [hsigner, hreceiver, hpool, hfee]
    · simp [hsigner, hreceiver, hpool, hfee]

theorem DepositLiquidityAction.Settles.conserves
    {a : DepositLiquidityAction T} {t : DepositLiquidityAction.Terms}
    (hM : T.currency.Lawful balanceModulus) (h : a.Settles s w t l l') :
    (PolySwapAction.depositLiquidity a).Conserves w s
      (a.settled (withMarkingRecord s a.poolAccount) l') := by
  have hbook := h.book hM
  refine ⟨⟨⟨_, h.agreed.marker, rfl⟩, ?_, t, l, l', h, ?_⟩, ?_⟩
  · intro c hc
    change (T.currency.book l').issuance c = _
    rw [hbook, Book.issuance_issued_of_ne hc, Book.issuance_moved,
      Book.issuance_moved]
    rfl
  · change (T.currency.book l').issuance a.marker = _
    rw [hbook, Book.issuance_issued_self, Book.issuance_moved,
      Book.issuance_moved]
    rfl
  · intro x hx c
    have hsigner : x ≠ w := fun heq => hx (Or.inl heq)
    have hreceiver : x ≠ a.receiver w := fun heq =>
      hx (Or.inr (Or.inl (List.mem_singleton.mpr heq)))
    have hpool : x ≠ a.poolRepr := fun heq =>
      hx (Or.inr (Or.inr (Or.inl heq)))
    change (T.currency.book l').free c x = _
    rw [hbook, Book.free_issued_of_ne_account hreceiver,
      Book.free_moved_of_ne_account hsigner hpool,
      Book.free_moved_of_ne_account hsigner hpool]
    rfl

theorem WithdrawLiquidityAction.Settles.conserves
    {a : WithdrawLiquidityAction T} {t : WithdrawLiquidityAction.Terms}
    (hM : T.currency.Lawful balanceModulus) (h : a.Settles s w t l l') :
    (PolySwapAction.withdrawLiquidity a).Conserves w s
      (a.settled (withMarkingRecord s a.poolAccount) l') := by
  have hbook := h.book hM
  have hcovered : t.burned ≤ s.issuance a.marker :=
    h.agreed.covered.trans (hM.free_le_issuance _ _ _)
  refine ⟨⟨⟨_, h.agreed.marker, rfl⟩, ?_, t.burned, h.agreed.desired, ?_⟩, ?_⟩
  · intro c hc
    change (T.currency.book l').issuance c = _
    rw [hbook, Book.issuance_retired_of_ne hc, Book.issuance_moved,
      Book.issuance_moved]
    rfl
  · change (T.currency.book l').issuance a.marker + t.burned = _
    rw [hbook, Book.issuance_retired_self, Book.issuance_moved,
      Book.issuance_moved]
    exact Nat.sub_add_cancel hcovered
  · intro x hx c
    have hsigner : x ≠ w := fun heq => hx (Or.inl heq)
    have hreceiverA : x ≠ a.receiverA w := fun heq =>
      hx (Or.inr (Or.inl (List.mem_cons.mpr (Or.inl heq))))
    have hreceiverB : x ≠ a.receiverB w := fun heq =>
      hx (Or.inr (Or.inl (List.mem_cons.mpr
        (Or.inr (List.mem_singleton.mpr heq)))))
    have hpool : x ≠ a.poolRepr := fun heq =>
      hx (Or.inr (Or.inr (Or.inl heq)))
    change (T.currency.book l').free c x = _
    rw [hbook, Book.free_retired_of_ne_account hsigner,
      Book.free_moved_of_ne_account hpool hreceiverB,
      Book.free_moved_of_ne_account hpool hreceiverA]
    rfl

/-! ## Every route -/

/-- Whatever action is submitted or built by an exchange, its success touches
nothing but the supply of the marker asset and the balances of its parties. -/
theorem pool_actions_conserve (hM : T.currency.Lawful balanceModulus) :
    (∀ action : PolySwapAction T,
      (performCreateSwap w action).run s = (.ok (), s') →
        action.Conserves w s s') ∧
    ∀ (receiver : T.AccountId) (dexId : T.DEXId)
      (inputAssetId outputAssetId : T.AssetId) (swapAmount : SwapAmount)
      (outcome : SwapOutcome),
      (exchange w receiver dexId inputAssetId outputAssetId swapAmount).run s =
        (.ok outcome, s') →
      ∃ techAcc, IsPoolOf s dexId inputAssetId outputAssetId techAcc ∧
        (PolySwapAction.pairSwap (exchangeAction receiver techAcc inputAssetId
          outputAssetId swapAmount)).Conserves w s s' := by
  constructor
  · intro action h
    cases action with
    | pairSwap a =>
        obtain ⟨-, t, l, hsettles, rfl⟩ :=
          run_performCreateSwap_pairSwap_ok.mp h
        exact hsettles.conserves hM
    | depositLiquidity a =>
        obtain ⟨-, t, l, l', hsettles, rfl⟩ :=
          run_performCreateSwap_depositLiquidity_ok.mp h
        exact hsettles.conserves hM
    | withdrawLiquidity a =>
        obtain ⟨-, t, l, l', hsettles, rfl⟩ :=
          run_performCreateSwap_withdrawLiquidity_ok.mp h
        exact hsettles.conserves hM
  · intro receiver dexId inputAssetId outputAssetId swapAmount outcome h
    obtain ⟨techAcc, t, l, hpool, hsettles, -, rfl⟩ := run_exchange_ok.mp h
    exact ⟨techAcc, hpool, hsettles.conserves hM⟩

/-- Bob submits a swap of one unit in the sample pool to the benefit of
Carol. -/
def submittedSwap : PolySwapAction Mock.runtime :=
  .pairSwap (exchangeAction Mock.carol.account
    (Mock.poolOf Mock.dexA Mock.redPepper) Mock.goldenTicket Mock.redPepper
    (.withDesiredInput Mock.unit 0))

theorem pool_actions_conserve_sample :
    submittedSwap.Conserves Mock.bob.account Mock.funded
      (step Mock.funded (Mock.bob, .createSwap submittedSwap)) :=
  (pool_actions_conserve (T := Mock.runtime) Mock.currency_lawful).1 _
    (Extrinsic.succeeds_iff.mp (by decide +kernel :
      Extrinsic.Succeeds Mock.funded (Mock.bob, .createSwap submittedSwap)))

end PoolXyk
end SoraParachain

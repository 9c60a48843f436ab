import SoraParachain.Mock
import SoraParachain.PoolXyk.Errors

/-!
# Validated actions are resolved

The settlement of an action unwraps its amounts, accounts and fee.  None of
them is missing once the action was validated, and the validation itself only
unwraps what it has filled in before, whatever bounds the action was built
with.
-/

namespace SoraParachain

variable {T : Config} {α : Type}

theorem neverPanics_unwrap {o : Option α} (h : o.isSome = true) :
    Tx.Never Panics (unwrap o) := by
  obtain ⟨a, rfl⟩ := Option.isSome_iff_exists.mp h
  exact Tx.never_ok a

theorem neverPanics_liftUnwrap {o : Option α} (h : o.isSome = true) :
    NeverTx Panics (liftM (unwrap o) : Exec T α) :=
  quietTx_liftM (neverPanics_unwrap h)

namespace PoolXyk

/-- The amount of a bound is known. -/
def Bounds.IsResolved (b : Bounds) : Prop :=
  b.toOption.isSome = true

theorem Bounds.isResolved_of_eq {b : Bounds} {n : ℕ}
    (h : b.toOption = some n) : b.IsResolved := by
  rw [IsResolved, h]
  rfl

theorem Bounds.IsResolved.unwrap {b : Bounds} (h : b.IsResolved) :
    Tx.Never Panics b.unwrap :=
  neverPanics_unwrap h

theorem neverPanics_ensurePoolNotEmpty (balanceA balanceB : ℕ) :
    Tx.Never Panics (ensurePoolNotEmpty balanceA balanceB) := by
  unfold ensurePoolNotEmpty
  split_ifs
  · exact Tx.never_error Failure.noConfusion
  · exact Tx.never_error Failure.noConfusion
  · exact Tx.never_ok ()

/-! ## Exchanges -/

namespace PairSwapAction

variable {s : Storage T} {a : PairSwapAction T} {w : T.AccountId}

/-- Everything that the settlement of a swap reads is there. -/
structure IsResolved (a : PairSwapAction T) : Prop where
  client : a.clientAccount.isSome = true
  receiver : a.receiverAccount.isSome = true
  source : a.source.amount.IsResolved
  destination : a.destination.amount.IsResolved
  fee : a.fee.isSome = true
  feeAccount : a.feeAccount.isSome = true
  feeSide : a.getFeeFromDestination.isSome = true

theorem Agreed.isResolved {t : Terms T} (h : Agreed s a w t) :
    (a.completed w t).IsResolved where
  client := rfl
  receiver := rfl
  source := Bounds.isResolved_of_eq h.amountIn
  destination := Bounds.isResolved_of_eq h.amountOut
  fee := rfl
  feeAccount := rfl
  feeSide := rfl

theorem neverPanics_settle (h : a.IsResolved) (source : T.AccountId)
    (feeAccount : TechAccountIdOf T) :
    NeverTx Panics (a.settle source feeAccount) := by
  apply quietTx_bind (neverPanics_liftUnwrap h.feeSide)
  intro side
  split_ifs
  · refine quietTx_bind (neverPanics_liftUnwrap h.source) fun _ => ?_
    refine quietTx_bind (Technical.quietTx_transferIn _ _ _ _) fun _ => ?_
    refine quietTx_bind (neverPanics_liftUnwrap h.fee) fun _ => ?_
    refine quietTx_bind (Technical.quietTx_transferOut _ _ _ _) fun _ => ?_
    refine quietTx_bind (neverPanics_liftUnwrap h.receiver) fun _ => ?_
    refine quietTx_bind (neverPanics_liftUnwrap h.destination) fun _ => ?_
    exact Technical.quietTx_transferOut _ _ _ _
  · refine quietTx_bind (neverPanics_liftUnwrap h.source) fun _ => ?_
    refine quietTx_bind (neverPanics_liftUnwrap h.fee) fun _ => ?_
    refine quietTx_bind (Technical.quietTx_transferIn _ _ _ _) fun _ => ?_
    refine quietTx_bind (Technical.quietTx_transferIn _ _ _ _) fun _ => ?_
    refine quietTx_bind (neverPanics_liftUnwrap h.receiver) fun _ => ?_
    refine quietTx_bind (neverPanics_liftUnwrap h.destination) fun _ => ?_
    exact Technical.quietTx_transferOut _ _ _ _

theorem neverPanics_reserve (h : a.IsResolved) (source : T.AccountId) :
    NeverTx Panics (a.reserve source) := by
  apply quietTx_withTransaction
  refine quietTx_bind (quietTx_liftM (quiet_ensure rfl)) fun _ => ?_
  refine quietTx_bind (neverPanics_liftUnwrap h.feeAccount) fun _ => ?_
  refine quietTx_bind (neverPanics_settle h _ _) fun _ => ?_
  exact quietTx_refreshReserves _ _ _

/-- The amounts that were decided on are known. -/
theorem isResolved_of_decideAmounts {side : Bool}
    {source destination source' destination' : Bounds}
    {balanceSt balanceTt fee : ℕ}
    (h : decideAmounts side source destination balanceSt balanceTt =
      .ok (source', destination', fee)) :
    source'.IsResolved ∧ destination'.IsResolved := by
  unfold decideAmounts at h
  split at h
  · obtain ⟨_, -, h⟩ := Tx.except_bind_eq_ok.mp h
    obtain ⟨_, -, h⟩ := Tx.except_bind_eq_ok.mp h
    obtain ⟨_, -, h⟩ := Tx.except_bind_eq_ok.mp h
    obtain ⟨_, -, h⟩ := Tx.except_bind_eq_ok.mp h
    obtain ⟨_, -, h⟩ := Tx.except_bind_eq_ok.mp h
    cases h
    exact ⟨rfl, rfl⟩
  · obtain ⟨_, -, h⟩ := Tx.except_bind_eq_ok.mp h
    obtain ⟨_, -, h⟩ := Tx.except_bind_eq_ok.mp h
    obtain ⟨_, -, h⟩ := Tx.except_bind_eq_ok.mp h
    cases h
    exact ⟨rfl, rfl⟩
  · obtain ⟨_, -, h⟩ := Tx.except_bind_eq_ok.mp h
    exact (fail_ne_ok.mp h).elim
  · obtain ⟨_, -, h⟩ := Tx.except_bind_eq_ok.mp h
    obtain ⟨_, -, h⟩ := Tx.except_bind_eq_ok.mp h
    obtain ⟨_, -, h⟩ := Tx.except_bind_eq_ok.mp h
    cases h
    exact ⟨rfl, rfl⟩
  · obtain ⟨_, -, h⟩ := Tx.except_bind_eq_ok.mp h
    exact (fail_ne_ok.mp h).elim
  · exact (fail_ne_ok.mp h).elim

theorem neverPanics_resolveFee {recomFee balanceSs : Option ℕ}
    (hsource : a.source.amount.IsResolved)
    (hdestination : a.destination.amount.IsResolved)
    (hrecom : recomFee.isSome = true) (hss : balanceSs.isSome = true)
    (balanceTt : ℕ) :
    Tx.Never Panics (a.resolveFee true false recomFee balanceSs balanceTt) := by
  have hfee : Tx.Never Panics (decideFee a.fee recomFee) := by
    unfold decideFee
    split
    · exact neverPanics_unwrap hrecom
    · refine Tx.never_bind (neverPanics_unwrap hrecom) fun _ _ => ?_
      exact Tx.never_bind (quiet_ensure rfl) fun _ _ => Tx.never_ok _
  refine Tx.never_bind hsource.unwrap fun _ _ => ?_
  refine Tx.never_bind hdestination.unwrap fun _ _ => ?_
  refine Tx.never_bind hfee fun _ _ => ?_
  refine Tx.never_bind ?_ fun _ _ => Tx.never_ok _
  refine Tx.never_bind (neverPanics_unwrap hss) fun _ _ => ?_
  exact Tx.never_bind (quiet_ensure rfl) fun _ _ => quiet_ensure rfl

theorem neverPanics_ensureValidAfterOp
    (hsource : a.source.amount.IsResolved)
    (hdestination : a.destination.amount.IsResolved)
    (balanceSt balanceTt : ℕ) :
    Tx.Never Panics (a.ensureValidAfterOp balanceSt balanceTt) := by
  refine Tx.never_bind hsource.unwrap fun _ _ => ?_
  refine Tx.never_bind hdestination.unwrap fun _ _ => ?_
  refine Tx.never_bind ?_ fun _ _ => quiet_ensure rfl
  exact Tx.never_bind (quiet_toBalance _) fun _ _ => Tx.never_ok _

theorem neverPanics_prepareAndValidate (hab : a.isAbstractChecking = false) :
    Tx.Never Panics (a.prepareAndValidate s (some w)) := by
  unfold prepareAndValidate
  simp only [hab, Option.isNone_some, Bool.or_false, Bool.not_false,
    Bool.or_true, Bool.false_eq_true, if_false]
  refine Tx.never_bind ?_ fun act hact => ?_
  · refine Tx.never_bind (neverPanics_unwrap rfl) fun _ _ => ?_
    exact Tx.never_bind (quiet_resolveClient _ _) fun _ _ => Tx.never_ok _
  refine Tx.never_bind (quiet_isPoolAccountValidFor _ _ _) fun _ _ => ?_
  refine Tx.never_bind ?_ fun balanceSs hss => ?_
  · refine Tx.never_bind (neverPanics_unwrap rfl) fun _ _ => ?_
    exact Tx.never_bind (Assets.quiet_freeBalance _ _ _) fun _ _ =>
      Tx.never_ok _
  obtain ⟨-, rfl⟩ := sourceBalance_eq_ok.mp hss
  refine Tx.never_bind (Assets.quiet_freeBalance _ _ _) fun _ _ => ?_
  refine Tx.never_bind (Assets.quiet_freeBalance _ _ _) fun _ _ => ?_
  refine Tx.never_bind ?_ fun _ _ => ?_
  · exact Tx.never_bind (neverPanics_unwrap rfl) fun _ _ => quiet_ensure rfl
  refine Tx.never_bind (neverPanics_ensurePoolNotEmpty _ _) fun _ _ => ?_
  refine Tx.never_bind ?_ fun pair hpair => ?_
  · refine Tx.never_bind (neverPanics_unwrap rfl) fun _ _ => ?_
    exact Tx.never_bind (quiet_decideAmounts _ _ _ _ _) fun _ _ =>
      Tx.never_ok _
  obtain ⟨act₁, recomFee⟩ := pair
  obtain ⟨source, destination, fee, hdecided, rfl, rfl⟩ :=
    (resolveAmounts_eq_ok rfl).mp hpair
  obtain ⟨hsource, hdestination⟩ := isResolved_of_decideAmounts hdecided
  apply Tx.never_bind quiet_resolveFeeAccount
  intro act₂ hact₂
  obtain ⟨_, -, -, rfl⟩ := resolveFeeAccount_eq_ok.mp hact₂
  refine Tx.never_bind ?_ fun act₃ hact₃ => ?_
  · exact neverPanics_resolveFee hsource hdestination rfl rfl _
  obtain ⟨_, _, _, -, -, -, -, -, rfl⟩ := resolveFee_eq_ok.mp hact₃
  exact Tx.never_bind (neverPanics_ensureValidAfterOp hsource hdestination _ _)
    fun _ _ => Tx.never_ok _

end PairSwapAction

/-! ## Deposits -/

namespace DepositLiquidityAction

variable {s : Storage T} {a : DepositLiquidityAction T} {w : T.AccountId}

/-- Everything that the settlement of a deposit reads is there. -/
structure IsResolved (a : DepositLiquidityAction T) : Prop where
  client : a.clientAccount.isSome = true
  receiver : a.receiverAccount.isSome = true
  fst : a.source.fst.amount.IsResolved
  snd : a.source.snd.amount.IsResolved
  destination : a.destination.amount.IsResolved
  minLiquidity : a.minLiquidity.isSome = true

theorem Agreed.isResolved {t : Terms} (h : Agreed s a w t) :
    (a.completed w t).IsResolved where
  client := rfl
  receiver := rfl
  fst := Bounds.isResolved_of_eq h.amounts.toOption.1
  snd := Bounds.isResolved_of_eq h.amounts.toOption.2
  destination := rfl
  minLiquidity := rfl

theorem neverPanics_reserve (h : a.IsResolved) (source : T.AccountId) :
    NeverTx Panics (a.reserve source) := by
  refine quietTx_bind (quietTx_liftM (quiet_ensure rfl)) fun _ => ?_
  refine quietTx_bind (neverPanics_liftUnwrap h.fst) fun _ => ?_
  refine quietTx_bind (Technical.quietTx_transferIn _ _ _ _) fun _ => ?_
  refine quietTx_bind (neverPanics_liftUnwrap h.snd) fun _ => ?_
  refine quietTx_bind (Technical.quietTx_transferIn _ _ _ _) fun _ => ?_
  refine quietTx_bind (neverPanics_liftUnwrap h.receiver) fun _ => ?_
  refine quietTx_bind (neverPanics_liftUnwrap h.destination) fun _ => ?_
  refine quietTx_bind (Assets.quietTx_mintTo _ _ _ _) fun _ => ?_
  exact quietTx_refreshReserves _ _ _

theorem neverPanics_isPoolEmpty (balanceBp balanceTp : ℕ) :
    Tx.Never Panics (isPoolEmpty balanceBp balanceTp) := by
  unfold isPoolEmpty
  split_ifs
  · exact Tx.never_ok _
  · exact Tx.never_error Failure.noConfusion
  · exact Tx.never_error Failure.noConfusion
  · exact Tx.never_ok _

theorem neverPanics_ensureAmountsCovered (hfst : a.source.fst.amount.IsResolved)
    (hsnd : a.source.snd.amount.IsResolved)
    (hdestination : a.destination.amount.IsResolved) (m k : ℕ)
    (balances : ℕ × ℕ) :
    Tx.Never Panics
      (a.ensureAmountsCovered false m (some k) (some balances)) := by
  refine Tx.never_bind hfst.unwrap fun _ _ => ?_
  refine Tx.never_bind hsnd.unwrap fun _ _ => ?_
  refine Tx.never_bind hdestination.unwrap fun _ _ => ?_
  refine Tx.never_bind (neverPanics_unwrap rfl) fun _ _ => ?_
  refine Tx.never_bind (neverPanics_unwrap rfl) fun _ _ => ?_
  refine Tx.never_bind (quiet_ensure rfl) fun _ _ => ?_
  exact Tx.never_bind (quiet_ensure rfl) fun _ _ => quiet_ensure rfl

theorem neverPanics_resolveAmounts (emptyPool : Bool)
    (initX k balanceBp balanceTp : ℕ) :
    Tx.Never Panics (a.resolveAmounts s false emptyPool initX (some k)
      balanceBp balanceTp) := by
  apply Tx.never_bind (neverPanics_unwrap rfl)
  intro k _
  split_ifs
  · exact Tx.never_bind (quiet_decideInitialDestination _ _) fun _ _ =>
      Tx.never_ok _
  · exact Tx.never_bind (quiet_decideAmounts _ _ _ _) fun _ _ =>
      Tx.never_ok _

/-- What follows once all three amounts are known. -/
theorem neverPanics_complete {act : DepositLiquidityAction T} {k : ℕ}
    {balances : ℕ × ℕ} (emptyPool : Bool)
    (hfst : act.source.fst.amount.IsResolved)
    (hsnd : act.source.snd.amount.IsResolved)
    (hdestination : act.destination.amount.IsResolved) :
    Tx.Never Panics (do
      let minLiquidity ← resolveMinLiquidity act.minLiquidity
      let self := { act with minLiquidity := some minLiquidity }
      self.ensureAmountsCovered false minLiquidity (some k) (some balances)
      self.lockMinLiquidity emptyPool minLiquidity) := by
  apply Tx.never_bind (quiet_resolveMinLiquidity _)
  intro m _
  refine Tx.never_bind ?_ fun _ _ => ?_
  · exact neverPanics_ensureAmountsCovered hfst hsnd hdestination _ _ _
  unfold lockMinLiquidity
  split_ifs
  · exact Tx.never_bind hdestination.unwrap fun _ _ => Tx.never_ok _
  · exact Tx.never_ok _

theorem neverPanics_validate (markAsset : T.TechAssetId) :
    Tx.Never Panics (a.validate s false (some w) markAsset) := by
  refine Tx.never_bind (quiet_ensure rfl) fun _ _ => ?_
  refine Tx.never_bind ?_ fun balances hbalances => ?_
  · refine Tx.never_bind (neverPanics_unwrap rfl) fun _ _ => ?_
    refine Tx.never_bind (Assets.quiet_freeBalance _ _ _) fun _ _ => ?_
    refine Tx.never_bind (Assets.quiet_freeBalance _ _ _) fun _ _ => ?_
    exact Tx.never_bind (quiet_ensure rfl) fun _ _ => Tx.never_ok _
  obtain ⟨-, -, -, rfl⟩ := sourceBalances_eq_ok.mp hbalances
  apply Tx.never_bind (Assets.quiet_freeBalance _ _ _)
  intro bp _
  apply Tx.never_bind (Assets.quiet_freeBalance _ _ _)
  intro tp _
  apply Tx.never_bind (neverPanics_isPoolEmpty _ _)
  intro emptyPool hempty
  apply Tx.never_bind (quiet_initialAmounts _)
  intro init hinit
  apply Tx.never_bind (quiet_poolK _ _ _ _)
  intro poolK hpoolK
  obtain ⟨-, rfl⟩ | ⟨-, rfl⟩ := isPoolEmpty_eq_ok.mp hempty
  · -- the amounts of the action were needed for the liquidity
    obtain ⟨initX, initY⟩ := init
    obtain ⟨hX, hY⟩ := initialAmounts_eq_ok.mp hinit
    obtain ⟨k, -, rfl⟩ := map_some_eq_ok.mp hpoolK
    refine Tx.never_bind (neverPanics_resolveAmounts _ _ _ _ _)
      fun act hact => ?_
    obtain ⟨d, hd, rfl⟩ := resolveAmounts_empty_eq_ok.mp hact
    exact neverPanics_complete true (Bounds.isResolved_of_eq hX)
      (Bounds.isResolved_of_eq hY)
      (Bounds.isResolved_of_eq (toOption_of_decideInitialDestination hd))
  · cases hinit
    obtain ⟨k, -, rfl⟩ := map_some_eq_ok.mp hpoolK
    refine Tx.never_bind (neverPanics_resolveAmounts _ _ _ _ _)
      fun act hact => ?_
    obtain ⟨_, _, _, hxyz, rfl⟩ := resolveAmounts_reserves_eq_ok.mp hact
    obtain ⟨_, _, _, _, _, _, _, -, -, -, -, -, -, rfl, rfl, rfl⟩ :=
      decideAmounts_eq_ok.mp hxyz
    exact neverPanics_complete false rfl rfl rfl

theorem neverPanics_prepareAndValidate (hab : a.isAbstractChecking = false) :
    NeverTx Panics (a.prepareAndValidate (some w)) := by
  unfold prepareAndValidate
  simp only [hab, Option.isNone_some, Bool.or_false]
  refine quietTx_bind (quietTx_liftM ?_) fun act => ?_
  · refine Tx.never_bind (neverPanics_unwrap rfl) fun _ _ => ?_
    exact Tx.never_bind (quiet_resolveClient _ _) fun _ _ => Tx.never_ok _
  refine quietTx_bind (quietTx_reads fun _ => ?_) fun _ => ?_
  · exact quiet_isPoolAccountValidFor _ _ _
  apply quietTx_bind (quietTx_getMarkingAsset _)
  intro mark
  exact quietTx_reads fun _ => neverPanics_validate mark

end DepositLiquidityAction

/-! ## Withdrawals -/

namespace WithdrawLiquidityAction

variable {s : Storage T} {a : WithdrawLiquidityAction T} {w : T.AccountId}

/-- Everything that the settlement of a withdrawal reads is there. -/
structure IsResolved (a : WithdrawLiquidityAction T) : Prop where
  client : a.clientAccount.isSome = true
  receiverA : a.receiverAccountA.isSome = true
  receiverB : a.receiverAccountB.isSome = true
  source : a.source.amount.IsResolved
  fst : a.destination.fst.amount.IsResolved
  snd : a.destination.snd.amount.IsResolved

theorem Agreed.isResolved {t : Terms} (h : Agreed s a w t) :
    (a.completed w t).IsResolved where
  client := rfl
  receiverA := rfl
  receiverB := rfl
  source := by
    refine Bounds.isResolved_of_eq (show _ = some t.burned from ?_)
    rw [completed, h.desired]
    rfl
  fst := Bounds.isResolved_of_eq (toOption_of_decideAgainst h.fst)
  snd := Bounds.isResolved_of_eq (toOption_of_decideAgainst h.snd)

theorem neverPanics_reserve (h : a.IsResolved) (source : T.AccountId) :
    NeverTx Panics (a.reserve source) := by
  refine quietTx_bind (quietTx_liftM (quiet_ensure rfl)) fun _ => ?_
  refine quietTx_bind (neverPanics_liftUnwrap h.receiverA) fun _ => ?_
  refine quietTx_bind (neverPanics_liftUnwrap h.fst) fun _ => ?_
  refine quietTx_bind (Technical.quietTx_transferOut _ _ _ _) fun _ => ?_
  refine quietTx_bind (neverPanics_liftUnwrap h.receiverB) fun _ => ?_
  refine quietTx_bind (neverPanics_liftUnwrap h.snd) fun _ => ?_
  refine quietTx_bind (Technical.quietTx_transferOut _ _ _ _) fun _ => ?_
  refine quietTx_bind (neverPanics_liftUnwrap h.source) fun _ => ?_
  refine quietTx_bind (Assets.quietTx_burnFrom _ _ _ _) fun _ => ?_
  exact quietTx_refreshReserves _ _ _

theorem neverPanics_validate (markAsset : T.TechAssetId) :
    Tx.Never Panics (a.validate s w markAsset) := by
  refine Tx.never_bind (quiet_ensure rfl) fun _ _ => ?_
  refine Tx.never_bind (Assets.quiet_freeBalance _ _ _) fun _ _ => ?_
  refine Tx.never_bind (quiet_ensure rfl) fun _ _ => ?_
  apply Tx.never_bind (Assets.quiet_freeBalance _ _ _)
  intro bp _
  apply Tx.never_bind (Assets.quiet_freeBalance _ _ _)
  intro tp _
  refine Tx.never_bind (neverPanics_ensurePoolNotEmpty _ _) fun _ _ => ?_
  refine Tx.never_bind (Assets.quiet_totalIssuance _ _) fun _ _ => ?_
  apply Tx.never_bind (quiet_decideAmounts _ _ _)
  intro amounts hamounts
  obtain ⟨x, y⟩ := amounts
  obtain ⟨k, _, _, hk, -, -, -, hx, hy⟩ := decideAmounts_eq_ok.mp hamounts
  have hsource : a.source.amount.IsResolved := by
    rw [hk]
    rfl
  refine Tx.never_bind (Bounds.isResolved_of_eq
    (toOption_of_decideAgainst hy)).unwrap fun _ _ => ?_
  refine Tx.never_bind (Bounds.isResolved_of_eq
    (toOption_of_decideAgainst hx)).unwrap fun _ _ => ?_
  refine Tx.never_bind hsource.unwrap fun _ _ => ?_
  exact Tx.never_bind (quiet_ensure rfl) fun _ _ => Tx.never_ok _

theorem neverPanics_prepareAndValidate :
    NeverTx Panics (a.prepareAndValidate (some w)) := by
  apply quietTx_bind (neverPanics_liftUnwrap rfl)
  intro source
  refine quietTx_bind (quietTx_liftM ?_) fun act => ?_
  · exact Tx.never_bind (quiet_resolveClient _ _) fun _ _ => Tx.never_ok _
  refine quietTx_bind (quietTx_reads fun _ => ?_) fun _ => ?_
  · exact quiet_isPoolAccountValidFor _ _ _
  apply quietTx_bind (quietTx_getMarkingAsset _)
  intro mark
  exact quietTx_reads fun _ => neverPanics_validate mark

end WithdrawLiquidityAction

/-! ## Every action -/

namespace PolySwapAction

/-- Everything that the settlement of an action reads is there. -/
def IsResolved : PolySwapAction T → Prop
  | .pairSwap a => a.IsResolved
  | .depositLiquidity a => a.IsResolved
  | .withdrawLiquidity a => a.IsResolved

variable {action act : PolySwapAction T} {s s' : Storage T} {w : T.AccountId}

theorem neverPanics_prepareAndValidate
    (hab : action.isAbstractChecking = false) :
    NeverTx Panics (action.prepareAndValidate (some w)) := by
  cases action with
  | pairSwap a =>
      refine quietTx_bind (quietTx_reads fun _ => ?_) fun _ => Tx.neverFrom_pure _
      exact a.neverPanics_prepareAndValidate hab
  | depositLiquidity a =>
      refine quietTx_bind ?_ fun _ => Tx.neverFrom_pure _
      exact a.neverPanics_prepareAndValidate hab
  | withdrawLiquidity a =>
      refine quietTx_bind ?_ fun _ => Tx.neverFrom_pure _
      exact a.neverPanics_prepareAndValidate

theorem isResolved_of_prepareAndValidate
    (hab : action.isAbstractChecking = false)
    (h : (action.prepareAndValidate (some w)).run s = (.ok act, s')) :
    act.IsResolved := by
  cases action with
  | pairSwap a =>
      obtain ⟨_, _, hvalid, hact⟩ := Tx.run_bind_eq_ok.mp h
      obtain ⟨hvalid, -⟩ := Tx.run_reads_eq_ok.mp hvalid
      obtain ⟨t, ht, rfl⟩ :=
        (PairSwapAction.prepareAndValidate_eq_ok hab).mp hvalid
      cases hact
      exact ht.isResolved
  | depositLiquidity a =>
      obtain ⟨_, _, hvalid, hact⟩ := Tx.run_bind_eq_ok.mp h
      obtain ⟨t, ht, rfl, -⟩ :=
        (DepositLiquidityAction.run_prepareAndValidate_ok hab).mp hvalid
      cases hact
      exact ht.isResolved
  | withdrawLiquidity a =>
      obtain ⟨_, _, hvalid, hact⟩ := Tx.run_bind_eq_ok.mp h
      obtain ⟨t, ht, rfl, -⟩ :=
        WithdrawLiquidityAction.run_prepareAndValidate_ok.mp hvalid
      cases hact
      exact ht.isResolved

theorem IsResolved.neverPanics_reserve (h : act.IsResolved)
    (source : T.AccountId) :
    NeverTx Panics (act.reserve source) := by
  cases act with
  | pairSwap a => exact a.neverPanics_reserve h source
  | depositLiquidity a => exact a.neverPanics_reserve h source
  | withdrawLiquidity a => exact a.neverPanics_reserve h source

/-- No action that is not an abstract check makes its validation panic; what the
validation returns is resolved and its settlement does not panic in any
storage. -/
theorem validated_actions_resolved (hab : action.isAbstractChecking = false)
    (s : Storage T) (w : T.AccountId) :
    Tx.NeverFrom Panics (action.prepareAndValidate (some w)) s ∧
      ∀ act s', (action.prepareAndValidate (some w)).run s = (.ok act, s') →
        act.IsResolved ∧
          ∀ source s'', Tx.NeverFrom Panics (act.reserve source) s'' := by
  refine ⟨neverPanics_prepareAndValidate hab s, fun act s' h => ?_⟩
  have hresolved := isResolved_of_prepareAndValidate hab h
  exact ⟨hresolved, hresolved.neverPanics_reserve⟩

/-- A deposit call of the sample runtime. -/
theorem validated_actions_resolved_sample :
    Tx.NeverFrom Panics
        (prepareAndValidate
          (.depositLiquidity (depositAction
            (Mock.poolOf Mock.dexA Mock.redPepper) Mock.goldenTicket
            Mock.redPepper Mock.unit Mock.unit 0 0
            (markingAssetId (Mock.poolOf Mock.dexA Mock.redPepper))))
          (some Mock.bob.account)) Mock.funded ∧
      ∀ act s', (prepareAndValidate
          (.depositLiquidity (depositAction
            (Mock.poolOf Mock.dexA Mock.redPepper) Mock.goldenTicket
            Mock.redPepper Mock.unit Mock.unit 0 0
            (markingAssetId (Mock.poolOf Mock.dexA Mock.redPepper))))
          (some Mock.bob.account)).run Mock.funded = (.ok act, s') →
        act.IsResolved ∧
          ∀ source s'', Tx.NeverFrom Panics (act.reserve source) s'' :=
  validated_actions_resolved rfl Mock.funded Mock.bob.account

end PolySwapAction
end PoolXyk
end SoraParachain

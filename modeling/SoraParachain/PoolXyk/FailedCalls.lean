import SoraParachain.Mock

/-!
# What a failed call of the pool leaves behind

Swapping and initialising undo everything when they fail.  Depositing and
withdrawing derive the marker asset of the pool before their first transaction,
which stores the record that the asset is derived from.
-/

namespace SoraParachain
namespace PoolXyk

variable {T : Config}

open Technical (performCreateSwap)

/-- The record of the marker asset of a pool is stored. -/
def MarkerRecorded (s : Storage T) (techAcc : TechAccountIdOf T) : Prop :=
  s.assetRecords (markingAssetId techAcc) = some (markingAssetRecord techAcc)

instance (s : Storage T) (techAcc : TechAccountIdOf T) :
    Decidable (MarkerRecorded s techAcc) :=
  inferInstanceAs (Decidable (_ = _))

/-- Nothing differs when the record of the marker asset was stored before. -/
def SameIfRecorded (techAcc : TechAccountIdOf T) (s s' : Storage T) : Prop :=
  MarkerRecorded s techAcc → s' = s

instance (techAcc : TechAccountIdOf T) :
    IsPreorder (Storage T) (SameIfRecorded techAcc) where
  refl _ _ := rfl
  trans a b c hab hbc hrecorded := by
    have hb : b = a := hab hrecorded
    rw [hb] at hbc
    exact hbc hrecorded

/-! ## The marker asset -/

section

variable {s s' : Storage T} {techAcc : TechAccountIdOf T}

theorem markerRecorded_withMarkingRecord :
    MarkerRecorded (withMarkingRecord s techAcc) techAcc :=
  Function.update_self _ _ _

/-- Storing the record changes the storage unless it was there. -/
theorem withMarkingRecord_eq_self_iff :
    withMarkingRecord s techAcc = s ↔ MarkerRecorded s techAcc := by
  constructor
  · intro h
    rw [← h]
    exact markerRecorded_withMarkingRecord
  · intro h
    have hupdate : Function.update s.assetRecords (markingAssetId techAcc)
        (some (markingAssetRecord techAcc)) = s.assetRecords := by
      rw [← h]
      exact Function.update_eq_self _ _
    rw [withMarkingRecord, hupdate]

/-- Deriving the marker asset stores the record, whether or not it succeeds. -/
theorem store_getMarkingAsset :
    ((getMarkingAsset techAcc).run s).2 = withMarkingRecord s techAcc := by
  rw [getMarkingAsset]
  cases h : T.techAssetIdTryFrom (markingAssetId techAcc) with
  | none =>
      have hrun : ((getMarkingAssetRepr techAcc).run s) =
          (.ok (markingAssetId techAcc), withMarkingRecord s techAcc) := rfl
      rw [Tx.run_bind_of_ok hrun, h]
      rfl
  | some mark =>
      have hrun : ((getMarkingAssetRepr techAcc).run s) =
          (.ok (markingAssetId techAcc), withMarkingRecord s techAcc) := rfl
      rw [Tx.run_bind_of_ok hrun, h]
      rfl

theorem keeps_getMarkingAsset_recorded :
    Tx.Keeps (SameIfRecorded techAcc) (getMarkingAsset techAcc) := by
  intro s hrecorded
  rw [store_getMarkingAsset]
  exact withMarkingRecord_eq_self_iff.mpr hrecorded

end

/-! ## Actions -/

theorem DepositLiquidityAction.poolAccount_of_resolveAccounts
    {self act : DepositLiquidityAction T} {abstractChecking : Bool}
    {source : Option T.AccountId}
    (h : self.resolveAccounts abstractChecking source = .ok act) :
    act.poolAccount = self.poolAccount := by
  unfold resolveAccounts at h
  split_ifs at h
  · cases h
    rfl
  · obtain ⟨_, -, h⟩ := Tx.except_bind_eq_ok.mp h
    obtain ⟨_, -, h⟩ := Tx.except_bind_eq_ok.mp h
    cases h
    rfl

theorem WithdrawLiquidityAction.poolAccount_of_resolveAccounts
    {self act : WithdrawLiquidityAction T} {source : T.AccountId}
    (h : self.resolveAccounts source = .ok act) :
    act.poolAccount = self.poolAccount := by
  obtain ⟨_, -, h⟩ := Tx.except_bind_eq_ok.mp h
  cases h
  rfl

/-- The validation of a deposit writes at most the record of its marker
asset. -/
theorem DepositLiquidityAction.keeps_prepareAndValidate_recorded
    (a : DepositLiquidityAction T) (source : Option T.AccountId) :
    Tx.Keeps (SameIfRecorded a.poolAccount) (a.prepareAndValidate source) := by
  apply Tx.keeps_liftM_bind
  intro act hact
  rw [← poolAccount_of_resolveAccounts hact]
  refine Tx.keeps_bind (Tx.keeps_reads _) fun _ => ?_
  exact Tx.keeps_bind keeps_getMarkingAsset_recorded fun _ => Tx.keeps_reads _

theorem WithdrawLiquidityAction.keeps_prepareAndValidate_recorded
    (a : WithdrawLiquidityAction T) (source : Option T.AccountId) :
    Tx.Keeps (SameIfRecorded a.poolAccount) (a.prepareAndValidate source) := by
  refine Tx.keeps_bind (Tx.keeps_liftM _) fun w => ?_
  apply Tx.keeps_liftM_bind
  intro act hact
  rw [← poolAccount_of_resolveAccounts hact]
  refine Tx.keeps_bind (Tx.keeps_reads _) fun _ => ?_
  exact Tx.keeps_bind keeps_getMarkingAsset_recorded fun _ => Tx.keeps_reads _

theorem failsWithin_deposit_recorded (w : T.AccountId)
    (a : DepositLiquidityAction T) :
    Tx.FailsWithin (SameIfRecorded a.poolAccount)
      (performCreateSwap w (PolySwapAction.depositLiquidity a)) := by
  refine Tx.failsWithin_bind (Tx.keeps_liftM _) fun _ => ?_
  refine Tx.failsWithin_bind ?_ fun _ => Tx.failsWithin_withTransaction _
  exact Tx.keeps_bind (a.keeps_prepareAndValidate_recorded _) fun _ =>
    Tx.keeps_pure _

theorem failsWithin_withdrawal_recorded (w : T.AccountId)
    (a : WithdrawLiquidityAction T) :
    Tx.FailsWithin (SameIfRecorded a.poolAccount)
      (performCreateSwap w (PolySwapAction.withdrawLiquidity a)) := by
  refine Tx.failsWithin_bind (Tx.keeps_liftM _) fun _ => ?_
  refine Tx.failsWithin_bind ?_ fun _ => Tx.failsWithin_withTransaction _
  exact Tx.keeps_bind (a.keeps_prepareAndValidate_recorded _) fun _ =>
    Tx.keeps_pure _

/-! ## Calls -/

section

variable {s s' : Storage T} {w : T.AccountId} {dexId : T.DEXId}
variable {assetA assetB : T.AssetId} {f : Failure}

/-- A call that derives the marker asset and then performs an action on the
same pool fails with at most the record stored. -/
theorem store_of_marked_failure {techAcc : TechAccountIdOf T}
    {k : T.TechAssetId → Exec T Unit}
    (hk : ∀ mark, Tx.FailsWithin (SameIfRecorded techAcc) (k mark))
    (h : (getMarkingAsset techAcc >>= k).run s = (.error f, s')) :
    s' = withMarkingRecord s techAcc := by
  rcases Tx.run_bind_eq_error.mp h with hmark | ⟨mark, s₁, hmark, hperform⟩
  · rw [← store_getMarkingAsset, hmark]
  · have hs₁ : s₁ = withMarkingRecord s techAcc := by
      rw [← store_getMarkingAsset, hmark]
    rw [hs₁] at hperform
    exact hk mark _ _ _ hperform markerRecorded_withMarkingRecord

/-- A call that looks its pool up first fails without the pool, or in what it
does with it. -/
theorem failure_of_pool_lookup
    {k : TradingPair T.TechAssetId × TechAccountIdOf T → Exec T Unit}
    (h : ((Tx.reads fun s => techAccountFromDexAndAssetPair s dexId assetA
      assetB) >>= k).run s = (.error f, s')) :
    s' = s ∧ (∀ techAcc, ¬IsPoolOf s dexId assetA assetB techAcc) ∨
      ∃ tpair techAcc, IsPoolOf s dexId assetA assetB techAcc ∧
        (k (tpair, techAcc)).run s = (.error f, s') := by
  rcases Tx.run_bind_eq_error.mp h with hread | ⟨⟨tpair, techAcc⟩, _, hread, h⟩
  · obtain ⟨hlookup, rfl⟩ := Tx.run_reads_eq_error.mp hread
    refine Or.inl ⟨rfl, ?_⟩
    rintro techAcc ⟨tpair, hpool⟩
    rw [hlookup] at hpool
    cases hpool
  · obtain ⟨hlookup, rfl⟩ := Tx.run_reads_eq_ok.mp hread
    exact Or.inr ⟨tpair, techAcc, ⟨tpair, hlookup⟩, h⟩

theorem swapPair_fails_unchanged {receiver : T.AccountId}
    {swapAmount : SwapAmount}
    (h : (swapPair w receiver dexId assetA assetB swapAmount).run s =
      (.error f, s')) :
    s' = s := by
  have hfails : Tx.FailsWithin Eq
      (swapPair w receiver dexId assetA assetB swapAmount) := by
    refine Tx.failsWithin_bind_pure ?_ _
    refine Tx.failsWithin_bind (Tx.keeps_reads _) fun _ => ?_
    refine Tx.failsWithin_bind (Tx.keeps_reads _) fun _ => ?_
    refine Tx.failsWithin_bind (Tx.keeps_liftM _) fun _ => ?_
    exact Tx.failsWithin_bind_pure (Tx.failsWithin_withTransaction _) _
  exact (hfails s f s' h).symm

theorem initializePool_fails_unchanged
    (h : (initializePool w dexId assetA assetB).run s = (.error f, s')) :
    s' = s :=
  (Tx.run_withTransaction_eq_error.mp h).1.symm

/-- A deposit that fails changes nothing exactly when it fails before it
derives the marker asset or finds its record stored. -/
theorem depositLiquidity_fails_unchanged_iff {aDesired bDesired aMin bMin : ℕ}
    (h : (depositLiquidity w dexId assetA assetB aDesired bDesired aMin
      bMin).run s = (.error f, s')) :
    s' = s ↔ ∀ techAcc, IsPoolOf s dexId assetA assetB techAcc →
      aDesired ≥ aMin ∧ bDesired ≥ bMin → MarkerRecorded s techAcc := by
  rcases failure_of_pool_lookup h with ⟨hs', hnone⟩ |
    ⟨tpair, techAcc, hpool, h⟩
  · exact iff_of_true hs' fun techAcc hpool => absurd hpool (hnone techAcc)
  rcases Tx.run_bind_eq_error.mp h with hcheck | ⟨_, _, hcheck, h⟩
  · obtain ⟨hrefused, rfl⟩ := Tx.run_liftM_eq_error.mp hcheck
    apply iff_of_true rfl
    intro other hother hdesired
    rw [ensure, if_pos hdesired] at hrefused
    cases hrefused
  obtain ⟨hmin, rfl⟩ := Tx.run_liftM_eq_ok.mp hcheck
  have hs' := store_of_marked_failure
    (fun mark => failsWithin_deposit_recorded w (depositAction techAcc assetA
      assetB aDesired bDesired aMin bMin mark)) h
  rw [hs', withMarkingRecord_eq_self_iff]
  constructor
  · intro hrecorded other hother _
    rwa [hother.unique hpool]
  · intro hall
    exact hall techAcc hpool (ensure_eq_ok.mp hmin)

/-- The same for a withdrawal, which derives the marker asset at once. -/
theorem withdrawLiquidity_fails_unchanged_iff {k aMin bMin : ℕ}
    (h : (withdrawLiquidity w dexId assetA assetB k aMin bMin).run s =
      (.error f, s')) :
    s' = s ↔ ∀ techAcc, IsPoolOf s dexId assetA assetB techAcc →
      MarkerRecorded s techAcc := by
  rcases failure_of_pool_lookup h with ⟨hs', hnone⟩ |
    ⟨tpair, techAcc, hpool, h⟩
  · exact iff_of_true hs' fun techAcc hpool => absurd hpool (hnone techAcc)
  have hs' := store_of_marked_failure
    (fun mark => failsWithin_withdrawal_recorded w (withdrawAction techAcc
      assetA assetB k aMin bMin mark)) h
  rw [hs', withMarkingRecord_eq_self_iff]
  constructor
  · intro hrecorded other hother
    rwa [hother.unique hpool]
  · intro hall
    exact hall techAcc hpool

end

/-- Swaps and initialisations that fail change nothing.  Deposits and
withdrawals that fail change nothing exactly when the record of the marker asset
is stored or they fail before they derive it. -/
theorem failed_calls_unchanged_iff {s : Storage T} {w : T.AccountId}
    {dexId : T.DEXId} {assetA assetB : T.AssetId} :
    (∀ receiver swapAmount f s',
      (swapPair w receiver dexId assetA assetB swapAmount).run s =
        (.error f, s') → s' = s) ∧
    (∀ f s', (initializePool w dexId assetA assetB).run s = (.error f, s') →
      s' = s) ∧
    (∀ aDesired bDesired aMin bMin f s',
      (depositLiquidity w dexId assetA assetB aDesired bDesired aMin
        bMin).run s = (.error f, s') →
      (s' = s ↔ ∀ techAcc, IsPoolOf s dexId assetA assetB techAcc →
        aDesired ≥ aMin ∧ bDesired ≥ bMin → MarkerRecorded s techAcc)) ∧
    ∀ k aMin bMin f s',
      (withdrawLiquidity w dexId assetA assetB k aMin bMin).run s =
        (.error f, s') →
      (s' = s ↔ ∀ techAcc, IsPoolOf s dexId assetA assetB techAcc →
        MarkerRecorded s techAcc) :=
  ⟨fun _ _ _ _ => swapPair_fails_unchanged,
    fun _ _ => initializePool_fails_unchanged,
    fun _ _ _ _ _ _ => depositLiquidity_fails_unchanged_iff,
    fun _ _ _ _ _ => withdrawLiquidity_fails_unchanged_iff⟩

/-- Bob deposits more than he has into the sample pool. -/
def unaffordableDeposit : Extrinsic Mock.runtime :=
  Mock.deposit Mock.dexA Mock.redPepper (10 ^ 25) (10 ^ 25)

/-- The record was stored when the pool was opened, so nothing changes. -/
theorem failed_calls_unchanged_iff_sample :
    (unaffordableDeposit.run Mock.funded).2 = Mock.funded := by
  have hfails : unaffordableDeposit.run Mock.funded =
      (.error (.error (poolError .sourceBaseAmountIsNotLargeEnough)),
        (unaffordableDeposit.run Mock.funded).2) :=
    Prod.ext (by decide +kernel) rfl
  have hpool : IsPoolOf Mock.funded Mock.dexA Mock.goldenTicket Mock.redPepper
      (Mock.poolOf Mock.dexA Mock.redPepper) :=
    Mock.isPoolOf (by decide +kernel) (by decide)
  apply ((failed_calls_unchanged_iff (T := Mock.runtime)).2.2.1 _ _ _ _ _ _
    hfails).mpr
  intro techAcc hother _
  rw [hother.unique hpool]
  decide +kernel

/-- A deposit into a pool that nobody opened fails and stores a record. -/
theorem failed_deposit_stores_record :
    ((Mock.deposit Mock.dexA Mock.redPepper 1 1).run Mock.genesis).1 =
        .error (.error (.technical .techAccountIdIsNotRegistered)) ∧
      ((Mock.deposit Mock.dexA Mock.redPepper 1 1).run
          Mock.genesis).2.assetRecords
          (Mock.markerOf Mock.dexA Mock.redPepper) ≠
        Mock.genesis.assetRecords (Mock.markerOf Mock.dexA Mock.redPepper) := by
  decide +kernel

end PoolXyk
end SoraParachain

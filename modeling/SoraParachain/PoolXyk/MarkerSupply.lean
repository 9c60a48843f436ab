import SoraParachain.Mock
import SoraParachain.PoolXyk.InitializeSpec

/-!
# Who changes the supply of a marker asset

Deposits mint the marker tokens of their pool and withdrawals burn them.  The
account that opened the pool was given the permission to mint the marker asset
as well and can use it directly; nothing else raises the issuance.
-/

namespace SoraParachain

variable {T : Config}

open Technical (techAccountIdToAccountId)

namespace PoolXyk

/-! ## The tokens that the calls of a pool mint and burn -/

/-- The marker tokens that validation computes for a deposit. -/
def mintedTokens (s : Storage T) (a : DepositLiquidityAction T)
    (w : T.AccountId) : ℕ :=
  match (a.prepareAndValidate (some w)).run s with
  | (.ok act, _) => act.destination.amount.toOption.getD 0
  | (.error _, _) => 0

/-- The marker tokens that an extrinsic mints as a deposit into a pool. -/
def mintedInto (techAcc : TechAccountIdOf T) (mark : T.TechAssetId)
    (s : Storage T) (x : Extrinsic T) : ℕ :=
  match x.2 with
  | .depositLiquidity dexId assetA assetB aDesired bDesired aMin bMin =>
      if IsPoolOf s dexId assetA assetB techAcc ∧ x.Succeeds s then
        mintedTokens s (depositAction techAcc assetA assetB aDesired bDesired
          aMin bMin mark) x.1.account
      else 0
  | _ => 0

/-- The marker tokens that an extrinsic burns as a withdrawal from a pool. -/
def burnedFrom (techAcc : TechAccountIdOf T) (s : Storage T)
    (x : Extrinsic T) : ℕ :=
  match x.2 with
  | .withdrawLiquidity dexId assetA assetB k _ _ =>
      if IsPoolOf s dexId assetA assetB techAcc ∧ x.Succeeds s then k else 0
  | _ => 0

/-- The extrinsic mints an asset directly and its signer may do so. -/
def MintsDirectly (marker : T.AssetId) (s : Storage T) (x : Extrinsic T) :
    Prop :=
  match x.2 with
  | .assetsMint assetId _ _ =>
      assetId = marker ∧
        Assets.Permitted s x.1.account Permissions.mint marker
  | _ => False

/-- The extrinsic is a call of the assets, the trading pairs or the pool. -/
def isPalletCall (x : Extrinsic T) : Bool :=
  match x.2 with
  | .createSwap _ => false
  | _ => true

variable {s s' : Storage T} {w : T.AccountId} {dexId : T.DEXId}
variable {assetA assetB marker : T.AssetId} {u : Unit}
variable {techAcc other : TechAccountIdOf T} {mark : T.TechAssetId}

/-- Validation computes the tokens of the terms. -/
theorem mintedTokens_eq {a : DepositLiquidityAction T}
    {t : DepositLiquidityAction.Terms} (hab : a.isAbstractChecking = false)
    (h : DepositLiquidityAction.Agreed s a w t) :
    mintedTokens s a w = t.minted := by
  have hrun := (DepositLiquidityAction.run_prepareAndValidate_ok hab).mpr
    ⟨t, h, rfl, rfl⟩
  rw [mintedTokens, hrun]
  rfl

/-! ## Pools and their marker assets -/

/-- The marker asset is derived from the pool account. -/
theorem markingAssetId_of_isMarkerOf (hT : T.CollisionFree)
    (h : IsMarkerOf techAcc marker) :
    marker = markingAssetId techAcc := by
  obtain ⟨mark, hmark, rfl⟩ := h
  exact hT.into_of_tryFrom _ mark hmark

/-- Different pools have different marker assets. -/
theorem IsMarkerOf.techAcc_eq (hT : T.CollisionFree)
    (h : IsMarkerOf techAcc marker) (h' : IsMarkerOf other marker) :
    techAcc = other := by
  have heq : markingAssetId techAcc = markingAssetId other := by
    rw [← markingAssetId_of_isMarkerOf hT h, ← markingAssetId_of_isMarkerOf hT h']
  have hrecord := hT.record heq
  simp only [markingAssetRecord, AssetRecord.arity3.injEq,
    AssetRecordArg.extra.injEq, AssetIdExtraAssetRecordArg.accountId.injEq,
    true_and] at hrecord
  exact hT.repr hrecord

/-- A generated asset is no marker asset. -/
theorem genAssetId_ne_marker (hT : T.CollisionFree)
    (h : IsMarkerOf techAcc marker) (who : T.AccountId) :
    marker ≠ Assets.genAssetId s who := by
  rw [markingAssetId_of_isMarkerOf hT h]
  intro heq
  exact hT.nonce_ne_record _ _ _ heq.symm

/-! ## One call -/

theorem supply_of_depositLiquidity (hM : T.currency.Lawful balanceModulus)
    (hT : T.CollisionFree)
    (hmark : T.techAssetIdTryFrom (markingAssetId techAcc) = some mark)
    {aDesired bDesired aMin bMin : ℕ}
    (h : (depositLiquidity w dexId assetA assetB aDesired bDesired aMin
      bMin).run s = (.ok u, s')) :
    s'.issuance (T.techAssetIdInto mark) =
      s.issuance (T.techAssetIdInto mark) +
        if IsPoolOf s dexId assetA assetB techAcc then
          mintedTokens s (depositAction techAcc assetA assetB aDesired bDesired
            aMin bMin mark) w
        else 0 := by
  obtain ⟨other, -, -, -, -, hpool, -⟩ := run_depositLiquidity_ok.mp h
  obtain ⟨mark', t, hagreed, hdeposited⟩ := deposited_of_run hM hpool h
  have hissuance := hdeposited.issuance
  have hmark' := hagreed.marker
  split_ifs with hsame
  · obtain rfl := hsame.unique hpool
    obtain rfl : mark' = mark :=
      Option.some.inj (hmark'.symm.trans hmark)
    rw [mintedTokens_eq rfl hagreed, hissuance]
  · have hne : T.techAssetIdInto mark ≠ T.techAssetIdInto mark' := by
      intro heq
      have hsome : IsMarkerOf techAcc (T.techAssetIdInto mark') :=
        ⟨mark, hmark, heq.symm⟩
      obtain rfl := hsome.techAcc_eq hT hdeposited.isMarker
      exact hsame hpool
    rw [Storage.issuance, hdeposited.book, Book.issuance_issued_of_ne hne,
      Book.issuance_moved, Book.issuance_moved]
    rfl

theorem supply_of_withdrawLiquidity (hM : T.currency.Lawful balanceModulus)
    (hT : T.CollisionFree)
    (hmark : T.techAssetIdTryFrom (markingAssetId techAcc) = some mark)
    {k aMin bMin : ℕ}
    (h : (withdrawLiquidity w dexId assetA assetB k aMin bMin).run s =
      (.ok u, s')) :
    s'.issuance (T.techAssetIdInto mark) +
        (if IsPoolOf s dexId assetA assetB techAcc then k else 0) =
      s.issuance (T.techAssetIdInto mark) := by
  obtain ⟨other, -, -, -, -, hpool, -⟩ := run_withdrawLiquidity_ok.mp h
  obtain ⟨mark', t, hagreed, hwithdrawn⟩ := withdrawn_of_run hM hpool h
  have hissuance := hwithdrawn.issuance
  have hmark' := hagreed.marker
  have hk : k = t.burned := Bounds.desired.inj hagreed.desired
  have hcovered : t.burned ≤ s.issuance (T.techAssetIdInto mark') :=
    hagreed.covered.trans (hM.free_le_issuance _ _ _)
  split_ifs with hsame
  · obtain rfl := hsame.unique hpool
    obtain rfl : mark' = mark :=
      Option.some.inj (hmark'.symm.trans hmark)
    omega
  · have hne : T.techAssetIdInto mark ≠ T.techAssetIdInto mark' := by
      intro heq
      have hsome : IsMarkerOf techAcc (T.techAssetIdInto mark') :=
        ⟨mark, hmark, heq.symm⟩
      obtain rfl := hsome.techAcc_eq hT hwithdrawn.isMarker
      exact hsame hpool
    rw [Storage.issuance, hwithdrawn.book, Book.issuance_retired_of_ne hne,
      Book.issuance_moved, Book.issuance_moved]
    rfl

theorem supply_of_swapPair (hM : T.currency.Lawful balanceModulus)
    {receiver : T.AccountId} {swapAmount : SwapAmount}
    (h : (swapPair w receiver dexId assetA assetB swapAmount).run s =
      (.ok u, s')) :
    s'.issuance marker = s.issuance marker := by
  obtain ⟨other, t, l, -, hset, rfl⟩ := run_swapPair_ok.mp h
  obtain ⟨-, hbook⟩ := hset.book hM
  change (T.currency.book l).issuance marker = _
  rw [hbook, Book.issuance_paid]
  rfl

theorem supply_of_register (hM : T.currency.Lawful balanceModulus)
    (hT : T.CollisionFree) (hmarker : IsMarkerOf techAcc marker)
    {symbol name : List UInt8} {initialSupply : ℕ} {isMintable : Bool}
    (h : (Assets.register w symbol name initialSupply isMintable).run s =
      (.ok u, s')) :
    s'.issuance marker = s.issuance marker := by
  have hregistered := Assets.registered_of_register h
  rcases hregistered.ledger with ⟨-, hledger⟩ | ⟨-, hdeposit⟩
  · rw [Storage.issuance, Storage.book, hledger]
    rfl
  · have hbook := hM.deposit_ok hdeposit
    have hne := genAssetId_ne_marker (s := s) hT hmarker w
    rw [Storage.issuance, Storage.book, hbook, Book.issuance_issued_of_ne hne]
    rfl

theorem supply_of_transfer (hM : T.currency.Lawful balanceModulus)
    {assetId : T.AssetId} {dest : T.AccountId} {amount : ℕ}
    (h : (Assets.transfer w assetId dest amount).run s = (.ok u, s')) :
    s'.issuance marker = s.issuance marker := by
  obtain ⟨-, -, l, hl, rfl⟩ := Assets.run_transferFrom_ok.mp h
  obtain ⟨-, hbook⟩ := hM.transfer_ok hl
  change (T.currency.book l).issuance marker = _
  rw [hbook, Book.issuance_moved]
  rfl

theorem supply_of_mint (hM : T.currency.Lawful balanceModulus)
    {assetId : T.AssetId} {dest : T.AccountId} {amount : ℕ}
    (hdirect : ¬(assetId = marker ∧
      Assets.Permitted s w Permissions.mint marker))
    (h : (Assets.mint w assetId dest amount).run s = (.ok u, s')) :
    s'.issuance marker = s.issuance marker := by
  obtain ⟨-, hpermitted, -, l, hl, rfl⟩ := Assets.run_mintTo_ok.mp h
  have hne : marker ≠ assetId := by
    rintro rfl
    exact hdirect ⟨rfl, hpermitted⟩
  change (T.currency.book l).issuance marker = _
  rw [hM.deposit_ok hl, Book.issuance_issued_of_ne hne]
  rfl

theorem supply_of_burn (hM : T.currency.Lawful balanceModulus)
    {assetId : T.AssetId} {amount : ℕ}
    (h : (Assets.burn w assetId amount).run s = (.ok u, s')) :
    s'.issuance marker ≤ s.issuance marker := by
  obtain ⟨-, -, l, hl, rfl⟩ := Assets.run_burnFrom_ok.mp h
  obtain ⟨-, hbook⟩ := hM.withdraw_ok hl
  change (T.currency.book l).issuance marker ≤ _
  rw [hbook, Book.retired]
  dsimp only
  split_ifs with heq
  · subst heq
    exact Nat.sub_le _ _
  · exact Nat.le_refl _

/-! ## Any step and any run -/

theorem burnedFrom_of_not_succeeds {x : Extrinsic T} (h : ¬x.Succeeds s) :
    burnedFrom techAcc s x = 0 := by
  unfold burnedFrom
  split
  · rw [if_neg fun hboth => h hboth.2]
  · rfl

/-- A step that does not mint the marker asset directly raises its issuance by
no more than it mints as a deposit, less what it burns as a withdrawal. -/
theorem step_supply (hM : T.currency.Lawful balanceModulus)
    (hT : T.CollisionFree)
    (hmark : T.techAssetIdTryFrom (markingAssetId techAcc) = some mark)
    {x : Extrinsic T} (hcall : isPalletCall x = true)
    (hdirect : ¬MintsDirectly (T.techAssetIdInto mark) s x) :
    (step s x).issuance (T.techAssetIdInto mark) + burnedFrom techAcc s x ≤
      s.issuance (T.techAssetIdInto mark) + mintedInto techAcc mark s x := by
  have hmarker : IsMarkerOf techAcc (T.techAssetIdInto mark) :=
    ⟨mark, hmark, rfl⟩
  by_cases hs : x.Succeeds s
  · have hrun := Extrinsic.succeeds_iff.mp hs
    obtain ⟨who, call⟩ := x
    cases call with
    | assetsRegister symbol name initialSupply isMintable =>
        exact (supply_of_register hM hT hmarker hrun).le
    | assetsTransfer assetId dest amount =>
        exact (supply_of_transfer hM hrun).le
    | assetsMint assetId dest amount =>
        exact (supply_of_mint hM hdirect hrun).le
    | assetsBurn assetId amount => exact supply_of_burn hM hrun
    | assetsSetNonMintable assetId =>
        obtain ⟨-, -, hstep⟩ := Assets.run_setNonMintable_ok.mp hrun
        rw [hstep]
        exact Nat.le_refl _
    | tradingPairRegister dexId baseAssetId targetAssetId =>
        obtain ⟨-, -, hstep⟩ := TradingPair.run_register_ok hrun
        rw [hstep]
        exact Nat.le_refl _
    | initializePool dexId assetA assetB =>
        obtain ⟨_, _, _, hinit⟩ := initialized_of_run hrun
        rw [Storage.issuance, Storage.book, hinit.ledger]
        exact Nat.le_refl _
    | depositLiquidity dexId assetA assetB aDesired bDesired aMin bMin =>
        have hsupply := supply_of_depositLiquidity hM hT hmark hrun
        rw [hsupply, burnedFrom, mintedInto]
        simp only [hs, and_true]
        exact Nat.le_refl _
    | withdrawLiquidity dexId assetA assetB k aMin bMin =>
        have hsupply := supply_of_withdrawLiquidity hM hT hmark hrun
        rw [← hsupply, burnedFrom, mintedInto]
        simp only [hs, and_true]
        exact Nat.le_refl _
    | swapPair receiver dexId assetA assetB swapAmount =>
        exact (supply_of_swapPair hM hrun).le
    | createSwap action => cases hcall
  · rw [burnedFrom_of_not_succeeds hs]
    rcases step_succeeds_or s x with hrun | hsame
    · exact absurd (Extrinsic.succeeds_iff.mpr hrun) hs
    · rw [SameButRecords] at hsame
      rw [hsame]
      exact Nat.le_add_right _ _

/-- In a run from a storage without marker tokens, where nobody mints the
marker asset directly, its issuance never exceeds what deposits minted less
what withdrawals burned. -/
theorem markerSupply_le (hM : T.currency.Lawful balanceModulus)
    (hT : T.CollisionFree)
    (hmark : T.techAssetIdTryFrom (markingAssetId techAcc) = some mark)
    {genesis : Storage T} (hgenesis : genesis.issuance (T.techAssetIdInto mark) = 0)
    {extrinsics : List (Extrinsic T)}
    (hcalls : ∀ x ∈ extrinsics, isPalletCall x = true)
    (hdirect : Along step
      (fun s x => ¬MintsDirectly (T.techAssetIdInto mark) s x) genesis
      extrinsics) :
    (runs genesis extrinsics).issuance (T.techAssetIdInto mark) +
        totalAlong step (burnedFrom techAcc) genesis extrinsics ≤
      totalAlong step (mintedInto techAcc mark) genesis extrinsics := by
  have hsteps := (along_of_forall_mem hcalls).and hdirect
  have hrun := runAll_add_totalAlong_le
    (fun s => s.issuance (T.techAssetIdInto mark)) (burnedFrom techAcc)
    (mintedInto techAcc mark)
    (fun s x hx => step_supply hM hT hmark hx.1 hx.2) extrinsics genesis hsteps
  rw [hgenesis, Nat.zero_add] at hrun
  exact hrun

/-- Bob opens a pool, deposits a million units and withdraws one. -/
theorem markerSupply_le_sample :
    (runs Mock.genesis (Mock.openPool Mock.dexA Mock.redPepper ++
        [Mock.deposit Mock.dexA Mock.redPepper (1000000 * Mock.unit)
          (1000000 * Mock.unit), Mock.withdrawUnit])).issuance
        (Mock.markerOf Mock.dexA Mock.redPepper) +
      totalAlong step (burnedFrom (Mock.poolOf Mock.dexA Mock.redPepper))
        Mock.genesis (Mock.openPool Mock.dexA Mock.redPepper ++
        [Mock.deposit Mock.dexA Mock.redPepper (1000000 * Mock.unit)
          (1000000 * Mock.unit), Mock.withdrawUnit]) ≤
      totalAlong step (mintedInto (Mock.poolOf Mock.dexA Mock.redPepper)
          (Mock.markerOf Mock.dexA Mock.redPepper))
        Mock.genesis (Mock.openPool Mock.dexA Mock.redPepper ++
        [Mock.deposit Mock.dexA Mock.redPepper (1000000 * Mock.unit)
          (1000000 * Mock.unit), Mock.withdrawUnit]) :=
  markerSupply_le (T := Mock.runtime) Mock.currency_lawful Mock.collisionFree
    rfl (by decide +kernel) (by decide +kernel)
    ⟨id, id, id, id, trivial⟩

/-- The account that opened a pool mints its marker asset without a deposit. -/
theorem markerSupply_exceeds_deposits :
    totalAlong step (mintedInto (Mock.poolOf Mock.dexA Mock.redPepper)
        (Mock.markerOf Mock.dexA Mock.redPepper))
      Mock.genesis (Mock.openPool Mock.dexA Mock.redPepper ++
        [(Mock.bob, .assetsMint (Mock.markerOf Mock.dexA Mock.redPepper)
          Mock.bob.account 1)]) <
    (runs Mock.genesis (Mock.openPool Mock.dexA Mock.redPepper ++
        [(Mock.bob, .assetsMint (Mock.markerOf Mock.dexA Mock.redPepper)
          Mock.bob.account 1)])).issuance
        (Mock.markerOf Mock.dexA Mock.redPepper) := by
  decide +kernel

end PoolXyk
end SoraParachain

import SoraParachain.PoolXyk.Calls

/-!
# The errors that report a drained pool

Only the comparisons of the two balances of a pool ever report that it is empty
or invalid.  Every other part of a call is quiet about it, however it fails, so
a call on a pool with both balances is quiet as a whole.
-/

namespace SoraParachain

variable {T : Config} {α β : Type}

/-- Whether a failure says that a pool lacks one balance or both. -/
def reportsDrained : Failure → Bool
  | .error (.poolXyk .poolIsEmpty) => true
  | .error (.poolXyk .poolIsInvalid) => true
  | _ => false

abbrev ReportsDrained (e : Failure) : Prop :=
  reportsDrained e = true

/-- Whether a failure stops the runtime. -/
abbrev Panics (e : Failure) : Prop :=
  e = .panic

/-- The failures of `P` are panics or reports of a drained pool.  Most parts of
the calls have no such failure at all. -/
class Alarming (P : Failure → Prop) : Prop where
  cases : ∀ e, P e → Panics e ∨ ReportsDrained e

instance : Alarming ReportsDrained := ⟨fun _ h => Or.inr h⟩

instance : Alarming Panics := ⟨fun _ h => Or.inl h⟩

/-- Wherever the computation over the storage starts, it never fails with a
failure of `P`. -/
abbrev NeverTx (P : Failure → Prop) (x : Exec T α) : Prop :=
  ∀ s, Tx.NeverFrom P x s

/-- However the computation fails, it does not report a drained pool. -/
abbrev Quiet (x : Result α) : Prop :=
  Tx.Never ReportsDrained x

/-- The same for a computation over the storage, wherever it starts. -/
abbrev QuietTx (x : Exec T α) : Prop :=
  NeverTx ReportsDrained x

variable {P : Failure → Prop}

/-! ## Guards and sequences -/

theorem quietTx_bind {x : Exec T α} {f : α → Exec T β} (hx : NeverTx P x)
    (hf : ∀ a, NeverTx P (f a)) :
    NeverTx P (x >>= f) :=
  fun s => Tx.neverFrom_bind (hx s) fun a s' _ => hf a s'

theorem quietTx_reads {f : Storage T → Result α} (hf : ∀ s, Tx.Never P (f s)) :
    NeverTx P (Tx.reads f) :=
  fun s => Tx.neverFrom_reads (hf s)

theorem quietTx_liftM {x : Result α} (hx : Tx.Never P x) :
    NeverTx P (liftM x : Exec T α) :=
  Tx.neverFrom_liftM hx

theorem quietTx_withTransaction {x : Exec T α} (hx : NeverTx P x) :
    NeverTx P (Tx.withTransaction x) :=
  fun s => Tx.neverFrom_withTransaction (hx s)

variable [Alarming P]

theorem quiet_fail {e : DispatchError}
    (he : reportsDrained (.error e) = false) :
    Tx.Never P (fail e : Result α) := by
  apply Tx.never_error
  intro h
  rcases Alarming.cases _ h with hpanic | hdrained
  · cases hpanic
  · exact Bool.false_ne_true (he.symm.trans hdrained)

theorem quiet_ensure {c : Prop} [Decidable c] {e : DispatchError}
    (he : reportsDrained (.error e) = false) :
    Tx.Never P (ensure c e) := by
  unfold ensure
  split_ifs
  · exact Tx.never_ok ()
  · exact quiet_fail he

theorem quiet_okOr {e : DispatchError} {o : Option α}
    (he : reportsDrained (.error e) = false) :
    Tx.Never P (okOr e o) := by
  cases o with
  | none => exact quiet_fail he
  | some a => exact Tx.never_ok a

theorem quiet_unwrap {o : Option α} : Quiet (unwrap o) := by
  cases o with
  | none => exact Tx.never_error Bool.false_ne_true
  | some a => exact Tx.never_ok a

theorem quiet_foreign {x : Except ForeignError α} : Tx.Never P (foreign x) := by
  cases x with
  | ok a => exact Tx.never_ok a
  | error e => exact quiet_fail rfl

/-! ## Assets and technical accounts -/

namespace Assets

theorem quiet_ensureAssetExists (s : Storage T) (assetId : T.AssetId) :
    Tx.Never P (ensureAssetExists s assetId) :=
  quiet_ensure rfl

theorem quiet_freeBalance (s : Storage T) (assetId : T.AssetId)
    (who : T.AccountId) :
    Tx.Never P (freeBalance s assetId who) :=
  Tx.never_bind (quiet_ensureAssetExists s assetId) fun _ _ => Tx.never_ok _

theorem quiet_totalIssuance (s : Storage T) (assetId : T.AssetId) :
    Tx.Never P (totalIssuance s assetId) :=
  Tx.never_bind (quiet_ensureAssetExists s assetId) fun _ _ => Tx.never_ok _

theorem quiet_checkPermission (s : Storage T) (issuer : T.AccountId)
    (permissionId : PermissionId) (assetId : T.AssetId) :
    Tx.Never P (checkPermissionMaybeWithParameters s issuer permissionId
      assetId) := by
  have hscope : ∀ scope, Tx.Never P (Permissions.checkPermissionWithScope s issuer
      permissionId scope) := by
    intro scope
    refine Tx.never_bind (quiet_ensure rfl) fun _ _ => ?_
    dsimp only
    split
    · exact Tx.never_ok ()
    · exact Tx.never_ok ()
    · exact quiet_fail rfl
  unfold checkPermissionMaybeWithParameters
  split
  · exact Tx.never_ok ()
  · exact hscope .unlimited

theorem quietTx_apply
    (op : T.currency.Ledger → Except ForeignError T.currency.Ledger) :
    NeverTx P (Currency.apply op) := by
  apply quietTx_bind Tx.neverFrom_get
  intro s
  exact quietTx_bind (quietTx_liftM quiet_foreign) fun _ =>
    Tx.neverFrom_modify _

theorem quietTx_transferFrom (assetId : T.AssetId) (source dest : T.AccountId)
    (amount : ℕ) :
    NeverTx P (transferFrom assetId source dest amount) := by
  refine quietTx_bind (quietTx_reads fun s => ?_) fun _ => ?_
  · exact quiet_ensureAssetExists s assetId
  refine quietTx_bind (quietTx_reads fun s => ?_) fun _ => quietTx_apply _
  exact quiet_checkPermission s _ _ _

theorem quietTx_mintTo (assetId : T.AssetId) (issuer dest : T.AccountId)
    (amount : ℕ) :
    NeverTx P (mintTo assetId issuer dest amount) := by
  refine quietTx_bind (quietTx_reads fun s => ?_) fun _ => ?_
  · exact quiet_ensureAssetExists s assetId
  refine quietTx_bind (quietTx_reads fun s => ?_) fun _ => ?_
  · exact quiet_checkPermission s _ _ _
  exact quietTx_bind (quietTx_reads fun _ => quiet_ensure rfl) fun _ =>
    quietTx_apply _

theorem quietTx_burnFrom (assetId : T.AssetId) (issuer dest : T.AccountId)
    (amount : ℕ) :
    NeverTx P (burnFrom assetId issuer dest amount) := by
  refine quietTx_bind (quietTx_reads fun s => ?_) fun _ => ?_
  · exact quiet_ensureAssetExists s assetId
  refine quietTx_bind (quietTx_reads fun s => ?_) fun _ => quietTx_apply _
  split_ifs
  · exact quiet_checkPermission s _ _ _
  · exact Tx.never_ok ()

end Assets

namespace Technical

theorem quiet_ensureTechAccountRegistered (s : Storage T)
    (techAcc : TechAccountIdOf T) :
    Tx.Never P (ensureTechAccountRegistered s techAcc) :=
  Tx.never_bind (quiet_okOr rfl) fun _ _ => Tx.never_ok ()

theorem quietTx_transferIn (asset : T.AssetId) (source : T.AccountId)
    (techDest : TechAccountIdOf T) (amount : ℕ) :
    NeverTx P (transferIn asset source techDest amount) :=
  quietTx_bind (quietTx_reads fun _ => quiet_okOr rfl) fun _ =>
    Assets.quietTx_transferFrom _ _ _ _

theorem quietTx_transferOut (asset : T.AssetId)
    (techSource : TechAccountIdOf T) (dest : T.AccountId) (amount : ℕ) :
    NeverTx P (transferOut asset techSource dest amount) :=
  quietTx_bind (quietTx_reads fun _ => quiet_okOr rfl) fun _ =>
    Assets.quietTx_transferFrom _ _ _ _

end Technical

namespace PoolXyk

/-! ## Arithmetic -/

theorem quiet_toBalance (w : FixedWrapper) : Tx.Never P (toBalance w) := by
  unfold toBalance
  split
  · exact Tx.never_ok _
  · exact quiet_fail rfl

theorem quiet_feeOf (amount : ℕ) : Tx.Never P (feeOf amount) :=
  quiet_toBalance _

theorem quiet_calculateOptimalDeposit (reserveA reserveB aDesired bDesired aMin
    bMin : ℕ) :
    Tx.Never P (calculateOptimalDeposit reserveA reserveB aDesired bDesired aMin
      bMin) := by
  apply Tx.never_bind (quiet_toBalance _)
  intro qa _
  apply Tx.never_bind (quiet_toBalance _)
  intro qb _
  split_ifs
  · exact Tx.never_bind (quiet_ensure rfl) fun _ _ => Tx.never_ok _
  · exact Tx.never_bind (quiet_ensure rfl) fun _ _ => Tx.never_ok _

theorem quiet_calcDepositLiquidity1 (supply reserveA reserveB aDesired bDesired
    aMin bMin : ℕ) :
    Tx.Never P (calcDepositLiquidity1 supply reserveA reserveB aDesired bDesired
      aMin bMin) := by
  refine Tx.never_bind (quiet_calculateOptimalDeposit _ _ _ _ _ _) fun _ _ => ?_
  refine Tx.never_bind (quiet_toBalance _) fun _ _ => ?_
  exact Tx.never_bind (quiet_toBalance _) fun _ _ => Tx.never_ok _

theorem quiet_calcOutputForExactInput (side : Bool) (x y xIn : ℕ) :
    Tx.Never P (calcOutputForExactInput side x y xIn) := by
  unfold calcOutputForExactInput
  dsimp only
  split_ifs
  · apply Tx.never_bind (quiet_toBalance _)
    intro y1 _
    exact Tx.never_bind (quiet_feeOf y1) fun _ _ => Tx.never_ok _
  · refine Tx.never_bind (quiet_feeOf xIn) fun _ _ => ?_
    exact Tx.never_bind (quiet_toBalance _) fun _ _ => Tx.never_ok _

theorem quiet_calcInputForExactOutput (side : Bool) (x y yOut : ℕ) :
    Tx.Never P (calcInputForExactOutput side x y yOut) := by
  unfold calcInputForExactOutput
  dsimp only
  split_ifs
  · refine Tx.never_bind (quiet_feeOf _) fun _ _ => ?_
    refine Tx.never_bind (quiet_toBalance _) fun _ _ => ?_
    exact Tx.never_bind (quiet_toBalance _) fun _ _ => Tx.never_ok _
  · refine Tx.never_bind (quiet_feeOf _) fun _ _ => ?_
    apply Tx.never_bind (quiet_toBalance _)
    intro xIn _
    exact Tx.never_bind (quiet_feeOf xIn) fun _ _ => Tx.never_ok _

/-! ## Shared parts of the actions -/

theorem quiet_resolveClient (clientAccount : Option T.AccountId)
    (source : T.AccountId) :
    Tx.Never P (resolveClient clientAccount source) := by
  unfold resolveClient
  split
  · exact Tx.never_ok _
  · split_ifs
    · exact quiet_fail rfl
    · exact Tx.never_ok _

theorem quiet_isPoolAccountValidFor (s : Storage T) (assetId : T.AssetId)
    (techAcc : TechAccountIdOf T) :
    Tx.Never P (isPoolAccountValidFor s assetId techAcc) :=
  Technical.quiet_ensureTechAccountRegistered s techAcc

theorem quiet_decideAgainst (bounds : Bounds) (recommended : ℕ)
    {e : PoolXykError}
    (he : reportsDrained (.error (poolError e)) = false) :
    Tx.Never P (decideAgainst bounds recommended e) := by
  unfold decideAgainst
  split
  · exact Tx.never_bind (quiet_ensure he) fun _ _ => Tx.never_ok _
  · exact Tx.never_bind (quiet_ensure rfl) fun _ _ => Tx.never_ok _

theorem quietTx_getMarkingAsset (techAcc : TechAccountIdOf T) :
    NeverTx P (getMarkingAsset techAcc) := by
  refine quietTx_bind ?_ fun _ => quietTx_liftM (quiet_okOr rfl)
  exact quietTx_bind (Tx.neverFrom_modify _) fun _ => Tx.neverFrom_pure _

theorem quietTx_refreshReserves (techAcc : TechAccountIdOf T)
    (assetA assetB : T.AssetId) :
    NeverTx P (refreshReserves techAcc assetA assetB) := by
  refine quietTx_bind (quietTx_reads fun s => ?_) fun _ => ?_
  · exact Assets.quiet_freeBalance s _ _
  refine quietTx_bind (quietTx_reads fun s => ?_) fun _ =>
    Tx.neverFrom_modify _
  exact Assets.quiet_freeBalance s _ _

/-- Two positive balances make neither an empty pool nor an invalid one. -/
theorem quiet_ensurePoolNotEmpty {balanceA balanceB : ℕ} (hA : 0 < balanceA)
    (hB : 0 < balanceB) :
    Quiet (ensurePoolNotEmpty balanceA balanceB) := by
  have hok : ensurePoolNotEmpty balanceA balanceB = .ok () :=
    ensurePoolNotEmpty_eq_ok.mpr ⟨hA, hB⟩
  rw [hok]
  exact Tx.never_ok ()

/-! ## Exchanges -/

namespace PairSwapAction

variable {s : Storage T} {a : PairSwapAction T} {w : T.AccountId}

theorem quiet_resolveAccounts (source : Option T.AccountId) :
    Quiet (a.resolveAccounts false source) := by
  refine Tx.never_bind quiet_unwrap fun _ _ => ?_
  exact Tx.never_bind (quiet_resolveClient _ _) fun _ _ => Tx.never_ok _

theorem quiet_decideAmounts (side : Bool) (source destination : Bounds)
    (balanceSt balanceTt : ℕ) :
    Tx.Never P (decideAmounts side source destination balanceSt balanceTt) := by
  unfold decideAmounts
  split
  · refine Tx.never_bind (quiet_ensure rfl) fun _ _ => ?_
    refine Tx.never_bind (quiet_ensure rfl) fun _ _ => ?_
    refine Tx.never_bind (quiet_calcOutputForExactInput _ _ _ _) fun _ _ => ?_
    refine Tx.never_bind (quiet_calcInputForExactOutput _ _ _ _) fun _ _ => ?_
    exact Tx.never_bind (quiet_ensure rfl) fun _ _ => Tx.never_ok _
  · refine Tx.never_bind (quiet_ensure rfl) fun _ _ => ?_
    refine Tx.never_bind (quiet_calcOutputForExactInput _ _ _ _) fun _ _ => ?_
    exact Tx.never_bind (quiet_ensure rfl) fun _ _ => Tx.never_ok _
  · exact Tx.never_bind (quiet_ensure rfl) fun _ _ => quiet_fail rfl
  · refine Tx.never_bind (quiet_ensure rfl) fun _ _ => ?_
    refine Tx.never_bind (quiet_calcInputForExactOutput _ _ _ _) fun _ _ => ?_
    exact Tx.never_bind (quiet_ensure rfl) fun _ _ => Tx.never_ok _
  · exact Tx.never_bind (quiet_ensure rfl) fun _ _ => quiet_fail rfl
  · exact quiet_fail rfl

theorem quiet_resolveAmounts (required : Bool) (balanceSt balanceTt : ℕ) :
    Quiet (a.resolveAmounts required balanceSt balanceTt) := by
  unfold resolveAmounts
  split_ifs
  · refine Tx.never_bind quiet_unwrap fun _ _ => ?_
    exact Tx.never_bind (quiet_decideAmounts _ _ _ _ _) fun _ _ =>
      Tx.never_ok _
  · exact Tx.never_ok _

theorem quiet_resolveFeeAccount : Tx.Never P a.resolveFeeAccount := by
  unfold resolveFeeAccount
  split
  · refine Tx.never_bind ?_ fun _ _ => Tx.never_ok _
    refine Tx.never_bind (quiet_okOr rfl) fun _ _ => ?_
    split_ifs
    · exact quiet_fail rfl
    · exact Tx.never_ok _
  · exact Tx.never_bind (quiet_okOr rfl) fun _ _ => Tx.never_ok _

theorem quiet_resolveFee (required abstractChecking : Bool)
    (recomFee balanceSs : Option ℕ) (balanceTt : ℕ) :
    Quiet (a.resolveFee required abstractChecking recomFee balanceSs
      balanceTt) := by
  have hfee : Quiet (decideFee a.fee recomFee) := by
    unfold decideFee
    split
    · exact quiet_unwrap
    · refine Tx.never_bind quiet_unwrap fun _ _ => ?_
      exact Tx.never_bind (quiet_ensure rfl) fun _ _ => Tx.never_ok _
  have hcovered : ∀ x y, Quiet (ensureAmountsCovered abstractChecking balanceSs
      balanceTt x y) := by
    intro x y
    unfold ensureAmountsCovered
    split_ifs
    · exact Tx.never_ok _
    · refine Tx.never_bind quiet_unwrap fun _ _ => ?_
      exact Tx.never_bind (quiet_ensure rfl) fun _ _ => quiet_ensure rfl
  unfold resolveFee
  split_ifs
  · apply Tx.never_bind quiet_unwrap
    intro x _
    apply Tx.never_bind quiet_unwrap
    intro y _
    refine Tx.never_bind hfee fun _ _ => ?_
    exact Tx.never_bind (hcovered x y) fun _ _ => Tx.never_ok _
  · exact Tx.never_ok _

theorem quiet_ensureValidAfterOp (balanceSt balanceTt : ℕ) :
    Quiet (a.ensureValidAfterOp balanceSt balanceTt) := by
  apply Tx.never_bind quiet_unwrap
  intro x _
  apply Tx.never_bind quiet_unwrap
  intro y _
  refine Tx.never_bind ?_ fun _ _ => quiet_ensure rfl
  exact Tx.never_bind (quiet_toBalance _) fun _ _ => Tx.never_ok _

/-- Validation of a swap in a pool with both balances. -/
theorem quiet_prepareAndValidate (hab : a.isAbstractChecking = false)
    (hsource : 0 < s.free a.source.asset a.poolRepr)
    (hdestination : 0 < s.free a.destination.asset a.poolRepr) :
    Quiet (a.prepareAndValidate s (some w)) := by
  unfold prepareAndValidate
  simp only [hab, Option.isNone_some, Bool.or_false, Bool.false_eq_true,
    if_false]
  apply Tx.never_bind (quiet_resolveAccounts _)
  intro act hact
  obtain ⟨-, rfl⟩ := resolveAccounts_eq_ok.mp hact
  refine Tx.never_bind (quiet_isPoolAccountValidFor _ _ _) fun _ _ => ?_
  refine Tx.never_bind ?_ fun balanceSs _ => ?_
  · refine Tx.never_bind quiet_unwrap fun _ _ => ?_
    exact Tx.never_bind (Assets.quiet_freeBalance _ _ _) fun _ _ =>
      Tx.never_ok _
  apply Tx.never_bind (Assets.quiet_freeBalance _ _ _)
  intro st hst
  obtain ⟨-, rfl⟩ := Assets.freeBalance_eq_ok.mp hst
  apply Tx.never_bind (Assets.quiet_freeBalance _ _ _)
  intro tt htt
  obtain ⟨-, rfl⟩ := Assets.freeBalance_eq_ok.mp htt
  refine Tx.never_bind ?_ fun _ _ => ?_
  · exact Tx.never_bind quiet_unwrap fun _ _ => quiet_ensure rfl
  refine Tx.never_bind ?_ fun _ _ => ?_
  · exact quiet_ensurePoolNotEmpty hsource hdestination
  refine Tx.never_bind (quiet_resolveAmounts _ _ _) fun _ _ => ?_
  refine Tx.never_bind quiet_resolveFeeAccount fun _ _ => ?_
  refine Tx.never_bind (quiet_resolveFee _ _ _ _ _) fun _ _ => ?_
  exact Tx.never_bind (quiet_ensureValidAfterOp _ _) fun _ _ => Tx.never_ok _

theorem quietTx_settle (source : T.AccountId)
    (feeAccount : TechAccountIdOf T) :
    QuietTx (a.settle source feeAccount) := by
  apply quietTx_bind (quietTx_liftM quiet_unwrap)
  intro side
  split_ifs
  · refine quietTx_bind (quietTx_liftM quiet_unwrap) fun _ => ?_
    refine quietTx_bind (Technical.quietTx_transferIn _ _ _ _) fun _ => ?_
    refine quietTx_bind (quietTx_liftM quiet_unwrap) fun _ => ?_
    refine quietTx_bind (Technical.quietTx_transferOut _ _ _ _) fun _ => ?_
    refine quietTx_bind (quietTx_liftM quiet_unwrap) fun _ => ?_
    refine quietTx_bind (quietTx_liftM quiet_unwrap) fun _ => ?_
    exact Technical.quietTx_transferOut _ _ _ _
  · refine quietTx_bind (quietTx_liftM quiet_unwrap) fun _ => ?_
    refine quietTx_bind (quietTx_liftM quiet_unwrap) fun _ => ?_
    refine quietTx_bind (Technical.quietTx_transferIn _ _ _ _) fun _ => ?_
    refine quietTx_bind (Technical.quietTx_transferIn _ _ _ _) fun _ => ?_
    refine quietTx_bind (quietTx_liftM quiet_unwrap) fun _ => ?_
    refine quietTx_bind (quietTx_liftM quiet_unwrap) fun _ => ?_
    exact Technical.quietTx_transferOut _ _ _ _

theorem quietTx_reserve (source : T.AccountId) :
    QuietTx (a.reserve source) := by
  apply quietTx_withTransaction
  refine quietTx_bind (quietTx_liftM (quiet_ensure rfl)) fun _ => ?_
  refine quietTx_bind (quietTx_liftM quiet_unwrap) fun _ => ?_
  refine quietTx_bind (quietTx_settle _ _) fun _ => ?_
  exact quietTx_refreshReserves _ _ _

end PairSwapAction

/-! ## Deposits -/

namespace DepositLiquidityAction

variable {s : Storage T} {a : DepositLiquidityAction T} {w : T.AccountId}

theorem quiet_decideAmounts (initX k balanceBp balanceTp : ℕ) :
    Tx.Never P (a.decideAmounts s initX k balanceBp balanceTp) := by
  unfold decideAmounts
  split
  · refine Tx.never_bind (quiet_ensure rfl) fun _ _ => ?_
    apply Tx.never_bind (quiet_toBalance _)
    intro x _
    apply Tx.never_bind (quiet_toBalance _)
    intro y _
    refine Tx.never_bind (quiet_decideAgainst _ x rfl) fun _ _ => ?_
    exact Tx.never_bind (quiet_decideAgainst _ y rfl) fun _ _ =>
      Tx.never_ok _
  · refine Tx.never_bind (quiet_ensure rfl) fun _ _ => ?_
    refine Tx.never_bind (Assets.quiet_totalIssuance _ _) fun _ _ => ?_
    exact Tx.never_bind (quiet_calcDepositLiquidity1 _ _ _ _ _ _ _)
      fun _ _ => Tx.never_ok _
  · exact quiet_fail rfl

theorem quiet_decideInitialDestination (destination : Bounds) (k : ℕ) :
    Tx.Never P (decideInitialDestination destination k) := by
  unfold decideInitialDestination
  split
  · exact Tx.never_bind (quiet_ensure rfl) fun _ _ => Tx.never_ok _
  · exact Tx.never_ok _

theorem quiet_resolveAmounts (emptyPool : Bool) (initX : ℕ) (k : Option ℕ)
    (balanceBp balanceTp : ℕ) :
    Quiet (a.resolveAmounts s false emptyPool initX k balanceBp
      balanceTp) := by
  apply Tx.never_bind quiet_unwrap
  intro k _
  split_ifs
  · exact Tx.never_bind (quiet_decideInitialDestination _ _) fun _ _ =>
      Tx.never_ok _
  · exact Tx.never_bind (quiet_decideAmounts _ _ _ _) fun _ _ =>
      Tx.never_ok _

theorem quiet_isPoolEmpty {balanceBp balanceTp : ℕ} (hBp : 0 < balanceBp)
    (hTp : 0 < balanceTp) :
    Quiet (isPoolEmpty balanceBp balanceTp) := by
  have hok : isPoolEmpty balanceBp balanceTp = .ok false :=
    isPoolEmpty_eq_ok.mpr (Or.inr ⟨⟨hBp, hTp⟩, rfl⟩)
  rw [hok]
  exact Tx.never_ok false

theorem quiet_initialAmounts (required : Bool) :
    Tx.Never P (a.initialAmounts required) := by
  unfold initialAmounts
  split_ifs
  · refine Tx.never_bind (quiet_okOr rfl) fun _ _ => ?_
    exact Tx.never_bind (quiet_okOr rfl) fun _ _ => Tx.never_ok _
  · exact Tx.never_ok _

theorem quiet_poolK (emptyPool : Bool) (init : ℕ × ℕ)
    (balanceBp balanceTp : ℕ) :
    Tx.Never P (poolK false emptyPool init balanceBp balanceTp) := by
  have hsome : ∀ x y, Tx.Never P (some <$> poolLiquidity x y) := by
    intro x y
    rw [map_eq_pure_bind]
    exact Tx.never_bind (quiet_toBalance _) fun _ _ => Tx.never_ok _
  unfold poolK
  simp only [Bool.false_eq_true, if_false]
  split_ifs
  · exact hsome init.1 init.2
  · exact hsome balanceBp balanceTp

theorem quiet_resolveMinLiquidity (m : Option ℕ) :
    Tx.Never P (resolveMinLiquidity m) := by
  unfold resolveMinLiquidity
  split
  · exact Tx.never_ok _
  · exact Tx.never_bind (quiet_ensure rfl) fun _ _ => Tx.never_ok _

theorem quiet_ensureAmountsCovered (m : ℕ) (k : Option ℕ)
    (balances : Option (ℕ × ℕ)) :
    Quiet (a.ensureAmountsCovered false m k balances) := by
  refine Tx.never_bind quiet_unwrap fun _ _ => ?_
  refine Tx.never_bind quiet_unwrap fun _ _ => ?_
  refine Tx.never_bind quiet_unwrap fun _ _ => ?_
  refine Tx.never_bind quiet_unwrap fun _ _ => ?_
  refine Tx.never_bind quiet_unwrap fun _ _ => ?_
  refine Tx.never_bind (quiet_ensure rfl) fun _ _ => ?_
  exact Tx.never_bind (quiet_ensure rfl) fun _ _ => quiet_ensure rfl

theorem quiet_lockMinLiquidity (emptyPool : Bool) (m : ℕ) :
    Quiet (a.lockMinLiquidity emptyPool m) := by
  unfold lockMinLiquidity
  split_ifs
  · exact Tx.never_bind quiet_unwrap fun _ _ => Tx.never_ok _
  · exact Tx.never_ok _

theorem quiet_sourceBalances (source : Option T.AccountId) :
    Quiet (a.sourceBalances s false source) := by
  refine Tx.never_bind quiet_unwrap fun _ _ => ?_
  refine Tx.never_bind (Assets.quiet_freeBalance _ _ _) fun _ _ => ?_
  refine Tx.never_bind (Assets.quiet_freeBalance _ _ _) fun _ _ => ?_
  exact Tx.never_bind (quiet_ensure rfl) fun _ _ => Tx.never_ok _

/-- Validation of a deposit into a pool with both balances. -/
theorem quiet_validate (markAsset : T.TechAssetId)
    (hfst : 0 < s.free a.source.fst.asset a.poolRepr)
    (hsnd : 0 < s.free a.source.snd.asset a.poolRepr) :
    Quiet (a.validate s false (some w) markAsset) := by
  refine Tx.never_bind (quiet_ensure rfl) fun _ _ => ?_
  apply Tx.never_bind (quiet_sourceBalances _)
  intro balances _
  apply Tx.never_bind (Assets.quiet_freeBalance _ _ _)
  intro bp hbp
  obtain ⟨-, rfl⟩ := Assets.freeBalance_eq_ok.mp hbp
  apply Tx.never_bind (Assets.quiet_freeBalance _ _ _)
  intro tp htp
  obtain ⟨-, rfl⟩ := Assets.freeBalance_eq_ok.mp htp
  refine Tx.never_bind ?_ fun emptyPool _ => ?_
  · exact quiet_isPoolEmpty hfst hsnd
  apply Tx.never_bind (quiet_initialAmounts _)
  intro init _
  apply Tx.never_bind (quiet_poolK _ _ _ _)
  intro k _
  apply Tx.never_bind (quiet_resolveAmounts _ _ _ _ _)
  intro act _
  apply Tx.never_bind (quiet_resolveMinLiquidity _)
  intro m _
  refine Tx.never_bind (quiet_ensureAmountsCovered _ _ _) fun _ _ => ?_
  exact quiet_lockMinLiquidity _ _

theorem neverFrom_prepareAndValidate (hab : a.isAbstractChecking = false)
    (hfst : 0 < s.free a.source.fst.asset a.poolRepr)
    (hsnd : 0 < s.free a.source.snd.asset a.poolRepr) :
    Tx.NeverFrom ReportsDrained (a.prepareAndValidate (some w)) s := by
  unfold prepareAndValidate
  simp only [hab, Option.isNone_some, Bool.or_false]
  refine Tx.neverFrom_bind (Tx.neverFrom_liftM ?_ s) fun act s₁ hact => ?_
  · refine Tx.never_bind quiet_unwrap fun _ _ => ?_
    exact Tx.never_bind (quiet_resolveClient _ _) fun _ _ => Tx.never_ok _
  rw [Tx.run_liftM_eq_ok, resolveAccounts_eq_ok] at hact
  obtain ⟨⟨-, rfl⟩, rfl⟩ := hact
  refine Tx.neverFrom_bind (Tx.neverFrom_reads ?_) fun _ s₂ hreg => ?_
  · exact quiet_isPoolAccountValidFor _ _ _
  obtain ⟨-, rfl⟩ := Tx.run_reads_eq_ok.mp hreg
  apply Tx.neverFrom_bind (quietTx_getMarkingAsset _ _)
  intro mark s₃ hmark
  obtain ⟨-, rfl⟩ := run_getMarkingAsset_ok.mp hmark
  exact Tx.neverFrom_reads (quiet_validate _ hfst hsnd)

theorem quietTx_reserve (source : T.AccountId) :
    QuietTx (a.reserve source) := by
  refine quietTx_bind (quietTx_liftM (quiet_ensure rfl)) fun _ => ?_
  refine quietTx_bind (quietTx_liftM quiet_unwrap) fun _ => ?_
  refine quietTx_bind (Technical.quietTx_transferIn _ _ _ _) fun _ => ?_
  refine quietTx_bind (quietTx_liftM quiet_unwrap) fun _ => ?_
  refine quietTx_bind (Technical.quietTx_transferIn _ _ _ _) fun _ => ?_
  refine quietTx_bind (quietTx_liftM quiet_unwrap) fun _ => ?_
  refine quietTx_bind (quietTx_liftM quiet_unwrap) fun _ => ?_
  refine quietTx_bind (Assets.quietTx_mintTo _ _ _ _) fun _ => ?_
  exact quietTx_refreshReserves _ _ _

end DepositLiquidityAction

/-! ## Withdrawals -/

namespace WithdrawLiquidityAction

variable {s : Storage T} {a : WithdrawLiquidityAction T} {w : T.AccountId}

theorem quiet_decideAmounts (balanceBp balanceTp totalIss : ℕ) :
    Tx.Never P (a.decideAmounts balanceBp balanceTp totalIss) := by
  unfold decideAmounts
  split
  · refine Tx.never_bind (quiet_ensure rfl) fun _ _ => ?_
    apply Tx.never_bind (quiet_toBalance _)
    intro x _
    apply Tx.never_bind (quiet_toBalance _)
    intro y _
    refine Tx.never_bind (quiet_decideAgainst _ x rfl) fun _ _ => ?_
    exact Tx.never_bind (quiet_decideAgainst _ y rfl) fun _ _ =>
      Tx.never_ok _
  · exact quiet_fail rfl

/-- Validation of a withdrawal from a pool with both balances. -/
theorem quiet_validate (markAsset : T.TechAssetId)
    (hfst : 0 < s.free a.destination.fst.asset a.poolRepr)
    (hsnd : 0 < s.free a.destination.snd.asset a.poolRepr) :
    Quiet (a.validate s w markAsset) := by
  refine Tx.never_bind (quiet_ensure rfl) fun _ _ => ?_
  refine Tx.never_bind (Assets.quiet_freeBalance _ _ _) fun _ _ => ?_
  refine Tx.never_bind (quiet_ensure rfl) fun _ _ => ?_
  apply Tx.never_bind (Assets.quiet_freeBalance _ _ _)
  intro bp hbp
  obtain ⟨-, rfl⟩ := Assets.freeBalance_eq_ok.mp hbp
  apply Tx.never_bind (Assets.quiet_freeBalance _ _ _)
  intro tp htp
  obtain ⟨-, rfl⟩ := Assets.freeBalance_eq_ok.mp htp
  refine Tx.never_bind (quiet_ensurePoolNotEmpty hfst hsnd) fun _ _ => ?_
  refine Tx.never_bind (Assets.quiet_totalIssuance _ _) fun _ _ => ?_
  refine Tx.never_bind (quiet_decideAmounts _ _ _) fun _ _ => ?_
  refine Tx.never_bind quiet_unwrap fun _ _ => ?_
  refine Tx.never_bind quiet_unwrap fun _ _ => ?_
  refine Tx.never_bind quiet_unwrap fun _ _ => ?_
  exact Tx.never_bind (quiet_ensure rfl) fun _ _ => Tx.never_ok _

theorem neverFrom_prepareAndValidate
    (hfst : 0 < s.free a.destination.fst.asset a.poolRepr)
    (hsnd : 0 < s.free a.destination.snd.asset a.poolRepr) :
    Tx.NeverFrom ReportsDrained (a.prepareAndValidate (some w)) s := by
  refine Tx.neverFrom_bind (Tx.neverFrom_liftM quiet_unwrap s)
    fun source s₀ hsource => ?_
  rw [Tx.run_liftM_eq_ok, unwrap_eq_ok, Option.some.injEq] at hsource
  obtain ⟨rfl, rfl⟩ := hsource
  refine Tx.neverFrom_bind (Tx.neverFrom_liftM ?_ _) fun act s₁ hact => ?_
  · exact Tx.never_bind (quiet_resolveClient _ _) fun _ _ => Tx.never_ok _
  rw [Tx.run_liftM_eq_ok, resolveAccounts_eq_ok] at hact
  obtain ⟨⟨-, rfl⟩, rfl⟩ := hact
  refine Tx.neverFrom_bind (Tx.neverFrom_reads ?_) fun _ s₂ hreg => ?_
  · exact quiet_isPoolAccountValidFor _ _ _
  obtain ⟨-, rfl⟩ := Tx.run_reads_eq_ok.mp hreg
  apply Tx.neverFrom_bind (quietTx_getMarkingAsset _ _)
  intro mark s₃ hmark
  obtain ⟨-, rfl⟩ := run_getMarkingAsset_ok.mp hmark
  exact Tx.neverFrom_reads (quiet_validate _ hfst hsnd)

theorem quietTx_reserve (source : T.AccountId) :
    QuietTx (a.reserve source) := by
  refine quietTx_bind (quietTx_liftM (quiet_ensure rfl)) fun _ => ?_
  refine quietTx_bind (quietTx_liftM quiet_unwrap) fun _ => ?_
  refine quietTx_bind (quietTx_liftM quiet_unwrap) fun _ => ?_
  refine quietTx_bind (Technical.quietTx_transferOut _ _ _ _) fun _ => ?_
  refine quietTx_bind (quietTx_liftM quiet_unwrap) fun _ => ?_
  refine quietTx_bind (quietTx_liftM quiet_unwrap) fun _ => ?_
  refine quietTx_bind (Technical.quietTx_transferOut _ _ _ _) fun _ => ?_
  refine quietTx_bind (quietTx_liftM quiet_unwrap) fun _ => ?_
  refine quietTx_bind (Assets.quietTx_burnFrom _ _ _ _) fun _ => ?_
  exact quietTx_refreshReserves _ _ _

end WithdrawLiquidityAction

/-! ## Calls -/

theorem quietTx_performCreateSwapUnchecked (source : T.AccountId)
    (action : PolySwapAction T) :
    QuietTx (Technical.performCreateSwapUnchecked source action) := by
  refine quietTx_withTransaction (quietTx_bind ?_ fun _ => Tx.neverFrom_pure ())
  cases action with
  | pairSwap a => exact a.quietTx_reserve source
  | depositLiquidity a => exact a.quietTx_reserve source
  | withdrawLiquidity a => exact a.quietTx_reserve source

theorem neverFrom_performCreateSwap {s : Storage T} {w : T.AccountId}
    {action : PolySwapAction T}
    (h : Tx.NeverFrom ReportsDrained (action.prepareAndValidate (some w)) s) :
    Tx.NeverFrom ReportsDrained (Technical.performCreateSwap w action) s := by
  refine Tx.neverFrom_bind (Tx.neverFrom_liftM (quiet_ensure rfl) s)
    fun _ s₁ hs => ?_
  obtain ⟨-, rfl⟩ := Tx.run_liftM_eq_ok.mp hs
  exact Tx.neverFrom_bind h fun act s₂ _ =>
    quietTx_performCreateSwapUnchecked w act s₂

section

variable {s : Storage T} {w receiver : T.AccountId} {dexId : T.DEXId}
variable {assetA assetB : T.AssetId} {techAcc : TechAccountIdOf T}

open Technical (techAccountIdToAccountId)

theorem quiet_techAccountFromDexAndAssetPair {P : Failure → Prop}
    [Alarming P] :
    Tx.Never P (techAccountFromDexAndAssetPair s dexId assetA assetB) := by
  apply Tx.never_bind (quiet_okOr rfl)
  intro dexinfo _
  refine Tx.never_bind (quiet_ensure rfl) fun _ _ => ?_
  refine Tx.never_bind (quiet_okOr rfl) fun _ _ => ?_
  refine Tx.never_bind ?_ fun _ _ => Tx.never_ok _
  unfold decodeTargetAsset
  split_ifs
  · exact quiet_okOr rfl
  · exact quiet_okOr rfl
  · exact quiet_fail rfl

/-- What looking the pool account up leads to. -/
theorem IsPoolOf.of_reads {s₁ : Storage T}
    {p : TradingPair T.TechAssetId × TechAccountIdOf T}
    (hpool : IsPoolOf s dexId assetA assetB techAcc)
    (h : (Tx.reads fun s : Storage T => techAccountFromDexAndAssetPair s dexId
      assetA assetB).run s = (.ok p, s₁)) :
    p.2 = techAcc ∧ s = s₁ := by
  obtain ⟨hp, hs⟩ := Tx.run_reads_eq_ok.mp h
  exact ⟨IsPoolOf.unique ⟨p.1, hp⟩ hpool, hs⟩

/-- An exchange in a pool with both balances. -/
theorem swapPair_not_drained (hpool : IsPoolOf s dexId assetA assetB techAcc)
    (hA : 0 < s.free assetA (techAccountIdToAccountId techAcc))
    (hB : 0 < s.free assetB (techAccountIdToAccountId techAcc))
    (swapAmount : SwapAmount) :
    Tx.NeverFrom ReportsDrained
      (swapPair w receiver dexId assetA assetB swapAmount) s := by
  refine Tx.neverFrom_bind ?_ fun _ s' _ => Tx.neverFrom_pure () s'
  refine Tx.neverFrom_bind (Tx.neverFrom_reads ?_) fun p s₁ hp => ?_
  · exact quiet_techAccountFromDexAndAssetPair
  obtain ⟨rfl, rfl⟩ := hpool.of_reads hp
  refine Tx.neverFrom_bind (Tx.neverFrom_reads ?_) fun act s₂ hact => ?_
  · exact PairSwapAction.quiet_prepareAndValidate
      (isAbstractChecking_exchangeAction _ _ _ _ _) hA hB
  refine Tx.neverFrom_bind (Tx.neverFrom_liftM ?_ _) fun outcome s₃ _ => ?_
  · refine Tx.never_bind quiet_unwrap fun _ _ => ?_
    apply Tx.never_bind quiet_unwrap
    intro side _
    cases swapAmount with
    | withDesiredInput desired minimum =>
        refine Tx.never_bind quiet_unwrap fun _ _ => ?_
        split_ifs
        · exact Tx.never_ok _
        · exact Tx.never_ok _
    | withDesiredOutput desired maximum =>
        exact Tx.never_bind quiet_unwrap fun _ _ => Tx.never_ok _
  exact quietTx_bind (quietTx_performCreateSwapUnchecked _ _)
    (fun _ => Tx.neverFrom_pure _) s₃

/-- A deposit into a pool with both balances. -/
theorem depositLiquidity_not_drained
    (hpool : IsPoolOf s dexId assetA assetB techAcc)
    (hA : 0 < s.free assetA (techAccountIdToAccountId techAcc))
    (hB : 0 < s.free assetB (techAccountIdToAccountId techAcc))
    (aDesired bDesired aMin bMin : ℕ) :
    Tx.NeverFrom ReportsDrained
      (depositLiquidity w dexId assetA assetB aDesired bDesired aMin bMin)
      s := by
  refine Tx.neverFrom_bind (Tx.neverFrom_reads ?_) fun p s₁ hp => ?_
  · exact quiet_techAccountFromDexAndAssetPair
  obtain ⟨rfl, rfl⟩ := hpool.of_reads hp
  refine Tx.neverFrom_bind (Tx.neverFrom_liftM (quiet_ensure rfl) _)
    fun _ s₂ hs => ?_
  obtain ⟨-, rfl⟩ := Tx.run_liftM_eq_ok.mp hs
  apply Tx.neverFrom_bind (quietTx_getMarkingAsset _ _)
  intro mark s₃ hmark
  obtain ⟨-, rfl⟩ := run_getMarkingAsset_ok.mp hmark
  apply neverFrom_performCreateSwap
  exact Tx.neverFrom_bind
    (DepositLiquidityAction.neverFrom_prepareAndValidate rfl hA hB)
    fun _ s' _ => Tx.neverFrom_pure _ s'

/-- A withdrawal from a pool with both balances. -/
theorem withdrawLiquidity_not_drained
    (hpool : IsPoolOf s dexId assetA assetB techAcc)
    (hA : 0 < s.free assetA (techAccountIdToAccountId techAcc))
    (hB : 0 < s.free assetB (techAccountIdToAccountId techAcc))
    (k aMin bMin : ℕ) :
    Tx.NeverFrom ReportsDrained
      (withdrawLiquidity w dexId assetA assetB k aMin bMin) s := by
  refine Tx.neverFrom_bind (Tx.neverFrom_reads ?_) fun p s₁ hp => ?_
  · exact quiet_techAccountFromDexAndAssetPair
  obtain ⟨rfl, rfl⟩ := hpool.of_reads hp
  apply Tx.neverFrom_bind (quietTx_getMarkingAsset _ _)
  intro mark s₃ hmark
  obtain ⟨-, rfl⟩ := run_getMarkingAsset_ok.mp hmark
  apply neverFrom_performCreateSwap
  exact Tx.neverFrom_bind
    (WithdrawLiquidityAction.neverFrom_prepareAndValidate hA hB)
    fun _ s' _ => Tx.neverFrom_pure _ s'

end

end PoolXyk
end SoraParachain

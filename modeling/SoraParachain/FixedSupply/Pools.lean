import SoraParachain.FixedSupply.Operations
import SoraParachain.Runtime

/-!
# The pools keep a fixed supply

The pools and the technical pallet reach the currency only through the assets.
What the bonding curve pool asks of the DEX API is that its exchange does so as
well.
-/

namespace SoraParachain

variable {T : Config} {a : T.AssetId}

namespace Technical

theorem keepsSupply_transferIn (hM : T.currency.Lawful balanceModulus)
    (asset : T.AssetId) (source : T.AccountId)
    (techDest : TechAccountIdOf T) (amount : ℕ) :
    Tx.Keeps (KeepsSupply a) (transferIn asset source techDest amount) :=
  Tx.keeps_bind (Tx.keeps_reads _) fun _ =>
    Assets.keepsSupply_transferFrom hM _ _ _ _

theorem keepsSupply_transferOut (hM : T.currency.Lawful balanceModulus)
    (asset : T.AssetId) (techSource : TechAccountIdOf T)
    (dest : T.AccountId) (amount : ℕ) :
    Tx.Keeps (KeepsSupply a) (transferOut asset techSource dest amount) :=
  Tx.keeps_bind (Tx.keeps_reads _) fun _ =>
    Assets.keepsSupply_transferFrom hM _ _ _ _

theorem keepsSupply_transfer (hM : T.currency.Lawful balanceModulus)
    (asset : T.AssetId) (techSource techDest : TechAccountIdOf T)
    (amount : ℕ) :
    Tx.Keeps (KeepsSupply a) (transfer asset techSource techDest amount) := by
  refine Tx.keeps_bind (Tx.keeps_reads _) fun _ => ?_
  refine Tx.keeps_bind (Tx.keeps_reads _) fun _ => ?_
  exact Assets.keepsSupply_transferFrom hM _ _ _ _

theorem keepsSupply_mint (hM : T.currency.Lawful balanceModulus)
    (asset : T.AssetId) (techDest : TechAccountIdOf T) (amount : ℕ) :
    Tx.Keeps (KeepsSupply a) (mint asset techDest amount) :=
  Tx.keeps_bind (Tx.keeps_reads _) fun _ =>
    Assets.keepsSupply_mintTo hM _ _ _ _

theorem keepsSupply_burn (hM : T.currency.Lawful balanceModulus)
    (asset : T.AssetId) (techDest : TechAccountIdOf T) (amount : ℕ) :
    Tx.Keeps (KeepsSupply a) (burn asset techDest amount) :=
  Tx.keeps_bind (Tx.keeps_reads _) fun _ =>
    Assets.keepsSupply_burnFrom hM _ _ _ _

theorem keepsSupply_registerTechAccountId (techAcc : TechAccountIdOf T) :
    Tx.Keeps (KeepsSupply a) (registerTechAccountId techAcc) :=
  keepsSupply_modify fun _ => ⟨rfl, rfl, rfl⟩

end Technical

namespace TradingPair

theorem keepsSupply_register (who : T.AccountId) (dexId : T.DEXId)
    (baseAssetId targetAssetId : T.AssetId) :
    Tx.Keeps (KeepsSupply a)
      (register who dexId baseAssetId targetAssetId) := by
  refine Tx.keeps_bind (Tx.keeps_reads _) fun _ => ?_
  refine Tx.keeps_bind (Tx.keeps_reads _) fun _ => ?_
  refine Tx.keeps_bind (Tx.keeps_reads _) fun _ => ?_
  refine Tx.keeps_bind (Tx.keeps_liftM _) fun _ => ?_
  refine Tx.keeps_bind (Tx.keeps_liftM _) fun _ => ?_
  refine Tx.keeps_bind (Tx.keeps_reads _) fun _ => ?_
  exact keepsSupply_modify fun _ => ⟨rfl, rfl, rfl⟩

theorem keepsSupply_enableSourceForTradingPair (dexId : T.DEXId)
    (baseAssetId targetAssetId : T.AssetId)
    (sourceType : LiquiditySourceType) :
    Tx.Keeps (KeepsSupply a)
      (enableSourceForTradingPair dexId baseAssetId targetAssetId
        sourceType) := by
  refine Tx.keeps_bind (Tx.keeps_reads _) fun _ => ?_
  refine Tx.keeps_bind (Tx.keeps_reads _) fun _ => ?_
  exact keepsSupply_modify fun _ => ⟨rfl, rfl, rfl⟩

end TradingPair

/-! ## The constant-product pool -/

namespace PoolXyk

theorem keepsSupply_of_sameButRecords {α : Type} {x : Exec T α}
    (h : Tx.Keeps SameButRecords x) : Tx.Keeps (KeepsSupply a) x := by
  refine h.mono fun s s' hsame => SameAsset.keepsSupply ?_
  rw [hsame]
  exact ⟨rfl, rfl, rfl⟩

theorem keepsSupply_refreshReserves (poolAccount : TechAccountIdOf T)
    (assetA assetB : T.AssetId) :
    Tx.Keeps (KeepsSupply a) (refreshReserves poolAccount assetA assetB) := by
  refine Tx.keeps_bind (Tx.keeps_reads _) fun _ => ?_
  refine Tx.keeps_bind (Tx.keeps_reads _) fun _ => ?_
  exact keepsSupply_modify fun _ => ⟨rfl, rfl, rfl⟩

theorem PairSwapAction.keepsSupply_settle
    (hM : T.currency.Lawful balanceModulus) (action : PairSwapAction T)
    (source : T.AccountId) (feeAccount : TechAccountIdOf T) :
    Tx.Keeps (KeepsSupply a) (action.settle source feeAccount) := by
  refine Tx.keeps_bind (Tx.keeps_liftM _) fun feeFromDestination => ?_
  cases feeFromDestination with
  | true =>
      refine Tx.keeps_bind (Tx.keeps_liftM _) fun _ => ?_
      refine Tx.keeps_bind (Technical.keepsSupply_transferIn hM _ _ _ _)
        fun _ => ?_
      refine Tx.keeps_bind (Tx.keeps_liftM _) fun _ => ?_
      refine Tx.keeps_bind (Technical.keepsSupply_transferOut hM _ _ _ _)
        fun _ => ?_
      refine Tx.keeps_bind (Tx.keeps_liftM _) fun _ => ?_
      refine Tx.keeps_bind (Tx.keeps_liftM _) fun _ => ?_
      exact Technical.keepsSupply_transferOut hM _ _ _ _
  | false =>
      refine Tx.keeps_bind (Tx.keeps_liftM _) fun _ => ?_
      refine Tx.keeps_bind (Tx.keeps_liftM _) fun _ => ?_
      refine Tx.keeps_bind (Technical.keepsSupply_transferIn hM _ _ _ _)
        fun _ => ?_
      refine Tx.keeps_bind (Technical.keepsSupply_transferIn hM _ _ _ _)
        fun _ => ?_
      refine Tx.keeps_bind (Tx.keeps_liftM _) fun _ => ?_
      refine Tx.keeps_bind (Tx.keeps_liftM _) fun _ => ?_
      exact Technical.keepsSupply_transferOut hM _ _ _ _

/-- Settling an action moves assets and mints or burns marker tokens. -/
theorem keepsSupply_reserve (hM : T.currency.Lawful balanceModulus)
    (action : PolySwapAction T) (source : T.AccountId) :
    Tx.Keeps (KeepsSupply a) (action.reserve source) := by
  cases action with
  | pairSwap action =>
      apply Tx.keeps_withTransaction
      refine Tx.keeps_bind (Tx.keeps_liftM _) fun _ => ?_
      refine Tx.keeps_bind (Tx.keeps_liftM _) fun _ => ?_
      refine Tx.keeps_bind (action.keepsSupply_settle hM _ _) fun _ => ?_
      exact keepsSupply_refreshReserves _ _ _
  | depositLiquidity action =>
      refine Tx.keeps_bind (Tx.keeps_liftM _) fun _ => ?_
      refine Tx.keeps_bind (Tx.keeps_liftM _) fun _ => ?_
      refine Tx.keeps_bind (Technical.keepsSupply_transferIn hM _ _ _ _)
        fun _ => ?_
      refine Tx.keeps_bind (Tx.keeps_liftM _) fun _ => ?_
      refine Tx.keeps_bind (Technical.keepsSupply_transferIn hM _ _ _ _)
        fun _ => ?_
      refine Tx.keeps_bind (Tx.keeps_liftM _) fun _ => ?_
      refine Tx.keeps_bind (Tx.keeps_liftM _) fun _ => ?_
      refine Tx.keeps_bind (Assets.keepsSupply_mintTo hM _ _ _ _) fun _ => ?_
      exact keepsSupply_refreshReserves _ _ _
  | withdrawLiquidity action =>
      refine Tx.keeps_bind (Tx.keeps_liftM _) fun _ => ?_
      refine Tx.keeps_bind (Tx.keeps_liftM _) fun _ => ?_
      refine Tx.keeps_bind (Tx.keeps_liftM _) fun _ => ?_
      refine Tx.keeps_bind (Technical.keepsSupply_transferOut hM _ _ _ _)
        fun _ => ?_
      refine Tx.keeps_bind (Tx.keeps_liftM _) fun _ => ?_
      refine Tx.keeps_bind (Tx.keeps_liftM _) fun _ => ?_
      refine Tx.keeps_bind (Technical.keepsSupply_transferOut hM _ _ _ _)
        fun _ => ?_
      refine Tx.keeps_bind (Tx.keeps_liftM _) fun _ => ?_
      refine Tx.keeps_bind (Assets.keepsSupply_burnFrom hM _ _ _ _) fun _ => ?_
      exact keepsSupply_refreshReserves _ _ _

theorem keepsSupply_performCreateSwapUnchecked
    (hM : T.currency.Lawful balanceModulus) (source : T.AccountId)
    (action : PolySwapAction T) :
    Tx.Keeps (KeepsSupply a)
      (Technical.performCreateSwapUnchecked source action) := by
  intro s
  -- every action is claimed as soon as it is settled
  change KeepsSupply a s ((Tx.withTransaction
    (action.reserve source >>= fun _ => pure ())).run s).2
  refine Tx.keeps_withTransaction ?_ s
  exact Tx.keeps_bind (keepsSupply_reserve hM _ _) fun _ => Tx.keeps_pure _

theorem keepsSupply_performCreateSwap (hM : T.currency.Lawful balanceModulus)
    (source : T.AccountId) (action : PolySwapAction T) :
    Tx.Keeps (KeepsSupply a) (Technical.performCreateSwap source action) := by
  refine Tx.keeps_bind (Tx.keeps_liftM _) fun _ => ?_
  refine Tx.keeps_bind
    (keepsSupply_of_sameButRecords (keeps_prepareAndValidate _ _))
    fun _ => ?_
  exact keepsSupply_performCreateSwapUnchecked hM _ _

theorem keepsSupply_depositLiquidity (hM : T.currency.Lawful balanceModulus)
    (who : T.AccountId) (dexId : T.DEXId) (assetA assetB : T.AssetId)
    (aDesired bDesired aMin bMin : ℕ) :
    Tx.Keeps (KeepsSupply a)
      (depositLiquidity who dexId assetA assetB aDesired bDesired aMin
        bMin) := by
  refine Tx.keeps_bind (Tx.keeps_reads _) fun _ => ?_
  refine Tx.keeps_bind (Tx.keeps_liftM _) fun _ => ?_
  refine Tx.keeps_bind
    (keepsSupply_of_sameButRecords (keeps_getMarkingAsset _)) fun _ => ?_
  exact keepsSupply_performCreateSwap hM _ _

theorem keepsSupply_withdrawLiquidity (hM : T.currency.Lawful balanceModulus)
    (who : T.AccountId) (dexId : T.DEXId) (assetA assetB : T.AssetId)
    (k aMin bMin : ℕ) :
    Tx.Keeps (KeepsSupply a)
      (withdrawLiquidity who dexId assetA assetB k aMin bMin) := by
  refine Tx.keeps_bind (Tx.keeps_reads _) fun _ => ?_
  refine Tx.keeps_bind
    (keepsSupply_of_sameButRecords (keeps_getMarkingAsset _)) fun _ => ?_
  exact keepsSupply_performCreateSwap hM _ _

theorem keepsSupply_exchange (hM : T.currency.Lawful balanceModulus)
    (sender receiver : T.AccountId) (dexId : T.DEXId)
    (inputAssetId outputAssetId : T.AssetId) (swapAmount : SwapAmount) :
    Tx.Keeps (KeepsSupply a)
      (exchange sender receiver dexId inputAssetId outputAssetId
        swapAmount) := by
  refine Tx.keeps_bind (Tx.keeps_reads _) fun _ => ?_
  refine Tx.keeps_bind (Tx.keeps_reads _) fun _ => ?_
  refine Tx.keeps_bind (Tx.keeps_liftM _) fun _ => ?_
  refine Tx.keeps_bind ?_ fun _ => Tx.keeps_pure _
  exact keepsSupply_performCreateSwapUnchecked hM _ _

theorem keepsSupply_initializePoolUnchecked (dexId : T.DEXId)
    (assetA assetB : T.AssetId) :
    Tx.Keeps (KeepsSupply a) (initializePoolUnchecked dexId assetA assetB) := by
  refine Tx.keeps_bind (Tx.keeps_reads _) fun _ => ?_
  refine Tx.keeps_bind (Tx.keeps_liftM _) fun _ => ?_
  refine Tx.keeps_bind
    (keepsSupply_of_sameButRecords (keeps_getMarkingAsset _)) fun _ => ?_
  refine Tx.keeps_bind (Tx.keeps_reads _) fun _ => ?_
  refine Tx.keeps_bind (Technical.keepsSupply_registerTechAccountId _)
    fun _ => ?_
  refine Tx.keeps_bind (Technical.keepsSupply_registerTechAccountId _)
    fun _ => ?_
  exact Tx.keeps_pure _

/-- Opening a pool registers a marker asset, which may not exist before. -/
theorem keepsSupply_initializePool (hM : T.currency.Lawful balanceModulus)
    (who : T.AccountId) (dexId : T.DEXId) (assetA assetB : T.AssetId) :
    Tx.Keeps (KeepsSupply a) (initializePool who dexId assetA assetB) := by
  apply Tx.keeps_withTransaction
  refine Tx.keeps_bind (Tx.keeps_reads _) fun _ => ?_
  refine Tx.keeps_bind (keepsSupply_initializePoolUnchecked _ _ _)
    fun found => ?_
  refine Tx.keeps_bind (Assets.keepsSupply_registerAssetId hM _ _ _ _ _ _ _)
    fun _ => ?_
  have hgrant : ∀ accountId p scope, Tx.Keeps (KeepsSupply a)
      (Permissions.grantPermissionWithScope who accountId p scope) :=
    fun _ _ _ => Assets.keepsSupply_of_grows
      (Permissions.keeps_grantPermissionWithScope _ _ _ _)
  refine Tx.keeps_bind (hgrant _ _ _) fun _ => ?_
  refine Tx.keeps_bind (hgrant _ _ _) fun _ => ?_
  refine Tx.keeps_bind ?_ fun _ => ?_
  · refine Tx.keeps_bind
      (TradingPair.keepsSupply_enableSourceForTradingPair _ _ _ _) fun _ => ?_
    exact keepsSupply_modify fun _ => ⟨rfl, rfl, rfl⟩
  · exact keepsSupply_modify fun _ => ⟨rfl, rfl, rfl⟩

end PoolXyk

/-- A signed call keeps a fixed supply. -/
theorem keepsSupply_dispatch (hM : T.currency.Lawful balanceModulus)
    (who : T.AccountId) (call : Call T) :
    Tx.Keeps (KeepsSupply a) (dispatch who call) := by
  cases call with
  | assetsRegister symbol name initialSupply isMintable =>
      exact Tx.keeps_bind (Assets.keepsSupply_registerFrom hM _ _ _ _ _ _)
        fun _ => Tx.keeps_pure _
  | assetsTransfer assetId dest amount =>
      exact Assets.keepsSupply_transferFrom hM _ _ _ _
  | assetsMint assetId dest amount => exact Assets.keepsSupply_mintTo hM _ _ _ _
  | assetsBurn assetId amount => exact Assets.keepsSupply_burnFrom hM _ _ _ _
  | assetsSetNonMintable assetId =>
      exact Assets.keepsSupply_setNonMintableFrom _ _
  | tradingPairRegister dexId baseAssetId targetAssetId =>
      exact TradingPair.keepsSupply_register _ _ _ _
  | initializePool dexId assetA assetB =>
      exact PoolXyk.keepsSupply_initializePool hM _ _ _ _
  | depositLiquidity dexId inputAssetA inputAssetB inputADesired inputBDesired
      inputAMin inputBMin =>
      exact PoolXyk.keepsSupply_depositLiquidity hM _ _ _ _ _ _ _ _
  | withdrawLiquidity dexId outputAssetA outputAssetB markerAssetDesired
      outputAMin outputBMin =>
      exact PoolXyk.keepsSupply_withdrawLiquidity hM _ _ _ _ _ _ _
  | swapPair receiver dexId inputAssetId outputAssetId swapAmount =>
      exact Tx.keeps_bind (PoolXyk.keepsSupply_exchange hM _ _ _ _ _ _)
        fun _ => Tx.keeps_pure _
  | createSwap action => exact PoolXyk.keepsSupply_performCreateSwap hM _ _

/-! ## The bonding curve pool -/

/-- One checked access to an asset. -/
inductive AssetMove (T : Config) where
  | transfer (assetId : T.AssetId) (source dest : T.AccountId) (amount : ℕ)
  | mint (assetId : T.AssetId) (issuer dest : T.AccountId) (amount : ℕ)
  | burn (assetId : T.AssetId) (issuer dest : T.AccountId) (amount : ℕ)

def AssetMove.perform : AssetMove T → Exec T Unit
  | .transfer assetId source dest amount =>
      Assets.transferFrom assetId source dest amount
  | .mint assetId issuer dest amount => Assets.mintTo assetId issuer dest amount
  | .burn assetId issuer dest amount =>
      Assets.burnFrom assetId issuer dest amount

/-- Whatever a computation does to the assets, a sequence of transfers, mints
and burns of the assets pallet does as well. -/
def ThroughAssets {α : Type} (x : Exec T α) : Prop :=
  ∀ s, ∃ moves : List (AssetMove T), ∀ a : T.AssetId,
    SameAsset a ((moves.forM AssetMove.perform).run s).2 (x.run s).2

theorem AssetMove.keepsSupply (hM : T.currency.Lawful balanceModulus)
    (move : AssetMove T) : Tx.Keeps (KeepsSupply a) move.perform := by
  cases move with
  | transfer assetId source dest amount =>
      exact Assets.keepsSupply_transferFrom hM _ _ _ _
  | mint assetId issuer dest amount => exact Assets.keepsSupply_mintTo hM _ _ _ _
  | burn assetId issuer dest amount =>
      exact Assets.keepsSupply_burnFrom hM _ _ _ _

theorem ThroughAssets.keepsSupply (hM : T.currency.Lawful balanceModulus)
    {α : Type} {x : Exec T α} (hx : ThroughAssets x) :
    Tx.Keeps (KeepsSupply a) x := by
  intro s
  obtain ⟨moves, hsame⟩ := hx s
  have hmoves : KeepsSupply a s
      ((moves.forM AssetMove.perform).run s).2 :=
    Tx.keeps_forM (fun move _ => move.keepsSupply hM) s
  exact trans_of (KeepsSupply a) hmoves (hsame a).keepsSupply

namespace PoolXyk

/-- The payments of a swap are transfers. -/
theorem PairSwapAction.moves_of_settle {action : PairSwapAction T}
    {source : T.AccountId} {feeAccount : TechAccountIdOf T}
    {s s' : Storage T} {u : Unit}
    (h : (action.settle source feeAccount).run s = (.ok u, s')) :
    ∃ moves : List (AssetMove T),
      (moves.forM AssetMove.perform).run s = (.ok (), s') := by
  -- three transfers in a row
  have hthree : ∀ (m₁ m₂ m₃ : AssetMove T) (s₁ s₂ : Storage T),
      m₁.perform.run s = (.ok (), s₁) → m₂.perform.run s₁ = (.ok (), s₂) →
        m₃.perform.run s₂ = (.ok (), s') →
          ([m₁, m₂, m₃].forM AssetMove.perform).run s = (.ok (), s') := by
    intro m₁ m₂ m₃ s₁ s₂ h₁ h₂ h₃
    exact Tx.run_forM_cons_eq_ok.mpr ⟨s₁, h₁,
      Tx.run_forM_cons_eq_ok.mpr ⟨s₂, h₂,
        Tx.run_forM_cons_eq_ok.mpr ⟨s', h₃, rfl⟩⟩⟩
  obtain ⟨side, -, h⟩ := Tx.run_liftM_bind_eq_ok.mp h
  cases side with
  | true =>
      obtain ⟨_, -, h⟩ := Tx.run_liftM_bind_eq_ok.mp h
      obtain ⟨_, s₁, h₁, h⟩ := Tx.run_bind_eq_ok.mp h
      obtain ⟨_, -, h⟩ := Tx.run_liftM_bind_eq_ok.mp h
      obtain ⟨_, s₂, h₂, h⟩ := Tx.run_bind_eq_ok.mp h
      obtain ⟨_, -, h⟩ := Tx.run_liftM_bind_eq_ok.mp h
      obtain ⟨_, -, h₃⟩ := Tx.run_liftM_bind_eq_ok.mp h
      have ht₁ := (Technical.run_transferIn_ok.mp h₁).2
      have ht₂ := (Technical.run_transferOut_ok.mp h₂).2
      have ht₃ := (Technical.run_transferOut_ok.mp h₃).2
      exact ⟨_, hthree (.transfer _ _ _ _) (.transfer _ _ _ _)
        (.transfer _ _ _ _) s₁ s₂ ht₁ ht₂ ht₃⟩
  | false =>
      obtain ⟨_, -, h⟩ := Tx.run_liftM_bind_eq_ok.mp h
      obtain ⟨_, -, h⟩ := Tx.run_liftM_bind_eq_ok.mp h
      obtain ⟨_, s₁, h₁, h⟩ := Tx.run_bind_eq_ok.mp h
      obtain ⟨_, s₂, h₂, h⟩ := Tx.run_bind_eq_ok.mp h
      obtain ⟨_, -, h⟩ := Tx.run_liftM_bind_eq_ok.mp h
      obtain ⟨_, -, h₃⟩ := Tx.run_liftM_bind_eq_ok.mp h
      have ht₁ := (Technical.run_transferIn_ok.mp h₁).2
      have ht₂ := (Technical.run_transferIn_ok.mp h₂).2
      have ht₃ := (Technical.run_transferOut_ok.mp h₃).2
      exact ⟨_, hthree (.transfer _ _ _ _) (.transfer _ _ _ _)
        (.transfer _ _ _ _) s₁ s₂ ht₁ ht₂ ht₃⟩

/-- An exchange of the constant-product pool is such a computation, so the pool
can serve as the DEX API of the other one. -/
theorem throughAssets_exchange (sender receiver : T.AccountId)
    (dexId : T.DEXId) (inputAssetId outputAssetId : T.AssetId)
    (swapAmount : SwapAmount) :
    ThroughAssets (exchange sender receiver dexId inputAssetId outputAssetId
      swapAmount) := by
  intro s
  rcases h : (exchange sender receiver dexId inputAssetId outputAssetId
    swapAmount).run s with ⟨e | outcome, s'⟩
  · have hsame : SameButRecords s s' := failsWithin_exchange _ _ _ _ _ _ s e s' h
    refine ⟨[], fun a => ?_⟩
    change SameAsset a s s'
    rw [hsame]
    exact ⟨rfl, rfl, rfl⟩
  · obtain ⟨_, -, h⟩ := Tx.run_reads_bind_eq_ok.mp h
    obtain ⟨action, -, h⟩ := Tx.run_reads_bind_eq_ok.mp h
    obtain ⟨_, -, h⟩ := Tx.run_liftM_bind_eq_ok.mp h
    obtain ⟨_, s₁, hswap, h⟩ := Tx.run_bind_eq_ok.mp h
    cases h
    have hreserve := run_performCreateSwapUnchecked_ok.mp hswap
    have hinner := Tx.run_withTransaction_eq_ok.mp hreserve
    obtain ⟨_, -, hinner⟩ := Tx.run_liftM_bind_eq_ok.mp hinner
    obtain ⟨_, -, hinner⟩ := Tx.run_liftM_bind_eq_ok.mp hinner
    obtain ⟨_, s₂, hsettle, hrefresh⟩ := Tx.run_bind_eq_ok.mp hinner
    obtain ⟨moves, hmoves⟩ := PairSwapAction.moves_of_settle hsettle
    refine ⟨moves, fun a => ?_⟩
    rw [hmoves]
    obtain ⟨_, -, hrefresh⟩ := Tx.run_reads_bind_eq_ok.mp hrefresh
    obtain ⟨_, -, hrefresh⟩ := Tx.run_reads_bind_eq_ok.mp hrefresh
    cases hrefresh
    exact ⟨rfl, rfl, rfl⟩

end PoolXyk

namespace BondingCurvePool

/-- Every exchange of the DEX API goes through the assets. -/
def Environment.TradesAssets (E : Environment T) : Prop :=
  ∀ sender receiver dexId inputAssetId outputAssetId swapAmount,
    ThroughAssets (E.dexApiExchange sender receiver dexId inputAssetId
      outputAssetId swapAmount)

variable {P : Pool T}

namespace BuyMainAsset

theorem keepsSupply_depositInput (hM : T.currency.Lawful balanceModulus)
    (self : BuyMainAsset T) :
    Tx.Keeps (KeepsSupply a) (depositInput P self) := by
  apply Tx.keeps_withTransaction
  refine Tx.keeps_bind (Tx.keeps_reads _) fun amounts => ?_
  obtain ⟨input, output⟩ := amounts
  refine Tx.keeps_bind (Tx.keeps_reads _) fun _ => ?_
  refine Tx.keeps_bind (Tx.keeps_reads _) fun _ => ?_
  refine Tx.keeps_bind (Technical.keepsSupply_transferIn hM _ _ _ _)
    fun _ => ?_
  refine Tx.keeps_bind (Tx.keeps_reads _) fun _ => ?_
  exact Tx.keeps_bind (Tx.keeps_liftM _) fun _ => Tx.keeps_pure _

theorem keepsSupply_payShare (hM : T.currency.Lawful balanceModulus)
    (self : BuyMainAsset T) (swappedXorAmount : ℕ)
    (data : DistributionAccountData T) :
    Tx.Keeps (KeepsSupply a) (payShare P self swappedXorAmount data) := by
  refine Tx.keeps_bind (Tx.keeps_liftM _) fun _ => ?_
  cases data.account with
  | account account => exact Assets.keepsSupply_transferFrom hM _ _ _ _
  | techAccount account => exact Technical.keepsSupply_transfer hM _ _ _ _

theorem keepsSupply_distributeReserves
    (hM : T.currency.Lawful balanceModulus)
    (hdex : P.toEnvironment.TradesAssets) (self : BuyMainAsset T) (free : ℕ) :
    Tx.Keeps (KeepsSupply a) (distributeReserves P self free) := by
  apply Tx.keeps_withTransaction
  split_ifs
  · exact Tx.keeps_pure _
  · refine Tx.keeps_bind ((hdex _ _ _ _ _ _).keepsSupply hM) fun _ => ?_
    refine Tx.keeps_bind (Technical.keepsSupply_burn hM _ _ _) fun _ => ?_
    refine Tx.keeps_bind (Technical.keepsSupply_mint hM _ _ _) fun _ => ?_
    refine Tx.keeps_bind
      (Tx.keeps_forM fun data _ => keepsSupply_payShare hM self _ data)
      fun _ => ?_
    refine Tx.keeps_bind (Tx.keeps_liftM _) fun _ => ?_
    refine Tx.keeps_bind ((hdex _ _ _ _ _ _).keepsSupply hM) fun _ => ?_
    exact Technical.keepsSupply_burn hM _ _ _

theorem keepsSupply_mintOutput (hM : T.currency.Lawful balanceModulus)
    (self : BuyMainAsset T) (outputAmount : ℕ) :
    Tx.Keeps (KeepsSupply a) (mintOutput P self outputAmount) := by
  refine Tx.keeps_bind (Tx.keeps_liftM _) fun feeAmount => ?_
  generalize wrappingSub outputAmount feeAmount = net
  exact Tx.keeps_bind (Assets.keepsSupply_mintTo hM _ _ _ _) fun _ =>
    Tx.keeps_pure _

theorem keepsSupply_swap (hM : T.currency.Lawful balanceModulus)
    (hdex : P.toEnvironment.TradesAssets) (self : BuyMainAsset T) :
    Tx.Keeps (KeepsSupply a) (swap P self) := by
  apply Tx.keeps_withTransaction
  apply Tx.keeps_bind (keepsSupply_depositInput hM self)
  intro amounts
  obtain ⟨free, input, output⟩ := amounts
  refine Tx.keeps_bind (keepsSupply_distributeReserves hM hdex self _)
    fun _ => ?_
  exact keepsSupply_mintOutput hM self output

end BuyMainAsset

namespace Pool

theorem keepsSupply_sellMainAsset (hM : T.currency.Lawful balanceModulus)
    (inAssetId outAssetId : T.AssetId) (amount : SwapAmount)
    (fromAccountId toAccountId : T.AccountId) :
    Tx.Keeps (KeepsSupply a)
      (P.sellMainAsset inAssetId outAssetId amount fromAccountId
        toAccountId) := by
  apply Tx.keeps_withTransaction
  refine Tx.keeps_bind (Tx.keeps_reads _) fun amounts => ?_
  obtain ⟨input, output⟩ := amounts
  refine Tx.keeps_bind (Tx.keeps_liftM _) fun feeAmount => ?_
  refine Tx.keeps_bind (Tx.keeps_reads _) fun _ => ?_
  generalize wrappingSub output feeAmount = net
  refine Tx.keeps_bind (Tx.keeps_liftM _) fun _ => ?_
  refine Tx.keeps_bind (Technical.keepsSupply_transferOut hM _ _ _ _)
    fun _ => ?_
  exact Tx.keeps_bind (Assets.keepsSupply_burnFrom hM _ _ _ _) fun _ =>
    Tx.keeps_pure _

theorem keepsSupply_exchange (hM : T.currency.Lawful balanceModulus)
    (hdex : P.toEnvironment.TradesAssets) (sender receiver : T.AccountId)
    (dexId : T.DEXId) (inputAssetId outputAssetId : T.AssetId)
    (desiredAmount : SwapAmount) :
    Tx.Keeps (KeepsSupply a)
      (P.exchange sender receiver dexId inputAssetId outputAssetId
        desiredAmount) := by
  refine Tx.keeps_bind (Tx.keeps_liftM _) fun _ => ?_
  refine Tx.keeps_bind (Tx.keeps_liftM _) fun _ => ?_
  by_cases hbase : inputAssetId = T.getBaseAssetId
  · rw [if_pos hbase]
    exact keepsSupply_sellMainAsset hM _ _ _ _ _
  · rw [if_neg hbase]
    exact BuyMainAsset.keepsSupply_swap hM hdex _

theorem keepsSupply_setReservesAccountId (account : TechAccountIdOf T) :
    Tx.Keeps (KeepsSupply a) (P.setReservesAccountId account) := by
  apply Tx.keeps_withTransaction
  refine Tx.keeps_bind (Tx.keeps_forM fun _ _ => ?_) fun _ => Tx.keeps_pure _
  exact Assets.keepsSupply_of_grows (Permissions.keeps_assignPermission _ _ _ _)

end Pool
end BondingCurvePool
end SoraParachain

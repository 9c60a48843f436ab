import SoraParachain.BondingCurvePool.Mock
import SoraParachain.FixedSupply.Pools
import SoraParachain.Library.Runs

/-!
# A fixed supply is final

A run mixes signed calls with everything that the assets, the technical swaps and
the two pools offer to other pallets, in any order and with any arguments.  An
operation that fails keeps what it wrote before it failed; one that panics changes
nothing.
-/

namespace SoraParachain

variable {T : Config}

open BondingCurvePool

/-- What can be asked of the assets and of the pools. -/
inductive AssetOperation (T : Config) where
  | signed (who : T.AccountId) (call : Call T)
  | registerAssetId (accountId : T.AccountId) (assetId : T.AssetId)
      (symbol name : List UInt8) (precision initialSupply : ℕ)
      (isMintable : Bool)
  | registerFrom (accountId : T.AccountId) (symbol name : List UInt8)
      (precision initialSupply : ℕ) (isMintable : Bool)
  | transferFrom (assetId : T.AssetId) (source dest : T.AccountId)
      (amount : ℕ)
  | forceTransfer (assetId : T.AssetId) (source dest : T.AccountId)
      (amount : ℕ)
  | mintTo (assetId : T.AssetId) (issuer dest : T.AccountId) (amount : ℕ)
  | burnFrom (assetId : T.AssetId) (issuer dest : T.AccountId) (amount : ℕ)
  | updateBalance (assetId : T.AssetId) (who : T.AccountId) (byAmount : ℤ)
  | reserve (assetId : T.AssetId) (who : T.AccountId) (amount : ℕ)
  | unreserve (assetId : T.AssetId) (who : T.AccountId) (amount : ℕ)
  | setNonMintableFrom (assetId : T.AssetId) (who : T.AccountId)
  | performCreateSwap (source : T.AccountId)
      (action : PoolXyk.PolySwapAction T)
  | performCreateSwapUnchecked (source : T.AccountId)
      (action : PoolXyk.PolySwapAction T)
  | poolExchange (sender receiver : T.AccountId) (dexId : T.DEXId)
      (inputAssetId outputAssetId : T.AssetId) (swapAmount : SwapAmount)
  | poolQuote (dexId : T.DEXId) (inputAssetId outputAssetId : T.AssetId)
      (swapAmount : SwapAmount)
  | poolCanExchange (dexId : T.DEXId) (inputAssetId outputAssetId : T.AssetId)
  | curveExchange (sender receiver : T.AccountId) (dexId : T.DEXId)
      (inputAssetId outputAssetId : T.AssetId) (desiredAmount : SwapAmount)

/-- Drop what a computation returns. -/
def discard {α : Type} (x : Exec T α) : Exec T Unit := do
  let _ ← x

def AssetOperation.execute (E : T.currency.Extension) (P : Pool T) :
    AssetOperation T → Exec T Unit
  | .signed who call => dispatch who call
  | .registerAssetId accountId assetId symbol name precision initialSupply
      isMintable =>
      Assets.registerAssetId accountId assetId symbol name precision
        initialSupply isMintable
  | .registerFrom accountId symbol name precision initialSupply isMintable =>
      discard (Assets.registerFrom accountId symbol name precision
        initialSupply isMintable)
  | .transferFrom assetId source dest amount =>
      Assets.transferFrom assetId source dest amount
  | .forceTransfer assetId source dest amount =>
      Assets.forceTransfer assetId source dest amount
  | .mintTo assetId issuer dest amount =>
      Assets.mintTo assetId issuer dest amount
  | .burnFrom assetId issuer dest amount =>
      Assets.burnFrom assetId issuer dest amount
  | .updateBalance assetId who byAmount =>
      Assets.updateBalance E assetId who byAmount
  | .reserve assetId who amount => Assets.reserve E assetId who amount
  | .unreserve assetId who amount =>
      discard (Assets.unreserve E assetId who amount)
  | .setNonMintableFrom assetId who => Assets.setNonMintableFrom assetId who
  | .performCreateSwap source action =>
      Technical.performCreateSwap source action
  | .performCreateSwapUnchecked source action =>
      Technical.performCreateSwapUnchecked source action
  | .poolExchange sender receiver dexId inputAssetId outputAssetId
      swapAmount =>
      discard (PoolXyk.exchange sender receiver dexId inputAssetId
        outputAssetId swapAmount)
  | .poolQuote dexId inputAssetId outputAssetId swapAmount =>
      discard (PoolXyk.quote dexId inputAssetId outputAssetId swapAmount)
  | .poolCanExchange dexId inputAssetId outputAssetId =>
      discard (PoolXyk.canExchange dexId inputAssetId outputAssetId)
  | .curveExchange sender receiver dexId inputAssetId outputAssetId
      desiredAmount =>
      discard (P.exchange sender receiver dexId inputAssetId outputAssetId
        desiredAmount)

/-- An operation, or a setting of the bonding curve pool. -/
inductive SupplyOperation (T : Config) where
  | execute (operation : AssetOperation T)
  | setReservesAccountId (account : TechAccountIdOf T)
  | setDistributionAccounts (accounts : DistributionAccounts T)

/-- The storage together with what the bonding curve pool stores. -/
structure Chain (T : Config) where
  storage : Storage T
  pool : Pool T

/-- The operation, with what it makes of the bonding curve pool. -/
def SupplyOperation.run (E : T.currency.Extension) (P : Pool T) :
    SupplyOperation T → Exec T (Pool T)
  | .execute operation => do
      operation.execute E P
      pure P
  | .setReservesAccountId account => P.setReservesAccountId account
  | .setDistributionAccounts accounts =>
      pure { P with distributionAccounts := accounts }

/-- The chain after an operation. -/
def Chain.perform (E : T.currency.Extension) (c : Chain T)
    (operation : SupplyOperation T) : Chain T :=
  match (operation.run E c.pool).run c.storage with
  | (.ok P, s) => ⟨s, P⟩
  | (.error (.error _), s) => ⟨s, c.pool⟩
  | (.error .panic, _) => c

/-! ## One operation -/

variable {a : T.AssetId} {E : T.currency.Extension} {P : Pool T}

theorem keepsSupply_discard {α : Type} {x : Exec T α}
    (hx : Tx.Keeps (KeepsSupply a) x) :
    Tx.Keeps (KeepsSupply a) (discard x) :=
  Tx.keeps_bind hx fun _ => Tx.keeps_pure _

theorem AssetOperation.keepsSupply (hM : T.currency.Lawful balanceModulus)
    (hE : E.Lawful) (hdex : P.toEnvironment.TradesAssets)
    (operation : AssetOperation T) :
    Tx.Keeps (KeepsSupply a) (operation.execute E P) := by
  cases operation with
  | signed who call => exact keepsSupply_dispatch hM _ _
  | registerAssetId accountId assetId symbol name precision initialSupply
      isMintable =>
      exact Assets.keepsSupply_registerAssetId hM _ _ _ _ _ _ _
  | registerFrom accountId symbol name precision initialSupply isMintable =>
      exact keepsSupply_discard (Assets.keepsSupply_registerFrom hM _ _ _ _ _ _)
  | transferFrom assetId source dest amount =>
      exact Assets.keepsSupply_transferFrom hM _ _ _ _
  | forceTransfer assetId source dest amount =>
      exact Assets.keepsSupply_forceTransfer hM _ _ _ _
  | mintTo assetId issuer dest amount =>
      exact Assets.keepsSupply_mintTo hM _ _ _ _
  | burnFrom assetId issuer dest amount =>
      exact Assets.keepsSupply_burnFrom hM _ _ _ _
  | updateBalance assetId who byAmount =>
      exact Assets.keepsSupply_updateBalance hE _ _ _
  | reserve assetId who amount => exact Assets.keepsSupply_reserve hE _ _ _
  | unreserve assetId who amount =>
      exact keepsSupply_discard (Assets.keepsSupply_unreserve hE _ _ _)
  | setNonMintableFrom assetId who =>
      exact Assets.keepsSupply_setNonMintableFrom _ _
  | performCreateSwap source action =>
      exact PoolXyk.keepsSupply_performCreateSwap hM _ _
  | performCreateSwapUnchecked source action =>
      exact PoolXyk.keepsSupply_performCreateSwapUnchecked hM _ _
  | poolExchange sender receiver dexId inputAssetId outputAssetId swapAmount =>
      exact keepsSupply_discard (PoolXyk.keepsSupply_exchange hM _ _ _ _ _ _)
  | poolQuote dexId inputAssetId outputAssetId swapAmount =>
      exact keepsSupply_discard (Tx.keeps_rollback _)
  | poolCanExchange dexId inputAssetId outputAssetId =>
      exact keepsSupply_discard (Tx.keeps_rollback _)
  | curveExchange sender receiver dexId inputAssetId outputAssetId
      desiredAmount =>
      exact keepsSupply_discard (Pool.keepsSupply_exchange hM hdex _ _ _ _ _ _)

theorem SupplyOperation.keepsSupply (hM : T.currency.Lawful balanceModulus)
    (hE : E.Lawful) (hdex : P.toEnvironment.TradesAssets)
    (operation : SupplyOperation T) :
    Tx.Keeps (KeepsSupply a) (operation.run E P) := by
  cases operation with
  | execute operation =>
      exact Tx.keeps_bind (operation.keepsSupply hM hE hdex) fun _ =>
        Tx.keeps_pure _
  | setReservesAccountId account =>
      exact Pool.keepsSupply_setReservesAccountId account
  | setDistributionAccounts accounts => exact Tx.keeps_pure _

/-- No setting replaces the environment of the pool. -/
theorem SupplyOperation.environment_eq {operation : SupplyOperation T}
    {P' : Pool T} {s s' : Storage T}
    (h : (operation.run E P).run s = (.ok P', s')) :
    P'.toEnvironment = P.toEnvironment := by
  cases operation with
  | execute operation =>
      obtain ⟨_, _, -, h⟩ := Tx.run_bind_eq_ok.mp h
      cases h
      rfl
  | setReservesAccountId account =>
      rw [run, Pool.setReservesAccountId, Tx.run_withTransaction_eq_ok] at h
      obtain ⟨_, _, -, h⟩ := Tx.run_bind_eq_ok.mp h
      cases h
      rfl
  | setDistributionAccounts accounts =>
      cases h
      rfl

/-! ## Runs -/

/-- The DEX API keeps to the assets, and the supply of the asset is kept. -/
def Chain.KeepsSupply (a : T.AssetId) (c c' : Chain T) : Prop :=
  c.pool.toEnvironment.TradesAssets →
    c'.pool.toEnvironment.TradesAssets ∧
      SoraParachain.KeepsSupply a c.storage c'.storage

instance (a : T.AssetId) : IsPreorder (Chain T) (Chain.KeepsSupply a) where
  refl c h := ⟨h, refl_of (KeepsSupply a) c.storage⟩
  trans _ _ _ hab hbc h := by
    have hb := hab h
    have hc := hbc hb.1
    exact ⟨hc.1, trans_of (KeepsSupply a) hb.2 hc.2⟩

theorem Chain.keepsSupply_perform (hM : T.currency.Lawful balanceModulus)
    (hE : E.Lawful) (c : Chain T) (operation : SupplyOperation T) :
    Chain.KeepsSupply a c (c.perform E operation) := by
  intro hdex
  have hkeeps := operation.keepsSupply (a := a) hM hE hdex c.storage
  rw [perform]
  rcases h : (operation.run E c.pool).run c.storage with ⟨(e | _) | P, s⟩
  · rw [h] at hkeeps
    exact ⟨hdex, hkeeps⟩
  · exact ⟨hdex, refl_of (SoraParachain.KeepsSupply a) c.storage⟩
  · rw [h] at hkeeps
    refine ⟨?_, hkeeps⟩
    rw [SupplyOperation.environment_eq h]
    exact hdex

/-- Once an asset that exists is not mintable, it stays so, and no run of
operations issues more of it. -/
theorem fixed_supply_is_final (hM : T.currency.Lawful balanceModulus)
    (hE : E.Lawful) {c : Chain T} (hdex : c.pool.toEnvironment.TradesAssets)
    (hexists : Assets.Exists c.storage a)
    (hfixed : (c.storage.assetInfos a).isMintable = false)
    (operations : List (SupplyOperation T)) :
    Assets.Exists (runAll (Chain.perform E) c operations).storage a ∧
      ((runAll (Chain.perform E) c operations).storage.assetInfos
        a).isMintable = false ∧
      (runAll (Chain.perform E) c operations).storage.issuance a ≤
        c.storage.issuance a := by
  have hrun : Chain.KeepsSupply a c (runAll (Chain.perform E) c operations) :=
    runAll_related (Chain.keepsSupply_perform hM hE) operations c
  obtain ⟨-, hkeeps⟩ := hrun hdex
  obtain ⟨hend, hissuance⟩ := hkeeps ⟨hexists, hfixed⟩
  exact ⟨hend.registered, hend.notMintable, hissuance⟩

/-! ## A run of the mock runtime -/

namespace Mock

/-- The market of the mock transfers what it trades. -/
theorem tradesAssets_curvePool :
    curvePool.toEnvironment.TradesAssets := by
  intro sender receiver dexId inputAssetId outputAssetId swapAmount s
  cases swapAmount with
  | withDesiredInput desired limit =>
      refine ⟨[.transfer inputAssetId sender dexMarket desired,
        .transfer outputAssetId dexMarket receiver (desired / 100)],
        fun a => ?_⟩
      have hsame : (([AssetMove.transfer (T := runtime) inputAssetId sender
            dexMarket desired, .transfer outputAssetId dexMarket receiver
              (desired / 100)].forM AssetMove.perform).run s).2 =
          ((curvePool.dexApiExchange sender receiver dexId inputAssetId
            outputAssetId (.withDesiredInput desired limit)).run s).2 := by
        change ((Assets.transferFrom (T := runtime) inputAssetId sender
              dexMarket desired >>= fun _ =>
            Assets.transferFrom (T := runtime) outputAssetId dexMarket receiver
              (desired / 100) >>= fun _ => pure ()).run s).2 =
          ((Assets.transferFrom (T := runtime) inputAssetId sender dexMarket
              desired >>= fun _ =>
            Assets.transferFrom (T := runtime) outputAssetId dexMarket receiver
              (desired / 100) >>= fun _ =>
                pure (⟨desired / 100, 0⟩ : SwapOutcome)).run s).2
        simp only [Tx.run_bind]
        rcases (Assets.transferFrom (T := runtime) inputAssetId sender
          dexMarket desired).run s with ⟨e | u, s₁⟩
        · rfl
        · dsimp only
          rcases (Assets.transferFrom (T := runtime) outputAssetId dexMarket
            receiver (desired / 100)).run s₁ with ⟨e | u, s₂⟩
          · rfl
          · rfl
      rw [hsame]
      exact ⟨rfl, rfl, rfl⟩
  | withDesiredOutput desired limit => exact ⟨[], fun _ => ⟨rfl, rfl, rfl⟩⟩

/-- Alice makes no more red pepper. -/
@[irreducible] def pepperFixed : Storage runtime :=
  step (curveGenesis smallReserves) (alice, .assetsSetNonMintable redPepper)

def fixedPepper : Chain runtime where
  storage := pepperFixed
  pool := curvePool

/-- Alice tries to make more and then burns some; Bob is paid by the pool. -/
def pepperRun : List (SupplyOperation runtime) :=
  [.execute (.signed alice.account
      (.assetsMint redPepper alice.account unit)),
    .execute (.updateBalance redPepper alice.account unit),
    .execute (.registerAssetId alice.account redPepper [65] [65] 18 unit true),
    .execute (.curveExchange alice.account bob.account dexA goldenTicket
      redPepper (.withDesiredInput unit 0)),
    .execute (.poolQuote dexA redPepper goldenTicket
      (.withDesiredInput unit 0)),
    .setReservesAccountId (techAccount 1),
    .execute (.signed alice.account (.assetsBurn redPepper unit))]

/-- The coins in signed amounts. -/
def extension : runtime.currency.Extension :=
  CoinLedger.extension ℕ ℕ balanceModulus

theorem extension_lawful : extension.Lawful :=
  CoinLedger.extension_lawful

theorem fixed_supply_is_final_pepper :
    Assets.Exists (runAll (Chain.perform extension) fixedPepper
        pepperRun).storage redPepper ∧
      ((runAll (Chain.perform extension) fixedPepper
        pepperRun).storage.assetInfos redPepper).isMintable = false ∧
      (runAll (Chain.perform extension) fixedPepper
        pepperRun).storage.issuance redPepper ≤
          fixedPepper.storage.issuance redPepper :=
  fixed_supply_is_final currency_lawful extension_lawful tradesAssets_curvePool
    (by decide +kernel) (by decide +kernel) pepperRun

end Mock
end SoraParachain

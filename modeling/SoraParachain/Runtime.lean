import SoraParachain.Library.Runs
import SoraParachain.PoolXyk.Calls

/-!
# Signed calls and runs of the runtime

A label of a run is a call together with the account that signed it.  A call
that fails keeps what it wrote before it failed; a call that panics is not
included in a block and changes nothing.
-/

namespace SoraParachain

variable {T : Config}

open Technical (techAccountIdToAccountId)

/-- An account that can sign.  A technical account is controlled by the runtime
and nobody holds a key to it. -/
structure Signer (T : Config) where
  account : T.AccountId
  notTechnical : ∀ techAcc : TechAccountIdOf T,
    techAccountIdToAccountId techAcc ≠ account

/-- The calls of the modelled pallets. -/
inductive Call (T : Config) where
  | assetsRegister (symbol name : List UInt8) (initialSupply : ℕ)
      (isMintable : Bool)
  | assetsTransfer (assetId : T.AssetId) (dest : T.AccountId) (amount : ℕ)
  | assetsMint (assetId : T.AssetId) (dest : T.AccountId) (amount : ℕ)
  | assetsBurn (assetId : T.AssetId) (amount : ℕ)
  | assetsSetNonMintable (assetId : T.AssetId)
  | tradingPairRegister (dexId : T.DEXId)
      (baseAssetId targetAssetId : T.AssetId)
  | initializePool (dexId : T.DEXId) (assetA assetB : T.AssetId)
  | depositLiquidity (dexId : T.DEXId) (inputAssetA inputAssetB : T.AssetId)
      (inputADesired inputBDesired inputAMin inputBMin : ℕ)
  | withdrawLiquidity (dexId : T.DEXId)
      (outputAssetA outputAssetB : T.AssetId)
      (markerAssetDesired outputAMin outputBMin : ℕ)
  | swapPair (receiver : T.AccountId) (dexId : T.DEXId)
      (inputAssetId outputAssetId : T.AssetId) (swapAmount : SwapAmount)
  | createSwap (action : PoolXyk.PolySwapAction T)

def dispatch (who : T.AccountId) : Call T → Exec T Unit
  | .assetsRegister symbol name initialSupply isMintable =>
      Assets.register who symbol name initialSupply isMintable
  | .assetsTransfer assetId dest amount =>
      Assets.transfer who assetId dest amount
  | .assetsMint assetId dest amount => Assets.mint who assetId dest amount
  | .assetsBurn assetId amount => Assets.burn who assetId amount
  | .assetsSetNonMintable assetId => Assets.setNonMintable who assetId
  | .tradingPairRegister dexId baseAssetId targetAssetId =>
      TradingPair.register who dexId baseAssetId targetAssetId
  | .initializePool dexId assetA assetB =>
      PoolXyk.initializePool who dexId assetA assetB
  | .depositLiquidity dexId inputAssetA inputAssetB inputADesired
      inputBDesired inputAMin inputBMin =>
      PoolXyk.depositLiquidity who dexId inputAssetA inputAssetB
        inputADesired inputBDesired inputAMin inputBMin
  | .withdrawLiquidity dexId outputAssetA outputAssetB markerAssetDesired
      outputAMin outputBMin =>
      PoolXyk.withdrawLiquidity who dexId outputAssetA outputAssetB
        markerAssetDesired outputAMin outputBMin
  | .swapPair receiver dexId inputAssetId outputAssetId swapAmount =>
      PoolXyk.swapPair who receiver dexId inputAssetId outputAssetId
        swapAmount
  | .createSwap action => Technical.createSwap who action

/-- A call together with its signer. -/
abbrev Extrinsic (T : Config) : Type :=
  Signer T × Call T

/-- What a signed call does, and what it leaves of the storage. -/
def Extrinsic.run (x : Extrinsic T) (s : Storage T) :
    Except Failure Unit × Storage T :=
  (dispatch x.1.account x.2).run s

/-- The extrinsic is executed without an error. -/
def Extrinsic.Succeeds (s : Storage T) (x : Extrinsic T) : Prop :=
  (x.run s).1 = .ok ()

instance (s : Storage T) (x : Extrinsic T) : Decidable (x.Succeeds s) :=
  match h : (x.run s).1 with
  | .ok () => isTrue h
  | .error _ => isFalse (fun h' => by rw [Extrinsic.Succeeds, h] at h'; cases h')

/-- The storage after an extrinsic. -/
def step (s : Storage T) (x : Extrinsic T) : Storage T :=
  match x.run s with
  | (.ok (), s') => s'
  | (.error (.error _), s') => s'
  | (.error .panic, _) => s

/-- The storage after the extrinsics of a list. -/
def runs (s : Storage T) (extrinsics : List (Extrinsic T)) : Storage T :=
  runAll step s extrinsics

theorem Extrinsic.succeeds_iff {s : Storage T} {x : Extrinsic T} :
    x.Succeeds s ↔ x.run s = (.ok (), step s x) := by
  rw [Succeeds, step]
  rcases h : x.run s with ⟨_ | _, s'⟩
  · simp
  · simp

/-- The storage after an extrinsic is the old one, the one a success leaves or
the one an error leaves. -/
theorem step_cases (s : Storage T) (x : Extrinsic T) :
    step s x = s ∨ x.run s = (.ok (), step s x) ∨
      ∃ e, x.run s = (.error (.error e), step s x) := by
  rw [step]
  rcases h : x.run s with ⟨(e | _) | _, s'⟩
  · exact Or.inr (Or.inr ⟨e, rfl⟩)
  · exact Or.inl rfl
  · exact Or.inr (Or.inl rfl)

/-- An extrinsic that fails leaves at most the record of a marker asset. -/
theorem failsWithin_dispatch (who : T.AccountId) (call : Call T) :
    Tx.FailsWithin PoolXyk.SameButRecords (dispatch who call) := by
  cases call with
  | assetsRegister symbol name initialSupply isMintable =>
      exact Tx.failsWithin_bind_pure (Tx.failsWithin_withTransaction _) _
  | assetsTransfer assetId dest amount =>
      exact Assets.failsWithin_transferFrom _ _ _ _
  | assetsMint assetId dest amount => exact Assets.failsWithin_mintTo _ _ _ _
  | assetsBurn assetId amount => exact Assets.failsWithin_burnFrom _ _ _ _
  | assetsSetNonMintable assetId =>
      refine Tx.failsWithin_bind (Tx.keeps_reads _) fun _ => ?_
      refine Tx.failsWithin_bind (Tx.keeps_reads _) fun _ => ?_
      intro s e s' h
      simp at h
  | tradingPairRegister dexId baseAssetId targetAssetId =>
      refine Tx.failsWithin_bind (Tx.keeps_reads _) fun _ => ?_
      refine Tx.failsWithin_bind (Tx.keeps_reads _) fun _ => ?_
      refine Tx.failsWithin_bind (Tx.keeps_reads _) fun _ => ?_
      refine Tx.failsWithin_bind (Tx.keeps_liftM _) fun _ => ?_
      refine Tx.failsWithin_bind (Tx.keeps_liftM _) fun _ => ?_
      refine Tx.failsWithin_bind (Tx.keeps_reads _) fun _ => ?_
      intro s e s' h
      simp at h
  | initializePool dexId assetA assetB =>
      exact Tx.failsWithin_withTransaction _
  | depositLiquidity dexId inputAssetA inputAssetB inputADesired inputBDesired
      inputAMin inputBMin =>
      exact PoolXyk.failsWithin_depositLiquidity _ _ _ _ _ _ _ _
  | withdrawLiquidity dexId outputAssetA outputAssetB markerAssetDesired
      outputAMin outputBMin =>
      exact PoolXyk.failsWithin_withdrawLiquidity _ _ _ _ _ _ _
  | swapPair receiver dexId inputAssetId outputAssetId swapAmount =>
      exact PoolXyk.failsWithin_swapPair _ _ _ _ _ _
  | createSwap action => exact PoolXyk.failsWithin_performCreateSwap _ _

/-- An extrinsic succeeds or leaves at most the record of a marker asset. -/
theorem step_succeeds_or (s : Storage T) (x : Extrinsic T) :
    x.run s = (.ok (), step s x) ∨ PoolXyk.SameButRecords s (step s x) := by
  rcases step_cases s x with hs | hs | ⟨e, hs⟩
  · rw [hs]
    exact Or.inr rfl
  · exact Or.inl hs
  · exact Or.inr (failsWithin_dispatch _ _ _ _ _ hs)

end SoraParachain

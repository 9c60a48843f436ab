import SoraParachain.DexApi.Pallet
import SoraParachain.LiquidityProxy.Calls
import SoraParachain.Runtime

/-!
# A runtime with all pallets

Besides the calls of the runtime there are a swap on a source of the DEX API, a
swap through the proxy, which the DEX API is the registry of, and the calls of the
mock sources.  On the storage of the pallets, whatever a run does is a run of the
runtime: a swap of the proxy hands the shares of its distributions to the pools,
for the signer or for the account of the proxy.
-/

namespace SoraParachain

variable {T : Config}

/-! ## Calls for any account -/

/-- What a call leaves: everything it wrote, unless it panics. -/
def kept {σ : Type} (s : σ) : Except Failure Unit × σ → σ
  | (.ok (), s') => s'
  | (.error (.error _), s') => s'
  | (.error .panic, _) => s

theorem kept_onPart {σ τ : Type} (p : Part σ τ) (x : Tx τ Failure Unit) (s : σ) :
    kept s ((Tx.onPart p x).run s) = p.set (kept (p.get s) (x.run (p.get s))) s := by
  rw [Tx.run_onPart]
  rcases x.run (p.get s) with ⟨(e | _) | _, t⟩
  · rfl
  · exact (p.set_get s).symm
  · rfl

/-- The storage after a call for an account, whether or not it can sign. -/
def stepAs (s : Storage T) (x : T.AccountId × Call T) : Storage T :=
  kept s ((dispatch x.1 x.2).run s)

theorem step_eq_stepAs (s : Storage T) (x : Extrinsic T) :
    step s x = stepAs s (x.1.account, x.2) := by
  rw [step, stepAs, Extrinsic.run]
  rcases (dispatch x.1.account x.2).run s with ⟨(e | _) | _, s'⟩
  · rfl
  · rfl
  · rfl

namespace DexApi

open LiquidityProxy (ChainOf LiquiditySourceId FilterMode ProxyConfig
  Trades)

/-! ## The proxy over the DEX API -/

/-- What is left open: the fees of the mock sources, and the number of samples,
the account and the two markets of the proxy. -/
structure Setup (T : Config) where
  mocks : Mocks
  getNumSamples : ℕ
  getTechnicalAccountId : T.AccountId
  buyPrice : Market T → T.AssetId → T.AssetId → Result FixedNumber
  sellPrice : Market T → T.AssetId → T.AssetId → Result FixedNumber
  collateralReserves : Market T → T.AssetId → Result ℕ
  reserves : Market T → T.AssetId → T.AssetId → ℕ × ℕ

namespace Setup

variable (U : Setup T)

/-- The DEX API is the `LiquidityRegistry` of the proxy. -/
def proxy : ProxyConfig T where
  Market := Market T
  getNumSamples := U.getNumSamples
  getTechnicalAccountId := U.getTechnicalAccountId
  listLiquiditySources c := listLiquiditySources U.mocks c.market
  quote c := quote U.mocks c.market
  buyPrice c := U.buyPrice c.market
  sellPrice c := U.sellPrice c.market
  collateralReserves c := U.collateralReserves c.market
  reserves c := U.reserves c.market

/-- The balances of a market are those of its storage. -/
def chainOf (m : Market T) : ChainOf U.proxy :=
  ⟨m.storage.free, m⟩

def sources : LiquidityProxy.Sources U.proxy :=
  fun sender receiver src inputAssetId outputAssetId amount c =>
    let (result, m) := (exchange U.mocks sender receiver src inputAssetId
      outputAssetId amount).run c.market
    (result, U.chainOf m)

/-- An exchange through the proxy. -/
def proxyExchange (sender receiver : T.AccountId)
    (inputAssetId outputAssetId : T.AssetId) (amount : SwapAmount)
    (filter : LiquidityProxy.LiquiditySourceFilter T.DEXId) :
    MarketExec T SwapOutcome :=
  fun m =>
    let (result, c) := (LiquidityProxy.exchange U.proxy U.sources sender receiver
      inputAssetId outputAssetId amount filter).run (U.chainOf m)
    (result, c.market)

def proxySwap (who : T.AccountId) (dexId : T.DEXId)
    (inputAssetId outputAssetId : T.AssetId) (swapAmount : SwapAmount)
    (selectedSourceTypes : List LiquiditySourceType)
    (filterMode : FilterMode) : MarketExec T Unit :=
  fun m =>
    let (result, c) := (LiquidityProxy.swap U.proxy U.sources who dexId
      inputAssetId outputAssetId swapAmount selectedSourceTypes
      filterMode).run (U.chainOf m)
    (result, c.market)

end Setup

/-! ## Runs -/

/-- The calls of all pallets. -/
inductive MarketCall (T : Config) where
  | runtime (call : Call T)
  | swap (dexId : T.DEXId) (liquiditySourceType : LiquiditySourceType)
      (inputAssetId outputAssetId : T.AssetId) (amount limit : ℕ)
      (swapVariant : SwapVariant) (receiver : Option T.AccountId)
  | proxySwap (dexId : T.DEXId) (inputAssetId outputAssetId : T.AssetId)
      (swapAmount : SwapAmount) (selectedSourceTypes : List LiquiditySourceType)
      (filterMode : FilterMode)
  | setReserve (pool : MockPool) (dexId : T.DEXId) (targetId : T.AssetId)
      (baseReserve targetReserve : FixedNumber)
  | testAccess (dexId : T.DEXId) (targetId : T.AssetId)

namespace Setup

variable (U : Setup T)

def dispatch (who : T.AccountId) : MarketCall T → MarketExec T Unit
  | .runtime call =>
      Tx.onPart Market.storagePart (SoraParachain.dispatch who call)
  | .swap dexId liquiditySourceType inputAssetId outputAssetId amount limit
      swapVariant receiver =>
      DexApi.swap U.mocks who dexId liquiditySourceType inputAssetId
        outputAssetId amount limit swapVariant receiver
  | .proxySwap dexId inputAssetId outputAssetId swapAmount selectedSourceTypes
      filterMode =>
      U.proxySwap who dexId inputAssetId outputAssetId swapAmount
        selectedSourceTypes filterMode
  | .setReserve pool dexId targetId baseReserve targetReserve =>
      DexApi.setReserve pool dexId targetId baseReserve targetReserve
  | .testAccess dexId targetId =>
      Tx.reads fun m =>
        MockLiquiditySource.testAccess m.storage who dexId targetId

/-- What everything is after a signed call. -/
def step (m : Market T) (x : Signer T × MarketCall T) : Market T :=
  kept m ((U.dispatch x.1.account x.2).run m)

def runs (m : Market T) (extrinsics : List (Signer T × MarketCall T)) :
    Market T :=
  runAll U.step m extrinsics

end Setup

/-! ## Exchanges are exchanges of pools -/

variable {U : Setup T} {sender receiver : T.AccountId}
  {inputAssetId outputAssetId : T.AssetId} {amount : SwapAmount}
  {src : LiquiditySourceId T.DEXId} {m m' : Market T} {outcome : SwapOutcome}

/-- The calls of the pools. -/
abbrev PoolCalls (T : Config) : Type :=
  List (T.AccountId × Call T)

/-- Exchanges of the pools for one of some accounts. -/
def IsExchangeOf (accounts : Set T.AccountId) (x : T.AccountId × Call T) :
    Prop :=
  x.1 ∈ accounts ∧ ∃ receiver dexId inputAssetId outputAssetId swapAmount,
    x.2 = .swapPair receiver dexId inputAssetId outputAssetId swapAmount

/-- The calls that an exchange on a source is for the pools. -/
def poolCalls (sender receiver : T.AccountId) (src : LiquiditySourceId T.DEXId)
    (inputAssetId outputAssetId : T.AssetId) (amount : SwapAmount) :
    PoolCalls T :=
  match src.liquiditySourceIndex with
  | .xykPool =>
      [(sender, .swapPair receiver src.dexId inputAssetId outputAssetId amount)]
  | _ => []

theorem isExchangeOf_poolCalls {accounts : Set T.AccountId}
    (hsender : sender ∈ accounts) :
    ∀ x ∈ poolCalls sender receiver src inputAssetId outputAssetId amount,
      IsExchangeOf accounts x := by
  intro x hx
  unfold poolCalls at hx
  split at hx
  · rw [List.mem_singleton.mp hx]
    exact ⟨hsender, _, _, _, _, _, rfl⟩
  · cases hx

/-- A source that is not a pool leaves everything alone. -/
theorem run_exchange_of_not_pool
    (h : src.liquiditySourceIndex ≠ .xykPool) :
    ((exchange U.mocks sender receiver src inputAssetId outputAssetId
      amount).run m).2 = m := by
  obtain ⟨dexId, index⟩ := src
  cases index with
  | xykPool => exact absurd rfl h
  | bondingCurvePool => rfl
  | multicollateralBondingCurvePool => rfl
  | mockPool => rfl
  | mockPool2 => rfl
  | mockPool3 => rfl
  | mockPool4 => rfl

theorem poolCalls_of_not_pool (h : src.liquiditySourceIndex ≠ .xykPool) :
    poolCalls sender receiver src inputAssetId outputAssetId amount = [] := by
  unfold poolCalls
  split
  · exact absurd ‹_› h
  · rfl

/-- Everything after calls of the pools. -/
def Market.afterCalls (m : Market T) (calls : PoolCalls T) : Market T :=
  { m with storage := runAll stepAs m.storage calls }

theorem Market.afterCalls_append (m : Market T) (calls rest : PoolCalls T) :
    m.afterCalls (calls ++ rest) = (m.afterCalls calls).afterCalls rest := by
  rw [Market.afterCalls, runAll_append]
  rfl

/-- A successful exchange is one of the pools or nothing. -/
theorem run_exchange_eq_ok
    (h : (exchange U.mocks sender receiver src inputAssetId outputAssetId
      amount).run m = (.ok outcome, m')) :
    m' = m.afterCalls
      (poolCalls sender receiver src inputAssetId outputAssetId amount) := by
  obtain ⟨dexId, index⟩ := src
  by_cases hindex : index = .xykPool
  · subst hindex
    obtain ⟨s', hrun, rfl⟩ := Tx.run_onPart_eq_ok.mp h
    have hcall : (SoraParachain.dispatch sender (.swapPair receiver dexId
        inputAssetId outputAssetId amount)).run m.storage = (.ok (), s') :=
      Tx.run_bind_eq_ok.mpr ⟨outcome, s', hrun, rfl⟩
    have hstep : stepAs m.storage (sender, .swapPair receiver dexId inputAssetId
        outputAssetId amount) = s' := by
      rw [stepAs, hcall]
      rfl
    change _ = { m with storage := stepAs m.storage (sender, _) }
    rw [hstep]
    rfl
  · have hsame : ((exchange U.mocks sender receiver ⟨dexId, index⟩ inputAssetId
        outputAssetId amount).run m).2 = m :=
      run_exchange_of_not_pool hindex
    rw [h] at hsame
    have hcalls : poolCalls sender receiver (⟨dexId, index⟩ :
        LiquiditySourceId T.DEXId) inputAssetId outputAssetId amount = [] :=
      poolCalls_of_not_pool hindex
    rw [hcalls]
    exact hsame

/-! ## Exchanges of the proxy -/

variable {filter : LiquidityProxy.LiquiditySourceFilter T.DEXId}
  {c' : ChainOf U.proxy}

theorem run_sources_eq_ok
    (h : (U.sources sender receiver src inputAssetId outputAssetId amount).run
      (U.chainOf m) = (.ok outcome, c')) :
    ∃ m', c' = U.chainOf m' ∧
      (exchange U.mocks sender receiver src inputAssetId outputAssetId
        amount).run m = (.ok outcome, m') := by
  obtain ⟨hresult, hleft⟩ := Prod.mk.inj h
  exact ⟨_, hleft.symm, Prod.ext hresult rfl⟩

/-- The calls that trades with the shares of a distribution are for the pools. -/
def shareCalls (sender receiver : T.AccountId)
    (inputAssetId outputAssetId : T.AssetId) (amount : SwapAmount)
    (distribution : List (LiquiditySourceId T.DEXId × FixedNumber)) :
    PoolCalls T :=
  distribution.flatMap fun d =>
    poolCalls sender receiver d.1 inputAssetId outputAssetId
      (amount.part d.2.bits.toNat)

/-- Trades leave a market with the calls of its pools. -/
theorem run_trades {c : ChainOf U.proxy}
    {distribution : List (LiquiditySourceId T.DEXId × FixedNumber)}
    {outcomes : List SwapOutcome}
    (h : Trades U.sources sender receiver inputAssetId outputAssetId amount
      distribution c outcomes c') (hc : c = U.chainOf m) :
    c' = U.chainOf (m.afterCalls (shareCalls sender receiver inputAssetId
      outputAssetId amount distribution)) := by
  induction h generalizing m with
  | nil c => exact hc
  | cons first others ih =>
      subst hc
      obtain ⟨m₁, hc₁, hfirst⟩ := run_sources_eq_ok first
      rw [ih hc₁, run_exchange_eq_ok hfirst, ← Market.afterCalls_append]
      rfl

/-- A single exchange of the proxy hands out the positive shares of the
distribution that it plans in the state before it. -/
def Setup.SingleCalls (U : Setup T) (m : Market T)
    (sender receiver : T.AccountId) (inputAssetId outputAssetId : T.AssetId)
    (amount : SwapAmount)
    (filter : LiquidityProxy.LiquiditySourceFilter T.DEXId)
    (calls : PoolCalls T) : Prop :=
  ∃ plan,
    LiquidityProxy.quoteSingle U.proxy (U.chainOf m) inputAssetId outputAssetId
      amount filter = .ok plan ∧
    calls = shareCalls sender receiver inputAssetId outputAssetId amount
      (LiquidityProxy.positiveShares plan.distribution)

theorem singleCalls_of_exchangeSingle
    (h : (LiquidityProxy.exchangeSingle U.proxy U.sources sender receiver
      inputAssetId outputAssetId amount filter).run (U.chainOf m) =
        (.ok outcome, c')) :
    ∃ calls, U.SingleCalls m sender receiver inputAssetId outputAssetId amount
        filter calls ∧ c' = U.chainOf (m.afterCalls calls) := by
  obtain ⟨-, plan, outcomes, hplan, htrades, -⟩ :=
    LiquidityProxy.run_exchangeSingle_eq_ok.mp h
  exact ⟨_, ⟨plan, hplan, rfl⟩, run_trades htrades rfl⟩

/-- The calls of the pools that an exchange of the proxy is: those of a single
exchange, or those of one to the account of the proxy and of one that passes on
everything that the first brought there. -/
inductive Setup.ExchangeCalls (U : Setup T) (m : Market T)
    (sender receiver : T.AccountId) (inputAssetId outputAssetId : T.AssetId)
    (amount : SwapAmount)
    (filter : LiquidityProxy.LiquiditySourceFilter T.DEXId) :
    PoolCalls T → Prop
  | direct {calls : PoolCalls T}
      (path : LiquidityProxy.IsDirect T inputAssetId outputAssetId)
      (single : U.SingleCalls m sender receiver inputAssetId outputAssetId
        amount filter calls) :
      U.ExchangeCalls m sender receiver inputAssetId outputAssetId amount filter
        calls
  | twofold {input : ℕ} {brought : SwapOutcome} {first second : PoolCalls T}
      (path : ¬LiquidityProxy.IsDirect T inputAssetId outputAssetId)
      (priced : LiquidityProxy.twofoldInput U.proxy (U.chainOf m) inputAssetId
        T.getBaseAssetId outputAssetId amount filter = .ok input)
      (there : U.SingleCalls m sender U.getTechnicalAccountId inputAssetId
        T.getBaseAssetId (.withDesiredInput input 0) filter first)
      (run : (LiquidityProxy.exchangeSingle U.proxy U.sources sender
        U.getTechnicalAccountId inputAssetId T.getBaseAssetId
        (.withDesiredInput input 0) filter).run (U.chainOf m) =
          (.ok brought, U.chainOf (m.afterCalls first)))
      (onward : U.SingleCalls (m.afterCalls first) U.getTechnicalAccountId
        receiver T.getBaseAssetId outputAssetId
        (.withDesiredInput brought.amount 0) filter second) :
      U.ExchangeCalls m sender receiver inputAssetId outputAssetId amount filter
        (first ++ second)

/-- A successful exchange of the proxy is a list of exchanges of the pools. -/
theorem exchangeCalls_of_exchange
    (h : (LiquidityProxy.exchange U.proxy U.sources sender receiver inputAssetId
      outputAssetId amount filter).run (U.chainOf m) = (.ok outcome, c')) :
    ∃ calls, U.ExchangeCalls m sender receiver inputAssetId outputAssetId amount
        filter calls ∧ c' = U.chainOf (m.afterCalls calls) := by
  obtain ⟨-, hdirect, htwofold⟩ := LiquidityProxy.run_exchange_eq_ok.mp h
  by_cases hpath : LiquidityProxy.IsDirect T inputAssetId outputAssetId
  · obtain ⟨calls, hcalls, hc'⟩ := singleCalls_of_exchangeSingle (hdirect hpath)
    exact ⟨calls, .direct hpath hcalls, hc'⟩
  · obtain ⟨input, brought, second, hinput, hforward, -⟩ :=
      LiquidityProxy.run_exchangeTwofold_eq_ok.mp (htwofold hpath)
    obtain ⟨c₁, hfirst, hsecond⟩ :=
      LiquidityProxy.run_exchangeForward_eq_ok.mp hforward
    obtain ⟨calls₁, hcalls₁, rfl⟩ := singleCalls_of_exchangeSingle hfirst
    obtain ⟨calls₂, hcalls₂, hc'⟩ := singleCalls_of_exchangeSingle hsecond
    rw [← Market.afterCalls_append] at hc'
    exact ⟨calls₁ ++ calls₂, .twofold hpath hinput hcalls₁ hfirst hcalls₂, hc'⟩

/-- The accounts that an exchange of the proxy pays from. -/
def Setup.payers (U : Setup T) (sender : T.AccountId) : Set T.AccountId :=
  {sender, U.getTechnicalAccountId}

theorem Setup.SingleCalls.isExchangeOf {accounts : Set T.AccountId}
    {calls : PoolCalls T} (hsender : sender ∈ accounts)
    (h : U.SingleCalls m sender receiver inputAssetId outputAssetId amount filter
      calls) : ∀ y ∈ calls, IsExchangeOf accounts y := by
  obtain ⟨plan, -, rfl⟩ := h
  intro y hy
  obtain ⟨d, -, hd⟩ := List.mem_flatMap.mp hy
  exact isExchangeOf_poolCalls hsender y hd

/-- An exchange of the proxy is paid by its sender and the account of the
proxy. -/
theorem Setup.ExchangeCalls.isExchangeOf {calls : PoolCalls T}
    (h : U.ExchangeCalls m sender receiver inputAssetId outputAssetId amount
      filter calls) : ∀ y ∈ calls, IsExchangeOf (U.payers sender) y := by
  have hsender : sender ∈ U.payers sender := by
    simp [Setup.payers]
  have htransit : U.getTechnicalAccountId ∈ U.payers sender := by
    simp [Setup.payers]
  cases h with
  | direct path single => exact single.isExchangeOf hsender
  | twofold path priced there run onward =>
      intro y hy
      rcases List.mem_append.mp hy with hy | hy
      · exact there.isExchangeOf hsender y hy
      · exact onward.isExchangeOf htransit y hy

/-- An exchange of the proxy that fails leaves everything alone. -/
theorem failsWithin_exchange {P : ProxyConfig T} {E : LiquidityProxy.Sources P}
    {filter : LiquidityProxy.LiquiditySourceFilter T.DEXId} :
    Tx.FailsWithin Eq (LiquidityProxy.exchange P E sender receiver inputAssetId
      outputAssetId amount filter) :=
  Tx.failsWithin_bind (Tx.keeps_liftM _) fun _ =>
    Tx.failsWithin_withTransaction _

/-! ## The storage of a run -/

variable {who : T.AccountId}

/-- The calls of the pools that a swap of the proxy is, none if it fails. -/
def Setup.SwapCalls (U : Setup T) (m : Market T) (who : T.AccountId)
    (inputAssetId outputAssetId : T.AssetId) (amount : SwapAmount)
    (filter : LiquidityProxy.LiquiditySourceFilter T.DEXId)
    (calls : PoolCalls T) : Prop :=
  match ((LiquidityProxy.exchange U.proxy U.sources who who inputAssetId
    outputAssetId amount filter).run (U.chainOf m)).1 with
  | .ok _ =>
      U.ExchangeCalls m who who inputAssetId outputAssetId amount filter calls
  | .error _ => calls = []

theorem Setup.SwapCalls.isExchangeOf {calls : PoolCalls T}
    (h : U.SwapCalls m who inputAssetId outputAssetId amount filter calls) :
    ∀ y ∈ calls, IsExchangeOf (U.payers who) y := by
  unfold Setup.SwapCalls at h
  split at h
  · exact h.isExchangeOf
  · rw [h]
    simp

theorem kept_proxySwap {dexId : T.DEXId}
    {selected : List LiquiditySourceType} {mode : FilterMode} :
    ∃ calls, U.SwapCalls m who inputAssetId outputAssetId amount
        (.withMode dexId mode selected) calls ∧
      kept m ((U.proxySwap who dexId inputAssetId outputAssetId amount selected
        mode).run m) = m.afterCalls calls := by
  unfold Setup.SwapCalls
  rcases h : (LiquidityProxy.exchange U.proxy U.sources who who inputAssetId
    outputAssetId amount (.withMode dexId mode selected)).run (U.chainOf m)
    with ⟨result, c'⟩
  have hswap : (U.proxySwap who dexId inputAssetId outputAssetId amount selected
      mode).run m = (result.map fun _ => (), c'.market) := by
    have hcall : (LiquidityProxy.swap U.proxy U.sources who dexId inputAssetId
        outputAssetId amount selected mode).run (U.chainOf m) =
          (result.map fun _ => (), c') := by
      rw [LiquidityProxy.swap, Tx.run_bind, h]
      cases result <;> rfl
    change (((LiquidityProxy.swap U.proxy U.sources who dexId inputAssetId
      outputAssetId amount selected mode).run (U.chainOf m)).1,
      ((LiquidityProxy.swap U.proxy U.sources who dexId inputAssetId
        outputAssetId amount selected mode).run (U.chainOf m)).2.market) = _
    rw [hcall]
  rw [hswap]
  cases result with
  | ok outcome =>
      obtain ⟨calls, hcalls, rfl⟩ := exchangeCalls_of_exchange h
      exact ⟨calls, hcalls, rfl⟩
  | error e =>
      have hsame : U.chainOf m = c' := failsWithin_exchange _ _ _ h
      rw [← hsame]
      cases e with
      | error e => exact ⟨[], rfl, rfl⟩
      | panic => exact ⟨[], rfl, rfl⟩

/-- What is left when an outcome is not looked at. -/
theorem kept_bind_pure {σ : Type} {x : Tx σ Failure SwapOutcome} {s : σ}
    (h : (x.run s).2 = s) :
    kept s ((do let _ ← x; pure () : Tx σ Failure Unit).run s) = s := by
  rw [Tx.run_bind]
  rcases hx : x.run s with ⟨(e | _) | _, s'⟩
  · rw [hx] at h
    exact h
  · rfl
  · rw [hx] at h
    exact h

/-- A swap on a source, whether or not it succeeds, is one of the pools or
nothing. -/
theorem kept_swap {dexId : T.DEXId} {sourceType : LiquiditySourceType}
    {n limit : ℕ} {variant : SwapVariant} {receiver : Option T.AccountId} :
    kept m ((swap U.mocks who dexId sourceType inputAssetId outputAssetId n limit
        variant receiver).run m) =
      m.afterCalls (poolCalls who (receiver.getD who) ⟨dexId, sourceType⟩
        inputAssetId outputAssetId
        (SwapAmount.withVariant variant n limit)) := by
  by_cases hpool : sourceType = .xykPool
  · subst hpool
    have hrun : (swap U.mocks who dexId .xykPool inputAssetId outputAssetId n
        limit variant receiver).run m =
          (Tx.onPart Market.storagePart (SoraParachain.dispatch who
            (.swapPair (receiver.getD who) dexId inputAssetId outputAssetId
              (SwapAmount.withVariant variant n limit)))).run m := by
      refine Eq.trans ?_ Tx.run_onPart_bind.symm
      exact Tx.run_bind_congr fun _ _ _ =>
        (Tx.run_onPart_pure ()).symm
    rw [hrun, kept_onPart]
    rfl
  · rw [poolCalls_of_not_pool hpool]
    exact kept_bind_pure (run_exchange_of_not_pool hpool)

/-- The calls that a call of all pallets is for the storage: a call of the runtime
itself, the exchange of a pool that a swap names, or those of a swap of the
proxy. -/
def Setup.Images (U : Setup T) (m : Market T) (x : Signer T × MarketCall T)
    (calls : PoolCalls T) : Prop :=
  match x.2 with
  | .runtime call => calls = [(x.1.account, call)]
  | .swap dexId sourceType inputAssetId outputAssetId amount limit variant
      receiver =>
      calls = poolCalls x.1.account (receiver.getD x.1.account)
        ⟨dexId, sourceType⟩ inputAssetId outputAssetId
        (SwapAmount.withVariant variant amount limit)
  | .proxySwap dexId inputAssetId outputAssetId amount selected mode =>
      U.SwapCalls m x.1.account inputAssetId outputAssetId amount
        (.withMode dexId mode selected) calls
  | .setReserve _ _ _ _ _ => calls = []
  | .testAccess _ _ => calls = []

theorem simulates (U : Setup T) :
    Simulates U.step stepAs Market.storage U.Images := by
  rintro m ⟨who, call⟩
  cases call with
  | runtime call =>
      refine ⟨[(who.account, call)], rfl, ?_⟩
      change (kept m ((Tx.onPart Market.storagePart
        (SoraParachain.dispatch who.account call)).run m)).storage = _
      rw [kept_onPart]
      rfl
  | swap dexId sourceType inputAssetId outputAssetId n limit variant receiver =>
      exact ⟨_, rfl, congrArg Market.storage kept_swap⟩
  | proxySwap dexId inputAssetId outputAssetId amount selected mode =>
      obtain ⟨calls, hcalls, hkept⟩ := kept_proxySwap (U := U) (m := m)
      exact ⟨calls, hcalls, congrArg Market.storage hkept⟩
  | setReserve pool dexId targetId baseReserve targetReserve =>
      exact ⟨[], rfl, rfl⟩
  | testAccess dexId targetId =>
      refine ⟨[], rfl, ?_⟩
      change (kept m (MockLiquiditySource.testAccess m.storage who.account dexId
        targetId, m)).storage = m.storage
      rcases MockLiquiditySource.testAccess m.storage who.account dexId targetId
        with (e | _) | _
      · rfl
      · rfl
      · rfl

/-- Whatever a run of all pallets does to their storage, calls of the runtime do
one after the other: those of the run itself, the exchanges of pools that swaps
name, and those that the proxy plans for the signer and for its own account. -/
theorem runs_storage (U : Setup T) (m : Market T)
    (extrinsics : List (Signer T × MarketCall T)) :
    ∃ calls : List (PoolCalls T),
      ImagesAlong U.step U.Images m extrinsics calls ∧
        (U.runs m extrinsics).storage =
          runAll stepAs m.storage calls.flatten :=
  (simulates U).exists_runAll m extrinsics

end DexApi
end SoraParachain

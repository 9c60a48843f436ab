import SoraParachain.DexApi.Runs
import SoraParachain.MockLiquiditySource.Quotes
import SoraParachain.PoolXyk.ReservePositivity

/-!
# What exchanges of all kinds settle

The account of the proxy is a technical account of its own, so no exchange that is
made for it works on a pool from the inside.  Hence what holds of exchanges of
signers on the pools holds of swaps through the DEX API and the proxy: no run
empties a pool, and a swap through the proxy over the pools takes the input from
the sender, gives the output to the receiver and leaves everybody else as they
were, the account of the proxy included.
-/

namespace SoraParachain

variable {T : Config}

open Technical (techAccountIdToAccountId techAccountIdToAccountId_inj)

/-! ## A market to trade on -/

namespace Mock

open DexApi (Market Setup)

/-- `liquidity-proxy` -/
def techAccountPrefix : List UInt8 :=
  [108, 105, 113, 117, 105, 100, 105, 116, 121, 45, 112, 114, 111, 120, 121]

/-- `main` -/
def techAccountMain : List UInt8 := [109, 97, 105, 110]

def setup : Setup runtime where
  mocks _ := mockSource
  getNumSamples := 40
  getTechnicalAccountId :=
    Technical.techAccountIdToAccountId
      (.generic techAccountPrefix techAccountMain)
  buyPrice _ _ _ := .ok LiquidityProxy.fixedOne
  sellPrice _ _ _ := .ok LiquidityProxy.fixedOne
  collateralReserves _ _ := .ok 0
  reserves m _ other :=
    MockLiquiditySource.poolReserves dexA (m.mockReserves .mockPool) other

/-- Two pools of a million units of the base asset and another asset each, and
mock sources that the DEX API does not support. -/
@[irreducible] def twoPools : Market runtime where
  storage := runs genesis
    (openPool dexA redPepper ++ openPool dexA blackPepper ++
      [deposit dexA redPepper (1000000 * unit) (1000000 * unit),
        deposit dexA blackPepper (1000000 * unit) (1000000 * unit)])
  mockReserves _ := mockReserves
  enabledSourceTypes := [.xykPool]

/-- Alice buys black for red pepper and gives it to Carol. -/
def buyPepper : DexApi.MarketExec runtime SwapOutcome :=
  setup.proxyExchange alice.account carol.account redPepper blackPepper
    (.withDesiredInput (1000 * unit) 0) (.empty dexA)

end Mock

namespace PoolXyk

/-- The account is no pool and no fee account of one. -/
def IsOutsider (who : T.AccountId) : Prop :=
  ∀ (dexId : T.DEXId) (tpair : TradingPair T.TechAssetId),
    Outsider (.toTechUnitFromDexAndTradingPair dexId tpair) who

theorem isOutsider_of_signer (who : Signer T) : IsOutsider who.account :=
  fun _ _ => outsider_of_signer who _

/-- A technical account with a name of its own is no pool. -/
theorem isOutsider_generic (hT : T.CollisionFree) (tag data : List UInt8) :
    IsOutsider (techAccountIdToAccountId (T := T) (.generic tag data)) := by
  intro dexId tpair
  constructor
  · intro h
    cases (techAccountIdToAccountId_inj hT).mp h
  · intro feeAcc hfee h
    cases hfee
    cases (techAccountIdToAccountId_inj hT).mp h

theorem IsOutsider.of_isPoolOf {s : Storage T} {dexId : T.DEXId}
    {assetA assetB : T.AssetId} {techAcc : TechAccountIdOf T}
    {who : T.AccountId} (h : IsOutsider who)
    (hpool : IsPoolOf s dexId assetA assetB techAcc) : Outsider techAcc who := by
  obtain ⟨tpair, rfl⟩ := hpool.keeper
  exact h dexId tpair

end PoolXyk

namespace DexApi

open PoolXyk (IsOutsider IsPoolOf SameButRecords)

variable {U : Setup T} {m m' : Market T} {s s' : Storage T}
variable {sender receiver who w : T.AccountId} {c : T.AssetId}
variable {dexId : T.DEXId} {inputAssetId outputAssetId : T.AssetId}
variable {amount : SwapAmount} {outcome : SwapOutcome}

/-! ## No run empties a pool -/

/-- The calls that move assets without registering any. -/
def MarketCall.isTraffic : MarketCall T → Bool
  | .runtime call => call.isTraffic
  | .swap _ _ _ _ _ _ _ _ => true
  | .proxySwap _ _ _ _ _ _ => true
  | .setReserve _ _ _ _ _ => true
  | .testAccess _ _ => true

/-- A call of an exchange succeeds or leaves at most the record of a marker
asset. -/
theorem stepAs_swapPair_cases (s : Storage T) (w receiver : T.AccountId)
    (dexId : T.DEXId) (inputAssetId outputAssetId : T.AssetId)
    (amount : SwapAmount) :
    (PoolXyk.swapPair w receiver dexId inputAssetId outputAssetId amount).run s =
        (.ok (), stepAs s (w, .swapPair receiver dexId inputAssetId outputAssetId
          amount)) ∨
      SameButRecords s (stepAs s (w, .swapPair receiver dexId inputAssetId
        outputAssetId amount)) := by
  rw [stepAs, dispatch]
  rcases h : (PoolXyk.swapPair w receiver dexId inputAssetId outputAssetId
    amount).run s with ⟨(e | _) | _, s'⟩
  · exact Or.inr (PoolXyk.failsWithin_swapPair _ _ _ _ _ _ _ _ _ h)
  · exact Or.inr rfl
  · exact Or.inl rfl

theorem positive_of_exchange (hM : T.currency.Lawful balanceModulus)
    {accounts : Set T.AccountId} {pool : TechAccountIdOf T}
    (haccounts : ∀ a ∈ accounts, techAccountIdToAccountId pool ≠ a)
    {y : T.AccountId × Call T} (hy : IsExchangeOf accounts y)
    (hpos : 0 < s.free c (techAccountIdToAccountId pool)) :
    0 < (stepAs s y).free c (techAccountIdToAccountId pool) := by
  obtain ⟨w, call⟩ := y
  obtain ⟨hw, receiver, dexId, assetA, assetB, amount, rfl⟩ := hy
  rcases stepAs_swapPair_cases s w receiver dexId assetA assetB amount
    with h | h
  · exact PoolXyk.positive_of_swapPair hM (haccounts w hw) hpos h
  · rw [SameButRecords] at h
    rw [h]
    exact hpos

/-- What a pool holds of an asset stays positive over any run of deposits,
withdrawals, transfers and exchanges, whether these are made on the pool, through
the DEX API or through the proxy. -/
theorem pools_stay_filled (hM : T.currency.Lawful balanceModulus)
    (hT : T.CollisionFree) {tag data : List UInt8}
    (htransit : U.getTechnicalAccountId =
      techAccountIdToAccountId (.generic tag data))
    {tpair : TradingPair T.TechAssetId}
    (hpos : 0 < m.storage.free c (techAccountIdToAccountId
      (.toTechUnitFromDexAndTradingPair dexId tpair)))
    {extrinsics : List (Signer T × MarketCall T)}
    (htraffic : ∀ x ∈ extrinsics, x.2.isTraffic = true) :
    0 < (U.runs m extrinsics).storage.free c (techAccountIdToAccountId
      (.toTechUnitFromDexAndTradingPair dexId tpair)) := by
  have htransitOut : techAccountIdToAccountId
      (.toTechUnitFromDexAndTradingPair dexId tpair) ≠
        U.getTechnicalAccountId := by
    rw [htransit]
    exact (PoolXyk.isOutsider_generic hT tag data dexId tpair).ne_pool
  refine (simulates U).runAll_related (R := Tx.Preserves fun s : Storage T =>
    0 < s.free c (techAccountIdToAccountId
      (.toTechUnitFromDexAndTradingPair dexId tpair))) m ?_ hpos
  rintro ⟨signer, call⟩ hmem m₁ calls himages y hy s hs
  have hsigner := signer.notTechnical
    (.toTechUnitFromDexAndTradingPair dexId tpair)
  cases call with
  | runtime call =>
      cases himages
      rw [List.mem_singleton.mp hy, ← step_eq_stepAs s (signer, call)]
      exact PoolXyk.step_keeps_positive hM (htraffic _ hmem) hs
  | swap dexId sourceType inputAssetId outputAssetId n limit variant receiver =>
      cases himages
      have hexchange : IsExchangeOf {signer.account} y :=
        isExchangeOf_poolCalls (Set.mem_singleton _) y hy
      apply positive_of_exchange hM _ hexchange hs
      intro a ha
      rw [ha]
      exact hsigner
  | proxySwap dexId inputAssetId outputAssetId amount selected mode =>
      apply positive_of_exchange hM _ (himages.isExchangeOf y hy) hs
      rintro a (rfl | ha)
      · exact hsigner
      · rw [ha]
        exact htransitOut
  | setReserve pool dexId targetId baseReserve targetReserve =>
      cases himages
      cases hy
  | testAccess dexId targetId =>
      cases himages
      cases hy

/-- Alice trades through the proxy and Bob withdraws from one of the pools. -/
theorem pools_stay_filled_sample :
    0 < (Mock.setup.runs Mock.twoPools
      [(Mock.alice, .proxySwap Mock.dexA Mock.redPepper Mock.blackPepper
          (.withDesiredInput (1000 * Mock.unit) 0) [] .disabled),
        (Mock.bob, .runtime Mock.withdrawUnit.2)]).storage.free
      Mock.goldenTicket (Mock.poolAccountOf Mock.dexA Mock.redPepper) :=
  pools_stay_filled (U := Mock.setup) Mock.currency_lawful Mock.collisionFree rfl
    (by decide +kernel : 0 < Mock.twoPools.storage.free Mock.goldenTicket
      (Mock.poolAccountOf Mock.dexA Mock.redPepper))
    (by
      intro x hx
      rcases List.mem_cons.mp hx with rfl | hx
      · rfl
      · rw [List.mem_singleton.mp hx]
        rfl)

/-! ## What an exchange settles -/

/-- What a trade does to everybody who is no pool. -/
structure Traded (s s' : Storage T) (sender receiver : T.AccountId)
    (inputAssetId outputAssetId : T.AssetId) (amount : SwapAmount)
    (outcome : SwapOutcome) : Prop where
  debited : s'.free inputAssetId sender + amount.paid outcome =
    s.free inputAssetId sender
  credited : amount.IsDesiredInput →
    s'.free outputAssetId receiver =
      s.free outputAssetId receiver + outcome.amount
  others : ∀ who c, IsOutsider who → (who = sender → c ≠ inputAssetId) →
    (who = receiver → c ≠ outputAssetId) → s'.free c who = s.free c who

/-- An exchange pays the input into the pool and the output out of it. -/
theorem payments_cases {a : PoolXyk.PairSwapAction T}
    {t : PoolXyk.PairSwapAction.Terms T} {p : Payment T.AssetId T.AccountId}
    (hp : p ∈ a.payments w t) :
    (p.currency = a.source.asset ∧ p.source = w ∧
      (p.dest = a.poolRepr ∨
        p.dest = techAccountIdToAccountId t.feeAccount)) ∨
    (p.currency = a.destination.asset ∧ p.source = a.poolRepr ∧
      (p.dest = techAccountIdToAccountId t.feeAccount ∨
        p.dest = a.receiver w)) := by
  unfold PoolXyk.PairSwapAction.payments at hp
  split_ifs at hp
  · rcases List.mem_cons.mp hp with rfl | hp
    · exact Or.inl ⟨rfl, rfl, Or.inl rfl⟩
    · rcases List.mem_cons.mp hp with rfl | hp
      · exact Or.inr ⟨rfl, rfl, Or.inl rfl⟩
      · rw [List.mem_singleton.mp hp]
        exact Or.inr ⟨rfl, rfl, Or.inr rfl⟩
  · rcases List.mem_cons.mp hp with rfl | hp
    · exact Or.inl ⟨rfl, rfl, Or.inl rfl⟩
    · rcases List.mem_cons.mp hp with rfl | hp
      · exact Or.inl ⟨rfl, rfl, Or.inr rfl⟩
      · rw [List.mem_singleton.mp hp]
        exact Or.inr ⟨rfl, rfl, Or.inr rfl⟩

theorem paid_outcomeOf {techAcc : TechAccountIdOf T}
    {t : PoolXyk.PairSwapAction.Terms T}
    (h : PoolXyk.PairSwapAction.Agreed s (PoolXyk.exchangeAction receiver techAcc
      inputAssetId outputAssetId amount) sender t) :
    amount.paid (PoolXyk.outcomeOf (PoolXyk.exchangeAction receiver techAcc
      inputAssetId outputAssetId amount) t amount) = t.amountIn := by
  cases amount with
  | withDesiredInput d m => exact (PoolXyk.exactInput_terms h).1.symm
  | withDesiredOutput d m => rfl

/-- An exchange on a pool between outsiders is a trade. -/
theorem traded_of_exchange (hM : T.currency.Lawful balanceModulus)
    (hsender : IsOutsider sender) (hreceiver : IsOutsider receiver)
    (h : (PoolXyk.exchange sender receiver dexId inputAssetId outputAssetId
      amount).run s = (.ok outcome, s')) :
    Traded s s' sender receiver inputAssetId outputAssetId amount outcome := by
  obtain ⟨techAcc, t, l, hpool, hset, rfl, rfl⟩ := PoolXyk.run_exchange_ok.mp h
  have hne := hpool.assets_ne
  have hagreed := hset.agreed
  obtain ⟨-, hbook⟩ := hset.book hM
  have hmoved : PoolXyk.Exchanged s ((PoolXyk.exchangeAction receiver techAcc
      inputAssetId outputAssetId amount).settled s l) techAcc inputAssetId
      outputAssetId sender receiver t :=
    PoolXyk.exchanged_of_settles hM hne (hsender.of_isPoolOf hpool)
      (hreceiver.of_isPoolOf hpool) hset rfl
  have huntouched : ∀ who c,
      (∀ p ∈ (PoolXyk.exchangeAction receiver techAcc inputAssetId outputAssetId
        amount).payments sender t, c ≠ p.currency ∨ who ≠ p.source ∧
          who ≠ p.dest) →
        ((PoolXyk.exchangeAction receiver techAcc inputAssetId outputAssetId
          amount).settled s l).free c who = s.free c who := by
    intro who c huntouched
    change (T.currency.book l).free c who = s.book.free c who
    rw [hbook]
    exact Book.free_paid_of_untouched huntouched
  refine ⟨?_, ?_, ?_⟩
  · rw [paid_outcomeOf hagreed]
    exact hmoved.debited
  · intro hinput
    rw [hmoved.credited]
    cases amount with
    | withDesiredOutput d m => cases hinput
    | withDesiredInput d m =>
        obtain ⟨hdest, -⟩ := PoolXyk.fee_le_of_exchange hagreed
        rw [PoolXyk.outcomeOf, PoolXyk.feeFromDestination_exchangeAction]
        split_ifs with hside
        · rw [wrappingSub_of_le (hdest hside)]
        · rfl
  · intro who c hwho hin hout
    have hpoolOut := hwho.of_isPoolOf hpool
    have hnotPool : who ≠ techAccountIdToAccountId techAcc :=
      hpoolOut.ne_pool.symm
    have hnotFee : who ≠ techAccountIdToAccountId t.feeAccount :=
      (hpoolOut.ne_fee _ hagreed.feeAccount).symm
    change (T.currency.book l).free c who = s.book.free c who
    rw [hbook]
    apply Book.free_paid_of_untouched
    intro p hp
    by_cases hcur : c = p.currency
    · refine Or.inr ?_
      rcases payments_cases hp with ⟨hasset, hsource, hdest⟩ |
        ⟨hasset, hsource, hdest⟩
      · have hnotSender : who ≠ sender := fun heq =>
          hin heq (hcur.trans hasset)
        rw [hsource]
        refine ⟨hnotSender, ?_⟩
        rcases hdest with hdest | hdest
        · rw [hdest]
          exact hnotPool
        · rw [hdest]
          exact hnotFee
      · have hnotReceiver : who ≠ receiver := fun heq =>
          hout heq (hcur.trans hasset)
        rw [hsource]
        refine ⟨hnotPool, ?_⟩
        rcases hdest with hdest | hdest
        · rw [hdest]
          exact hnotFee
        · rw [hdest]
          exact hnotReceiver
    · exact Or.inl hcur

/-! ## The proxy over the pools -/

open LiquidityProxy (LiquiditySourceId LiquiditySourceFilter ChainOf
  exchangeSingle fixedOne)

variable {filter : LiquiditySourceFilter T.DEXId} {I : Mocks}

/-- The pools are the only supported sources that the filter lets pass. -/
def OnlyPools (m : Market T) (filter : LiquiditySourceFilter T.DEXId) : Prop :=
  m.enabledSourceTypes.filter filter.matchesIndex = [.xykPool]

instance : Decidable (OnlyPools m filter) :=
  inferInstanceAs (Decidable (_ = _))

/-- Types that the filter does not let pass are not asked. -/
theorem filterMapM_listedSource (types : List LiquiditySourceType) :
    types.filterMapM (listedSource I m inputAssetId outputAssetId filter) =
      (types.filter filter.matchesIndex).filterMapM
        (listedSource I m inputAssetId outputAssetId filter) := by
  induction types with
  | nil => rfl
  | cons sourceType rest ih =>
      cases hmatch : filter.matchesIndex sourceType with
      | true =>
          rw [List.filter_cons_of_pos hmatch, List.filterMapM_cons,
            List.filterMapM_cons, ih]
      | false =>
          have hskipped : listedSource I m inputAssetId outputAssetId filter
              sourceType = pure none := by
            rw [listedSource, hmatch]
            rfl
          rw [List.filter_cons_of_neg (by simp [hmatch]), List.filterMapM_cons,
            hskipped, pure_bind]
          exact ih

theorem listed_of_onlyPools (hpools : OnlyPools m filter)
    {sources : List (LiquiditySourceId T.DEXId)}
    (h : listLiquiditySources I m inputAssetId outputAssetId filter =
      .ok sources) :
    sources = [] ∨ sources = [⟨filter.dexId, .xykPool⟩] := by
  obtain ⟨_, -, h⟩ := Tx.except_bind_eq_ok.mp h
  rw [getSupportedTypes, filterMapM_listedSource, hpools,
    List.filterMapM_cons] at h
  obtain ⟨src, hsrc, h⟩ := Tx.except_bind_eq_ok.mp h
  have hlisted : src = none ∨ src = some ⟨filter.dexId, .xykPool⟩ := by
    unfold listedSource at hsrc
    split_ifs at hsrc
    · obtain ⟨can, -, hsrc⟩ := Tx.except_bind_eq_ok.mp hsrc
      cases can
      · exact Or.inl (Except.ok.inj hsrc).symm
      · exact Or.inr (Except.ok.inj hsrc).symm
    · exact Or.inl (Except.ok.inj hsrc).symm
  rcases hlisted with rfl | rfl
  · exact Or.inl (Except.ok.inj h).symm
  · exact Or.inr (Except.ok.inj h).symm

/-- The pools take everything. -/
theorem plan_of_onlyPools (hpools : OnlyPools m filter)
    {plan : LiquidityProxy.AggregatedSwapOutcome T.DEXId}
    (h : LiquidityProxy.quoteSingle U.proxy (U.chainOf m) inputAssetId
      outputAssetId amount filter = .ok plan) :
    plan.distribution = [(⟨filter.dexId, .xykPool⟩, fixedOne)] := by
  obtain ⟨sources, hlisted, h⟩ := Tx.except_bind_eq_ok.mp h
  rcases listed_of_onlyPools hpools hlisted with rfl | rfl
  · cases h
  · obtain ⟨o, -, h⟩ := Tx.except_bind_eq_ok.mp h
    cases h
    rfl

theorem part_whole (amount : SwapAmount) :
    amount.part fixedFormat.scale = amount := by
  have hwhole : ∀ n, flooredPart fixedFormat.scale n fixedFormat.scale = n :=
    fun n => Nat.mul_div_cancel_left n fixedFormat.scale_pos
  cases amount with
  | withDesiredInput d m => rw [SwapAmount.part, hwhole, hwhole]
  | withDesiredOutput d m => rw [SwapAmount.part, hwhole, hwhole]

/-- A single exchange over the pools is an exchange on a pool. -/
theorem run_exchangeSingle_of_onlyPools (hpools : OnlyPools m filter)
    {c' : ChainOf U.proxy}
    (h : (exchangeSingle U.proxy U.sources sender receiver inputAssetId
      outputAssetId amount filter).run (U.chainOf m) = (.ok outcome, c')) :
    ∃ s', c' = U.chainOf { m with storage := s' } ∧
      (PoolXyk.exchange sender receiver filter.dexId inputAssetId outputAssetId
        amount).run m.storage = (.ok outcome, s') := by
  obtain ⟨-, plan, outcomes, hplan, htrades, -, -, rfl⟩ :=
    LiquidityProxy.run_exchangeSingle_eq_ok.mp h
  rw [plan_of_onlyPools hpools hplan] at htrades
  cases htrades with
  | cons first others =>
      cases others
      obtain ⟨m', rfl, hrun⟩ := run_sources_eq_ok first
      obtain ⟨s', hpool, rfl⟩ := Tx.run_onPart_eq_ok.mp hrun
      have hwhole : amount.part fixedOne.bits.toNat = amount := part_whole amount
      rw [hwhole] at hpool
      refine ⟨s', rfl, ?_⟩
      simp only [List.map_cons, List.map_nil, List.sum_cons, List.sum_nil,
        Nat.add_zero]
      exact hpool

theorem traded_of_exchangeSingle (hM : T.currency.Lawful balanceModulus)
    (hpools : OnlyPools m filter) (hsender : IsOutsider sender)
    (hreceiver : IsOutsider receiver) {c' : ChainOf U.proxy}
    (h : (exchangeSingle U.proxy U.sources sender receiver inputAssetId
      outputAssetId amount filter).run (U.chainOf m) = (.ok outcome, c')) :
    ∃ s', c' = U.chainOf { m with storage := s' } ∧
      Traded m.storage s' sender receiver inputAssetId outputAssetId amount
        outcome := by
  obtain ⟨s', hc', hrun⟩ := run_exchangeSingle_of_onlyPools hpools h
  exact ⟨s', hc', traded_of_exchange hM hsender hreceiver hrun⟩

/-- Two trades through an account are one, and the account is left as it was. -/
theorem Traded.through {s₁ : Storage T} {transit : T.AccountId}
    {intermediateAssetId : T.AssetId} {d : ℕ} {first second : SwapOutcome}
    (hfirst : Traded s s₁ sender transit inputAssetId intermediateAssetId
      (.withDesiredInput d 0) first)
    (hsecond : Traded s₁ s' transit receiver intermediateAssetId outputAssetId
      (.withDesiredInput first.amount 0) second)
    (hsender : IsOutsider sender) (hreceiver : IsOutsider receiver)
    (hneSender : sender ≠ transit) (hneReceiver : receiver ≠ transit)
    (hne : inputAssetId ≠ outputAssetId)
    (hin : inputAssetId ≠ intermediateAssetId)
    (hout : outputAssetId ≠ intermediateAssetId)
    (hpaid : amount.paid outcome = d)
    (hamount : amount.IsDesiredInput → outcome.amount = second.amount) :
    Traded s s' sender receiver inputAssetId outputAssetId amount outcome := by
  refine ⟨?_, ?_, ?_⟩
  · rw [hpaid, hsecond.others sender inputAssetId hsender
      (fun heq => absurd heq hneSender) fun _ => hne]
    exact hfirst.debited
  · intro hinput
    rw [hamount hinput, hsecond.credited trivial,
      hfirst.others receiver outputAssetId hreceiver (fun _ => hne.symm)
        fun heq => absurd heq hneReceiver]
  · intro who c hwho hcin hcout
    by_cases htransit : who = transit
    · subst htransit
      by_cases hc : c = intermediateAssetId
      · subst hc
        have hgot : s₁.free c who = s.free c who + first.amount :=
          hfirst.credited trivial
        have hgave : s'.free c who + first.amount = s₁.free c who :=
          hsecond.debited
        omega
      · rw [hsecond.others who c hwho (fun _ => hc)
            fun heq => absurd heq hneReceiver.symm,
          hfirst.others who c hwho (fun heq => absurd heq hneSender.symm)
            fun _ => hc]
    · rw [hsecond.others who c hwho (fun heq => absurd heq htransit) hcout,
        hfirst.others who c hwho hcin fun heq => absurd heq htransit]

theorem paid_twofoldAmount {input : ℕ} {second : SwapOutcome} {fee : ℕ}
    {filter : LiquiditySourceFilter T.DEXId} {c : ChainOf U.proxy}
    {intermediateAssetId : T.AssetId}
    (hinput : LiquidityProxy.twofoldInput U.proxy c inputAssetId
      intermediateAssetId outputAssetId amount filter = .ok input) :
    amount.paid ⟨LiquidityProxy.twofoldAmount amount input second, fee⟩ =
      input := by
  cases amount with
  | withDesiredInput d m => exact Except.ok.inj hinput
  | withDesiredOutput d m => rfl

theorem amount_twofoldAmount {input : ℕ} {second : SwapOutcome}
    (h : amount.IsDesiredInput) :
    LiquidityProxy.twofoldAmount amount input second = second.amount := by
  cases amount with
  | withDesiredInput d m => rfl
  | withDesiredOutput d m => cases h

theorem run_proxyExchange_eq_ok
    (h : (U.proxyExchange sender receiver inputAssetId outputAssetId amount
      filter).run m = (.ok outcome, m')) :
    ∃ c', (LiquidityProxy.exchange U.proxy U.sources sender receiver inputAssetId
      outputAssetId amount filter).run (U.chainOf m) = (.ok outcome, c') ∧
        m' = c'.market := by
  obtain ⟨hresult, hleft⟩ := Prod.mk.inj h
  exact ⟨_, Prod.ext hresult rfl, hleft.symm⟩

/-- A swap through the proxy for which only the pools are asked takes exactly the
input from the sender and gives exactly the reported output of an exact input to
the receiver.  Nobody else is touched but the pools, not even the account that the
proxy trades through. -/
theorem proxy_trades_over_pools (hM : T.currency.Lawful balanceModulus)
    (hT : T.CollisionFree) {tag data : List UInt8}
    (htransit : U.getTechnicalAccountId =
      techAccountIdToAccountId (.generic tag data))
    (hpools : OnlyPools m filter) {sender receiver : Signer T}
    (h : (U.proxyExchange sender.account receiver.account inputAssetId
      outputAssetId amount filter).run m = (.ok outcome, m')) :
    ∃ s', m' = { m with storage := s' } ∧
      Traded m.storage s' sender.account receiver.account inputAssetId
        outputAssetId amount outcome := by
  obtain ⟨c', hrun, rfl⟩ := run_proxyExchange_eq_ok h
  obtain ⟨hne, hdirect, htwofold⟩ := LiquidityProxy.run_exchange_eq_ok.mp hrun
  have hsender := PoolXyk.isOutsider_of_signer sender
  have hreceiver := PoolXyk.isOutsider_of_signer receiver
  by_cases hpath : LiquidityProxy.IsDirect T inputAssetId outputAssetId
  · obtain ⟨s', rfl, htraded⟩ := traded_of_exchangeSingle hM hpools hsender
      hreceiver (hdirect hpath)
    exact ⟨s', rfl, htraded⟩
  · obtain ⟨input, first, second, hinput, hforward, -, -, rfl⟩ :=
      LiquidityProxy.run_exchangeTwofold_eq_ok.mp (htwofold hpath)
    obtain ⟨c₁, hfirst, hsecond⟩ :=
      LiquidityProxy.run_exchangeForward_eq_ok.mp hforward
    have htransitOut : IsOutsider U.proxy.getTechnicalAccountId := by
      change IsOutsider U.getTechnicalAccountId
      rw [htransit]
      exact PoolXyk.isOutsider_generic hT tag data
    have hneTransit : ∀ who : Signer T,
        who.account ≠ U.proxy.getTechnicalAccountId := by
      intro who
      change who.account ≠ U.getTechnicalAccountId
      rw [htransit]
      exact (who.notTechnical _).symm
    obtain ⟨s₁, rfl, hleg⟩ := traded_of_exchangeSingle hM hpools hsender
      htransitOut hfirst
    obtain ⟨s', rfl, hleg'⟩ := traded_of_exchangeSingle hM
      (m := { m with storage := s₁ }) hpools htransitOut hreceiver hsecond
    rw [LiquidityProxy.IsDirect, not_or] at hpath
    exact ⟨s', rfl, hleg.through hleg' hsender hreceiver
      (hneTransit sender) (hneTransit receiver) hne hpath.1 hpath.2
      (paid_twofoldAmount hinput) amount_twofoldAmount⟩

/-- The thousand red peppers are Alice's, the black ones Carol's. -/
theorem proxy_trades_over_pools_sample :
    ∃ s', (Mock.buyPepper.run Mock.twoPools).2 =
        { Mock.twoPools with storage := s' } ∧
      Traded Mock.twoPools.storage s' Mock.alice.account Mock.carol.account
        Mock.redPepper Mock.blackPepper
        (.withDesiredInput (1000 * Mock.unit) 0)
        ⟨992030881494022984740, 5985014985014985013⟩ :=
  proxy_trades_over_pools (U := Mock.setup) Mock.currency_lawful
    Mock.collisionFree rfl
    (by decide +kernel : OnlyPools Mock.twoPools (.empty Mock.dexA))
    (Prod.ext (by decide +kernel : (Mock.buyPepper.run Mock.twoPools).1 =
      .ok ⟨992030881494022984740, 5985014985014985013⟩) rfl)

end DexApi
end SoraParachain

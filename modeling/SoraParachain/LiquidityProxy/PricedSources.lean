import SoraParachain.LiquidityProxy.Trades

/-!
# Sources that trade at a price

Sources that return what a price says trade whenever the limit allows it and the
sender can pay.  What a price may say is bounded by the limits: the least that
sources may give is the limit of an exact input, and they may ask for nothing for
an exact output.  Sources that give the least and take nothing always trade.
-/

namespace SoraParachain
namespace LiquidityProxy

variable {T : Config} {P : ProxyConfig T}

namespace Chain

variable {Market : Type}

def credit (s : Chain T Market) (assetId : T.AssetId) (who : T.AccountId)
    (amount : ℕ) : Chain T Market :=
  { s with free := fun a w =>
      if a = assetId ∧ w = who then s.free a w + amount else s.free a w }

def debit (s : Chain T Market) (assetId : T.AssetId) (who : T.AccountId)
    (amount : ℕ) : Chain T Market :=
  { s with free := fun a w =>
      if a = assetId ∧ w = who then s.free a w - amount else s.free a w }

variable {s : Chain T Market} {assetId : T.AssetId} {who : T.AccountId}
  {amount : ℕ}

@[simp] theorem free_credit_self :
    (s.credit assetId who amount).free assetId who =
      s.free assetId who + amount :=
  if_pos ⟨rfl, rfl⟩

theorem free_credit_of_ne {a : T.AssetId} {w : T.AccountId}
    (h : a ≠ assetId ∨ w ≠ who) :
    (s.credit assetId who amount).free a w = s.free a w :=
  if_neg fun heq => h.elim (fun ha => ha heq.1) fun hw => hw heq.2

@[simp] theorem free_debit_self :
    (s.debit assetId who amount).free assetId who =
      s.free assetId who - amount :=
  if_pos ⟨rfl, rfl⟩

theorem free_debit_of_ne {a : T.AssetId} {w : T.AccountId}
    (h : a ≠ assetId ∨ w ≠ who) :
    (s.debit assetId who amount).free a w = s.free a w :=
  if_neg fun heq => h.elim (fun ha => ha heq.1) fun hw => hw heq.2

end Chain

/-- The limit of an exact input, and nothing for an exact output. -/
def leastOutcome : SwapAmount → SwapOutcome
  | .withDesiredInput _ minAmountOut => ⟨minAmountOut, 0⟩
  | .withDesiredOutput _ _ => ⟨0, 0⟩

theorem leastOutcome_allowed (amount : SwapAmount) :
    amount.Allows (leastOutcome amount) := by
  cases amount with
  | withDesiredInput d m => exact le_rfl
  | withDesiredOutput d m => exact Nat.zero_le m

/-! ## Sources that take nothing -/

def leastSources (P : ProxyConfig T) : Sources P :=
  fun _ receiver _ _ outputAssetId amount => do
    Tx.modify fun s => s.credit outputAssetId receiver
      (amount.bought (leastOutcome amount))
    pure (leastOutcome amount)

variable {kind : SwapAmount → Prop}

theorem run_leastSources {sender receiver : T.AccountId}
    {src : LiquiditySourceId T.DEXId} {inputAssetId outputAssetId : T.AssetId}
    {amount : SwapAmount} {s : ChainOf P} :
    (leastSources P sender receiver src inputAssetId outputAssetId amount).run s =
      (.ok (leastOutcome amount),
        s.credit outputAssetId receiver
          (amount.bought (leastOutcome amount))) := rfl

theorem credits_leastSources : Credits (leastSources P) kind := by
  intro sender receiver src inputAssetId outputAssetId amount s outcome s' _ h
  rw [run_leastSources] at h
  cases h
  exact Chain.free_credit_self

theorem keepsLimits_leastSources : KeepsLimits (leastSources P) kind := by
  intro sender receiver src inputAssetId outputAssetId amount s outcome s' _ h
  rw [run_leastSources] at h
  cases h
  exact leastOutcome_allowed amount

theorem movesOnlyItsAssets_leastSources {who : T.AccountId} :
    MovesOnlyItsAssets (leastSources P) who := by
  intro sender receiver src inputAssetId outputAssetId amount s outcome s' h
    assetId _ hout
  rw [run_leastSources] at h
  cases h
  exact Chain.free_credit_of_ne (.inl hout)

/-! ## Sources with a price -/

instance (amount : SwapAmount) (outcome : SwapOutcome) :
    Decidable (amount.Allows outcome) := by
  cases amount with
  | withDesiredInput d m => exact inferInstanceAs (Decidable (_ ≤ _))
  | withDesiredOutput d m => exact inferInstanceAs (Decidable (_ ≤ _))

def pricedSources (P : ProxyConfig T) (price : SwapAmount → SwapOutcome) :
    Sources P :=
  fun sender receiver _ inputAssetId outputAssetId amount => do
    let s ← Tx.get
    ensure (inputAssetId ≠ outputAssetId ∧ amount.Allows (price amount) ∧
        amount.paid (price amount) ≤ s.free inputAssetId sender)
      (proxyError .calculationError)
    Tx.modify fun s =>
      (s.debit inputAssetId sender (amount.paid (price amount))).credit
        outputAssetId receiver (amount.bought (price amount))
    pure (price amount)

variable {price : SwapAmount → SwapOutcome}

/-- They trade exactly within the limit and with a sender who can pay. -/
theorem run_pricedSources_eq_ok {sender receiver : T.AccountId}
    {src : LiquiditySourceId T.DEXId} {inputAssetId outputAssetId : T.AssetId}
    {amount : SwapAmount} {s s' : ChainOf P} {outcome : SwapOutcome} :
    (pricedSources P price sender receiver src inputAssetId outputAssetId
        amount).run s = (.ok outcome, s') ↔
      (inputAssetId ≠ outputAssetId ∧ amount.Allows (price amount) ∧
        amount.paid (price amount) ≤ s.free inputAssetId sender) ∧
      outcome = price amount ∧
      s' = (s.debit inputAssetId sender (amount.paid (price amount))).credit
        outputAssetId receiver (amount.bought (price amount)) := by
  rw [pricedSources, Tx.run_bind_eq_ok]
  constructor
  · intro h
    obtain ⟨s₀, s₁, hget, h⟩ := h
    cases hget
    obtain ⟨_, s₂, hensure, h⟩ := Tx.run_bind_eq_ok.mp h
    obtain ⟨hcheck, hs₂⟩ := Tx.run_liftM_eq_ok.mp hensure
    subst hs₂
    cases h
    exact ⟨ensure_eq_ok.mp hcheck, rfl, rfl⟩
  · intro h
    obtain ⟨hcheck, houtcome, hs'⟩ := h
    subst houtcome hs'
    refine ⟨s, s, rfl, ?_⟩
    exact Tx.run_bind_eq_ok.mpr
      ⟨(), s, Tx.run_liftM_eq_ok.mpr ⟨ensure_eq_ok.mpr hcheck, rfl⟩, rfl⟩

theorem credits_pricedSources : Credits (pricedSources P price) kind := by
  intro sender receiver src inputAssetId outputAssetId amount s outcome s' _ h
  obtain ⟨hcheck, rfl, rfl⟩ := run_pricedSources_eq_ok.mp h
  rw [Chain.free_credit_self, Chain.free_debit_of_ne (.inl hcheck.1.symm)]

theorem debits_pricedSources : Debits (pricedSources P price) kind := by
  intro sender receiver src inputAssetId outputAssetId amount s outcome s' _ h
  obtain ⟨hcheck, rfl, rfl⟩ := run_pricedSources_eq_ok.mp h
  rw [Chain.free_credit_of_ne (.inl hcheck.1), Chain.free_debit_self]
  exact Nat.sub_add_cancel hcheck.2.2

theorem keepsLimits_pricedSources :
    KeepsLimits (pricedSources P price) kind := by
  intro sender receiver src inputAssetId outputAssetId amount s outcome s' _ h
  obtain ⟨hcheck, rfl, _⟩ := run_pricedSources_eq_ok.mp h
  exact hcheck.2.1

theorem movesOnlyItsAssets_pricedSources {who : T.AccountId} :
    MovesOnlyItsAssets (pricedSources P price) who := by
  intro sender receiver src inputAssetId outputAssetId amount s outcome s' h
    assetId hin hout
  obtain ⟨_, _, rfl⟩ := run_pricedSources_eq_ok.mp h
  rw [Chain.free_credit_of_ne (.inl hout), Chain.free_debit_of_ne (.inl hin)]

theorem movesOnlyItsParties_pricedSources {who : T.AccountId} :
    MovesOnlyItsParties (pricedSources P price) who := by
  intro sender receiver src inputAssetId outputAssetId amount s outcome s' h
  obtain ⟨hcheck, _, rfl⟩ := run_pricedSources_eq_ok.mp h
  constructor
  · intro hne
    rw [Chain.free_credit_of_ne (.inl hcheck.1),
      Chain.free_debit_of_ne (.inr hne)]
  · intro hne
    rw [Chain.free_credit_of_ne (.inr hne),
      Chain.free_debit_of_ne (.inl hcheck.1.symm)]

/-! ## What they return for the parts of an amount -/

/-- The outcomes for the parts of an amount. -/
def leastOutcomes (amount : SwapAmount)
    (distribution : List (LiquiditySourceId T.DEXId × FixedNumber)) :
    List SwapOutcome :=
  distribution.map fun d => leastOutcome (amount.part d.2.bits.toNat)

variable {sender receiver : T.AccountId}
  {inputAssetId outputAssetId : T.AssetId} {amount : SwapAmount}
  {filter : LiquiditySourceFilter T.DEXId}
  {plan : AggregatedSwapOutcome T.DEXId}

theorem sum_amount_leastOutcomes (d m : ℕ)
    (distribution : List (LiquiditySourceId T.DEXId × FixedNumber)) :
    ((leastOutcomes (.withDesiredInput d m) distribution).map
        SwapOutcome.amount).sum =
      flooredSum fixedFormat.scale m
        (distribution.map fun d => d.2.bits.toNat) := by
  rw [leastOutcomes, List.map_map, flooredSum, List.map_map]
  rfl

theorem sum_fee_leastOutcomes (amount : SwapAmount)
    (distribution : List (LiquiditySourceId T.DEXId × FixedNumber)) :
    ((leastOutcomes amount distribution).map SwapOutcome.fee).sum = 0 := by
  rw [leastOutcomes, List.map_map, List.sum_eq_zero_iff]
  intro fee hfee
  obtain ⟨d, -, rfl⟩ := List.mem_map.mp hfee
  cases amount with
  | withDesiredInput d m => rfl
  | withDesiredOutput d m => rfl

theorem sum_amount_leastOutcomes_output (d m : ℕ)
    (distribution : List (LiquiditySourceId T.DEXId × FixedNumber)) :
    ((leastOutcomes (.withDesiredOutput d m) distribution).map
        SwapOutcome.amount).sum = 0 := by
  rw [leastOutcomes, List.map_map, List.sum_eq_zero_iff]
  intro fee hfee
  obtain ⟨d, -, rfl⟩ := List.mem_map.mp hfee
  rfl

/-- Sources that take nothing trade with everybody. -/
theorem exists_trades_leastSources :
    ∀ (distribution : List (LiquiditySourceId T.DEXId × FixedNumber))
      (s : ChainOf P),
      ∃ s', Trades (leastSources P) sender receiver inputAssetId outputAssetId
        amount distribution s (leastOutcomes amount distribution) s' := by
  intro distribution
  induction distribution with
  | nil =>
      intro s
      exact ⟨s, .nil s⟩
  | cons d rest ih =>
      intro s
      obtain ⟨s', hrest⟩ := ih _
      exact ⟨s', .cons run_leastSources hrest⟩

/-- Sources with the least price trade with a sender who can pay all of them. -/
theorem exists_trades_pricedSources (sender receiver : T.AccountId)
    (amount : SwapAmount) (hne : inputAssetId ≠ outputAssetId) :
    ∀ (distribution : List (LiquiditySourceId T.DEXId × FixedNumber))
      (s : ChainOf P),
      amount.totalPaid (distribution.map fun d => d.2.bits.toNat)
          (leastOutcomes amount distribution) ≤ s.free inputAssetId sender →
        ∃ s', Trades (pricedSources P leastOutcome) sender receiver inputAssetId
          outputAssetId amount distribution s
          (leastOutcomes amount distribution) s' := by
  intro distribution
  induction distribution with
  | nil =>
      intro s _
      exact ⟨s, .nil s⟩
  | cons d rest ih =>
      intro s hfunds
      rw [leastOutcomes, List.map_cons, List.map_cons,
        SwapAmount.totalPaid_cons, ← leastOutcomes] at hfunds
      have hdebits : Debits (pricedSources P leastOutcome) (fun _ => True) :=
        debits_pricedSources
      have hfirst :
          (pricedSources P leastOutcome sender receiver d.1 inputAssetId
            outputAssetId (amount.part d.2.bits.toNat)).run s =
              (.ok (leastOutcome (amount.part d.2.bits.toNat)), _) :=
        run_pricedSources_eq_ok.mpr
          ⟨⟨hne, leastOutcome_allowed _, (Nat.le_add_right _ _).trans hfunds⟩,
            rfl, rfl⟩
      have hpaid := hdebits trivial hfirst
      obtain ⟨s', hrest⟩ := ih _
        (Nat.le_of_add_le_add_left (hfunds.trans
          ((Nat.add_comm _ _).trans hpaid).ge))
      exact ⟨s', .cons hfirst hrest⟩

end LiquidityProxy
end SoraParachain

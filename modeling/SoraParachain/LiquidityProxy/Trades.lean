import SoraParachain.LiquidityProxy.Shares

/-!
# What a single exchange does

An exchange hands every source the part of the amount that its share stands for.
The trades follow one after the other, so that what each of them adds to a balance
adds up over all of them.  What the sources are assumed to do is said of one trade
at a time.
-/

namespace SoraParachain

namespace SwapAmount

/-- What a trade costs that returns the given outcome. -/
def paid (amount : SwapAmount) (outcome : SwapOutcome) : ℕ :=
  match amount with
  | .withDesiredInput desiredAmountIn _ => desiredAmountIn
  | .withDesiredOutput _ _ => outcome.amount

/-- What a trade brings that returns the given outcome. -/
def bought (amount : SwapAmount) (outcome : SwapOutcome) : ℕ :=
  match amount with
  | .withDesiredInput _ _ => outcome.amount
  | .withDesiredOutput desiredAmountOut _ => desiredAmountOut

/-- The outcome is within the limit. -/
def Allows (amount : SwapAmount) (outcome : SwapOutcome) : Prop :=
  match amount with
  | .withDesiredInput _ minAmountOut => minAmountOut ≤ outcome.amount
  | .withDesiredOutput _ maxAmountIn => outcome.amount ≤ maxAmountIn

def IsDesiredInput : SwapAmount → Prop
  | .withDesiredInput _ _ => True
  | .withDesiredOutput _ _ => False

/-- What trades with the parts for some shares cost together. -/
def totalPaid (amount : SwapAmount) (shares : List ℕ)
    (outcomes : List SwapOutcome) : ℕ :=
  match amount with
  | .withDesiredInput desiredAmountIn _ =>
      flooredSum fixedFormat.scale desiredAmountIn shares
  | .withDesiredOutput _ _ => (outcomes.map SwapOutcome.amount).sum

/-- What trades with the parts for some shares bring together. -/
def totalBought (amount : SwapAmount) (shares : List ℕ)
    (outcomes : List SwapOutcome) : ℕ :=
  match amount with
  | .withDesiredInput _ _ => (outcomes.map SwapOutcome.amount).sum
  | .withDesiredOutput desiredAmountOut _ =>
      flooredSum fixedFormat.scale desiredAmountOut shares

/-- The outcomes together are within the limits of the parts. -/
def AllowsAll (amount : SwapAmount) (shares : List ℕ)
    (outcomes : List SwapOutcome) : Prop :=
  match amount with
  | .withDesiredInput _ minAmountOut =>
      flooredSum fixedFormat.scale minAmountOut shares ≤
        (outcomes.map SwapOutcome.amount).sum
  | .withDesiredOutput _ maxAmountIn =>
      (outcomes.map SwapOutcome.amount).sum ≤
        flooredSum fixedFormat.scale maxAmountIn shares

variable {amount : SwapAmount} {share : ℕ} {shares : List ℕ}
  {outcome : SwapOutcome} {outcomes : List SwapOutcome}

@[simp] theorem totalPaid_nil : amount.totalPaid [] [] = 0 := by
  cases amount <;> rfl

@[simp] theorem totalBought_nil : amount.totalBought [] [] = 0 := by
  cases amount <;> rfl

theorem allowsAll_nil : amount.AllowsAll [] [] := by
  cases amount <;> exact le_rfl

@[simp] theorem totalPaid_cons :
    amount.totalPaid (share :: shares) (outcome :: outcomes) =
      (amount.part share).paid outcome + amount.totalPaid shares outcomes := by
  cases amount with
  | withDesiredInput d m => exact flooredSum_cons
  | withDesiredOutput d m => rfl

@[simp] theorem totalBought_cons :
    amount.totalBought (share :: shares) (outcome :: outcomes) =
      (amount.part share).bought outcome +
        amount.totalBought shares outcomes := by
  cases amount with
  | withDesiredInput d m => rfl
  | withDesiredOutput d m => exact flooredSum_cons

theorem AllowsAll.cons (h : (amount.part share).Allows outcome)
    (hrest : amount.AllowsAll shares outcomes) :
    amount.AllowsAll (share :: shares) (outcome :: outcomes) := by
  cases amount with
  | withDesiredInput d m =>
      rw [AllowsAll, flooredSum_cons]
      exact Nat.add_le_add h hrest
  | withDesiredOutput d m =>
      rw [AllowsAll, flooredSum_cons]
      exact Nat.add_le_add h hrest

end SwapAmount

namespace LiquidityProxy

variable {T : Config} {P : ProxyConfig T}

/-! ## What sources are assumed to do -/

/-- A trade credits its receiver with what it brings. -/
def Credits (E : Sources P) (kind : SwapAmount → Prop) : Prop :=
  ∀ ⦃sender receiver src inputAssetId outputAssetId amount s outcome s'⦄,
    kind amount →
      (E sender receiver src inputAssetId outputAssetId amount).run s =
          (.ok outcome, s') →
        s'.free outputAssetId receiver =
          s.free outputAssetId receiver + amount.bought outcome

/-- A trade debits its sender with what it costs. -/
def Debits (E : Sources P) (kind : SwapAmount → Prop) : Prop :=
  ∀ ⦃sender receiver src inputAssetId outputAssetId amount s outcome s'⦄,
    kind amount →
      (E sender receiver src inputAssetId outputAssetId amount).run s =
          (.ok outcome, s') →
        s'.free inputAssetId sender + amount.paid outcome =
          s.free inputAssetId sender

/-- A trade keeps the limit that it is given. -/
def KeepsLimits (E : Sources P) (kind : SwapAmount → Prop) : Prop :=
  ∀ ⦃sender receiver src inputAssetId outputAssetId amount s outcome s'⦄,
    kind amount →
      (E sender receiver src inputAssetId outputAssetId amount).run s =
          (.ok outcome, s') →
        amount.Allows outcome

/-- A trade moves an account in no assets but its own two. -/
def MovesOnlyItsAssets (E : Sources P) (who : T.AccountId) : Prop :=
  ∀ ⦃sender receiver src inputAssetId outputAssetId amount s outcome s'⦄,
    (E sender receiver src inputAssetId outputAssetId amount).run s =
        (.ok outcome, s') →
      ∀ ⦃assetId⦄, assetId ≠ inputAssetId → assetId ≠ outputAssetId →
        s'.free assetId who = s.free assetId who

/-- A trade takes from an account only as its sender and gives to it only as its
receiver. -/
def MovesOnlyItsParties (E : Sources P) (who : T.AccountId) : Prop :=
  ∀ ⦃sender receiver src inputAssetId outputAssetId amount s outcome s'⦄,
    (E sender receiver src inputAssetId outputAssetId amount).run s =
        (.ok outcome, s') →
      (who ≠ sender → s'.free inputAssetId who = s.free inputAssetId who) ∧
        (who ≠ receiver →
          s'.free outputAssetId who = s.free outputAssetId who)

theorem Credits.of_all {E : Sources P} {kind : SwapAmount → Prop}
    (h : Credits E fun _ => True) :
    Credits E kind := by
  intro sender receiver src inputAssetId outputAssetId amount s outcome s' _
  exact h trivial

theorem Debits.of_all {E : Sources P} {kind : SwapAmount → Prop}
    (h : Debits E fun _ => True) :
    Debits E kind := by
  intro sender receiver src inputAssetId outputAssetId amount s outcome s' _
  exact h trivial

/-! ## Trades in a row -/

variable {E : Sources P} {sender receiver : T.AccountId}
  {inputAssetId outputAssetId : T.AssetId} {amount : SwapAmount}

/-- Successful trades with the parts of an amount, one after the other. -/
inductive Trades (E : Sources P) (sender receiver : T.AccountId)
    (inputAssetId outputAssetId : T.AssetId) (amount : SwapAmount) :
    List (LiquiditySourceId T.DEXId × FixedNumber) → ChainOf P →
      List SwapOutcome → ChainOf P → Prop
  | nil (s : ChainOf P) :
      Trades E sender receiver inputAssetId outputAssetId amount [] s [] s
  | cons {d rest s s₁ s' outcome outcomes}
      (first : (E sender receiver d.1 inputAssetId outputAssetId
        (amount.part d.2.bits.toNat)).run s = (.ok outcome, s₁))
      (others : Trades E sender receiver inputAssetId outputAssetId amount rest
        s₁ outcomes s') :
      Trades E sender receiver inputAssetId outputAssetId amount (d :: rest) s
        (outcome :: outcomes) s'

/-- Handing out a share is a trade with its part. -/
theorem run_exchangeShare {fx : FixedSwapAmount}
    {d : LiquiditySourceId T.DEXId × FixedNumber} {s : ChainOf P}
    (hfx : FixedSwapAmount.tryFrom amount = some fx)
    (hnonneg : 0 ≤ d.2.bits) (hle : d.2.bits ≤ fixedFormat.scale) :
    (exchangeShare E sender receiver inputAssetId outputAssetId fx d).run s =
      (E sender receiver d.1 inputAssetId outputAssetId
        (amount.part d.2.bits.toNat)).run s := by
  have hp : d.2.bits.toNat ≤ fixedFormat.scale := Int.toNat_le.mpr hle
  obtain ⟨product, hmul, hpart⟩ := FixedSwapAmount.exists_mul_tryFrom hfx
    (Int.toNat_of_nonneg hnonneg).symm hp
  have hproduct : unwrap (fx.mul d.2).toOption = .ok product := by
    rw [unwrap_eq_ok, Tx.toOption_eq_some]
    exact hmul
  have hinto : okOr (proxyError .calculationError) product.tryInto =
      .ok (amount.part d.2.bits.toNat) := by
    rw [okOr_eq_ok]
    exact hpart
  rw [exchangeShare,
    Tx.run_bind_of_ok (Tx.run_liftM_eq_ok.mpr ⟨hproduct, rfl⟩),
    Tx.run_bind_of_ok (Tx.run_liftM_eq_ok.mpr ⟨hinto, rfl⟩)]

/-- Handing out shares is trading with their parts in order. -/
theorem run_exchangeShares_eq_ok {fx : FixedSwapAmount}
    (hfx : FixedSwapAmount.tryFrom amount = some fx) :
    ∀ {distribution : List (LiquiditySourceId T.DEXId × FixedNumber)}
      {s s' : ChainOf P} {outcomes : List SwapOutcome},
      (∀ d ∈ distribution, 0 ≤ d.2.bits ∧ d.2.bits ≤ fixedFormat.scale) →
        ((exchangeShares E sender receiver inputAssetId outputAssetId fx
            distribution).run s = (.ok outcomes, s') ↔
          Trades E sender receiver inputAssetId outputAssetId amount
            distribution s outcomes s') := by
  intro distribution
  induction distribution with
  | nil =>
      intro s s' outcomes _
      constructor
      · intro h
        cases h
        exact .nil s
      · intro h
        cases h
        rfl
  | cons d rest ih =>
      intro s s' outcomes hshares
      have hd := hshares d List.mem_cons_self
      have hrest := fun d' hd' => hshares d' (List.mem_cons_of_mem d hd')
      rw [exchangeShares, Tx.run_bind_eq_ok]
      constructor
      · intro h
        obtain ⟨outcome, s₁, hfirst, h⟩ := h
        obtain ⟨others, s₂, hothers, h⟩ := Tx.run_bind_eq_ok.mp h
        cases h
        rw [run_exchangeShare hfx hd.1 hd.2] at hfirst
        exact .cons hfirst ((ih hrest).mp hothers)
      · intro h
        cases h with
        | cons first others =>
            rw [← run_exchangeShare hfx hd.1 hd.2] at first
            refine ⟨_, _, first, ?_⟩
            exact Tx.run_bind_eq_ok.mpr ⟨_, _, (ih hrest).mpr others, rfl⟩

namespace Trades

variable {kind : SwapAmount → Prop}
  {distribution : List (LiquiditySourceId T.DEXId × FixedNumber)}
  {s s' : ChainOf P} {outcomes : List SwapOutcome}

/-- The receiver is credited with what all trades bring. -/
theorem credited
    (h : Trades E sender receiver inputAssetId outputAssetId amount
      distribution s outcomes s')
    (hE : Credits E kind) (hkind : ∀ p, kind (amount.part p)) :
    s'.free outputAssetId receiver = s.free outputAssetId receiver +
      amount.totalBought (distribution.map fun d => d.2.bits.toNat)
        outcomes := by
  induction h with
  | nil s => simp
  | cons first others ih =>
      have hfirst := hE (hkind _) first
      rw [ih, hfirst, List.map_cons, SwapAmount.totalBought_cons,
        Nat.add_assoc]

/-- The sender is debited with what all trades cost. -/
theorem debited
    (h : Trades E sender receiver inputAssetId outputAssetId amount
      distribution s outcomes s')
    (hE : Debits E kind) (hkind : ∀ p, kind (amount.part p)) :
    s'.free inputAssetId sender +
        amount.totalPaid (distribution.map fun d => d.2.bits.toNat)
          outcomes =
      s.free inputAssetId sender := by
  induction h with
  | nil s => simp
  | cons first others ih =>
      have hfirst := hE (hkind _) first
      rw [← hfirst, ← ih, List.map_cons, SwapAmount.totalPaid_cons]
      ac_rfl

theorem allowsAll
    (h : Trades E sender receiver inputAssetId outputAssetId amount
      distribution s outcomes s')
    (hE : KeepsLimits E kind) (hkind : ∀ p, kind (amount.part p)) :
    amount.AllowsAll (distribution.map fun d => d.2.bits.toNat) outcomes := by
  induction h with
  | nil s => exact SwapAmount.allowsAll_nil
  | cons first others ih =>
      exact SwapAmount.AllowsAll.cons (hE (hkind _) first) ih

theorem free_of_ne {who : T.AccountId} (hE : MovesOnlyItsAssets E who)
    (h : Trades E sender receiver inputAssetId outputAssetId amount
      distribution s outcomes s')
    {assetId : T.AssetId} (hin : assetId ≠ inputAssetId)
    (hout : assetId ≠ outputAssetId) :
    s'.free assetId who = s.free assetId who := by
  induction h with
  | nil s => rfl
  | cons first others ih =>
      rw [ih]
      exact hE first hin hout

theorem free_of_not_party {who : T.AccountId} (hE : MovesOnlyItsParties E who)
    (h : Trades E sender receiver inputAssetId outputAssetId amount
      distribution s outcomes s') :
    (who ≠ sender → s'.free inputAssetId who = s.free inputAssetId who) ∧
      (who ≠ receiver →
        s'.free outputAssetId who = s.free outputAssetId who) := by
  induction h with
  | nil s => exact ⟨fun _ => rfl, fun _ => rfl⟩
  | cons first others ih =>
      constructor
      · intro hne
        rw [ih.1 hne]
        exact (hE first).1 hne
      · intro hne
        rw [ih.2 hne]
        exact (hE first).2 hne

/-- Sources that agree on the trades make the same trades. -/
theorem congr {E' : Sources P}
    (hE : ∀ src part, E' sender receiver src inputAssetId outputAssetId part =
      E sender receiver src inputAssetId outputAssetId part)
    (h : Trades E sender receiver inputAssetId outputAssetId amount
      distribution s outcomes s') :
    Trades E' sender receiver inputAssetId outputAssetId amount distribution s
      outcomes s' := by
  induction h with
  | nil s => exact .nil s
  | cons first others ih =>
      rw [← hE] at first
      exact .cons first ih

end Trades

/-! ## A single exchange -/

theorem exists_holds_of_foldl_add {balances : List ℕ} {acc : FixedWrapper}
    {z : ℤ}
    (h : (balances.foldl (fun acc x => acc + FixedWrapper.ofBalance x)
      acc).Holds z) :
    ∃ a, acc.Holds a := by
  induction balances generalizing acc with
  | nil => exact ⟨z, h⟩
  | cons x rest ih =>
      obtain ⟨a, ha⟩ := ih h
      obtain ⟨b, _, hb, -⟩ := FixedWrapper.holds_add.mp ha
      exact ⟨b, hb⟩

theorem holds_foldl_add {balances : List ℕ} {acc : FixedWrapper} {a n : ℕ}
    (hacc : acc.Holds a) :
    (balances.foldl (fun acc x => acc + FixedWrapper.ofBalance x)
        acc).Holds n ↔
      n = a + balances.sum ∧ a + balances.sum < 2 ^ 127 := by
  induction balances generalizing acc a with
  | nil =>
      rw [List.foldl_nil, List.sum_nil, Nat.add_zero]
      constructor
      · intro h
        have hn := Int.ofNat_inj.mp (h.unique hacc)
        exact ⟨hn, hacc.lt⟩
      · intro h
        rw [h.1]
        exact hacc
  | cons x rest ih =>
      rw [List.foldl_cons, List.sum_cons, ← Nat.add_assoc]
      by_cases hx : a + x < 2 ^ 127
      · have hx' : x < 2 ^ 127 := (Nat.le_add_left x a).trans_lt hx
        have hxholds := FixedWrapper.holds_ofBalance.mpr ⟨rfl, hx'⟩
        exact ih ((FixedWrapper.holds_add_nat hacc hxholds).mpr ⟨rfl, hx⟩)
      · constructor
        · intro h
          obtain ⟨z, hz⟩ := exists_holds_of_foldl_add h
          obtain ⟨_, y, _, hy, -, -⟩ := FixedWrapper.holds_add.mp hz
          have hy' := FixedWrapper.holds_ofBalance.mp hy
          exact absurd ((FixedWrapper.holds_add_nat hacc
            (FixedWrapper.holds_ofBalance.mpr ⟨rfl, hy'.2⟩)).mp hz).2 hx
        · intro h
          exact absurd ((Nat.le_add_right _ _).trans_lt h.2) hx

theorem sumBalances_eq_ok {balances : List ℕ} {n : ℕ} :
    sumBalances balances = .ok n ↔
      n = balances.sum ∧ balances.sum < 2 ^ 127 := by
  have hzero : (FixedWrapper.ofBalance 0).Holds (0 : ℕ) :=
    FixedWrapper.holds_ofBalance.mpr ⟨rfl, by decide⟩
  rw [sumBalances, calculated_eq_ok, FixedWrapper.tryIntoBalance_eq_ok,
    holds_foldl_add hzero, Nat.zero_add]

/-- The shares that are handed out of a plan are parts of the whole. -/
theorem positiveShares_bits {s : ChainOf P}
    {filter : LiquiditySourceFilter T.DEXId}
    {plan : AggregatedSwapOutcome T.DEXId}
    (h : quoteSingle P s inputAssetId outputAssetId amount filter = .ok plan)
    {d : LiquiditySourceId T.DEXId × FixedNumber}
    (hd : d ∈ positiveShares plan.distribution) :
    0 ≤ d.2.bits ∧ d.2.bits ≤ fixedFormat.scale := by
  have hpos : 0 < d.2.bits := of_decide_eq_true (List.mem_filter.mp hd).2
  have hmem : d.2.bits.toNat ∈ shareBits plan.distribution :=
    List.mem_map.mpr ⟨d, hd, rfl⟩
  have hle := (List.le_sum_of_mem hmem).trans (sum_shareBits_quoteSingle h)
  exact ⟨hpos.le, Int.toNat_le.mp hle⟩

/-- A single exchange succeeds exactly when the amount fits, a plan is found, all
its trades succeed and what they return adds up. -/
theorem run_exchangeSingle_eq_ok {filter : LiquiditySourceFilter T.DEXId}
    {s s' : ChainOf P} {outcome : SwapOutcome} :
    (exchangeSingle P E sender receiver inputAssetId outputAssetId amount
        filter).run s = (.ok outcome, s') ↔
      amount.Fits ∧ ∃ plan outcomes,
        quoteSingle P s inputAssetId outputAssetId amount filter = .ok plan ∧
        Trades E sender receiver inputAssetId outputAssetId amount
          (positiveShares plan.distribution) s outcomes s' ∧
        (outcomes.map SwapOutcome.amount).sum < 2 ^ 127 ∧
        (outcomes.map SwapOutcome.fee).sum < 2 ^ 127 ∧
        outcome = ⟨(outcomes.map SwapOutcome.amount).sum,
          (outcomes.map SwapOutcome.fee).sum⟩ := by
  rw [exchangeSingle, Tx.run_withTransaction_eq_ok, Tx.run_bind_eq_ok]
  constructor
  · intro h
    obtain ⟨fx, s₀, hconvert, h⟩ := h
    obtain ⟨hsome, hs₀⟩ := Tx.run_liftM_eq_ok.mp hconvert
    subst hs₀
    have hfx := okOr_eq_ok.mp hsome
    obtain ⟨plan, s₁, hread, h⟩ := Tx.run_bind_eq_ok.mp h
    obtain ⟨hplan, hs₁⟩ := Tx.run_reads_eq_ok.mp hread
    subst hs₁
    obtain ⟨outcomes, s₂, htrades, h⟩ := Tx.run_bind_eq_ok.mp h
    obtain ⟨total, s₃, hsum, h⟩ := Tx.run_bind_eq_ok.mp h
    obtain ⟨hsumok, hs₃⟩ := Tx.run_liftM_eq_ok.mp hsum
    subst hs₃
    obtain ⟨fee, s₄, hfees, h⟩ := Tx.run_bind_eq_ok.mp h
    obtain ⟨hfeesok, hs₄⟩ := Tx.run_liftM_eq_ok.mp hfees
    subst hs₄
    obtain ⟨htotal, htotallt⟩ := sumBalances_eq_ok.mp hsumok
    obtain ⟨hfee, hfeelt⟩ := sumBalances_eq_ok.mp hfeesok
    rw [run_exchangeShares_eq_ok hfx fun d => positiveShares_bits hplan]
      at htrades
    subst htotal hfee
    cases h
    exact ⟨FixedSwapAmount.exists_tryFrom_iff.mp ⟨fx, hfx⟩, plan, outcomes,
      hplan, htrades, htotallt, hfeelt, rfl⟩
  · intro h
    obtain ⟨hfits, plan, outcomes, hplan, htrades, htotal, hfee, rfl⟩ := h
    obtain ⟨fx, hfx⟩ := FixedSwapAmount.exists_tryFrom_iff.mpr hfits
    rw [← run_exchangeShares_eq_ok hfx fun d => positiveShares_bits hplan]
      at htrades
    refine ⟨fx, s, Tx.run_liftM_eq_ok.mpr ⟨okOr_eq_ok.mpr hfx, rfl⟩, ?_⟩
    refine Tx.run_bind_eq_ok.mpr
      ⟨plan, s, Tx.run_reads_eq_ok.mpr ⟨hplan, rfl⟩, ?_⟩
    rw [Tx.run_bind_of_ok htrades,
      Tx.run_bind_of_ok (Tx.run_liftM_eq_ok.mpr
        ⟨sumBalances_eq_ok.mpr ⟨rfl, htotal⟩, rfl⟩),
      Tx.run_bind_of_ok (Tx.run_liftM_eq_ok.mpr
        ⟨sumBalances_eq_ok.mpr ⟨rfl, hfee⟩, rfl⟩)]
    rfl

section Accounts

variable {desiredAmountIn minAmountOut : ℕ}
  {filter : LiquiditySourceFilter T.DEXId} {s s' : ChainOf P}
  {outcome : SwapOutcome}

/-- A single exchange of an exact input credits what it returns. -/
theorem exchangeSingle_credits (hE : Credits E SwapAmount.IsDesiredInput)
    (h : (exchangeSingle P E sender receiver inputAssetId outputAssetId
      (.withDesiredInput desiredAmountIn minAmountOut) filter).run s =
        (.ok outcome, s')) :
    s'.free outputAssetId receiver =
      s.free outputAssetId receiver + outcome.amount := by
  obtain ⟨-, plan, outcomes, -, htrades, -, -, rfl⟩ :=
    run_exchangeSingle_eq_ok.mp h
  exact htrades.credited hE fun _ => trivial

/-- A single exchange of an exact input debits the parts of the input. -/
theorem exchangeSingle_debits (hE : Debits E SwapAmount.IsDesiredInput)
    (h : (exchangeSingle P E sender receiver inputAssetId outputAssetId
      (.withDesiredInput desiredAmountIn minAmountOut) filter).run s =
        (.ok outcome, s')) :
    ∃ plan,
      quoteSingle P s inputAssetId outputAssetId
        (.withDesiredInput desiredAmountIn minAmountOut) filter = .ok plan ∧
      s'.free inputAssetId sender +
          flooredSum fixedFormat.scale desiredAmountIn
            (shareBits plan.distribution) =
        s.free inputAssetId sender := by
  obtain ⟨-, plan, outcomes, hplan, htrades, -, -, rfl⟩ :=
    run_exchangeSingle_eq_ok.mp h
  exact ⟨plan, hplan, htrades.debited hE fun _ => trivial⟩

/-- The parts of the minimum bound what a single exchange returns. -/
theorem exchangeSingle_keepsLimits
    (hE : KeepsLimits E SwapAmount.IsDesiredInput)
    (h : (exchangeSingle P E sender receiver inputAssetId outputAssetId
      (.withDesiredInput desiredAmountIn minAmountOut) filter).run s =
        (.ok outcome, s')) :
    ∃ plan,
      quoteSingle P s inputAssetId outputAssetId
        (.withDesiredInput desiredAmountIn minAmountOut) filter = .ok plan ∧
      flooredSum fixedFormat.scale minAmountOut (shareBits plan.distribution) ≤
        outcome.amount := by
  obtain ⟨-, plan, outcomes, hplan, htrades, -, -, rfl⟩ :=
    run_exchangeSingle_eq_ok.mp h
  exact ⟨plan, hplan, htrades.allowsAll hE fun _ => trivial⟩

theorem exchangeSingle_free_of_ne {who : T.AccountId} {amount : SwapAmount}
    (hE : MovesOnlyItsAssets E who)
    (h : (exchangeSingle P E sender receiver inputAssetId outputAssetId amount
      filter).run s = (.ok outcome, s'))
    {assetId : T.AssetId} (hin : assetId ≠ inputAssetId)
    (hout : assetId ≠ outputAssetId) :
    s'.free assetId who = s.free assetId who := by
  obtain ⟨-, plan, outcomes, -, htrades, -⟩ := run_exchangeSingle_eq_ok.mp h
  exact htrades.free_of_ne hE hin hout

theorem exchangeSingle_free_of_not_party {who : T.AccountId}
    {amount : SwapAmount} (hE : MovesOnlyItsParties E who)
    (h : (exchangeSingle P E sender receiver inputAssetId outputAssetId amount
      filter).run s = (.ok outcome, s')) :
    (who ≠ sender → s'.free inputAssetId who = s.free inputAssetId who) ∧
      (who ≠ receiver →
        s'.free outputAssetId who = s.free outputAssetId who) := by
  obtain ⟨-, plan, outcomes, -, htrades, -⟩ := run_exchangeSingle_eq_ok.mp h
  exact htrades.free_of_not_party hE

end Accounts

end LiquidityProxy
end SoraParachain

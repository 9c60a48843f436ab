import SoraParachain.PoolXyk.DepositLiquidity
import SoraParachain.PoolXyk.PairSwapSpec

/-!
# What an accepted deposit is and what it settles

A deposit is accepted on terms that depend on whether the pool is empty.  Of
the ways to name the amounts of a deposit into a pool with reserves only the
two ranges ever lead to acceptance: a desired liquidity divides by the initial
amount, which is zero there.
-/

namespace SoraParachain
namespace PoolXyk

variable {T : Config}

open Technical (techAccountIdToAccountId IsRegistered)

namespace DepositLiquidityAction

/-- What validation decides about a deposit. -/
structure Terms where
  fst : Bounds
  snd : Bounds
  amountA : ℕ
  amountB : ℕ
  minted : ℕ

def poolRepr (self : DepositLiquidityAction T) : T.AccountId :=
  techAccountIdToAccountId self.poolAccount

/-- The account that receives the marker tokens when `w` signs. -/
def receiver (self : DepositLiquidityAction T) (w : T.AccountId) :
    T.AccountId :=
  self.receiverAccount.getD w

/-- The marker asset that the action names. -/
def marker (self : DepositLiquidityAction T) : T.AssetId :=
  T.techAssetIdInto self.destination.asset

/-- The minimum liquidity of the action. -/
def lockedLiquidity (self : DepositLiquidityAction T) : ℕ :=
  self.minLiquidity.getD PoolXyk.minLiquidity

/-- The action that validation hands on. -/
def completed (self : DepositLiquidityAction T) (w : T.AccountId)
    (t : Terms) : DepositLiquidityAction T where
  clientAccount := some w
  receiverAccount := some (self.receiver w)
  poolAccount := self.poolAccount
  source := ⟨⟨self.source.fst.asset, t.fst⟩, ⟨self.source.snd.asset, t.snd⟩⟩
  destination := ⟨self.destination.asset, .calculated t.minted⟩
  minLiquidity := some self.lockedLiquidity

/-- The terms of a deposit into an empty pool. -/
structure FirstDeposit (a : DepositLiquidityAction T) (t : Terms)
    (reserveA reserveB : ℕ) : Prop where
  empty : reserveA = 0 ∧ reserveB = 0
  fst : t.fst = a.source.fst.amount
  snd : t.snd = a.source.snd.amount
  amountA : a.source.fst.amount.toOption = some t.amountA
  amountB : a.source.snd.amount.toOption = some t.amountB
  liquidity : ∃ k, poolLiquidity t.amountA t.amountB = .ok k ∧
    (∀ k', a.destination.amount = .desired k' → k' = k) ∧
    ¬(a.lockedLiquidity > k ∧ k < a.lockedLiquidity - k) ∧
    t.minted = wrappingSub k a.lockedLiquidity

/-- The terms of a deposit into a pool with reserves. -/
structure LaterDeposit (a : DepositLiquidityAction T) (t : Terms)
    (reserveA reserveB supply : ℕ) : Prop where
  reserves : 0 < reserveA ∧ 0 < reserveB
  fst : t.fst = .calculated t.amountA
  snd : t.snd = .calculated t.amountB
  ranges : ∃ xdes xmin ydes ymin,
    a.source.fst.amount = .rangeFromDesiredToMin xdes xmin ∧
    a.source.snd.amount = .rangeFromDesiredToMin ydes ymin ∧
    xdes ≥ xmin ∧ ydes ≥ ymin ∧
    calcDepositLiquidity1 supply reserveA reserveB xdes ydes xmin ymin =
      .ok (t.amountA, t.amountB, t.minted)
  notDesired : ∀ k, a.destination.amount ≠ .desired k
  liquidity : ∃ k, poolLiquidity reserveA reserveB = .ok k ∧
    ¬(a.lockedLiquidity > k ∧ t.minted < a.lockedLiquidity - k)

/-- The amounts and the marker tokens that suit the balances of the pool. -/
def AmountsAgreed (s : Storage T) (a : DepositLiquidityAction T)
    (t : Terms) : Prop :=
  FirstDeposit a t (s.free a.source.fst.asset a.poolRepr)
    (s.free a.source.snd.asset a.poolRepr) ∨
  Assets.Exists s a.marker ∧
  LaterDeposit a t (s.free a.source.fst.asset a.poolRepr)
    (s.free a.source.snd.asset a.poolRepr) (s.issuance a.marker)

/-- The action agrees to the terms in a state, signed by `w`. -/
structure Agreed (s : Storage T) (a : DepositLiquidityAction T)
    (w : T.AccountId) (t : Terms) : Prop where
  client : a.clientAccount = none ∨ a.clientAccount = some w
  registered : IsRegistered s a.poolAccount
  marker : T.techAssetIdTryFrom (markingAssetId a.poolAccount) =
    some a.destination.asset
  fstExists : Assets.Exists s a.source.fst.asset
  sndExists : Assets.Exists s a.source.snd.asset
  signerPositive : 0 < s.free a.source.fst.asset w ∧
    0 < s.free a.source.snd.asset w
  amounts : AmountsAgreed s a t
  lockedLiquidity : PoolXyk.minLiquidity ≤ a.lockedLiquidity
  covered : t.amountA ≤ s.free a.source.fst.asset w ∧
    t.amountB ≤ s.free a.source.snd.asset w

/-! ## The parts of the validation -/

theorem resolveAccounts_eq_ok {self act : DepositLiquidityAction T}
    {w : T.AccountId} :
    self.resolveAccounts false (some w) = .ok act ↔
      (self.clientAccount = none ∨ self.clientAccount = some w) ∧
        act =
          { self with
            clientAccount := some w
            receiverAccount := some (self.receiver w) } := by
  rw [resolveAccounts, if_neg Bool.false_ne_true]
  exact resolveClient_bind_eq_ok

theorem sourceBalances_eq_ok {s : Storage T}
    {self : DepositLiquidityAction T} {w : T.AccountId}
    {b : Option (ℕ × ℕ)} :
    self.sourceBalances s false (some w) = .ok b ↔
      Assets.Exists s self.source.fst.asset ∧
        Assets.Exists s self.source.snd.asset ∧
        (0 < s.free self.source.fst.asset w ∧
          0 < s.free self.source.snd.asset w) ∧
        b = some (s.free self.source.fst.asset w,
          s.free self.source.snd.asset w) := by
  simp only [sourceBalances, Bool.false_eq_true, if_false,
    Tx.except_bind_eq_ok, unwrap_eq_ok, Option.some.injEq, exists_eq_left',
    Assets.freeBalance_eq_ok, ensure_eq_ok]
  constructor
  · rintro ⟨_, ⟨hA, rfl⟩, _, ⟨hB, rfl⟩, _, hpos, h⟩
    cases h
    exact ⟨hA, hB, by omega, rfl⟩
  · rintro ⟨hA, hB, hpos, rfl⟩
    exact ⟨_, ⟨hA, rfl⟩, _, ⟨hB, rfl⟩, (), by omega, rfl⟩

theorem isPoolEmpty_eq_ok {a b : ℕ} {empty : Bool} :
    isPoolEmpty a b = .ok empty ↔
      (a = 0 ∧ b = 0) ∧ empty = true ∨
        (0 < a ∧ 0 < b) ∧ empty = false := by
  unfold isPoolEmpty
  split_ifs with h₁ h₂ h₃
  · have hpos : ¬(0 < a ∧ 0 < b) := by omega
    simp [h₁, eq_comm]
  · have hpos : ¬(0 < a ∧ 0 < b) := by omega
    simp [h₁, hpos]
  · have hpos : ¬(0 < a ∧ 0 < b) := by omega
    simp [h₁, hpos]
  · have hpos : 0 < a ∧ 0 < b := by omega
    simp [h₁, hpos, eq_comm]

theorem resolveMinLiquidity_eq_ok {m : Option ℕ} {n : ℕ} :
    resolveMinLiquidity m = .ok n ↔
      n = m.getD PoolXyk.minLiquidity ∧ PoolXyk.minLiquidity ≤ n := by
  unfold resolveMinLiquidity
  cases m with
  | none =>
      simp only [Except.ok.injEq, Option.getD_none]
      constructor
      · rintro rfl
        exact ⟨rfl, le_rfl⟩
      · exact fun h => h.1.symm
  | some m =>
      simp only [Tx.except_bind_eq_ok, ensure_eq_ok, not_lt,
        Option.getD_some]
      constructor
      · rintro ⟨_, hle, h⟩
        cases h
        exact ⟨rfl, hle⟩
      · rintro ⟨rfl, hle⟩
        exact ⟨(), hle, rfl⟩

theorem ensureAmountsCovered_eq_ok {self : DepositLiquidityAction T}
    {m k : ℕ} {balances : ℕ × ℕ} {u : Unit} :
    self.ensureAmountsCovered false m (some k) (some balances) = .ok u ↔
      ∃ amountA amountB minted,
        self.source.fst.amount.toOption = some amountA ∧
        self.source.snd.amount.toOption = some amountB ∧
        self.destination.amount.toOption = some minted ∧
        ¬(m > k ∧ minted < m - k) ∧
        (amountA ≤ balances.1 ∧ amountB ≤ balances.2) := by
  simp only [ensureAmountsCovered, Bool.false_eq_true, if_false,
    Tx.except_bind_eq_ok, Bounds.unwrap_eq_ok, unwrap_eq_ok,
    Option.some.injEq, exists_eq_left', ensure_eq_ok, not_lt]
  constructor
  · rintro ⟨a, ha, b, hb, m, hm, _, hk, _, hA, hB⟩
    exact ⟨a, b, m, ha, hb, hm, hk, hA, hB⟩
  · rintro ⟨a, b, m, ha, hb, hm, hk, hA, hB⟩
    exact ⟨a, ha, b, hb, m, hm, (), hk, (), hA, hB⟩

/-- A quotient by zero spoils every amount derived from it. -/
theorem toBalance_div_div_zero_ne_ok {a k n : ℕ} :
    toBalance (FixedWrapper.ofBalance a /
      (FixedWrapper.ofBalance k / FixedWrapper.ofBalance 0)) ≠ .ok n := by
  intro h
  rw [toBalance_eq_ok] at h
  obtain ⟨-, q, hq⟩ := FixedWrapper.Holds.of_div h
  obtain ⟨_, y, -, hy, hne, -⟩ := FixedWrapper.holds_div.mp hq
  exact hne (FixedWrapper.holds_ofBalance.mp hy).1

/-- Only two ranges lead to amounts. -/
theorem decideAmounts_eq_ok {s : Storage T} {self : DepositLiquidityAction T}
    {k balanceBp balanceTp : ℕ} {x y z : Bounds} :
    self.decideAmounts s 0 k balanceBp balanceTp = .ok (x, y, z) ↔
      ∃ xdes xmin ydes ymin a b m,
        self.source.fst.amount = .rangeFromDesiredToMin xdes xmin ∧
        self.source.snd.amount = .rangeFromDesiredToMin ydes ymin ∧
        (∀ k, self.destination.amount ≠ .desired k) ∧
        (xdes ≥ xmin ∧ ydes ≥ ymin) ∧ Assets.Exists s self.marker ∧
        calcDepositLiquidity1 (s.issuance self.marker) balanceBp balanceTp
          xdes ydes xmin ymin = .ok (a, b, m) ∧
        x = .calculated a ∧ y = .calculated b ∧ z = .calculated m := by
  unfold decideAmounts
  constructor
  · intro h
    split at h
    · obtain ⟨_, -, h⟩ := Tx.except_bind_eq_ok.mp h
      obtain ⟨recomX, hx, -⟩ := Tx.except_bind_eq_ok.mp h
      exact absurd hx toBalance_div_div_zero_ne_ok
    · rename_i hfst hsnd hdest
      obtain ⟨_, hranges, h⟩ := Tx.except_bind_eq_ok.mp h
      obtain ⟨_, hiss, h⟩ := Tx.except_bind_eq_ok.mp h
      obtain ⟨⟨a, b, m⟩, hcalc, h⟩ := Tx.except_bind_eq_ok.mp h
      cases h
      obtain ⟨hex, rfl⟩ := Assets.totalIssuance_eq_ok.mp hiss
      exact ⟨_, _, _, _, a, b, m, hfst, hsnd, hdest,
        ensure_eq_ok.mp hranges, hex, hcalc, rfl, rfl, rfl⟩
    · simp at h
  · rintro ⟨xdes, xmin, ydes, ymin, a, b, m, hfst, hsnd, hdest, hranges, hex,
      hcalc, rfl, rfl, rfl⟩
    rw [hfst, hsnd]
    split
    · rename_i hdesired
      exact absurd hdesired (hdest _)
    · rename_i hx hy _
      cases hx
      cases hy
      simp only [Tx.except_bind_eq_ok, ensure_eq_ok,
        Assets.totalIssuance_eq_ok]
      exact ⟨(), hranges, _, ⟨hex, rfl⟩, _, hcalc, rfl⟩
    · rename_i hother _
      exact absurd rfl (hother _ _ _ _ rfl)

/-! ## The whole validation -/

/-- A first deposit that names no other liquidity gets its root product. -/
theorem decideInitialDestination_eq_ok {destination : Bounds} {k : ℕ} :
    (∃ d, decideInitialDestination destination k = .ok d) ↔
      ∀ k', destination = .desired k' → k' = k := by
  unfold decideInitialDestination
  split
  · rename_i k'
    simp only [Tx.except_bind_eq_ok, ensure_eq_ok, Bounds.desired.injEq,
      forall_eq']
    exact ⟨fun ⟨_, _, h, _⟩ => h, fun h => ⟨_, (), h, rfl⟩⟩
  · rename_i hne
    exact ⟨fun _ k' h => (hne k' h).elim, fun _ => ⟨_, rfl⟩⟩

theorem toOption_of_decideInitialDestination {destination d : Bounds}
    {k : ℕ} (h : decideInitialDestination destination k = .ok d) :
    d.toOption = some k := by
  unfold decideInitialDestination at h
  split at h
  · obtain ⟨_, hk, h⟩ := Tx.except_bind_eq_ok.mp h
    cases h
    rw [Bounds.toOption, ensure_eq_ok.mp hk]
  · cases h
    rfl

/-- The action with the amounts of the terms. -/
def withTerms (self : DepositLiquidityAction T) (t : Terms) :
    DepositLiquidityAction T :=
  { self with
    source := ⟨⟨self.source.fst.asset, t.fst⟩, ⟨self.source.snd.asset, t.snd⟩⟩
    destination := ⟨self.destination.asset, .calculated t.minted⟩
    minLiquidity := some self.lockedLiquidity }

theorem initialAmounts_eq_ok {self : DepositLiquidityAction T}
    {initX initY : ℕ} :
    self.initialAmounts true = .ok (initX, initY) ↔
      self.source.fst.amount.toOption = some initX ∧
        self.source.snd.amount.toOption = some initY := by
  simp only [initialAmounts, if_true, Tx.except_bind_eq_ok, okOr_eq_ok]
  constructor
  · rintro ⟨x, hx, y, hy, h⟩
    cases h
    exact ⟨hx, hy⟩
  · rintro ⟨hx, hy⟩
    exact ⟨initX, hx, initY, hy, rfl⟩

theorem map_some_eq_ok {x : Result ℕ} {o : Option ℕ} :
    some <$> x = .ok o ↔ ∃ k, x = .ok k ∧ o = some k := by
  rcases x with e | k
  · simp [Functor.map, Except.map]
  · simp [Functor.map, Except.map, eq_comm]

theorem resolveAmounts_empty_eq_ok {s : Storage T}
    {self act : DepositLiquidityAction T} {initX k balanceBp balanceTp : ℕ} :
    self.resolveAmounts s false true initX (some k) balanceBp balanceTp =
        .ok act ↔
      ∃ d, decideInitialDestination self.destination.amount k = .ok d ∧
        act = { self with destination := ⟨self.destination.asset, d⟩ } := by
  simp only [resolveAmounts, Bool.false_eq_true, if_false, if_true,
    Tx.except_bind_eq_ok, unwrap_eq_ok, Option.some.injEq, exists_eq_left']
  constructor
  · rintro ⟨d, hd, h⟩
    cases h
    exact ⟨d, hd, rfl⟩
  · rintro ⟨d, hd, rfl⟩
    exact ⟨d, hd, rfl⟩

theorem resolveAmounts_reserves_eq_ok {s : Storage T}
    {self act : DepositLiquidityAction T} {initX k balanceBp balanceTp : ℕ} :
    self.resolveAmounts s false false initX (some k) balanceBp balanceTp =
        .ok act ↔
      ∃ x y z,
        self.decideAmounts s initX k balanceBp balanceTp = .ok (x, y, z) ∧
        act =
          { self with
            source :=
              ⟨⟨self.source.fst.asset, x⟩, ⟨self.source.snd.asset, y⟩⟩
            destination := ⟨self.destination.asset, z⟩ } := by
  simp only [resolveAmounts, Bool.false_eq_true, if_false,
    Tx.except_bind_eq_ok, unwrap_eq_ok, Option.some.injEq, exists_eq_left']
  constructor
  · rintro ⟨⟨x, y, z⟩, hxyz, h⟩
    cases h
    exact ⟨x, y, z, hxyz, rfl⟩
  · rintro ⟨x, y, z, hxyz, rfl⟩
    exact ⟨(x, y, z), hxyz, rfl⟩

/-- The rest of the validation once the balances are known and the pool was
found empty or not. -/
def agreeAmounts (s : Storage T) (self : DepositLiquidityAction T)
    (emptyPool : Bool) (balanceBp balanceTp : ℕ)
    (balances : Option (ℕ × ℕ)) : Result (DepositLiquidityAction T) := do
  let init ← self.initialAmounts emptyPool
  let poolK ← poolK false emptyPool init balanceBp balanceTp
  let self ← self.resolveAmounts s false emptyPool init.1 poolK balanceBp
    balanceTp
  let minLiquidity ← resolveMinLiquidity self.minLiquidity
  let self := { self with minLiquidity := some minLiquidity }
  self.ensureAmountsCovered false minLiquidity poolK balances
  self.lockMinLiquidity emptyPool minLiquidity

theorem validate_eq_agreeAmounts (s : Storage T)
    (self : DepositLiquidityAction T) (sourceOpt : Option T.AccountId)
    (markAsset : T.TechAssetId) :
    self.validate s false sourceOpt markAsset = (do
      ensure (self.destination.asset = markAsset)
        (poolError .invalidAssetForLiquidityMarking)
      let balances ← self.sourceBalances s false sourceOpt
      let balanceBp ← Assets.freeBalance s self.source.fst.asset self.poolRepr
      let balanceTp ← Assets.freeBalance s self.source.snd.asset self.poolRepr
      let emptyPool ← isPoolEmpty balanceBp balanceTp
      self.agreeAmounts s emptyPool balanceBp balanceTp balances) :=
  rfl

theorem agreeAmounts_empty_eq_ok {s : Storage T}
    {self act : DepositLiquidityAction T} {reserveA reserveB : ℕ}
    {balances : ℕ × ℕ} (hempty : reserveA = 0 ∧ reserveB = 0) :
    self.agreeAmounts s true reserveA reserveB (some balances) = .ok act ↔
      ∃ t, FirstDeposit self t reserveA reserveB ∧
        PoolXyk.minLiquidity ≤ self.lockedLiquidity ∧
        (t.amountA ≤ balances.1 ∧ t.amountB ≤ balances.2) ∧
        act = self.withTerms t := by
  simp only [agreeAmounts, Tx.except_bind_eq_ok, resolveMinLiquidity_eq_ok]
  constructor
  · rintro ⟨⟨initX, initY⟩, hinit, _, hpool, _, hact, _, ⟨rfl, hm⟩, _,
      hcovered, h⟩
    obtain ⟨hX, hY⟩ := initialAmounts_eq_ok.mp hinit
    obtain ⟨k, hk, rfl⟩ := map_some_eq_ok.mp hpool
    obtain ⟨d, hd, rfl⟩ := resolveAmounts_empty_eq_ok.mp hact
    have hdk := toOption_of_decideInitialDestination hd
    obtain ⟨_, _, _, hX', hY', hdk', hlock, hcovered⟩ :=
      ensureAmountsCovered_eq_ok.mp hcovered
    cases hX.symm.trans hX'
    cases hY.symm.trans hY'
    cases hdk.symm.trans hdk'
    obtain ⟨_, hdest, h⟩ := Tx.except_bind_eq_ok.mp h
    rw [Bounds.unwrap_eq_ok, hdk, Option.some.injEq] at hdest
    cases h
    subst hdest
    exact ⟨⟨self.source.fst.amount, self.source.snd.amount, initX, initY,
        wrappingSub k self.lockedLiquidity⟩,
      ⟨hempty, rfl, rfl, hX, hY, k, hk,
        decideInitialDestination_eq_ok.mp ⟨d, hd⟩, hlock, rfl⟩, hm,
      hcovered, rfl⟩
  · rintro ⟨t, ⟨-, hfst, hsnd, hX, hY, k, hk, hdesired, hlock, hminted⟩, hm,
      hcovered, rfl⟩
    obtain ⟨d, hd⟩ := decideInitialDestination_eq_ok.mpr hdesired
    have hdk := toOption_of_decideInitialDestination hd
    refine ⟨_, initialAmounts_eq_ok.mpr ⟨hX, hY⟩,
      some k, map_some_eq_ok.mpr ⟨k, hk, rfl⟩, _,
      resolveAmounts_empty_eq_ok.mpr ⟨d, hd, rfl⟩, _, ⟨rfl, hm⟩, (),
      ensureAmountsCovered_eq_ok.mpr
        ⟨_, _, k, hX, hY, hdk, hlock, hcovered⟩, ?_⟩
    rw [withTerms, hfst, hsnd, hminted]
    exact Tx.except_bind_eq_ok.mpr ⟨k, Bounds.unwrap_eq_ok.mpr hdk, rfl⟩

theorem agreeAmounts_reserves_eq_ok {s : Storage T}
    {self act : DepositLiquidityAction T} {reserveA reserveB : ℕ}
    {balances : ℕ × ℕ} (hreserves : 0 < reserveA ∧ 0 < reserveB) :
    self.agreeAmounts s false reserveA reserveB (some balances) = .ok act ↔
      ∃ t, (Assets.Exists s self.marker ∧
          LaterDeposit self t reserveA reserveB (s.issuance self.marker)) ∧
        PoolXyk.minLiquidity ≤ self.lockedLiquidity ∧
        (t.amountA ≤ balances.1 ∧ t.amountB ≤ balances.2) ∧
        act = self.withTerms t := by
  simp only [agreeAmounts, Tx.except_bind_eq_ok, resolveMinLiquidity_eq_ok]
  constructor
  · rintro ⟨_, hinit, _, hpool, _, hact, _, ⟨rfl, hm⟩, _, hcovered, h⟩
    cases hinit
    obtain ⟨k, hk, rfl⟩ := map_some_eq_ok.mp hpool
    obtain ⟨_, _, _, hxyz, rfl⟩ := resolveAmounts_reserves_eq_ok.mp hact
    obtain ⟨xdes, xmin, ydes, ymin, a, b, m, hfst, hsnd, hdest, hranges,
      hex, hcalc, rfl, rfl, rfl⟩ := decideAmounts_eq_ok.mp hxyz
    obtain ⟨_, _, _, hfst', hsnd', hdest', hlock, hcovered⟩ :=
      ensureAmountsCovered_eq_ok.mp hcovered
    cases hfst'
    cases hsnd'
    cases hdest'
    cases h
    exact ⟨⟨.calculated a, .calculated b, a, b, m⟩,
      ⟨hex, hreserves, rfl, rfl,
        ⟨xdes, xmin, ydes, ymin, hfst, hsnd, hranges.1, hranges.2, hcalc⟩,
        hdest, k, hk, hlock⟩, hm, hcovered, rfl⟩
  · rintro ⟨t, ⟨hex, -, hfst, hsnd,
      ⟨xdes, xmin, ydes, ymin, hx, hy, hxle, hyle, hcalc⟩, hdest, k, hk,
      hlock⟩, hm, hcovered, rfl⟩
    refine ⟨(0, 0), rfl, some k, map_some_eq_ok.mpr ⟨k, hk, rfl⟩, _,
      resolveAmounts_reserves_eq_ok.mpr ⟨_, _, _,
        decideAmounts_eq_ok.mpr ⟨xdes, xmin, ydes, ymin, _, _, _, hx, hy,
          hdest, ⟨hxle, hyle⟩, hex, hcalc, rfl, rfl, rfl⟩, rfl⟩, _,
      ⟨rfl, hm⟩, (),
      ensureAmountsCovered_eq_ok.mpr
        ⟨_, _, _, rfl, rfl, rfl, hlock, hcovered⟩, ?_⟩
    rw [withTerms, hfst, hsnd]
    rfl

theorem validate_eq_ok {s : Storage T} {self act : DepositLiquidityAction T}
    {w : T.AccountId} {markAsset : T.TechAssetId} :
    self.validate s false (some w) markAsset = .ok act ↔
      self.destination.asset = markAsset ∧
        Assets.Exists s self.source.fst.asset ∧
        Assets.Exists s self.source.snd.asset ∧
        (0 < s.free self.source.fst.asset w ∧
          0 < s.free self.source.snd.asset w) ∧
        ∃ t, AmountsAgreed s self t ∧
          PoolXyk.minLiquidity ≤ self.lockedLiquidity ∧
          (t.amountA ≤ s.free self.source.fst.asset w ∧
            t.amountB ≤ s.free self.source.snd.asset w) ∧
          act = self.withTerms t := by
  simp only [validate_eq_agreeAmounts, Tx.except_bind_eq_ok, ensure_eq_ok,
    sourceBalances_eq_ok, Assets.freeBalance_eq_ok, isPoolEmpty_eq_ok]
  constructor
  · rintro ⟨_, hmark, _, ⟨hA, hB, hpos, rfl⟩, _, ⟨-, rfl⟩, _, ⟨-, rfl⟩, _,
      ⟨hempty, rfl⟩ | ⟨hreserves, rfl⟩, h⟩
    · obtain ⟨t, hfirst, hrest⟩ := (agreeAmounts_empty_eq_ok hempty).mp h
      exact ⟨hmark, hA, hB, hpos, t, Or.inl hfirst, hrest⟩
    · obtain ⟨t, hlater, hrest⟩ := (agreeAmounts_reserves_eq_ok hreserves).mp h
      exact ⟨hmark, hA, hB, hpos, t, Or.inr hlater, hrest⟩
  · rintro ⟨hmark, hA, hB, hpos, t, hfirst | hlater, hrest⟩
    · exact ⟨(), hmark, _, ⟨hA, hB, hpos, rfl⟩, _, ⟨hA, rfl⟩, _, ⟨hB, rfl⟩,
        true, Or.inl ⟨hfirst.empty, rfl⟩,
        (agreeAmounts_empty_eq_ok hfirst.empty).mpr ⟨t, hfirst, hrest⟩⟩
    · exact ⟨(), hmark, _, ⟨hA, hB, hpos, rfl⟩, _, ⟨hA, rfl⟩, _, ⟨hB, rfl⟩,
        false, Or.inr ⟨hlater.2.reserves, rfl⟩,
        (agreeAmounts_reserves_eq_ok hlater.2.reserves).mpr
          ⟨t, hlater, hrest⟩⟩

/-- Neither the accounts of the action nor the record of a marker asset matter
for the amounts. -/
theorem amountsAgreed_resolved {s : Storage T}
    {self : DepositLiquidityAction T} {client receiver : Option T.AccountId}
    {techAcc : TechAccountIdOf T} {t : Terms} :
    AmountsAgreed (withMarkingRecord s techAcc)
        { self with clientAccount := client, receiverAccount := receiver } t ↔
      AmountsAgreed s self t := by
  constructor
  · rintro (h | ⟨hex, h⟩)
    · exact Or.inl
        ⟨h.empty, h.fst, h.snd, h.amountA, h.amountB, h.liquidity⟩
    · exact Or.inr ⟨hex, h.reserves, h.fst, h.snd, h.ranges, h.notDesired,
        h.liquidity⟩
  · rintro (h | ⟨hex, h⟩)
    · exact Or.inl
        ⟨h.empty, h.fst, h.snd, h.amountA, h.amountB, h.liquidity⟩
    · exact Or.inr ⟨hex, h.reserves, h.fst, h.snd, h.ranges, h.notDesired,
        h.liquidity⟩

/-- Validation accepts a deposit exactly on terms that it agrees to. -/
theorem run_prepareAndValidate_ok {s s' : Storage T}
    {self act : DepositLiquidityAction T} {w : T.AccountId}
    (hab : self.isAbstractChecking = false) :
    (self.prepareAndValidate (some w)).run s = (.ok act, s') ↔
      ∃ t, Agreed s self w t ∧ act = self.completed w t ∧
        s' = withMarkingRecord s self.poolAccount := by
  simp only [prepareAndValidate, hab, Option.isNone_some, Bool.or_false,
    Tx.run_bind_eq_ok, Tx.run_liftM_eq_ok, Tx.run_reads_eq_ok,
    resolveAccounts_eq_ok, isPoolAccountValidFor,
    Technical.ensureTechAccountRegistered_eq_ok, run_getMarkingAsset_ok]
  constructor
  · rintro ⟨_, _, ⟨⟨hclient, rfl⟩, rfl⟩, _, _, ⟨hreg, rfl⟩, _, _,
      ⟨hmark, rfl⟩, h, rfl⟩
    obtain ⟨rfl, hA, hB, hpos, t, hamounts, hlocked, hcovered, rfl⟩ :=
      validate_eq_ok.mp h
    exact ⟨t, ⟨hclient, hreg, hmark, hA, hB, hpos,
      amountsAgreed_resolved.mp hamounts, hlocked, hcovered⟩, rfl, rfl⟩
  · rintro ⟨t, ht, rfl, rfl⟩
    exact ⟨_, s, ⟨⟨ht.client, rfl⟩, rfl⟩, (), s, ⟨ht.registered, rfl⟩, _, _,
      ⟨ht.marker, rfl⟩,
      validate_eq_ok.mpr ⟨rfl, ht.fstExists, ht.sndExists, ht.signerPositive,
        t, amountsAgreed_resolved.mpr ht.amounts, ht.lockedLiquidity, ht.covered, rfl⟩, rfl⟩

/-- The terms name the amounts that the completed action carries. -/
theorem AmountsAgreed.toOption {s : Storage T} {a : DepositLiquidityAction T}
    {t : Terms} (h : AmountsAgreed s a t) :
    t.fst.toOption = some t.amountA ∧ t.snd.toOption = some t.amountB := by
  rcases h with hfirst | ⟨-, hlater⟩
  · rw [hfirst.fst, hfirst.snd]
    exact ⟨hfirst.amountA, hfirst.amountB⟩
  · rw [hlater.fst, hlater.snd]
    exact ⟨rfl, rfl⟩

/-! ## Settlement -/

/-- The transfers that settle the terms. -/
def payments (self : DepositLiquidityAction T) (w : T.AccountId) (t : Terms) :
    List (Payment T.AssetId T.AccountId) :=
  [⟨self.source.fst.asset, w, self.poolRepr, t.amountA⟩,
    ⟨self.source.snd.asset, w, self.poolRepr, t.amountB⟩]

/-- Nothing but the balances stands in the way of the settlement. -/
structure Payable (s : Storage T) (a : DepositLiquidityAction T)
    (w : T.AccountId) : Prop where
  registered : IsRegistered s a.poolAccount
  fstExists : Assets.Exists s a.source.fst.asset
  sndExists : Assets.Exists s a.source.snd.asset
  fstPermitted :
    Assets.Permitted s w Permissions.transfer a.source.fst.asset
  sndPermitted :
    Assets.Permitted s w Permissions.transfer a.source.snd.asset
  markerExists : Assets.Exists s a.marker
  poolPermitted : Assets.Permitted s a.poolRepr Permissions.mint a.marker
  markerMintable : (s.assetInfos a.marker).isMintable = true

/-- The storage after the terms were settled with a resulting ledger. -/
def settled (s : Storage T) (self : DepositLiquidityAction T)
    (l : T.currency.Ledger) : Storage T :=
  refreshed { s with ledger := l } self.poolAccount self.source.fst.asset
    self.source.snd.asset

theorem run_reserve_ok {s s' : Storage T} {self : DepositLiquidityAction T}
    {w : T.AccountId} {t : Terms} {u : Unit}
    (hA : t.fst.toOption = some t.amountA)
    (hB : t.snd.toOption = some t.amountB) :
    ((self.completed w t).reserve w).run s = (.ok u, s') ↔
      Payable s self w ∧
        ∃ l l', T.currency.payAll (self.payments w t) s.ledger = .ok l ∧
          T.currency.deposit self.marker (self.receiver w) t.minted l =
            .ok l' ∧
          s' = settled s self l' := by
  simp only [reserve, payments, Tx.run_bind_eq_ok, Tx.run_liftM_eq_ok,
    Bounds.unwrap_eq_ok, unwrap_eq_ok, ensure_eq_ok,
    Technical.run_transferIn_ok, Assets.run_transferFrom_ok,
    Assets.run_mintTo_ok, run_refreshReserves_ok,
    MultiCurrency.payAll_cons_eq_ok, completed, hA, hB,
    Bounds.toOption_calculated, Option.some.injEq, and_assoc, exists_eq_left',
    exists_and_left]
  constructor
  · rintro ⟨-, hreg, hfst, hfstPerm, _, _, _, ⟨l₁, h₁, rfl⟩, -, hsnd,
      hsndPerm, _, _, ⟨l₂, h₂, rfl⟩, hmark, hpool, hmintable, _, _,
      ⟨l₃, h₃, rfl⟩, -, -, rfl⟩
    exact ⟨⟨hreg, hfst, hsnd, hfstPerm, hsndPerm, hmark, hpool, hmintable⟩,
      l₂, ⟨l₁, h₁, l₂, h₂, rfl⟩, l₃, h₃, rfl⟩
  · rintro ⟨hpay, l₂, ⟨l₁, h₁, _, h₂, hnil⟩, l₃, h₃, rfl⟩
    cases hnil
    exact ⟨trivial, hpay.registered, hpay.fstExists, hpay.fstPermitted, (),
      (), _, ⟨l₁, h₁, rfl⟩, hpay.registered, hpay.sndExists, hpay.sndPermitted,
      (), _, ⟨l₂, h₂, rfl⟩, hpay.markerExists, hpay.poolPermitted,
      hpay.markerMintable, (), _, ⟨l₃, h₃, rfl⟩, hpay.fstExists,
      hpay.sndExists, rfl⟩

end DepositLiquidityAction
end PoolXyk
end SoraParachain

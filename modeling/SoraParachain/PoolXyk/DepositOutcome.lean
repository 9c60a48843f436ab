import SoraParachain.PoolXyk.Funding
import SoraParachain.PoolXyk.OptimalDeposit

/-!
# What a deposit gets

The first deposit gets the root product of its amounts less the minimum
liquidity.  The guard before this subtraction compares something else, so that
some deposits below the minimum pass and the difference wraps around.  A later
deposit gets the smaller of two rounded quotients, which nothing keeps above
zero.  A deposit that names the liquidity it wants never gets anything.
-/

namespace SoraParachain
namespace PoolXyk

variable {T : Config} {s s' : Storage T} {w : T.AccountId}

open Technical (techAccountIdToAccountId IsRegistered)

theorem poolLiquidity_eq_ok {x y k : ℕ} :
    poolLiquidity x y = .ok k ↔
      (x < 2 ^ 127 ∧ y < 2 ^ 127) ∧ k = rootProduct x y := by
  constructor
  · intro h
    have hroot : ((FixedWrapper.ofBalance x).multiplyAndSqrt
        (FixedWrapper.ofBalance y)).Holds k := toBalance_eq_ok.mp h
    obtain ⟨⟨x', hx⟩, y', hy⟩ := hroot.of_multiplyAndSqrt
    have hfits : x < 2 ^ 127 ∧ y < 2 ^ 127 :=
      ⟨(holds_ofBalance_nat hx).1, (holds_ofBalance_nat hy).1⟩
    rw [poolLiquidity_eq hfits.1 hfits.2] at h
    exact ⟨hfits, (Except.ok.inj h).symm⟩
  · rintro ⟨⟨hx, hy⟩, rfl⟩
    exact poolLiquidity_eq hx hy

namespace DepositLiquidityAction

variable {a : DepositLiquidityAction T}

/-- Validation accepts the action when `w` signs it. -/
def Accepted (s : Storage T) (a : DepositLiquidityAction T)
    (w : T.AccountId) : Prop :=
  ∃ act s', (a.prepareAndValidate (some w)).run s = (.ok act, s')

theorem accepted_iff (hab : a.isAbstractChecking = false) :
    Accepted s a w ↔ ∃ t, Agreed s a w t := by
  constructor
  · rintro ⟨act, s', h⟩
    obtain ⟨t, ht, -, -⟩ := (run_prepareAndValidate_ok hab).mp h
    exact ⟨t, ht⟩
  · rintro ⟨t, ht⟩
    exact ⟨_, _, (run_prepareAndValidate_ok hab).mpr ⟨t, ht, rfl, rfl⟩⟩

/-! ## The first deposit -/

/-- Everything that is asked of a first deposit of the two amounts except how
large its liquidity is. -/
structure FirstOffer (s : Storage T) (a : DepositLiquidityAction T)
    (w : T.AccountId) (x y : ℕ) : Prop where
  client : a.clientAccount = none ∨ a.clientAccount = some w
  registered : IsRegistered s a.poolAccount
  marker : T.techAssetIdTryFrom (markingAssetId a.poolAccount) =
    some a.destination.asset
  fstExists : Assets.Exists s a.source.fst.asset
  sndExists : Assets.Exists s a.source.snd.asset
  signerPositive : 0 < s.free a.source.fst.asset w ∧
    0 < s.free a.source.snd.asset w
  amountA : a.source.fst.amount.toOption = some x
  amountB : a.source.snd.amount.toOption = some y
  fits : x < 2 ^ 127 ∧ y < 2 ^ 127
  liquidity : ∀ k, a.destination.amount = .desired k → k = rootProduct x y
  lockedLiquidity : PoolXyk.minLiquidity ≤ a.lockedLiquidity
  covered : x ≤ s.free a.source.fst.asset w ∧
    y ≤ s.free a.source.snd.asset w

/-- The action is for a pool whose account holds none of the two assets. -/
abbrev PoolEmpty (s : Storage T) (a : DepositLiquidityAction T) : Prop :=
  s.free a.source.fst.asset a.poolRepr = 0 ∧
    s.free a.source.snd.asset a.poolRepr = 0

/-- The terms of an accepted first deposit. -/
theorem agreed_iff_of_poolEmpty {t : Terms} (hempty : PoolEmpty s a) :
    Agreed s a w t ↔
      FirstOffer s a w t.amountA t.amountB ∧
        a.lockedLiquidity ≤ 2 * rootProduct t.amountA t.amountB ∧
        t.fst = a.source.fst.amount ∧ t.snd = a.source.snd.amount ∧
        t.minted = wrappingSub (rootProduct t.amountA t.amountB)
          a.lockedLiquidity := by
  constructor
  · intro h
    rcases h.amounts with hfirst | ⟨-, hlater⟩
    · obtain ⟨k, hk, hdesired, hguard, hminted⟩ := hfirst.liquidity
      obtain ⟨hfits, rfl⟩ := poolLiquidity_eq_ok.mp hk
      exact ⟨⟨h.client, h.registered, h.marker, h.fstExists, h.sndExists,
        h.signerPositive, hfirst.amountA, hfirst.amountB, hfits, hdesired,
        h.lockedLiquidity, h.covered⟩, by omega, hfirst.fst, hfirst.snd,
        hminted⟩
    · exact absurd hempty.1 hlater.reserves.1.ne'
  · rintro ⟨h, hguard, hfst, hsnd, hminted⟩
    refine ⟨h.client, h.registered, h.marker, h.fstExists, h.sndExists,
      h.signerPositive, Or.inl ⟨hempty, hfst, hsnd, h.amountA, h.amountB, ?_⟩,
      h.lockedLiquidity, h.covered⟩
    exact ⟨_, poolLiquidity_eq_ok.mpr ⟨h.fits, rfl⟩, h.liquidity, by omega,
      hminted⟩

/-- The guard only asks for half of the minimum. -/
theorem FirstOffer.accepted {x y : ℕ} (h : FirstOffer s a w x y)
    (hab : a.isAbstractChecking = false) (hempty : PoolEmpty s a)
    (hguard : a.lockedLiquidity ≤ 2 * rootProduct x y) :
    ∃ act s', (a.prepareAndValidate (some w)).run s = (.ok act, s') ∧
      act.destination.amount = .calculated
        (wrappingSub (rootProduct x y) a.lockedLiquidity) := by
  have hagreed : Agreed s a w ⟨a.source.fst.amount, a.source.snd.amount, x, y,
      wrappingSub (rootProduct x y) a.lockedLiquidity⟩ :=
    (agreed_iff_of_poolEmpty hempty).mpr ⟨h, hguard, rfl, rfl, rfl⟩
  exact ⟨_, _, (run_prepareAndValidate_ok hab).mpr ⟨_, hagreed, rfl, rfl⟩, rfl⟩

/-- Every first deposit that is accepted mints its root product less the minimum
liquidity. -/
def MintsTheRest (s : Storage T) (a : DepositLiquidityAction T)
    (w : T.AccountId) : Prop :=
  ∀ act s' x y, (a.prepareAndValidate (some w)).run s = (.ok act, s') →
    a.source.fst.amount.toOption = some x →
    a.source.snd.amount.toOption = some y →
      ∃ m, act.destination.amount = .calculated m ∧
        m + a.lockedLiquidity = rootProduct x y

/-- It does so unless the root product is below the minimum and yet at least
half of it. -/
theorem first_deposit_mints_the_rest_iff (hab : a.isAbstractChecking = false)
    (hempty : PoolEmpty s a) :
    MintsTheRest s a w ↔
      ∀ x y, FirstOffer s a w x y →
        a.lockedLiquidity ≤ rootProduct x y ∨
          2 * rootProduct x y < a.lockedLiquidity := by
  constructor
  · intro h x y hoffer
    by_contra hbetween
    push Not at hbetween
    obtain ⟨act, s', hrun, hdest⟩ := hoffer.accepted hab hempty hbetween.2
    obtain ⟨m, hm, hrest⟩ := h act s' x y hrun hoffer.amountA hoffer.amountB
    obtain rfl := Bounds.calculated.inj (hdest.symm.trans hm)
    rw [wrappingSub, if_neg (not_le.mpr hbetween.1), balanceModulus] at hrest
    omega
  · intro h act s' x y hrun hx hy
    obtain ⟨t, ht, rfl, -⟩ := (run_prepareAndValidate_ok hab).mp hrun
    obtain ⟨hoffer, hguard, -, -, hminted⟩ :=
      (agreed_iff_of_poolEmpty hempty).mp ht
    cases hx.symm.trans hoffer.amountA
    cases hy.symm.trans hoffer.amountB
    refine ⟨t.minted, rfl, ?_⟩
    rcases h _ _ hoffer with hle | hlt
    · rw [hminted, wrappingSub_of_le hle]
      omega
    · omega

/-- Bob opens a pool. -/
@[irreducible] def opened : Storage Mock.runtime :=
  runs Mock.genesis (Mock.openPool Mock.dexA Mock.redPepper)

/-- A deposit of two amounts into the pool of the sample runtime. -/
def smallDeposit (amount : ℕ) : DepositLiquidityAction Mock.runtime :=
  depositAction (Mock.poolOf Mock.dexA Mock.redPepper) Mock.goldenTicket
    Mock.redPepper amount amount 0 0
    (markingAssetId (Mock.poolOf Mock.dexA Mock.redPepper))

/-- A first deposit of a whole unit of both assets mints the rest. -/
theorem first_deposit_mints_the_rest_iff_sample :
    MintsTheRest opened (smallDeposit Mock.unit) Mock.bob.account := by
  rw [first_deposit_mints_the_rest_iff rfl (by decide +kernel)]
  intro x y hoffer
  cases hoffer.amountA
  cases hoffer.amountB
  exact Or.inl (by decide +kernel)

/-- The root product of a thousand and a thousand is rounded to one less, which
passes the guard; the first depositor gets almost all the marker tokens that
there can be. -/
theorem first_deposit_wraps :
    rootProduct 1000 1000 = 999 ∧
      PoolEmpty opened (smallDeposit 1000) ∧
      (Mock.deposit Mock.dexA Mock.redPepper 1000 1000).Succeeds opened ∧
      (step opened (Mock.deposit Mock.dexA Mock.redPepper 1000 1000)).free
        (Mock.markerOf Mock.dexA Mock.redPepper) Mock.bob.account =
          2 ^ 128 - 1 ∧
      ¬MintsTheRest opened (smallDeposit 1000) Mock.bob.account := by
  have hoffer : FirstOffer opened (smallDeposit 1000) Mock.bob.account 1000
      1000 :=
    ⟨Or.inl rfl, by decide +kernel, rfl, by decide +kernel, by decide +kernel,
      by decide +kernel, rfl, rfl, by decide, by simp [smallDeposit,
        depositAction], by decide, by decide +kernel⟩
  have hroot : rootProduct 1000 1000 = 999 := by decide +kernel
  have hempty : PoolEmpty opened (smallDeposit 1000) := by decide +kernel
  refine ⟨hroot, hempty, by decide +kernel, by decide +kernel, ?_⟩
  intro h
  obtain ⟨act, s', hrun, hdest⟩ := hoffer.accepted rfl hempty (by decide +kernel)
  obtain ⟨m, hm, hrest⟩ := h act s' _ _ hrun rfl rfl
  rw [hroot] at hrest
  have hlock : (smallDeposit 1000).lockedLiquidity = 1000 := rfl
  omega

/-! ## Deposits of a desired liquidity -/

/-- A desired liquidity `k` of a pool with reserves whose source bounds contain
`k` over the liquidity of the pool of each reserve, signed by a client that
holds this much. -/
structure ShareOffer (s : Storage T) (a : DepositLiquidityAction T)
    (w : T.AccountId) (k : ℕ) : Prop where
  client : a.clientAccount = none
  registered : IsRegistered s a.poolAccount
  marker : T.techAssetIdTryFrom (markingAssetId a.poolAccount) =
    some a.destination.asset
  fstExists : Assets.Exists s a.source.fst.asset
  sndExists : Assets.Exists s a.source.snd.asset
  reserves : 0 < s.free a.source.fst.asset a.poolRepr ∧
    0 < s.free a.source.snd.asset a.poolRepr
  desired : a.destination.amount = .desired k
  positive : 0 < k
  shareA : ∃ x, x = s.free a.source.fst.asset a.poolRepr * k /
      rootProduct (s.free a.source.fst.asset a.poolRepr)
        (s.free a.source.snd.asset a.poolRepr) ∧
    a.source.fst.amount.meetsTheBoundaries (.calculated x) = true ∧
    x < s.free a.source.fst.asset w
  shareB : ∃ y, y = s.free a.source.snd.asset a.poolRepr * k /
      rootProduct (s.free a.source.fst.asset a.poolRepr)
        (s.free a.source.snd.asset a.poolRepr) ∧
    a.source.snd.amount.meetsTheBoundaries (.calculated y) = true ∧
    y < s.free a.source.snd.asset w
  minimum : a.minLiquidity = none

/-- Validation divides by the initial amount in place of the desired liquidity,
and that amount is only set for an empty pool. -/
theorem desired_liquidity_never_accepted {k : ℕ}
    (hab : a.isAbstractChecking = false)
    (hdesired : a.destination.amount = .desired k)
    (hreserves : 0 < s.free a.source.fst.asset a.poolRepr ∧
      0 < s.free a.source.snd.asset a.poolRepr) :
    ¬Accepted s a w := by
  rw [accepted_iff hab]
  rintro ⟨t, ht⟩
  rcases ht.amounts with hfirst | ⟨-, hlater⟩
  · exact absurd hfirst.empty.1 hreserves.1.ne'
  · exact hlater.notDesired k hdesired

/-- A tenth of the sample pool is desired, for at most a hundred thousand units
and a little more of each asset. -/
def tenthOfPool : DepositLiquidityAction Mock.runtime where
  clientAccount := none
  receiverAccount := none
  poolAccount := Mock.poolOf Mock.dexA Mock.redPepper
  source :=
    ⟨⟨Mock.goldenTicket, .max (100001 * Mock.unit)⟩,
      ⟨Mock.redPepper, .max (100001 * Mock.unit)⟩⟩
  destination :=
    ⟨markingAssetId (Mock.poolOf Mock.dexA Mock.redPepper),
      .desired (100000 * Mock.unit)⟩
  minLiquidity := none

theorem desired_liquidity_never_accepted_sample :
    ¬Accepted Mock.funded tenthOfPool Mock.bob.account :=
  desired_liquidity_never_accepted rfl rfl
    ⟨by decide +kernel, by decide +kernel⟩

/-- The share is offered in full and the calculation fails. -/
theorem desired_tenth_refused :
    ShareOffer Mock.funded tenthOfPool Mock.bob.account
        (100000 * Mock.unit) ∧
      ((tenthOfPool.prepareAndValidate (some Mock.bob.account)).run
          Mock.funded).1.toOption.isNone = true := by
  constructor
  · exact ⟨rfl, by decide +kernel, rfl, by decide +kernel, by decide +kernel,
      ⟨by decide +kernel, by decide +kernel⟩, rfl, by decide,
      ⟨_, rfl, by decide +kernel, by decide +kernel⟩,
      ⟨_, rfl, by decide +kernel, by decide +kernel⟩, rfl⟩
  · decide +kernel

end DepositLiquidityAction

/-! ## Later deposits -/

/-- What the ratio of the reserves leaves of two desired amounts. -/
def takenAmounts (reserveA reserveB x y : ℕ) : ℕ × ℕ :=
  if quoteOf x reserveA reserveB ≤ y then (x, quoteOf x reserveA reserveB)
  else (quoteOf y reserveB reserveA, y)

/-- An amount reaches the part of the reserve that the smallest unit of a marker
token stands for, where that part is rounded down. -/
def ReachesShare (amount reserve supply : ℕ) : Prop :=
  reserve * S / supply ≤ amount * S

instance (amount reserve supply : ℕ) :
    Decidable (ReachesShare amount reserve supply) :=
  inferInstanceAs (Decidable (_ ≤ _))

section

variable {reserveA reserveB supply x y xMin yMin a b m : ℕ}

theorem liquidityFor_pos_iff {l : ℕ}
    (h : liquidityFor a reserveA supply = .ok l) :
    0 < l ↔ ReachesShare a reserveA supply := by
  obtain ⟨-, hpriced, rfl, -⟩ := liquidityFor_eq_ok_iff.mp h
  have hprice : 0 < reserveA * S / supply :=
    Nat.div_pos hpriced.price_pos hpriced.supply_pos
  rw [Nat.div_pos_iff, ReachesShare]
  exact ⟨fun h => h.2, fun h => ⟨hprice, h⟩⟩

theorem calculateOptimalDeposit_eq_takenAmounts
    (h : calculateOptimalDeposit reserveA reserveB x y xMin yMin =
      .ok (a, b)) :
    (a, b) = takenAmounts reserveA reserveB x y := by
  obtain ⟨qa, qb, hqa, hqb, hcase⟩ := calculateOptimalDeposit_eq_ok.mp h
  obtain ⟨-, -, -, -, -, hqa, -⟩ := calculateQuote_eq_ok.mp hqa
  obtain ⟨-, -, -, -, -, hqb, -⟩ := calculateQuote_eq_ok.mp hqb
  rw [← quoteOf] at hqa hqb
  subst hqa hqb
  rcases hcase with ⟨hle, -, rfl, rfl⟩ | ⟨hlt, -, -, rfl, rfl⟩
  · rw [takenAmounts, if_pos hle]
  · rw [takenAmounts, if_neg (not_le.mpr hlt)]

/-- Marker tokens are issued when both amounts reach the share of one. -/
theorem calcDepositLiquidity1_pos_iff
    (h : calcDepositLiquidity1 supply reserveA reserveB x y xMin yMin =
      .ok (a, b, m)) :
    (a, b) = takenAmounts reserveA reserveB x y ∧
      (0 < m ↔ ReachesShare a reserveA supply ∧
        ReachesShare b reserveB supply) := by
  obtain ⟨hab, la, lb, hla, hlb, rfl⟩ := calcDepositLiquidity1_eq_ok.mp h
  refine ⟨calculateOptimalDeposit_eq_takenAmounts hab, ?_⟩
  rw [← liquidityFor_pos_iff hla, ← liquidityFor_pos_iff hlb]
  exact lt_min_iff

end

/-- A successful deposit into a pool with reserves issues marker tokens for what
it takes exactly when it takes nothing or each amount that it takes reaches the
share of the smallest unit of a marker token. -/
theorem deposit_issues_for_what_it_takes_iff
    (hM : T.currency.Lawful balanceModulus) {dexId : T.DEXId}
    {assetA assetB : T.AssetId} {techAcc : TechAccountIdOf T}
    {x y xMin yMin : ℕ}
    (hpool : IsPoolOf s dexId assetA assetB techAcc)
    (hreserves : 0 < s.free assetA (techAccountIdToAccountId techAcc) ∧
      0 < s.free assetB (techAccountIdToAccountId techAcc))
    (h : (depositLiquidity w dexId assetA assetB x y xMin yMin).run s =
      (.ok (), s')) :
    ∃ marker a b m,
      Deposited s s' w techAcc assetA assetB marker a b m ∧
      ((0 < a ∨ 0 < b → 0 < m) ↔
        takenAmounts (s.free assetA (techAccountIdToAccountId techAcc))
            (s.free assetB (techAccountIdToAccountId techAcc)) x y = (0, 0) ∨
          ReachesShare
              (takenAmounts
                (s.free assetA (techAccountIdToAccountId techAcc))
                (s.free assetB (techAccountIdToAccountId techAcc)) x y).1
              (s.free assetA (techAccountIdToAccountId techAcc))
              (s.issuance marker) ∧
            ReachesShare
              (takenAmounts
                (s.free assetA (techAccountIdToAccountId techAcc))
                (s.free assetB (techAccountIdToAccountId techAcc)) x y).2
              (s.free assetB (techAccountIdToAccountId techAcc))
              (s.issuance marker)) := by
  obtain ⟨mark, t, hagreed, hdeposited⟩ := deposited_of_run hM hpool h
  rcases hagreed.amounts with hfirst | ⟨-, hlater⟩
  · exact absurd hfirst.empty.1 hreserves.1.ne'
  · obtain ⟨_, _, _, _, hx, hy, -, -, hcalc⟩ := hlater.ranges
    cases hx
    cases hy
    obtain ⟨htaken, hpos⟩ := calcDepositLiquidity1_pos_iff hcalc
    refine ⟨_, _, _, _, hdeposited, ?_⟩
    change _ = takenAmounts (s.free assetA (techAccountIdToAccountId techAcc))
      (s.free assetB (techAccountIdToAccountId techAcc)) x y at htaken
    rw [← htaken, Prod.mk.injEq]
    constructor
    · intro hissues
      by_cases hnothing : t.amountA = 0 ∧ t.amountB = 0
      · exact Or.inl hnothing
      · exact Or.inr (hpos.mp (hissues (by omega)))
    · rintro (hnothing | hreaches) htakes
      · omega
      · exact hpos.mpr hreaches

/-- Bob adds one unit of each asset to the sample pool. -/
theorem deposit_issues_for_what_it_takes_iff_sample :
    ∃ marker a b m,
      Deposited Mock.funded
        (step Mock.funded
          (Mock.deposit Mock.dexA Mock.redPepper Mock.unit Mock.unit))
        Mock.bob.account (Mock.poolOf Mock.dexA Mock.redPepper)
        Mock.goldenTicket Mock.redPepper marker a b m ∧
      (0 < a ∨ 0 < b → 0 < m) := by
  obtain ⟨marker, a, b, m, hdeposited, hiff⟩ :=
    deposit_issues_for_what_it_takes_iff Mock.currency_lawful
      (Mock.isPoolOf (by decide +kernel) (by decide))
      ⟨by decide +kernel, by decide +kernel⟩
      (Extrinsic.succeeds_iff.mp (by decide +kernel :
        (Mock.deposit Mock.dexA Mock.redPepper Mock.unit Mock.unit).Succeeds
          Mock.funded))
  refine ⟨marker, a, b, m, hdeposited, hiff.mpr (Or.inr ?_)⟩
  obtain ⟨mark, hmark, rfl⟩ := hdeposited.isMarker
  cases hmark
  exact ⟨by decide +kernel, by decide +kernel⟩

/-- Bob opens a pool with as little as two thousand of the last decimal of each
asset and then gives it a hundred units of each. -/
@[irreducible] def inflated : Storage Mock.runtime :=
  runs Mock.genesis (Mock.openPool Mock.dexA Mock.redPepper ++
    [Mock.deposit Mock.dexA Mock.redPepper 2000 2000,
      (Mock.bob, .assetsTransfer Mock.goldenTicket
        (Mock.poolAccountOf Mock.dexA Mock.redPepper) (100 * Mock.unit)),
      (Mock.bob, .assetsTransfer Mock.redPepper
        (Mock.poolAccountOf Mock.dexA Mock.redPepper) (100 * Mock.unit))])

/-- Nine hundredths of a unit of each asset. -/
def giveaway : Extrinsic Mock.runtime :=
  Mock.deposit Mock.dexA Mock.redPepper (9 * 10 ^ 16) (9 * 10 ^ 16)

/-- The pool takes all of it and issues nothing. -/
theorem deposit_taken_for_nothing :
    giveaway.Succeeds inflated ∧
      (step inflated giveaway).free Mock.goldenTicket
          (Mock.poolAccountOf Mock.dexA Mock.redPepper) =
        inflated.free Mock.goldenTicket
          (Mock.poolAccountOf Mock.dexA Mock.redPepper) + 9 * 10 ^ 16 ∧
      (step inflated giveaway).free Mock.redPepper
          (Mock.poolAccountOf Mock.dexA Mock.redPepper) =
        inflated.free Mock.redPepper
          (Mock.poolAccountOf Mock.dexA Mock.redPepper) + 9 * 10 ^ 16 ∧
      (step inflated giveaway).issuance
          (Mock.markerOf Mock.dexA Mock.redPepper) =
        inflated.issuance (Mock.markerOf Mock.dexA Mock.redPepper) ∧
      (step inflated giveaway).free (Mock.markerOf Mock.dexA Mock.redPepper)
          Mock.bob.account =
        inflated.free (Mock.markerOf Mock.dexA Mock.redPepper)
          Mock.bob.account := by
  decide +kernel

end PoolXyk
end SoraParachain

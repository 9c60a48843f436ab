import SoraParachain.PoolXyk.PoolLifetime

/-!
# Which pools can be funded

A deposit into a pool with reserves divides them by the issuance of the marker
asset.  Unlike a withdrawal it does not count the minimum liquidity as issued, so
a pool whose marker tokens were all redeemed keeps the reserves of the minimum
liquidity and can no longer be deposited to.  A deposit is also refused where
only one reserve is there, as after a gift to a pool that was not funded yet.
Apart from this and from the range of the fixed-point quotients some small
amounts are always taken.
-/

namespace SoraParachain
namespace PoolXyk

variable {T : Config}

open Technical (techAccountIdToAccountId IsRegistered)
open FixedWrapper (ofBalance)

/-! ## Amounts that suit the reserves -/

/-- The part of a reserve that a marker token stands for can be computed and is
not rounded to nothing. -/
structure SharePriced (reserve supply : ℕ) : Prop where
  reserve_lt : reserve < 2 ^ 127
  supply_lt : supply < 2 ^ 127
  supply_pos : 0 < supply
  price_pos : supply ≤ reserve * S
  price_lt : reserve * S < 2 ^ 127 * supply

instance (reserve supply : ℕ) : Decidable (SharePriced reserve supply) :=
  decidable_of_iff (reserve < 2 ^ 127 ∧ supply < 2 ^ 127 ∧ 0 < supply ∧
      supply ≤ reserve * S ∧ reserve * S < 2 ^ 127 * supply)
    ⟨fun ⟨h₁, h₂, h₃, h₄, h₅⟩ => ⟨h₁, h₂, h₃, h₄, h₅⟩,
      fun ⟨h₁, h₂, h₃, h₄, h₅⟩ => ⟨h₁, h₂, h₃, h₄, h₅⟩⟩

/-- The root product of two reserves, rounded as the pool rounds it. -/
def rootProduct (reserveA reserveB : ℕ) : ℕ :=
  Nat.sqrt (reserveA * S) * Nat.sqrt (reserveB * S) / S

section

variable {reserve reserveA reserveB supply amount l : ℕ}

theorem SharePriced.reserve_pos (h : SharePriced reserve supply) :
    0 < reserve := by
  have hprice := h.price_pos
  have hsupply := h.supply_pos
  rcases Nat.eq_zero_or_pos reserve with hzero | hpos
  · rw [hzero, Nat.zero_mul] at hprice
    omega
  · exact hpos

/-- An amount buys marker tokens where these have a price. -/
theorem liquidityFor_eq_ok_iff :
    liquidityFor amount reserve supply = .ok l ↔
      amount < 2 ^ 127 ∧ SharePriced reserve supply ∧
        l = amount * S / (reserve * S / supply) ∧ l < 2 ^ 127 := by
  rw [liquidityFor_eq_ok]
  constructor
  · rintro ⟨hamount, hreserve, hsupply, hpos, hlt, hprice, hl, hfits⟩
    refine ⟨hamount, ⟨hreserve, hsupply, hpos, ?_, ?_⟩, hl, hfits⟩
    · exact (Nat.div_pos_iff.mp hprice).2
    · exact (Nat.div_lt_iff_lt_mul hpos).mp hlt
  · rintro ⟨hamount, hpriced, hl, hfits⟩
    exact ⟨hamount, hpriced.reserve_lt, hpriced.supply_lt, hpriced.supply_pos,
      (Nat.div_lt_iff_lt_mul hpriced.supply_pos).mpr hpriced.price_lt,
      Nat.div_pos hpriced.price_pos hpriced.supply_pos, hl, hfits⟩

/-- A single unit of the last decimal is always within range. -/
theorem liquidityFor_le_one (h : SharePriced reserve supply)
    (hamount : amount ≤ 1) :
    ∃ l, liquidityFor amount reserve supply = .ok l := by
  refine ⟨_, liquidityFor_eq_ok_iff.mpr ⟨by omega, h, rfl, ?_⟩⟩
  calc
    amount * S / (reserve * S / supply) ≤ amount * S := Nat.div_le_self _ _
    _ ≤ 1 * S := Nat.mul_le_mul_right S hamount
    _ < 2 ^ 127 := by norm_num

theorem poolLiquidity_eq (hA : reserveA < 2 ^ 127) (hB : reserveB < 2 ^ 127) :
    poolLiquidity reserveA reserveB = .ok (rootProduct reserveA reserveB) := by
  rw [poolLiquidity, toBalance_eq_ok]
  exact (FixedWrapper.holds_multiplyAndSqrt_nat (holds_ofBalance_self hA)
    (holds_ofBalance_self hB)).mpr rfl

/-! ### A unit of each asset -/

/-- The quote for a single unit does not exceed the ratio of the reserves. -/
theorem calculateQuote_one (hA : reserveA < 2 ^ 127) (hB : reserveB < 2 ^ 127)
    (hpos : 0 < reserveA) :
    ∃ q, calculateQuote 1 reserveA reserveB = .ok q ∧
      q * reserveA ≤ reserveB := by
  have hle : 1 * reserveB / S * S ≤ reserveB := by
    rw [Nat.one_mul]
    exact Nat.div_mul_le_self _ _
  refine ⟨1 * reserveB / S * S / reserveA, calculateQuote_eq_ok.mpr
    ⟨by norm_num, hA, hB, hpos, ?_, rfl, ?_⟩, ?_⟩
  · rw [Nat.one_mul]
    exact lt_of_le_of_lt (Nat.div_le_self _ _) hB
  · exact lt_of_le_of_lt ((Nat.div_le_self _ _).trans hle) hB
  · exact (Nat.div_mul_le_self _ _).trans hle

theorem calculateOptimalDeposit_one (hA : reserveA < 2 ^ 127)
    (hB : reserveB < 2 ^ 127) (hApos : 0 < reserveA) (hBpos : 0 < reserveB) :
    ∃ a b, calculateOptimalDeposit reserveA reserveB 1 1 0 0 = .ok (a, b) ∧
      a ≤ 1 ∧ b ≤ 1 := by
  obtain ⟨qb, hqb, hqbA⟩ := calculateQuote_one hA hB hApos
  obtain ⟨qa, hqa, hqaB⟩ := calculateQuote_one hB hA hBpos
  by_cases hle : qb ≤ 1
  · exact ⟨1, qb, calculateOptimalDeposit_eq_ok.mpr ⟨qa, qb, hqa, hqb,
      Or.inl ⟨hle, Nat.zero_le _, rfl, rfl⟩⟩, le_rfl, hle⟩
  · -- one reserve is then at least twice the other
    have htwice : 2 * reserveA ≤ reserveB :=
      (Nat.mul_le_mul_right reserveA (by omega)).trans hqbA
    have hqa1 : qa ≤ 1 := by
      by_contra hgt
      have htwice' : 2 * reserveB ≤ reserveA :=
        (Nat.mul_le_mul_right reserveB (by omega)).trans hqaB
      omega
    exact ⟨qa, 1, calculateOptimalDeposit_eq_ok.mpr ⟨qa, qb, hqa, hqb,
      Or.inr ⟨by omega, Nat.zero_le _, hqa1, rfl, rfl⟩⟩, hqa1, le_rfl⟩

theorem calcDepositLiquidity1_one (hA : SharePriced reserveA supply)
    (hB : SharePriced reserveB supply) :
    ∃ a b m, calcDepositLiquidity1 supply reserveA reserveB 1 1 0 0 =
        .ok (a, b, m) ∧ a ≤ 1 ∧ b ≤ 1 ∧ m < 2 ^ 127 := by
  obtain ⟨a, b, hab, ha, hb⟩ := calculateOptimalDeposit_one hA.reserve_lt
    hB.reserve_lt hA.reserve_pos hB.reserve_pos
  obtain ⟨la, hla⟩ := liquidityFor_le_one hA ha
  obtain ⟨lb, hlb⟩ := liquidityFor_le_one hB hb
  have hlt := (liquidityFor_eq_ok_iff.mp hla).2.2.2
  exact ⟨a, b, Nat.min la lb, calcDepositLiquidity1_eq_ok.mpr
    ⟨hab, la, lb, hla, hlb, rfl⟩, ha, hb, lt_of_le_of_lt (min_le_left _ _) hlt⟩

/-! ### Raising a pool to the minimum liquidity -/

/-- A pool below the minimum liquidity has little of both assets. -/
theorem reserve_lt_of_rootProduct_lt (hBpos : 0 < reserveB)
    (h : rootProduct reserveA reserveB < minLiquidity) :
    reserveA < 10 ^ 6 := by
  by_contra hge
  have hrootA : 10 ^ 12 ≤ Nat.sqrt (reserveA * S) := by
    rw [Nat.le_sqrt]
    norm_num
    omega
  have hrootB : 10 ^ 9 ≤ Nat.sqrt (reserveB * S) := by
    rw [Nat.le_sqrt]
    norm_num
    omega
  have hproduct : 10 ^ 12 * 10 ^ 9 ≤
      Nat.sqrt (reserveA * S) * Nat.sqrt (reserveB * S) :=
    Nat.mul_le_mul hrootA hrootB
  have hlarge : minLiquidity ≤ rootProduct reserveA reserveB := by
    rw [rootProduct, Nat.le_div_iff_mul_le (by norm_num)]
    exact le_trans (by norm_num [minLiquidity]) hproduct
  omega

/-- A large amount buys the minimum liquidity of a small reserve. -/
theorem liquidityFor_raising (h : SharePriced reserve supply)
    (hreserve : reserve < 10 ^ 6) (hamount : amount < 2 ^ 127)
    (hmin : 10 ^ 9 ≤ amount) (hmax : amount ≤ 2 * (reserve * S / supply) * S) :
    ∃ l, liquidityFor amount reserve supply = .ok l ∧ minLiquidity ≤ l := by
  have hprice : 0 < reserve * S / supply :=
    Nat.div_pos h.price_pos h.supply_pos
  have hcheap : reserve * S / supply ≤ 10 ^ 6 * S :=
    (Nat.div_le_self _ _).trans (Nat.mul_le_mul_right S hreserve.le)
  refine ⟨_, liquidityFor_eq_ok_iff.mpr ⟨hamount, h, rfl, ?_⟩, ?_⟩
  · rw [Nat.div_lt_iff_lt_mul hprice]
    calc
      amount * S ≤ 2 * (reserve * S / supply) * S * S :=
        Nat.mul_le_mul_right S hmax
      _ = 2 * S * S * (reserve * S / supply) := by ring
      _ < 2 ^ 127 * (reserve * S / supply) :=
        Nat.mul_lt_mul_of_pos_right (by norm_num) hprice
  · rw [Nat.le_div_iff_mul_le hprice]
    calc
      minLiquidity * (reserve * S / supply) ≤ minLiquidity * (10 ^ 6 * S) :=
        Nat.mul_le_mul_left _ hcheap
      _ = 10 ^ 9 * S := by norm_num [minLiquidity]
      _ ≤ amount * S := Nat.mul_le_mul_right S hmin

theorem calculateOptimalDeposit_raising (hA : reserveA < 10 ^ 6)
    (hB : reserveB < 10 ^ 6) (hApos : 0 < reserveA) (hBpos : 0 < reserveB) :
    calculateOptimalDeposit reserveA reserveB S (reserveB * S / reserveA) 0 0 =
      .ok (S, reserveB * S / reserveA) := by
  have hscaled : reserveB * S < 10 ^ 6 * S :=
    Nat.mul_lt_mul_of_pos_right hB (by norm_num)
  have hy : reserveB * S / reserveA < 2 ^ 127 :=
    lt_of_le_of_lt (Nat.div_le_self _ _) (hscaled.trans (by norm_num))
  have hback : reserveB * S / reserveA * reserveA ≤ reserveB * S :=
    Nat.div_mul_le_self _ _
  have hqb : calculateQuote S reserveA reserveB =
      .ok (reserveB * S / reserveA) := by
    have hcancel : S * reserveB / S = reserveB :=
      Nat.mul_div_cancel_left _ (by norm_num)
    refine calculateQuote_eq_ok.mpr ⟨by norm_num, by omega, by omega, hApos, ?_,
      ?_, hy⟩
    · rw [hcancel]
      omega
    · rw [hcancel]
  have hqa : ∃ qa, calculateQuote (reserveB * S / reserveA) reserveB reserveA =
      .ok qa := by
    have hfloor : reserveB * S / reserveA * reserveA / S * S ≤ reserveB * S :=
      (Nat.div_mul_le_self _ _).trans hback
    refine ⟨_, calculateQuote_eq_ok.mpr ⟨hy, by omega, by omega, hBpos, ?_, rfl,
      ?_⟩⟩
    · exact lt_of_le_of_lt (Nat.div_le_self _ _)
        (lt_of_le_of_lt hback (hscaled.trans (by norm_num)))
    · apply lt_of_le_of_lt (Nat.div_le_self _ _)
      exact lt_of_le_of_lt hfloor (hscaled.trans (by norm_num))
  obtain ⟨qa, hqa⟩ := hqa
  exact calculateOptimalDeposit_eq_ok.mpr ⟨qa, _, hqa, hqb,
    Or.inl ⟨le_rfl, Nat.zero_le _, rfl, rfl⟩⟩

theorem reserves_lt_of_rootProduct_lt (hApos : 0 < reserveA)
    (hBpos : 0 < reserveB)
    (h : rootProduct reserveA reserveB < minLiquidity) :
    reserveA < 10 ^ 6 ∧ reserveB < 10 ^ 6 := by
  refine ⟨reserve_lt_of_rootProduct_lt hBpos h,
    reserve_lt_of_rootProduct_lt hApos ?_⟩
  rwa [rootProduct, Nat.mul_comm]

/-- What goes with a whole unit of the other asset. -/
theorem raisingAmount_bounds (hA : reserveA < 10 ^ 6) (hB : reserveB < 10 ^ 6)
    (hApos : 0 < reserveA) (hBpos : 0 < reserveB) :
    10 ^ 9 ≤ reserveB * S / reserveA ∧
      reserveB * S / reserveA ≤ balance (10 ^ 6) := by
  constructor
  · rw [Nat.le_div_iff_mul_le hApos]
    calc
      10 ^ 9 * reserveA ≤ 10 ^ 9 * 10 ^ 6 := Nat.mul_le_mul_left _ hA.le
      _ ≤ 1 * S := by norm_num
      _ ≤ reserveB * S := Nat.mul_le_mul_right S hBpos
  · calc
      reserveB * S / reserveA ≤ reserveB * S := Nat.div_le_self _ _
      _ ≤ 10 ^ 6 * S := Nat.mul_le_mul_right S hB.le

theorem calcDepositLiquidity1_raising (hA : SharePriced reserveA supply)
    (hB : SharePriced reserveB supply)
    (hroot : rootProduct reserveA reserveB < minLiquidity) :
    ∃ m, calcDepositLiquidity1 supply reserveA reserveB S
        (reserveB * S / reserveA) 0 0 =
          .ok (S, reserveB * S / reserveA, m) ∧
      m < 2 ^ 127 ∧ minLiquidity ≤ m := by
  have hApos := hA.reserve_pos
  have hBpos := hB.reserve_pos
  obtain ⟨hAlt, hBlt⟩ := reserves_lt_of_rootProduct_lt hApos hBpos hroot
  have hpriceA : 0 < reserveA * S / supply :=
    Nat.div_pos hA.price_pos hA.supply_pos
  have hone : S ≤ 2 * (reserveA * S / supply) * S :=
    calc
      S = 1 * S := (Nat.one_mul S).symm
      _ ≤ 2 * (reserveA * S / supply) * S :=
        Nat.mul_le_mul_right S (by omega)
  obtain ⟨la, hla, hlaMin⟩ :=
    liquidityFor_raising hA hAlt (by norm_num) (by norm_num) hone
  obtain ⟨hmin, hle⟩ := raisingAmount_bounds hAlt hBlt hApos hBpos
  have hlt : reserveB * S / reserveA < 2 ^ 127 :=
    lt_of_le_of_lt hle (by decide)
  have hmax : reserveB * S / reserveA ≤ 2 * (reserveB * S / supply) * S := by
    have hpriceB : 0 < reserveB * S / supply :=
      Nat.div_pos hB.price_pos hB.supply_pos
    -- flooring a quotient of at least one loses less than half of it
    have hhalf : reserveB * S ≤ 2 * (reserveB * S / supply) * supply := by
      have hrest := Nat.lt_div_mul_add (a := reserveB * S) hB.supply_pos
      have hone : supply ≤ reserveB * S / supply * supply :=
        Nat.le_mul_of_pos_left _ hpriceB
      calc
        reserveB * S ≤ reserveB * S / supply * supply +
            reserveB * S / supply * supply := by omega
        _ = 2 * (reserveB * S / supply) * supply := by ring
    rw [Nat.div_le_iff_le_mul_add_pred hApos]
    calc
      reserveB * S ≤ 2 * (reserveB * S / supply) * supply := hhalf
      _ ≤ 2 * (reserveB * S / supply) * (reserveA * S) :=
        Nat.mul_le_mul_left _ hA.price_pos
      _ = reserveA * (2 * (reserveB * S / supply) * S) := by ring
      _ ≤ _ := Nat.le_add_right _ _
  obtain ⟨lb, hlb, hlbMin⟩ := liquidityFor_raising hB hBlt hlt hmin hmax
  have hfits := (liquidityFor_eq_ok_iff.mp hla).2.2.2
  exact ⟨Nat.min la lb, calcDepositLiquidity1_eq_ok.mpr
    ⟨calculateOptimalDeposit_raising hAlt hBlt hApos hBpos, la, lb, hla, hlb,
      rfl⟩, lt_of_le_of_lt (min_le_left _ _) hfits, le_min hlaMin hlbMin⟩

end

/-! ## Deposits by whoever can pay -/

/-- An account holds an amount of an asset and may pay it. -/
def CanPay (s : Storage T) (assetId : T.AssetId) (who : T.AccountId)
    (amount : ℕ) : Prop :=
  amount ≤ s.free assetId who ∧
    Assets.ensureCanWithdraw s assetId who amount = .ok ()

/-- A deposit of the amounts succeeds, with no minimum for either. -/
def Deposits (s : Storage T) (dexId : T.DEXId) (assetA assetB : T.AssetId)
    (who : Signer T) (x y : ℕ) : Prop :=
  Extrinsic.Succeeds s (who, .depositLiquidity dexId assetA assetB x y 0 0)

/-- Some amounts, of at most a million each, are taken from whoever can pay
them. -/
def Fundable (s : Storage T) (dexId : T.DEXId) (assetA assetB : T.AssetId) :
    Prop :=
  ∃ x y, x ≤ balance (10 ^ 6) ∧ y ≤ balance (10 ^ 6) ∧ ∀ who : Signer T,
    CanPay s assetA who.account x → CanPay s assetB who.account y →
      Deposits s dexId assetA assetB who x y

/-- The marker asset can be minted, and the pool is empty or its marker tokens
have a price in both reserves. -/
structure TakesDeposits (s : Storage T) (techAcc : TechAccountIdOf T)
    (assetA assetB marker : T.AssetId) : Prop where
  markerExists : Assets.Exists s marker
  markerMintable : (s.assetInfos marker).isMintable = true
  reserves :
    s.free assetA (techAccountIdToAccountId techAcc) = 0 ∧
        s.free assetB (techAccountIdToAccountId techAcc) = 0 ∨
      SharePriced (s.free assetA (techAccountIdToAccountId techAcc))
          (s.issuance marker) ∧
        SharePriced (s.free assetB (techAccountIdToAccountId techAcc))
          (s.issuance marker)

section

variable {s : Storage T} {dexId : T.DEXId} {assetA assetB marker : T.AssetId}
variable {techAcc : TechAccountIdOf T} {who : Signer T} {x y : ℕ}

/-- Where a deposit succeeds the marker tokens can be minted and have a
price. -/
theorem takesDeposits_of_deposits
    (hpool : IsPoolOf s dexId assetA assetB techAcc)
    (hmarker : IsMarkerOf techAcc marker)
    (h : Deposits s dexId assetA assetB who x y) :
    TakesDeposits s techAcc assetA assetB marker := by
  obtain ⟨found, mark, t, l, l', hfound, -, hsettles, -⟩ :=
    run_depositLiquidity_ok.mp (Extrinsic.succeeds_iff.mp h)
  obtain rfl := hfound.unique hpool
  obtain ⟨mark', hmark', rfl⟩ := hmarker
  have hmark := hsettles.agreed.marker
  have hsame : T.techAssetIdTryFrom (markingAssetId found) = some mark := hmark
  rw [hmark', Option.some.injEq] at hsame
  subst hsame
  refine ⟨hsettles.payable.markerExists, hsettles.payable.markerMintable, ?_⟩
  rcases hsettles.agreed.amounts with hfirst | ⟨-, hlater⟩
  · exact Or.inl hfirst.empty
  · obtain ⟨_, _, _, _, -, -, -, -, hcalc⟩ := hlater.ranges
    obtain ⟨-, la, lb, hla, hlb, -⟩ := calcDepositLiquidity1_eq_ok.mp hcalc
    exact Or.inr ⟨(liquidityFor_eq_ok_iff.mp hla).2.1,
      (liquidityFor_eq_ok_iff.mp hlb).2.1⟩

/-- Terms of a deposit that need no more than the desired amounts and whose
marker tokens can be issued. -/
structure Affordable (s : Storage T) (action : DepositLiquidityAction T)
    (t : DepositLiquidityAction.Terms) (x y : ℕ) : Prop where
  agreed : DepositLiquidityAction.AmountsAgreed s action t
  amountA : t.amountA ≤ x
  amountB : t.amountB ≤ y
  minted : s.issuance action.marker + t.minted < balanceModulus

/-- The first deposit of the suitable amounts mints exactly the minimum
liquidity, which it locks. -/
theorem affordable_of_empty {mark : T.TechAssetId}
    (hM : T.currency.Lawful balanceModulus)
    (hA : s.free assetA (techAccountIdToAccountId techAcc) = 0)
    (hB : s.free assetB (techAccountIdToAccountId techAcc) = 0) :
    ∃ t, Affordable s (depositAction techAcc assetA assetB (10 ^ 6) 1 0 0 mark) t
      (10 ^ 6) 1 := by
  have hroot : poolLiquidity (10 ^ 6) 1 = .ok minLiquidity := by
    decide +kernel
  refine ⟨⟨.rangeFromDesiredToMin (10 ^ 6) 0, .rangeFromDesiredToMin 1 0,
    10 ^ 6, 1, 0⟩, Or.inl ?_, le_rfl, le_rfl, hM.issuance_lt _ _⟩
  exact
    { empty := ⟨hA, hB⟩
      fst := rfl
      snd := rfl
      amountA := rfl
      amountB := rfl
      liquidity := by
        refine ⟨minLiquidity, hroot, ?_, ?_, ?_⟩
        · intro k hk
          cases hk
        · intro hlocked
          exact lt_irrefl _ hlocked.1
        · rfl }

/-- A later deposit of amounts that buy what the pool is short of. -/
theorem affordable_of_priced {mark : T.TechAssetId} {a b m : ℕ}
    (hexists : Assets.Exists s (T.techAssetIdInto mark))
    (hA : SharePriced (s.free assetA (techAccountIdToAccountId techAcc))
      (s.issuance (T.techAssetIdInto mark)))
    (hB : SharePriced (s.free assetB (techAccountIdToAccountId techAcc))
      (s.issuance (T.techAssetIdInto mark)))
    (hcalc : calcDepositLiquidity1 (s.issuance (T.techAssetIdInto mark))
      (s.free assetA (techAccountIdToAccountId techAcc))
      (s.free assetB (techAccountIdToAccountId techAcc)) x y 0 0 =
        .ok (a, b, m))
    (ha : a ≤ x) (hb : b ≤ y) (hm : m < 2 ^ 127)
    (hshort : minLiquidity ≤ rootProduct
        (s.free assetA (techAccountIdToAccountId techAcc))
        (s.free assetB (techAccountIdToAccountId techAcc)) ∨
      minLiquidity ≤ m) :
    ∃ t, Affordable s (depositAction techAcc assetA assetB x y 0 0 mark) t
      x y := by
  refine ⟨⟨.calculated a, .calculated b, a, b, m⟩, Or.inr ⟨hexists, ?_⟩, ha, hb,
    ?_⟩
  · exact
      { reserves := ⟨hA.reserve_pos, hB.reserve_pos⟩
        fst := rfl
        snd := rfl
        ranges := ⟨x, 0, y, 0, rfl, rfl, Nat.zero_le _, Nat.zero_le _, hcalc⟩
        notDesired := by
          intro k hk
          cases hk
        liquidity := by
          refine ⟨_, poolLiquidity_eq hA.reserve_lt hB.reserve_lt, ?_⟩
          rintro ⟨hlow, hfew⟩
          rcases hshort with hroot | hmin
          · exact absurd hlow (not_lt.mpr hroot)
          · exact absurd hfew (not_lt.mpr ((Nat.sub_le _ _).trans hmin)) }
  · have hsupply := hA.supply_lt
    change s.issuance (T.techAssetIdInto mark) + m < balanceModulus
    unfold balanceModulus
    omega

/-- The suitable amounts are affordable in a pool that takes deposits. -/
theorem affordable_of_takesDeposits {mark : T.TechAssetId}
    (hM : T.currency.Lawful balanceModulus)
    (h : TakesDeposits s techAcc assetA assetB (T.techAssetIdInto mark)) :
    ∃ x y, (0 < x ∧ x ≤ balance (10 ^ 6)) ∧ (0 < y ∧ y ≤ balance (10 ^ 6)) ∧
      ∃ t, Affordable s (depositAction techAcc assetA assetB x y 0 0 mark) t
        x y := by
  rcases h.reserves with ⟨hA, hB⟩ | ⟨hA, hB⟩
  · exact ⟨10 ^ 6, 1, by decide, by decide, affordable_of_empty hM hA hB⟩
  · by_cases hroot : rootProduct
        (s.free assetA (techAccountIdToAccountId techAcc))
        (s.free assetB (techAccountIdToAccountId techAcc)) < minLiquidity
    · obtain ⟨m, hcalc, hm, hmin⟩ := calcDepositLiquidity1_raising hA hB hroot
      obtain ⟨hAlt, hBlt⟩ := reserves_lt_of_rootProduct_lt hA.reserve_pos
        hB.reserve_pos hroot
      obtain ⟨hleast, hmost⟩ := raisingAmount_bounds hAlt hBlt hA.reserve_pos
        hB.reserve_pos
      exact ⟨S, _, by decide, ⟨by omega, hmost⟩, affordable_of_priced h.markerExists hA
        hB hcalc le_rfl le_rfl hm (Or.inr hmin)⟩
    · obtain ⟨a, b, m, hcalc, ha, hb, hm⟩ := calcDepositLiquidity1_one hA hB
      exact ⟨1, 1, by decide, by decide, affordable_of_priced h.markerExists hA
        hB hcalc ha hb hm (Or.inl (not_lt.mp hroot))⟩

/-- Two payments into a pool go through when both are covered, and the marker
asset is not touched. -/
theorem payAll_deposit_of_le (techAcc : TechAccountIdOf T)
    (mark : T.TechAssetId) {t : DepositLiquidityAction.Terms}
    (hM : T.currency.Lawful balanceModulus) (hC : T.currency.Checked)
    (hne : assetA ≠ assetB) (hleA : t.amountA ≤ x) (hleB : t.amountB ≤ y)
    (hcanA : T.currency.ensureCanWithdraw assetA who.account x s.ledger = .ok ())
    (hcanB : T.currency.ensureCanWithdraw assetB who.account y s.ledger =
      .ok ()) :
    ∃ l, T.currency.payAll
        ((depositAction techAcc assetA assetB x y 0 0 mark).payments
          who.account t) s.ledger = .ok l ∧
      ∀ assetId, (T.currency.book l).issuance assetId = s.issuance assetId := by
  obtain ⟨l₁, hl₁⟩ := hM.transfer_succeeds (hC.ensureCanWithdraw_of_le hleA hcanA)
    (techAccountIdToAccountId techAcc)
  have hcanB' : T.currency.ensureCanWithdraw assetB who.account t.amountB l₁ =
      .ok () := by
    rw [hM.ensureCanWithdraw_transfer hl₁ hne.symm]
    exact hC.ensureCanWithdraw_of_le hleB hcanB
  obtain ⟨l₂, hl₂⟩ := hM.transfer_succeeds hcanB'
    (techAccountIdToAccountId techAcc)
  refine ⟨l₂, ?_, fun assetId => ?_⟩
  · exact MultiCurrency.payAll_cons_eq_ok.mpr
      ⟨l₁, hl₁, MultiCurrency.payAll_cons_eq_ok.mpr ⟨l₂, hl₂, rfl⟩⟩
  · rw [(hM.transfer_ok hl₂).2, (hM.transfer_ok hl₁).2]
    rfl

/-- Whoever can pay the desired amounts of affordable terms settles them. -/
theorem deposits_of_affordable {mark : T.TechAssetId}
    {t : DepositLiquidityAction.Terms}
    (hM : T.currency.Lawful balanceModulus) (hC : T.currency.Checked)
    (hpool : IsPoolOf s dexId assetA assetB techAcc)
    (hregistered : IsRegistered s techAcc)
    (hmark : T.techAssetIdTryFrom (markingAssetId techAcc) = some mark)
    (hmints : Assets.Permitted s (techAccountIdToAccountId techAcc)
      Permissions.mint (T.techAssetIdInto mark))
    (h : TakesDeposits s techAcc assetA assetB (T.techAssetIdInto mark))
    (ht : Affordable s (depositAction techAcc assetA assetB x y 0 0 mark) t x y)
    (hx : 0 < x) (hy : 0 < y) (hpayA : CanPay s assetA who.account x)
    (hpayB : CanPay s assetB who.account y) :
    Deposits s dexId assetA assetB who x y := by
  obtain ⟨hA, hpermittedA, hcanA⟩ := Assets.ensureCanWithdraw_eq_ok.mp hpayA.2
  obtain ⟨hB, hpermittedB, hcanB⟩ := Assets.ensureCanWithdraw_eq_ok.mp hpayB.2
  obtain ⟨l, hpaid, hissuance⟩ := payAll_deposit_of_le techAcc mark hM hC
    hpool.assets_ne ht.amountA ht.amountB hcanA hcanB
  obtain ⟨l', hminted⟩ := hM.deposit_succeeds (c := T.techAssetIdInto mark)
    (n := t.minted) (l := l) (by
      rw [hissuance]
      exact ht.minted) who.account
  have hagreed : DepositLiquidityAction.Agreed s
      (depositAction techAcc assetA assetB x y 0 0 mark) who.account t :=
    { client := Or.inl rfl
      registered := hregistered
      marker := hmark
      fstExists := hA
      sndExists := hB
      signerPositive := ⟨lt_of_lt_of_le hx hpayA.1, lt_of_lt_of_le hy hpayB.1⟩
      amounts := ht.agreed
      lockedLiquidity := le_rfl
      covered := ⟨ht.amountA.trans hpayA.1, ht.amountB.trans hpayB.1⟩ }
  have hpayable : DepositLiquidityAction.Payable s
      (depositAction techAcc assetA assetB x y 0 0 mark) who.account :=
    { registered := hregistered
      fstExists := hA
      sndExists := hB
      fstPermitted := hpermittedA
      sndPermitted := hpermittedB
      markerExists := h.markerExists
      poolPermitted := hmints
      markerMintable := h.markerMintable }
  have hrun := run_depositLiquidity_ok (u := ()).mpr
    ⟨techAcc, mark, t, l, l', hpool, ⟨Nat.zero_le _, Nat.zero_le _⟩,
      ⟨hagreed, hpayable, hpaid, hminted⟩, rfl⟩
  exact congrArg Prod.fst hrun

/-- A pool that takes deposits and whose account may mint its marker asset can be
funded. -/
theorem fundable_of_takesDeposits (hM : T.currency.Lawful balanceModulus)
    (hC : T.currency.Checked) (hpool : IsPoolOf s dexId assetA assetB techAcc)
    (hregistered : IsRegistered s techAcc) (hmarker : IsMarkerOf techAcc marker)
    (hmints : Assets.Permitted s (techAccountIdToAccountId techAcc)
      Permissions.mint marker)
    (h : TakesDeposits s techAcc assetA assetB marker) :
    Fundable s dexId assetA assetB := by
  obtain ⟨mark, hmark, rfl⟩ := hmarker
  obtain ⟨x, y, ⟨hx, hxle⟩, ⟨hy, hyle⟩, t, ht⟩ :=
    affordable_of_takesDeposits hM h
  refine ⟨x, y, hxle, hyle, ?_⟩
  intro who hpayA hpayB
  exact deposits_of_affordable hM hC hpool hregistered hmark hmints h ht hx hy
    hpayA hpayB

end

/-! ## Runs -/

/-- The account of every registered pool may mint its marker asset. -/
def KeepersMint (s : Storage T) : Prop :=
  ∀ dexId tpair, IsRegistered s (keeperOf dexId tpair) →
    ∃ marker, IsMarkerOf (keeperOf dexId tpair) marker ∧
      Permissions.mint ∈ Permissions.held s
        (techAccountIdToAccountId (keeperOf dexId tpair))
        (.limited (T.hashAssetId marker))

theorem KeepersMint.step (hT : T.CollisionFree) {s : Storage T}
    {x : Extrinsic T} (h : KeepersMint s) : KeepersMint (step s x) := by
  intro dexId tpair hregistered
  rcases (step_registry s x).newPool hT hregistered with hold |
    ⟨_, assetA, assetB, feeAcc, marker, -, hinit⟩
  · obtain ⟨marker, hmarker, hheld⟩ := h dexId tpair hold
    exact ⟨marker, hmarker, (step_extends s x).held _ _ _ hheld⟩
  · exact ⟨marker, hinit.isMarker, hinit.poolMints⟩

/-- In every state of a run from a genesis without pools, a registered pool whose
marker asset can be minted and that is empty, or whose marker tokens have a price
in both reserves, takes suitable amounts from whoever can pay them; any other
pool takes no deposit from anyone. -/
theorem pools_fundable_iff (hT : T.CollisionFree)
    (hM : T.currency.Lawful balanceModulus) (hC : T.currency.Checked)
    {genesis : Storage T}
    (hgenesis : ∀ dexId tpair, ¬IsRegistered genesis (keeperOf dexId tpair))
    (hmode : genesis.modes Permissions.mint = some .permit)
    (extrinsics : List (Extrinsic T)) {dexId : T.DEXId}
    {assetA assetB : T.AssetId} {techAcc : TechAccountIdOf T}
    (hpool : IsPoolOf (runs genesis extrinsics) dexId assetA assetB techAcc)
    (hregistered : IsRegistered (runs genesis extrinsics) techAcc) :
    ∃ marker, IsMarkerOf techAcc marker ∧
      (TakesDeposits (runs genesis extrinsics) techAcc assetA assetB marker →
        Fundable (runs genesis extrinsics) dexId assetA assetB) ∧
      ((∃ who x y, Deposits (runs genesis extrinsics) dexId assetA assetB who x
          y) →
        TakesDeposits (runs genesis extrinsics) techAcc assetA assetB
          marker) := by
  have hstart : KeepersMint genesis :=
    fun dexId tpair h => absurd h (hgenesis dexId tpair)
  have hrun : KeepersMint (runs genesis extrinsics) :=
    runAll_invariant (fun _ _ hs _ => hs.step hT) extrinsics genesis hstart
      (along_of_forall_mem fun _ _ => trivial)
  obtain ⟨tpair, rfl⟩ := hpool.keeper
  obtain ⟨marker, hmarker, hheld⟩ := hrun dexId tpair hregistered
  have hmode' : (runs genesis extrinsics).modes Permissions.mint =
      some .permit := by
    rw [(runs_extends genesis extrinsics).modes]
    exact hmode
  have hmints : Assets.Permitted (runs genesis extrinsics)
      (techAccountIdToAccountId (keeperOf dexId tpair)) Permissions.mint
      marker := by
    rw [Assets.Permitted, Assets.checkPermissionMaybeWithParameters,
      Permissions.checkPermissionWithScope_of_held hmode' hheld]
  refine ⟨marker, hmarker, ?_, ?_⟩
  · intro htakes
    exact fundable_of_takesDeposits hM hC hpool hregistered hmarker hmints htakes
  · rintro ⟨who, x, y, hdeposits⟩
    exact takesDeposits_of_deposits hpool hmarker hdeposits

/-- Bob opens a pool and deposits a million units of both assets. -/
def openedAndFunded : List (Extrinsic Mock.runtime) :=
  Mock.openPool Mock.dexA Mock.redPepper ++
    [Mock.deposit Mock.dexA Mock.redPepper (1000000 * Mock.unit)
      (1000000 * Mock.unit)]

/-- Then he redeems every marker token. -/
@[irreducible] def redeemed : Storage Mock.runtime :=
  runs Mock.genesis (openedAndFunded ++
    [(Mock.bob, .withdrawLiquidity Mock.dexA Mock.goldenTicket Mock.redPepper
      (1000000 * Mock.unit - 1000) 0 0)])

/-- Bob opens a pool and gives it one unit before the first deposit. -/
@[irreducible] def spoiled : Storage Mock.runtime :=
  runs Mock.genesis (Mock.openPool Mock.dexA Mock.redPepper ++
    [(Mock.bob, .assetsTransfer Mock.redPepper
      (Mock.poolAccountOf Mock.dexA Mock.redPepper) Mock.unit)])

/-- The funded pool takes more. -/
theorem pools_fundable_iff_sample :
    Fundable (runs Mock.genesis openedAndFunded) Mock.dexA Mock.goldenTicket
      Mock.redPepper := by
  have hpool : IsPoolOf (runs Mock.genesis openedAndFunded) Mock.dexA
      Mock.goldenTicket Mock.redPepper
      (Mock.poolOf Mock.dexA Mock.redPepper) :=
    Mock.isPoolOf (by decide +kernel) (by decide)
  obtain ⟨marker, ⟨mark, hmark, rfl⟩, hfundable, -⟩ :=
    pools_fundable_iff (T := Mock.runtime) Mock.collisionFree
      Mock.currency_lawful CoinLedger.currency_checked unregistered_genesis
      (by decide +kernel) openedAndFunded hpool (by decide +kernel)
  cases hmark
  apply hfundable
  exact ⟨by decide +kernel, by decide +kernel, Or.inr (by decide +kernel)⟩

/-- A pool of the sample runtime that is open, has something of the second asset
and has no marker token in circulation. -/
structure Stranded (s : Storage Mock.runtime) : Prop where
  pool : IsPoolOf s Mock.dexA Mock.goldenTicket Mock.redPepper
    (Mock.poolOf Mock.dexA Mock.redPepper)
  registered : IsRegistered s (Mock.poolOf Mock.dexA Mock.redPepper)
  reserve : s.free Mock.redPepper (Mock.poolAccountOf Mock.dexA Mock.redPepper) ≠
    0
  issuance : s.issuance (Mock.markerOf Mock.dexA Mock.redPepper) = 0

theorem Stranded.refuses {s : Storage Mock.runtime} (h : Stranded s)
    (who : Signer Mock.runtime) (x y : ℕ) :
    ¬Deposits s Mock.dexA Mock.goldenTicket Mock.redPepper who x y := by
  intro hdeposits
  have hmarker : IsMarkerOf (Mock.poolOf Mock.dexA Mock.redPepper)
      (Mock.markerOf Mock.dexA Mock.redPepper) := ⟨_, rfl, rfl⟩
  have htakes := takesDeposits_of_deposits h.pool hmarker hdeposits
  rcases htakes.reserves with ⟨-, hempty⟩ | ⟨-, hpriced⟩
  · exact h.reserve hempty
  · have hpos := hpriced.supply_pos
    rw [h.issuance] at hpos
    exact lt_irrefl 0 hpos

/-- The pool is open and Bob can pay a million units of both assets, but nobody
can deposit anything. -/
structure RefusesDeposits (s : Storage Mock.runtime) : Prop where
  pool : IsPoolOf s Mock.dexA Mock.goldenTicket Mock.redPepper
    (Mock.poolOf Mock.dexA Mock.redPepper)
  registered : IsRegistered s (Mock.poolOf Mock.dexA Mock.redPepper)
  payable : CanPay s Mock.goldenTicket Mock.bob.account (balance (10 ^ 6)) ∧
    CanPay s Mock.redPepper Mock.bob.account (balance (10 ^ 6))
  refused : ∀ who x y,
    ¬Deposits s Mock.dexA Mock.goldenTicket Mock.redPepper who x y

/-- In the one pool there is no marker token left to divide by, in the other
there is only one reserve. -/
theorem stranded_pools_refuse_deposits :
    RefusesDeposits redeemed ∧ RefusesDeposits spoiled := by
  have hredeemed : Stranded redeemed :=
    ⟨Mock.isPoolOf (by decide +kernel) (by decide), by decide +kernel,
      by decide +kernel, by decide +kernel⟩
  have hspoiled : Stranded spoiled :=
    ⟨Mock.isPoolOf (by decide +kernel) (by decide), by decide +kernel,
      by decide +kernel, by decide +kernel⟩
  constructor
  · exact ⟨hredeemed.pool, hredeemed.registered,
      ⟨⟨by decide +kernel, by decide +kernel⟩,
        ⟨by decide +kernel, by decide +kernel⟩⟩, hredeemed.refuses⟩
  · exact ⟨hspoiled.pool, hspoiled.registered,
      ⟨⟨by decide +kernel, by decide +kernel⟩,
        ⟨by decide +kernel, by decide +kernel⟩⟩, hspoiled.refuses⟩

end PoolXyk
end SoraParachain

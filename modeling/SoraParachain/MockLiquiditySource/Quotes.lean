import SoraParachain.Mock
import SoraParachain.MockLiquiditySource.Prices

/-!
# What the quotes promise

A quoted output never exceeds what the constant product allows.  An exact output
is priced with products and quotients that are rounded down, and topped up by at
most one unit: paying the quoted input brings the output but for what is lost to
that rounding, and no input that brings it is much smaller.
-/

namespace SoraParachain
namespace MockLiquiditySource

open FlooredExchange
open LiquidityProxy (FixedSwapOutcome)

variable {T : Config} {I : Instance} {φ x y u q : ℕ}

/-- Paying `u` into a reserve `x` and taking `o` from a reserve `y` empties
nothing and keeps the product. -/
structure WithinProduct (x y u o : ℕ) : Prop where
  lt : o < y
  product : x * y ≤ (x + u) * (y - o)

theorem WithinProduct.mono {o o' v : ℕ} (h : WithinProduct x y u o)
    (ho : o' ≤ o) (hu : u ≤ v) : WithinProduct x y v o' where
  lt := lt_of_le_of_lt ho h.lt
  product := h.product.trans
    (Nat.mul_le_mul (Nat.add_le_add_left hu x) (Nat.sub_le_sub_left ho y))

theorem withinProduct_grossOut (hx : 0 < x) (hy : 0 < y) :
    WithinProduct x y u (grossOut one18 x y u) :=
  ⟨grossOut_lt hx hy, product_le_of_mul_le grossOut_mul_le⟩

theorem withinProduct_targetBought (hx : 0 < x) (hy : 0 < y) :
    WithinProduct x y u (targetBought φ x y u) :=
  (withinProduct_grossOut hx hy).mono (Nat.le_refl _) netOf_le

theorem withinProduct_baseBought (hx : 0 < x) (hy : 0 < y) :
    WithinProduct y x u (baseBought φ x y u) :=
  (withinProduct_grossOut hy hx).mono netOf_le (Nat.le_refl _)

/-! ## Exact outputs -/

/-- The input for a target output brings it, but for one unit and the rounding
of the products. -/
theorem targetBought_toppedUp (hφ : φ < one18) (hx : 0 < x) (hq : q < y) :
    (q - targetBought φ x y
        (toppedUp (targetBought φ x y) (baseWithFee φ x y q) q) - 1) * x <
      2 * one18 + y := by
  set a := toppedUp (targetBought φ x y) (baseWithFee φ x y q) q with ha
  have hcovered : grossIn one18 x y q ≤ netOf one18 φ a :=
    (le_netOf_grossUp hφ).trans (netOf_mono hφ.le le_toppedUp)
  have hwanted : q * (x + netOf one18 φ a) <
      (targetBought φ x y a + 1) * (x + netOf one18 φ a) +
        (2 * one18 + (y - q)) :=
    wanted_lt_of_grossIn_le (by decide) hx hq hcovered
  have hshort : (q - targetBought φ x y a - 1) * (x + netOf one18 φ a) <
      2 * one18 + (y - q) := by
    rw [Nat.sub_sub, Nat.sub_mul]
    omega
  have hle : (q - targetBought φ x y a - 1) * x ≤
      (q - targetBought φ x y a - 1) * (x + netOf one18 φ a) :=
    Nat.mul_le_mul_left _ (Nat.le_add_right _ _)
  omega

/-- An input that brings a target output is at most two units smaller than the
input that is asked for it. -/
theorem toppedUp_le_of_targetBought (hφ : 2 * φ ≤ one18) (hq : q < y)
    (hu : q ≤ targetBought φ x y u) :
    toppedUp (targetBought φ x y) (baseWithFee φ x y q) q ≤ u + 2 := by
  have hcost : grossIn one18 x y q ≤ netOf one18 φ u :=
    grossIn_le_of_le_grossOut hq hu
  have hup : baseWithFee φ x y q ≤ u + 1 :=
    (grossUp_mono hcost).trans (grossUp_netOf_le (by decide) hφ)
  exact toppedUp_le.trans (by omega)

/-- The input for a base output brings it, but for one unit and the rounding of
the products. -/
theorem baseBought_toppedUp (hφ : φ < one18) (hy : 0 < y)
    (hq : grossUp one18 φ q < x) :
    (q - baseBought φ x y
        (toppedUp (baseBought φ x y) (targetWithFee φ x y q) q) - 1) * y <
      2 * one18 + x := by
  set a := toppedUp (baseBought φ x y) (targetWithFee φ x y q) q with ha
  set w := grossUp one18 φ q with hw
  have hwanted : w * (y + a) < (grossOut one18 y x a + 1) * (y + a) +
      (2 * one18 + (x - w)) :=
    wanted_lt_of_grossIn_le (by decide) hy hq le_toppedUp
  have hshort : (w - grossOut one18 y x a - 1) * (y + a) <
      2 * one18 + (x - w) := by
    rw [Nat.sub_sub, Nat.sub_mul]
    omega
  have hnet : q ≤ baseBought φ x y a + (w - grossOut one18 y x a) := by
    have hw' : w ≤ grossOut one18 y x a + (w - grossOut one18 y x a) := by
      omega
    exact ((le_netOf_grossUp hφ).trans (netOf_mono hφ.le hw')).trans
      (netOf_add_le _ _)
  have hle : (q - baseBought φ x y a - 1) * y ≤
      (w - grossOut one18 y x a - 1) * (y + a) :=
    Nat.mul_le_mul (by omega) (Nat.le_add_right _ _)
  omega

/-- An input that brings a base output is smaller than the input that is asked
for it by at most one unit and the price of another. -/
theorem toppedUp_le_of_baseBought (hφ : 2 * φ ≤ one18)
    (hq : grossUp one18 φ q < x) (hu : q ≤ baseBought φ x y u) :
    (toppedUp (baseBought φ x y) (targetWithFee φ x y q) q - u - 1) *
      (x - grossUp one18 φ q) ≤ y + u := by
  set a := toppedUp (baseBought φ x y) (targetWithFee φ x y q) q with ha
  set w := grossUp one18 φ q with hw
  have hwLe : w ≤ grossOut one18 y x u + 1 :=
    (grossUp_mono hu).trans (grossUp_netOf_le (by decide) hφ)
  have hbrought : w * (y + u) ≤ u * x + (y + u) := by
    calc
      w * (y + u) ≤ (grossOut one18 y x u + 1) * (y + u) :=
        Nat.mul_le_mul_right _ hwLe
      _ = grossOut one18 y x u * (y + u) + (y + u) := Nat.succ_mul _ _
      _ ≤ u * x + (y + u) := Nat.add_le_add_right grossOut_mul_le _
  have hcost : targetWithFee φ x y q * (x - w) ≤ y * w := grossIn_mul_le
  have hpaid : y * w ≤ u * (x - w) + (y + u) := by
    rw [Nat.mul_sub]
    have hexpand : w * (y + u) = y * w + u * w := by ring
    have hle : u * w ≤ u * x := Nat.mul_le_mul_left u hq.le
    omega
  have hdiff : (targetWithFee φ x y q - u) * (x - w) ≤ y + u := by
    rw [Nat.sub_mul]
    omega
  have ha' : a ≤ targetWithFee φ x y q + 1 := toppedUp_le
  exact (Nat.mul_le_mul_right _ (by omega)).trans hdiff

/-! ## The quotes of the pallet -/

section

variable {reserves : Reserves T} {dexId : T.DEXId}
variable {inputAssetId outputAssetId : T.AssetId} {o : SwapOutcome}

/-- The reserve of the base asset for an asset, in units. -/
def baseReserve (reserves : Reserves T) (dexId : T.DEXId)
    (assetId : T.AssetId) : ℕ :=
  (reserves.get dexId assetId).1.bits.toNat

def targetReserve (reserves : Reserves T) (dexId : T.DEXId)
    (assetId : T.AssetId) : ℕ :=
  (reserves.get dexId assetId).2.bits.toNat

/-- Every price starts with two checks, the second one of the reserves. -/
theorem reserves_pos {α : Type} {c : Prop} [Decidable c]
    {e e' : DispatchError} {a b : FixedNumber} {f : Unit → Result α} {r : α}
    (h : (do
      ensure c e
      let u ← ensure (a.bits > 0 ∧ b.bits > 0) e'
      f u) = .ok r) :
    a.bits = (a.bits.toNat : ℤ) ∧ b.bits = (b.bits.toNat : ℤ) := by
  obtain ⟨_, -, h⟩ := Tx.except_bind_eq_ok.mp h
  obtain ⟨_, hpos, -⟩ := Tx.except_bind_eq_ok.mp h
  have hpos := ensure_eq_ok.mp hpos
  omega

theorem intoBalances_eq_ok {p : FixedSwapOutcome} :
    I.intoBalances p = .ok o ↔ p.amount.bits = o.amount ∧ p.fee.bits = o.fee := by
  obtain ⟨amount, fee⟩ := o
  simp only [Instance.intoBalances, Instance.getBalance,
    Tx.except_bind_eq_ok, okOr_eq_ok, balanceOfFixed_eq_some]
  constructor
  · rintro ⟨n, hn, m, hm, h⟩
    cases h
    exact ⟨hn, hm⟩
  · rintro ⟨hn, hm⟩
    exact ⟨amount, hn, fee, hm, rfl⟩

theorem withBothFees_amount {a f g : FixedNumber}
    (h : I.withBothFees a f g = .ok o) : a.bits = o.amount := by
  obtain ⟨n, hn, h⟩ := Tx.except_bind_eq_ok.mp h
  obtain ⟨m, -, h⟩ := Tx.except_bind_eq_ok.mp h
  cases h
  exact balanceOfFixed_eq_some.mp (okOr_eq_ok.mp hn)

/-- A conversion of an exact input leaves its amount. -/
theorem tryFrom_input {d m : ℕ} {f : FixedSwapAmount}
    (h : FixedSwapAmount.tryFrom (.withDesiredInput d m) = some f) :
    ∃ a b, f = .withDesiredInput a b ∧ a.bits = (d : ℤ) := by
  rw [FixedSwapAmount.tryFrom] at h
  obtain ⟨a, ha, h⟩ := Option.bind_eq_some_iff.mp h
  obtain ⟨b, -, h⟩ := Option.bind_eq_some_iff.mp h
  cases h
  exact ⟨a, b, rfl, fixedOfBalance_eq_some.mp ha⟩

theorem tryFrom_output {q m : ℕ} {f : FixedSwapAmount}
    (h : FixedSwapAmount.tryFrom (clampMaximum (.withDesiredOutput q m)) =
      some f) :
    ∃ a b, f = .withDesiredOutput a b ∧ a.bits = (q : ℤ) := by
  obtain ⟨m', hm'⟩ : ∃ m', clampMaximum (.withDesiredOutput q m) =
      .withDesiredOutput q m' := by
    unfold clampMaximum
    dsimp only
    split_ifs
    · exact ⟨_, rfl⟩
    · exact ⟨_, rfl⟩
  rw [hm', FixedSwapAmount.tryFrom] at h
  obtain ⟨a, ha, h⟩ := Option.bind_eq_some_iff.mp h
  obtain ⟨b, -, h⟩ := Option.bind_eq_some_iff.mp h
  cases h
  exact ⟨a, b, rfl, fixedOfBalance_eq_some.mp ha⟩

/-- What a successful quote of an exact input says in natural numbers. -/
theorem quote_input_spec (hφ : I.Charges φ) {d m : ℕ}
    (h : I.quote reserves dexId inputAssetId outputAssetId
      (.withDesiredInput d m) = .ok o) :
    (inputAssetId = T.getBaseAssetId →
      0 < baseReserve reserves dexId outputAssetId ∧
      0 < targetReserve reserves dexId outputAssetId ∧
      o.amount = targetBought φ (baseReserve reserves dexId outputAssetId)
        (targetReserve reserves dexId outputAssetId) d) ∧
    (inputAssetId ≠ T.getBaseAssetId → outputAssetId = T.getBaseAssetId →
      0 < baseReserve reserves dexId inputAssetId ∧
      0 < targetReserve reserves dexId inputAssetId ∧
      o.amount = baseBought φ (baseReserve reserves dexId inputAssetId)
        (targetReserve reserves dexId inputAssetId) d) ∧
    (inputAssetId ≠ T.getBaseAssetId → outputAssetId ≠ T.getBaseAssetId →
      (0 < baseReserve reserves dexId inputAssetId ∧
        0 < targetReserve reserves dexId inputAssetId) ∧
      (0 < baseReserve reserves dexId outputAssetId ∧
        0 < targetReserve reserves dexId outputAssetId) ∧
      o.amount = targetBought φ (baseReserve reserves dexId outputAssetId)
        (targetReserve reserves dexId outputAssetId)
        (baseBought φ (baseReserve reserves dexId inputAssetId)
          (targetReserve reserves dexId inputAssetId) d)) := by
  obtain ⟨f, hf, h⟩ := Tx.except_bind_eq_ok.mp h
  obtain ⟨a, b, rfl, ha⟩ := tryFrom_input (okOr_eq_ok.mp hf)
  refine ⟨fun hin => ?_, fun hin hout => ?_, fun hin hout => ?_⟩
  · rw [if_pos hin] at h
    obtain ⟨p, hp, hconvert⟩ := Tx.except_bind_eq_ok.mp h
    obtain ⟨hx, hy⟩ := reserves_pos hp
    obtain ⟨-, hX, hY, hamount, -⟩ := getTargetAmountOut_spec hφ ha hx hy hp
    rw [(intoBalances_eq_ok.mp hconvert).1] at hamount
    exact ⟨hX, hY, by exact_mod_cast hamount⟩
  · rw [if_neg hin, if_pos hout] at h
    obtain ⟨p, hp, hconvert⟩ := Tx.except_bind_eq_ok.mp h
    obtain ⟨hx, hy⟩ := reserves_pos hp
    obtain ⟨-, hX, hY, hamount, -⟩ := getBaseAmountOut_spec hφ ha hx hy hp
    rw [(intoBalances_eq_ok.mp hconvert).1] at hamount
    exact ⟨hX, hY, by exact_mod_cast hamount⟩
  · rw [if_neg hin, if_neg hout] at h
    obtain ⟨p, hp, h⟩ := Tx.except_bind_eq_ok.mp h
    obtain ⟨p', hp', hconvert⟩ := Tx.except_bind_eq_ok.mp h
    obtain ⟨hx, hy⟩ := reserves_pos hp
    obtain ⟨hx', hy'⟩ := reserves_pos hp'
    obtain ⟨-, hX, hY, hmiddle, -⟩ := getBaseAmountOut_spec hφ ha hx hy hp
    obtain ⟨-, hX', hY', hamount, -⟩ :=
      getTargetAmountOut_spec hφ hmiddle hx' hy' hp'
    rw [withBothFees_amount hconvert] at hamount
    exact ⟨⟨hX, hY⟩, ⟨hX', hY'⟩, by exact_mod_cast hamount⟩

/-- What a successful quote of an exact output of a direct exchange says. -/
theorem quote_output_spec (hφ : I.Charges φ) {q m : ℕ}
    (h : I.quote reserves dexId inputAssetId outputAssetId
      (.withDesiredOutput q m) = .ok o) :
    (inputAssetId = T.getBaseAssetId →
      q < targetReserve reserves dexId outputAssetId ∧
      0 < baseReserve reserves dexId outputAssetId ∧
      o.amount = toppedUp
        (targetBought φ (baseReserve reserves dexId outputAssetId)
          (targetReserve reserves dexId outputAssetId))
        (baseWithFee φ (baseReserve reserves dexId outputAssetId)
          (targetReserve reserves dexId outputAssetId) q) q) ∧
    (inputAssetId ≠ T.getBaseAssetId → outputAssetId = T.getBaseAssetId →
      grossUp one18 φ q < baseReserve reserves dexId inputAssetId ∧
      0 < targetReserve reserves dexId inputAssetId ∧
      o.amount = toppedUp
        (baseBought φ (baseReserve reserves dexId inputAssetId)
          (targetReserve reserves dexId inputAssetId))
        (targetWithFee φ (baseReserve reserves dexId inputAssetId)
          (targetReserve reserves dexId inputAssetId) q) q) := by
  obtain ⟨f, hf, h⟩ := Tx.except_bind_eq_ok.mp h
  obtain ⟨a, b, rfl, ha⟩ := tryFrom_output (okOr_eq_ok.mp hf)
  refine ⟨fun hin => ?_, fun hin hout => ?_⟩
  · rw [if_pos hin] at h
    obtain ⟨p, hp, hconvert⟩ := Tx.except_bind_eq_ok.mp h
    obtain ⟨hx, hy⟩ := reserves_pos hp
    obtain ⟨-, hlt, hX, hamount⟩ := getBaseAmountIn_spec hφ ha hx hy hp
    rw [(intoBalances_eq_ok.mp hconvert).1] at hamount
    exact ⟨hlt, hX, by exact_mod_cast hamount⟩
  · rw [if_neg hin, if_pos hout] at h
    obtain ⟨p, hp, hconvert⟩ := Tx.except_bind_eq_ok.mp h
    obtain ⟨hx, hy⟩ := reserves_pos hp
    obtain ⟨-, hlt, hY, hamount⟩ := getTargetAmountIn_spec hφ ha hx hy hp
    rw [(intoBalances_eq_ok.mp hconvert).1] at hamount
    exact ⟨hlt, hY, by exact_mod_cast hamount⟩

end

end MockLiquiditySource

/-! ## A source to ask -/

namespace Mock

/-- `GetFee` of the mocks: 0.3%. -/
def mockSource : MockLiquiditySource.Instance where
  getFee := ⟨3 * 10 ^ 15, by decide⟩
  report _ := .bondingCurve .cantExchange

theorem mockSource_charges : mockSource.Charges (3 * 10 ^ 15) :=
  ⟨rfl, by decide⟩

/-- 6000 and 7000 of the base asset, against 5500 and 1000 of the others. -/
def mockReserves : MockLiquiditySource.Reserves runtime :=
  MockLiquiditySource.initializeReserves
    [(dexA, redPepper, ⟨6000 * 10 ^ 18, by decide⟩, ⟨5500 * 10 ^ 18, by decide⟩),
      (dexA, blackPepper, ⟨7000 * 10 ^ 18, by decide⟩,
        ⟨1000 * 10 ^ 18, by decide⟩)]
    fun _ _ => none

end Mock

namespace MockLiquiditySource

open FlooredExchange

section

variable {T : Config} {I : Instance} {φ : ℕ} {reserves : Reserves T}
variable {dexId : T.DEXId} {inputAssetId outputAssetId : T.AssetId}

/-- No quote of an exact input gives more than the constant product allows:
directly, or on each leg through the base asset. -/
theorem quote_withinProduct (hφ : I.Charges φ) {d m : ℕ} {o : SwapOutcome}
    (h : I.quote reserves dexId inputAssetId outputAssetId
      (.withDesiredInput d m) = .ok o) :
    (inputAssetId = T.getBaseAssetId →
      WithinProduct (baseReserve reserves dexId outputAssetId)
        (targetReserve reserves dexId outputAssetId) d o.amount) ∧
    (inputAssetId ≠ T.getBaseAssetId → outputAssetId = T.getBaseAssetId →
      WithinProduct (targetReserve reserves dexId inputAssetId)
        (baseReserve reserves dexId inputAssetId) d o.amount) ∧
    (inputAssetId ≠ T.getBaseAssetId → outputAssetId ≠ T.getBaseAssetId →
      ∃ middle,
        WithinProduct (targetReserve reserves dexId inputAssetId)
          (baseReserve reserves dexId inputAssetId) d middle ∧
        WithinProduct (baseReserve reserves dexId outputAssetId)
          (targetReserve reserves dexId outputAssetId) middle o.amount) := by
  obtain ⟨htarget, hbase, hboth⟩ := quote_input_spec hφ h
  refine ⟨fun hin => ?_, fun hin hout => ?_, fun hin hout => ?_⟩
  · obtain ⟨hx, hy, hamount⟩ := htarget hin
    rw [hamount]
    exact withinProduct_targetBought hx hy
  · obtain ⟨hx, hy, hamount⟩ := hbase hin hout
    rw [hamount]
    exact withinProduct_baseBought hx hy
  · obtain ⟨⟨hx, hy⟩, ⟨hx', hy'⟩, hamount⟩ := hboth hin hout
    rw [hamount]
    exact ⟨_, withinProduct_baseBought hx hy, withinProduct_targetBought hx' hy'⟩

/-- 100 of one asset for another, both exchanged with the base asset. -/
theorem quote_withinProduct_sample :
    ∃ middle,
      WithinProduct (5500 * 10 ^ 18) (6000 * 10 ^ 18) (100 * 10 ^ 18) middle ∧
      WithinProduct (7000 * 10 ^ 18) (1000 * 10 ^ 18) middle
        14986413823194192307 :=
  (quote_withinProduct Mock.mockSource_charges
    (by decide +kernel : Mock.mockSource.quote Mock.mockReserves Mock.dexA
      Mock.redPepper Mock.blackPepper (.withDesiredInput (100 * 10 ^ 18) 0) =
        .ok ⟨14986413823194192307, 641892857142857142⟩)).2.2
    (by decide) (by decide)

/-- The input that is asked for an output brings it in a direct exchange, but
for one unit and what the rounding of the products is worth. -/
theorem quote_output_brought (hφ : I.Charges φ) {q m m' : ℕ}
    {o o' : SwapOutcome}
    (h : I.quote reserves dexId inputAssetId outputAssetId
      (.withDesiredOutput q m) = .ok o)
    (h' : I.quote reserves dexId inputAssetId outputAssetId
      (.withDesiredInput o.amount m') = .ok o') :
    (inputAssetId = T.getBaseAssetId →
      (q - o'.amount - 1) * baseReserve reserves dexId outputAssetId <
        2 * one18 + targetReserve reserves dexId outputAssetId) ∧
    (inputAssetId ≠ T.getBaseAssetId → outputAssetId = T.getBaseAssetId →
      (q - o'.amount - 1) * targetReserve reserves dexId inputAssetId <
        2 * one18 + baseReserve reserves dexId inputAssetId) := by
  obtain ⟨hasked, haskedBase⟩ := quote_output_spec hφ h
  obtain ⟨hbought, hboughtBase, -⟩ := quote_input_spec hφ h'
  refine ⟨fun hin => ?_, fun hin hout => ?_⟩
  · obtain ⟨hq, hx, hamount⟩ := hasked hin
    obtain ⟨-, -, hamount'⟩ := hbought hin
    rw [hamount', hamount]
    exact targetBought_toppedUp hφ.lt hx hq
  · obtain ⟨hq, hy, hamount⟩ := haskedBase hin hout
    obtain ⟨-, -, hamount'⟩ := hboughtBase hin hout
    rw [hamount', hamount]
    exact baseBought_toppedUp hφ.lt hy hq

/-- 100 of an asset bought for the base asset. -/
theorem quote_output_brought_sample :
    (100 * 10 ^ 18 - 100000000000000000000 - 1) * (7000 * 10 ^ 18) <
      2 * one18 + 1000 * 10 ^ 18 :=
  (quote_output_brought Mock.mockSource_charges
    (by decide +kernel : Mock.mockSource.quote Mock.mockReserves Mock.dexA
      Mock.goldenTicket Mock.blackPepper (.withDesiredOutput (100 * 10 ^ 18) 0) =
        .ok ⟨780118132174300679817, 2340354396522902039⟩)
    (by decide +kernel : Mock.mockSource.quote Mock.mockReserves Mock.dexA
      Mock.goldenTicket Mock.blackPepper
      (.withDesiredInput 780118132174300679817 0) =
        .ok ⟨100000000000000000000, 2340354396522902039⟩)).1 rfl

/-- No input that brings an output in a direct exchange is much smaller than the
input that is asked for it. -/
theorem quote_output_cheapest (hφ : I.Charges φ) (hhalf : 2 * φ ≤ one18)
    {q m u m' : ℕ} {o o' : SwapOutcome}
    (h : I.quote reserves dexId inputAssetId outputAssetId
      (.withDesiredOutput q m) = .ok o)
    (h' : I.quote reserves dexId inputAssetId outputAssetId
      (.withDesiredInput u m') = .ok o')
    (hq : q ≤ o'.amount) :
    (inputAssetId = T.getBaseAssetId → o.amount ≤ u + 2) ∧
    (inputAssetId ≠ T.getBaseAssetId → outputAssetId = T.getBaseAssetId →
      (o.amount - u - 1) *
          (baseReserve reserves dexId inputAssetId - grossUp one18 φ q) ≤
        targetReserve reserves dexId inputAssetId + u) := by
  obtain ⟨hasked, haskedBase⟩ := quote_output_spec hφ h
  obtain ⟨hbought, hboughtBase, -⟩ := quote_input_spec hφ h'
  refine ⟨fun hin => ?_, fun hin hout => ?_⟩
  · obtain ⟨hlt, -, hamount⟩ := hasked hin
    obtain ⟨-, -, hamount'⟩ := hbought hin
    rw [hamount]
    exact toppedUp_le_of_targetBought hhalf hlt (hq.trans hamount'.le)
  · obtain ⟨hlt, -, hamount⟩ := haskedBase hin hout
    obtain ⟨-, -, hamount'⟩ := hboughtBase hin hout
    rw [hamount]
    exact toppedUp_le_of_baseBought hhalf hlt (hq.trans hamount'.le)

/-- What 2006 more units bring is not offered for three units less. -/
theorem quote_output_cheapest_sample :
    780118132174300679817 ≤ 780118132174300681823 + 2 :=
  (quote_output_cheapest Mock.mockSource_charges (by decide)
    (by decide +kernel : Mock.mockSource.quote Mock.mockReserves Mock.dexA
      Mock.goldenTicket Mock.blackPepper (.withDesiredOutput (100 * 10 ^ 18) 0) =
        .ok ⟨780118132174300679817, 2340354396522902039⟩)
    (by decide +kernel : Mock.mockSource.quote Mock.mockReserves Mock.dexA
      Mock.goldenTicket Mock.blackPepper
      (.withDesiredInput 780118132174300681823 0) =
        .ok ⟨100000000000000000231, 2340354396522902045⟩)
    (by decide)).1 rfl

end

end MockLiquiditySource
end SoraParachain

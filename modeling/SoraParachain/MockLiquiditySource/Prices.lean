import SoraParachain.Library.FlooredExchange
import SoraParachain.MockLiquiditySource.Pallet

/-!
# The prices in natural numbers

The formulas of the source are written over fixed-point numbers that may carry an
error.  Where they succeed they are exchanges against a constant product with
floored products, and a fee that is at most the whole.
-/

namespace SoraParachain

open FlooredExchange

/-- The denominator of the fixed-point numbers. -/
abbrev one18 : ℕ := 10 ^ 18

namespace FixedWrapper

variable {a b c : FixedWrapper} {x y u q n φ : ℕ} {z : ℤ}

theorem holds_grossOut (ha : a.Holds u) (hb : b.Holds y) (hc : c.Holds x)
    (h : (a * b / (c + a)).Holds z) : z = (grossOut one18 x y u : ℕ) := by
  obtain ⟨⟨p, hp⟩, ⟨t, ht⟩⟩ := Holds.of_div h
  obtain ⟨rfl, -⟩ := (holds_mul_nat ha hb).mp hp
  obtain ⟨rfl, -⟩ := (holds_add_nat hc ha).mp ht
  exact ((holds_div_nat hp ht).mp h).2.1

theorem holds_grossOut_comm (ha : a.Holds u) (hb : b.Holds y) (hc : c.Holds x)
    (h : (b * a / (c + a)).Holds z) : z = (grossOut one18 x y u : ℕ) := by
  obtain ⟨⟨p, hp⟩, ⟨t, ht⟩⟩ := Holds.of_div h
  obtain ⟨rfl, -⟩ := (holds_mul_nat hb ha).mp hp
  obtain ⟨rfl, -⟩ := (holds_add_nat hc ha).mp ht
  rw [grossOut, Nat.mul_comm u y]
  exact ((holds_div_nat hp ht).mp h).2.1

/-- A positive price is one of less than the reserve. -/
theorem holds_grossIn (ha : a.Holds x) (hb : b.Holds q) (hc : c.Holds y)
    (h : (a * b / (c - b)).Holds z) (hz : 0 < z) :
    q < y ∧ z = (grossIn one18 x y q : ℕ) := by
  obtain ⟨⟨p, hp⟩, ⟨t, ht⟩⟩ := Holds.of_div h
  obtain ⟨rfl, -⟩ := (holds_mul_nat ha hb).mp hp
  have htEq := (holds_sub_nat hc hb).mp ht
  by_cases hlt : q < y
  · have ht' : (c - b).Holds ((y - q : ℕ) : ℤ) := by
      rw [Nat.cast_sub hlt.le, ← htEq]
      exact ht
    exact ⟨hlt, ((holds_div_nat hp ht').mp h).2.1⟩
  · obtain ⟨p', t', hp', ht', hne, hzEq, -⟩ := holds_div.mp h
    rw [← hp.unique hp', ← ht.unique ht', htEq] at hzEq
    have hnonpos : z ≤ 0 := by
      rw [hzEq]
      apply Int.fdiv_nonpos_of_nonneg_of_nonpos
      · exact Int.mul_nonneg (Int.natCast_nonneg _) (Int.natCast_nonneg _)
      · omega
    omega

/-- The complement of a fee that is a part of the whole. -/
theorem holds_one_sub (hb : b.Holds φ) (hφ : φ < one18) :
    (ofFixed LiquidityProxy.fixedOne - b).Holds ((one18 - φ : ℕ) : ℤ) := by
  have hone : (ofFixed LiquidityProxy.fixedOne).Holds (one18 : ℕ) :=
    holds_ofFixed.mpr rfl
  rw [holds_sub_nat hone hb, Nat.cast_sub hφ.le]

theorem holds_grossUp (ha : a.Holds n) (hb : b.Holds (one18 - φ : ℕ))
    (h : (a / b).Holds z) : z = (grossUp one18 φ n : ℕ) :=
  ((holds_div_nat ha hb).mp h).2.1

theorem holds_fixedSub {lhs : Fixed fixedFormat} (hl : lhs.bits = (x : ℤ))
    (ha : a.Holds y) : (fixedSub lhs a).Holds z ↔ z = (x : ℤ) - y := by
  have hlhs : (ofFixed lhs).Holds (x : ℤ) := holds_ofFixed.mpr hl.symm
  rw [← holds_sub_nat hlhs ha]
  apply holds_orOverflow
  intro w hw
  obtain ⟨-, t, -, ht, -⟩ := holds_sub.mp hw
  exact ⟨t, ht⟩

theorem holds_fixedAdd {lhs : Fixed fixedFormat} (hl : lhs.bits = (x : ℤ))
    (ha : a.Holds y) (h : (fixedAdd lhs a).Holds z) : z = (x + y : ℕ) := by
  have hlhs : (ofFixed lhs).Holds (x : ℤ) := holds_ofFixed.mpr hl.symm
  have hadd : (fixedAdd lhs a).Holds z ↔ (ofFixed lhs + a).Holds z := by
    apply holds_orOverflow
    intro w hw
    obtain ⟨-, t, -, ht, -⟩ := holds_add.mp hw
    exact ⟨t, ht⟩
  exact ((holds_add_nat hlhs ha).mp (hadd.mp h)).1

theorem holds_subFixed {rhs : Fixed fixedFormat} :
    (a.subFixed rhs).Holds z ↔ (a - ofFixed rhs).Holds z := by
  apply holds_orOverflow
  intro w hw
  obtain ⟨t, -, ht, -⟩ := holds_sub.mp hw
  exact ⟨t, ht⟩

end FixedWrapper

namespace MockLiquiditySource

open LiquidityProxy (FixedSwapOutcome)

variable {T : Config} {I : Instance}

/-- The fee is the part `φ` of the whole. -/
structure Instance.Charges (I : Instance) (φ : ℕ) : Prop where
  bits : I.getFee.bits = φ
  lt : φ < one18

theorem Instance.get_eq_ok {e : Error} {a : FixedWrapper} {x : FixedNumber} :
    I.get e a = .ok x ↔ a.inner = .ok x := by
  unfold Instance.get
  cases a.inner with
  | ok y => simp
  | error e => simp

theorem Instance.holds_of_get {e : Error} {a : FixedWrapper} {x : FixedNumber}
    (h : I.get e a = .ok x) : a.Holds x.bits :=
  ⟨x, Instance.get_eq_ok.mp h, rfl⟩

/-! ## What an exact input brings -/

/-- The target asset that an input of the base asset brings. -/
def targetBought (φ x y u : ℕ) : ℕ :=
  grossOut one18 x y (netOf one18 φ u)

/-- The base asset that an input of the target asset brings. -/
def baseBought (φ x y u : ℕ) : ℕ :=
  netOf one18 φ (grossOut one18 y x u)

variable {d x y : FixedNumber} {o : FixedSwapOutcome} {φ u X Y q : ℕ}

theorem getBaseAmountOut_spec (hφ : I.Charges φ) (hd : d.bits = (u : ℤ))
    (hx : x.bits = (X : ℤ)) (hy : y.bits = (Y : ℤ))
    (h : I.getBaseAmountOut d x y = .ok o) :
    0 < u ∧ 0 < X ∧ 0 < Y ∧ o.amount.bits = (baseBought φ X Y u : ℕ) ∧
      o.fee.bits = (grossOut one18 Y X u * φ / one18 : ℕ) := by
  obtain ⟨_, hpositive, h⟩ := Tx.except_bind_eq_ok.mp h
  obtain ⟨_, hreserves, h⟩ := Tx.except_bind_eq_ok.mp h
  obtain ⟨g, hgross, h⟩ := Tx.except_bind_eq_ok.mp h
  obtain ⟨n, hnet, h⟩ := Tx.except_bind_eq_ok.mp h
  obtain ⟨f, hfee, h⟩ := Tx.except_bind_eq_ok.mp h
  cases h
  have hu : 0 < u := by
    have := ensure_eq_ok.mp hpositive
    omega
  have hXY := ensure_eq_ok.mp hreserves
  have hg : g.bits = (grossOut one18 Y X u : ℕ) :=
    FixedWrapper.holds_grossOut (FixedWrapper.holds_ofFixed.mpr hd.symm)
      (FixedWrapper.holds_ofFixed.mpr hx.symm)
      (FixedWrapper.holds_ofFixed.mpr hy.symm) (I.holds_of_get hgross)
  have hfeeHolds := I.holds_of_get hfee
  have hf : f.bits = (grossOut one18 Y X u * φ / one18 : ℕ) :=
    ((FixedWrapper.holds_mul_nat (FixedWrapper.holds_ofFixed.mpr hg.symm)
      (FixedWrapper.holds_ofFixed.mpr hφ.bits.symm)).mp
        (FixedWrapper.holds_fixedMul.mp hfeeHolds)).1
  rw [hf] at hfeeHolds
  have hn := (FixedWrapper.holds_fixedSub hg hfeeHolds).mp (I.holds_of_get hnet)
  have hle : grossOut one18 Y X u * φ / one18 ≤ grossOut one18 Y X u :=
    fee_le hφ.lt.le
  refine ⟨hu, by omega, by omega, ?_, hf⟩
  rw [hn, baseBought, netOf, Nat.cast_sub hle]

theorem getTargetAmountOut_spec (hφ : I.Charges φ) (hd : d.bits = (u : ℤ))
    (hx : x.bits = (X : ℤ)) (hy : y.bits = (Y : ℤ))
    (h : I.getTargetAmountOut d x y = .ok o) :
    0 < u ∧ 0 < X ∧ 0 < Y ∧ o.amount.bits = (targetBought φ X Y u : ℕ) ∧
      o.fee.bits = (u * φ / one18 : ℕ) := by
  obtain ⟨_, hpositive, h⟩ := Tx.except_bind_eq_ok.mp h
  obtain ⟨_, hreserves, h⟩ := Tx.except_bind_eq_ok.mp h
  obtain ⟨g, hgross, h⟩ := Tx.except_bind_eq_ok.mp h
  obtain ⟨f, hfee, h⟩ := Tx.except_bind_eq_ok.mp h
  cases h
  have hu : 0 < u := by
    have := ensure_eq_ok.mp hpositive
    omega
  have hXY := ensure_eq_ok.mp hreserves
  have hfeeHolds := I.holds_of_get hfee
  have hf : f.bits = (u * φ / one18 : ℕ) :=
    ((FixedWrapper.holds_mul_nat (FixedWrapper.holds_ofFixed.mpr hd.symm)
      (FixedWrapper.holds_ofFixed.mpr hφ.bits.symm)).mp
        (FixedWrapper.holds_fixedMul.mp hfeeHolds)).1
  rw [hf] at hfeeHolds
  have hle : u * φ / one18 ≤ u := fee_le hφ.lt.le
  have hnet : (FixedWrapper.fixedSub d (FixedWrapper.fixedMul d
      (FixedWrapper.ofFixed I.getFee))).Holds (netOf one18 φ u : ℕ) := by
    rw [FixedWrapper.holds_fixedSub hd hfeeHolds, netOf, Nat.cast_sub hle]
  refine ⟨hu, by omega, by omega, ?_, hf⟩
  exact FixedWrapper.holds_grossOut_comm hnet
    (FixedWrapper.holds_ofFixed.mpr hy.symm)
    (FixedWrapper.holds_ofFixed.mpr hx.symm) (I.holds_of_get hgross)

/-! ## What an exact output costs -/

/-- The input for a target output, without the last unit. -/
def baseWithFee (φ x y q : ℕ) : ℕ :=
  grossUp one18 φ (grossIn one18 x y q)

/-- The input for a base output, without the last unit. -/
def targetWithFee (φ x y q : ℕ) : ℕ :=
  grossIn one18 y x (grossUp one18 φ q)

/-- One more unit when an input brings less than desired. -/
def toppedUp (bought : ℕ → ℕ) (input q : ℕ) : ℕ :=
  if bought input < q then input + 1 else input

theorem le_toppedUp {bought : ℕ → ℕ} {input : ℕ} :
    input ≤ toppedUp bought input q := by
  unfold toppedUp
  split_ifs
  · exact Nat.le_succ input
  · exact Nat.le_refl input

theorem toppedUp_le {bought : ℕ → ℕ} {input : ℕ} :
    toppedUp bought input q ≤ input + 1 := by
  unfold toppedUp
  split_ifs
  · exact Nat.le_refl _
  · exact Nat.le_succ input

/-- A positive quotient has a positive dividend. -/
theorem pos_of_div_pos {a : FixedNumber} {b : FixedWrapper} {n : ℕ} {z : ℤ}
    (hb : b.Holds n) (hn : 0 < n)
    (h : (FixedWrapper.ofFixed a / b).Holds z) (hz : 0 < z) : a.bits > 0 := by
  obtain ⟨p, t, hp, ht, -, hzEq, -⟩ := FixedWrapper.holds_div.mp h
  rw [FixedWrapper.holds_ofFixed.mp hp, ← hb.unique ht] at hzEq
  by_contra hnot
  have hnonpos : z ≤ 0 := by
    rw [hzEq, Int.fdiv_eq_ediv_of_nonneg _ (Int.natCast_nonneg n)]
    apply Int.ediv_nonpos_of_nonpos_of_neg
    · exact Int.mul_nonpos_of_nonpos_of_nonneg (by omega)
        (Int.natCast_nonneg _)
    · omega
  omega

theorem getBaseAmountIn_spec (hφ : I.Charges φ) (hd : d.bits = (q : ℤ))
    (hx : x.bits = (X : ℤ)) (hy : y.bits = (Y : ℤ))
    (h : I.getBaseAmountIn d x y = .ok o) :
    0 < q ∧ q < Y ∧ 0 < X ∧
      o.amount.bits =
        (toppedUp (targetBought φ X Y) (baseWithFee φ X Y q) q : ℕ) := by
  obtain ⟨_, hpositive, h⟩ := Tx.except_bind_eq_ok.mp h
  obtain ⟨_, hreserves, h⟩ := Tx.except_bind_eq_ok.mp h
  obtain ⟨g, hgross, h⟩ := Tx.except_bind_eq_ok.mp h
  obtain ⟨w, hw, h⟩ := Tx.except_bind_eq_ok.mp h
  obtain ⟨actual, hactual, h⟩ := Tx.except_bind_eq_ok.mp h
  obtain ⟨amountIn, hamount, h⟩ := Tx.except_bind_eq_ok.mp h
  obtain ⟨f, hfee, h⟩ := Tx.except_bind_eq_ok.mp h
  cases h
  have hq : 0 < q := by
    have := ensure_eq_ok.mp hpositive
    omega
  have hXY := ensure_eq_ok.mp hreserves
  have hrest : (FixedWrapper.ofFixed LiquidityProxy.fixedOne -
      FixedWrapper.ofFixed I.getFee).Holds ((one18 - φ : ℕ) : ℤ) :=
    FixedWrapper.holds_one_sub (FixedWrapper.holds_ofFixed.mpr hφ.bits.symm)
      hφ.lt
  have hwpos : w.bits > 0 := by
    obtain ⟨_, hpos, -⟩ := Tx.except_bind_eq_ok.mp hactual
    exact ensure_eq_ok.mp hpos
  have hgpos : g.bits > 0 :=
    pos_of_div_pos hrest (Nat.sub_pos_of_lt hφ.lt) (I.holds_of_get hw) hwpos
  obtain ⟨hlt, hg⟩ := FixedWrapper.holds_grossIn
    (FixedWrapper.holds_ofFixed.mpr hx.symm)
    (FixedWrapper.holds_ofFixed.mpr hd.symm)
    (FixedWrapper.holds_ofFixed.mpr hy.symm) (I.holds_of_get hgross) hgpos
  have hwBits : w.bits = (baseWithFee φ X Y q : ℕ) :=
    FixedWrapper.holds_grossUp (FixedWrapper.holds_ofFixed.mpr hg.symm) hrest
      (I.holds_of_get hw)
  obtain ⟨-, -, -, hbought, -⟩ := getTargetAmountOut_spec hφ hwBits hx hy hactual
  refine ⟨hq, hlt, by omega, ?_⟩
  have hwHolds := I.holds_of_get hw
  rw [hwBits] at hwHolds
  have hinput := I.holds_of_get hamount
  rw [toppedUp]
  by_cases hshort : targetBought φ X Y (baseWithFee φ X Y q) < q
  · rw [if_pos (by rw [hbought, hd]; exact_mod_cast hshort)] at hinput
    rw [if_pos hshort]
    have hone : (FixedWrapper.ofFixed smallest).Holds ((1 : ℕ) : ℤ) :=
      FixedWrapper.holds_ofFixed.mpr rfl
    exact ((FixedWrapper.holds_add_nat hwHolds hone).mp
      (FixedWrapper.holds_addFixed.mp hinput)).1
  · rw [if_neg (by rw [hbought, hd]; exact_mod_cast hshort)] at hinput
    rw [if_neg hshort]
    exact hinput.unique hwHolds

theorem getTargetAmountIn_spec (hφ : I.Charges φ) (hd : d.bits = (q : ℤ))
    (hx : x.bits = (X : ℤ)) (hy : y.bits = (Y : ℤ))
    (h : I.getTargetAmountIn d x y = .ok o) :
    0 < q ∧ grossUp one18 φ q < X ∧ 0 < Y ∧
      o.amount.bits =
        (toppedUp (baseBought φ X Y) (targetWithFee φ X Y q) q : ℕ) := by
  obtain ⟨_, hpositive, h⟩ := Tx.except_bind_eq_ok.mp h
  obtain ⟨_, hreserves, h⟩ := Tx.except_bind_eq_ok.mp h
  obtain ⟨g, hgross, h⟩ := Tx.except_bind_eq_ok.mp h
  obtain ⟨actual, hactual, h⟩ := Tx.except_bind_eq_ok.mp h
  obtain ⟨amountIn, hamount, h⟩ := Tx.except_bind_eq_ok.mp h
  obtain ⟨f, hfee, h⟩ := Tx.except_bind_eq_ok.mp h
  cases h
  have hq : 0 < q := by
    have := ensure_eq_ok.mp hpositive
    omega
  have hXY := ensure_eq_ok.mp hreserves
  have hrest : ((FixedWrapper.ofFixed LiquidityProxy.fixedOne).subFixed
      I.getFee).Holds ((one18 - φ : ℕ) : ℤ) :=
    FixedWrapper.holds_subFixed.mpr (FixedWrapper.holds_one_sub
      (FixedWrapper.holds_ofFixed.mpr hφ.bits.symm) hφ.lt)
  have hgpos : g.bits > 0 := by
    obtain ⟨_, hpos, -⟩ := Tx.except_bind_eq_ok.mp hactual
    exact ensure_eq_ok.mp hpos
  have hquotient := I.holds_of_get hgross
  obtain ⟨w, hw⟩ : ∃ w, (FixedWrapper.ofFixed d /
      (FixedWrapper.ofFixed LiquidityProxy.fixedOne).subFixed
        I.getFee).Holds w := by
    obtain ⟨⟨p, hp⟩, -⟩ := FixedWrapper.Holds.of_div hquotient
    obtain ⟨-, w, -, hw, -⟩ := FixedWrapper.holds_mul.mp hp
    exact ⟨w, hw⟩
  obtain rfl := FixedWrapper.holds_grossUp
    (FixedWrapper.holds_ofFixed.mpr hd.symm) hrest hw
  obtain ⟨hlt, hg⟩ := FixedWrapper.holds_grossIn
    (FixedWrapper.holds_ofFixed.mpr hy.symm) hw
    (FixedWrapper.holds_ofFixed.mpr hx.symm) hquotient hgpos
  obtain ⟨-, -, -, hbought, -⟩ := getBaseAmountOut_spec hφ hg hx hy hactual
  refine ⟨hq, hlt, by omega, ?_⟩
  have hgHolds : (FixedWrapper.ofFixed g).Holds
      ((targetWithFee φ X Y q : ℕ) : ℤ) :=
    FixedWrapper.holds_ofFixed.mpr hg.symm
  have hinput := I.holds_of_get hamount
  rw [toppedUp]
  by_cases hshort : baseBought φ X Y (targetWithFee φ X Y q) < q
  · rw [if_pos (by rw [hbought, hd]; exact_mod_cast hshort)] at hinput
    rw [if_pos hshort]
    have hone : (FixedWrapper.ofFixed smallest).Holds ((1 : ℕ) : ℤ) :=
      FixedWrapper.holds_ofFixed.mpr rfl
    exact FixedWrapper.holds_fixedAdd hg hone hinput
  · rw [if_neg (by rw [hbought, hd]; exact_mod_cast hshort)] at hinput
    rw [if_neg hshort]
    exact hinput.unique hgHolds

end MockLiquiditySource
end SoraParachain

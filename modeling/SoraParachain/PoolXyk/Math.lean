import SoraParachain.PoolXyk.Operations

/-!
# Arithmetic of the pool

Every amount is computed by fixed-point operators that round towards negative
infinity and is turned back into a balance at the end.  The formulas of the
source also receive the assets and the pool account; none of them reads those,
and the guards on the side of the fee accept every pair.

Each formula is followed by the equivalent condition over natural numbers.
There `S` is the scale `10¹⁸` and everything that must stay representable is
below `2¹²⁷`.
-/

namespace SoraParachain
namespace PoolXyk

open FixedWrapper (ofBalance)

/-- The scale of fixed-point balances. -/
abbrev S : ℕ := 10 ^ 18

/-- `to_balance!`. -/
def toBalance (w : FixedWrapper) : Result ℕ :=
  match w.tryIntoBalance with
  | .ok n => .ok n
  | .error _ => fail (poolError .fixedWrapperCalculationFailed)

/-- Three thousandths of an amount. -/
def feeOf (amount : ℕ) : Result ℕ :=
  toBalance
    ((ofBalance amount * ofBalance (balance 3)) / ofBalance (balance 1000))

def getFeeForSource (xIn : ℕ) : Result ℕ :=
  feeOf xIn

def getFeeForDestination (yOut : ℕ) : Result ℕ :=
  feeOf yOut

/-- An equivalent amount of the other asset. -/
def calculateQuote (amountA reserveA reserveB : ℕ) : Result ℕ :=
  toBalance ((ofBalance amountA * ofBalance reserveB) / ofBalance reserveA)

/-- Correct one of the two desired amounts to the ratio of the reserves. -/
def calculateOptimalDeposit (reserveA reserveB amountADesired amountBDesired
    amountAMin amountBMin : ℕ) : Result (ℕ × ℕ) := do
  let optAmADes ← calculateQuote amountBDesired reserveB reserveA
  let optAmBDes ← calculateQuote amountADesired reserveA reserveB
  if optAmBDes ≤ amountBDesired then
    ensure (optAmBDes ≥ amountBMin)
      (poolError .impossibleToDecideValidPairValuesFromRangeForThisPool)
    pure (amountADesired, optAmBDes)
  else
    ensure (optAmADes ≥ amountAMin ∧ optAmADes ≤ amountADesired)
      (poolError .impossibleToDecideValidPairValuesFromRangeForThisPool)
    pure (optAmADes, amountBDesired)

/-- Liquidity that an amount buys at the given reserve. -/
def liquidityFor (amount reserve totalSupply : ℕ) : Result ℕ :=
  toBalance
    (ofBalance amount / (ofBalance reserve / ofBalance totalSupply))

/-- The corrected amounts and the marker tokens they are worth. -/
def calcDepositLiquidity1 (totalSupply reserveA reserveB amountADesired
    amountBDesired amountAMin amountBMin : ℕ) :
    Result (ℕ × ℕ × ℕ) := do
  let (amADes, amBDes) ← calculateOptimalDeposit reserveA reserveB
    amountADesired amountBDesired amountAMin amountBMin
  let lhs ← liquidityFor amADes reserveA totalSupply
  let rhs ← liquidityFor amBDes reserveB totalSupply
  pure (amADes, amBDes, Nat.min lhs rhs)

/-- The output for an exact input, and the fee.  The output still contains the
fee that is taken from it. -/
def calcOutputForExactInput (getFeeFromDestination : Bool)
    (x y xIn : ℕ) : Result (ℕ × ℕ) := do
  let fxwX := ofBalance x
  let fxwY := ofBalance y
  let fxwXIn := ofBalance xIn
  if getFeeFromDestination then
    let fxwY1 := fxwXIn / ((fxwX + fxwXIn) / fxwY)
    let y1 ← toBalance fxwY1
    let feeOfY1 ← getFeeForDestination y1
    pure (y1, feeOfY1)
  else
    let feeOfXIn ← getFeeForSource xIn
    let fxwXInSubfee := fxwXIn - ofBalance feeOfXIn
    let fxwYOut := fxwXInSubfee / ((fxwX + fxwXInSubfee) / fxwY)
    let yOut ← toBalance fxwYOut
    pure (yOut, feeOfXIn)

/-- The input for an exact output, and the fee. -/
def calcInputForExactOutput (getFeeFromDestination : Bool)
    (x y yOut : ℕ) : Result (ℕ × ℕ) := do
  let fxwX := ofBalance x
  let fxwY := ofBalance y
  let fxwYOut := ofBalance yOut
  if getFeeFromDestination then
    let unit := balance 1
    let fractA ← getFeeForDestination unit
    let fractB := wrappingSub unit fractA
    let fxwY1 := fxwYOut / ofBalance fractB
    let fxwXIn := fxwX / ((fxwY - fxwY1) / fxwY1)
    let fxwFee := fxwY1 - fxwYOut
    let xIn ← toBalance fxwXIn
    let fee ← toBalance fxwFee
    pure (xIn, fee)
  else
    let yMinusYOut := wrappingSub y yOut
    let ymyoFee ← getFeeForSource yMinusYOut
    let ymyoSubfee := wrappingSub yMinusYOut ymyoFee
    let fxwXIn := fxwX / (ofBalance ymyoSubfee / fxwYOut)
    let xIn ← toBalance fxwXIn
    let fee ← getFeeForSource xIn
    pure (xIn, fee)

/-! ## The formulas over natural numbers -/

section

variable {w : FixedWrapper} {n : ℕ}

@[simp] theorem toBalance_eq_ok : toBalance w = .ok n ↔ w.Holds n := by
  rw [← FixedWrapper.tryIntoBalance_eq_ok]
  unfold toBalance
  rcases h : w.tryIntoBalance with e | m
  · simp
  · simp

theorem holds_ofBalance_self (hn : n < 2 ^ 127) : (ofBalance n).Holds n :=
  FixedWrapper.holds_ofBalance.mpr ⟨rfl, hn⟩

/-- The fee is three thousandths, rounded down. -/
theorem feeOf_eq_ok {amount fee : ℕ} :
    feeOf amount = .ok fee ↔
      3 * amount < 2 ^ 127 ∧ fee = 3 * amount / 1000 := by
  have h3 := holds_ofBalance_self (show balance 3 < 2 ^ 127 by decide)
  have h1000 := holds_ofBalance_self (show balance 1000 < 2 ^ 127 by decide)
  have hmul : amount * balance 3 / 10 ^ 18 = 3 * amount := by
    unfold balance
    omega
  have hdiv : 3 * amount * 10 ^ 18 / balance 1000 = 3 * amount / 1000 := by
    unfold balance
    omega
  rw [feeOf, toBalance_eq_ok]
  constructor
  · intro h
    obtain ⟨⟨p, hp⟩, -⟩ := FixedWrapper.Holds.of_div h
    obtain ⟨_, _, ha, -⟩ := FixedWrapper.holds_mul.mp hp
    obtain ⟨rfl, hlt⟩ := FixedWrapper.holds_ofBalance.mp ha
    obtain ⟨rfl, hfits⟩ := (FixedWrapper.holds_mul_nat ha h3).mp hp
    obtain ⟨-, hfee, -⟩ := (FixedWrapper.holds_div_nat hp h1000).mp h
    rw [hmul] at hfits hfee
    rw [hdiv] at hfee
    exact ⟨hfits, by exact_mod_cast hfee⟩
  · rintro ⟨hlt, rfl⟩
    have ha := holds_ofBalance_self (show amount < 2 ^ 127 by omega)
    have hp : (ofBalance amount * ofBalance (balance 3)).Holds
        (3 * amount : ℕ) :=
      (FixedWrapper.holds_mul_nat ha h3).mpr ⟨by rw [hmul], by omega⟩
    refine (FixedWrapper.holds_div_nat hp h1000).mpr
      ⟨by decide, by rw [hdiv], ?_⟩
    rw [hdiv]
    omega

theorem holds_ofBalance_nat {m : ℕ} {z : ℤ} (h : (ofBalance m).Holds z) :
    m < 2 ^ 127 ∧ (ofBalance m).Holds m := by
  obtain ⟨rfl, hlt⟩ := FixedWrapper.holds_ofBalance.mp h
  exact ⟨hlt, h⟩

/-- The shape of an output: `u` against the reserve `x` that it joins. -/
theorem output_eq_ok {fxwU : FixedWrapper} {u x y out : ℕ}
    (hu : fxwU.Holds u) :
    toBalance (fxwU / ((ofBalance x + fxwU) / ofBalance y)) = .ok out ↔
      x + u < 2 ^ 127 ∧ y < 2 ^ 127 ∧ 0 < y ∧ (x + u) * S / y < 2 ^ 127 ∧
        0 < (x + u) * S / y ∧ out = u * S / ((x + u) * S / y) ∧
        out < 2 ^ 127 := by
  rw [toBalance_eq_ok]
  constructor
  · intro h
    obtain ⟨-, q, hq⟩ := FixedWrapper.Holds.of_div h
    obtain ⟨⟨t, ht⟩, v, hv⟩ := FixedWrapper.Holds.of_div hq
    obtain ⟨_, _, hx, -⟩ := FixedWrapper.holds_add.mp ht
    obtain ⟨-, hx⟩ := holds_ofBalance_nat hx
    obtain ⟨hylt, hy⟩ := holds_ofBalance_nat hv
    obtain ⟨rfl, hsum⟩ := (FixedWrapper.holds_add_nat hx hu).mp ht
    obtain ⟨hpos, hqlt, hqpos, hout, hlt⟩ :=
      (FixedWrapper.holds_div_div_nat hu ht hy).mp h
    have hout' : out = u * S / ((x + u) * S / y) := by exact_mod_cast hout
    exact ⟨hsum, hylt, hpos, hqlt, hqpos, hout', hout' ▸ hlt⟩
  · rintro ⟨hsum, hylt, hpos, hqlt, hqpos, hout, hlt⟩
    have hx := holds_ofBalance_self (show x < 2 ^ 127 by omega)
    have ht := (FixedWrapper.holds_add_nat hx hu).mpr ⟨rfl, hsum⟩
    refine (FixedWrapper.holds_div_div_nat hu ht
      (holds_ofBalance_self hylt)).mpr ⟨hpos, hqlt, hqpos, ?_, ?_⟩
    · exact_mod_cast hout
    · exact hout ▸ hlt

theorem calcOutputForExactInput_destination {x y xIn y1 fee : ℕ} :
    calcOutputForExactInput true x y xIn = .ok (y1, fee) ↔
      x + xIn < 2 ^ 127 ∧ y < 2 ^ 127 ∧ 0 < y ∧
        (x + xIn) * S / y < 2 ^ 127 ∧ 0 < (x + xIn) * S / y ∧
        y1 = xIn * S / ((x + xIn) * S / y) ∧ 3 * y1 < 2 ^ 127 ∧
        fee = 3 * y1 / 1000 := by
  simp only [calcOutputForExactInput, if_true, Tx.except_bind_eq_ok,
    getFeeForDestination, feeOf_eq_ok, pure, Except.pure, Except.ok.injEq,
    Prod.mk.injEq]
  constructor
  · rintro ⟨_, hy1, _, ⟨hlt, rfl⟩, rfl, rfl⟩
    obtain ⟨u, hu⟩ := (FixedWrapper.Holds.of_div (toBalance_eq_ok.mp hy1)).1
    obtain ⟨-, hu⟩ := holds_ofBalance_nat hu
    obtain ⟨hsum, hylt, hpos, hq, hqpos, hout, -⟩ := (output_eq_ok hu).mp hy1
    exact ⟨hsum, hylt, hpos, hq, hqpos, hout, hlt, rfl⟩
  · rintro ⟨hsum, hylt, hpos, hq, hqpos, hout, hlt, hfee⟩
    have hu := holds_ofBalance_self (show xIn < 2 ^ 127 by omega)
    exact ⟨y1, (output_eq_ok hu).mpr
      ⟨hsum, hylt, hpos, hq, hqpos, hout, by omega⟩, fee, ⟨hlt, hfee⟩, rfl,
      rfl⟩

theorem calcOutputForExactInput_source {x y xIn yOut fee : ℕ} :
    calcOutputForExactInput false x y xIn = .ok (yOut, fee) ↔
      3 * xIn < 2 ^ 127 ∧ fee = 3 * xIn / 1000 ∧
        x + (xIn - fee) < 2 ^ 127 ∧ y < 2 ^ 127 ∧ 0 < y ∧
        (x + (xIn - fee)) * S / y < 2 ^ 127 ∧
        0 < (x + (xIn - fee)) * S / y ∧
        yOut = (xIn - fee) * S / ((x + (xIn - fee)) * S / y) ∧
        yOut < 2 ^ 127 := by
  have hsub : 3 * xIn < 2 ^ 127 →
      (ofBalance xIn - ofBalance (3 * xIn / 1000)).Holds
        (xIn - 3 * xIn / 1000 : ℕ) := by
    intro hlt
    refine (FixedWrapper.holds_sub_nat
      (holds_ofBalance_self (show xIn < 2 ^ 127 by omega))
      (holds_ofBalance_self (show 3 * xIn / 1000 < 2 ^ 127 by omega))).mpr ?_
    omega
  simp only [calcOutputForExactInput, Bool.false_eq_true, if_false,
    Tx.except_bind_eq_ok, getFeeForSource, feeOf_eq_ok, pure, Except.pure,
    Except.ok.injEq, Prod.mk.injEq]
  constructor
  · rintro ⟨_, ⟨hlt, rfl⟩, _, hout, rfl, rfl⟩
    exact ⟨hlt, rfl, (output_eq_ok (hsub hlt)).mp hout⟩
  · rintro ⟨hlt, rfl, hout⟩
    exact ⟨_, ⟨hlt, rfl⟩, yOut, (output_eq_ok (hsub hlt)).mpr hout, rfl, rfl⟩

/-- With the fee taken from the source, the output reserve less the output and
three thousandths of it prices the input. -/
theorem calcInputForExactOutput_source {x y yOut xIn fee : ℕ}
    (h : calcInputForExactOutput false x y yOut = .ok (xIn, fee)) :
    yOut < y ∧ 0 < yOut ∧ y - yOut < 2 ^ 127 ∧
      0 < (y - yOut - 3 * (y - yOut) / 1000) * S / yOut ∧
      xIn = x * S / ((y - yOut - 3 * (y - yOut) / 1000) * S / yOut) ∧
      3 * xIn < 2 ^ 127 ∧ fee = 3 * xIn / 1000 := by
  simp only [calcInputForExactOutput, Bool.false_eq_true, if_false,
    Tx.except_bind_eq_ok, getFeeForSource, feeOf_eq_ok, pure, Except.pure,
    Except.ok.injEq, Prod.mk.injEq] at h
  obtain ⟨_, ⟨hylt, rfl⟩, _, hin, _, ⟨hinlt, rfl⟩, rfl, rfl⟩ := h
  rw [toBalance_eq_ok] at hin
  obtain ⟨⟨a, ha⟩, q, hq⟩ := FixedWrapper.Holds.of_div hin
  obtain ⟨⟨b, hb⟩, v, hv⟩ := FixedWrapper.Holds.of_div hq
  obtain ⟨-, ha⟩ := holds_ofBalance_nat ha
  obtain ⟨-, hb⟩ := holds_ofBalance_nat hb
  obtain ⟨hvlt, hv⟩ := holds_ofBalance_nat hv
  obtain ⟨hpos, hqlt, hqpos, heq, -⟩ :=
    (FixedWrapper.holds_div_div_nat ha hb hv).mp hin
  -- A wrapped difference would be too large to take a fee from.
  have hle : yOut ≤ y := by
    by_contra hgt
    rw [wrappingSub, if_neg hgt, balanceModulus] at hylt
    omega
  rw [wrappingSub_of_le hle] at hylt hqpos heq
  rw [wrappingSub_of_le (by omega)] at hqpos heq
  have hlt : yOut < y := by
    apply lt_of_le_of_ne hle
    rintro rfl
    simp at hqpos
  exact ⟨hlt, hpos, by omega, hqpos, by exact_mod_cast heq, hinlt, rfl⟩

/-- With the fee taken from the destination, the output is first raised by the
fee. -/
theorem calcInputForExactOutput_destination {x y yOut xIn fee : ℕ}
    (hx : 0 < x)
    (h : calcInputForExactOutput true x y yOut = .ok (xIn, fee)) :
    0 < 1000 * yOut / 997 ∧ 1000 * yOut / 997 < y ∧
      0 < (y - 1000 * yOut / 997) * S / (1000 * yOut / 997) ∧
      xIn = x * S / ((y - 1000 * yOut / 997) * S / (1000 * yOut / 997)) ∧
      fee = 1000 * yOut / 997 - yOut := by
  have hunit : getFeeForDestination (balance 1) = .ok (3 * 10 ^ 15) :=
    feeOf_eq_ok.mpr ⟨by decide, by decide⟩
  have hfract : wrappingSub (balance 1) (3 * 10 ^ 15) = 997 * 10 ^ 15 := by
    decide
  simp only [calcInputForExactOutput, if_true, Tx.except_bind_eq_ok, pure,
    Except.pure, Except.ok.injEq, Prod.mk.injEq, hunit] at h
  obtain ⟨_, rfl, _, hin, _, hfee, rfl, rfl⟩ := h
  rw [hfract, toBalance_eq_ok] at hin hfee
  obtain ⟨⟨a, ha⟩, d, hd⟩ := FixedWrapper.Holds.of_div hin
  obtain ⟨⟨t, ht⟩, y1, hy1⟩ := FixedWrapper.Holds.of_div hd
  obtain ⟨⟨o, ho⟩, -⟩ := FixedWrapper.Holds.of_div hy1
  obtain ⟨_, _, hy, -⟩ := FixedWrapper.holds_sub.mp ht
  obtain ⟨-, ha⟩ := holds_ofBalance_nat ha
  obtain ⟨-, ho⟩ := holds_ofBalance_nat ho
  obtain ⟨-, hy⟩ := holds_ofBalance_nat hy
  have hfract' := holds_ofBalance_self
    (show 997 * 10 ^ 15 < 2 ^ 127 by decide)
  have hraised : yOut * 10 ^ 18 / (997 * 10 ^ 15) = 1000 * yOut / 997 := by
    omega
  obtain ⟨-, rfl, -⟩ := (FixedWrapper.holds_div_nat ho hfract').mp hy1
  rw [hraised] at hy1
  obtain ⟨t', y1', ht', hy1', hne, rfl, -⟩ := FixedWrapper.holds_div.mp hd
  obtain rfl := hy1.unique hy1'
  obtain rfl := (FixedWrapper.holds_sub_nat hy hy1).mp ht'
  obtain ⟨a', d', ha', hd', hdne, hxin, -⟩ := FixedWrapper.holds_div.mp hin
  obtain rfl := ha.unique ha'
  obtain rfl := hd.unique hd'
  -- A negative difference would price the input below zero.
  have hxpos : (0 : ℤ) < x * fixedFormat.scale := by
    have hscale : (0 : ℤ) < fixedFormat.scale := by decide
    exact Int.mul_pos (by omega) hscale
  have hlt : 1000 * yOut / 997 < y := by
    by_contra hge
    have hle : ((y : ℤ) - (1000 * yOut / 997 : ℕ)) * fixedFormat.scale ≤ 0 := by
      refine Int.mul_nonpos_of_nonpos_of_nonneg (by omega) (by decide)
    have hnonpos : (((y : ℤ) - (1000 * yOut / 997 : ℕ)) *
        fixedFormat.scale).fdiv (1000 * yOut / 997 : ℕ) ≤ 0 := by
      rcases hle.lt_or_eq with hlt | hzero
      · exact (Int.fdiv_neg_of_neg_of_pos hlt (by omega)).le
      · rw [hzero, Int.zero_fdiv]
    have hneg := fdiv_neg_of_pos_of_neg hxpos
      (lt_of_le_of_ne hnonpos hdne)
    rw [← hxin] at hneg
    omega
  have hd' : (ofBalance y - ofBalance yOut / ofBalance (997 * 10 ^ 15)).Holds
      (y - 1000 * yOut / 997 : ℕ) := by
    convert ht' using 1
    omega
  obtain ⟨hpos, -, hqpos, heq, -⟩ :=
    (FixedWrapper.holds_div_div_nat ha hd' hy1).mp hin
  have hfee' := (FixedWrapper.holds_sub_nat hy1 ho).mp hfee
  refine ⟨hpos, hlt, hqpos, by exact_mod_cast heq, by omega⟩

theorem calculateQuote_eq_ok {amountA reserveA reserveB q : ℕ} :
    calculateQuote amountA reserveA reserveB = .ok q ↔
      amountA < 2 ^ 127 ∧ reserveA < 2 ^ 127 ∧ reserveB < 2 ^ 127 ∧
        0 < reserveA ∧ amountA * reserveB / S < 2 ^ 127 ∧
        q = amountA * reserveB / S * S / reserveA ∧ q < 2 ^ 127 := by
  rw [calculateQuote, toBalance_eq_ok]
  constructor
  · intro h
    obtain ⟨⟨p, hp⟩, r, hr⟩ := FixedWrapper.Holds.of_div h
    obtain ⟨_, _, ha, hb, -⟩ := FixedWrapper.holds_mul.mp hp
    obtain ⟨halt, ha⟩ := holds_ofBalance_nat ha
    obtain ⟨hblt, hb⟩ := holds_ofBalance_nat hb
    obtain ⟨hrlt, hr⟩ := holds_ofBalance_nat hr
    obtain ⟨rfl, hplt⟩ := (FixedWrapper.holds_mul_nat ha hb).mp hp
    obtain ⟨hpos, hq, hlt⟩ := (FixedWrapper.holds_div_nat hp hr).mp h
    have hq' : q = amountA * reserveB / S * S / reserveA := by
      exact_mod_cast hq
    exact ⟨halt, hrlt, hblt, hpos, hplt, hq', hq' ▸ hlt⟩
  · rintro ⟨halt, hrlt, hblt, hpos, hplt, hq, hlt⟩
    have hp := (FixedWrapper.holds_mul_nat (holds_ofBalance_self halt)
      (holds_ofBalance_self hblt)).mpr ⟨rfl, hplt⟩
    refine (FixedWrapper.holds_div_nat hp (holds_ofBalance_self hrlt)).mpr
      ⟨hpos, ?_, ?_⟩
    · exact_mod_cast hq
    · exact hq ▸ hlt

theorem liquidityFor_eq_ok {amount reserve totalSupply l : ℕ} :
    liquidityFor amount reserve totalSupply = .ok l ↔
      amount < 2 ^ 127 ∧ reserve < 2 ^ 127 ∧ totalSupply < 2 ^ 127 ∧
        0 < totalSupply ∧ reserve * S / totalSupply < 2 ^ 127 ∧
        0 < reserve * S / totalSupply ∧
        l = amount * S / (reserve * S / totalSupply) ∧ l < 2 ^ 127 := by
  rw [liquidityFor, toBalance_eq_ok]
  constructor
  · intro h
    obtain ⟨⟨a, ha⟩, q, hq⟩ := FixedWrapper.Holds.of_div h
    obtain ⟨⟨r, hr⟩, t, ht⟩ := FixedWrapper.Holds.of_div hq
    obtain ⟨halt, ha⟩ := holds_ofBalance_nat ha
    obtain ⟨hrlt, hr⟩ := holds_ofBalance_nat hr
    obtain ⟨htlt, ht⟩ := holds_ofBalance_nat ht
    obtain ⟨hpos, hqlt, hqpos, hl, hlt⟩ :=
      (FixedWrapper.holds_div_div_nat ha hr ht).mp h
    have hl' : l = amount * S / (reserve * S / totalSupply) := by
      exact_mod_cast hl
    exact ⟨halt, hrlt, htlt, hpos, hqlt, hqpos, hl', hl' ▸ hlt⟩
  · rintro ⟨halt, hrlt, htlt, hpos, hqlt, hqpos, hl, hlt⟩
    refine (FixedWrapper.holds_div_div_nat (holds_ofBalance_self halt)
      (holds_ofBalance_self hrlt) (holds_ofBalance_self htlt)).mpr
      ⟨hpos, hqlt, hqpos, ?_, ?_⟩
    · exact_mod_cast hl
    · exact hl ▸ hlt

/-- One of the desired amounts is taken as it is, the other is a quote within
its range. -/
theorem calculateOptimalDeposit_eq_ok
    {reserveA reserveB aDesired bDesired aMin bMin a b : ℕ} :
    calculateOptimalDeposit reserveA reserveB aDesired bDesired aMin bMin =
        .ok (a, b) ↔
      ∃ qa qb, calculateQuote bDesired reserveB reserveA = .ok qa ∧
        calculateQuote aDesired reserveA reserveB = .ok qb ∧
        (qb ≤ bDesired ∧ bMin ≤ qb ∧ a = aDesired ∧ b = qb ∨
          bDesired < qb ∧ aMin ≤ qa ∧ qa ≤ aDesired ∧ a = qa ∧
            b = bDesired) := by
  simp only [calculateOptimalDeposit, Tx.except_bind_eq_ok]
  constructor
  · rintro ⟨qa, hqa, qb, hqb, h⟩
    refine ⟨qa, qb, hqa, hqb, ?_⟩
    split_ifs at h with hle
    · obtain ⟨_, hmin, h⟩ := Tx.except_bind_eq_ok.mp h
      cases h
      exact Or.inl ⟨hle, ensure_eq_ok.mp hmin, rfl, rfl⟩
    · obtain ⟨_, hmin, h⟩ := Tx.except_bind_eq_ok.mp h
      cases h
      obtain ⟨hmin, hmax⟩ := ensure_eq_ok.mp hmin
      exact Or.inr ⟨not_le.mp hle, hmin, hmax, rfl, rfl⟩
  · rintro ⟨qa, qb, hqa, hqb, ⟨hle, hmin, rfl, rfl⟩ |
      ⟨hlt, hmin, hmax, rfl, rfl⟩⟩
    · refine ⟨qa, hqa, b, hqb, ?_⟩
      rw [if_pos hle, Tx.except_bind_eq_ok]
      exact ⟨(), ensure_eq_ok.mpr hmin, rfl⟩
    · refine ⟨a, hqa, qb, hqb, ?_⟩
      rw [if_neg (not_le.mpr hlt), Tx.except_bind_eq_ok]
      exact ⟨(), ensure_eq_ok.mpr ⟨hmin, hmax⟩, rfl⟩

theorem calcDepositLiquidity1_eq_ok
    {supply reserveA reserveB aDesired bDesired aMin bMin a b m : ℕ} :
    calcDepositLiquidity1 supply reserveA reserveB aDesired bDesired aMin
        bMin = .ok (a, b, m) ↔
      calculateOptimalDeposit reserveA reserveB aDesired bDesired aMin bMin =
        .ok (a, b) ∧
        ∃ la lb, liquidityFor a reserveA supply = .ok la ∧
          liquidityFor b reserveB supply = .ok lb ∧ m = Nat.min la lb := by
  simp only [calcDepositLiquidity1, Tx.except_bind_eq_ok]
  constructor
  · rintro ⟨⟨a', b'⟩, hab, la, hla, lb, hlb, h⟩
    cases h
    exact ⟨hab, la, lb, hla, hlb, rfl⟩
  · rintro ⟨hab, la, lb, hla, hlb, rfl⟩
    exact ⟨(a, b), hab, la, hla, lb, hlb, rfl⟩

end

end PoolXyk
end SoraParachain

import SoraParachain.PoolXyk.ExchangeAmounts

/-!
# How far the two prices disagree

An exact output is priced and an exact input is sold by two formulas that round
every step down.  The input charged for an output may buy slightly less, and a
larger input may bring slightly less than a smaller one.  The results bound
both by the rounding, and say when a larger input brings as much.
-/

namespace SoraParachain
namespace PoolXyk

variable {side : Bool} {x y yOut xIn a b gross fee fee' : ℕ}

/-! ## Amounts after the fee -/

/-- An amount less three thousandths of it. -/
def afterFee (n : ℕ) : ℕ :=
  n - 3 * n / 1000

/-- The part of an input that is sold. -/
def soldInput (feeFromDestination : Bool) (xIn : ℕ) : ℕ :=
  if feeFromDestination then xIn else afterFee xIn

/-- The part of an output that is left after a fee that is taken from it. -/
def netOutput (feeFromDestination : Bool) (gross fee : ℕ) : ℕ :=
  if feeFromDestination then gross - fee else gross

theorem afterFee_mono {m n : ℕ} (h : m ≤ n) : afterFee m ≤ afterFee n := by
  unfold afterFee
  omega

theorem afterFee_le_add {m n : ℕ} (h : m ≤ n) :
    afterFee n ≤ afterFee m + (n - m) := by
  unfold afterFee
  omega

/-- The raised output of an exact output leaves it after the fee. -/
theorem afterFee_raised (yOut : ℕ) : afterFee (1000 * yOut / 997) = yOut := by
  unfold afterFee
  omega

theorem soldInput_mono (h : a ≤ b) : soldInput side a ≤ soldInput side b := by
  cases side with
  | true => exact h
  | false => exact afterFee_mono h

/-- What an exact input brings on either side of the fee. -/
theorem output_of_input
    (h : calcOutputForExactInput side x y xIn = .ok (gross, fee)) :
    0 < y ∧ 0 < (x + soldInput side xIn) * S / y ∧
      gross = soldInput side xIn * S /
        ((x + soldInput side xIn) * S / y) ∧
      netOutput side gross fee = if side then afterFee gross else gross := by
  cases side with
  | true =>
      obtain ⟨-, -, hy, -, hq, hout, -, hfee⟩ :=
        calcOutputForExactInput_destination.mp h
      refine ⟨hy, hq, hout, ?_⟩
      rw [hfee]
      rfl
  | false =>
      obtain ⟨-, hfee, -, -, hy, -, hq, hout, -⟩ :=
        calcOutputForExactInput_source.mp h
      rw [hfee] at hq hout
      exact ⟨hy, hq, hout, rfl⟩

theorem netOutput_le_of_gross_le {gA gB : ℕ} (h : gA ≤ gB) :
    (if side then afterFee gA else gA) ≤ if side then afterFee gB else gB := by
  cases side with
  | true => exact afterFee_mono h
  | false => exact h

/-- Amounts after the fee differ by no more than the amounts. -/
theorem afterFee_lt_of_lt {m e : ℕ} (h : a * m < (b + 1) * m + e) :
    afterFee a * m < (afterFee b + 1) * m + e := by
  rw [Nat.succ_mul] at h ⊢
  rcases le_total a b with hle | hle
  · have hstep := Nat.mul_le_mul_right m (afterFee_mono hle)
    by_cases hm : m = 0
    · subst hm
      omega
    · omega
  · obtain ⟨d, rfl⟩ := Nat.exists_eq_add_of_le hle
    have hadd := afterFee_le_add hle
    rw [Nat.add_sub_cancel_left] at hadd
    have hstep := Nat.mul_le_mul_right m hadd
    rw [Nat.add_mul] at hstep h
    omega

theorem netOutput_lt_of_gross_lt {gA gB m e : ℕ}
    (h : gA * m < (gB + 1) * m + e) :
    (if side then afterFee gA else gA) * m <
      ((if side then afterFee gB else gB) + 1) * m + e := by
  cases side with
  | true => exact afterFee_lt_of_lt h
  | false => exact h

/-! ## The input of an exact output -/

/-- What the rounding of the input, and of a fee that is priced into it, may
cost of the output, times the input reserve after the trade. -/
def inversionSlack (feeFromDestination : Bool) (y yOut xIn : ℕ) : ℕ :=
  if feeFromDestination then y - yOut else y - yOut + xIn + 1

theorem raised_le_of_input (hx : 0 < x)
    (hin : calcInputForExactOutput true x y yOut = .ok (xIn, fee))
    (hout : calcOutputForExactInput true x y xIn = .ok (gross, fee')) :
    1000 * yOut / 997 * (x + xIn) <
      (gross + 1) * (x + xIn) + (y - 1000 * yOut / 997) := by
  obtain ⟨hv, hlt, hq, hxIn, -⟩ := calcInputForExactOutput_destination hx hin
  obtain ⟨hy, hqOut, hgross, -⟩ := output_of_input hout
  have hproduct := ConstantProduct.product_of_exact_output
    (lt_price_succ hv hq hxIn) le_rfl hlt.le
  exact ConstantProduct.wanted_lt_of_product hlt.le hproduct
    (lt_price_succ hy hqOut hgross)

/-- The input charged for an exact output buys it up to the rounding: what is
missing is less than one unit and the price, after the trade, of one unit of
the input, and of the fee's rounding if the fee is taken from the source. -/
theorem input_buys_output_up_to_rounding (hx : 0 < x)
    (hin : calcInputForExactOutput side x y yOut = .ok (xIn, fee))
    (hout : calcOutputForExactInput side x y xIn = .ok (gross, fee')) :
    yOut * (x + soldInput side xIn) <
      (netOutput side gross fee' + 1) * (x + soldInput side xIn) +
        inversionSlack side y yOut xIn := by
  obtain ⟨hy, hqOut, hgross, hnet⟩ := output_of_input hout
  rw [hnet]
  cases side with
  | true =>
      have hraised := raised_le_of_input hx hin hout
      have hbought := afterFee_lt_of_lt hraised
      rw [afterFee_raised] at hbought
      have hrest : y - 1000 * yOut / 997 ≤ inversionSlack true y yOut xIn := by
        rw [inversionSlack, if_pos rfl]
        omega
      exact hbought.trans_le (Nat.add_le_add_left hrest _)
  | false =>
      obtain ⟨hlt, hv, -, hq, hxIn, -⟩ := calcInputForExactOutput_source hin
      have hproduct := ConstantProduct.product_of_exact_output_with_fee
        hlt.le (lt_price_succ hv hq hxIn) (by omega)
        (show 1000 * (3 * xIn / 1000) ≤ 3 * xIn by omega)
      rw [Nat.add_assoc, Nat.add_assoc] at hproduct
      exact ConstantProduct.wanted_lt_of_product hlt.le hproduct
        (lt_price_succ hy hqOut hgross)

/-- The price of a thousandth of a pool of two equal reserves, less the fee. -/
theorem input_buys_output_up_to_rounding_sample :
    997 * 10 ^ 18 * (10 ^ 24 + soldInput true 1001001001001001001001) <
      (netOutput true 1000000000000000000000 3000000000000000000 + 1) *
          (10 ^ 24 + soldInput true 1001001001001001001001) +
        inversionSlack true (10 ^ 24) (997 * 10 ^ 18)
          1001001001001001001001 :=
  input_buys_output_up_to_rounding (by decide)
    (by decide +kernel : calcInputForExactOutput true (10 ^ 24) (10 ^ 24)
      (997 * 10 ^ 18) = .ok (1001001001001001001001, 3000000000000000000))
    (by decide +kernel : calcOutputForExactInput true (10 ^ 24) (10 ^ 24)
      1001001001001001001001 =
        .ok (1000000000000000000000, 3000000000000000000))

/-- On either side of the fee the input of an exact output may buy less, and in
a lopsided pool it may be an input that cannot be sold. -/
theorem input_of_exact_output_too_small :
    (calcInputForExactOutput true (360000 * 10 ^ 18) (144000 * 10 ^ 18)
          24519114508535132089 =
        .ok (61492734944292528002, 73778679564298291) ∧
      calcOutputForExactInput true (360000 * 10 ^ 18) (144000 * 10 ^ 18)
          61492734944292528002 =
        .ok (24592893188099430379, 73778679564298291) ∧
      netOutput true 24592893188099430379 73778679564298291 <
        24519114508535132089) ∧
      (calcInputForExactOutput false (144000 * 10 ^ 18) (360000 * 10 ^ 18)
          30253567502012116384 =
        .ok (12138860644149449367, 36416581932448348) ∧
      calcOutputForExactInput false (144000 * 10 ^ 18) (360000 * 10 ^ 18)
          12138860644149449367 =
        .ok (30253567502012116382, 36416581932448348)) ∧
      calcInputForExactOutput true 1 (10 ^ 20) 997 = .ok (0, 3) ∧
      calcOutputForExactInput true 1 (10 ^ 20) 0 =
        .error (.error (poolError .fixedWrapperCalculationFailed)) := by
  decide +kernel

/-! ## Larger inputs -/

/-- A larger input brings as much before the fee when the two are far enough
apart. -/
theorem gross_le_of_far {gA feeA gB feeB : ℕ} (hab : a ≤ b)
    (hA : calcOutputForExactInput side x y a = .ok (gA, feeA))
    (hB : calcOutputForExactInput side x y b = .ok (gB, feeB))
    (hfar : soldInput side b * (y - 1) ≤
      (soldInput side b - soldInput side a) * (x * S)) :
    gA ≤ gB := by
  obtain ⟨hy, hqA, hgA, -⟩ := output_of_input hA
  obtain ⟨-, hqB, hgB, -⟩ := output_of_input hB
  have hcross := ConstantProduct.cross_floored_price_le (soldInput_mono hab) hy
    hfar
  rw [hgA, hgB, Nat.le_div_iff_mul_le hqB]
  refine le_of_mul_le_mul_right ?_ hqA
  calc
    _ = soldInput side a * S / ((x + soldInput side a) * S / y) *
          ((x + soldInput side a) * S / y) *
        ((x + soldInput side b) * S / y) := by ring
    _ ≤ soldInput side a * S * ((x + soldInput side b) * S / y) :=
      Nat.mul_le_mul_right _ (Nat.div_mul_le_self _ _)
    _ = soldInput side a * ((x + soldInput side b) * S / y) * S := by ring
    _ ≤ soldInput side b * ((x + soldInput side a) * S / y) * S :=
      Nat.mul_le_mul_right _ hcross
    _ = soldInput side b * S * ((x + soldInput side a) * S / y) := by ring

/-- A larger input brings as much before the fee up to the rounding. -/
theorem gross_lt_up_to_rounding {gA feeA gB feeB : ℕ} (hab : a ≤ b)
    (hA : calcOutputForExactInput side x y a = .ok (gA, feeA))
    (hB : calcOutputForExactInput side x y b = .ok (gB, feeB)) :
    gA * ((x + soldInput side a) * S) <
      (gB + 1) * ((x + soldInput side a) * S) + y * gA := by
  obtain ⟨hy, hqA, hgA, -⟩ := output_of_input hA
  obtain ⟨-, hqB, hgB, -⟩ := output_of_input hB
  have hS : 0 < S := by decide
  have hpos : 0 < x + soldInput side a := by
    by_contra hzero
    rw [Nat.eq_zero_of_not_pos hzero] at hqA
    simp at hqA
  have hround : (x + soldInput side a) * S * gA ≤
      y * (soldInput side a * S + gA) := by
    apply quotient_by_floored_le
      (Nat.lt_mul_of_div_lt (Nat.lt_succ_self _) hy)
    rw [hgA]
    exact Nat.mul_div_le _ _
  exact ConstantProduct.output_lt_of_input_le (soldInput_mono hab) hS hpos
    hround (lt_price_succ hy hqB hgB)

/-- A larger input brings as much as a smaller one up to the rounding, and as
much without it when the two are far enough apart.  Of `n` evenly spaced inputs
any two are, unless a unit of the input costs more than `10 ^ 18 / n`. -/
theorem output_monotone_up_to_rounding {gA feeA gB feeB : ℕ} (hab : a ≤ b)
    (hA : calcOutputForExactInput side x y a = .ok (gA, feeA))
    (hB : calcOutputForExactInput side x y b = .ok (gB, feeB)) :
    netOutput side gA feeA * ((x + soldInput side a) * S) <
        (netOutput side gB feeB + 1) * ((x + soldInput side a) * S) + y * gA ∧
      (soldInput side b * (y - 1) ≤
          (soldInput side b - soldInput side a) * (x * S) →
        netOutput side gA feeA ≤ netOutput side gB feeB) ∧
      ∀ n, soldInput side b ≤ n * (soldInput side b - soldInput side a) →
        n * (y - 1) ≤ x * S →
        netOutput side gA feeA ≤ netOutput side gB feeB := by
  obtain ⟨-, -, -, hnetA⟩ := output_of_input hA
  obtain ⟨-, -, -, hnetB⟩ := output_of_input hB
  rw [hnetA, hnetB]
  have hfar : soldInput side b * (y - 1) ≤
        (soldInput side b - soldInput side a) * (x * S) →
      (if side then afterFee gA else gA) ≤
        if side then afterFee gB else gB := by
    intro hspaced
    exact netOutput_le_of_gross_le (gross_le_of_far hab hA hB hspaced)
  refine ⟨?_, hfar, fun n hn hprice => hfar ?_⟩
  · exact netOutput_lt_of_gross_lt (gross_lt_up_to_rounding hab hA hB)
  · calc
      soldInput side b * (y - 1) ≤
          n * (soldInput side b - soldInput side a) * (y - 1) :=
        Nat.mul_le_mul_right _ hn
      _ = (soldInput side b - soldInput side a) * (n * (y - 1)) := by ring
      _ ≤ (soldInput side b - soldInput side a) * (x * S) :=
        Nat.mul_le_mul_left _ hprice

/-- Two inputs into a pool of two equal reserves. -/
theorem output_monotone_up_to_rounding_sample :
    netOutput true 1000 3 * ((10 ^ 24 + soldInput true 1000) * S) <
        (netOutput true 2000 6 + 1) * ((10 ^ 24 + soldInput true 1000) * S) +
          10 ^ 24 * 1000 ∧
      (soldInput true 2000 * (10 ^ 24 - 1) ≤
          (soldInput true 2000 - soldInput true 1000) * (10 ^ 24 * S) →
        netOutput true 1000 3 ≤ netOutput true 2000 6) ∧
      ∀ n, soldInput true 2000 ≤
          n * (soldInput true 2000 - soldInput true 1000) →
        n * (10 ^ 24 - 1) ≤ 10 ^ 24 * S →
        netOutput true 1000 3 ≤ netOutput true 2000 6 :=
  output_monotone_up_to_rounding (by decide)
    (by decide +kernel : calcOutputForExactInput true (10 ^ 24) (10 ^ 24) 1000 =
      .ok (1000, 3))
    (by decide +kernel : calcOutputForExactInput true (10 ^ 24) (10 ^ 24) 2000 =
      .ok (2000, 6))

/-- On either side of the fee one more unit of input may bring thousands of
units less. -/
theorem output_falls_with_input :
    (calcOutputForExactInput true (360000 * 10 ^ 18) (144000 * 10 ^ 18)
          263280803779643049071999 =
        .ok (60827215461094641393085, 182481646383283924179) ∧
      calcOutputForExactInput true (360000 * 10 ^ 18) (144000 * 10 ^ 18)
          263280803779643049072000 =
        .ok (60827215461094641379032, 182481646383283924137) ∧
      netOutput true 60827215461094641379032 182481646383283924137 <
        netOutput true 60827215461094641393085 182481646383283924179) ∧
      calcOutputForExactInput false (360000 * 10 ^ 18) (144000 * 10 ^ 18)
          298609438972064112144432 =
        .ok (65181500336655305196153, 895828316916192336433) ∧
      calcOutputForExactInput false (360000 * 10 ^ 18) (144000 * 10 ^ 18)
          298609438972064112144433 =
        .ok (65181500336655305181882, 895828316916192336433) := by
  decide +kernel

end PoolXyk
end SoraParachain

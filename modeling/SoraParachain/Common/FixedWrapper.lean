import SoraParachain.Library.FixedPoint

/-!
# Fixed-point balances

`Fixed` has eighteen decimals over a signed 128-bit integer.  A `FixedWrapper`
carries either such a number or the arithmetic error that prevented it, so that
a formula is written with plain operators and checked once at its end.  Balances
are natural numbers, counted in units of `10⁻¹⁸`.

For the proofs a wrapper `Holds` a number of units when it carries it.  The
lemmas at the end follow the operators one by one, first over the integers and
then over balances, where every flooring is a natural division.
-/

namespace SoraParachain

/-- `Fixed` of the runtime: `fixnum` with eighteen decimals over `i128`. -/
abbrev fixedFormat : FixedFormat where
  scale := 10 ^ 18
  bound := 2 ^ 127
  scale_pos := by decide
  bound_pos := by decide

theorem fits_zero : fixedFormat.Fits 0 := by decide

/-- The largest number of the format. -/
theorem fits_max : fixedFormat.Fits (2 ^ 127 - 1) := by decide

/-- `balance!(n)`: `n` whole units. -/
def balance (n : ℕ) : ℕ := n * 10 ^ 18

/-- A fixed-point number, or the error met on the way to it. -/
structure FixedWrapper where
  inner : Except ArithmeticError (Fixed fixedFormat)

namespace FixedWrapper

/-- `From<u128>`: the balance becomes the raw bits. -/
def ofBalance (value : ℕ) : FixedWrapper :=
  ⟨Fixed.checked value⟩

/-- `From<Fixed>`. -/
def ofFixed (value : Fixed fixedFormat) : FixedWrapper :=
  ⟨.ok value⟩

/-- Both numbers, or the first error. -/
def zip (a b : FixedWrapper) :
    Except ArithmeticError (Fixed fixedFormat × Fixed fixedFormat) :=
  match a.inner, b.inner with
  | .ok x, .ok y => .ok (x, y)
  | .error e, _ => .error e
  | .ok _, .error e => .error e

/-- Lift a checked operation to wrappers. -/
def lift₂
    (op : Fixed fixedFormat → Fixed fixedFormat →
      Except ArithmeticError (Fixed fixedFormat))
    (a b : FixedWrapper) : FixedWrapper :=
  match zip a b with
  | .ok (x, y) => ⟨op x y⟩
  | .error e => ⟨.error e⟩

instance : Add FixedWrapper := ⟨lift₂ Fixed.cadd⟩
instance : Sub FixedWrapper := ⟨lift₂ Fixed.csub⟩
instance : Mul FixedWrapper := ⟨lift₂ Fixed.rmul⟩
instance : Div FixedWrapper := ⟨lift₂ Fixed.rdiv⟩

/-- Adding a plain `u128`, which reports any earlier error as an overflow. -/
def addBalance (a : FixedWrapper) (rhs : ℕ) : FixedWrapper :=
  match a.inner with
  | .error _ => ⟨.error .overflow⟩
  | .ok _ => a + ofBalance rhs

/-- The result of an operator with a plain operand, which reports any earlier
error as an overflow. -/
def orOverflow (a result : FixedWrapper) : FixedWrapper :=
  match a.inner with
  | .error _ => ⟨.error .overflow⟩
  | .ok _ => result

/-- Subtracting a plain `u128`. -/
def subBalance (a : FixedWrapper) (rhs : ℕ) : FixedWrapper :=
  a.orOverflow (a - ofBalance rhs)

/-- Multiplying a plain `u128`. -/
def balanceMul (lhs : ℕ) (a : FixedWrapper) : FixedWrapper :=
  a.orOverflow (ofBalance lhs * a)

/-- Adding a plain `Fixed`. -/
def addFixed (a : FixedWrapper) (rhs : Fixed fixedFormat) : FixedWrapper :=
  a.orOverflow (a + ofFixed rhs)

/-- Multiplying by a plain `Fixed`. -/
def mulFixed (a : FixedWrapper) (rhs : Fixed fixedFormat) : FixedWrapper :=
  a.orOverflow (a * ofFixed rhs)

/-- Multiplying a plain `Fixed`. -/
def fixedMul (lhs : Fixed fixedFormat) (a : FixedWrapper) : FixedWrapper :=
  a.orOverflow (ofFixed lhs * a)

/-- Multiplying by a plain `u128`. -/
def mulBalance (a : FixedWrapper) (rhs : ℕ) : FixedWrapper :=
  a.orOverflow (a * ofBalance rhs)

def sqrtAccurate (a : FixedWrapper) : FixedWrapper :=
  match a.inner with
  | .ok x => ⟨x.rsqrt⟩
  | .error e => ⟨.error e⟩

/-- The product of the two square roots; every error becomes an overflow. -/
def multiplyAndSqrt (a b : FixedWrapper) : FixedWrapper :=
  match (a.sqrtAccurate * b.sqrtAccurate).inner with
  | .ok x => ⟨.ok x⟩
  | .error _ => ⟨.error .overflow⟩

/-- The order of the numbers.  An error is neither above nor below. -/
def less (a b : FixedWrapper) : Bool :=
  match zip a b with
  | .ok (x, y) => decide (x.bits < y.bits)
  | .error _ => false

/-- The bits as a balance, which must not be negative. -/
def tryIntoBalance (a : FixedWrapper) : Except ArithmeticError ℕ :=
  match a.inner with
  | .ok x => if 0 ≤ x.bits then .ok x.bits.toNat else .error .overflow
  | .error e => .error e

/-! ## What a wrapper holds -/

/-- The wrapper carries the number with the given bits. -/
def Holds (a : FixedWrapper) (z : ℤ) : Prop :=
  ∃ x, a.inner = .ok x ∧ x.bits = z

theorem Holds.unique {a : FixedWrapper} {z w : ℤ}
    (hz : a.Holds z) (hw : a.Holds w) :
    z = w := by
  obtain ⟨x, hx, rfl⟩ := hz
  obtain ⟨y, hy, rfl⟩ := hw
  rw [hx] at hy
  cases hy
  rfl

theorem Holds.fits {a : FixedWrapper} {z : ℤ} (hz : a.Holds z) :
    fixedFormat.Fits z := by
  obtain ⟨x, -, rfl⟩ := hz
  exact x.fits

theorem holds_mk_checked {z w : ℤ} :
    (⟨Fixed.checked z⟩ : FixedWrapper).Holds w ↔
      w = z ∧ fixedFormat.Fits z := by
  constructor
  · rintro ⟨x, hx, rfl⟩
    have hz := Fixed.checked_eq_ok.mp hx
    exact ⟨hz, hz ▸ x.fits⟩
  · rintro ⟨rfl, hfits⟩
    exact ⟨⟨w, hfits⟩, Fixed.checked_eq_ok.mpr rfl, rfl⟩

theorem holds_ofBalance {n : ℕ} {z : ℤ} :
    (ofBalance n).Holds z ↔ z = n ∧ n < 2 ^ 127 := by
  rw [ofBalance, holds_mk_checked, FixedFormat.fits_natCast]

@[simp] theorem holds_ofFixed {x : Fixed fixedFormat} {z : ℤ} :
    (ofFixed x).Holds z ↔ z = x.bits := by
  simp [Holds, ofFixed, eq_comm]

theorem less_iff {a b : FixedWrapper} :
    a.less b = true ↔ ∃ x y, a.Holds x ∧ b.Holds y ∧ x < y := by
  unfold less zip Holds
  rcases ha : a.inner with e | x
  · simp
  · rcases hb : b.inner with e | y
    · simp
    · simp

theorem holds_lift₂ {op a b} {z : ℤ} :
    (lift₂ op a b).Holds z ↔
      ∃ x y, a.inner = .ok x ∧ b.inner = .ok y ∧
        (⟨op x y⟩ : FixedWrapper).Holds z := by
  unfold lift₂ zip
  rcases ha : a.inner with e | x
  · simp [Holds]
  · rcases hb : b.inner with e | y
    · simp [Holds]
    · simp

/-- A checked operation holds its exact result if this fits. -/
theorem holds_lift₂_checked (op : ℤ → ℤ → ℤ) {a b : FixedWrapper} {z : ℤ} :
    (lift₂ (fun x y => Fixed.checked (op x.bits y.bits)) a b).Holds z ↔
      ∃ x y, a.Holds x ∧ b.Holds y ∧ z = op x y ∧
        fixedFormat.Fits (op x y) := by
  rw [holds_lift₂]
  constructor
  · rintro ⟨x, y, hx, hy, h⟩
    exact ⟨x.bits, y.bits, ⟨x, hx, rfl⟩, ⟨y, hy, rfl⟩,
      holds_mk_checked.mp h⟩
  · rintro ⟨_, _, ⟨x, hx, rfl⟩, ⟨y, hy, rfl⟩, h⟩
    exact ⟨x, y, hx, hy, holds_mk_checked.mpr h⟩

theorem holds_add {a b : FixedWrapper} {z : ℤ} :
    (a + b).Holds z ↔
      ∃ x y, a.Holds x ∧ b.Holds y ∧ z = x + y ∧
        fixedFormat.Fits (x + y) :=
  holds_lift₂_checked fun x y => x + y

theorem holds_sub {a b : FixedWrapper} {z : ℤ} :
    (a - b).Holds z ↔
      ∃ x y, a.Holds x ∧ b.Holds y ∧ z = x - y ∧
        fixedFormat.Fits (x - y) :=
  holds_lift₂_checked fun x y => x - y

theorem holds_mul {a b : FixedWrapper} {z : ℤ} :
    (a * b).Holds z ↔
      ∃ x y, a.Holds x ∧ b.Holds y ∧
        z = (x * y).fdiv fixedFormat.scale ∧
        fixedFormat.Fits ((x * y).fdiv fixedFormat.scale) :=
  holds_lift₂_checked fun x y => (x * y).fdiv fixedFormat.scale

theorem holds_div {a b : FixedWrapper} {z : ℤ} :
    (a / b).Holds z ↔
      ∃ x y, a.Holds x ∧ b.Holds y ∧ y ≠ 0 ∧
        z = (x * fixedFormat.scale).fdiv y ∧
        fixedFormat.Fits ((x * fixedFormat.scale).fdiv y) := by
  change (lift₂ Fixed.rdiv a b).Holds z ↔ _
  rw [holds_lift₂]
  constructor
  · rintro ⟨x, y, hx, hy, q, hq, rfl⟩
    obtain ⟨hy0, hbits⟩ := Fixed.rdiv_eq_ok.mp hq
    exact ⟨x.bits, y.bits, ⟨x, hx, rfl⟩, ⟨y, hy, rfl⟩, hy0, hbits,
      hbits ▸ q.fits⟩
  · rintro ⟨_, _, ⟨x, hx, rfl⟩, ⟨y, hy, rfl⟩, hy0, rfl, hfits⟩
    exact ⟨x, y, hx, hy, ⟨_, hfits⟩, Fixed.rdiv_eq_ok.mpr ⟨hy0, rfl⟩, rfl⟩

/-- An error stays an error, whichever it is. -/
theorem holds_orOverflow {a result : FixedWrapper} {z : ℤ}
    (h : ∀ w, result.Holds w → ∃ x, a.Holds x) :
    (a.orOverflow result).Holds z ↔ result.Holds z := by
  unfold orOverflow
  cases ha : a.inner with
  | error e =>
      refine iff_of_false (fun hz => ?_) fun hz => ?_
      · obtain ⟨x, hx, -⟩ := hz
        cases hx
      · obtain ⟨x, y, hy, -⟩ := h z hz
        rw [ha] at hy
        cases hy
  | ok x => exact Iff.rfl

theorem Holds.of_sqrtAccurate {a : FixedWrapper} {z : ℤ}
    (h : a.sqrtAccurate.Holds z) :
    ∃ x, a.Holds x := by
  unfold sqrtAccurate at h
  cases ha : a.inner with
  | ok x => exact ⟨x.bits, x, ha, rfl⟩
  | error e =>
      rw [ha] at h
      obtain ⟨y, hy, -⟩ := h
      cases hy

/-- Only a number that is not negative has a root. -/
theorem Holds.exists_nat_of_sqrtAccurate {a : FixedWrapper} {z : ℤ}
    (h : a.sqrtAccurate.Holds z) :
    ∃ n : ℕ, a.Holds n := by
  obtain ⟨_, x, hx, -⟩ := h.of_sqrtAccurate
  have hsqrt : a.sqrtAccurate = ⟨x.rsqrt⟩ := by
    simp only [sqrtAccurate, hx]
  rw [hsqrt] at h
  obtain ⟨y, hy, -⟩ := h
  have hnonneg := (Fixed.rsqrt_eq_ok.mp hy).1
  exact ⟨x.bits.toNat, x, hx, (Int.toNat_of_nonneg hnonneg).symm⟩

theorem Holds.of_multiplyAndSqrt {a b : FixedWrapper} {z : ℤ}
    (h : (a.multiplyAndSqrt b).Holds z) :
    (∃ x, a.Holds x) ∧ ∃ y, b.Holds y := by
  have hmul : ∃ w, (a.sqrtAccurate * b.sqrtAccurate).Holds w := by
    unfold multiplyAndSqrt at h
    cases hinner : (a.sqrtAccurate * b.sqrtAccurate).inner with
    | ok x => exact ⟨x.bits, x, hinner, rfl⟩
    | error e =>
        rw [hinner] at h
        obtain ⟨y, hy, -⟩ := h
        cases hy
  obtain ⟨w, hw⟩ := hmul
  obtain ⟨x, y, hx, hy, -⟩ := holds_mul.mp hw
  exact ⟨hx.of_sqrtAccurate, hy.of_sqrtAccurate⟩

section Mixed

variable {a : FixedWrapper} {n : ℕ} {x : Fixed fixedFormat} {z : ℤ}

theorem holds_subBalance :
    (a.subBalance n).Holds z ↔ (a - ofBalance n).Holds z := by
  apply holds_orOverflow
  intro w hw
  obtain ⟨y, -, hy, -⟩ := holds_sub.mp hw
  exact ⟨y, hy⟩

theorem holds_balanceMul :
    (balanceMul n a).Holds z ↔ (ofBalance n * a).Holds z := by
  apply holds_orOverflow
  intro w hw
  obtain ⟨-, y, -, hy, -⟩ := holds_mul.mp hw
  exact ⟨y, hy⟩

theorem holds_addFixed :
    (a.addFixed x).Holds z ↔ (a + ofFixed x).Holds z := by
  apply holds_orOverflow
  intro w hw
  obtain ⟨y, -, hy, -⟩ := holds_add.mp hw
  exact ⟨y, hy⟩

theorem holds_mulFixed :
    (a.mulFixed x).Holds z ↔ (a * ofFixed x).Holds z := by
  apply holds_orOverflow
  intro w hw
  obtain ⟨y, -, hy, -⟩ := holds_mul.mp hw
  exact ⟨y, hy⟩

theorem holds_fixedMul :
    (fixedMul x a).Holds z ↔ (ofFixed x * a).Holds z := by
  apply holds_orOverflow
  intro w hw
  obtain ⟨-, y, -, hy, -⟩ := holds_mul.mp hw
  exact ⟨y, hy⟩

theorem holds_mulBalance :
    (a.mulBalance n).Holds z ↔ (a * ofBalance n).Holds z := by
  apply holds_orOverflow
  intro w hw
  obtain ⟨y, -, hy, -⟩ := holds_mul.mp hw
  exact ⟨y, hy⟩

end Mixed

/-! ## Balances

When both operands hold balances the flooring operators are natural
divisions. -/

section Balances

variable {a b : FixedWrapper} {x y n : ℕ} {z : ℤ}

theorem tryIntoBalance_eq_ok :
    a.tryIntoBalance = .ok n ↔ a.Holds n := by
  unfold tryIntoBalance Holds
  rcases ha : a.inner with e | q
  · simp
  · by_cases hq : 0 ≤ q.bits
    · simp only [hq, if_true, Except.ok.injEq, exists_eq_left']
      constructor
      · rintro rfl
        exact (Int.toNat_of_nonneg hq).symm
      · intro hn
        rw [hn]
        exact Int.toNat_natCast n
    · simp only [hq, if_false, Except.ok.injEq, exists_eq_left',
        reduceCtorEq, false_iff]
      intro hn
      exact hq (hn ▸ Int.natCast_nonneg n)

theorem Holds.lt (ha : a.Holds x) : x < 2 ^ 127 :=
  (FixedFormat.fits_natCast fixedFormat).mp ha.fits

theorem holds_add_nat (ha : a.Holds x) (hb : b.Holds y) :
    (a + b).Holds z ↔ z = (x + y : ℕ) ∧ x + y < 2 ^ 127 := by
  rw [holds_add]
  constructor
  · rintro ⟨x', y', hx, hy, rfl, hfits⟩
    rw [← ha.unique hx, ← hb.unique hy, ← Int.natCast_add] at hfits ⊢
    exact ⟨rfl, (FixedFormat.fits_natCast fixedFormat).mp hfits⟩
  · rintro ⟨rfl, hlt⟩
    refine ⟨x, y, ha, hb, Int.natCast_add x y, ?_⟩
    rw [← Int.natCast_add]
    exact (FixedFormat.fits_natCast fixedFormat).mpr hlt

/-- A difference of balances always fits, but it may be negative. -/
theorem holds_sub_nat (ha : a.Holds x) (hb : b.Holds y) :
    (a - b).Holds z ↔ z = (x : ℤ) - y := by
  rw [holds_sub]
  constructor
  · rintro ⟨x', y', hx, hy, rfl, -⟩
    rw [ha.unique hx, hb.unique hy]
  · rintro rfl
    refine ⟨x, y, ha, hb, rfl, ?_⟩
    have hx := ha.lt
    have hy := hb.lt
    constructor
    · change -((2 ^ 127 : ℕ) : ℤ) ≤ _
      omega
    · change _ < ((2 ^ 127 : ℕ) : ℤ)
      omega

theorem holds_mul_nat (ha : a.Holds x) (hb : b.Holds y) :
    (a * b).Holds z ↔
      z = (x * y / 10 ^ 18 : ℕ) ∧ x * y / 10 ^ 18 < 2 ^ 127 := by
  have hfloor : ((x : ℤ) * y).fdiv fixedFormat.scale =
      ((x * y / 10 ^ 18 : ℕ) : ℤ) := by
    rw [← Int.natCast_mul]
    exact (Int.ofNat_fdiv _ _).symm
  rw [holds_mul]
  constructor
  · rintro ⟨x', y', hx, hy, rfl, hfits⟩
    rw [← ha.unique hx, ← hb.unique hy, hfloor] at hfits ⊢
    exact ⟨rfl, (FixedFormat.fits_natCast fixedFormat).mp hfits⟩
  · rintro ⟨rfl, hlt⟩
    refine ⟨x, y, ha, hb, hfloor.symm, ?_⟩
    rw [hfloor]
    exact (FixedFormat.fits_natCast fixedFormat).mpr hlt

theorem holds_div_nat (ha : a.Holds x) (hb : b.Holds y) :
    (a / b).Holds z ↔
      0 < y ∧ z = (x * 10 ^ 18 / y : ℕ) ∧ x * 10 ^ 18 / y < 2 ^ 127 := by
  have hfloor : ((x : ℤ) * fixedFormat.scale).fdiv y =
      ((x * 10 ^ 18 / y : ℕ) : ℤ) := by
    rw [← Int.natCast_mul]
    exact (Int.ofNat_fdiv _ _).symm
  rw [holds_div]
  constructor
  · rintro ⟨x', y', hx, hy, hy0, rfl, hfits⟩
    rw [← hb.unique hy] at hy0
    rw [← ha.unique hx, ← hb.unique hy, hfloor] at hfits ⊢
    exact ⟨by omega, rfl, (FixedFormat.fits_natCast fixedFormat).mp hfits⟩
  · rintro ⟨hy0, rfl, hlt⟩
    refine ⟨x, y, ha, hb, by omega, hfloor.symm, ?_⟩
    rw [hfloor]
    exact (FixedFormat.fits_natCast fixedFormat).mpr hlt

theorem holds_addBalance_nat (ha : a.Holds x) :
    (a.addBalance n).Holds z ↔ z = (x + n : ℕ) ∧ x + n < 2 ^ 127 := by
  obtain ⟨q, hq, hbits⟩ := ha
  have hadd : a.addBalance n = a + ofBalance n := by
    simp only [addBalance, hq]
  rw [hadd]
  by_cases hn : n < 2 ^ 127
  · exact holds_add_nat ⟨q, hq, hbits⟩ (holds_ofBalance.mpr ⟨rfl, hn⟩)
  · constructor
    · intro h
      obtain ⟨_, _, _, hy, _⟩ := holds_add.mp h
      exact absurd (holds_ofBalance.mp hy).2 hn
    · rintro ⟨-, hlt⟩
      omega

theorem Holds.of_addBalance (h : (a.addBalance n).Holds z) :
    ∃ x, a.Holds x := by
  unfold addBalance at h
  rcases ha : a.inner with e | q
  · rw [ha] at h
    obtain ⟨_, hq, -⟩ := h
    cases hq
  · exact ⟨q.bits, q, ha, rfl⟩

/-- A quotient of a wrapper that holds nothing holds nothing either. -/
theorem Holds.of_div (h : (a / b).Holds z) :
    (∃ x, a.Holds x) ∧ ∃ y, b.Holds y := by
  obtain ⟨x, y, hx, hy, -⟩ := holds_div.mp h
  exact ⟨⟨x, hx⟩, ⟨y, hy⟩⟩

/-- A quotient by a quotient, each rounded down. -/
theorem holds_div_div_nat {c : FixedWrapper} {v : ℕ} (ha : a.Holds x)
    (hb : b.Holds y) (hc : c.Holds v) :
    (a / (b / c)).Holds z ↔
      0 < v ∧ y * 10 ^ 18 / v < 2 ^ 127 ∧ 0 < y * 10 ^ 18 / v ∧
        z = (x * 10 ^ 18 / (y * 10 ^ 18 / v) : ℕ) ∧
        x * 10 ^ 18 / (y * 10 ^ 18 / v) < 2 ^ 127 := by
  constructor
  · intro h
    obtain ⟨-, q, hq⟩ := Holds.of_div h
    obtain ⟨hv, rfl, hqlt⟩ := (holds_div_nat hb hc).mp hq
    obtain ⟨hpos, hz, hlt⟩ := (holds_div_nat ha hq).mp h
    exact ⟨hv, hqlt, hpos, hz, hlt⟩
  · rintro ⟨hv, hqlt, hpos, hz, hlt⟩
    have hq := (holds_div_nat hb hc).mpr ⟨hv, rfl, hqlt⟩
    exact (holds_div_nat ha hq).mpr ⟨hpos, hz, hlt⟩

theorem sqrt_scaled_lt {m : ℕ} (hm : m < 2 ^ 127) :
    Nat.sqrt (m * 10 ^ 18) < 2 ^ 127 := by
  rw [Nat.sqrt_lt']
  calc
    m * 10 ^ 18 < 2 ^ 127 * 10 ^ 18 :=
      Nat.mul_lt_mul_of_pos_right hm (by decide)
    _ ≤ (2 ^ 127) ^ 2 := by norm_num

theorem holds_sqrtAccurate_nat (ha : a.Holds x) :
    a.sqrtAccurate.Holds z ↔ z = Nat.sqrt (x * 10 ^ 18) := by
  obtain ⟨q, hq, hbits⟩ := ha
  have hx : x < 2 ^ 127 := Holds.lt ⟨q, hq, hbits⟩
  have hsqrt : a.sqrtAccurate = ⟨q.rsqrt⟩ := by
    simp only [sqrtAccurate, hq]
  rw [hsqrt]
  constructor
  · rintro ⟨r, hr, rfl⟩
    have h := (Fixed.rsqrt_eq_ok.mp hr).2
    rwa [hbits, Int.toNat_natCast] at h
  · rintro rfl
    refine ⟨⟨Nat.sqrt (x * 10 ^ 18), ?_⟩, ?_, rfl⟩
    · exact (FixedFormat.fits_natCast fixedFormat).mpr (sqrt_scaled_lt hx)
    · refine Fixed.rsqrt_eq_ok.mpr ⟨by omega, ?_⟩
      rw [hbits, Int.toNat_natCast]

/-- The root of a product of balances always fits. -/
theorem holds_multiplyAndSqrt_nat (ha : a.Holds x) (hb : b.Holds y) :
    (a.multiplyAndSqrt b).Holds z ↔
      z = (Nat.sqrt (x * 10 ^ 18) * Nat.sqrt (y * 10 ^ 18) / 10 ^ 18 : ℕ) := by
  have hsa := (holds_sqrtAccurate_nat ha).mpr rfl
  have hsb := (holds_sqrtAccurate_nat hb).mpr rfl
  have hmul : (a.sqrtAccurate * b.sqrtAccurate).Holds z ↔ _ :=
    holds_mul_nat hsa hsb
  have hlt : Nat.sqrt (x * 10 ^ 18) * Nat.sqrt (y * 10 ^ 18) / 10 ^ 18 <
      2 ^ 127 := by
    apply Nat.div_lt_of_lt_mul
    have hx := Nat.sqrt_le' (x * 10 ^ 18)
    have hy := Nat.sqrt_le' (y * 10 ^ 18)
    have hxlt := ha.lt
    have hylt := hb.lt
    have hsq : (Nat.sqrt (x * 10 ^ 18) * Nat.sqrt (y * 10 ^ 18)) ^ 2 <
        (10 ^ 18 * 2 ^ 127) ^ 2 := by
      calc
        (Nat.sqrt (x * 10 ^ 18) * Nat.sqrt (y * 10 ^ 18)) ^ 2
            = Nat.sqrt (x * 10 ^ 18) ^ 2 * Nat.sqrt (y * 10 ^ 18) ^ 2 :=
          Nat.mul_pow _ _ _
        _ ≤ x * 10 ^ 18 * (y * 10 ^ 18) := Nat.mul_le_mul hx hy
        _ < 2 ^ 127 * 10 ^ 18 * (2 ^ 127 * 10 ^ 18) := by
          refine Nat.mul_lt_mul'' ?_ ?_
          · omega
          · omega
        _ = (10 ^ 18 * 2 ^ 127) ^ 2 := by norm_num
    exact lt_of_pow_lt_pow_left₀ 2 (Nat.zero_le _) hsq
  have hok : (a.multiplyAndSqrt b).Holds z ↔
      (a.sqrtAccurate * b.sqrtAccurate).Holds z := by
    unfold multiplyAndSqrt Holds
    rcases h : (a.sqrtAccurate * b.sqrtAccurate).inner with e | r
    · simp
    · simp
  rw [hok, hmul]
  exact ⟨fun h => h.1, fun h => ⟨h, hlt⟩⟩

end Balances

end FixedWrapper
end SoraParachain

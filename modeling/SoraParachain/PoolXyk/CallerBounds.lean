import SoraParachain.Mock
import SoraParachain.PoolXyk.Books

/-!
# What a withdrawal pays against what its caller asked for

Every kind of bound has a reading as a condition on the amount paid.
Validation enforces it for all kinds but one: an amount that is given by a
desired value and a minimum is kept below the minimum instead of above it.
-/

namespace SoraParachain
namespace PoolXyk

variable {T : Config}

open Technical (techAccountIdToAccountId)

/-- An amount is what the writer of the bound asked for. -/
def Bounds.Honours : Bounds → ℕ → Prop
  | .calculated d, paid => paid = d
  | .desired d, paid => paid = d
  | .min m, paid => m ≤ paid
  | .max m, paid => paid ≤ m
  | .rangeFromDesiredToMin d m, paid => m ≤ paid ∧ paid ≤ d
  | .decide, _ => True
  | .dummy, _ => True

/-- The minimum of a range is within the share of a reserve that the burned
tokens stand for; other bounds are not restricted. -/
def Bounds.MinWithinShare : Bounds → ℕ → ℕ → ℕ → Prop
  | .rangeFromDesiredToMin _ m, reserve, burned, supply =>
      m * (supply + minLiquidity) ≤ reserve * burned / S * S
  | _, _, _, _ => True

/-- Validation honours a bound unless it is a range with a minimum that is
larger than the amount. -/
theorem Bounds.honours_iff {bounds x : Bounds} {paid : ℕ} {e : PoolXykError}
    (h : decideAgainst bounds paid e = .ok x) :
    bounds.Honours paid ↔
      ∀ d m, bounds = .rangeFromDesiredToMin d m → m ≤ paid := by
  cases bounds with
  | desired d =>
      obtain ⟨_, hd, -⟩ := Tx.except_bind_eq_ok.mp h
      have heq : paid = d := (not_not.mp (ensure_eq_ok.mp hd)).symm
      simp [Honours, heq]
  | rangeFromDesiredToMin d m =>
      obtain ⟨_, hmeets, -⟩ := Tx.except_bind_eq_ok.mp h
      have hmeets := ensure_eq_ok.mp hmeets
      simp only [meetsTheBoundaries, toOption, Bool.and_eq_true,
        decide_eq_true_eq] at hmeets
      constructor
      · intro hpaid d' m' heq
        cases heq
        exact hpaid.1
      · intro hpaid
        exact ⟨hpaid d m rfl, hmeets.1⟩
  | calculated d =>
      obtain ⟨_, hmeets, -⟩ := Tx.except_bind_eq_ok.mp h
      have hmeets := ensure_eq_ok.mp hmeets
      simp only [meetsTheBoundaries, toOption, decide_eq_true_eq] at hmeets
      simp [Honours, hmeets]
  | min m =>
      obtain ⟨_, hmeets, -⟩ := Tx.except_bind_eq_ok.mp h
      have hle := meetsTheBoundaries_min.mp (ensure_eq_ok.mp hmeets)
      simp [Honours, hle]
  | max m =>
      obtain ⟨_, hmeets, -⟩ := Tx.except_bind_eq_ok.mp h
      have hmeets := ensure_eq_ok.mp hmeets
      simp only [meetsTheBoundaries, toOption, decide_eq_true_eq] at hmeets
      simp [Honours, hmeets]
  | decide => simp [Honours]
  | dummy => simp [Honours]

/-- The amounts of a withdrawal that may be compared with the share of a
reserve. -/
theorem Bounds.minWithinShare_iff {bounds : Bounds}
    {reserve burned supply paid : ℕ}
    (h : WithdrawLiquidityAction.shareOf reserve burned supply = .ok paid) :
    bounds.MinWithinShare reserve burned supply ↔
      ∀ d m, bounds = .rangeFromDesiredToMin d m → m ≤ paid := by
  obtain ⟨-, -, -, -, hpaid, -⟩ :=
    WithdrawLiquidityAction.shareOf_eq_ok.mp h
  have hpos : 0 < supply + minLiquidity := Nat.add_pos_right _ (by decide)
  cases bounds with
  | rangeFromDesiredToMin d m =>
      have hle : m ≤ paid ↔
          m * (supply + minLiquidity) ≤ reserve * burned / S * S := by
        rw [hpaid]
        exact Nat.le_div_iff_mul_le hpos
      constructor
      · intro hm d' m' heq
        cases heq
        exact hle.mpr hm
      · intro hall
        exact hle.mp (hall d m rfl)
  | _ => simp [MinWithinShare]

/-- The two destinations of a withdrawal get what they were asked to get. -/
def WithdrawLiquidityAction.Honoured (a : WithdrawLiquidityAction T)
    (t : WithdrawLiquidityAction.Terms) : Prop :=
  a.destination.fst.amount.Honours t.amountA ∧
    a.destination.snd.amount.Honours t.amountB

/-- No destination of a withdrawal names a range whose minimum is larger than
the share of the burned tokens. -/
def WithdrawLiquidityAction.MinsWithinShare (s : Storage T)
    (a : WithdrawLiquidityAction T) (burned : ℕ) : Prop :=
  a.destination.fst.amount.MinWithinShare
      (s.free a.destination.fst.asset a.poolRepr) burned
      (s.issuance a.marker) ∧
    a.destination.snd.amount.MinWithinShare
      (s.free a.destination.snd.asset a.poolRepr) burned
      (s.issuance a.marker)

/-- An accepted withdrawal honours its bounds when no minimum of a range is
larger than the share, and only then. -/
theorem WithdrawLiquidityAction.Agreed.honoured_iff {s : Storage T}
    {a : WithdrawLiquidityAction T} {w : T.AccountId}
    {t : WithdrawLiquidityAction.Terms}
    (h : WithdrawLiquidityAction.Agreed s a w t) :
    a.Honoured t ↔ a.MinsWithinShare s t.burned := by
  have hfst := (Bounds.honours_iff h.fst).trans
    (Bounds.minWithinShare_iff h.shareA).symm
  have hsnd := (Bounds.honours_iff h.snd).trans
    (Bounds.minWithinShare_iff h.shareB).symm
  exact and_congr hfst hsnd

/-- Whatever bounds a submitted withdrawal names, a success honours them when
no minimum of a range is larger than the share of the burned tokens, and only
then.  The bounds of a withdrawal call are always honoured. -/
theorem withdrawal_honours_bounds_iff {s s' : Storage T} {w : T.AccountId} :
    (∀ a : WithdrawLiquidityAction T,
      (Technical.createSwap w (PolySwapAction.withdrawLiquidity a)).run s =
        (.ok (), s') →
      ∃ t l l', a.Settles s w t l l' ∧
        s' = a.settled (withMarkingRecord s a.poolAccount) l' ∧
        (a.Honoured t ↔ a.MinsWithinShare s t.burned)) ∧
    ∀ (dexId : T.DEXId) (assetA assetB : T.AssetId) (k aMin bMin : ℕ),
      (withdrawLiquidity w dexId assetA assetB k aMin bMin).run s =
        (.ok (), s') →
      ∃ techAcc mark t l l', IsPoolOf s dexId assetA assetB techAcc ∧
        (withdrawAction techAcc assetA assetB k aMin bMin mark).Settles s w t l
          l' ∧
        s' = (withdrawAction techAcc assetA assetB k aMin bMin mark).settled
          (withMarkingRecord s techAcc) l' ∧
        aMin ≤ t.amountA ∧ bMin ≤ t.amountB := by
  constructor
  · intro a h
    obtain ⟨-, t, l, l', hsettles, hs'⟩ :=
      run_performCreateSwap_withdrawLiquidity_ok.mp h
    exact ⟨t, l, l', hsettles, hs', hsettles.agreed.honoured_iff⟩
  · intro dexId assetA assetB k aMin bMin h
    obtain ⟨techAcc, mark, t, l, l', hpool, hsettles, hs'⟩ :=
      run_withdrawLiquidity_ok.mp h
    have hhonoured := hsettles.agreed.honoured_iff.mpr ⟨trivial, trivial⟩
    exact ⟨techAcc, mark, t, l, l', hpool, hsettles, hs', hhonoured.1,
      hhonoured.2⟩

/-- Bob withdraws one unit of the sample pool, with bounds of his own for what
he gets. -/
def withdrawUnitWithin (fst snd : Bounds) :
    WithdrawLiquidityAction Mock.runtime where
  clientAccount := none
  receiverAccountA := none
  receiverAccountB := none
  poolAccount := Mock.poolOf Mock.dexA Mock.redPepper
  source := ⟨Mock.markerOf Mock.dexA Mock.redPepper, .desired Mock.unit⟩
  destination := ⟨⟨Mock.goldenTicket, fst⟩, ⟨Mock.redPepper, snd⟩⟩

/-- A maximum and a minimum are honoured. -/
theorem withdrawal_honours_bounds_iff_sample :
    ∃ t l l',
      (withdrawUnitWithin (.max Mock.unit) (.min Mock.unit)).Settles Mock.funded
        Mock.bob.account t l l' ∧
      step Mock.funded (Mock.bob, .createSwap (.withdrawLiquidity
          (withdrawUnitWithin (.max Mock.unit) (.min Mock.unit)))) =
        (withdrawUnitWithin (.max Mock.unit) (.min Mock.unit)).settled
          (withMarkingRecord Mock.funded
            (Mock.poolOf Mock.dexA Mock.redPepper)) l' ∧
      ((withdrawUnitWithin (.max Mock.unit) (.min Mock.unit)).Honoured t ↔
        (withdrawUnitWithin (.max Mock.unit) (.min Mock.unit)).MinsWithinShare
          Mock.funded t.burned) :=
  (withdrawal_honours_bounds_iff (T := Mock.runtime)).1 _
    (Extrinsic.succeeds_iff.mp (by decide +kernel :
      Extrinsic.Succeeds Mock.funded (Mock.bob, .createSwap (.withdrawLiquidity
        (withdrawUnitWithin (.max Mock.unit) (.min Mock.unit))))))

/-- Bob asks for three units, or two at the least. -/
def greedyWithdrawal : Extrinsic Mock.runtime :=
  (Mock.bob, .createSwap (.withdrawLiquidity (withdrawUnitWithin
    (.rangeFromDesiredToMin (3 * Mock.unit) (2 * Mock.unit)) (.min 0))))

/-- He is served and gets less than two units. -/
theorem withdrawal_pays_below_minimum :
    greedyWithdrawal.Succeeds Mock.funded ∧
      ¬(Bounds.rangeFromDesiredToMin (3 * Mock.unit) (2 * Mock.unit)).Honours
        ((step Mock.funded greedyWithdrawal).free Mock.goldenTicket
            Mock.bob.account -
          Mock.funded.free Mock.goldenTicket Mock.bob.account) := by
  have hpaid : (step Mock.funded greedyWithdrawal).free Mock.goldenTicket
        Mock.bob.account -
      Mock.funded.free Mock.goldenTicket Mock.bob.account < 2 * Mock.unit := by
    decide +kernel
  exact ⟨by decide +kernel, fun h => Nat.not_le_of_lt hpaid h.1⟩

end PoolXyk
end SoraParachain

import SoraParachain.Library.EvenSpacing
import SoraParachain.Library.Traversal
import SoraParachain.LiquidityProxy.Registry

/-!
# The amounts that a source is sampled with

The points up to an amount that is not negative are computed without an error.
They stand in order between nothing and the amount, the last one is the amount
itself, and none is below its exact place.
-/

namespace SoraParachain
namespace LiquidityProxy

/-- The point `x` steps from zero when there are `n` steps up to `m`. -/
theorem holds_spacedPoint {a b : FixedNumber} {m n x : ℕ}
    (ha : a.bits = 0) (hb : b.bits = m) (hx : 0 < x) (hxn : x ≤ n)
    (hlt : n < 10 ^ 9) {width : FixedWrapper}
    (hwidth : width.Holds (balance n)) :
    (spacedPoint (FixedWrapper.ofFixed a) (FixedWrapper.ofFixed b) width
      x).Holds (spacingPoint fixedFormat.scale m n x) := by
  have hscale : 0 < fixedFormat.scale := by decide
  have hzero : (FixedWrapper.ofFixed a).Holds (0 : ℕ) := by
    rw [FixedWrapper.holds_ofFixed]
    exact ha.symm
  have hend : (FixedWrapper.ofFixed b).Holds m := by
    rw [FixedWrapper.holds_ofFixed]
    exact hb.symm
  have hdiff : (FixedWrapper.ofFixed b - FixedWrapper.ofFixed a).Holds m :=
    (FixedWrapper.holds_sub_nat hend hzero).mpr (by simp)
  have hsmall : ∀ k ≤ n, balance k < 2 ^ 127 := by
    intro k hk
    have hle : balance k ≤ balance (10 ^ 9) :=
      Nat.mul_le_mul_right _ (hk.trans hlt.le)
    exact hle.trans_lt (by decide)
  have hsteps : (FixedWrapper.ofBalance (balance x)).Holds (balance x) :=
    FixedWrapper.holds_ofBalance.mpr ⟨rfl, hsmall x hxn⟩
  have hratio : balance n * 10 ^ 18 / balance x =
      spacingRatio fixedFormat.scale n x := by
    rw [balance, balance, Nat.mul_right_comm]
    exact Nat.mul_div_mul_right _ _ (by decide)
  have hle : spacingPoint fixedFormat.scale m n x ≤ m :=
    spacingPoint_le hscale hx hxn
  have hpoint : ((FixedWrapper.ofFixed b - FixedWrapper.ofFixed a) /
      (width / FixedWrapper.ofBalance (balance x))).Holds
        (spacingPoint fixedFormat.scale m n x) := by
    apply (FixedWrapper.holds_div_div_nat hdiff hwidth hsteps).mpr
    rw [hratio]
    refine ⟨Nat.mul_pos hx hscale, ?_, ?_, rfl, hle.trans_lt hend.lt⟩
    · calc
        spacingRatio fixedFormat.scale n x ≤ n * fixedFormat.scale :=
          Nat.div_le_self _ _
        _ < 2 ^ 127 := hsmall n le_rfl
    · exact hscale.trans_le (le_spacingRatio hx hxn)
  refine (FixedWrapper.holds_add_nat hzero hpoint).mpr ⟨?_, ?_⟩
  · rw [Nat.zero_add]
  · rw [Nat.zero_add]
    exact hle.trans_lt hend.lt

/-- The number of steps as a fixed-point number. -/
theorem holds_steps {n : ℕ} (hlt : n + 1 < 10 ^ 9) :
    (FixedWrapper.ofBalance (balance n) +
      FixedWrapper.ofBalance (balance 1)).Holds (balance (n + 1)) := by
  have hsum : balance n + balance 1 = balance (n + 1) :=
    (Nat.add_mul n 1 _).symm
  have hsmall : balance (n + 1) < 2 ^ 127 := by
    have hle : balance (n + 1) ≤ balance (10 ^ 9) :=
      Nat.mul_le_mul_right _ hlt.le
    exact hle.trans_lt (by decide)
  have hpart : balance n < 2 ^ 127 :=
    (Nat.mul_le_mul_right _ (Nat.le_succ n)).trans_lt hsmall
  refine (FixedWrapper.holds_add_nat
    (FixedWrapper.holds_ofBalance.mpr ⟨rfl, hpart⟩)
    (FixedWrapper.holds_ofBalance.mpr ⟨rfl, by decide⟩)).mpr ?_
  rw [hsum]
  exact ⟨rfl, hsmall⟩

/-- All points are computed. -/
theorem exists_linspace {a b : FixedNumber} {m n : ℕ} (ha : a.bits = 0)
    (hb : b.bits = m) (hn : 0 < n) (hlt : n < 10 ^ 9) :
    ∃ points, linspace a b n .right = some points ∧
      points.map Fixed.bits = (List.range n).map fun k =>
        (spacingPoint fixedFormat.scale m n (k + 1) : ℤ) := by
  obtain ⟨n, rfl⟩ := Nat.exists_eq_succ_of_ne_zero hn.ne'
  rw [linspace, if_neg (Nat.succ_ne_zero n)]
  split_ifs with hab
  · obtain rfl : m = 0 := by
      rw [← hab, ha] at hb
      exact_mod_cast hb.symm
    refine ⟨_, rfl, ?_⟩
    simp [ha]
  · have hwidth := holds_steps hlt
    obtain ⟨points, hpoints, hmap⟩ :=
      Traversal.exists_mapM_map (g := Fixed.bits)
        (h := fun k => (spacingPoint fixedFormat.scale m (n + 1) (k + 1) : ℤ))
        (l := List.range n)
        (f := fun k => (spacedPoint (FixedWrapper.ofFixed a)
          (FixedWrapper.ofFixed b) (FixedWrapper.ofBalance (balance n) +
            FixedWrapper.ofBalance (balance 1)) (k + 1)).inner.toOption)
        (by
          intro k hk
          have hkn : k < n := List.mem_range.mp hk
          obtain ⟨point, hpoint, hbits⟩ :=
            holds_spacedPoint ha hb (Nat.succ_pos k) (by omega) hlt hwidth
          refine ⟨point, ?_, hbits⟩
          rw [hpoint]
          rfl)
    refine ⟨points ++ [b], ?_, ?_⟩
    · change (linspaceInner a b n).map _ = _
      rw [linspaceInner, hpoints]
      rfl
    · rw [List.range_succ, List.map_append, List.map_append, hmap,
        List.map_singleton, List.map_singleton, hb,
        spacingPoint_last (by decide) (Nat.succ_pos n)]

/-- A point of a sampled interval as a number of units. -/
theorem bits_of_getElem? {points : List FixedNumber} {m n k : ℕ}
    {x : FixedNumber}
    (h : points.map Fixed.bits = (List.range n).map fun k =>
      (spacingPoint fixedFormat.scale m n (k + 1) : ℤ))
    (hx : points[k]? = some x) :
    k < n ∧ x.bits = spacingPoint fixedFormat.scale m n (k + 1) := by
  have hbits : (points.map Fixed.bits)[k]? = some x.bits := by
    rw [List.getElem?_map, hx]
    rfl
  have hk : k < n := by
    obtain ⟨hlt, -⟩ := List.getElem?_eq_some_iff.mp hbits
    rw [h] at hlt
    simpa using hlt
  rw [h, List.getElem?_map, List.getElem?_range hk] at hbits
  exact ⟨hk, (Option.some.inj hbits).symm⟩

/-- The points up to a bound are as many as asked for, in order, between nothing
and the bound, which is the last of them, and not below their exact places. -/
theorem linspace_right_sound {b : FixedNumber} {n : ℕ} (hb : 0 ≤ b.bits)
    (hn : 1 ≤ n) (hlt : n < 10 ^ 9) :
    ∃ points, linspace fixedZero b n .right = some points ∧
      points.length = n ∧
      points.Pairwise (fun x y => x.bits ≤ y.bits) ∧
      (∀ x ∈ points, 0 ≤ x.bits ∧ x.bits ≤ b.bits) ∧
      points.getLast? = some b ∧
      ∀ (k : ℕ) (x : FixedNumber), points[k]? = some x →
        b.bits * (k + 1) / n ≤ x.bits := by
  have hscale : 0 < fixedFormat.scale := by decide
  obtain ⟨m, hm⟩ := Int.eq_ofNat_of_zero_le hb
  obtain ⟨points, hpoints, hmap⟩ := exists_linspace
    (rfl : fixedZero.bits = 0) hm hn hlt
  have hlength : points.length = n := by
    have h := congrArg List.length hmap
    simpa using h
  refine ⟨points, hpoints, hlength, ?_, ?_, ?_, ?_⟩
  · rw [List.pairwise_iff_getElem]
    intro i j hi hj hij
    obtain ⟨-, hxi⟩ := bits_of_getElem? hmap (List.getElem?_eq_getElem hi)
    obtain ⟨hjn, hxj⟩ := bits_of_getElem? hmap (List.getElem?_eq_getElem hj)
    rw [hxi, hxj]
    exact_mod_cast spacingPoint_mono hscale (Nat.succ_pos i)
      (Nat.succ_le_succ hij.le) hjn
  · intro x hx
    obtain ⟨k, hk⟩ := List.mem_iff_getElem?.mp hx
    obtain ⟨hkn, hbits⟩ := bits_of_getElem? hmap hk
    rw [hbits, hm]
    have hle : spacingPoint fixedFormat.scale m n (k + 1) ≤ m :=
      spacingPoint_le hscale (Nat.succ_pos k) hkn
    exact ⟨Int.natCast_nonneg _, by exact_mod_cast hle⟩
  · have hlast : n - 1 < points.length := by omega
    obtain ⟨-, hbits⟩ :=
      bits_of_getElem? hmap (List.getElem?_eq_getElem hlast)
    rw [Nat.sub_add_cancel hn, spacingPoint_last hscale hn, ← hm] at hbits
    rw [List.getLast?_eq_getElem?, hlength, List.getElem?_eq_getElem hlast]
    exact congrArg some (Fixed.ext hbits)
  · intro k x hx
    obtain ⟨hkn, hbits⟩ := bits_of_getElem? hmap hx
    rw [hbits, hm]
    exact_mod_cast le_spacingPoint hscale (Nat.succ_pos k) hkn

theorem linspace_right_sound_max :
    ∃ points, linspace fixedZero fixedMax 3 .right = some points ∧
      points.length = 3 ∧
      points.Pairwise (fun x y => x.bits ≤ y.bits) ∧
      (∀ x ∈ points, 0 ≤ x.bits ∧ x.bits ≤ fixedMax.bits) ∧
      points.getLast? = some fixedMax ∧
      ∀ (k : ℕ) (x : FixedNumber), points[k]? = some x →
        fixedMax.bits * (k + 1) / (3 : ℕ) ≤ x.bits :=
  linspace_right_sound (by decide) (by decide) (by decide)

end LiquidityProxy
end SoraParachain

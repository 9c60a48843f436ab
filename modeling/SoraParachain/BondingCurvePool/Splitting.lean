import SoraParachain.BondingCurvePool.DefaultCurve
import SoraParachain.BondingCurvePool.Settlement

/-!
# Splitting a purchase

The fee of a purchase is not minted, so that the next purchase starts from a lower
issuance than the price of the first one went up to.  The second of two purchases
is cheaper than the second part of a single one, by a rectangle of the fee and its
own quantity, up to rounding.
-/

namespace SoraParachain
namespace BondingCurvePool

variable {T : Config} {P : Pool T} {s s₁ s₂ s' : Storage T}

/-- The reserves have nothing to distribute when the purchase takes its input. -/
def BuyMainAsset.Undistributed (P : Pool T) (self : BuyMainAsset T)
    (s : Storage T) : Prop :=
  ∀ free input output s₁,
    (depositInput P self).run s = (.ok (free, input, output), s₁) → free = 0

/-- A purchase of a desired quantity that is charged an amount of the collateral
and distributes nothing. -/
structure UndistributedPurchase (P : Pool T) (s s' : Storage T)
    (quantity charge : ℕ) : Prop where
  run : ∃ sender receiver dexId limit o,
    (P.exchange sender receiver dexId P.usdt T.getBaseAssetId
        (.withDesiredOutput quantity limit)).run s = (.ok o, s') ∧
      sender ≠ P.reservesAccountId ∧
      BuyMainAsset.Undistributed P
        ⟨P.usdt, T.getBaseAssetId, .withDesiredOutput quantity limit, sender,
          receiver⟩ s ∧
      Debited s s' P.usdt sender charge

/-- What splitting a purchase at an issuance does to the charges: nothing if the
first part carries no fee, and otherwise it saves twice the fee times the second
quantity, up to rounding. -/
structure SplitBound (issuance quantity₁ quantity₂ charge₁ charge₂
    charge : ℕ) : Prop where
  eq_of_no_fee : quantity₁ < 1000 → charge₁ + charge₂ = charge
  single_lt : 10 ^ 24 * charge <
    10 ^ 24 * (charge₁ + charge₂) + 2 * (quantity₁ / 1000) * quantity₂ +
      10 ^ 6 * (2 * (issuance + quantity₁) + quantity₂) + 2 * 10 ^ 24
  split_lt : 10 ^ 24 * (charge₁ + charge₂) +
      2 * (quantity₁ / 1000) * quantity₂ <
    10 ^ 24 * charge + 10 ^ 6 * (2 * (issuance + quantity₁) + quantity₂) +
      2 * 10 ^ 24

/-- The fee of a thousandth, rounded down. -/
theorem default_feeOn (n : ℕ) : Curve.default.feeOn n = (n / 1000 : ℕ) := by
  have hbits : Curve.default.fee.bits = (10 ^ 15 : ℕ) := rfl
  have hcancel : 10 ^ 15 * n / 10 ^ 18 = n / 1000 :=
    Nat.mul_div_mul_left n 1000 (by decide)
  rw [Curve.feeOn, hbits, ← Int.natCast_mul, ← hcancel]
  exact (Int.ofNat_fdiv _ _).symm

theorem default_net (n : ℕ) : Curve.default.net n = n - n / 1000 := by
  rw [Curve.net, default_feeOn, Int.toNat_natCast]
  exact wrappingSub_of_le (Nat.div_le_self n 1000)

/-- A purchase that distributes nothing is charged the price of its quantity and
issues the quantity without the fee. -/
theorem UndistributedPurchase.priced (hM : T.currency.Lawful balanceModulus)
    (hassets : P.usdt ≠ T.getBaseAssetId) {quantity charge : ℕ}
    (h : UndistributedPurchase P s s' quantity charge) :
    Priced (P.curve.priceForMainAsset (s.issuance T.getBaseAssetId) quantity
        .buy) charge ∧
      s'.issuance T.getBaseAssetId =
        s.issuance T.getBaseAssetId + P.curve.net quantity := by
  obtain ⟨sender, receiver, dexId, limit, o, hrun, hsender, hnone, hdebit⟩ :=
    h.run
  obtain ⟨-, -, hswap⟩ := Pool.run_exchange_ok.mp hrun
  rw [if_neg hassets] at hswap
  obtain ⟨free, input, output, s₁, s₂, hdeposit, hdistribute, hmint⟩ :=
    BuyMainAsset.run_swap_ok.mp hswap
  have hfree : free = 0 := hnone free input output s₁ hdeposit
  rw [hfree] at hdistribute
  have hsame : s₁ = s₂ := (Prod.mk.inj hdistribute).2
  rw [← hsame] at hmint
  obtain ⟨hdecide, -, -, hin, -⟩ :=
    BuyMainAsset.run_depositInput_ok.mp hdeposit
  obtain ⟨houtput, x, hx, hinput⟩ :=
    Pool.decideBuyAmounts_output_eq_ok.mp hdecide
  obtain ⟨hcharges, hamount, hminted⟩ :=
    BuyMainAsset.run_mintOutput_ok.mp hmint
  have hbook₁ :=
    (Assets.book_of_transferFrom hM (Technical.run_transferIn_ok.mp hin).2).2
  have hbook := Assets.book_of_mintTo hM hminted
  have htaken := debited_of_depositInput hM hsender hdeposit
  have hpaid : Debited s s' P.usdt sender input := by
    have hfree : s'.free P.usdt sender = s₁.free P.usdt sender := by
      rw [Storage.free, hbook, Book.free_issued_of_ne_currency hassets]
      rfl
    rw [Debited, hfree]
    exact htaken
  refine ⟨?_, ?_⟩
  · rw [hdebit.unique hpaid]
    exact ⟨x, (Pool.priceForMainAsset_eq_ok.mp hx).2, hinput⟩
  · rw [houtput] at hcharges hamount
    rw [Storage.issuance, hbook, Book.issuance_issued_self, hbook₁,
      Book.issuance_moved, hcharges.net_eq, hamount]
    rfl

/-- Two purchases against one of both quantities. -/
theorem split_purchase_bounded (hM : T.currency.Lawful balanceModulus)
    (hcurve : P.curve = .default) (hassets : P.usdt ≠ T.getBaseAssetId)
    {quantity₁ quantity₂ charge₁ charge₂ charge : ℕ}
    (h₁ : UndistributedPurchase P s s₁ quantity₁ charge₁)
    (h₂ : UndistributedPurchase P s₁ s₂ quantity₂ charge₂)
    (h : UndistributedPurchase P s s' (quantity₁ + quantity₂) charge) :
    SplitBound (s.issuance T.getBaseAssetId) quantity₁ quantity₂ charge₁
      charge₂ charge := by
  obtain ⟨hprice₁, hissued⟩ := h₁.priced hM hassets
  have hprice₂ := (h₂.priced hM hassets).1
  have hprice := (h.priced hM hassets).1
  rw [hcurve, default_net] at hissued
  rw [hcurve] at hprice₁ hprice₂ hprice
  rw [hissued] at hprice₂
  have hcost₁ := priced_main_buy hprice₁
  have hcost₂ := priced_main_buy hprice₂
  have hcost := priced_main_buy hprice
  have hfee : quantity₁ / 1000 ≤ quantity₁ := Nat.div_le_self quantity₁ 1000
  generalize s.issuance T.getBaseAssetId = Q at *
  -- the second purchase starts at `x`, the fee below the end of the first one
  obtain ⟨x, hx⟩ : ∃ x, x = Q + (quantity₁ - quantity₁ / 1000) := ⟨_, rfl⟩
  have hend : x + quantity₁ / 1000 = Q + quantity₁ := by
    omega
  rw [← hx] at hcost₂
  rw [← Nat.add_assoc, ← hend] at hcost
  rw [← hend] at hcost₁
  have hupper := defaultSlope.floored_shift_lt x (quantity₁ / 1000) quantity₂
  have hlower := defaultSlope.lt_floored_shift x (quantity₁ / 1000) quantity₂
  have hd : defaultSlope.d = 10 ^ 6 := rfl
  have hc : defaultSlope.c = 10 ^ 18 := rfl
  rw [hd, hc] at hupper hlower
  refine ⟨?_, ?_, ?_⟩
  · intro hsmall
    have hzero : quantity₁ / 1000 = 0 := Nat.div_eq_of_lt hsmall
    rw [hzero, Nat.add_zero] at hcost₁ hcost
    omega
  · generalize 2 * (quantity₁ / 1000) * quantity₂ = rectangle at hupper ⊢
    omega
  · generalize 2 * (quantity₁ / 1000) * quantity₂ = rectangle at hlower ⊢
    omega

end BondingCurvePool

namespace Mock

open BondingCurvePool

/-- Alice buys some units for Bob, whatever they cost. -/
def curveUnits (n : ℕ) : Exec runtime SwapOutcome :=
  curveExchange redPepper goldenTicket (.withDesiredOutput (n * unit) 0)

/-- The small reserves before any purchase, after one of a thousand units and
after another one. -/
@[irreducible] def split₀ : Storage runtime := curveGenesis smallReserves
@[irreducible] def split₁ : Storage runtime := ((curveUnits 1000).run split₀).2
@[irreducible] def split₂ : Storage runtime := ((curveUnits 1000).run split₁).2

/-- The small reserves after a purchase of two thousand units. -/
@[irreducible] def unsplit : Storage runtime := ((curveUnits 2000).run split₀).2

/-- What the check of a purchase of Alice amounts to. -/
theorem undistributedPurchase_of {s s' : Storage runtime} {n charge : ℕ}
    {o : SwapOutcome} (hs' : ((curveUnits n).run s).2 = s')
    (hrun : ((curveUnits n).run s).1 = .ok o)
    (hdeposit : ((BuyMainAsset.depositInput curvePool
      ⟨redPepper, goldenTicket, .withDesiredOutput (n * unit) 0,
        alice.account, bob.account⟩).run s).1 = .ok (0, charge, n * unit))
    (hdebit : Debited s s' redPepper alice.account charge) :
    UndistributedPurchase curvePool s s' (n * unit) charge := by
  refine ⟨alice.account, bob.account, dexA, 0, o, Prod.ext hrun hs',
    by decide +kernel, ?_, hdebit⟩
  intro free input output s₁ h
  have hfst := hdeposit.symm.trans (congrArg Prod.fst h)
  exact (Prod.mk.inj (Except.ok.inj hfst)).1.symm

theorem first_purchase :
    UndistributedPurchase curvePool split₀ split₁ (1000 * unit)
      (115301 * unit) := by
  have hrun : ((curveUnits 1000).run split₀).1 =
      .ok ⟨999 * unit, unit⟩ := by
    decide +kernel
  apply undistributedPurchase_of (by rw [split₁]) hrun (by decide +kernel)
  unfold Debited
  decide +kernel

theorem second_purchase :
    UndistributedPurchase curvePool split₁ split₂ (1000 * unit)
      (115302998 * 10 ^ 15) := by
  have hrun : ((curveUnits 1000).run split₁).1 =
      .ok ⟨999 * unit, unit⟩ := by
    decide +kernel
  apply undistributedPurchase_of (by rw [split₂]) hrun (by decide +kernel)
  unfold Debited
  decide +kernel

theorem single_purchase :
    UndistributedPurchase curvePool split₀ unsplit (1000 * unit + 1000 * unit)
      (230604 * unit) := by
  have hrun : ((curveUnits 2000).run split₀).1 =
      .ok ⟨1998 * unit, 2 * unit⟩ := by
    decide +kernel
  have hdouble : 1000 * unit + 1000 * unit = 2000 * unit := by
    decide
  rw [hdouble]
  apply undistributedPurchase_of (by rw [unsplit]) hrun (by decide +kernel)
  unfold Debited
  decide +kernel

end Mock

namespace BondingCurvePool

theorem split_purchase_bounded_thousands :
    SplitBound (Mock.split₀.issuance Mock.goldenTicket) (1000 * Mock.unit)
      (1000 * Mock.unit) (115301 * Mock.unit) (115302998 * 10 ^ 15)
      (230604 * Mock.unit) :=
  split_purchase_bounded Mock.currency_lawful rfl (by decide)
    Mock.first_purchase Mock.second_purchase Mock.single_purchase

/-- Two purchases of a thousand units cost less than one of two thousand. -/
theorem split_purchase_saves :
    UndistributedPurchase Mock.curvePool Mock.split₀ Mock.split₁
        (1000 * Mock.unit) (115301 * Mock.unit) ∧
      UndistributedPurchase Mock.curvePool Mock.split₁ Mock.split₂
        (1000 * Mock.unit) (115302998 * 10 ^ 15) ∧
      UndistributedPurchase Mock.curvePool Mock.split₀ Mock.unsplit
        (1000 * Mock.unit + 1000 * Mock.unit) (230604 * Mock.unit) ∧
      115301 * Mock.unit + 115302998 * 10 ^ 15 < 230604 * Mock.unit :=
  ⟨Mock.first_purchase, Mock.second_purchase, Mock.single_purchase,
    by decide⟩

end BondingCurvePool
end SoraParachain

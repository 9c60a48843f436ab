import SoraParachain.PoolXyk.DepositSpec
import SoraParachain.PoolXyk.WithdrawLiquidity

/-!
# What an accepted withdrawal is and what it settles

A withdrawal names the marker tokens to burn.  Its payouts are computed from
the reserves alone and then compared with what the action asks for.
-/

namespace SoraParachain
namespace PoolXyk

variable {T : Config}

open Technical (techAccountIdToAccountId IsRegistered)

/-- An amount that passed the comparison is the recommended one. -/
theorem toOption_of_decideAgainst {bounds x : Bounds} {recommended : ℕ}
    {e : PoolXykError} (h : decideAgainst bounds recommended e = .ok x) :
    x.toOption = some recommended := by
  unfold decideAgainst at h
  split at h
  · obtain ⟨_, hx, h⟩ := Tx.except_bind_eq_ok.mp h
    cases h
    rw [Bounds.toOption_desired, not_not.mp (ensure_eq_ok.mp hx)]
  · obtain ⟨_, -, h⟩ := Tx.except_bind_eq_ok.mp h
    cases h
    rfl

@[simp] theorem decideAgainst_min_eq_ok {a recommended : ℕ} {x : Bounds}
    {e : PoolXykError} :
    decideAgainst (.min a) recommended e = .ok x ↔
      a ≤ recommended ∧ x = .calculated recommended := by
  simp only [decideAgainst, Tx.except_bind_eq_ok, ensure_eq_ok,
    Bounds.meetsTheBoundaries_min]
  constructor
  · rintro ⟨_, hle, h⟩
    cases h
    exact ⟨hle, rfl⟩
  · rintro ⟨hle, rfl⟩
    exact ⟨(), hle, rfl⟩

namespace WithdrawLiquidityAction

/-- What validation decides about a withdrawal. -/
structure Terms where
  fst : Bounds
  snd : Bounds
  amountA : ℕ
  amountB : ℕ
  burned : ℕ

def poolRepr (self : WithdrawLiquidityAction T) : T.AccountId :=
  techAccountIdToAccountId self.poolAccount

/-- The accounts that receive the payouts when `w` signs. -/
def receiverA (self : WithdrawLiquidityAction T) (w : T.AccountId) :
    T.AccountId :=
  self.receiverAccountA.getD w

def receiverB (self : WithdrawLiquidityAction T) (w : T.AccountId) :
    T.AccountId :=
  self.receiverAccountB.getD w

/-- The marker asset that the action names. -/
def marker (self : WithdrawLiquidityAction T) : T.AssetId :=
  T.techAssetIdInto self.source.asset

/-- The action that validation hands on. -/
def completed (self : WithdrawLiquidityAction T) (w : T.AccountId)
    (t : Terms) : WithdrawLiquidityAction T where
  clientAccount := some w
  receiverAccountA := some (self.receiverA w)
  receiverAccountB := some (self.receiverB w)
  poolAccount := self.poolAccount
  source := self.source
  destination :=
    ⟨⟨self.destination.fst.asset, t.fst⟩, ⟨self.destination.snd.asset, t.snd⟩⟩

/-- The action agrees to the terms in a state, signed by `w`. -/
structure Agreed (s : Storage T) (a : WithdrawLiquidityAction T)
    (w : T.AccountId) (t : Terms) : Prop where
  client : a.clientAccount = none ∨ a.clientAccount = some w
  registered : IsRegistered s a.poolAccount
  marker : T.techAssetIdTryFrom (markingAssetId a.poolAccount) =
    some a.source.asset
  markerExists : Assets.Exists s a.marker
  signerPositive : 0 < s.free a.marker w
  fstExists : Assets.Exists s a.destination.fst.asset
  sndExists : Assets.Exists s a.destination.snd.asset
  reserves : 0 < s.free a.destination.fst.asset a.poolRepr ∧
    0 < s.free a.destination.snd.asset a.poolRepr
  desired : a.source.amount = .desired t.burned
  burnedPositive : 0 < t.burned
  shareA : shareOf (s.free a.destination.fst.asset a.poolRepr) t.burned
    (s.issuance a.marker) = .ok t.amountA
  shareB : shareOf (s.free a.destination.snd.asset a.poolRepr) t.burned
    (s.issuance a.marker) = .ok t.amountB
  fst : decideAgainst a.destination.fst.amount t.amountA
    .invalidWithdrawLiquidityBasicAssetAmount = .ok t.fst
  snd : decideAgainst a.destination.snd.amount t.amountB
    .invalidWithdrawLiquidityTargetAssetAmount = .ok t.snd
  covered : t.burned ≤ s.free a.marker w

theorem resolveAccounts_eq_ok {self act : WithdrawLiquidityAction T}
    {w : T.AccountId} :
    self.resolveAccounts w = .ok act ↔
      (self.clientAccount = none ∨ self.clientAccount = some w) ∧
        act =
          { self with
            clientAccount := some w
            receiverAccountA := some (self.receiverA w)
            receiverAccountB := some (self.receiverB w) } := by
  rw [resolveAccounts]
  exact resolveClient_bind_eq_ok

/-- A payout is the product with the share, rounded down before and after the
division. -/
theorem shareOf_eq_ok {reserve k supply p : ℕ} :
    shareOf reserve k supply = .ok p ↔
      reserve < 2 ^ 127 ∧ k < 2 ^ 127 ∧ supply + minLiquidity < 2 ^ 127 ∧
        reserve * k / S < 2 ^ 127 ∧
        p = reserve * k / S * S / (supply + minLiquidity) ∧
        p < 2 ^ 127 := by
  rw [shareOf, toBalance_eq_ok]
  constructor
  · intro h
    obtain ⟨⟨n, hn⟩, d, hd⟩ := FixedWrapper.Holds.of_div h
    obtain ⟨_, _, hr, hk, -⟩ := FixedWrapper.holds_mul.mp hn
    obtain ⟨hrlt, hr⟩ := holds_ofBalance_nat hr
    obtain ⟨hklt, hk⟩ := holds_ofBalance_nat hk
    obtain ⟨rfl, hnlt⟩ := (FixedWrapper.holds_mul_nat hr hk).mp hn
    obtain ⟨t, ht⟩ := FixedWrapper.Holds.of_addBalance hd
    obtain ⟨-, ht⟩ := holds_ofBalance_nat ht
    obtain ⟨rfl, hdlt⟩ := (FixedWrapper.holds_addBalance_nat ht).mp hd
    obtain ⟨-, hp, hplt⟩ := (FixedWrapper.holds_div_nat hn hd).mp h
    have hp' : p = reserve * k / S * S / (supply + minLiquidity) := by
      exact_mod_cast hp
    exact ⟨hrlt, hklt, hdlt, hnlt, hp', hp' ▸ hplt⟩
  · rintro ⟨hrlt, hklt, hdlt, hnlt, hp, hplt⟩
    have hn := (FixedWrapper.holds_mul_nat (holds_ofBalance_self hrlt)
      (holds_ofBalance_self hklt)).mpr ⟨rfl, hnlt⟩
    have hd := (FixedWrapper.holds_addBalance_nat
      (holds_ofBalance_self (show supply < 2 ^ 127 by omega))).mpr ⟨rfl, hdlt⟩
    refine (FixedWrapper.holds_div_nat hn hd).mpr ⟨?_, ?_, ?_⟩
    · unfold minLiquidity
      omega
    · exact_mod_cast hp
    · exact hp ▸ hplt

theorem decideAmounts_eq_ok {self : WithdrawLiquidityAction T}
    {balanceBp balanceTp supply : ℕ} {x y : Bounds} :
    self.decideAmounts balanceBp balanceTp supply = .ok (x, y) ↔
      ∃ k a b, self.source.amount = .desired k ∧ 0 < k ∧
        shareOf balanceBp k supply = .ok a ∧
        shareOf balanceTp k supply = .ok b ∧
        decideAgainst self.destination.fst.amount a
          .invalidWithdrawLiquidityBasicAssetAmount = .ok x ∧
        decideAgainst self.destination.snd.amount b
          .invalidWithdrawLiquidityTargetAssetAmount = .ok y := by
  unfold decideAmounts
  split
  · rename_i k hk
    simp only [Tx.except_bind_eq_ok, ensure_eq_ok, gt_iff_lt]
    constructor
    · rintro ⟨_, hpos, a, ha, b, hb, _, hx, _, hy, h⟩
      cases h
      exact ⟨k, a, b, hk, hpos, ha, hb, hx, hy⟩
    · rintro ⟨k', a, b, hk', hpos, ha, hb, hx, hy⟩
      cases hk.symm.trans hk'
      exact ⟨(), hpos, a, ha, b, hb, x, hx, y, hy, rfl⟩
  · rename_i hne
    simp only [fail_ne_ok, false_iff]
    rintro ⟨k, -, -, hk, -⟩
    exact hne k hk

theorem validate_eq_ok {s : Storage T} {self act : WithdrawLiquidityAction T}
    {w : T.AccountId} {markAsset : T.TechAssetId} :
    self.validate s w markAsset = .ok act ↔
      self.source.asset = markAsset ∧ Assets.Exists s self.marker ∧
        0 < s.free self.marker w ∧
        Assets.Exists s self.destination.fst.asset ∧
        Assets.Exists s self.destination.snd.asset ∧
        (0 < s.free self.destination.fst.asset self.poolRepr ∧
          0 < s.free self.destination.snd.asset self.poolRepr) ∧
        ∃ t : Terms, self.source.amount = .desired t.burned ∧ 0 < t.burned ∧
          shareOf (s.free self.destination.fst.asset self.poolRepr) t.burned
            (s.issuance self.marker) = .ok t.amountA ∧
          shareOf (s.free self.destination.snd.asset self.poolRepr) t.burned
            (s.issuance self.marker) = .ok t.amountB ∧
          decideAgainst self.destination.fst.amount t.amountA
            .invalidWithdrawLiquidityBasicAssetAmount = .ok t.fst ∧
          decideAgainst self.destination.snd.amount t.amountB
            .invalidWithdrawLiquidityTargetAssetAmount = .ok t.snd ∧
          t.burned ≤ s.free self.marker w ∧
          act =
            { self with
              destination :=
                ⟨⟨self.destination.fst.asset, t.fst⟩,
                  ⟨self.destination.snd.asset, t.snd⟩⟩ } := by
  simp only [validate, Tx.except_bind_eq_ok, ensure_eq_ok,
    Assets.freeBalance_eq_ok, Assets.totalIssuance_eq_ok,
    ensurePoolNotEmpty_eq_ok, Bounds.unwrap_eq_ok, not_lt]
  constructor
  · rintro ⟨_, hmark, _, ⟨hmarker, rfl⟩, _, hpos, _, ⟨hA, rfl⟩, _, ⟨hB, rfl⟩,
      _, hreserves, _, ⟨-, rfl⟩, ⟨x, y⟩, hxy, _, -, _, -, k, hk, _, hcovered,
      h⟩
    obtain ⟨k', a, b, hk', hkpos, ha, hb, hx, hy⟩ :=
      decideAmounts_eq_ok.mp hxy
    rw [hk', Bounds.toOption_desired, Option.some.injEq] at hk
    subst hk
    cases h
    exact ⟨hmark, hmarker, Nat.pos_of_ne_zero hpos, hA, hB, hreserves,
      ⟨x, y, a, b, _⟩, hk', hkpos, ha, hb, hx, hy, hcovered, rfl⟩
  · rintro ⟨hmark, hmarker, hpos, hA, hB, hreserves, t, hk, hkpos, ha, hb, hx,
      hy, hcovered, rfl⟩
    exact ⟨(), hmark, _, ⟨hmarker, rfl⟩, (), hpos.ne', _, ⟨hA, rfl⟩, _,
      ⟨hB, rfl⟩, (), hreserves, _, ⟨hmarker, rfl⟩, (t.fst, t.snd),
      decideAmounts_eq_ok.mpr ⟨_, _, _, hk, hkpos, ha, hb, hx, hy⟩, _,
      toOption_of_decideAgainst hy, _, toOption_of_decideAgainst hx, t.burned,
      by rw [hk]; rfl, (), hcovered, rfl⟩

/-- Validation accepts a withdrawal exactly on terms that it agrees to. -/
theorem run_prepareAndValidate_ok {s s' : Storage T}
    {self act : WithdrawLiquidityAction T} {w : T.AccountId} :
    (self.prepareAndValidate (some w)).run s = (.ok act, s') ↔
      ∃ t, Agreed s self w t ∧ act = self.completed w t ∧
        s' = withMarkingRecord s self.poolAccount := by
  simp only [prepareAndValidate, Tx.run_bind_eq_ok, Tx.run_liftM_eq_ok,
    Tx.run_reads_eq_ok, resolveAccounts_eq_ok, unwrap_eq_ok,
    Option.some.injEq, isPoolAccountValidFor,
    Technical.ensureTechAccountRegistered_eq_ok, run_getMarkingAsset_ok]
  constructor
  · rintro ⟨_, _, ⟨rfl, rfl⟩, _, _, ⟨⟨hclient, rfl⟩, rfl⟩, _, _,
      ⟨hreg, rfl⟩, _, _, ⟨hmark, rfl⟩, h, rfl⟩
    obtain ⟨rfl, hmarker, hpos, hA, hB, hreserves, t, hk, hkpos, ha, hb, hx,
      hy, hcovered, rfl⟩ := validate_eq_ok.mp h
    exact ⟨t, ⟨hclient, hreg, hmark, hmarker, hpos, hA, hB, hreserves, hk,
      hkpos, ha, hb, hx, hy, hcovered⟩, rfl, rfl⟩
  · rintro ⟨t, ht, rfl, rfl⟩
    exact ⟨_, s, ⟨rfl, rfl⟩, _, s, ⟨⟨ht.client, rfl⟩, rfl⟩, (), s,
      ⟨ht.registered, rfl⟩, _, _, ⟨ht.marker, rfl⟩,
      validate_eq_ok.mpr ⟨rfl, ht.markerExists, ht.signerPositive,
        ht.fstExists, ht.sndExists, ht.reserves, t, ht.desired,
        ht.burnedPositive, ht.shareA, ht.shareB, ht.fst, ht.snd, ht.covered,
        rfl⟩, rfl⟩

/-! ## Settlement -/

/-- The transfers that settle the terms. -/
def payments (self : WithdrawLiquidityAction T) (w : T.AccountId)
    (t : Terms) : List (Payment T.AssetId T.AccountId) :=
  [⟨self.destination.fst.asset, self.poolRepr, self.receiverA w, t.amountA⟩,
    ⟨self.destination.snd.asset, self.poolRepr, self.receiverB w, t.amountB⟩]

/-- Nothing but the balances stands in the way of the settlement. -/
structure Payable (s : Storage T) (a : WithdrawLiquidityAction T)
    (w : T.AccountId) : Prop where
  registered : IsRegistered s a.poolAccount
  fstExists : Assets.Exists s a.destination.fst.asset
  sndExists : Assets.Exists s a.destination.snd.asset
  fstPermitted : Assets.Permitted s a.poolRepr Permissions.transfer
    a.destination.fst.asset
  sndPermitted : Assets.Permitted s a.poolRepr Permissions.transfer
    a.destination.snd.asset
  markerExists : Assets.Exists s a.marker
  poolPermitted : a.poolRepr ≠ w →
    Assets.Permitted s a.poolRepr Permissions.burn a.marker

/-- The storage after the terms were settled with a resulting ledger. -/
def settled (s : Storage T) (self : WithdrawLiquidityAction T)
    (l : T.currency.Ledger) : Storage T :=
  refreshed { s with ledger := l } self.poolAccount self.destination.fst.asset
    self.destination.snd.asset

theorem run_reserve_ok {s s' : Storage T} {self : WithdrawLiquidityAction T}
    {w : T.AccountId} {t : Terms} {u : Unit}
    (hA : t.fst.toOption = some t.amountA)
    (hB : t.snd.toOption = some t.amountB)
    (hk : self.source.amount = .desired t.burned) :
    ((self.completed w t).reserve w).run s = (.ok u, s') ↔
      Payable s self w ∧
        ∃ l l', T.currency.payAll (self.payments w t) s.ledger = .ok l ∧
          T.currency.withdraw self.marker w t.burned l = .ok l' ∧
          s' = settled s self l' := by
  simp only [reserve, payments, Tx.run_bind_eq_ok, Tx.run_liftM_eq_ok,
    Bounds.unwrap_eq_ok, unwrap_eq_ok, ensure_eq_ok,
    Technical.run_transferOut_ok, Assets.run_transferFrom_ok,
    Assets.run_burnFrom_ok, run_refreshReserves_ok,
    MultiCurrency.payAll_cons_eq_ok, completed, hA, hB, hk,
    Bounds.toOption_desired, Option.some.injEq, and_assoc, exists_eq_left',
    exists_and_left]
  constructor
  · rintro ⟨-, hreg, hfst, hfstPerm, _, _, _, ⟨l₁, h₁, rfl⟩, -, hsnd,
      hsndPerm, _, _, ⟨l₂, h₂, rfl⟩, hmark, hpool, _, _, ⟨l₃, h₃, rfl⟩, -, -,
      rfl⟩
    exact ⟨⟨hreg, hfst, hsnd, hfstPerm, hsndPerm, hmark, hpool⟩,
      l₂, ⟨l₁, h₁, l₂, h₂, rfl⟩, l₃, h₃, rfl⟩
  · rintro ⟨hpay, l₂, ⟨l₁, h₁, _, h₂, hnil⟩, l₃, h₃, rfl⟩
    cases hnil
    exact ⟨trivial, hpay.registered, hpay.fstExists, hpay.fstPermitted, (),
      (), _, ⟨l₁, h₁, rfl⟩, hpay.registered, hpay.sndExists, hpay.sndPermitted,
      (), _, ⟨l₂, h₂, rfl⟩, hpay.markerExists, hpay.poolPermitted, (), _,
      ⟨l₃, h₃, rfl⟩, hpay.fstExists, hpay.sndExists, rfl⟩

end WithdrawLiquidityAction
end PoolXyk
end SoraParachain

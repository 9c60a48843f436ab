import SoraParachain.Library.Payouts
import SoraParachain.PoolXyk.AssetBinding
import SoraParachain.PoolXyk.ShareWorth

/-!
# Marker tokens can be redeemed

A withdrawal divides by the issuance and the minimum liquidity together, so it
never divides by zero.  What can stand in its way is that an asset is forbidden
or locked, that a reserve is missing or that a number is out of the range of the
fixed-point arithmetic.  The last does not happen to withdrawals of at most one
whole marker token, and a withdrawal takes nothing away that the next one needs.
-/

namespace SoraParachain
namespace PoolXyk

variable {T : Config}

open Technical (techAccountIdToAccountId IsRegistered)
open WithdrawLiquidityAction (shareOf shareOf_eq_ok)

/-! ## Pools do not trade their own marker assets -/

/-- The assets of every registered pair exist. -/
def PairsExist (s : Storage T) : Prop :=
  ∀ dexId pair, (s.enabledSources dexId pair).isSome = true →
    Assets.Exists s pair.baseAssetId ∧ Assets.Exists s pair.targetAssetId

/-- The marker asset of a registered pool is none of the assets of the pool. -/
structure MarkersApart (s : Storage T) : Prop where
  reversible : AllReversible s
  pairs : PairsExist s
  apart : ∀ techAcc marker assetA assetB, IsRegistered s techAcc →
    IsMarkerOf techAcc marker → IsNamedAfter techAcc assetA assetB →
      marker ≠ assetA ∧ marker ≠ assetB

section

variable {s : Storage T} {x : Extrinsic T}

/-- An account is named after one pair only, in one order or the other. -/
theorem IsNamedAfter.unique {techAcc : TechAccountIdOf T}
    {assetA assetB otherA otherB : T.AssetId}
    (h : IsNamedAfter techAcc assetA assetB)
    (h' : IsNamedAfter techAcc otherA otherB) :
    assetA = otherA ∧ assetB = otherB ∨ assetA = otherB ∧ assetB = otherA := by
  obtain ⟨dexId, tpair, rfl, -, hpair⟩ := h
  obtain ⟨dexId', tpair', heq, -, hpair'⟩ := h'
  cases heq
  rcases hpair with ⟨rfl, rfl⟩ | ⟨rfl, rfl⟩
  · rcases hpair' with ⟨rfl, rfl⟩ | ⟨rfl, rfl⟩
    · exact Or.inl ⟨rfl, rfl⟩
    · exact Or.inr ⟨rfl, rfl⟩
  · rcases hpair' with ⟨rfl, rfl⟩ | ⟨rfl, rfl⟩
    · exact Or.inr ⟨rfl, rfl⟩
    · exact Or.inl ⟨rfl, rfl⟩

theorem PairsExist.step (h : PairsExist s) : PairsExist (step s x) := by
  intro dexId pair hpair
  have hexists := (step_extends s x).assetExists
  rcases (step_registry s x).newPair hpair with hold | ⟨hbase, htarget, -⟩
  · exact ⟨hexists _ (h dexId pair hold).1, hexists _ (h dexId pair hold).2⟩
  · exact ⟨hexists _ hbase, hexists _ htarget⟩

/-- The marker asset of a new pool did not exist when its assets did. -/
theorem Initialized.apart {s' : Storage T} {opener : T.AccountId}
    {dexId : T.DEXId} {assetA assetB marker : T.AssetId}
    {techAcc feeAcc : TechAccountIdOf T}
    (hinit : Initialized s s' opener dexId assetA assetB techAcc feeAcc marker)
    (hreversible : AllReversible s) (hpairs : PairsExist s) :
    IsNamedAfter techAcc assetA assetB ∧ marker ≠ assetA ∧ marker ≠ assetB := by
  obtain ⟨hfst, hsnd⟩ := hpairs _ _ hinit.enabled
  obtain ⟨hA, hB⟩ := forall_of_sortAssets hfst hsnd
  refine ⟨hinit.pool.isNamedAfter (hreversible.assets _ hA)
    (hreversible.assets _ hB), ?_, ?_⟩
  · rintro rfl
    exact hinit.fresh hA
  · rintro rfl
    exact hinit.fresh hB

theorem MarkersApart.step (hT : T.CollisionFree) (h : MarkersApart s) :
    MarkersApart (step s x) where
  reversible := h.reversible.step hT
  pairs := h.pairs.step
  apart := by
    intro techAcc marker assetA assetB hregistered hmarker hnamed
    obtain ⟨dexId, tpair, rfl, -⟩ := id hnamed
    rcases (step_registry s x).newPool hT hregistered with hold |
      ⟨dexId', otherA, otherB, feeAcc, marker', -, hinit⟩
    · exact h.apart _ _ _ _ hold hmarker hnamed
    · obtain ⟨hnamed', hA, hB⟩ := hinit.apart h.reversible h.pairs
      obtain rfl := hmarker.unique hinit.isMarker
      rcases hnamed.unique hnamed' with ⟨rfl, rfl⟩ | ⟨rfl, rfl⟩
      · exact ⟨hA, hB⟩
      · exact ⟨hB, hA⟩

end

/-! ## Payouts -/

/-- What `k` of `supply` marker tokens are worth of a reserve. -/
def payout (reserve k supply : ℕ) : ℕ :=
  reserve * k / S * S / (supply + minLiquidity)

/-- The numbers of a payout are in the range of the fixed-point arithmetic. -/
structure PayoutFits (reserve k supply : ℕ) : Prop where
  reserve_lt : reserve < 2 ^ 127
  supply_lt : supply + minLiquidity < 2 ^ 127
  product_lt : reserve * k / S < 2 ^ 127

section

variable {reserve k supply p : ℕ}

theorem payout_le (hk : k ≤ supply) : payout reserve k supply ≤ reserve := by
  refine Nat.div_le_of_le_mul ?_
  calc
    reserve * k / S * S ≤ reserve * k := Nat.div_mul_le_self _ _
    _ ≤ reserve * (supply + minLiquidity) :=
      Nat.mul_le_mul_left reserve (by omega)
    _ = (supply + minLiquidity) * reserve := Nat.mul_comm _ _

/-- A share of what was issued is computed exactly when its numbers fit. -/
theorem shareOf_eq_ok_iff (hk : k ≤ supply) :
    shareOf reserve k supply = .ok p ↔
      PayoutFits reserve k supply ∧ p = payout reserve k supply := by
  rw [shareOf_eq_ok]
  constructor
  · rintro ⟨hreserve, -, hsupply, hproduct, hp, -⟩
    exact ⟨⟨hreserve, hsupply, hproduct⟩, hp⟩
  · rintro ⟨hfits, rfl⟩
    have hreserve := hfits.reserve_lt
    have hsupply := hfits.supply_lt
    exact ⟨hreserve, by omega, hsupply, hfits.product_lt, rfl,
      (payout_le hk).trans_lt hreserve⟩

/-- The payout for at most one whole marker token fits where the reserve and the
issuance do. -/
theorem payoutFits_of_le (hk : k ≤ S) (hreserve : reserve < 2 ^ 127)
    (hsupply : supply + minLiquidity < 2 ^ 127) :
    PayoutFits reserve k supply := by
  refine ⟨hreserve, hsupply, ?_⟩
  calc
    reserve * k / S ≤ reserve * S / S :=
      Nat.div_le_div_right (Nat.mul_le_mul_left reserve hk)
    _ = reserve := Nat.mul_div_cancel _ (by norm_num)
    _ < 2 ^ 127 := hreserve

end

/-! ## One redemption -/

/-- A withdrawal without a minimum for either asset. -/
def redeem (dexId : T.DEXId) (assetA assetB : T.AssetId) (who : Signer T)
    (k : ℕ) : Extrinsic T :=
  (who, .withdrawLiquidity dexId assetA assetB k 0 0)

/-- An open pool whose account may burn its marker asset. -/
structure Standing (s : Storage T) (dexId : T.DEXId) (assetA assetB : T.AssetId)
    (techAcc : TechAccountIdOf T) (marker : T.AssetId) : Prop where
  pool : IsPoolOf s dexId assetA assetB techAcc
  registered : IsRegistered s techAcc
  isMarker : IsMarkerOf techAcc marker
  markerExists : Assets.Exists s marker
  burns : Assets.Permitted s (techAccountIdToAccountId techAcc)
    Permissions.burn marker
  apart : Assets.Exists s assetA → Assets.Exists s assetB →
    marker ≠ assetA ∧ marker ≠ assetB

/-- The pool can pay `k` marker tokens off in one of its assets. -/
structure PaysOff (s : Storage T) (techAcc : TechAccountIdOf T)
    (marker asset : T.AssetId) (k : ℕ) : Prop where
  assetExists : Assets.Exists s asset
  permitted : Assets.Permitted s (techAccountIdToAccountId techAcc)
    Permissions.transfer asset
  positive : 0 < s.free asset (techAccountIdToAccountId techAcc)
  fits : PayoutFits (s.free asset (techAccountIdToAccountId techAcc)) k
    (s.issuance marker)
  payable : T.currency.ensureCanWithdraw asset (techAccountIdToAccountId techAcc)
    (payout (s.free asset (techAccountIdToAccountId techAcc)) k
      (s.issuance marker)) s.ledger = .ok ()

/-- The terms that a redemption is settled on. -/
def redemptionTerms (s : Storage T) (techAcc : TechAccountIdOf T)
    (assetA assetB marker : T.AssetId) (k : ℕ) : WithdrawLiquidityAction.Terms :=
  let a := payout (s.free assetA (techAccountIdToAccountId techAcc)) k
    (s.issuance marker)
  let b := payout (s.free assetB (techAccountIdToAccountId techAcc)) k
    (s.issuance marker)
  ⟨.calculated a, .calculated b, a, b, k⟩

section

variable {s : Storage T} {dexId : T.DEXId} {assetA assetB marker : T.AssetId}
variable {techAcc : TechAccountIdOf T} {who : Signer T} {k : ℕ}

theorem Standing.of_succeeds (hM : T.currency.Lawful balanceModulus)
    (h : Standing s dexId assetA assetB techAcc marker)
    (hsucceeds : (redeem dexId assetA assetB who k).Succeeds s) :
    ∃ mark t l l',
      (withdrawAction techAcc assetA assetB k 0 0 mark).Settles s who.account t
        l l' ∧
      T.techAssetIdInto mark = marker ∧
      t = redemptionTerms s techAcc assetA assetB marker k ∧
      step s (redeem dexId assetA assetB who k) =
        (withdrawAction techAcc assetA assetB k 0 0 mark).settled
          (withMarkingRecord s techAcc) l' := by
  obtain ⟨found, mark, t, l, l', hfound, hset, hstep⟩ :=
    run_withdrawLiquidity_ok.mp (Extrinsic.succeeds_iff.mp hsucceeds)
  obtain rfl := hfound.unique h.pool
  have hmarker : T.techAssetIdInto mark = marker :=
    IsMarkerOf.unique ⟨mark, hset.agreed.marker, rfl⟩ h.isMarker
  subst hmarker
  have hagreed := hset.agreed
  have hburned : t.burned = k := (Bounds.desired.inj hagreed.desired).symm
  have hcovered : t.burned ≤ s.issuance (T.techAssetIdInto mark) :=
    hagreed.covered.trans (hM.free_le_issuance _ _ _)
  have hA := ((shareOf_eq_ok_iff hcovered).mp hagreed.shareA).2
  have hB := ((shareOf_eq_ok_iff hcovered).mp hagreed.shareB).2
  have hfst := (decideAgainst_min_eq_ok.mp hagreed.fst).2
  have hsnd := (decideAgainst_min_eq_ok.mp hagreed.snd).2
  have hterms : t = ⟨.calculated t.amountA, .calculated t.amountB, t.amountA,
      t.amountB, t.burned⟩ := by
    rw [← hfst, ← hsnd]
  refine ⟨mark, t, l, l', hset, rfl, ?_, hstep⟩
  rw [hterms, hA, hB, hburned]
  rfl

/-- Redeeming marker tokens of an open pool succeeds exactly when their holder
can withdraw them and the pool can pay them off in both assets. -/
theorem Standing.succeeds_iff (hM : T.currency.Lawful balanceModulus)
    (hC : T.currency.Checked) (hR : T.currency.Retiring)
    (h : Standing s dexId assetA assetB techAcc marker) :
    (redeem dexId assetA assetB who k).Succeeds s ↔
      0 < k ∧
        T.currency.ensureCanWithdraw marker who.account k s.ledger = .ok () ∧
        PaysOff s techAcc marker assetA k ∧
        PaysOff s techAcc marker assetB k := by
  have hpayer := who.notTechnical techAcc
  have hne := h.pool.assets_ne
  constructor
  · intro hsucceeds
    obtain ⟨mark, t, l, l', hset, rfl, rfl, -⟩ := h.of_succeeds hM hsucceeds
    have hagreed := hset.agreed
    have hpayable := hset.payable
    obtain ⟨hneA, hneB⟩ := h.apart hagreed.fstExists hagreed.sndExists
    obtain ⟨hfst, hsnd, hheld⟩ := (hM.redemption_iff hC hR hne hneA hneB
      hpayer).mp ⟨l, l', hset.paid, hset.burned⟩
    have hcovered : k ≤ s.issuance (T.techAssetIdInto mark) :=
      hagreed.covered.trans (hM.free_le_issuance _ _ _)
    refine ⟨hagreed.burnedPositive, hheld, ?_, ?_⟩
    · exact ⟨hagreed.fstExists, hpayable.fstPermitted, hagreed.reserves.1,
        ((shareOf_eq_ok_iff hcovered).mp hagreed.shareA).1, hfst⟩
    · exact ⟨hagreed.sndExists, hpayable.sndPermitted, hagreed.reserves.2,
        ((shareOf_eq_ok_iff hcovered).mp hagreed.shareB).1, hsnd⟩
  · rintro ⟨hk, hheld, hA, hB⟩
    obtain ⟨hneA, hneB⟩ := h.apart hA.assetExists hB.assetExists
    obtain ⟨l, l', hpaid, hretired⟩ := (hM.redemption_iff hC hR hne hneA hneB
      hpayer).mpr ⟨hA.payable, hB.payable, hheld⟩
    obtain ⟨mark, hmark, rfl⟩ := h.isMarker
    obtain ⟨_, hburns⟩ := hR.withdraw_iff.mpr hheld
    have hcovered : k ≤ s.free (T.techAssetIdInto mark) who.account :=
      (hM.withdraw_ok hburns).1
    have hissued : k ≤ s.issuance (T.techAssetIdInto mark) :=
      hcovered.trans (hM.free_le_issuance _ _ _)
    refine congrArg Prod.fst (run_withdrawLiquidity_ok (u := ()).mpr
      ⟨techAcc, mark, redemptionTerms s techAcc assetA assetB _ k, l, l', h.pool,
        ⟨?_, ?_, hpaid, hretired⟩, rfl⟩)
    · exact
        { client := Or.inl rfl
          registered := h.registered
          marker := hmark
          markerExists := h.markerExists
          signerPositive := lt_of_lt_of_le hk hcovered
          fstExists := hA.assetExists
          sndExists := hB.assetExists
          reserves := ⟨hA.positive, hB.positive⟩
          desired := rfl
          burnedPositive := hk
          shareA := (shareOf_eq_ok_iff hissued).mpr ⟨hA.fits, rfl⟩
          shareB := (shareOf_eq_ok_iff hissued).mpr ⟨hB.fits, rfl⟩
          fst := decideAgainst_min_eq_ok.mpr ⟨Nat.zero_le _, rfl⟩
          snd := decideAgainst_min_eq_ok.mpr ⟨Nat.zero_le _, rfl⟩
          covered := hcovered }
    · exact
        { registered := h.registered
          fstExists := hA.assetExists
          sndExists := hB.assetExists
          fstPermitted := hA.permitted
          sndPermitted := hB.permitted
          markerExists := h.markerExists
          poolPermitted := fun _ => h.burns }

end

/-! ## What one redemption leaves -/

/-- Only balances, the records of marker assets and what is known of reserves
may have changed. -/
def SameButBooks (s s' : Storage T) : Prop :=
  s' =
    { s with
      ledger := s'.ledger
      assetRecords := s'.assetRecords
      reserves := s'.reserves }

/-- A reserve paid `p` for `k` marker tokens, as part of what it could pay. -/
structure Pays (s s' : Storage T) (techAcc : TechAccountIdOf T)
    (marker asset : T.AssetId) (k p : ℕ) : Prop where
  fair : FairPayout (s.free asset (techAccountIdToAccountId techAcc))
    (s'.free asset (techAccountIdToAccountId techAcc)) p 0 k
    (s.issuance marker) (s'.issuance marker)
  checks : ∀ m, T.currency.ensureCanWithdraw asset
      (techAccountIdToAccountId techAcc) m s'.ledger = .ok () ↔
    T.currency.ensureCanWithdraw asset (techAccountIdToAccountId techAcc)
      (p + m) s.ledger = .ok ()

/-- What redeeming `k` marker tokens does. -/
structure Redemption (s s' : Storage T) (techAcc : TechAccountIdOf T)
    (assetA assetB marker : T.AssetId) (who : T.AccountId) (k : ℕ) : Prop where
  same : SameButBooks s s'
  fst : Pays s s' techAcc marker assetA k
    (payout (s.free assetA (techAccountIdToAccountId techAcc)) k
      (s.issuance marker))
  snd : Pays s s' techAcc marker assetB k
    (payout (s.free assetB (techAccountIdToAccountId techAcc)) k
      (s.issuance marker))
  held : s'.free marker who + k = s.free marker who
  issued : s'.issuance marker + k = s.issuance marker
  retires : ∀ m, T.currency.ensureCanWithdraw marker who m s'.ledger = .ok () ↔
    T.currency.ensureCanWithdraw marker who (k + m) s.ledger = .ok ()

theorem Standing.redemption {s : Storage T} {dexId : T.DEXId}
    {assetA assetB marker : T.AssetId} {techAcc : TechAccountIdOf T}
    {who : Signer T} {k : ℕ} (hM : T.currency.Lawful balanceModulus)
    (hC : T.currency.Checked) (hR : T.currency.Retiring)
    (h : Standing s dexId assetA assetB techAcc marker)
    (hsucceeds : (redeem dexId assetA assetB who k).Succeeds s) :
    Redemption s (step s (redeem dexId assetA assetB who k)) techAcc assetA
      assetB marker who.account k := by
  have hpayer := who.notTechnical techAcc
  have hne := h.pool.assets_ne
  obtain ⟨mark, t, l, l', hset, rfl, rfl, hstep⟩ := h.of_succeeds hM hsucceeds
  have hagreed := hset.agreed
  obtain ⟨hneA, hneB⟩ := h.apart hagreed.fstExists hagreed.sndExists
  have hwithdrawn : Withdrawn s (step s (redeem dexId assetA assetB who k))
      who.account techAcc assetA assetB (T.techAssetIdInto mark)
      (payout (s.free assetA (techAccountIdToAccountId techAcc)) k
        (s.issuance (T.techAssetIdInto mark)))
      (payout (s.free assetB (techAccountIdToAccountId techAcc)) k
        (s.issuance (T.techAssetIdInto mark))) k := by
    rw [hstep]
    exact ⟨⟨mark, hagreed.marker, rfl⟩, hset.book hM, rfl⟩
  have hledger : (step s (redeem dexId assetA assetB who k)).ledger = l' := by
    rw [hstep]
    rfl
  have hleaves := fun m => hM.redemption_leaves (m := m) hC hR hne hneA hneB
    hpayer hset.paid hset.burned
  rw [← hledger] at hleaves
  have hcovered : k ≤ s.free (T.techAssetIdInto mark) who.account :=
    hagreed.covered
  have hsupply := hcovered.trans (hM.free_le_issuance s.ledger _ _)
  obtain ⟨hfreeA, hfreeB⟩ := hwithdrawn.pool hpayer hne
  have hissuance := hwithdrawn.issuance
  refine ⟨by rw [SameButBooks, hstep]; rfl, ⟨?_, fun m => (hleaves m).1⟩,
    ⟨?_, fun m => (hleaves m).2.1⟩, ?_, ?_, fun m => (hleaves m).2.2⟩
  · exact .of_shareOf hagreed.shareA (Nat.zero_le _) hagreed.reserves.1 hfreeA
      hsupply hissuance
  · exact .of_shareOf hagreed.shareB (Nat.zero_le _) hagreed.reserves.2 hfreeB
      hsupply hissuance
  · rw [Storage.free, hwithdrawn.book, Book.free_retired_self,
      Book.free_moved_of_ne_currency hneB, Book.free_moved_of_ne_currency hneA]
    exact Nat.sub_add_cancel hcovered
  · rw [hissuance]
    exact Nat.sub_add_cancel hsupply

/-! ## Redeeming in parts -/

/-- A reserve of a pool that is not forbidden, not locked and in range. -/
structure Solvent (s : Storage T) (techAcc : TechAccountIdOf T)
    (asset : T.AssetId) : Prop where
  assetExists : Assets.Exists s asset
  permitted : Assets.Permitted s (techAccountIdToAccountId techAcc)
    Permissions.transfer asset
  positive : 0 < s.free asset (techAccountIdToAccountId techAcc)
  reserve_lt : s.free asset (techAccountIdToAccountId techAcc) < 2 ^ 127
  unlocked : T.currency.ensureCanWithdraw asset
    (techAccountIdToAccountId techAcc)
    (s.free asset (techAccountIdToAccountId techAcc)) s.ledger = .ok ()

/-- An open pool that nothing stops from paying off `n` marker tokens. -/
structure Exitable (s : Storage T) (dexId : T.DEXId) (assetA assetB : T.AssetId)
    (techAcc : TechAccountIdOf T) (marker : T.AssetId) (who : T.AccountId)
    (n : ℕ) : Prop where
  standing : Standing s dexId assetA assetB techAcc marker
  fst : Solvent s techAcc assetA
  snd : Solvent s techAcc assetB
  issuance_lt : s.issuance marker + minLiquidity < 2 ^ 127
  held : T.currency.ensureCanWithdraw marker who n s.ledger = .ok ()

/-- What is left once `n` marker tokens were redeemed: the holder and the
issuance have that many fewer, and the other tokens are worth no less. -/
structure PaidOff (s s' : Storage T) (techAcc : TechAccountIdOf T)
    (assetA assetB marker : T.AssetId) (who : T.AccountId) (n : ℕ) : Prop where
  held : s'.free marker who + n = s.free marker who
  issued : s'.issuance marker + n = s.issuance marker
  worthA : s.free assetA (techAccountIdToAccountId techAcc) *
      (s'.issuance marker + minLiquidity) ≤
    s'.free assetA (techAccountIdToAccountId techAcc) *
      (s.issuance marker + minLiquidity)
  worthB : s.free assetB (techAccountIdToAccountId techAcc) *
      (s'.issuance marker + minLiquidity) ≤
    s'.free assetB (techAccountIdToAccountId techAcc) *
      (s.issuance marker + minLiquidity)

section

variable {s : Storage T} {dexId : T.DEXId} {assetA assetB marker : T.AssetId}
variable {techAcc : TechAccountIdOf T} {who : Signer T} {k n : ℕ}

theorem Solvent.paysOff (hC : T.currency.Checked)
    (h : Solvent s techAcc assetA)
    (hsupply : s.issuance marker + minLiquidity < 2 ^ 127) (hk : k ≤ S)
    (hissued : k ≤ s.issuance marker) : PaysOff s techAcc marker assetA k :=
  ⟨h.assetExists, h.permitted, h.positive,
    payoutFits_of_le hk h.reserve_lt hsupply,
    hC.ensureCanWithdraw_of_le (payout_le hissued) h.unlocked⟩

/-- Part of the tokens can be redeemed if it is at most one whole token. -/
theorem Exitable.succeeds (hM : T.currency.Lawful balanceModulus)
    (hC : T.currency.Checked) (hR : T.currency.Retiring)
    (h : Exitable s dexId assetA assetB techAcc marker who.account (k + n))
    (hpos : 0 < k) (hk : k ≤ S) :
    (redeem dexId assetA assetB who k).Succeeds s := by
  have hheld := hC.ensureCanWithdraw_of_le (Nat.le_add_right k n) h.held
  obtain ⟨_, hretires⟩ := hR.withdraw_iff.mpr hheld
  have hissued : k ≤ s.issuance marker :=
    (hM.withdraw_ok hretires).1.trans (hM.free_le_issuance _ _ _)
  exact (h.standing.succeeds_iff hM hC hR).mpr ⟨hpos, hheld,
    h.fst.paysOff hC h.issuance_lt hk hissued,
    h.snd.paysOff hC h.issuance_lt hk hissued⟩

theorem Standing.of_same {s' : Storage T}
    (h : Standing s dexId assetA assetB techAcc marker)
    (hsame : SameButBooks s s') :
    Standing s' dexId assetA assetB techAcc marker := by
  rw [SameButBooks] at hsame
  rw [hsame]
  exact ⟨h.pool.of_dexInfos_eq rfl, h.registered, h.isMarker, h.markerExists,
    h.burns, h.apart⟩

/-- A payout leaves the reserve in the same condition. -/
theorem Solvent.of_payout {s' : Storage T} (h : Solvent s techAcc assetA)
    (hsame : SameButBooks s s') {p : ℕ}
    (hpays : Pays s s' techAcc marker assetA k p) :
    Solvent s' techAcc assetA := by
  obtain ⟨hfair, hchecks⟩ := hpays
  have hpaid := hfair.paid
  have hlt := h.reserve_lt
  refine ⟨?_, ?_, hfair.positive, by omega, ?_⟩
  · rw [hsame]
    exact h.assetExists
  · rw [hsame]
    exact h.permitted
  · rw [hchecks, Nat.add_comm, hpaid]
    exact h.unlocked

/-- What redeeming part of the tokens leaves can be redeemed next. -/
theorem Exitable.of_redemption {s' : Storage T}
    (h : Exitable s dexId assetA assetB techAcc marker who.account (k + n))
    (hredemption : Redemption s s' techAcc assetA assetB marker who.account k) :
    Exitable s' dexId assetA assetB techAcc marker who.account n := by
  have hsame := hredemption.same
  have hissued := hredemption.issued
  have hsupply := h.issuance_lt
  refine ⟨h.standing.of_same hsame, h.fst.of_payout hsame hredemption.fst,
    h.snd.of_payout hsame hredemption.snd, by omega, ?_⟩
  exact (hredemption.retires n).mpr h.held

theorem Redemption.paidOff {s' : Storage T}
    (h : Redemption s s' techAcc assetA assetB marker who.account k) :
    PaidOff s s' techAcc assetA assetB marker who.account k :=
  ⟨h.held, h.issued, h.fst.fair.worth, h.snd.fair.worth⟩

theorem PaidOff.trans {s' s'' : Storage T}
    (h : PaidOff s s' techAcc assetA assetB marker who.account k)
    (h' : PaidOff s' s'' techAcc assetA assetB marker who.account n) :
    PaidOff s s'' techAcc assetA assetB marker who.account (k + n) where
  held := by
    have hheld := h.held
    have hheld' := h'.held
    omega
  issued := by
    have hissued := h.issued
    have hissued' := h'.issued
    omega
  worthA := Shares.worth_trans (by decide) h.worthA h'.worthA
  worthB := Shares.worth_trans (by decide) h.worthB h'.worthB

/-- Every way to redeem tokens in parts of at most one whole token succeeds. -/
theorem Exitable.run (hM : T.currency.Lawful balanceModulus)
    (hC : T.currency.Checked) (hR : T.currency.Retiring) {parts : List ℕ}
    (hparts : ∀ k ∈ parts, 0 < k ∧ k ≤ S)
    (h : Exitable s dexId assetA assetB techAcc marker who.account parts.sum) :
    Along step (fun s x => Extrinsic.Succeeds s x) s
        (parts.map (redeem dexId assetA assetB who)) ∧
      PaidOff s (runs s (parts.map (redeem dexId assetA assetB who))) techAcc
        assetA assetB marker who.account parts.sum := by
  induction parts generalizing s with
  | nil => exact ⟨trivial, rfl, rfl, le_rfl, le_rfl⟩
  | cons k parts ih =>
      rw [List.sum_cons] at h
      obtain ⟨hpos, hle⟩ := hparts k List.mem_cons_self
      have hsucceeds := h.succeeds hM hC hR hpos hle
      have hredemption := h.standing.redemption hM hC hR hsucceeds
      obtain ⟨hrest, hpaid⟩ :=
        ih (fun k hk => hparts k (List.mem_cons_of_mem _ hk))
          (h.of_redemption hredemption)
      rw [List.sum_cons]
      exact ⟨⟨hsucceeds, hrest⟩, hredemption.paidOff.trans hpaid⟩

end

/-! ## Runs -/

/-- A genesis from which every pool comes to stand: it has no pool, its assets
convert back, the assets of its pairs exist and burning is a permission. -/
structure OpensSoundPools (genesis : Storage T) : Prop where
  noPools : ∀ dexId tpair, ¬IsRegistered genesis (keeperOf dexId tpair)
  reversible : AllReversible genesis
  pairs : PairsExist genesis
  burnMode : genesis.modes Permissions.burn = some .permit

section

variable {genesis : Storage T} {extrinsics : List (Extrinsic T)}
variable {dexId : T.DEXId} {assetA assetB marker : T.AssetId}
variable {techAcc : TechAccountIdOf T}

theorem standing_of_runs (hT : T.CollisionFree)
    (hgenesis : OpensSoundPools genesis)
    (howners : ∀ x ∈ extrinsics, OpensAsOwner x)
    (hpool : IsPoolOf (runs genesis extrinsics) dexId assetA assetB techAcc)
    (hregistered : IsRegistered (runs genesis extrinsics) techAcc)
    (hmarker : IsMarkerOf techAcc marker) :
    Standing (runs genesis extrinsics) dexId assetA assetB techAcc marker := by
  have hcomplete : PoolsComplete (runs genesis extrinsics) :=
    runAll_invariant (fun _ _ hs hx => hs.step hT hx) extrinsics genesis
      ⟨hgenesis.reversible,
        fun dexId tpair h => absurd h (hgenesis.noPools dexId tpair),
        fun dexId tpair h _ => absurd h (hgenesis.noPools dexId tpair)⟩
      (along_of_forall_mem howners)
  have hapart : MarkersApart (runs genesis extrinsics) :=
    runAll_invariant (P := fun _ _ => True) (fun _ _ hs _ => hs.step hT)
      extrinsics genesis
      ⟨hgenesis.reversible, hgenesis.pairs, by
        rintro techAcc marker assetA assetB h - ⟨dexId, tpair, rfl, -⟩
        exact absurd h (hgenesis.noPools dexId tpair)⟩
      (along_of_forall_mem fun _ _ => trivial)
  obtain ⟨tpair, rfl⟩ := hpool.keeper
  obtain ⟨marker', hmarker', hexists, -, -, hburns⟩ :=
    (hcomplete.complete dexId tpair hregistered).marker
  obtain rfl := hmarker.unique hmarker'
  have hmode : (runs genesis extrinsics).modes Permissions.burn =
      some .permit := by
    rw [(runs_extends genesis extrinsics).modes]
    exact hgenesis.burnMode
  refine ⟨hpool, hregistered, hmarker, hexists, ?_, fun hA hB => ?_⟩
  · rw [Assets.Permitted, Assets.checkPermissionMaybeWithParameters,
      Permissions.checkPermissionWithScope_of_held hmode hburns]
  · exact hapart.apart _ _ _ _ hregistered hmarker
      (hpool.isNamedAfter (hapart.reversible.assets _ hA)
        (hapart.reversible.assets _ hB))

/-- In every state that a run reaches, marker tokens of an open pool can be
redeemed exactly when their holder can withdraw them and the pool can pay them
off in both of its assets: each exists, the pool may transfer it and has some of
it, the numbers are in the range of the fixed-point arithmetic and the payout is
not locked. -/
theorem marker_tokens_redeemable_iff (hT : T.CollisionFree)
    (hM : T.currency.Lawful balanceModulus) (hC : T.currency.Checked)
    (hR : T.currency.Retiring) (hgenesis : OpensSoundPools genesis)
    (howners : ∀ x ∈ extrinsics, OpensAsOwner x)
    (hpool : IsPoolOf (runs genesis extrinsics) dexId assetA assetB techAcc)
    (hregistered : IsRegistered (runs genesis extrinsics) techAcc)
    (hmarker : IsMarkerOf techAcc marker) (who : Signer T) (k : ℕ) :
    (redeem dexId assetA assetB who k).Succeeds (runs genesis extrinsics) ↔
      0 < k ∧
        T.currency.ensureCanWithdraw marker who.account k
          (runs genesis extrinsics).ledger = .ok () ∧
        PaysOff (runs genesis extrinsics) techAcc marker assetA k ∧
        PaysOff (runs genesis extrinsics) techAcc marker assetB k :=
  (standing_of_runs hT hgenesis howners hpool hregistered hmarker).succeeds_iff
    hM hC hR

/-- In every state that a run reaches, the holder of marker tokens of an open
pool whose reserves are in range and neither forbidden nor locked can redeem all
of them: every withdrawal of at most one whole token succeeds, however they are
divided and one after the other, and in the end exactly these tokens are gone
and the others are worth no less of either reserve. -/
theorem holders_can_exit (hT : T.CollisionFree)
    (hM : T.currency.Lawful balanceModulus) (hC : T.currency.Checked)
    (hR : T.currency.Retiring) (hgenesis : OpensSoundPools genesis)
    (howners : ∀ x ∈ extrinsics, OpensAsOwner x)
    (hpool : IsPoolOf (runs genesis extrinsics) dexId assetA assetB techAcc)
    (hregistered : IsRegistered (runs genesis extrinsics) techAcc)
    (hmarker : IsMarkerOf techAcc marker)
    (hA : Solvent (runs genesis extrinsics) techAcc assetA)
    (hB : Solvent (runs genesis extrinsics) techAcc assetB)
    (hsupply : (runs genesis extrinsics).issuance marker + minLiquidity <
      2 ^ 127) (who : Signer T) {parts : List ℕ}
    (hparts : ∀ k ∈ parts, 0 < k ∧ k ≤ S)
    (hheld : T.currency.ensureCanWithdraw marker who.account parts.sum
      (runs genesis extrinsics).ledger = .ok ()) :
    Along step (fun s x => Extrinsic.Succeeds s x) (runs genesis extrinsics)
        (parts.map (redeem dexId assetA assetB who)) ∧
      PaidOff (runs genesis extrinsics)
        (runs (runs genesis extrinsics)
          (parts.map (redeem dexId assetA assetB who)))
        techAcc assetA assetB marker who.account parts.sum :=
  Exitable.run hM hC hR hparts
    ⟨standing_of_runs hT hgenesis howners hpool hregistered hmarker, hA, hB,
      hsupply, hheld⟩

end

/-- The sample genesis has no pairs. -/
theorem opensSoundPools_genesis : OpensSoundPools Mock.genesis := by
  have hnone : Mock.genesis.enabledSources = fun _ _ => none := by
    unfold Mock.genesis
    rfl
  refine ⟨unregistered_genesis, allReversible_genesis, fun dexId pair h => ?_,
    by decide +kernel⟩
  rw [hnone] at h
  cases h

theorem opensAsOwner_fundedRun : ∀ x ∈ fundedRun, OpensAsOwner x := by
  intro x hx dexId assetA assetB hcall
  rcases List.mem_cons.mp hx with rfl | hx
  · cases hcall
  rcases List.mem_cons.mp hx with rfl | hx
  · decide
  · rw [List.mem_singleton.mp hx] at hcall
    cases hcall

/-- Nothing is wrong with either reserve of the sample pool. -/
theorem solvent_fundedRun :
    Solvent (runs Mock.genesis fundedRun) (Mock.poolOf Mock.dexA Mock.redPepper)
        Mock.goldenTicket ∧
      Solvent (runs Mock.genesis fundedRun)
        (Mock.poolOf Mock.dexA Mock.redPepper) Mock.redPepper := by
  constructor
  · refine ⟨by decide +kernel, ?_, by decide +kernel, by decide +kernel,
      by decide +kernel⟩
    rw [Assets.Permitted]
    decide +kernel
  · refine ⟨by decide +kernel, ?_, by decide +kernel, by decide +kernel,
      by decide +kernel⟩
    rw [Assets.Permitted]
    decide +kernel

/-- Bob can redeem one token of the pool that he has funded. -/
theorem marker_tokens_redeemable_iff_sample :
    (redeem Mock.dexA Mock.goldenTicket Mock.redPepper Mock.bob
      Mock.unit).Succeeds (runs Mock.genesis fundedRun) := by
  have hsupply : (runs Mock.genesis fundedRun).issuance
      (Mock.markerOf Mock.dexA Mock.redPepper) + minLiquidity < 2 ^ 127 := by
    decide +kernel
  have hissued : Mock.unit ≤ (runs Mock.genesis fundedRun).issuance
      (Mock.markerOf Mock.dexA Mock.redPepper) := by
    decide +kernel
  exact (marker_tokens_redeemable_iff (T := Mock.runtime) Mock.collisionFree
    Mock.currency_lawful CoinLedger.currency_checked CoinLedger.currency_retiring
    opensSoundPools_genesis opensAsOwner_fundedRun
    (Mock.isPoolOf (by decide +kernel) (by decide)) (by decide +kernel)
    (⟨_, rfl, rfl⟩ : IsMarkerOf (Mock.poolOf Mock.dexA Mock.redPepper)
      (Mock.markerOf Mock.dexA Mock.redPepper)) Mock.bob Mock.unit).mpr
      ⟨by decide, by decide +kernel,
        solvent_fundedRun.1.paysOff CoinLedger.currency_checked hsupply le_rfl
          hissued,
        solvent_fundedRun.2.paysOff CoinLedger.currency_checked hsupply le_rfl
          hissued⟩

/-- Bob redeems three quarters of a token and then a whole one. -/
theorem holders_can_exit_sample :
    Along step (fun s x => Extrinsic.Succeeds s x) (runs Mock.genesis fundedRun)
      ([750000000000000000, Mock.unit].map (redeem Mock.dexA Mock.goldenTicket
        Mock.redPepper Mock.bob)) :=
  (holders_can_exit (T := Mock.runtime) Mock.collisionFree
    Mock.currency_lawful CoinLedger.currency_checked CoinLedger.currency_retiring
    opensSoundPools_genesis opensAsOwner_fundedRun
    (Mock.isPoolOf (by decide +kernel) (by decide)) (by decide +kernel)
    (⟨_, rfl, rfl⟩ : IsMarkerOf (Mock.poolOf Mock.dexA Mock.redPepper)
      (Mock.markerOf Mock.dexA Mock.redPepper))
    solvent_fundedRun.1 solvent_fundedRun.2 (by decide +kernel) Mock.bob
    (by decide) (by decide +kernel)).1

end PoolXyk
end SoraParachain

import SoraParachain.Library.Shares
import SoraParachain.Mock
import SoraParachain.PoolXyk.Books

/-!
# The worth of a share

A share of a pool is a marker token, and the minimum liquidity counts as if it
had been issued too.  Withdrawals pay at most the part of the reserves that the
burned tokens are.  Deposits use the issuance without the minimum liquidity and
a quotient by an already rounded quotient, so that they may issue slightly more
than the part of the reserves that was paid in.
-/

namespace SoraParachain
namespace PoolXyk

variable {T : Config} {s s' : Storage T}
variable {dexId : T.DEXId} {assetA assetB : T.AssetId}

open Technical (techAccountIdToAccountId)

/-! ## Withdrawals -/

/-- The rounded payout for `k` of `supply` tokens redeems them. -/
theorem shareOf_proRata {reserve k supply p : ℕ}
    (h : WithdrawLiquidityAction.shareOf reserve k supply = .ok p) :
    p * (supply + minLiquidity) ≤ reserve * k := by
  obtain ⟨-, -, -, -, hp, -⟩ := WithdrawLiquidityAction.shareOf_eq_ok.mp h
  calc
    p * (supply + minLiquidity) ≤ reserve * k / S * S := by
      rw [hp]
      exact Nat.div_mul_le_self _ _
    _ ≤ reserve * k := Nat.div_mul_le_self _ _

/-- A payout `p` for `k` of `supply` marker tokens that protects the remaining
ones. -/
structure FairPayout (reserve reserve' p minimum k supply supply' : ℕ) :
    Prop where
  proRata : p * (supply + minLiquidity) ≤ reserve * k
  minimum : minimum ≤ p
  paid : reserve' + p = reserve
  positive : 0 < reserve'
  worth : reserve * (supply' + minLiquidity) ≤
    reserve' * (supply + minLiquidity)

theorem FairPayout.of_shareOf {reserve reserve' p minimum k supply supply' : ℕ}
    (hshare : WithdrawLiquidityAction.shareOf reserve k supply = .ok p)
    (hminimum : minimum ≤ p) (hreserve : 0 < reserve)
    (hreserve' : reserve' = reserve - p) (hk : k ≤ supply)
    (hsupply' : supply' = supply - k) :
    FairPayout reserve reserve' p minimum k supply supply' := by
  have hproRata := shareOf_proRata hshare
  have hle : p ≤ reserve := by
    have hscaled : p * (supply + minLiquidity) ≤
        reserve * (supply + minLiquidity) :=
      hproRata.trans (Nat.mul_le_mul_left _ (by omega))
    exact le_of_mul_le_mul_right hscaled (by unfold minLiquidity; omega)
  have hredeems : Shares.Redeems reserve reserve' p k supply supply'
      minLiquidity :=
    ⟨hproRata, by omega, by omega⟩
  exact ⟨hproRata, hminimum, hredeems.reserve,
    hredeems.reserve_pos hreserve (by decide), hredeems.worth_le⟩

/-- Every withdrawal pays at most pro rata, burns exactly the tokens it names
and leaves the remaining tokens worth at least as much as before. -/
theorem withdrawLiquidity_pays_at_most_pro_rata
    (hM : T.currency.Lawful balanceModulus) (who : Signer T)
    {k aMin bMin : ℕ}
    (h : (withdrawLiquidity who.account dexId assetA assetB k aMin bMin).run s =
      (.ok (), s')) :
    ∃ techAcc marker pA pB,
      IsPoolOf s dexId assetA assetB techAcc ∧
      Withdrawn s s' who.account techAcc assetA assetB marker pA pB k ∧
      k ≤ s.free marker who.account ∧
      s'.issuance marker + k = s.issuance marker ∧
      FairPayout (s.free assetA (techAccountIdToAccountId techAcc))
        (s'.free assetA (techAccountIdToAccountId techAcc)) pA aMin k
        (s.issuance marker) (s'.issuance marker) ∧
      FairPayout (s.free assetB (techAccountIdToAccountId techAcc))
        (s'.free assetB (techAccountIdToAccountId techAcc)) pB bMin k
        (s.issuance marker) (s'.issuance marker) := by
  obtain ⟨techAcc, -, -, -, -, hpool, -⟩ := run_withdrawLiquidity_ok.mp h
  obtain ⟨mark, t, hagreed, hwithdrawn⟩ := withdrawn_of_run hM hpool h
  have hk : t.burned = k := by
    have hdesired := hagreed.desired
    rw [withdrawAction] at hdesired
    exact (Bounds.desired.inj hdesired).symm
  have hcovered := hagreed.covered
  rw [hk] at hwithdrawn hcovered
  have hsupply : k ≤ s.issuance (T.techAssetIdInto mark) :=
    hcovered.trans (hM.free_le_issuance _ _ _)
  have hissuance := hwithdrawn.issuance
  obtain ⟨hA, hB⟩ :=
    hwithdrawn.pool (who.notTechnical techAcc) hpool.assets_ne
  have hshareA := hagreed.shareA
  have hshareB := hagreed.shareB
  rw [hk] at hshareA hshareB
  have hminA := (decideAgainst_min_eq_ok.mp hagreed.fst).1
  have hminB := (decideAgainst_min_eq_ok.mp hagreed.snd).1
  exact ⟨techAcc, T.techAssetIdInto mark, t.amountA, t.amountB, hpool,
    hwithdrawn, hcovered, by omega,
    .of_shareOf hshareA hminA hagreed.reserves.1 hA hsupply hissuance,
    .of_shareOf hshareB hminB hagreed.reserves.2 hB hsupply hissuance⟩

/-- Bob withdraws one token of the sample pool. -/
theorem withdrawLiquidity_pays_at_most_pro_rata_sample :
    ∃ techAcc marker pA pB,
      IsPoolOf Mock.funded Mock.dexA Mock.goldenTicket Mock.redPepper techAcc ∧
      Withdrawn Mock.funded (step Mock.funded Mock.withdrawUnit)
        Mock.bob.account techAcc Mock.goldenTicket Mock.redPepper marker pA pB
        Mock.unit ∧
      Mock.unit ≤ Mock.funded.free marker Mock.bob.account ∧
      (step Mock.funded Mock.withdrawUnit).issuance marker + Mock.unit =
        Mock.funded.issuance marker ∧
      FairPayout
        (Mock.funded.free Mock.goldenTicket (techAccountIdToAccountId techAcc))
        ((step Mock.funded Mock.withdrawUnit).free Mock.goldenTicket
          (techAccountIdToAccountId techAcc)) pA 1 Mock.unit
        (Mock.funded.issuance marker)
        ((step Mock.funded Mock.withdrawUnit).issuance marker) ∧
      FairPayout
        (Mock.funded.free Mock.redPepper (techAccountIdToAccountId techAcc))
        ((step Mock.funded Mock.withdrawUnit).free Mock.redPepper
          (techAccountIdToAccountId techAcc)) pB 1 Mock.unit
        (Mock.funded.issuance marker)
        ((step Mock.funded Mock.withdrawUnit).issuance marker) :=
  withdrawLiquidity_pays_at_most_pro_rata Mock.currency_lawful Mock.bob
    (Extrinsic.succeeds_iff.mp (by decide +kernel :
      Mock.withdrawUnit.Succeeds Mock.funded))

/-! ## Deposits -/

/-- Marker tokens for an amount are at most its part of the reserve, up to
their own rounding. -/
theorem liquidityFor_issues {amount reserve supply l m : ℕ}
    (h : liquidityFor amount reserve supply = .ok l) (hm : m ≤ l) :
    Shares.Issues reserve amount m supply S := by
  obtain ⟨-, -, -, hpos, -, hqpos, hl, -⟩ := liquidityFor_eq_ok.mp h
  refine quotient_by_floored_le
    (Nat.lt_mul_of_div_lt (Nat.lt_succ_self (reserve * S / supply)) hpos) ?_
  calc
    reserve * S / supply * m ≤ reserve * S / supply * l :=
      Nat.mul_le_mul_left _ hm
    _ ≤ amount * S := by
      rw [hl]
      exact Nat.mul_div_le _ _

/-- What a deposit into a pool with reserves issues. -/
theorem laterDeposit_issues {a : DepositLiquidityAction T}
    {t : DepositLiquidityAction.Terms} {reserveA reserveB supply : ℕ}
    (h : DepositLiquidityAction.LaterDeposit a t reserveA reserveB supply) :
    Shares.Issues reserveA t.amountA t.minted supply S ∧
      Shares.Issues reserveB t.amountB t.minted supply S := by
  obtain ⟨_, _, _, _, -, -, -, -, hcalc⟩ := h.ranges
  obtain ⟨-, la, lb, hla, hlb, hm⟩ := calcDepositLiquidity1_eq_ok.mp hcalc
  exact ⟨liquidityFor_issues hla (hm ▸ Nat.min_le_left la lb),
    liquidityFor_issues hlb (hm ▸ Nat.min_le_right la lb)⟩

/-- A payout for tokens that were just issued. -/
theorem payout_le_of_issues {reserve a m supply p : ℕ}
    (hissues : Shares.Issues reserve a m supply S)
    (hshare : WithdrawLiquidityAction.shareOf (reserve + a) m (supply + m) =
      .ok p) :
    p ≤ a + m / S :=
  hissues.round_trip_le (by decide) (show 0 < minLiquidity by decide)
    (shareOf_proRata hshare)

/-- A withdrawal of the tokens that a deposit has just issued takes at most
their rounding beyond what the deposit put in. -/
theorem roundTrip_le (hM : T.currency.Lawful balanceModulus) (who : Signer T)
    {s'' : Storage T} {techAcc : TechAccountIdOf T} {marker : T.AssetId}
    {a b m aMin bMin : ℕ}
    (hpool : IsPoolOf s dexId assetA assetB techAcc)
    (hdeposited : Deposited s s' who.account techAcc assetA assetB marker a b m)
    (hissuesA : Shares.Issues (s.free assetA (techAccountIdToAccountId techAcc))
      a m (s.issuance marker) S)
    (hissuesB : Shares.Issues (s.free assetB (techAccountIdToAccountId techAcc))
      b m (s.issuance marker) S)
    (h : (withdrawLiquidity who.account dexId assetA assetB m aMin bMin).run
        s' = (.ok (), s'') ∨
      (withdrawLiquidity who.account dexId assetB assetA m bMin aMin).run
        s' = (.ok (), s'')) :
    s'.free assetA (techAccountIdToAccountId techAcc) ≤
        s''.free assetA (techAccountIdToAccountId techAcc) + (a + m / S) ∧
      s'.free assetB (techAccountIdToAccountId techAcc) ≤
        s''.free assetB (techAccountIdToAccountId techAcc) + (b + m / S) := by
  have hdex : s'.dexInfos = s.dexInfos := by
    rw [hdeposited.refreshes]
  have hpool' := hpool.of_dexInfos_eq hdex
  obtain ⟨hA, hB⟩ :=
    hdeposited.pool (who.notTechnical techAcc) hpool.assets_ne
  have hissuance := hdeposited.issuance
  rcases h with h | h
  · obtain ⟨mark, t, hagreed, hwithdrawn⟩ := withdrawn_of_run hM hpool' h
    obtain rfl := hdeposited.isMarker.unique hwithdrawn.isMarker
    obtain ⟨hA', hB'⟩ :=
      hwithdrawn.pool (who.notTechnical techAcc) hpool.assets_ne
    have hk : m = t.burned := Bounds.desired.inj hagreed.desired
    have hshareA := hagreed.shareA
    have hshareB := hagreed.shareB
    rw [← hk] at hshareA hshareB
    have hpA : t.amountA ≤ a + m / S := by
      apply payout_le_of_issues hissuesA
      rw [← hissuance, ← hA]
      exact hshareA
    have hpB : t.amountB ≤ b + m / S := by
      apply payout_le_of_issues hissuesB
      rw [← hissuance, ← hB]
      exact hshareB
    omega
  · obtain ⟨mark, t, hagreed, hwithdrawn⟩ := withdrawn_of_run hM hpool'.swap h
    obtain rfl := hdeposited.isMarker.unique hwithdrawn.isMarker
    obtain ⟨hB', hA'⟩ :=
      hwithdrawn.pool (who.notTechnical techAcc) hpool.assets_ne.symm
    have hk : m = t.burned := Bounds.desired.inj hagreed.desired
    have hshareB := hagreed.shareA
    have hshareA := hagreed.shareB
    rw [← hk] at hshareA hshareB
    have hpA : t.amountB ≤ a + m / S := by
      apply payout_le_of_issues hissuesA
      rw [← hissuance, ← hA]
      exact hshareA
    have hpB : t.amountA ≤ b + m / S := by
      apply payout_le_of_issues hissuesB
      rw [← hissuance, ← hB]
      exact hshareB
    omega

/-- A deposit into a pool with reserves lowers the worth of a share by the
rounding of the issued tokens at most, in either asset; and withdrawing exactly
these tokens returns at most their rounding beyond what was put in. -/
theorem depositLiquidity_dilutes_by_rounding_only
    (hM : T.currency.Lawful balanceModulus) (who : Signer T)
    {techAcc : TechAccountIdOf T} {aDesired bDesired aMin bMin : ℕ}
    (hpool : IsPoolOf s dexId assetA assetB techAcc)
    (hA : 0 < s.free assetA (techAccountIdToAccountId techAcc))
    (h : (depositLiquidity who.account dexId assetA assetB aDesired bDesired
      aMin bMin).run s = (.ok (), s')) :
    ∃ marker a b m,
      Deposited s s' who.account techAcc assetA assetB marker a b m ∧
      S * (s.free assetA (techAccountIdToAccountId techAcc) *
          (s.issuance marker + m + minLiquidity)) ≤
        S * ((s.free assetA (techAccountIdToAccountId techAcc) + a) *
          (s.issuance marker + minLiquidity)) + s.issuance marker * m ∧
      S * (s.free assetB (techAccountIdToAccountId techAcc) *
          (s.issuance marker + m + minLiquidity)) ≤
        S * ((s.free assetB (techAccountIdToAccountId techAcc) + b) *
          (s.issuance marker + minLiquidity)) + s.issuance marker * m ∧
      ∀ s'' aMin' bMin',
        (withdrawLiquidity who.account dexId assetA assetB m aMin' bMin').run
            s' = (.ok (), s'') ∨
          (withdrawLiquidity who.account dexId assetB assetA m bMin' aMin').run
            s' = (.ok (), s'') →
        s'.free assetA (techAccountIdToAccountId techAcc) ≤
            s''.free assetA (techAccountIdToAccountId techAcc) +
              (a + m / S) ∧
          s'.free assetB (techAccountIdToAccountId techAcc) ≤
            s''.free assetB (techAccountIdToAccountId techAcc) +
              (b + m / S) := by
  obtain ⟨mark, t, hagreed, hdeposited⟩ := deposited_of_run hM hpool h
  rcases hagreed.amounts with hfirst | ⟨-, hlater⟩
  · exact absurd hfirst.empty.1 hA.ne'
  · obtain ⟨hissuesA, hissuesB⟩ := laterDeposit_issues hlater
    exact ⟨T.techAssetIdInto mark, t.amountA, t.amountB, t.minted, hdeposited,
      hissuesA.worth_le, hissuesB.worth_le, fun s'' aMin' bMin' h' =>
        roundTrip_le hM who hpool hdeposited hissuesA hissuesB h'⟩

/-- Bob deposits into the sample pool. -/
theorem depositLiquidity_dilutes_by_rounding_only_sample :
    ∃ marker a b m,
      Deposited Mock.skewed (step Mock.skewed Mock.doubling) Mock.bob.account
        (Mock.poolOf Mock.dexA Mock.redPepper) Mock.goldenTicket
        Mock.redPepper marker a b m ∧
      S * (Mock.skewed.free Mock.goldenTicket
          (Mock.poolAccountOf Mock.dexA Mock.redPepper) *
          (Mock.skewed.issuance marker + m + minLiquidity)) ≤
        S * ((Mock.skewed.free Mock.goldenTicket
          (Mock.poolAccountOf Mock.dexA Mock.redPepper) + a) *
          (Mock.skewed.issuance marker + minLiquidity)) +
            Mock.skewed.issuance marker * m := by
  obtain ⟨marker, a, b, m, hdeposited, hA, -, -⟩ :=
    depositLiquidity_dilutes_by_rounding_only Mock.currency_lawful Mock.bob
      (Mock.isPoolOf (by decide +kernel) (by decide)) (by decide +kernel)
      (Extrinsic.succeeds_iff.mp (by decide +kernel :
        Mock.doubling.Succeeds Mock.skewed))
  exact ⟨marker, a, b, m, hdeposited, hA⟩

/-- The rounding does dilute: after this deposit the fraction of the reserve
that a marker token stands for is smaller, and withdrawing the issued tokens
returns more than was put in. -/
theorem depositLiquidity_dilutes :
    Mock.doubling.Succeeds Mock.skewed ∧
      (step Mock.skewed Mock.doubling).free Mock.goldenTicket
          (Mock.poolAccountOf Mock.dexA Mock.redPepper) *
          (Mock.skewed.issuance (Mock.markerOf Mock.dexA Mock.redPepper) +
            minLiquidity) <
        Mock.skewed.free Mock.goldenTicket
          (Mock.poolAccountOf Mock.dexA Mock.redPepper) *
          ((step Mock.skewed Mock.doubling).issuance
            (Mock.markerOf Mock.dexA Mock.redPepper) + minLiquidity) ∧
      Mock.undoing.Succeeds (step Mock.skewed Mock.doubling) ∧
      (step Mock.skewed Mock.doubling).issuance
          (Mock.markerOf Mock.dexA Mock.redPepper) =
        Mock.skewed.issuance (Mock.markerOf Mock.dexA Mock.redPepper) +
          (1000000 * Mock.unit - 1001) ∧
      Mock.skewed.free Mock.goldenTicket Mock.bob.account <
        (step (step Mock.skewed Mock.doubling) Mock.undoing).free
          Mock.goldenTicket Mock.bob.account := by
  decide +kernel

end PoolXyk
end SoraParachain

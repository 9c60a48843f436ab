import SoraParachain.Library.ConstantProduct
import SoraParachain.PoolXyk.MarkerSupply
import SoraParachain.PoolXyk.Redemption
import SoraParachain.PoolXyk.ReservePositivity

/-!
# What trading leaves of the worth of a share

The reserves of a pool are traded against each other, so a share is judged by
the product of what it stands for in both of them.  Withdrawals do not lower
this product and other calls do not touch it.  Exchanges and deposits round; as
long as the reserves are large, for each other and for the shares, each of them
lowers the product by a small part only, and these parts add up over a run.
-/

namespace SoraParachain
namespace PoolXyk

variable {T : Config} {s s' : Storage T}
variable {dexId : T.DEXId} {assetA assetB marker : T.AssetId}
variable {techAcc : TechAccountIdOf T} {d : ℕ}

open Technical (techAccountIdToAccountId techAccountIdToAccountId_inj)

/-- The product of the reserves of a pool for each pair of its shares. -/
def shareProduct (s : Storage T) (techAcc : TechAccountIdOf T)
    (assetA assetB marker : T.AssetId) : ℚ :=
  Shares.product (s.free assetA (techAccountIdToAccountId techAcc))
    (s.free assetB (techAccountIdToAccountId techAcc)) (s.issuance marker)
    minLiquidity

/-- Each reserve holds at least `d` units and at least `d` units for each unit
`S` of the other reserve and for each whole marker token. -/
structure Deep (s : Storage T) (techAcc : TechAccountIdOf T)
    (assetA assetB marker : T.AssetId) (d : ℕ) : Prop where
  fst : d ≤ s.free assetA (techAccountIdToAccountId techAcc)
  snd : d ≤ s.free assetB (techAccountIdToAccountId techAcc)
  fstPrice : d * s.free assetB (techAccountIdToAccountId techAcc) ≤
    S * s.free assetA (techAccountIdToAccountId techAcc)
  sndPrice : d * s.free assetA (techAccountIdToAccountId techAcc) ≤
    S * s.free assetB (techAccountIdToAccountId techAcc)
  fstShare : d * (s.issuance marker + minLiquidity) ≤
    S * s.free assetA (techAccountIdToAccountId techAcc)
  sndShare : d * (s.issuance marker + minLiquidity) ≤
    S * s.free assetB (techAccountIdToAccountId techAcc)

theorem shareProduct_comm :
    shareProduct s techAcc assetA assetB marker =
      shareProduct s techAcc assetB assetA marker := by
  rw [shareProduct, shareProduct, Shares.product, Shares.product,
    mul_comm (s.free assetA (techAccountIdToAccountId techAcc) : ℚ)]

theorem Deep.swap (h : Deep s techAcc assetA assetB marker d) :
    Deep s techAcc assetB assetA marker d :=
  ⟨h.snd, h.fst, h.sndPrice, h.fstPrice, h.sndShare, h.fstShare⟩

/-- Nothing is taken from the pool and no share is added. -/
theorem shareProduct_le_of_spared
    (hfree : ∀ c, s.free c (techAccountIdToAccountId techAcc) ≤
      s'.free c (techAccountIdToAccountId techAcc))
    (hissued : s'.issuance marker ≤ s.issuance marker) :
    shareProduct s techAcc assetA assetB marker ≤
      shareProduct s' techAcc assetA assetB marker :=
  Shares.product_mono (by decide) (hfree assetA) (hfree assetB) hissued

/-! ## An exchange -/

section

variable {w receiver : T.AccountId} {swapAmount : SwapAmount}
variable {t : PairSwapAction.Terms T} {l : T.currency.Ledger}

/-- The pool gets its part of the input and gives at most the output, whoever
receives it. -/
theorem exchange_receives (hM : T.currency.Lawful balanceModulus)
    (hne : assetA ≠ assetB) (hw : techAccountIdToAccountId techAcc ≠ w)
    (h : (exchangeAction receiver techAcc assetA assetB swapAmount).Settles s w
      t l) (hbook : s'.book = T.currency.book l) :
    s.free assetA (techAccountIdToAccountId techAcc) +
        (if decideIsFeeFromDestination assetA assetB then t.amountIn
          else t.amountIn - t.fee) ≤
        s'.free assetA (techAccountIdToAccountId techAcc) ∧
      s.free assetB (techAccountIdToAccountId techAcc) ≤
        s'.free assetB (techAccountIdToAccountId techAcc) + t.amountOut := by
  obtain ⟨-, hpaid⟩ := h.book hM
  rw [hpaid] at hbook
  have hout := outflow_exchange (c := assetB) h.agreed hw
  rw [if_pos ⟨rfl, rfl⟩] at hout
  constructor
  · have hsource := (fee_le_of_exchange h.agreed).2
    -- the first payment reaches the pool, and none takes this asset from it
    have hnone := outflow_exchange (c := assetA) h.agreed hw
    rw [if_neg fun heq => hne heq.1.symm, PairSwapAction.payments,
      feeFromDestination_exchangeAction] at hnone
    rw [PairSwapAction.payments, feeFromDestination_exchangeAction] at hbook
    cases hside : decideIsFeeFromDestination assetA assetB with
    | true =>
        rw [hside, if_pos rfl] at hbook hnone
        rw [if_pos rfl, Storage.free, Storage.free, hbook]
        exact Book.free_add_le_free_paid hw.symm hnone
    | false =>
        rw [hside, if_neg Bool.false_ne_true,
          wrappingSub_of_le (hsource hside)] at hbook hnone
        rw [if_neg Bool.false_ne_true, Storage.free, Storage.free, hbook]
        exact Book.free_add_le_free_paid hw.symm hnone
  · rw [← hout, Storage.free, Storage.free, hbook]
    exact Book.free_le_free_paid_add_outflow

/-- An exchange keeps the product of large reserves but for three of `d`
parts. -/
theorem exchange_nearly_keeps (hM : T.currency.Lawful balanceModulus)
    (hne : assetA ≠ assetB) (hw : techAccountIdToAccountId techAcc ≠ w)
    (h : (exchangeAction receiver techAcc assetA assetB swapAmount).Settles s w
      t l) (hbook : s'.book = T.currency.book l)
    (hdeep : Deep s techAcc assetA assetB marker d)
    (hdeep' : Deep s' techAcc assetA assetB marker d) :
    Shares.NearlyKept 3 d
      (s.free assetA (techAccountIdToAccountId techAcc) *
        s.free assetB (techAccountIdToAccountId techAcc))
      (s'.free assetA (techAccountIdToAccountId techAcc) *
        s'.free assetB (techAccountIdToAccountId techAcc)) := by
  obtain ⟨hx, hy⟩ := exchange_receives hM hne hw h hbook
  have hagreed := h.agreed
  have hprice := hdeep.fstPrice
  have hfst := hdeep'.fst
  have hsnd := hdeep'.snd
  generalize hxdef : s.free assetA (techAccountIdToAccountId techAcc) = x at *
  generalize hydef : s.free assetB (techAccountIdToAccountId techAcc) = y at *
  generalize s'.free assetA (techAccountIdToAccountId techAcc) = x' at *
  generalize s'.free assetB (techAccountIdToAccountId techAcc) = y' at *
  have hsnd' : d * x' ≤ x' * y' := by
    rw [Nat.mul_comm d x']
    exact Nat.mul_le_mul_left x' hsnd
  have hfst' : d * y' ≤ x' * y' := Nat.mul_le_mul_right y' hfst
  cases swapAmount with
  | withDesiredInput desiredIn minOut =>
      obtain ⟨hin, -, hcalc⟩ := exactInput_terms hagreed
      rw [hxdef, hydef] at hcalc
      have hkept : S * (x * y) ≤ S * (x' * y') + y * (y - y') := by
        cases hside : decideIsFeeFromDestination assetA assetB with
        | true =>
            rw [hside] at hcalc
            obtain ⟨-, -, hpos, -, -, hout, -, -⟩ :=
              calcOutputForExactInput_destination.mp hcalc
            rw [if_pos hside, hin] at hx
            exact productKept_of_exact_input hpos hout hx hy
        | false =>
            rw [hside] at hcalc
            obtain ⟨-, -, -, -, hpos, -, -, hout, -⟩ :=
              calcOutputForExactInput_source.mp hcalc
            rw [if_neg (by simp [hside]), hin] at hx
            exact productKept_of_exact_input hpos hout hx hy
      exact (Shares.nearlyKept_of_floored_price (by decide) hkept hprice).mono
        (by decide)
  | withDesiredOutput desiredOut maxIn =>
      obtain ⟨hout, -, hcalc⟩ := exactOutput_terms hagreed
      rw [hxdef, hydef] at hcalc
      rw [hout] at hy
      cases hside : decideIsFeeFromDestination assetA assetB with
      | true =>
          rw [hside] at hcalc
          have hreserve := hagreed.sourceReserve
          obtain ⟨hv, hlt, hq, hin, -⟩ :=
            calcInputForExactOutput_destination (hxdef ▸ hreserve) hcalc
          have hproduct := ConstantProduct.product_of_exact_output
            (lt_price_succ hv hq hin) (show desiredOut ≤ _ by omega) hlt.le
          rw [if_pos hside] at hx
          have hloss : x * y ≤ x' * y' + y' :=
            hproduct.le.trans (Nat.add_le_add (Nat.mul_le_mul hx (by omega))
              (by omega))
          refine (Shares.nearlyKept_of_loss (c := 1) hloss ?_).mono (by decide)
          rw [Nat.one_mul]
          exact hfst'
      | false =>
          rw [hside] at hcalc
          obtain ⟨hlt, hv, -, hq, hin, -, hfee⟩ :=
            calcInputForExactOutput_source hcalc
          have hproduct := ConstantProduct.product_of_exact_output_with_fee
            hlt.le (lt_price_succ hv hq hin) (by omega)
            (show 1000 * t.fee ≤ 3 * t.amountIn by omega)
          rw [if_neg (by simp [hside])] at hx
          have hproduct' : (x + (t.amountIn - t.fee)) * (y - desiredOut) ≤
              x' * y' := Nat.mul_le_mul hx (by omega)
          have hloss : x * y ≤ x' * y' + (y' + 2 * x') := by omega
          refine Shares.nearlyKept_of_loss hloss ?_
          rw [Nat.mul_add, Nat.mul_left_comm]
          omega

end

/-! ## The calls on the pool -/

section

variable {w receiver : T.AccountId} {u : Unit}

/-- How near a call keeps the product of large reserves. -/
theorem shareProduct_of_nearlyKept (hd : 0 < d)
    (hissued : s'.issuance marker = s.issuance marker)
    (h : Shares.NearlyKept 3 d
      (s.free assetA (techAccountIdToAccountId techAcc) *
        s.free assetB (techAccountIdToAccountId techAcc))
      (s'.free assetA (techAccountIdToAccountId techAcc) *
        s'.free assetB (techAccountIdToAccountId techAcc))) :
    shareProduct s techAcc assetA assetB marker * (1 - 3 / d) ≤
      shareProduct s' techAcc assetA assetB marker := by
  refine Shares.product_mul_le (by decide) hd ?_
  rw [hissued]
  exact h.mul_right

theorem shareProduct_of_swapPair (hM : T.currency.Lawful balanceModulus)
    {swapAmount : SwapAmount} (hd : 0 < d)
    (hw : techAccountIdToAccountId techAcc ≠ w)
    (hpool : IsPoolOf s dexId assetA assetB techAcc)
    (hdeep : Deep s techAcc assetA assetB marker d)
    (hdeep' : Deep s' techAcc assetA assetB marker d)
    (h : (swapPair w receiver dexId assetA assetB swapAmount).run s =
      (.ok u, s')) :
    shareProduct s techAcc assetA assetB marker * (1 - 3 / d) ≤
      shareProduct s' techAcc assetA assetB marker := by
  have hissued : s'.issuance marker = s.issuance marker :=
    supply_of_swapPair hM h
  obtain ⟨found, t, l, hfound, hset, hstep⟩ := run_swapPair_ok.mp h
  obtain rfl := hpool.unique hfound
  have hbook : s'.book = T.currency.book l := by
    rw [hstep]
    rfl
  exact shareProduct_of_nearlyKept hd hissued
    (exchange_nearly_keeps hM hpool.assets_ne hw hset hbook hdeep hdeep')

theorem shareProduct_of_depositLiquidity
    (hM : T.currency.Lawful balanceModulus)
    {aDesired bDesired aMin bMin : ℕ} (hd : 0 < d)
    (hw : techAccountIdToAccountId techAcc ≠ w)
    (hmarker : IsMarkerOf techAcc marker)
    (hpool : IsPoolOf s dexId assetA assetB techAcc)
    (hdeep : Deep s techAcc assetA assetB marker d)
    (hdeep' : Deep s' techAcc assetA assetB marker d)
    (h : (depositLiquidity w dexId assetA assetB aDesired bDesired aMin
      bMin).run s = (.ok u, s')) :
    shareProduct s techAcc assetA assetB marker * (1 - 3 / d) ≤
      shareProduct s' techAcc assetA assetB marker := by
  obtain ⟨mark, t, hagreed, hdeposited⟩ := deposited_of_run hM hpool h
  obtain rfl := hmarker.unique hdeposited.isMarker
  have hissued := hdeposited.issuance
  obtain ⟨hA, hB⟩ := hdeposited.pool hw hpool.assets_ne
  rcases hagreed.amounts with hfirst | ⟨-, hlater⟩
  · exact absurd hfirst.empty.1 (hd.trans_le hdeep.fst).ne'
  · obtain ⟨hissuesA, hissuesB⟩ := laterDeposit_issues hlater
    have hfst := hdeep'.fstShare
    have hsnd := hdeep'.sndShare
    rw [hissued, hA] at hfst
    rw [hissued, hB] at hsnd
    have hkept := (Shares.nearlyKept_of_worth
      (hissuesA.worth_nearly_kept (by decide) hfst)
      (hissuesB.worth_nearly_kept (by decide) hsnd)).mono
      (show 2 ≤ 3 by decide)
    rw [shareProduct, shareProduct, hA, hB, hissued]
    exact Shares.product_mul_le (by decide) hd hkept

theorem shareProduct_of_withdrawLiquidity
    (hM : T.currency.Lawful balanceModulus) {k aMin bMin : ℕ}
    (hw : techAccountIdToAccountId techAcc ≠ w)
    (hmarker : IsMarkerOf techAcc marker)
    (hpool : IsPoolOf s dexId assetA assetB techAcc)
    (h : (withdrawLiquidity w dexId assetA assetB k aMin bMin).run s =
      (.ok u, s')) :
    shareProduct s techAcc assetA assetB marker ≤
      shareProduct s' techAcc assetA assetB marker := by
  obtain ⟨mark, t, hagreed, hwithdrawn⟩ := withdrawn_of_run hM hpool h
  obtain rfl := hmarker.unique hwithdrawn.isMarker
  have hissued := hwithdrawn.issuance
  obtain ⟨hA, hB⟩ := hwithdrawn.pool hw hpool.assets_ne
  have hcovered : t.burned ≤ s.issuance (T.techAssetIdInto mark) :=
    hagreed.covered.trans (hM.free_le_issuance _ _ _)
  have hfairA := FairPayout.of_shareOf hagreed.shareA (Nat.zero_le _)
    hagreed.reserves.1 hA hcovered hissued
  have hfairB := FairPayout.of_shareOf hagreed.shareB (Nat.zero_le _)
    hagreed.reserves.2 hB hcovered hissued
  exact Shares.product_le_of_worth (by decide) hfairA.worth hfairB.worth

/-! ## The calls on other pools -/

/-- Another pool has another account. -/
theorem account_ne_of_not_pool (hT : T.CollisionFree)
    {other : TechAccountIdOf T}
    (hnot : ¬IsPoolOf s dexId assetA assetB techAcc)
    (hother : IsPoolOf s dexId assetA assetB other) :
    techAccountIdToAccountId techAcc ≠ techAccountIdToAccountId other := by
  intro heq
  obtain rfl := (techAccountIdToAccountId_inj hT).mp heq
  exact hnot hother

theorem free_le_of_depositLiquidity (hM : T.currency.Lawful balanceModulus)
    {aDesired bDesired aMin bMin : ℕ}
    (hw : techAccountIdToAccountId techAcc ≠ w)
    (h : (depositLiquidity w dexId assetA assetB aDesired bDesired aMin
      bMin).run s = (.ok u, s')) (c : T.AssetId) :
    s.free c (techAccountIdToAccountId techAcc) ≤
      s'.free c (techAccountIdToAccountId techAcc) := by
  obtain ⟨found, -, -, -, -, hfound, -⟩ := run_depositLiquidity_ok.mp h
  obtain ⟨mark, t, -, hdeposited⟩ := deposited_of_run hM hfound h
  rw [Storage.free, Storage.free, hdeposited.book]
  exact ((Book.free_le_free_moved hw).trans
    (Book.free_le_free_moved hw)).trans Book.free_le_free_issued

theorem free_le_of_withdrawLiquidity (hT : T.CollisionFree)
    (hM : T.currency.Lawful balanceModulus) {k aMin bMin : ℕ}
    (hw : techAccountIdToAccountId techAcc ≠ w)
    (hnot : ¬IsPoolOf s dexId assetA assetB techAcc)
    (h : (withdrawLiquidity w dexId assetA assetB k aMin bMin).run s =
      (.ok u, s')) (c : T.AssetId) :
    s.free c (techAccountIdToAccountId techAcc) ≤
      s'.free c (techAccountIdToAccountId techAcc) := by
  obtain ⟨found, -, -, -, -, hfound, -⟩ := run_withdrawLiquidity_ok.mp h
  have hne := account_ne_of_not_pool hT hnot hfound
  obtain ⟨mark, t, -, hwithdrawn⟩ := withdrawn_of_run hM hfound h
  rw [Storage.free, Storage.free, hwithdrawn.book,
    Book.free_retired_of_ne_account hw]
  exact (Book.free_le_free_moved hne).trans (Book.free_le_free_moved hne)

theorem free_le_of_swapPair (hT : T.CollisionFree)
    (hM : T.currency.Lawful balanceModulus) {swapAmount : SwapAmount}
    (hw : techAccountIdToAccountId techAcc ≠ w)
    (hnot : ¬IsPoolOf s dexId assetA assetB techAcc)
    (h : (swapPair w receiver dexId assetA assetB swapAmount).run s =
      (.ok u, s')) (c : T.AssetId) :
    s.free c (techAccountIdToAccountId techAcc) ≤
      s'.free c (techAccountIdToAccountId techAcc) := by
  obtain ⟨found, t, l, hfound, hset, rfl⟩ := run_swapPair_ok.mp h
  have hne := account_ne_of_not_pool hT hnot hfound
  obtain ⟨-, hpaid⟩ := hset.book hM
  have hout := outflow_exchange (c := c) hset.agreed hw
  rw [if_neg fun heq => hne heq.2.symm] at hout
  calc s.free c (techAccountIdToAccountId techAcc)
      ≤ (s.book.paid _).free c _ + outflow _ c _ :=
        Book.free_le_free_paid_add_outflow
    _ = (T.currency.book l).free c (techAccountIdToAccountId techAcc) := by
        rw [hout, ← hpaid, Nat.add_zero]

end

/-! ## Any step and any run -/

/-- The exchanges with a pool and the deposits into it. -/
def roundings (techAcc : TechAccountIdOf T) (s : Storage T)
    (x : Extrinsic T) : ℕ :=
  match x.2 with
  | .depositLiquidity dexId assetA assetB _ _ _ _ =>
      if IsPoolOf s dexId assetA assetB techAcc ∧ x.Succeeds s then 1 else 0
  | .swapPair _ dexId assetA assetB _ =>
      if IsPoolOf s dexId assetA assetB techAcc ∧ x.Succeeds s then 1 else 0
  | _ => 0

/-- The extrinsic deposits into a pool, withdraws from it or exchanges with
it. -/
def UsesPool (techAcc : TechAccountIdOf T) (s : Storage T)
    (x : Extrinsic T) : Prop :=
  match x.2 with
  | .depositLiquidity dexId assetA assetB _ _ _ _ =>
      IsPoolOf s dexId assetA assetB techAcc
  | .withdrawLiquidity dexId assetA assetB _ _ _ =>
      IsPoolOf s dexId assetA assetB techAcc
  | .swapPair _ dexId assetA assetB _ => IsPoolOf s dexId assetA assetB techAcc
  | _ => False

/-- An account that is named after two assets that convert back. -/
structure SoundPool (s : Storage T) (techAcc : TechAccountIdOf T)
    (assetA assetB marker : T.AssetId) : Prop where
  reversible : AllReversible s
  named : IsNamedAfter techAcc assetA assetB
  isMarker : IsMarkerOf techAcc marker

section

variable {x : Extrinsic T} {otherA otherB : T.AssetId} {q : ℚ}

theorem roundings_of_not_succeeds (h : ¬x.Succeeds s) :
    roundings techAcc s x = 0 := by
  unfold roundings
  split
  · exact if_neg fun hboth => h hboth.2
  · exact if_neg fun hboth => h hboth.2
  · rfl

theorem roundings_of_not_uses (h : ¬UsesPool techAcc s x) :
    roundings techAcc s x = 0 := by
  obtain ⟨who, call⟩ := x
  cases call with
  | depositLiquidity => exact if_neg fun hboth => h hboth.1
  | swapPair => exact if_neg fun hboth => h hboth.1
  | _ => rfl

theorem mintedInto_of_not_uses {mark : T.TechAssetId}
    (h : ¬UsesPool techAcc s x) : mintedInto techAcc mark s x = 0 := by
  obtain ⟨who, call⟩ := x
  cases call with
  | depositLiquidity => exact if_neg fun hboth => h hboth.1
  | _ => rfl

/-- A call that does not use a pool takes nothing from it. -/
theorem free_le_of_not_uses (hT : T.CollisionFree)
    (hM : T.currency.Lawful balanceModulus) (hcall : isPalletCall x = true)
    (hnot : ¬UsesPool techAcc s x) (hs : x.Succeeds s) (c : T.AssetId) :
    s.free c (techAccountIdToAccountId techAcc) ≤
      (step s x).free c (techAccountIdToAccountId techAcc) := by
  have hrun := Extrinsic.succeeds_iff.mp hs
  obtain ⟨who, call⟩ := x
  have hw := who.notTechnical techAcc
  cases call with
  | assetsRegister symbol name initialSupply isMintable =>
      rcases (Assets.registered_of_register hrun).ledger with
        ⟨-, hledger⟩ | ⟨-, hdeposit⟩
      · rw [Storage.free, Storage.free, Storage.book, Storage.book, hledger]
      · rw [Storage.free, Storage.free, Storage.book, Storage.book,
          hM.deposit_ok hdeposit]
        exact Book.free_le_free_issued
  | assetsTransfer assetId dest amount =>
      obtain ⟨-, -, l, hl, hstep⟩ := Assets.run_transferFrom_ok.mp hrun
      rw [hstep]
      change _ ≤ (T.currency.book l).free c _
      rw [(hM.transfer_ok hl).2]
      exact Book.free_le_free_moved hw
  | assetsMint assetId dest amount =>
      obtain ⟨-, -, -, l, hl, hstep⟩ := Assets.run_mintTo_ok.mp hrun
      rw [hstep]
      change _ ≤ (T.currency.book l).free c _
      rw [hM.deposit_ok hl]
      exact Book.free_le_free_issued
  | assetsBurn assetId amount =>
      obtain ⟨-, -, l, hl, hstep⟩ := Assets.run_burnFrom_ok.mp hrun
      rw [hstep]
      change _ ≤ (T.currency.book l).free c _
      rw [(hM.withdraw_ok hl).2, Book.free_retired_of_ne_account hw]
      exact Nat.le_refl _
  | assetsSetNonMintable assetId =>
      obtain ⟨-, -, hstep⟩ := Assets.run_setNonMintable_ok.mp hrun
      rw [hstep]
      exact Nat.le_refl _
  | tradingPairRegister dexId baseAssetId targetAssetId =>
      obtain ⟨-, -, hstep⟩ := TradingPair.run_register_ok hrun
      rw [hstep]
      exact Nat.le_refl _
  | initializePool dexId otherA otherB =>
      obtain ⟨_, _, _, hinit⟩ := initialized_of_run hrun
      rw [Storage.free, Storage.free, Storage.book, Storage.book, hinit.ledger]
  | depositLiquidity dexId otherA otherB aDesired bDesired aMin bMin =>
      exact free_le_of_depositLiquidity hM hw hrun c
  | withdrawLiquidity dexId otherA otherB k aMin bMin =>
      exact free_le_of_withdrawLiquidity hT hM hw hnot hrun c
  | swapPair receiver dexId otherA otherB swapAmount =>
      exact free_le_of_swapPair hT hM hw hnot hrun c
  | createSwap action => cases hcall

/-- The pool of an account is used with the two assets that it is named after,
in one order or the other. -/
theorem SoundPool.of_isPoolOf (h : SoundPool s techAcc assetA assetB marker)
    (hpool : IsPoolOf s dexId otherA otherB techAcc)
    (hA : Assets.Exists s otherA) (hB : Assets.Exists s otherB) :
    assetA = otherA ∧ assetB = otherB ∨ assetA = otherB ∧ assetB = otherA :=
  h.named.unique (hpool.isNamedAfter (h.reversible.assets _ hA)
    (h.reversible.assets _ hB))

theorem SoundPool.step (hT : T.CollisionFree)
    (h : SoundPool s techAcc assetA assetB marker) :
    SoundPool (step s x) techAcc assetA assetB marker :=
  ⟨h.reversible.step hT, h.named, h.isMarker⟩

/-- What holds in the order in which a call names the assets holds in the
other. -/
theorem shareProduct_of_either
    (hassets : assetA = otherA ∧ assetB = otherB ∨
      assetA = otherB ∧ assetB = otherA)
    (hdeep : Deep s techAcc assetA assetB marker d)
    (hdeep' : Deep s' techAcc assetA assetB marker d)
    (h : Deep s techAcc otherA otherB marker d →
      Deep s' techAcc otherA otherB marker d →
        shareProduct s techAcc otherA otherB marker * q ≤
          shareProduct s' techAcc otherA otherB marker) :
    shareProduct s techAcc assetA assetB marker * q ≤
      shareProduct s' techAcc assetA assetB marker := by
  rcases hassets with ⟨rfl, rfl⟩ | ⟨rfl, rfl⟩
  · exact h hdeep hdeep'
  · rw [shareProduct_comm, shareProduct_comm (s := s')]
    exact h hdeep.swap hdeep'.swap

/-- A call that uses the pool lowers the product by three of `d` parts if it
rounds, and not at all otherwise. -/
theorem shareProduct_of_uses (hM : T.currency.Lawful balanceModulus)
    (hd : 0 < d) (hsound : SoundPool s techAcc assetA assetB marker)
    (huses : UsesPool techAcc s x) (hs : x.Succeeds s)
    (hdeep : Deep s techAcc assetA assetB marker d)
    (hdeep' : Deep (step s x) techAcc assetA assetB marker d) :
    shareProduct s techAcc assetA assetB marker *
        (1 - 3 / d) ^ roundings techAcc s x ≤
      shareProduct (step s x) techAcc assetA assetB marker := by
  have hrun := Extrinsic.succeeds_iff.mp hs
  obtain ⟨who, call⟩ := x
  have hw := who.notTechnical techAcc
  cases call with
  | depositLiquidity dexId otherA otherB aDesired bDesired aMin bMin =>
      have hone : roundings techAcc s (who, .depositLiquidity dexId otherA
          otherB aDesired bDesired aMin bMin) = 1 := if_pos ⟨huses, hs⟩
      obtain ⟨_, _, hagreed, -⟩ := deposited_of_run hM huses hrun
      rw [hone, pow_one]
      exact shareProduct_of_either
        (hsound.of_isPoolOf huses hagreed.fstExists hagreed.sndExists) hdeep
        hdeep' fun hother hother' =>
          shareProduct_of_depositLiquidity hM hd hw hsound.isMarker huses hother
            hother' hrun
  | withdrawLiquidity dexId otherA otherB k aMin bMin =>
      obtain ⟨_, _, hagreed, -⟩ := withdrawn_of_run hM huses hrun
      rw [roundings, pow_zero]
      refine shareProduct_of_either
        (hsound.of_isPoolOf huses hagreed.fstExists hagreed.sndExists) hdeep
        hdeep' fun _ _ => ?_
      rw [mul_one]
      exact shareProduct_of_withdrawLiquidity hM hw hsound.isMarker huses hrun
  | swapPair receiver dexId otherA otherB swapAmount =>
      have hone : roundings techAcc s (who, .swapPair receiver dexId otherA
          otherB swapAmount) = 1 := if_pos ⟨huses, hs⟩
      obtain ⟨_, _, _, -, hset, -⟩ := run_swapPair_ok.mp hrun
      have hpayable := hset.payable
      rw [hone, pow_one]
      exact shareProduct_of_either
        (hsound.of_isPoolOf huses hpayable.sourceExists
          hpayable.destinationExists) hdeep hdeep' fun hother hother' =>
          shareProduct_of_swapPair hM hd hw huses hother hother' hrun
  | _ => cases huses

theorem step_shareProduct (hT : T.CollisionFree)
    (hM : T.currency.Lawful balanceModulus) (hd : 0 < d)
    (hsound : SoundPool s techAcc assetA assetB marker)
    (hcall : isPalletCall x = true) (hdirect : ¬MintsDirectly marker s x)
    (hdeep : Deep s techAcc assetA assetB marker d)
    (hdeep' : Deep (step s x) techAcc assetA assetB marker d) :
    shareProduct s techAcc assetA assetB marker *
        (1 - 3 / d) ^ roundings techAcc s x ≤
      shareProduct (step s x) techAcc assetA assetB marker := by
  by_cases hs : x.Succeeds s
  · by_cases huses : UsesPool techAcc s x
    · exact shareProduct_of_uses hM hd hsound huses hs hdeep hdeep'
    · obtain ⟨mark, hmark, rfl⟩ := hsound.isMarker
      have hissued := step_supply hM hT hmark hcall hdirect
      rw [mintedInto_of_not_uses huses] at hissued
      rw [roundings_of_not_uses huses, pow_zero, mul_one]
      exact shareProduct_le_of_spared
        (free_le_of_not_uses hT hM hcall huses hs) (by omega)
  · rw [roundings_of_not_succeeds hs, pow_zero, mul_one]
    rcases step_succeeds_or s x with hrun | hsame
    · exact absurd (Extrinsic.succeeds_iff.mpr hrun) hs
    · rw [SameButRecords] at hsame
      rw [hsame]
      exact le_rfl

end

/-- Along every run of calls in which the reserves of a pool stay large and
nobody mints its marker asset directly, the product of the reserves for each
pair of shares falls by at most three of `d` parts with each exchange and each
deposit, and by nothing else. -/
theorem trading_keeps_shareProduct (hT : T.CollisionFree)
    (hM : T.currency.Lawful balanceModulus) (hd : 3 ≤ d)
    (hreversible : AllReversible s)
    (hpool : IsPoolOf s dexId assetA assetB techAcc)
    (hA : Assets.Exists s assetA) (hB : Assets.Exists s assetB)
    (hmarker : IsMarkerOf techAcc marker) {extrinsics : List (Extrinsic T)}
    (halong : Along step (fun s x =>
      isPalletCall x = true ∧ ¬MintsDirectly marker s x ∧
        Deep s techAcc assetA assetB marker d ∧
        Deep (step s x) techAcc assetA assetB marker d) s extrinsics) :
    shareProduct s techAcc assetA assetB marker *
        (1 - 3 / d) ^ totalAlong step (roundings techAcc) s extrinsics ≤
      shareProduct (runs s extrinsics) techAcc assetA assetB marker := by
  have hfactor : (0 : ℚ) ≤ 1 - 3 / d := by
    have hcast : (3 : ℚ) ≤ d := by exact_mod_cast hd
    rw [sub_nonneg, div_le_one (by linarith)]
    exact hcast
  have hsound : SoundPool s techAcc assetA assetB marker :=
    ⟨hreversible, hpool.isNamedAfter (hreversible.assets _ hA)
      (hreversible.assets _ hB), hmarker⟩
  exact runAll_mul_pow_le hfactor
    (fun s => shareProduct s techAcc assetA assetB marker) (roundings techAcc)
    (fun _ _ hs _ => hs.step hT)
    (fun _ _ hs ⟨hcall, hdirect, hdeep, hdeep'⟩ =>
      step_shareProduct hT hM (by omega) hs hcall hdirect hdeep hdeep')
    extrinsics s hsound halong

theorem allReversible_fundedRun : AllReversible (runs Mock.genesis fundedRun) :=
  runAll_invariant (P := fun _ _ => True)
    (fun _ _ hs _ => hs.step Mock.collisionFree) fundedRun Mock.genesis
    allReversible_genesis (along_of_forall_mem fun _ _ => trivial)

/-- Alice sells to the pool that Bob has funded, and Bob withdraws one token. -/
theorem trading_keeps_shareProduct_sample :
    shareProduct (runs Mock.genesis fundedRun)
        (Mock.poolOf Mock.dexA Mock.redPepper) Mock.goldenTicket Mock.redPepper
        (Mock.markerOf Mock.dexA Mock.redPepper) *
        (1 - 3 / (10 ^ 15 : ℕ)) ^ totalAlong step
          (roundings (Mock.poolOf Mock.dexA Mock.redPepper))
          (runs Mock.genesis fundedRun) [Mock.sellPepper 0, Mock.withdrawUnit] ≤
      shareProduct
        (runs (runs Mock.genesis fundedRun)
          [Mock.sellPepper 0, Mock.withdrawUnit])
        (Mock.poolOf Mock.dexA Mock.redPepper) Mock.goldenTicket Mock.redPepper
        (Mock.markerOf Mock.dexA Mock.redPepper) := by
  have hdeep : Deep (runs Mock.genesis fundedRun)
      (Mock.poolOf Mock.dexA Mock.redPepper) Mock.goldenTicket Mock.redPepper
      (Mock.markerOf Mock.dexA Mock.redPepper) (10 ^ 15) := by
    constructor <;> decide +kernel
  have hsold : Deep (step (runs Mock.genesis fundedRun) (Mock.sellPepper 0))
      (Mock.poolOf Mock.dexA Mock.redPepper) Mock.goldenTicket Mock.redPepper
      (Mock.markerOf Mock.dexA Mock.redPepper) (10 ^ 15) := by
    constructor <;> decide +kernel
  have hwithdrawn : Deep (step (step (runs Mock.genesis fundedRun)
        (Mock.sellPepper 0)) Mock.withdrawUnit)
      (Mock.poolOf Mock.dexA Mock.redPepper) Mock.goldenTicket Mock.redPepper
      (Mock.markerOf Mock.dexA Mock.redPepper) (10 ^ 15) := by
    constructor <;> decide +kernel
  exact trading_keeps_shareProduct (T := Mock.runtime) Mock.collisionFree
    Mock.currency_lawful (by decide) allReversible_fundedRun
    (Mock.isPoolOf (by decide +kernel) (by decide)) (by decide +kernel)
    (by decide +kernel) ⟨_, rfl, rfl⟩
    ⟨⟨rfl, id, hdeep, hsold⟩, ⟨rfl, id, hsold, hwithdrawn⟩, trivial⟩

end PoolXyk
end SoraParachain

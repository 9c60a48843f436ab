import SoraParachain.BondingCurvePool.ExactSales
import SoraParachain.BondingCurvePool.Reserves
import SoraParachain.BondingCurvePool.Splitting

/-!
# The reserves back what is issued

A purchase pays the whole area that it adds below the line, and a sale takes no
more than four fifths of the area that it removes.  The distribution gives away a
fifth of what exceeds four fifths of the whole area, and leaves exactly enough for
the quantity that is minted after it.  So the reserves keep covering the price of
everything issued, up to what the formulas round.
-/

namespace SoraParachain
namespace BondingCurvePool

variable {T : Config} {P : Pool T} {s s₁ s₂ s' : Storage T}

/-- What everything up to an issuance sells for: four fifths of the area. -/
def defaultWorth (issuance : ℕ) : ℕ :=
  4 * defaultSlope.floored issuance / 5

/-- The reserves cover what everything issued sells for, but for a shortfall. -/
def Pool.Backed (P : Pool T) (s : Storage T) (shortfall : ℕ) : Prop :=
  defaultWorth (s.issuance T.getBaseAssetId) ≤
    P.total s P.usdt P.reservesAccountId + shortfall

/-- What the formulas of one trade round away at most: a part of `312500` units and
one unit for every whole unit issued. -/
def roundingLoss (issuance : ℕ) : ℕ :=
  312502 + issuance / 10 ^ 18

/-! ## Prices against areas -/

section Prices

variable {issuance input output : ℕ}

/-- A purchase pays the area up to what it issues. -/
theorem area_of_purchase {amount : SwapAmount} {mainAssetId : T.AssetId}
    (hcurve : P.curve = .default)
    (h : P.decideBuyAmounts s mainAssetId amount = .ok (input, output)) :
    defaultSlope.floored (s.issuance mainAssetId + output) ≤
      defaultSlope.floored (s.issuance mainAssetId) + input +
        s.issuance mainAssetId / 10 ^ 18 + 1 := by
  cases amount with
  | withDesiredInput desired limit =>
      obtain ⟨rfl, x, hx, houtput⟩ :=
        Pool.decideBuyAmounts_input_eq_ok.mp h
      obtain ⟨-, hx⟩ := Pool.priceForCollateralAsset_eq_ok.mp hx
      rw [hcurve] at hx
      have hexact := priced_collateral_buy ⟨x, hx, houtput⟩
      have hupper := defaultSlope.floored_le_exact
        (s.issuance mainAssetId + output)
      have hlower := defaultSlope.exact_lt_floored (s.issuance mainAssetId)
      have hd : defaultSlope.d = 10 ^ 6 := rfl
      have hc : defaultSlope.c = 10 ^ 18 := rfl
      rw [hd, hc] at hupper hlower
      generalize defaultSlope.floored (s.issuance mainAssetId + output) = upTo
        at *
      generalize defaultSlope.floored (s.issuance mainAssetId) = upFrom at *
      generalize s.issuance mainAssetId = Q at *
      omega
  | withDesiredOutput desired limit =>
      obtain ⟨rfl, x, hx, hinput⟩ :=
        Pool.decideBuyAmounts_output_eq_ok.mp h
      obtain ⟨-, hx⟩ := Pool.priceForMainAsset_eq_ok.mp hx
      rw [hcurve] at hx
      have hcost := priced_main_buy ⟨x, hx, hinput⟩
      omega

/-- A sale is paid at most four fifths of the area down to what it leaves. -/
theorem area_of_sale {amount : SwapAmount} {mainAssetId : T.AssetId}
    (hcurve : P.curve = .default) (hle : input ≤ s.issuance mainAssetId)
    (h : P.decideSellAmounts s mainAssetId amount = .ok (input, output)) :
    5 * output + 4 * defaultSlope.floored (s.issuance mainAssetId - input) ≤
      4 * defaultSlope.floored (s.issuance mainAssetId) +
        5 * (312501 + s.issuance mainAssetId / 10 ^ 18) := by
  cases amount with
  | withDesiredInput desired limit =>
      obtain ⟨rfl, x, hx, houtput⟩ :=
        Pool.decideSellAmounts_input_eq_ok.mp h
      obtain ⟨-, hx⟩ := Pool.priceForMainAsset_eq_ok.mp hx
      rw [hcurve] at hx
      have hproceeds := priced_main_sell hle ⟨x, hx, houtput⟩
      omega
  | withDesiredOutput desired limit =>
      obtain ⟨rfl, x, hx, hinput⟩ :=
        Pool.decideSellAmounts_output_eq_ok.mp h
      obtain ⟨-, hx⟩ := Pool.priceForCollateralAsset_eq_ok.mp hx
      rw [hcurve] at hx
      obtain ⟨m, hm, hsum⟩ := collateral_sell_root hx
      rw [hinput] at hsum
      have hparts := parts_lt_floored (root_add_parts_le hm)
        (by exact_mod_cast hsum)
      rw [← Nat.cast_sub hle, Slope.flooredAt_natCast, Nat.max_eq_left hle]
        at hparts
      generalize defaultSlope.floored (s.issuance mainAssetId - input) = upTo
        at *
      generalize defaultSlope.floored (s.issuance mainAssetId) = upFrom at *
      generalize s.issuance mainAssetId = Q at *
      omega

/-- The price of everything issued. -/
theorem priced_everything {n : ℕ}
    (h : Priced (Curve.default.priceForMainAsset issuance issuance .sell) n) :
    n = defaultWorth issuance := by
  have hproceeds := priced_main_sell_eq h
  have hzero : defaultSlope.flooredAt ((issuance : ℤ) - issuance) = 0 := by
    rw [sub_self]
    rfl
  rw [hzero] at hproceeds
  unfold defaultWorth
  omega

/-- The pool computes it as what it expects of its reserves. -/
theorem bits_of_everything {x : FixedNumber}
    (h : Curve.default.priceForMainAsset issuance issuance .sell = .ok x) :
    x.bits = defaultWorth issuance := by
  have hprice := h
  rw [Curve.priceForMainAsset, orCalculatePriceFailed_eq_ok] at hprice
  obtain ⟨-, v, -, hv, -⟩ :=
    FixedWrapper.holds_mul.mp (FixedWrapper.holds_fixedMul.mp ⟨x, hprice, rfl⟩)
  obtain ⟨w, -, hw, -⟩ := FixedWrapper.holds_sub.mp hv
  obtain ⟨-, y, -, hy, -⟩ := FixedWrapper.holds_mul.mp hw
  have hlt : issuance < 2 ^ 127 := (FixedWrapper.holds_ofBalance.mp hy).2
  have hQ : (FixedWrapper.ofBalance issuance).Holds issuance :=
    FixedWrapper.holds_ofBalance.mpr ⟨rfl, hlt⟩
  rw [priceUpTo_of_holds hQ hw] at hw
  obtain ⟨n, z, hz, hn⟩ :=
    (exists_priced_main_sell_iff hlt le_rfl).mpr hw.lt
  have hsame : x = z := Except.ok.inj (h.symm.trans hz)
  rw [hsame, hn, priced_everything ⟨z, hz, hn⟩]

/-- The free amount is a fifth of the excess at most. -/
theorem five_mul_freeAmount_le {free reserves : ℕ} {expected : FixedNumber}
    (h : BuyMainAsset.freeAmount reserves expected = .ok free) :
    free = 0 ∨ 5 * (free : ℤ) ≤ reserves - expected.bits := by
  unfold BuyMainAsset.freeAmount at h
  dsimp only at h
  split_ifs at h with hless
  · right
    rw [orCalculatePriceFailed_eq_ok, FixedWrapper.tryIntoBalance_eq_ok,
      FixedWrapper.holds_mulFixed] at h
    obtain ⟨z, w, hz, hw, hfree, -⟩ := FixedWrapper.holds_mul.mp h
    obtain ⟨a, b, ha, hb, hdiff, -⟩ := FixedWrapper.holds_sub.mp hz
    obtain ⟨ha, -⟩ := FixedWrapper.holds_ofBalance.mp ha
    rw [FixedWrapper.holds_ofFixed] at hb hw
    have hfifth : w = 2 * 10 ^ 17 := hw
    have hscale : (fixedFormat.scale : ℤ) = 10 ^ 18 := rfl
    rw [hfifth, hscale, Int.fdiv_eq_ediv_of_nonneg _ (by decide)] at hfree
    omega
  · left
    exact (Except.ok.inj h).symm

end Prices

/-! ## What a trade does to the issuance and the reserves -/

section Steps

variable {assetId d : T.AssetId} {source dest issuer who : T.AccountId}
variable {amount : ℕ} {u : Unit}

theorem issuance_of_transferFrom (hM : T.currency.Lawful balanceModulus)
    (h : (Assets.transferFrom assetId source dest amount).run s =
      (.ok u, s')) :
    s'.issuance d = s.issuance d := by
  rw [Storage.issuance, (Assets.book_of_transferFrom hM h).2]
  rfl

/-- A burn takes its amount from the issuance, which is no less. -/
theorem issuance_of_burnFrom (hM : T.currency.Lawful balanceModulus)
    (h : (Assets.burnFrom assetId issuer who amount).run s = (.ok u, s')) :
    s'.issuance assetId + amount = s.issuance assetId := by
  obtain ⟨hcovered, hbook⟩ := Assets.book_of_burnFrom hM h
  have hle : amount ≤ s.issuance assetId :=
    hcovered.trans (hM.free_le_issuance s.ledger assetId who)
  rw [Storage.issuance, hbook, Book.issuance_retired_self]
  exact Nat.sub_add_cancel hle

theorem issuance_of_mintTo (hM : T.currency.Lawful balanceModulus)
    (h : (Assets.mintTo assetId issuer who amount).run s = (.ok u, s')) :
    s'.issuance assetId = s.issuance assetId + amount := by
  rw [Storage.issuance, Assets.book_of_mintTo hM h, Book.issuance_issued_self]
  rfl

/-- A burn for anybody costs the reserves its amount at most. -/
theorem gains_of_burnFrom (hM : T.currency.Lawful balanceModulus)
    (hE : P.toEnvironment.KeepsReserved)
    (h : (Assets.burnFrom assetId issuer who amount).run s = (.ok u, s')) :
    P.Gains s s' (only assetId (-amount)) := by
  have hbook := (Assets.book_of_burnFrom hM h).2
  obtain ⟨-, -, l, hl, rfl⟩ := Assets.run_burnFrom_ok.mp h
  intro d
  have hreserved := hE.withdraw hl
  have hfree : s.free d P.reservesAccountId ≤
      Storage.free { s with ledger := l } d P.reservesAccountId +
        if d = assetId then amount else 0 := by
    rw [Storage.free, Storage.free, hbook]
    exact Book.free_le_free_retired_add
  simp only [Pool.total, only, hreserved]
  split_ifs at hfree ⊢
  all_goals
    push_cast
    omega

/-- What somebody else pays to the reserves is added to them. -/
theorem gains_of_deposit (hM : T.currency.Lawful balanceModulus)
    (hE : P.toEnvironment.KeepsReserved) (hsource : source ≠ P.reservesAccountId)
    (h : (Technical.transferIn assetId source P.reservesAcc amount).run s =
      (.ok u, s')) :
    P.Gains s s' (only assetId amount) := by
  have htransfer := (Technical.run_transferIn_ok.mp h).2
  obtain ⟨-, hbook⟩ := Assets.book_of_transferFrom hM htransfer
  obtain ⟨-, -, l, hl, rfl⟩ := Assets.run_transferFrom_ok.mp htransfer
  intro d
  have hreserved := hE.transfer hl
  have hfree : Storage.free { s with ledger := l } d P.reservesAccountId =
      s.free d P.reservesAccountId + if d = assetId then amount else 0 := by
    rw [Storage.free, hbook]
    split_ifs with heq
    · rw [heq]
      exact Book.free_moved_dest hsource
    · exact Book.free_moved_of_ne_currency heq
  simp only [Pool.total, only, hreserved, hfree]
  split_ifs
  all_goals
    push_cast
    omega

/-- The trades that the pool makes on the DEX issue none of the main asset. -/
def Pool.DexApiIssuesNothing (P : Pool T) : Prop :=
  ∀ (s s' : Storage T) (input output : T.AssetId) (n : ℕ) (o : SwapOutcome),
    (P.dexApiExchange P.reservesAccountId P.reservesAccountId P.polkaswap
      input output (.withDesiredInput n 0)).run s = (.ok o, s') →
    s'.issuance T.getBaseAssetId ≤ s.issuance T.getBaseAssetId

theorem issuance_of_payShares (hM : T.currency.Lawful balanceModulus)
    {self : BuyMainAsset T} {n : ℕ} :
    ∀ {accounts : List (DistributionAccountData T)} {s s' : Storage T},
      (accounts.forM (BuyMainAsset.payShare P self n)).run s = (.ok u, s') →
        s'.issuance d = s.issuance d := by
  intro accounts
  induction accounts with
  | nil =>
      intro s s' h
      rw [← (Prod.mk.inj h).2]
  | cons data rest ih =>
      intro s s' h
      obtain ⟨s₁, hfirst, hrest⟩ := Tx.run_forM_cons_eq_ok.mp h
      rw [ih hrest]
      rw [BuyMainAsset.payShare] at hfirst
      obtain ⟨m, -, hpay⟩ := Tx.run_liftM_bind_eq_ok.mp hfirst
      cases haccount : data.account with
      | account account =>
          rw [haccount] at hpay
          exact issuance_of_transferFrom hM hpay
      | techAccount account =>
          rw [haccount] at hpay
          exact issuance_of_transferFrom hM
            (Technical.run_transfer_ok.mp hpay).2.2

/-- What the distribution burns of the main asset it mints again. -/
theorem issuance_of_distributeReserves (hM : T.currency.Lawful balanceModulus)
    (hdex : P.DexApiIssuesNothing) {self : BuyMainAsset T} {free : ℕ}
    (hout : self.outAssetId = T.getBaseAssetId)
    (h : (BuyMainAsset.distributeReserves P self free).run s = (.ok u, s')) :
    s'.issuance T.getBaseAssetId ≤ s.issuance T.getBaseAssetId := by
  rw [BuyMainAsset.distributeReserves, Tx.run_withTransaction_eq_ok] at h
  split_ifs at h with hfree
  · rw [← (Prod.mk.inj h).2]
  · obtain ⟨swapped, s₁, hswap, h⟩ := Tx.run_bind_eq_ok.mp h
    obtain ⟨_, s₂, hburn, h⟩ := Tx.run_bind_eq_ok.mp h
    obtain ⟨_, s₃, hmint, h⟩ := Tx.run_bind_eq_ok.mp h
    obtain ⟨_, s₄, hpay, h⟩ := Tx.run_bind_eq_ok.mp h
    obtain ⟨v, -, h⟩ := Tx.run_liftM_bind_eq_ok.mp h
    obtain ⟨bought, s₅, hbuy, hval⟩ := Tx.run_bind_eq_ok.mp h
    rw [hout] at hburn hmint
    have hswapped := hdex _ _ _ _ _ _ hswap
    have hburned := issuance_of_burnFrom hM (Technical.run_burn_ok.mp hburn).2
    have hminted := issuance_of_mintTo hM (Technical.run_mint_ok.mp hmint).2
    have hpaid := issuance_of_payShares hM (d := T.getBaseAssetId) hpay
    have hbought := hdex _ _ _ _ _ _ hbuy
    have hretired : s'.issuance T.getBaseAssetId ≤
        s₅.issuance T.getBaseAssetId := by
      obtain ⟨-, hbook⟩ :=
        Assets.book_of_burnFrom hM (Technical.run_burn_ok.mp hval).2
      rw [Storage.issuance, hbook]
      exact Book.issuance_retired_le
    omega

end Steps

/-! ## One trade -/

/-- What the pool relies on: a lawful ledger, and a DEX that takes from the reserves
what it is told to and issues none of the main asset. -/
structure Pool.Relies (P : Pool T) : Prop where
  keepsReserved : P.toEnvironment.KeepsReserved
  dexApiSettles : P.DexApiSettles
  dexApiIssuesNothing : P.DexApiIssuesNothing
  apportions : P.distributionAccounts.Apportions
  curve_eq : P.curve = .default
  assets_ne : P.usdt ≠ T.getBaseAssetId

/-- The fee stays out of what is handed over. -/
theorem net_le (hP : P.Relies) {output : ℕ} {o : SwapOutcome}
    (hcharges : P.curve.Charges output o.fee)
    (hamount : o.amount = wrappingSub output o.fee) :
    o.amount ≤ output := by
  rw [hamount, ← hcharges.net_eq, hP.curve_eq, default_net]
  exact Nat.sub_le _ _

/-- A purchase for the collateral keeps what is issued backed. -/
theorem backed_of_swap (hM : T.currency.Lawful balanceModulus)
    (hP : P.Relies) {self : BuyMainAsset T} {o : SwapOutcome} {shortfall : ℕ}
    (hin : self.inAssetId = P.usdt) (hout : self.outAssetId = T.getBaseAssetId)
    (hsender : self.fromAccountId ≠ P.reservesAccountId)
    (hbacked : P.Backed s shortfall)
    (h : (BuyMainAsset.swap P self).run s = (.ok o, s')) :
    P.Backed s' (shortfall + roundingLoss (s.issuance T.getBaseAssetId)) := by
  obtain ⟨free, input, output, s₁, s₂, hdeposit, hdistribute, hmint⟩ :=
    BuyMainAsset.run_swap_ok.mp h
  obtain ⟨hdecide, expected, hexpected, htaken, -, hfree⟩ :=
    BuyMainAsset.run_depositInput_ok.mp hdeposit
  obtain ⟨hcharges, hamount, hminted⟩ :=
    BuyMainAsset.run_mintOutput_ok.mp hmint
  rw [hout] at hdecide hexpected hminted
  -- the area that the purchase pays for
  have harea := area_of_purchase hP.curve_eq hdecide
  have hnet := net_le hP hcharges hamount
  -- what the reserves hold after each part
  have hdeposited := gains_of_deposit hM hP.keepsReserved hsender htaken P.usdt
  have hpaid := gains_of_distributeReserves hM hP.keepsReserved
    hP.dexApiSettles hP.apportions hdistribute P.usdt
  have hkept := gains_of_mintTo hM hP.keepsReserved hminted P.usdt
  rw [hin] at hdeposited hpaid hfree
  simp only [only, if_true, Pi.zero_apply] at hdeposited hpaid hkept
  -- what is issued after each part
  have hissued₁ : s₁.issuance T.getBaseAssetId = s.issuance T.getBaseAssetId :=
    issuance_of_transferFrom hM (Technical.run_transferIn_ok.mp htaken).2
  have hissued₂ := issuance_of_distributeReserves hM hP.dexApiIssuesNothing hout
    hdistribute
  have hissued := issuance_of_mintTo hM hminted
  have hmono : defaultSlope.floored (s'.issuance T.getBaseAssetId) ≤
      defaultSlope.floored (s.issuance T.getBaseAssetId + output) :=
    Slope.floored_mono (by omega)
  have hworth : expected.bits = defaultWorth (s.issuance T.getBaseAssetId) := by
    obtain ⟨-, hprice⟩ := Pool.priceForMainAsset_eq_ok.mp hexpected
    rw [hP.curve_eq] at hprice
    exact bits_of_everything hprice
  have hfifth := five_mul_freeAmount_le hfree
  rw [hworth] at hfifth
  unfold Pool.Backed defaultWorth roundingLoss at *
  generalize defaultSlope.floored (s'.issuance T.getBaseAssetId) = after at *
  generalize defaultSlope.floored (s.issuance T.getBaseAssetId + output) = upTo
    at *
  generalize defaultSlope.floored (s.issuance T.getBaseAssetId) = before at *
  generalize s.issuance T.getBaseAssetId / 10 ^ 18 = units at *
  rcases hfifth with hzero | hfifth
  · omega
  · omega

/-- A sale for the collateral keeps what is issued backed. -/
theorem backed_of_sellMainAsset (hM : T.currency.Lawful balanceModulus)
    (hP : P.Relies) {amount : SwapAmount} {sender receiver : T.AccountId}
    {o : SwapOutcome} {shortfall : ℕ} (hbacked : P.Backed s shortfall)
    (h : (P.sellMainAsset T.getBaseAssetId P.usdt amount sender receiver).run s =
      (.ok o, s')) :
    P.Backed s' (shortfall + roundingLoss (s.issuance T.getBaseAssetId)) := by
  obtain ⟨input, output, hdecide, hcharges, hamount, -, s₁, hpaid, hburned⟩ :=
    Pool.run_sellMainAsset_ok.mp h
  have hnet := net_le hP hcharges hamount
  have htransfer := (Technical.run_transferOut_ok.mp hpaid).2
  have hspent := gains_of_transferFrom hM hP.keepsReserved htransfer P.usdt
  have hkept := gains_of_burnFrom hM hP.keepsReserved hburned P.usdt
  simp only [only, if_true, if_neg hP.assets_ne] at hspent hkept
  have hissued₁ : s₁.issuance T.getBaseAssetId = s.issuance T.getBaseAssetId :=
    issuance_of_transferFrom hM htransfer
  have hissued := issuance_of_burnFrom hM hburned
  have harea := area_of_sale hP.curve_eq (by omega) hdecide
  have hrest : s.issuance T.getBaseAssetId - input =
      s'.issuance T.getBaseAssetId := by
    omega
  rw [hrest] at harea
  unfold Pool.Backed defaultWorth roundingLoss at *
  generalize defaultSlope.floored (s'.issuance T.getBaseAssetId) = after at *
  generalize defaultSlope.floored (s.issuance T.getBaseAssetId) = before at *
  generalize s.issuance T.getBaseAssetId / 10 ^ 18 = units at *
  omega

/-- Every exchange of the pool keeps what is issued backed. -/
theorem backed_of_exchange (hM : T.currency.Lawful balanceModulus)
    (hP : P.Relies) {sender receiver : T.AccountId} {dexId : T.DEXId}
    {inputAssetId outputAssetId : T.AssetId} {amount : SwapAmount}
    {o : SwapOutcome} {shortfall : ℕ} (hsender : sender ≠ P.reservesAccountId)
    (hbacked : P.Backed s shortfall)
    (h : (P.exchange sender receiver dexId inputAssetId outputAssetId
      amount).run s = (.ok o, s')) :
    P.Backed s' (shortfall + roundingLoss (s.issuance T.getBaseAssetId)) := by
  obtain ⟨-, hcan, h⟩ := Pool.run_exchange_ok.mp h
  simp only [Pool.canExchange, Bool.and_eq_true, Bool.or_eq_true,
    decide_eq_true_eq] at hcan
  rcases hcan.2 with ⟨hin, hout⟩ | ⟨hout, hin⟩
  · rw [hin, if_neg hP.assets_ne] at h
    exact backed_of_swap hM hP rfl hout hsender hbacked h
  · rw [hin, if_pos rfl, hout] at h
    exact backed_of_sellMainAsset hM hP hbacked h

/-- What everything issued is worth exceeds the shortfall a thousand times, so that
the fee on a sale of it makes up for the shortfall. -/
theorem sale_covered {shortfall quantity n fee : ℕ} (hcurve : P.curve = .default)
    (hbacked : P.Backed s shortfall)
    (hworth : 1000 * (shortfall + 1) ≤
      defaultWorth (s.issuance T.getBaseAssetId))
    (hle : quantity ≤ s.issuance T.getBaseAssetId)
    (hprice : Priced (P.priceForMainAsset s T.getBaseAssetId quantity .sell) n)
    (hcharges : P.curve.Charges n fee) :
    wrappingSub n fee ≤ P.total s P.usdt P.reservesAccountId := by
  obtain ⟨x, hx, hn⟩ := hprice
  obtain ⟨-, hx⟩ := Pool.priceForMainAsset_eq_ok.mp hx
  rw [hcurve] at hx
  have hproceeds := priced_main_sell hle ⟨x, hx, hn⟩
  rw [← hcharges.net_eq, hcurve, default_net]
  unfold Pool.Backed at hbacked
  unfold defaultWorth at *
  omega

/-! ## Runs of trades -/

/-- A trade with the pool by somebody who can sign. -/
structure Trade (T : Config) where
  sender : Signer T
  receiver : T.AccountId
  dexId : T.DEXId
  inputAssetId : T.AssetId
  outputAssetId : T.AssetId
  desiredAmount : SwapAmount

/-- A trade, or whatever else happens to the storage between two trades. -/
inductive CurveEvent (T : Config) where
  | trade (t : Trade T)
  | meanwhile (change : Storage T → Storage T)

def Trade.run (P : Pool T) (t : Trade T) (s : Storage T) :
    Except Failure SwapOutcome × Storage T :=
  (P.exchange t.sender.account t.receiver t.dexId t.inputAssetId
    t.outputAssetId t.desiredAmount).run s

/-- The storage after an event. -/
def Pool.after (P : Pool T) (s : Storage T) : CurveEvent T → Storage T
  | .trade t =>
      match t.run P s with
      | (.ok _, s') => s'
      | (.error (.error _), s') => s'
      | (.error .panic, _) => s
  | .meanwhile change => change s

/-- Between the trades nobody issues the main asset or takes from the reserves. -/
def Pool.Permits (P : Pool T) (s : Storage T) : CurveEvent T → Prop
  | .trade _ => True
  | .meanwhile change =>
      (change s).issuance T.getBaseAssetId ≤ s.issuance T.getBaseAssetId ∧
        P.total s P.usdt P.reservesAccountId ≤
          P.total (change s) P.usdt P.reservesAccountId

/-- What an event may round away. -/
def CurveEvent.loss (s : Storage T) : CurveEvent T → ℕ
  | .trade _ => roundingLoss (s.issuance T.getBaseAssetId)
  | .meanwhile _ => 0

/-- A trade that fails changes nothing. -/
theorem failsWithin_exchange {sender receiver : T.AccountId} {dexId : T.DEXId}
    {inputAssetId outputAssetId : T.AssetId} {amount : SwapAmount} :
    Tx.FailsWithin Eq (P.exchange sender receiver dexId inputAssetId
      outputAssetId amount) := by
  refine Tx.failsWithin_bind (Tx.keeps_liftM _) fun _ => ?_
  refine Tx.failsWithin_bind (Tx.keeps_liftM _) fun _ => ?_
  split_ifs
  · exact Tx.failsWithin_withTransaction _
  · exact Tx.failsWithin_withTransaction _

/-- A trade leaves the storage as it is, or succeeds. -/
theorem after_trade_cases (P : Pool T) (s : Storage T) (t : Trade T) :
    P.after s (.trade t) = s ∨
      ∃ o, t.run P s = (.ok o, P.after s (.trade t)) := by
  simp only [Pool.after]
  rcases hrun : t.run P s with ⟨(e | _) | o, s'⟩
  · exact Or.inl (failsWithin_exchange s _ s' hrun).symm
  · exact Or.inl rfl
  · exact Or.inr ⟨o, rfl⟩

theorem Pool.Backed.mono {shortfall more : ℕ} (h : P.Backed s shortfall)
    (hle : shortfall ≤ more) :
    P.Backed s more :=
  Nat.le_trans h (Nat.add_le_add_left hle _)

theorem defaultWorth_mono {m n : ℕ} (h : m ≤ n) :
    defaultWorth m ≤ defaultWorth n :=
  Nat.div_le_div_right (Nat.mul_le_mul_left 4 (Slope.floored_mono h))

/-- No event uncovers more than its rounding. -/
theorem Pool.Backed.after (hM : T.currency.Lawful balanceModulus)
    (hP : P.Relies) {event : CurveEvent T} {shortfall : ℕ}
    (h : P.Backed s shortfall) (hpermits : P.Permits s event) :
    P.Backed (P.after s event) (shortfall + event.loss s) := by
  cases event with
  | trade t =>
      have hsender : t.sender.account ≠ P.reservesAccountId :=
        (t.sender.notTechnical P.reservesAcc).symm
      rcases after_trade_cases P s t with hsame | ⟨o, hrun⟩
      · rw [hsame]
        exact h.mono (Nat.le_add_right _ _)
      · exact backed_of_exchange hM hP hsender h hrun
  | meanwhile change =>
      obtain ⟨hissued, hkept⟩ := hpermits
      have hworth := defaultWorth_mono hissued
      unfold Pool.Backed at h ⊢
      change defaultWorth ((change s).issuance T.getBaseAssetId) ≤
        P.total (change s) P.usdt P.reservesAccountId + (shortfall + 0)
      omega

end BondingCurvePool

namespace Mock

open BondingCurvePool

theorem curvePool_relies : curvePool.Relies where
  keepsReserved := curvePool_keepsReserved
  dexApiSettles := curvePool_dexApiSettles
  dexApiIssuesNothing := by
    intro s s' input output n o h
    obtain ⟨_, s₁, hpay, h⟩ := Tx.run_bind_eq_ok.mp h
    obtain ⟨_, _, hreceive, hpure⟩ := Tx.run_bind_eq_ok.mp h
    cases hpure
    rw [issuance_of_transferFrom currency_lawful hreceive,
      issuance_of_transferFrom currency_lawful hpay]
  apportions := distributionAccounts_apportions
  curve_eq := rfl
  assets_ne := by decide

/-- Alice buys a unit for Bob, which distributes some of the reserves, and sells one
later. -/
def curveEvents : List (CurveEvent runtime) :=
  [.trade ⟨alice, bob.account, dexA, redPepper, goldenTicket,
      .withDesiredOutput unit (200 * unit)⟩,
    .meanwhile id,
    .trade ⟨alice, bob.account, dexA, goldenTicket, redPepper,
      .withDesiredInput unit 0⟩]

@[irreducible] def tradedCurve : Storage runtime :=
  runAll curvePool.after (curveGenesis largeReserves) curveEvents

theorem curveEvents_permitted :
    Along curvePool.after curvePool.Permits (curveGenesis largeReserves)
      curveEvents :=
  ⟨trivial, ⟨le_rfl, le_rfl⟩, trivial, trivial⟩

theorem curveGenesis_backed : curvePool.Backed (curveGenesis largeReserves) 0 := by
  unfold Pool.Backed
  decide +kernel

end Mock

namespace BondingCurvePool

variable {T : Config} {P : Pool T} {s s' : Storage T}

/-- However the pool is traded with, its reserves cover what everything issued sells
for, up to what the trades have rounded. -/
theorem issued_stays_backed (hM : T.currency.Lawful balanceModulus)
    (hP : P.Relies) {events : List (CurveEvent T)} {shortfall : ℕ}
    (hstart : P.Backed s shortfall)
    (hevents : Along P.after P.Permits s events) :
    P.Backed (runAll P.after s events)
      (shortfall + totalAlong P.after (fun s event => event.loss s) s events) :=
  runAll_total_invariant (fun _ _ _ h hpermits => h.after hM hP hpermits)
    events s shortfall hstart hevents

theorem issued_stays_backed_sample :
    Mock.curvePool.Backed
      (runAll Mock.curvePool.after (Mock.curveGenesis Mock.largeReserves)
        Mock.curveEvents)
      (0 + totalAlong Mock.curvePool.after (fun s event => event.loss s)
        (Mock.curveGenesis Mock.largeReserves) Mock.curveEvents) :=
  issued_stays_backed Mock.currency_lawful Mock.curvePool_relies
    Mock.curveGenesis_backed Mock.curveEvents_permitted

/-- As long as what is issued is worth a thousand times as much as the trades have
rounded, whatever part of it is sold is in the reserves. -/
theorem every_sale_covered (hM : T.currency.Lawful balanceModulus)
    (hP : P.Relies) {events : List (CurveEvent T)}
    {shortfall quantity n fee : ℕ} (hstart : P.Backed s shortfall)
    (hevents : Along P.after P.Permits s events)
    (hend : s' = runAll P.after s events)
    (hworth : 1000 * (shortfall +
        totalAlong P.after (fun s event => event.loss s) s events + 1) ≤
      defaultWorth (s'.issuance T.getBaseAssetId))
    (hle : quantity ≤ s'.issuance T.getBaseAssetId)
    (hprice : Priced (P.priceForMainAsset s' T.getBaseAssetId quantity .sell) n)
    (hcharges : P.curve.Charges n fee) :
    wrappingSub n fee ≤ P.total s' P.usdt P.reservesAccountId := by
  have hbacked := runAll_total_invariant
    (fun _ _ _ h hpermits => h.after hM hP hpermits) events s shortfall hstart
    hevents
  rw [← hend] at hbacked
  exact sale_covered hP.curve_eq hbacked hworth hle hprice hcharges

theorem every_sale_covered_sample :
    wrappingSub 92239999198400000000 92239999198400000 ≤
      Mock.curvePool.total Mock.tradedCurve Mock.redPepper
        Mock.curvePool.reservesAccountId :=
  every_sale_covered Mock.currency_lawful Mock.curvePool_relies
    Mock.curveGenesis_backed Mock.curveEvents_permitted
    (by unfold Mock.tradedCurve; rfl) (by decide +kernel)
    (show Mock.unit ≤ _ by decide +kernel)
    ⟨⟨92239999198400000000, by decide⟩, by decide +kernel, rfl⟩
    ⟨by decide, by decide +kernel, by decide⟩

end BondingCurvePool
end SoraParachain

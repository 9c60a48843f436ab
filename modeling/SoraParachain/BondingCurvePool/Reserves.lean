import SoraParachain.BondingCurvePool.Exchange
import SoraParachain.BondingCurvePool.Mock

/-!
# What a purchase leaves in the reserves

Every step of a purchase changes what the reserves hold by a known amount of each
asset at least.  Adding the steps up, the distribution costs no more than the
free amount of the collateral: what it swaps, burns, mints and pays in the other
assets cancels out, as the floored shares do not exceed the whole.
-/

namespace SoraParachain
namespace BondingCurvePool

variable {T : Config} {P : Pool T} {s s₁ s₂ s' : Storage T}

open Technical (techAccountIdToAccountId)

/-- Moving, minting and burning leaves alone what is reserved. -/
structure Environment.KeepsReserved (E : Environment T) : Prop where
  transfer : ∀ {c source dest n l l'},
    T.currency.transfer c source dest n l = .ok l' →
      E.reservedBalance l' = E.reservedBalance l
  deposit : ∀ {c who n l l'}, T.currency.deposit c who n l = .ok l' →
    E.reservedBalance l' = E.reservedBalance l
  withdraw : ∀ {c who n l l'}, T.currency.withdraw c who n l = .ok l' →
    E.reservedBalance l' = E.reservedBalance l

/-- The DEX API takes its desired input from the reserves and gives them what it
returns, and nothing else that they hold changes. -/
def Pool.DexApiSettles (P : Pool T) : Prop :=
  ∀ (s s' : Storage T) (input output : T.AssetId) (n : ℕ) (o : SwapOutcome),
    (P.dexApiExchange P.reservesAccountId P.reservesAccountId P.polkaswap
      input output (.withDesiredInput n 0)).run s = (.ok o, s') →
    ∀ d, P.total s' d P.reservesAccountId + (if d = input then n else 0) =
      P.total s d P.reservesAccountId + if d = output then o.amount else 0

/-- The coefficients of all six accounts. -/
def DistributionAccounts.coefficients (accounts : DistributionAccounts T) :
    List ℤ :=
  accounts.xorDistributionAsArray.map (fun data => data.coefficient.bits) ++
    [accounts.valHolders.coefficient.bits]

/-- The coefficients are shares of a whole. -/
structure DistributionAccounts.Apportions (accounts : DistributionAccounts T) :
    Prop where
  nonneg : ∀ c ∈ accounts.coefficients, 0 ≤ c
  sum_le : accounts.coefficients.sum ≤ fixedFormat.scale

/-! ## Changes of the reserves -/

/-- Of every asset the reserves gain at least so much. -/
def Pool.Gains (P : Pool T) (s s' : Storage T) (δ : T.AssetId → ℤ) : Prop :=
  ∀ d, (P.total s d P.reservesAccountId : ℤ) + δ d ≤
    P.total s' d P.reservesAccountId

/-- So much of one asset, and nothing of the others. -/
def only (assetId : T.AssetId) (n : ℤ) : T.AssetId → ℤ :=
  fun d => if d = assetId then n else 0

theorem Pool.gains_refl (P : Pool T) (s : Storage T) : P.Gains s s 0 := by
  intro d
  simp

theorem Pool.Gains.trans {δ ε : T.AssetId → ℤ} (h : P.Gains s s₁ δ)
    (h' : P.Gains s₁ s₂ ε) :
    P.Gains s s₂ (δ + ε) := by
  intro d
  have hfirst := h d
  have hsecond := h' d
  rw [Pi.add_apply]
  omega

theorem Pool.Gains.mono {δ ε : T.AssetId → ℤ} (h : P.Gains s s' δ)
    (hle : ∀ d, ε d ≤ δ d) :
    P.Gains s s' ε := by
  intro d
  have hchange := h d
  have hd := hle d
  omega

section Steps

variable {assetId : T.AssetId} {source dest issuer who : T.AccountId}
variable {techDest : TechAccountIdOf T} {amount : ℕ} {u : Unit}

/-- A transfer costs the reserves its amount at most. -/
theorem gains_of_transferFrom (hM : T.currency.Lawful balanceModulus)
    (hE : P.toEnvironment.KeepsReserved)
    (h : (Assets.transferFrom assetId source dest amount).run s =
      (.ok u, s')) :
    P.Gains s s' (only assetId (-amount)) := by
  obtain ⟨-, hbook⟩ := Assets.book_of_transferFrom hM h
  obtain ⟨-, -, l, hl, rfl⟩ := Assets.run_transferFrom_ok.mp h
  intro d
  have hreserved := hE.transfer hl
  have hfree : s.free d P.reservesAccountId ≤
      (s.book.moved assetId source dest amount).free d P.reservesAccountId +
        if assetId = d ∧ source = P.reservesAccountId then amount else 0 :=
    Book.free_le_free_moved_add
  rw [← hbook] at hfree
  change s.free d P.reservesAccountId ≤
    Storage.free { s with ledger := l } d P.reservesAccountId + _ at hfree
  simp only [Pool.total, only, hreserved]
  by_cases heq : d = assetId
  · have hcost : (if assetId = d ∧ source = P.reservesAccountId then amount
        else 0) ≤ amount := by
      split_ifs
      · exact le_rfl
      · exact Nat.zero_le amount
    rw [if_pos heq]
    push_cast
    omega
  · rw [if_neg fun hboth => heq hboth.1.symm] at hfree
    rw [if_neg heq]
    push_cast
    omega

/-- What goes to the reserves costs them nothing. -/
theorem gains_of_transferIn (hM : T.currency.Lawful balanceModulus)
    (hE : P.toEnvironment.KeepsReserved)
    (h : (Technical.transferIn assetId source P.reservesAcc amount).run s =
      (.ok u, s')) :
    P.Gains s s' 0 := by
  have htransfer := (Technical.run_transferIn_ok.mp h).2
  obtain ⟨-, hbook⟩ := Assets.book_of_transferFrom hM htransfer
  obtain ⟨-, -, l, hl, rfl⟩ := Assets.run_transferFrom_ok.mp htransfer
  intro d
  have hreserved := hE.transfer hl
  have hfree : s.free d P.reservesAccountId ≤
      Storage.free { s with ledger := l } d P.reservesAccountId := by
    rw [Storage.free, Storage.free, hbook]
    by_cases hself : source = P.reservesAccountId
    · rw [hself]
      exact Book.free_moved_self.ge
    · exact Book.free_le_free_moved (Ne.symm hself)
  simp only [Pool.total, hreserved, Pi.zero_apply]
  push_cast
  omega

/-- A mint for the reserves adds its amount. -/
theorem gains_of_mint (hM : T.currency.Lawful balanceModulus)
    (hE : P.toEnvironment.KeepsReserved)
    (h : (Technical.mint assetId P.reservesAcc amount).run s = (.ok u, s')) :
    P.Gains s s' (only assetId amount) := by
  have hmint := (Technical.run_mint_ok.mp h).2
  have hbook := Assets.book_of_mintTo hM hmint
  obtain ⟨-, -, -, l, hl, rfl⟩ := Assets.run_mintTo_ok.mp hmint
  intro d
  have hreserved := hE.deposit hl
  simp only [Pool.total, only, hreserved]
  split_ifs with heq
  · subst heq
    have hfree : Storage.free { s with ledger := l } d P.reservesAccountId =
        s.free d P.reservesAccountId + amount := by
      rw [Storage.free, hbook]
      exact Book.free_issued_self
    push_cast [hfree]
    omega
  · have hfree : Storage.free { s with ledger := l } d P.reservesAccountId =
        s.free d P.reservesAccountId := by
      rw [Storage.free, hbook]
      exact Book.free_issued_of_ne_currency heq
    push_cast [hfree]
    omega

/-- Minting for anybody costs the reserves nothing. -/
theorem gains_of_mintTo (hM : T.currency.Lawful balanceModulus)
    (hE : P.toEnvironment.KeepsReserved)
    (h : (Assets.mintTo assetId issuer who amount).run s = (.ok u, s')) :
    P.Gains s s' 0 := by
  have hbook := Assets.book_of_mintTo hM h
  obtain ⟨-, -, -, l, hl, rfl⟩ := Assets.run_mintTo_ok.mp h
  intro d
  have hreserved := hE.deposit hl
  have hfree : s.free d P.reservesAccountId ≤
      Storage.free { s with ledger := l } d P.reservesAccountId := by
    rw [Storage.free, Storage.free, hbook]
    exact Book.free_le_free_issued
  simp only [Pool.total, hreserved, Pi.zero_apply]
  push_cast
  omega

/-- A burn of what the reserves hold costs them its amount. -/
theorem gains_of_burn (hM : T.currency.Lawful balanceModulus)
    (hE : P.toEnvironment.KeepsReserved)
    (h : (Technical.burn assetId P.reservesAcc amount).run s = (.ok u, s')) :
    P.Gains s s' (only assetId (-amount)) := by
  have hburn := (Technical.run_burn_ok.mp h).2
  obtain ⟨-, hbook⟩ := Assets.book_of_burnFrom hM hburn
  obtain ⟨-, -, l, hl, rfl⟩ := Assets.run_burnFrom_ok.mp hburn
  intro d
  have hreserved := hE.withdraw hl
  simp only [Pool.total, only, hreserved]
  split_ifs with heq
  · subst heq
    have hfree : Storage.free { s with ledger := l } d P.reservesAccountId =
        s.free d P.reservesAccountId - amount := by
      rw [Storage.free, hbook]
      exact Book.free_retired_self
    push_cast [hfree]
    omega
  · have hfree : Storage.free { s with ledger := l } d P.reservesAccountId =
        s.free d P.reservesAccountId := by
      rw [Storage.free, hbook]
      exact Book.free_retired_of_ne_currency heq
    push_cast [hfree]
    omega

theorem gains_of_dexApi {input output : T.AssetId} {n : ℕ} {o : SwapOutcome}
    (hdex : P.DexApiSettles)
    (h : (P.dexApiExchange P.reservesAccountId P.reservesAccountId P.polkaswap
      input output (.withDesiredInput n 0)).run s = (.ok o, s')) :
    P.Gains s s' (only output o.amount - only input n) := by
  intro d
  have hd := hdex s s' input output n o h d
  simp only [only, Pi.sub_apply]
  split_ifs at hd ⊢
  all_goals omega

end Steps

/-! ## The distribution -/

/-- A fixed-point product of numbers that are not negative is at most the one if
the other is at most one. -/
theorem fdiv_scale_le {z w : ℤ} (hz : 0 ≤ z) (hw : w ≤ fixedFormat.scale) :
    (z * w).fdiv fixedFormat.scale ≤ z := by
  have hscale : (0 : ℤ) < fixedFormat.scale := by
    exact_mod_cast fixedFormat.scale_pos
  rw [Int.fdiv_eq_ediv_of_nonneg _ hscale.le]
  have hle : z * w ≤ z * fixedFormat.scale := Int.mul_le_mul_of_nonneg_left hw hz
  exact Int.ediv_le_of_le_mul hscale hle

namespace BuyMainAsset

variable {self : BuyMainAsset T} {n free reserves : ℕ} {u : Unit}

/-- The free amount is never more than the excess. -/
theorem freeAmount_le {expected : FixedNumber}
    (h : freeAmount reserves expected = .ok free) :
    free = 0 ∨ (free : ℤ) ≤ reserves - expected.bits := by
  unfold freeAmount at h
  dsimp only at h
  split_ifs at h with hless
  · right
    obtain ⟨x, y, hx, hy, hlt⟩ := FixedWrapper.less_iff.mp hless
    rw [FixedWrapper.holds_ofFixed] at hx
    obtain ⟨hy, -⟩ := FixedWrapper.holds_ofBalance.mp hy
    rw [orCalculatePriceFailed_eq_ok, FixedWrapper.tryIntoBalance_eq_ok,
      FixedWrapper.holds_mulFixed] at h
    obtain ⟨z, w, hz, hw, hfree, -⟩ := FixedWrapper.holds_mul.mp h
    obtain ⟨a, b, ha, hb, hdiff, -⟩ := FixedWrapper.holds_sub.mp hz
    obtain ⟨ha, -⟩ := FixedWrapper.holds_ofBalance.mp ha
    rw [FixedWrapper.holds_ofFixed] at hb hw
    rw [ha, hb] at hdiff
    have hnonneg : 0 ≤ z := by
      omega
    have hcoefficient : w ≤ fixedFormat.scale := by
      rw [hw]
      decide
    rw [hfree, ← hdiff]
    exact fdiv_scale_le hnonneg hcoefficient
  · left
    exact (Except.ok.inj h).symm

theorem share_eq_ok {coefficient : FixedNumber} {m : ℕ}
    (hnonneg : 0 ≤ coefficient.bits) (h : share n coefficient = .ok m) :
    m = flooredPart fixedFormat.scale n coefficient.bits.toNat := by
  rw [share, orCalculatePriceFailed_eq_ok, FixedWrapper.tryIntoBalance_eq_ok,
    FixedWrapper.holds_mulFixed] at h
  obtain ⟨x, y, hx, hy, hm, -⟩ := FixedWrapper.holds_mul.mp h
  obtain ⟨hx, -⟩ := FixedWrapper.holds_ofBalance.mp hx
  rw [FixedWrapper.holds_ofFixed] at hy
  have hcast : y = (coefficient.bits.toNat : ℤ) := by
    rw [hy]
    exact (Int.toNat_of_nonneg hnonneg).symm
  rw [hx, hcast, Int.mul_comm, ← Int.natCast_mul] at hm
  have hfloor : (m : ℤ) =
      ((coefficient.bits.toNat * n / fixedFormat.scale : ℕ) : ℤ) :=
    hm.trans (Int.ofNat_fdiv _ _).symm
  exact_mod_cast hfloor

/-- Paying a share costs the reserves the share at most. -/
theorem gains_of_payShare (hM : T.currency.Lawful balanceModulus)
    (hE : P.toEnvironment.KeepsReserved) {data : DistributionAccountData T}
    (hnonneg : 0 ≤ data.coefficient.bits)
    (h : (payShare P self n data).run s = (.ok u, s')) :
    P.Gains s s' (only self.outAssetId
      (-flooredPart fixedFormat.scale n data.coefficient.bits.toNat)) := by
  rw [payShare] at h
  obtain ⟨m, hm, h⟩ := Tx.run_liftM_bind_eq_ok.mp h
  have hshare := share_eq_ok hnonneg hm
  rw [← hshare]
  cases haccount : data.account with
  | account account =>
      rw [haccount] at h
      exact gains_of_transferFrom hM hE h
  | techAccount account =>
      rw [haccount] at h
      exact gains_of_transferFrom hM hE (Technical.run_transfer_ok.mp h).2.2

/-- Paying the shares one after the other costs the reserves their sum. -/
theorem gains_of_payShares (hM : T.currency.Lawful balanceModulus)
    (hE : P.toEnvironment.KeepsReserved) :
    ∀ {accounts : List (DistributionAccountData T)} {s s' : Storage T},
      (∀ data ∈ accounts, 0 ≤ data.coefficient.bits) →
      (accounts.forM (payShare P self n)).run s = (.ok u, s') →
        P.Gains s s' (only self.outAssetId
          (-flooredSum fixedFormat.scale n
            (accounts.map fun data => data.coefficient.bits.toNat))) := by
  intro accounts
  induction accounts with
  | nil =>
      intro s s' _ h
      have hs : s = s' := (Prod.mk.inj h).2
      rw [← hs]
      apply (P.gains_refl s).mono
      intro d
      simp [only]
  | cons data rest ih =>
      intro s s' hnonneg h
      obtain ⟨s₁, hfirst, hrest⟩ := Tx.run_forM_cons_eq_ok.mp h
      have hpaid := gains_of_payShare hM hE
        (hnonneg data List.mem_cons_self) hfirst
      have hothers := ih
        (fun other hother => hnonneg other (List.mem_cons_of_mem data hother))
        hrest
      apply (hpaid.trans hothers).mono
      intro d
      rw [List.map_cons, flooredSum_cons]
      simp only [only, Pi.add_apply]
      split_ifs
      · push_cast
        omega
      · omega

end BuyMainAsset

/-- The shares of all six accounts never exceed what is shared. -/
theorem shares_le {accounts : DistributionAccounts T} (n : ℕ)
    (h : accounts.Apportions) :
    flooredSum fixedFormat.scale n (accounts.xorDistributionAsArray.map
        fun data => data.coefficient.bits.toNat) +
      flooredPart fixedFormat.scale n
        accounts.valHolders.coefficient.bits.toNat ≤ n := by
  have hsum : ∀ xs : List ℤ, (∀ c ∈ xs, 0 ≤ c) →
      ((xs.map Int.toNat).sum : ℤ) = xs.sum := by
    intro xs
    induction xs with
    | nil =>
        intro _
        rfl
    | cons c rest ih =>
        intro hnonneg
        have hrest := ih fun d hd => hnonneg d (List.mem_cons_of_mem c hd)
        have hc : ((Int.toNat c : ℕ) : ℤ) = c :=
          Int.toNat_of_nonneg (hnonneg c List.mem_cons_self)
        rw [List.map_cons, List.sum_cons, List.sum_cons, Nat.cast_add, hc,
          hrest]
  have hall : (accounts.coefficients.map Int.toNat).sum ≤
      fixedFormat.scale := by
    have hcast := hsum accounts.coefficients h.nonneg
    have hle := h.sum_le
    rw [← hcast] at hle
    exact_mod_cast hle
  have happend : flooredSum fixedFormat.scale n
        (accounts.coefficients.map Int.toNat) =
      flooredSum fixedFormat.scale n (accounts.xorDistributionAsArray.map
          fun data => data.coefficient.bits.toNat) +
        flooredPart fixedFormat.scale n
          accounts.valHolders.coefficient.bits.toNat := by
    simp [DistributionAccounts.coefficients, flooredSum, Function.comp_def]
  rw [← happend]
  exact flooredSum_le fixedFormat.scale_pos hall

/-- The distribution costs the reserves the free amount at most. -/
theorem gains_of_distributeReserves (hM : T.currency.Lawful balanceModulus)
    (hE : P.toEnvironment.KeepsReserved) (hdex : P.DexApiSettles)
    (hshares : P.distributionAccounts.Apportions) {self : BuyMainAsset T}
    {free : ℕ} {u : Unit}
    (h : (BuyMainAsset.distributeReserves P self free).run s = (.ok u, s')) :
    P.Gains s s' (only self.inAssetId (-free)) := by
  rw [BuyMainAsset.distributeReserves, Tx.run_withTransaction_eq_ok] at h
  split_ifs at h with hfree
  · have hs : s = s' := (Prod.mk.inj h).2
    rw [← hs, hfree]
    apply (P.gains_refl s).mono
    intro d
    simp [only]
  · obtain ⟨swapped, s₁, hswap, h⟩ := Tx.run_bind_eq_ok.mp h
    obtain ⟨_, s₂, hburn, h⟩ := Tx.run_bind_eq_ok.mp h
    obtain ⟨_, s₃, hmint, h⟩ := Tx.run_bind_eq_ok.mp h
    obtain ⟨_, s₄, hpay, h⟩ := Tx.run_bind_eq_ok.mp h
    obtain ⟨v, hv, h⟩ := Tx.run_liftM_bind_eq_ok.mp h
    obtain ⟨bought, s₅, hbuy, hval⟩ := Tx.run_bind_eq_ok.mp h
    have hnonneg : ∀ data ∈ P.distributionAccounts.xorDistributionAsArray,
        0 ≤ data.coefficient.bits := by
      intro data hdata
      exact hshares.nonneg _ (List.mem_append_left _
        (List.mem_map_of_mem hdata))
    have hlast : 0 ≤ P.distributionAccounts.valHolders.coefficient.bits :=
      hshares.nonneg _ (List.mem_append_right _ List.mem_cons_self)
    have hspent := shares_le swapped.amount hshares
    rw [← BuyMainAsset.share_eq_ok hlast hv] at hspent
    have hgains :=
      (gains_of_dexApi hdex hswap).trans <|
      (gains_of_burn hM hE hburn).trans <|
      (gains_of_mint hM hE hmint).trans <|
      (BuyMainAsset.gains_of_payShares hM hE hnonneg hpay).trans <|
      (gains_of_dexApi hdex hbuy).trans (gains_of_burn hM hE hval)
    apply hgains.mono
    intro d
    simp only [only, Pi.add_apply, Pi.sub_apply]
    generalize flooredSum fixedFormat.scale swapped.amount
      (P.distributionAccounts.xorDistributionAsArray.map
        fun data => data.coefficient.bits.toNat) = paid at hspent ⊢
    split_ifs
    all_goals omega

/-! ## Purchases -/

/-- The reserves keep at least the lesser of what they held after the input and
of what everything before the purchase would have sold for; of the main asset and
of `VAL` they hold no less than before. -/
def BuyMainAsset.KeepsReserves (P : Pool T) (self : BuyMainAsset T)
    (s s' : Storage T) : Prop :=
  ∃ deposit s₁ reservesExpected,
    (BuyMainAsset.depositInput P self).run s = (.ok deposit, s₁) ∧
      P.priceForMainAsset s self.outAssetId (s.issuance self.outAssetId)
          .sell = .ok reservesExpected ∧
      min (P.total s₁ self.inAssetId P.reservesAccountId : ℤ)
          reservesExpected.bits ≤
        P.total s' self.inAssetId P.reservesAccountId ∧
      (self.outAssetId ≠ self.inAssetId →
        P.total s self.outAssetId P.reservesAccountId ≤
          P.total s' self.outAssetId P.reservesAccountId) ∧
      (P.val ≠ self.inAssetId →
        P.total s P.val P.reservesAccountId ≤
          P.total s' P.val P.reservesAccountId)

/-- A purchase does not drain the reserves. -/
theorem reserves_not_drained (hM : T.currency.Lawful balanceModulus)
    (hE : P.toEnvironment.KeepsReserved) (hdex : P.DexApiSettles)
    (hshares : P.distributionAccounts.Apportions) {self : BuyMainAsset T}
    {o : SwapOutcome}
    (h : (BuyMainAsset.swap P self).run s = (.ok o, s')) :
    self.KeepsReserves P s s' := by
  obtain ⟨free, input, output, s₁, s₂, hdeposit, hdistribute, hmint⟩ :=
    BuyMainAsset.run_swap_ok.mp h
  obtain ⟨-, expected, hexpected, hin, -, hfree⟩ :=
    BuyMainAsset.run_depositInput_ok.mp hdeposit
  have hdistributed :=
    gains_of_distributeReserves hM hE hdex hshares hdistribute
  have hminted : P.Gains s₂ s' 0 :=
    gains_of_mintTo hM hE (BuyMainAsset.run_mintOutput_ok.mp hmint).2.2
  have hafter := hdistributed.trans hminted
  have hwhole := (gains_of_transferIn hM hE hin).trans hafter
  have hkept : ∀ d, d ≠ self.inAssetId →
      P.total s d P.reservesAccountId ≤ P.total s' d P.reservesAccountId := by
    intro d hd
    have hgain := hwhole d
    simp only [only, Pi.add_apply, Pi.zero_apply, if_neg hd] at hgain
    omega
  refine ⟨_, s₁, expected, hdeposit, hexpected, ?_, hkept _, hkept _⟩
  have hgain := hafter self.inAssetId
  simp only [only, Pi.add_apply, Pi.zero_apply, if_true] at hgain
  rcases BuyMainAsset.freeAmount_le hfree with hzero | hle
  · rw [min_le_iff]
    left
    omega
  · rw [min_le_iff]
    right
    omega

end BondingCurvePool

/-! ## A purchase that distributes -/

namespace Mock

open BondingCurvePool

theorem curvePool_keepsReserved : curvePool.toEnvironment.KeepsReserved where
  transfer _ := rfl
  deposit _ := rfl
  withdraw _ := rfl

theorem curvePool_dexApiSettles : curvePool.DexApiSettles := by
  intro s s' input output n o h d
  have hne : curvePool.reservesAccountId ≠ dexMarket := by
    decide +kernel
  obtain ⟨_, s₁, hpay, h⟩ := Tx.run_bind_eq_ok.mp h
  obtain ⟨_, _, hreceive, hpure⟩ := Tx.run_bind_eq_ok.mp h
  cases hpure
  obtain ⟨hcovered, hpaid⟩ := Assets.book_of_transferFrom currency_lawful hpay
  obtain ⟨-, hreceived⟩ :=
    Assets.book_of_transferFrom currency_lawful hreceive
  have hle : n ≤ s.free input curvePool.reservesAccountId :=
    hcovered.resolve_left hne
  have hfirst : s₁.free d curvePool.reservesAccountId +
      (if d = input then n else 0) = s.free d curvePool.reservesAccountId := by
    split_ifs with heq
    · subst heq
      rw [Storage.free, hpaid, Book.free_moved_source hne]
      exact Nat.sub_add_cancel hle
    · rw [Storage.free, hpaid, Book.free_moved_of_ne_currency heq]
      rfl
  have hsecond : s'.free d curvePool.reservesAccountId =
      s₁.free d curvePool.reservesAccountId +
        if d = output then n / 100 else 0 := by
    split_ifs with heq
    · subst heq
      rw [Storage.free, hreceived, Book.free_moved_dest hne.symm]
      rfl
    · rw [Storage.free, hreceived, Book.free_moved_of_ne_currency heq]
      rfl
  change s'.free d curvePool.reservesAccountId + 0 + _ =
    s.free d curvePool.reservesAccountId + 0 + _
  rw [hsecond, ← hfirst]
  dsimp only
  omega

theorem distributionAccounts_apportions :
    distributionAccounts.Apportions where
  nonneg := by decide
  sum_le := by decide

/-- More than the price of everything. -/
def largeReserves : ℕ := 8 * 10 ^ 8 * unit

def fullPurchase : BuyMainAsset runtime :=
  ⟨redPepper, goldenTicket, .withDesiredOutput unit (200 * unit),
    alice.account, bob.account⟩

end Mock

namespace BondingCurvePool

theorem reserves_not_drained_fullPurchase :
    Mock.fullPurchase.KeepsReserves Mock.curvePool
      (Mock.curveGenesis Mock.largeReserves)
      ((BuyMainAsset.swap Mock.curvePool Mock.fullPurchase).run
        (Mock.curveGenesis Mock.largeReserves)).2 :=
  reserves_not_drained Mock.currency_lawful Mock.curvePool_keepsReserved
    Mock.curvePool_dexApiSettles Mock.distributionAccounts_apportions
    (o := ⟨999 * 10 ^ 15, 10 ^ 15⟩) (Prod.ext (by decide +kernel) rfl)

end BondingCurvePool
end SoraParachain

import SoraParachain.Library.Audit
import SoraParachain.PoolXyk.Conservation
import SoraParachain.PoolXyk.MarkerSupply
import SoraParachain.PoolXyk.PoolLifetime

/-!
# The balance sheet of a run

Registrations, mints and deposits issue; burns and withdrawals retire.  Whatever
is called in whatever order, the accounts that take part hold what they held
before plus what was issued less what was retired, the issuance changes by the
same amount, and no other account notices.
-/

namespace SoraParachain

variable {T : Config}

open Technical (techAccountIdToAccountId performCreateSwap)

namespace PoolXyk

/-! ## What the calls issue, retire and touch -/

/-- The action of the pool that a call builds or submits. -/
def actionOf (s : Storage T) : Call T → Option (PolySwapAction T)
  | .depositLiquidity dexId assetA assetB aDesired bDesired aMin bMin =>
      match techAccountFromDexAndAssetPair s dexId assetA assetB with
      | .ok (_, techAcc) =>
          (T.techAssetIdTryFrom (markingAssetId techAcc)).map fun mark =>
            .depositLiquidity (depositAction techAcc assetA assetB aDesired
              bDesired aMin bMin mark)
      | .error _ => none
  | .withdrawLiquidity dexId assetA assetB k aMin bMin =>
      match techAccountFromDexAndAssetPair s dexId assetA assetB with
      | .ok (_, techAcc) =>
          (T.techAssetIdTryFrom (markingAssetId techAcc)).map fun mark =>
            .withdrawLiquidity (withdrawAction techAcc assetA assetB k aMin
              bMin mark)
      | .error _ => none
  | .swapPair receiver dexId inputAssetId outputAssetId swapAmount =>
      match techAccountFromDexAndAssetPair s dexId inputAssetId
          outputAssetId with
      | .ok (_, techAcc) =>
          some (.pairSwap (exchangeAction receiver techAcc inputAssetId
            outputAssetId swapAmount))
      | .error _ => none
  | .createSwap action => some action
  | _ => none

namespace PolySwapAction

/-- What an action signed by `w` issues of an asset. -/
def issues (s : Storage T) (w : T.AccountId) (c : T.AssetId) :
    PolySwapAction T → ℕ
  | .depositLiquidity a => if c = a.marker then mintedTokens s a w else 0
  | _ => 0

/-- What an action retires of an asset. -/
def retires (c : T.AssetId) : PolySwapAction T → ℕ
  | .withdrawLiquidity a =>
      if c = a.marker then a.source.amount.toOption.getD 0 else 0
  | _ => 0

/-- The accounts whose balances an action signed by `w` may change. -/
def parties (action : PolySwapAction T) (w : T.AccountId) : List T.AccountId :=
  w :: techAccountIdToAccountId action.poolAccount ::
    (action.receivers w ++
      (action.poolAccount.toFeeAccount.map techAccountIdToAccountId).toList)

/-- An action signed by `w` was validated and leaves the books as settled. -/
def Settled (w : T.AccountId) (s s' : Storage T) : PolySwapAction T → Prop
  | .pairSwap a => ∃ t, a.Settles s w t s'.ledger
  | .depositLiquidity a =>
      a.isAbstractChecking = false ∧ ∃ t l, a.Settles s w t l s'.ledger
  | .withdrawLiquidity a => ∃ t l, a.Settles s w t l s'.ledger

end PolySwapAction

end PoolXyk

open PoolXyk (actionOf)

namespace Extrinsic

/-- What an extrinsic issues of an asset. -/
def issues (c : T.AssetId) (s : Storage T) (x : Extrinsic T) : ℕ :=
  if x.Succeeds s then
    match x.2 with
    | .assetsRegister _ _ initialSupply _ =>
        if c = Assets.genAssetId s x.1.account then initialSupply else 0
    | .assetsMint assetId _ amount => if c = assetId then amount else 0
    | call => ((actionOf s call).map (·.issues s x.1.account c)).getD 0
  else 0

/-- What an extrinsic retires of an asset. -/
def retires (c : T.AssetId) (s : Storage T) (x : Extrinsic T) : ℕ :=
  if x.Succeeds s then
    match x.2 with
    | .assetsBurn assetId amount => if c = assetId then amount else 0
    | call => ((actionOf s call).map (·.retires c)).getD 0
  else 0

/-- The accounts whose balances an extrinsic may change. -/
def parties (s : Storage T) (x : Extrinsic T) : List T.AccountId :=
  match x.2 with
  | .assetsRegister _ _ _ _ => [x.1.account]
  | .assetsTransfer _ dest _ => [x.1.account, dest]
  | .assetsMint _ dest _ => [dest]
  | .assetsBurn _ _ => [x.1.account]
  | call => ((actionOf s call).map (·.parties x.1.account)).getD []

end Extrinsic

/-- Whoever takes part in the extrinsic is audited. -/
def Within (accounts : Finset T.AccountId) (s : Storage T)
    (x : Extrinsic T) : Prop :=
  ∀ y ∈ x.parties s, y ∈ accounts

instance (accounts : Finset T.AccountId) (s : Storage T) (x : Extrinsic T) :
    Decidable (Within accounts s x) :=
  inferInstanceAs (Decidable (∀ y ∈ x.parties s, y ∈ accounts))

/-! ## One action -/

namespace PoolXyk
namespace PolySwapAction

variable {s s' : Storage T} {w : T.AccountId} {c : T.AssetId}
variable {accounts : Finset T.AccountId}

theorem signer_mem_parties (action : PolySwapAction T) (w : T.AccountId) :
    w ∈ action.parties w :=
  List.mem_cons_self

theorem pool_mem_parties (action : PolySwapAction T) (w : T.AccountId) :
    techAccountIdToAccountId action.poolAccount ∈ action.parties w :=
  List.mem_cons_of_mem _ List.mem_cons_self

theorem receiver_mem_parties {action : PolySwapAction T} {y : T.AccountId}
    (h : y ∈ action.receivers w) : y ∈ action.parties w :=
  List.mem_cons_of_mem _ (List.mem_cons_of_mem _ (List.mem_append_left _ h))

theorem feeAccount_mem_parties (action : PolySwapAction T)
    {feeAccount : TechAccountIdOf T}
    (h : action.poolAccount.toFeeAccount = some feeAccount) :
    techAccountIdToAccountId feeAccount ∈ action.parties w := by
  apply List.mem_cons_of_mem
  apply List.mem_cons_of_mem
  apply List.mem_append_right
  rw [h]
  exact List.mem_singleton.mpr rfl

/-- A swap only moves assets between its parties. -/
theorem audited_pairSwap (hM : T.currency.Lawful balanceModulus)
    {a : PairSwapAction T} {t : PairSwapAction.Terms T}
    (h : a.Settles s w t s'.ledger)
    (hparties : ∀ y ∈ parties (.pairSwap a) w, y ∈ accounts) :
    Book.Audited s.book s'.book accounts c 0 0 := by
  obtain ⟨hcovers, hbook⟩ := h.book hM
  have hsigner := hparties _ (signer_mem_parties (.pairSwap a) w)
  have hpool := hparties _ (pool_mem_parties (.pairSwap a) w)
  have hreceiver : a.receiver w ∈ accounts :=
    hparties _ (receiver_mem_parties (List.mem_singleton.mpr rfl))
  have hfee : techAccountIdToAccountId t.feeAccount ∈ accounts :=
    hparties _ (feeAccount_mem_parties (.pairSwap a) h.agreed.feeAccount)
  have hmembers : ∀ p ∈ a.payments w t,
      p.source ∈ accounts ∧ p.dest ∈ accounts := by
    intro p hp
    unfold PairSwapAction.payments at hp
    split_ifs at hp
    · rcases List.mem_cons.mp hp with rfl | hp
      · exact ⟨hsigner, hpool⟩
      · rcases List.mem_cons.mp hp with rfl | hp
        · exact ⟨hpool, hfee⟩
        · rw [List.mem_singleton.mp hp]
          exact ⟨hpool, hreceiver⟩
    · rcases List.mem_cons.mp hp with rfl | hp
      · exact ⟨hsigner, hpool⟩
      · rcases List.mem_cons.mp hp with rfl | hp
        · exact ⟨hsigner, hfee⟩
        · rw [List.mem_singleton.mp hp]
          exact ⟨hpool, hreceiver⟩
  rw [show s'.book = _ from hbook]
  exact Book.Audited.paid hmembers hcovers

/-- A deposit moves both amounts into the pool and issues its tokens. -/
theorem audited_deposit (hM : T.currency.Lawful balanceModulus)
    {a : DepositLiquidityAction T} {t : DepositLiquidityAction.Terms}
    {l : T.currency.Ledger} (h : a.Settles s w t l s'.ledger)
    (hparties : ∀ y ∈ parties (.depositLiquidity a) w, y ∈ accounts) :
    Book.Audited s.book s'.book accounts c
      (if c = a.marker then t.minted else 0) 0 := by
  obtain ⟨hcovers, hpaid⟩ := hM.payAll_ok h.paid
  have hsigner := hparties _ (signer_mem_parties (.depositLiquidity a) w)
  have hpool := hparties _ (pool_mem_parties (.depositLiquidity a) w)
  have hreceiver : a.receiver w ∈ accounts :=
    hparties _ (receiver_mem_parties (List.mem_singleton.mpr rfl))
  have hmoved : Book.Audited s.book (T.currency.book l) accounts c 0 0 := by
    rw [hpaid]
    refine Book.Audited.paid ?_ hcovers
    intro p hp
    rcases List.mem_cons.mp hp with rfl | hp
    · exact ⟨hsigner, hpool⟩
    · rw [List.mem_singleton.mp hp]
      exact ⟨hsigner, hpool⟩
  have hissued := hmoved.trans
    (Book.Audited.issued (n := t.minted) (d := a.marker) hreceiver)
  rw [Nat.zero_add, Nat.zero_add] at hissued
  rw [Storage.book, Storage.book, hM.deposit_ok h.minted]
  exact hissued

/-- A withdrawal moves both payouts out of the pool and retires its tokens. -/
theorem audited_withdrawal (hM : T.currency.Lawful balanceModulus)
    {a : WithdrawLiquidityAction T} {t : WithdrawLiquidityAction.Terms}
    {l : T.currency.Ledger} (h : a.Settles s w t l s'.ledger)
    (hparties : ∀ y ∈ parties (.withdrawLiquidity a) w, y ∈ accounts) :
    Book.Audited s.book s'.book accounts c 0
      (if c = a.marker then t.burned else 0) := by
  obtain ⟨hcovers, hpaid⟩ := hM.payAll_ok h.paid
  obtain ⟨hcovered, hretired⟩ := hM.withdraw_ok h.burned
  have hsigner := hparties _ (signer_mem_parties (.withdrawLiquidity a) w)
  have hpool := hparties _ (pool_mem_parties (.withdrawLiquidity a) w)
  have hreceiverA : a.receiverA w ∈ accounts :=
    hparties _ (receiver_mem_parties List.mem_cons_self)
  have hreceiverB : a.receiverB w ∈ accounts :=
    hparties _ (receiver_mem_parties (List.mem_cons_of_mem _
      (List.mem_singleton.mpr rfl)))
  have hmoved : Book.Audited s.book (T.currency.book l) accounts c 0 0 := by
    rw [hpaid]
    refine Book.Audited.paid ?_ hcovers
    intro p hp
    rcases List.mem_cons.mp hp with rfl | hp
    · exact ⟨hpool, hreceiverA⟩
    · rw [List.mem_singleton.mp hp]
      exact ⟨hpool, hreceiverB⟩
  have hburned := hmoved.trans
    (Book.Audited.retired hsigner hcovered (hM.free_le_issuance l a.marker w))
  rw [Nat.zero_add, Nat.zero_add] at hburned
  rw [Storage.book, Storage.book, hretired]
  exact hburned

/-- Whatever an action does is what it issues and retires. -/
theorem Settled.audited (hM : T.currency.Lawful balanceModulus)
    {action : PolySwapAction T} (h : action.Settled w s s')
    (hparties : ∀ y ∈ action.parties w, y ∈ accounts) :
    Book.Audited s.book s'.book accounts c (action.issues s w c)
      (action.retires c) := by
  cases action with
  | pairSwap a =>
      obtain ⟨t, hsettles⟩ := h
      exact audited_pairSwap hM hsettles hparties
  | depositLiquidity a =>
      obtain ⟨hab, t, l, hsettles⟩ := h
      have haudited := audited_deposit (c := c) hM hsettles hparties
      rw [← mintedTokens_eq hab hsettles.agreed] at haudited
      exact haudited
  | withdrawLiquidity a =>
      obtain ⟨t, l, hsettles⟩ := h
      have haudited := audited_withdrawal (c := c) hM hsettles hparties
      have hburned : a.source.amount.toOption.getD 0 = t.burned := by
        rw [hsettles.agreed.desired]
        rfl
      rw [← hburned] at haudited
      exact haudited

end PolySwapAction
end PoolXyk

/-! ## One extrinsic -/

variable {s s' : Storage T} {w : T.AccountId} {c : T.AssetId}
variable {accounts : Finset T.AccountId}

namespace PoolXyk

variable {dexId : T.DEXId} {assetA assetB : T.AssetId} {u : Unit}

/-- A deposit call settles the action that it builds. -/
theorem settled_of_deposit {aDesired bDesired aMin bMin : ℕ}
    (h : (depositLiquidity w dexId assetA assetB aDesired bDesired aMin
      bMin).run s = (.ok u, s')) :
    ∃ action, actionOf s (.depositLiquidity dexId assetA assetB aDesired
        bDesired aMin bMin) = some action ∧ action.Settled w s s' := by
  obtain ⟨techAcc, mark, t, l, l', ⟨tpair, hpool⟩, -, hsettles, rfl⟩ :=
    run_depositLiquidity_ok.mp h
  have hmarker : T.techAssetIdTryFrom (markingAssetId techAcc) = some mark :=
    hsettles.agreed.marker
  refine ⟨.depositLiquidity (depositAction techAcc assetA assetB aDesired
    bDesired aMin bMin mark), ?_, rfl, t, l, hsettles⟩
  simp only [actionOf, hpool, hmarker, Option.map_some]

theorem settled_of_withdrawal {k aMin bMin : ℕ}
    (h : (withdrawLiquidity w dexId assetA assetB k aMin bMin).run s =
      (.ok u, s')) :
    ∃ action, actionOf s (.withdrawLiquidity dexId assetA assetB k aMin
        bMin) = some action ∧ action.Settled w s s' := by
  obtain ⟨techAcc, mark, t, l, l', ⟨tpair, hpool⟩, hsettles, rfl⟩ :=
    run_withdrawLiquidity_ok.mp h
  have hmarker : T.techAssetIdTryFrom (markingAssetId techAcc) = some mark :=
    hsettles.agreed.marker
  refine ⟨.withdrawLiquidity (withdrawAction techAcc assetA assetB k aMin bMin
    mark), ?_, t, l, hsettles⟩
  simp only [actionOf, hpool, hmarker, Option.map_some]

theorem settled_of_swapPair {receiver : T.AccountId} {swapAmount : SwapAmount}
    (h : (swapPair w receiver dexId assetA assetB swapAmount).run s =
      (.ok u, s')) :
    ∃ action, actionOf s (.swapPair receiver dexId assetA assetB
        swapAmount) = some action ∧ action.Settled w s s' := by
  obtain ⟨techAcc, t, l, ⟨tpair, hpool⟩, hsettles, rfl⟩ := run_swapPair_ok.mp h
  refine ⟨.pairSwap (exchangeAction receiver techAcc assetA assetB swapAmount),
    ?_, t, hsettles⟩
  simp only [actionOf, hpool]

theorem settled_of_submitted {action : PolySwapAction T}
    (h : (performCreateSwap w action).run s = (.ok u, s')) :
    action.Settled w s s' := by
  cases action with
  | pairSwap a =>
      obtain ⟨-, t, l, hsettles, rfl⟩ :=
        run_performCreateSwap_pairSwap_ok.mp h
      exact ⟨t, hsettles⟩
  | depositLiquidity a =>
      obtain ⟨hab, t, l, l', hsettles, rfl⟩ :=
        run_performCreateSwap_depositLiquidity_ok.mp h
      exact ⟨hab, t, l, hsettles⟩
  | withdrawLiquidity a =>
      obtain ⟨-, t, l, l', hsettles, rfl⟩ :=
        run_performCreateSwap_withdrawLiquidity_ok.mp h
      exact ⟨t, l, hsettles⟩

theorem audited_of_action (hM : T.currency.Lawful balanceModulus)
    {call : Call T}
    (h : ∃ action, actionOf s call = some action ∧ action.Settled w s s')
    (hparties : ∀ y ∈ ((actionOf s call).map (·.parties w)).getD [],
      y ∈ accounts) :
    Book.Audited s.book s'.book accounts c
      (((actionOf s call).map (·.issues s w c)).getD 0)
      (((actionOf s call).map (·.retires c)).getD 0) := by
  obtain ⟨action, haction, hsettled⟩ := h
  rw [haction] at hparties ⊢
  exact hsettled.audited hM hparties

end PoolXyk

open PoolXyk

/-- The books only move when an extrinsic says so. -/
theorem audited_of_same (h : s'.ledger = s.ledger) :
    Book.Audited s.book s'.book accounts c 0 0 := by
  rw [Storage.book, Storage.book, h]
  exact Book.Audited.refl _ _ _

/-- A registration issues its initial supply. -/
theorem audited_of_registered (hM : T.currency.Lawful balanceModulus)
    {assetId : T.AssetId} {initialSupply : ℕ} {isMintable : Bool}
    (h : Assets.Registered assetId w initialSupply isMintable s s')
    (hw : w ∈ accounts) :
    Book.Audited s.book s'.book accounts c
      (if c = assetId then initialSupply else 0) 0 := by
  rcases h.ledger with ⟨hzero, hledger⟩ | ⟨-, hdeposit⟩
  · rw [hzero, ite_self]
    exact audited_of_same hledger
  · rw [Storage.book, Storage.book, hM.deposit_ok hdeposit]
    exact Book.Audited.issued hw

/-- The audit of one extrinsic that succeeds. -/
theorem audited_of_succeeds (hM : T.currency.Lawful balanceModulus)
    {x : Extrinsic T} (hs : x.Succeeds s) (hwithin : Within accounts s x) :
    Book.Audited s.book (step s x).book accounts c (x.issues c s)
      (x.retires c s) := by
  have hrun := Extrinsic.succeeds_iff.mp hs
  rw [Extrinsic.issues, Extrinsic.retires, if_pos hs, if_pos hs]
  obtain ⟨who, call⟩ := x
  generalize step s (who, call) = s' at hrun ⊢
  cases call with
  | assetsRegister symbol name initialSupply isMintable =>
      exact audited_of_registered hM (Assets.registered_of_register hrun)
        (hwithin _ List.mem_cons_self)
  | assetsTransfer assetId dest amount =>
      have hdest : dest ∈ accounts :=
        hwithin _ (List.mem_cons_of_mem _ (List.mem_singleton.mpr rfl))
      obtain ⟨hcovered, hbook⟩ := Assets.book_of_transferFrom hM hrun
      rw [hbook]
      exact Book.Audited.moved (hwithin _ List.mem_cons_self) hdest hcovered
  | assetsMint assetId dest amount =>
      rw [Assets.book_of_mintTo hM hrun]
      exact Book.Audited.issued (hwithin _ List.mem_cons_self)
  | assetsBurn assetId amount =>
      obtain ⟨hcovered, hbook⟩ := Assets.book_of_burnFrom hM hrun
      rw [hbook]
      exact Book.Audited.retired (hwithin _ List.mem_cons_self) hcovered
        (hM.free_le_issuance _ _ _)
  | assetsSetNonMintable assetId =>
      obtain ⟨-, -, rfl⟩ := Assets.run_setNonMintable_ok.mp hrun
      exact audited_of_same rfl
  | tradingPairRegister dexId baseAssetId targetAssetId =>
      obtain ⟨-, -, rfl⟩ := TradingPair.run_register_ok hrun
      exact audited_of_same rfl
  | initializePool dexId assetA assetB =>
      obtain ⟨_, _, _, hinit⟩ := initialized_of_run hrun
      exact audited_of_same hinit.ledger
  | depositLiquidity dexId assetA assetB aDesired bDesired aMin bMin =>
      exact audited_of_action hM (settled_of_deposit hrun) hwithin
  | withdrawLiquidity dexId assetA assetB k aMin bMin =>
      exact audited_of_action hM (settled_of_withdrawal hrun) hwithin
  | swapPair receiver dexId assetA assetB swapAmount =>
      exact audited_of_action hM (settled_of_swapPair hrun) hwithin
  | createSwap action =>
      exact audited_of_action hM ⟨action, rfl, settled_of_submitted hrun⟩
        hwithin

/-- The audit of one extrinsic, whether it succeeds or not. -/
theorem audited_step (hM : T.currency.Lawful balanceModulus) (x : Extrinsic T)
    (hwithin : Within accounts s x) :
    Book.Audited s.book (step s x).book accounts c (x.issues c s)
      (x.retires c s) := by
  by_cases hs : x.Succeeds s
  · exact audited_of_succeeds hM hs hwithin
  · rcases step_succeeds_or s x with hrun | hsame
    · exact absurd (Extrinsic.succeeds_iff.mpr hrun) hs
    · rw [Extrinsic.issues, Extrinsic.retires, if_neg hs, if_neg hs]
      rw [SameButRecords] at hsame
      rw [hsame]
      exact audited_of_same rfl

/-! ## Any run -/

/-- In every run whose parties are among the audited accounts, these hold what
they held at first plus all that was issued less all that was retired, the
issuance moves by the same amount, and the balance of no other account
changes. -/
theorem runs_audited (hM : T.currency.Lawful balanceModulus)
    (accounts : Finset T.AccountId) (c : T.AssetId) (genesis : Storage T)
    (extrinsics : List (Extrinsic T))
    (hwithin : Along step (Within accounts) genesis extrinsics) :
    Book.Audited genesis.book (runs genesis extrinsics).book accounts c
      (totalAlong step (Extrinsic.issues c) genesis extrinsics)
      (totalAlong step (Extrinsic.retires c) genesis extrinsics) :=
  Book.audited_runAll (fun _ x hx => audited_step hM x hx) extrinsics genesis
    hwithin

namespace Mock

/-- Bob opens a pool, deposits a million units of each asset and withdraws one;
Alice swaps a unit to the benefit of Carol. -/
def auditedRun : List (Extrinsic runtime) :=
  openPool dexA redPepper ++
    [deposit dexA redPepper (1000000 * unit) (1000000 * unit), withdrawUnit,
      swap goldenTicket redPepper (.withDesiredInput unit 0)]

/-- The account that collects the fees of the sample pool. -/
def feeAccount : ℕ :=
  Technical.techAccountIdToAccountId (T := runtime)
    (PoolXyk.feeCollectorOf dexA ⟨goldenTicket, redPepper⟩)

/-- The three users, the pool and its collector of fees. -/
def auditedAccounts : Finset (Config.AccountId runtime) :=
  ({2, 4, 6, poolAccountOf dexA redPepper, feeAccount} : Finset ℕ)

end Mock

theorem runs_audited_sample :
    Book.Audited Mock.genesis.book (runs Mock.genesis Mock.auditedRun).book
      Mock.auditedAccounts (Mock.markerOf Mock.dexA Mock.redPepper)
      (totalAlong step (Extrinsic.issues (Mock.markerOf Mock.dexA
        Mock.redPepper)) Mock.genesis Mock.auditedRun)
      (totalAlong step (Extrinsic.retires (Mock.markerOf Mock.dexA
        Mock.redPepper)) Mock.genesis Mock.auditedRun) :=
  runs_audited (T := Mock.runtime) Mock.currency_lawful _ _ _ _
    (by decide +kernel : Along step (Within Mock.auditedAccounts) Mock.genesis
      Mock.auditedRun)

end SoraParachain

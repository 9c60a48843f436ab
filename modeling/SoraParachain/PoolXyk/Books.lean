import SoraParachain.Runtime

/-!
# What settlement does to the balances

Each settled action is one sequence of moves on the book of the currency.  The
accounts of the two sides are the signer and the pool, which differ because
nobody signs for a technical account.
-/

namespace SoraParachain

namespace Book

variable {CurrencyId AccountId : Type}
variable [DecidableEq CurrencyId] [DecidableEq AccountId]
variable {b : Book CurrencyId AccountId} {c d m : CurrencyId}
variable {source dest who : AccountId} {x y n : ℕ}

/-- Two moves in different currencies change each of them once. -/
theorem free_moved_moved_dest (hne : source ≠ dest) (hcd : c ≠ d) :
    ((b.moved c source dest x).moved d source dest y).free c dest =
        b.free c dest + x ∧
      ((b.moved c source dest x).moved d source dest y).free d dest =
        b.free d dest + y := by
  rw [free_moved_of_ne_currency hcd, free_moved_dest hne, free_moved_dest hne,
    free_moved_of_ne_currency hcd.symm]
  exact ⟨rfl, rfl⟩

theorem free_moved_moved_source (hne : source ≠ dest) (hcd : c ≠ d) :
    ((b.moved c source dest x).moved d source dest y).free c source =
        b.free c source - x ∧
      ((b.moved c source dest x).moved d source dest y).free d source =
        b.free d source - y := by
  rw [free_moved_of_ne_currency hcd, free_moved_source hne,
    free_moved_source hne, free_moved_of_ne_currency hcd.symm]
  exact ⟨rfl, rfl⟩

end Book

namespace PoolXyk

variable {T : Config} {s : Storage T} {w : T.AccountId}
variable {l l' : T.currency.Ledger}

open Technical (techAccountIdToAccountId)

theorem PairSwapAction.Settles.book {a : PairSwapAction T}
    {t : PairSwapAction.Terms T} (hM : T.currency.Lawful balanceModulus)
    (h : a.Settles s w t l) :
    s.book.Covers (a.payments w t) ∧
      T.currency.book l = s.book.paid (a.payments w t) :=
  hM.payAll_ok h.paid

/-- A deposit moves both amounts into the pool and issues the marker tokens. -/
theorem DepositLiquidityAction.Settles.book {a : DepositLiquidityAction T}
    {t : DepositLiquidityAction.Terms}
    (hM : T.currency.Lawful balanceModulus) (h : a.Settles s w t l l') :
    T.currency.book l' =
      ((s.book.moved a.source.fst.asset w a.poolRepr t.amountA).moved
        a.source.snd.asset w a.poolRepr t.amountB).issued a.marker
          (a.receiver w) t.minted := by
  obtain ⟨-, hpaid⟩ := hM.payAll_ok h.paid
  rw [hM.deposit_ok h.minted, hpaid]
  rfl

/-- A withdrawal moves both payouts out of the pool and retires the marker
tokens of the signer. -/
theorem WithdrawLiquidityAction.Settles.book {a : WithdrawLiquidityAction T}
    {t : WithdrawLiquidityAction.Terms}
    (hM : T.currency.Lawful balanceModulus) (h : a.Settles s w t l l') :
    T.currency.book l' =
      ((s.book.moved a.destination.fst.asset a.poolRepr (a.receiverA w)
        t.amountA).moved a.destination.snd.asset a.poolRepr (a.receiverB w)
          t.amountB).retired a.marker w t.burned := by
  obtain ⟨-, hpaid⟩ := hM.payAll_ok h.paid
  rw [(hM.withdraw_ok h.burned).2, hpaid]
  rfl

/-! ## The calls -/

/-- The asset that marks the liquidity of a pool. -/
def IsMarkerOf (techAcc : TechAccountIdOf T) (marker : T.AssetId) : Prop :=
  ∃ mark, T.techAssetIdTryFrom (markingAssetId techAcc) = some mark ∧
    marker = T.techAssetIdInto mark

/-- Everything but the ledger, the records and the reserves of two assets is
as before, and these reserves are the balances of the pool. -/
def Refreshes (s s' : Storage T) (techAcc : TechAccountIdOf T)
    (assetA assetB : T.AssetId) : Prop :=
  s' =
    { s with
      ledger := s'.ledger
      assetRecords := s'.assetRecords
      reserves := enterReserves s.reserves assetA assetB
        (s'.free assetA (techAccountIdToAccountId techAcc),
          s'.free assetB (techAccountIdToAccountId techAcc)) }

/-- What a deposit call moves and issues. -/
structure Deposited (s s' : Storage T) (who : T.AccountId)
    (techAcc : TechAccountIdOf T) (assetA assetB marker : T.AssetId)
    (a b m : ℕ) : Prop where
  isMarker : IsMarkerOf techAcc marker
  book : s'.book =
    ((s.book.moved assetA who (techAccountIdToAccountId techAcc) a).moved
      assetB who (techAccountIdToAccountId techAcc) b).issued marker who m
  refreshes : Refreshes s s' techAcc assetA assetB

/-- What a withdrawal call moves and retires. -/
structure Withdrawn (s s' : Storage T) (who : T.AccountId)
    (techAcc : TechAccountIdOf T) (assetA assetB marker : T.AssetId)
    (a b k : ℕ) : Prop where
  isMarker : IsMarkerOf techAcc marker
  book : s'.book =
    ((s.book.moved assetA (techAccountIdToAccountId techAcc) who a).moved
      assetB (techAccountIdToAccountId techAcc) who b).retired marker who k
  refreshes : Refreshes s s' techAcc assetA assetB

variable {dexId : T.DEXId} {assetA assetB marker : T.AssetId}
variable {techAcc : TechAccountIdOf T} {s' : Storage T} {u : Unit}
variable {a b m k : ℕ}

theorem IsMarkerOf.unique {marker' : T.AssetId}
    (h : IsMarkerOf techAcc marker) (h' : IsMarkerOf techAcc marker') :
    marker = marker' := by
  obtain ⟨mark, hmark, rfl⟩ := h
  obtain ⟨mark', hmark', rfl⟩ := h'
  rw [hmark, Option.some.injEq] at hmark'
  rw [hmark']

theorem deposited_of_run {aDesired bDesired aMin bMin : ℕ}
    (hM : T.currency.Lawful balanceModulus)
    (hpool : IsPoolOf s dexId assetA assetB techAcc)
    (h : (depositLiquidity w dexId assetA assetB aDesired bDesired aMin
      bMin).run s = (.ok u, s')) :
    ∃ mark t,
      DepositLiquidityAction.Agreed s
        (depositAction techAcc assetA assetB aDesired bDesired aMin bMin mark)
        w t ∧
      Deposited s s' w techAcc assetA assetB (T.techAssetIdInto mark)
        t.amountA t.amountB t.minted := by
  obtain ⟨techAcc', mark, t, l, l', hpool', -, hset, rfl⟩ :=
    run_depositLiquidity_ok.mp h
  obtain rfl := hpool.unique hpool'
  exact ⟨mark, t, hset.agreed, ⟨mark, hset.agreed.marker, rfl⟩,
    hset.book hM, rfl⟩

theorem withdrawn_of_run {aMin bMin : ℕ}
    (hM : T.currency.Lawful balanceModulus)
    (hpool : IsPoolOf s dexId assetA assetB techAcc)
    (h : (withdrawLiquidity w dexId assetA assetB k aMin bMin).run s =
      (.ok u, s')) :
    ∃ mark t,
      WithdrawLiquidityAction.Agreed s
        (withdrawAction techAcc assetA assetB k aMin bMin mark) w t ∧
      Withdrawn s s' w techAcc assetA assetB (T.techAssetIdInto mark)
        t.amountA t.amountB t.burned := by
  obtain ⟨techAcc', mark, t, l, l', hpool', hset, rfl⟩ :=
    run_withdrawLiquidity_ok.mp h
  obtain rfl := hpool.unique hpool'
  exact ⟨mark, t, hset.agreed, ⟨mark, hset.agreed.marker, rfl⟩,
    hset.book hM, rfl⟩

/-- A deposit adds its amounts to the balances of the pool. -/
theorem Deposited.pool (h : Deposited s s' w techAcc assetA assetB marker a b m)
    (hw : techAccountIdToAccountId techAcc ≠ w) (hne : assetA ≠ assetB) :
    s'.free assetA (techAccountIdToAccountId techAcc) =
        s.free assetA (techAccountIdToAccountId techAcc) + a ∧
      s'.free assetB (techAccountIdToAccountId techAcc) =
        s.free assetB (techAccountIdToAccountId techAcc) + b := by
  simp only [Storage.free, h.book, Book.free_issued_of_ne_account hw]
  exact Book.free_moved_moved_dest hw.symm hne

theorem Deposited.issuance
    (h : Deposited s s' w techAcc assetA assetB marker a b m) :
    s'.issuance marker = s.issuance marker + m := by
  simp only [Storage.issuance, h.book, Book.issuance_issued_self,
    Book.issuance_moved]

/-- A withdrawal takes its payouts from the balances of the pool. -/
theorem Withdrawn.pool (h : Withdrawn s s' w techAcc assetA assetB marker a b k)
    (hw : techAccountIdToAccountId techAcc ≠ w) (hne : assetA ≠ assetB) :
    s'.free assetA (techAccountIdToAccountId techAcc) =
        s.free assetA (techAccountIdToAccountId techAcc) - a ∧
      s'.free assetB (techAccountIdToAccountId techAcc) =
        s.free assetB (techAccountIdToAccountId techAcc) - b := by
  simp only [Storage.free, h.book, Book.free_retired_of_ne_account hw]
  exact Book.free_moved_moved_source hw hne

theorem Withdrawn.issuance
    (h : Withdrawn s s' w techAcc assetA assetB marker a b k) :
    s'.issuance marker = s.issuance marker - k := by
  simp only [Storage.issuance, h.book, Book.issuance_retired_self,
    Book.issuance_moved]

end PoolXyk
end SoraParachain

import SoraParachain.PoolXyk.PairSwap

/-!
# What an accepted swap is and what it settles

The terms of a swap are the amounts, the fee and the accounts that validation
decides on.  An action is accepted exactly when there are terms it agrees to,
and settling it makes the payments of the terms.
-/

namespace SoraParachain
namespace PoolXyk

variable {T : Config}

open Technical (techAccountIdToAccountId IsRegistered)

theorem resolveClient_eq_ok {clientAccount : Option T.AccountId}
    {source client : T.AccountId} :
    resolveClient clientAccount source = .ok client ↔
      client = source ∧
        (clientAccount = none ∨ clientAccount = some source) := by
  unfold resolveClient
  cases clientAccount with
  | none => simp [eq_comm]
  | some ca =>
      by_cases h : ca = source
      · simp [h, eq_comm]
      · simp [h, fail]

/-- An action whose client is resolved is changed for the signer. -/
theorem resolveClient_bind_eq_ok {α : Type} {clientAccount : Option T.AccountId}
    {source : T.AccountId} {f : T.AccountId → α} {act : α} :
    (resolveClient clientAccount source >>= fun client => pure (f client)) =
        .ok act ↔
      (clientAccount = none ∨ clientAccount = some source) ∧ act = f source := by
  rw [Tx.except_bind_eq_ok]
  constructor
  · intro h
    obtain ⟨client, hclient, h⟩ := h
    obtain ⟨rfl, hsame⟩ := resolveClient_eq_ok.mp hclient
    exact ⟨hsame, (Except.ok.inj h).symm⟩
  · intro h
    obtain ⟨hsame, rfl⟩ := h
    exact ⟨source, resolveClient_eq_ok.mpr ⟨rfl, hsame⟩, rfl⟩

@[simp] theorem ensurePoolNotEmpty_eq_ok {a b : ℕ} {u : Unit} :
    ensurePoolNotEmpty a b = .ok u ↔ 0 < a ∧ 0 < b := by
  unfold ensurePoolNotEmpty
  split_ifs with h₁ h₂
  · simp only [fail_ne_ok, false_iff]
    omega
  · simp only [fail_ne_ok, false_iff]
    omega
  · simp only [true_iff]
    omega

/-- The storage with the pool's balances of two assets in the reserves. -/
def refreshed (s : Storage T) (poolAccount : TechAccountIdOf T)
    (assetA assetB : T.AssetId) : Storage T :=
  { s with
    reserves := enterReserves s.reserves assetA assetB
      (s.free assetA (techAccountIdToAccountId poolAccount),
        s.free assetB (techAccountIdToAccountId poolAccount)) }

theorem run_refreshReserves_ok {poolAccount : TechAccountIdOf T}
    {assetA assetB : T.AssetId} {s s' : Storage T} {u : Unit} :
    (refreshReserves poolAccount assetA assetB).run s = (.ok u, s') ↔
      Assets.Exists s assetA ∧ Assets.Exists s assetB ∧
        s' = refreshed s poolAccount assetA assetB := by
  simp only [refreshReserves, Tx.run_bind_eq_ok, Tx.run_reads_eq_ok,
    Assets.freeBalance_eq_ok, run_updateReserves, Prod.mk.injEq]
  constructor
  · rintro ⟨_, _, ⟨⟨hA, rfl⟩, rfl⟩, _, _, ⟨⟨hB, rfl⟩, rfl⟩, -, rfl⟩
    exact ⟨hA, hB, rfl⟩
  · rintro ⟨hA, hB, rfl⟩
    exact ⟨_, _, ⟨⟨hA, rfl⟩, rfl⟩, _, _, ⟨⟨hB, rfl⟩, rfl⟩, trivial, rfl⟩

namespace PairSwapAction

/-- What validation decides about a swap. -/
structure Terms (T : Config) where
  source : Bounds
  destination : Bounds
  amountIn : ℕ
  amountOut : ℕ
  fee : ℕ
  feeAccount : TechAccountIdOf T

/-- The side of the fee of an action. -/
def feeFromDestination (self : PairSwapAction T) : Bool :=
  self.getFeeFromDestination.getD
    (decideIsFeeFromDestination self.source.asset self.destination.asset)

/-- The account of the pool of an action. -/
def poolRepr (self : PairSwapAction T) : T.AccountId :=
  techAccountIdToAccountId self.poolAccount

/-- The account that receives the output when `w` signs. -/
def receiver (self : PairSwapAction T) (w : T.AccountId) : T.AccountId :=
  self.receiverAccount.getD w

/-- The action that validation hands on. -/
def completed (self : PairSwapAction T) (w : T.AccountId) (t : Terms T) :
    PairSwapAction T where
  clientAccount := some w
  receiverAccount := some (self.receiver w)
  poolAccount := self.poolAccount
  source := ⟨self.source.asset, t.source⟩
  destination := ⟨self.destination.asset, t.destination⟩
  fee := some t.fee
  feeAccount := some t.feeAccount
  getFeeFromDestination := some self.feeFromDestination

/-- The action agrees to the terms in a state, signed by `w`. -/
structure Agreed (s : Storage T) (a : PairSwapAction T) (w : T.AccountId)
    (t : Terms T) : Prop where
  client : a.clientAccount = none ∨ a.clientAccount = some w
  registered : IsRegistered s a.poolAccount
  sourceExists : Assets.Exists s a.source.asset
  destinationExists : Assets.Exists s a.destination.asset
  signerPositive : 0 < s.free a.source.asset w
  sourceReserve : 0 < s.free a.source.asset a.poolRepr
  destinationReserve : 0 < s.free a.destination.asset a.poolRepr
  amounts : ∃ recomFee,
    decideAmounts a.feeFromDestination a.source.amount
      a.destination.amount (s.free a.source.asset a.poolRepr)
      (s.free a.destination.asset a.poolRepr) =
        .ok (t.source, t.destination, recomFee) ∧
    (a.fee = none ∧ t.fee = recomFee ∨
      a.fee = some t.fee ∧ recomFee ≤ t.fee)
  amountIn : t.source.toOption = some t.amountIn
  amountOut : t.destination.toOption = some t.amountOut
  feeAccount : a.poolAccount.toFeeAccount = some t.feeAccount
  feeAccountNamed : a.feeAccount = none ∨
    a.feeAccount = some t.feeAccount
  sourceCovered : t.amountIn ≤ s.free a.source.asset w
  destinationCovered :
    t.amountOut ≤ s.free a.destination.asset a.poolRepr
  validAfter :
    poolIsValidAfterOpTest (s.free a.source.asset a.poolRepr)
      (s.free a.destination.asset a.poolRepr) t.amountIn
      t.amountOut = .ok true

theorem resolveAccounts_eq_ok {self act : PairSwapAction T}
    {w : T.AccountId} :
    self.resolveAccounts false (some w) = .ok act ↔
      (self.clientAccount = none ∨ self.clientAccount = some w) ∧
        act =
          { self with
            clientAccount := some w
            receiverAccount := some (self.receiver w) } := by
  rw [resolveAccounts, if_neg Bool.false_ne_true]
  exact resolveClient_bind_eq_ok

theorem sourceBalance_eq_ok {s : Storage T} {self : PairSwapAction T}
    {w : T.AccountId} {b : Option ℕ} :
    self.sourceBalance s false (some w) = .ok b ↔
      Assets.Exists s self.source.asset ∧
        b = some (s.free self.source.asset w) := by
  simp only [sourceBalance, Bool.false_eq_true, if_false,
    Tx.except_bind_eq_ok, unwrap_eq_ok, Option.some.injEq, exists_eq_left',
    Assets.freeBalance_eq_ok]
  constructor
  · rintro ⟨_, ⟨hex, rfl⟩, h⟩
    cases h
    exact ⟨hex, rfl⟩
  · rintro ⟨hex, rfl⟩
    exact ⟨_, ⟨hex, rfl⟩, rfl⟩

theorem ensureSourceBalance_eq_ok {n : ℕ} {u : Unit} :
    ensureSourceBalance false (some n) = .ok u ↔ 0 < n := by
  simp only [ensureSourceBalance, Bool.false_eq_true, if_false,
    Tx.except_bind_eq_ok, unwrap_eq_ok, Option.some.injEq, exists_eq_left',
    ensure_eq_ok, gt_iff_lt]

theorem resolveAmounts_eq_ok {self act : PairSwapAction T} {side : Bool}
    {balanceSt balanceTt : ℕ} {recomFee : Option ℕ}
    (hside : self.getFeeFromDestination = some side) :
    self.resolveAmounts true balanceSt balanceTt = .ok (act, recomFee) ↔
      ∃ source destination fee,
        decideAmounts side self.source.amount self.destination.amount
          balanceSt balanceTt = .ok (source, destination, fee) ∧
        act =
          { self with
            source := ⟨self.source.asset, source⟩
            destination := ⟨self.destination.asset, destination⟩ } ∧
        recomFee = some fee := by
  simp only [resolveAmounts, if_true, Tx.except_bind_eq_ok, unwrap_eq_ok,
    hside, Option.some.injEq, exists_eq_left']
  constructor
  · rintro ⟨⟨source, destination, fee⟩, hamounts, h⟩
    cases h
    exact ⟨source, destination, fee, hamounts, rfl, rfl⟩
  · rintro ⟨source, destination, fee, hamounts, rfl, rfl⟩
    exact ⟨⟨source, destination, fee⟩, hamounts, rfl⟩

theorem resolveFeeAccount_eq_ok {self act : PairSwapAction T} :
    self.resolveFeeAccount = .ok act ↔
      ∃ fa, self.poolAccount.toFeeAccount = some fa ∧
        (self.feeAccount = none ∨ self.feeAccount = some fa) ∧
        act = { self with feeAccount := some fa } := by
  unfold resolveFeeAccount
  cases hfa : self.feeAccount with
  | none =>
      simp only [Tx.except_bind_eq_ok, getFeeAccount, okOr_eq_ok]
      constructor
      · rintro ⟨fa, hfee, h⟩
        cases h
        exact ⟨fa, hfee, by simp, rfl⟩
      · rintro ⟨fa, hfee, -, rfl⟩
        exact ⟨fa, hfee, rfl⟩
  | some named =>
      simp only [Tx.except_bind_eq_ok, isFeeAccountValidFor, getFeeAccount,
        okOr_eq_ok]
      constructor
      · rintro ⟨_, ⟨fa, hfee, hnamed⟩, h⟩
        split_ifs at hnamed with hne
        · simp at hnamed
        · cases h
          obtain rfl := not_not.mp hne
          refine ⟨named, hfee, Or.inr rfl, ?_⟩
          rw [← hfa]
      · rintro ⟨fa, hfee, hnamed, rfl⟩
        obtain rfl : named = fa := by simpa using hnamed
        refine ⟨(), ⟨named, hfee, by simp [pure, Except.pure]⟩, ?_⟩
        rw [← hfa]
        rfl

theorem decideFee_eq_ok {fee : Option ℕ} {recomFee n : ℕ} :
    decideFee fee (some recomFee) = .ok n ↔
      fee = none ∧ n = recomFee ∨ fee = some n ∧ recomFee ≤ n := by
  unfold decideFee
  cases fee with
  | none =>
      simp only [unwrap_eq_ok, Option.some.injEq, true_and, reduceCtorEq,
        false_and, or_false]
      exact eq_comm
  | some fee =>
      simp only [Tx.except_bind_eq_ok, unwrap_eq_ok, Option.some.injEq,
        exists_eq_left', ensure_eq_ok, not_lt, reduceCtorEq, false_and,
        false_or]
      constructor
      · rintro ⟨-, hle, h⟩
        cases h
        exact ⟨rfl, hle⟩
      · rintro ⟨rfl, hle⟩
        exact ⟨(), hle, rfl⟩

theorem resolveFee_eq_ok {self act : PairSwapAction T}
    {recomFee balanceSs balanceTt : ℕ} :
    self.resolveFee true false (some recomFee) (some balanceSs) balanceTt =
        .ok act ↔
      ∃ amountIn amountOut fee,
        self.source.amount.toOption = some amountIn ∧
        self.destination.amount.toOption = some amountOut ∧
        (self.fee = none ∧ fee = recomFee ∨
          self.fee = some fee ∧ recomFee ≤ fee) ∧
        amountIn ≤ balanceSs ∧ amountOut ≤ balanceTt ∧
        act = { self with fee := some fee } := by
  simp only [resolveFee, if_true, Tx.except_bind_eq_ok, Bounds.unwrap_eq_ok,
    decideFee_eq_ok, ensureAmountsCovered, Bool.false_eq_true, if_false,
    unwrap_eq_ok, Option.some.injEq, exists_eq_left', ensure_eq_ok, not_lt]
  constructor
  · rintro ⟨amountIn, hin, amountOut, hout, fee, hfee, -, ⟨-, hss, htt⟩, h⟩
    cases h
    exact ⟨amountIn, amountOut, fee, hin, hout, hfee, hss, htt, rfl⟩
  · rintro ⟨amountIn, amountOut, fee, hin, hout, hfee, hss, htt, rfl⟩
    exact ⟨amountIn, hin, amountOut, hout, fee, hfee, (), ⟨(), hss, htt⟩, rfl⟩

theorem ensureValidAfterOp_eq_ok {self : PairSwapAction T}
    {balanceSt balanceTt amountIn amountOut : ℕ} {u : Unit}
    (hin : self.source.amount.toOption = some amountIn)
    (hout : self.destination.amount.toOption = some amountOut) :
    self.ensureValidAfterOp balanceSt balanceTt = .ok u ↔
      poolIsValidAfterOpTest balanceSt balanceTt amountIn amountOut =
        .ok true := by
  simp only [ensureValidAfterOp, Tx.except_bind_eq_ok, Bounds.unwrap_eq_ok,
    hin, hout, Option.some.injEq, exists_eq_left', ensure_eq_ok,
    exists_eq_right]

/-- Validation accepts a swap exactly on terms that it agrees to. -/
theorem prepareAndValidate_eq_ok {s : Storage T} {self act : PairSwapAction T}
    {w : T.AccountId} (hab : self.isAbstractChecking = false) :
    self.prepareAndValidate s (some w) = .ok act ↔
      ∃ t, Agreed s self w t ∧ act = self.completed w t := by
  simp only [prepareAndValidate, hab, Option.isNone_some, Bool.or_false,
    Bool.false_and, Bool.not_false, Bool.or_true, Bool.false_eq_true,
    if_false, Tx.except_bind_eq_ok, resolveAccounts_eq_ok,
    isPoolAccountValidFor, Technical.ensureTechAccountRegistered_eq_ok,
    sourceBalance_eq_ok, Assets.freeBalance_eq_ok]
  constructor
  · rintro ⟨_, ⟨hclient, rfl⟩, _, hreg, _, ⟨hsrc, rfl⟩, _, ⟨-, rfl⟩, _,
      ⟨hdst, rfl⟩, _, hpos, _, hpool, ⟨act₁, recomFee⟩, hamounts, act₂, hfa,
      act₃, hfee, _, hvalid, h⟩
    cases h
    rw [ensureSourceBalance_eq_ok] at hpos
    rw [ensurePoolNotEmpty_eq_ok] at hpool
    rw [resolveAmounts_eq_ok rfl] at hamounts
    obtain ⟨source, destination, recom, hdecide, rfl, rfl⟩ := hamounts
    rw [resolveFeeAccount_eq_ok] at hfa
    obtain ⟨fa, hfa, hnamed, rfl⟩ := hfa
    rw [resolveFee_eq_ok] at hfee
    obtain ⟨amountIn, amountOut, fee, hin, hout, hfee, hss, htt, rfl⟩ := hfee
    have hvalid := (ensureValidAfterOp_eq_ok hin hout).mp hvalid
    exact ⟨⟨source, destination, amountIn, amountOut, fee, fa⟩,
      { client := hclient
        registered := hreg
        sourceExists := hsrc
        destinationExists := hdst
        signerPositive := hpos
        sourceReserve := hpool.1
        destinationReserve := hpool.2
        amounts := ⟨recom, hdecide, hfee⟩
        amountIn := hin
        amountOut := hout
        feeAccount := hfa
        feeAccountNamed := hnamed
        sourceCovered := hss
        destinationCovered := htt
        validAfter := hvalid },
      rfl⟩
  · rintro ⟨t, ht, rfl⟩
    obtain ⟨recom, hdecide, hfee⟩ := ht.amounts
    refine ⟨_, ⟨ht.client, rfl⟩, (), ht.registered, _, ⟨ht.sourceExists, rfl⟩,
      _, ⟨ht.sourceExists, rfl⟩, _, ⟨ht.destinationExists, rfl⟩, (),
      ensureSourceBalance_eq_ok.mpr ht.signerPositive, (),
      ensurePoolNotEmpty_eq_ok.mpr
        ⟨ht.sourceReserve, ht.destinationReserve⟩,
      ⟨_, _⟩,
      (resolveAmounts_eq_ok rfl).mpr ⟨_, _, recom, hdecide, rfl, rfl⟩, _,
      resolveFeeAccount_eq_ok.mpr
        ⟨t.feeAccount, ht.feeAccount, ht.feeAccountNamed, rfl⟩, _,
      resolveFee_eq_ok.mpr ⟨t.amountIn, t.amountOut, t.fee, ht.amountIn,
        ht.amountOut, hfee, ht.sourceCovered, ht.destinationCovered, rfl⟩, (),
      (ensureValidAfterOp_eq_ok ht.amountIn ht.amountOut).mpr ht.validAfter,
      rfl⟩

/-! ## Settlement -/

/-- The transfers that settle the terms. -/
def payments (self : PairSwapAction T) (w : T.AccountId) (t : Terms T) :
    List (Payment T.AssetId T.AccountId) :=
  if self.feeFromDestination then
    [⟨self.source.asset, w, self.poolRepr, t.amountIn⟩,
      ⟨self.destination.asset, self.poolRepr,
        techAccountIdToAccountId t.feeAccount, t.fee⟩,
      ⟨self.destination.asset, self.poolRepr, self.receiver w,
        wrappingSub t.amountOut t.fee⟩]
  else
    [⟨self.source.asset, w, self.poolRepr, wrappingSub t.amountIn t.fee⟩,
      ⟨self.source.asset, w, techAccountIdToAccountId t.feeAccount, t.fee⟩,
      ⟨self.destination.asset, self.poolRepr, self.receiver w,
        t.amountOut⟩]

/-- Nothing but the balances stands in the way of the transfers. -/
structure Payable (s : Storage T) (a : PairSwapAction T) (w : T.AccountId)
    (t : Terms T) : Prop where
  registered : IsRegistered s a.poolAccount
  feeRegistered : a.feeFromDestination = false → IsRegistered s t.feeAccount
  sourceExists : Assets.Exists s a.source.asset
  destinationExists : Assets.Exists s a.destination.asset
  signerPermitted :
    Assets.Permitted s w Permissions.transfer a.source.asset
  poolPermitted :
    Assets.Permitted s a.poolRepr Permissions.transfer a.destination.asset

theorem run_settleFeeFromDestination_ok {s s' : Storage T}
    {self : PairSwapAction T} {w : T.AccountId} {t : Terms T} {u : Unit}
    (hside : self.feeFromDestination = true)
    (hin : t.source.toOption = some t.amountIn)
    (hout : t.destination.toOption = some t.amountOut) :
    ((self.completed w t).settleFeeFromDestination w
        (techAccountIdToAccountId t.feeAccount)).run s = (.ok u, s') ↔
      Payable s self w t ∧
        ∃ l, T.currency.payAll (self.payments w t) s.ledger = .ok l ∧
          s' = { s with ledger := l } := by
  rw [payments, if_pos hside]
  simp only [settleFeeFromDestination, Tx.run_bind_eq_ok, Tx.run_liftM_eq_ok,
    unwrap_eq_ok, Bounds.unwrap_eq_ok, Technical.run_transferIn_ok,
    Technical.run_transferOut_ok, Assets.run_transferFrom_ok,
    MultiCurrency.payAll_cons_eq_ok, completed, hin, hout, Option.some.injEq,
    and_assoc, exists_eq_left', exists_and_left]
  constructor
  · rintro ⟨hreg, hsrc, hsigner, _, _, ⟨l₁, h₁, rfl⟩, -, hdst, hpool, _, _,
      ⟨l₂, h₂, rfl⟩, -, -, -, l₃, h₃, rfl⟩
    exact ⟨⟨hreg, fun h => by simp [hside] at h, hsrc, hdst, hsigner,
      hpool⟩, l₃, ⟨l₁, h₁, l₂, h₂, l₃, h₃, rfl⟩, rfl⟩
  · rintro ⟨hpay, _, ⟨l₁, h₁, l₂, h₂, l₃, h₃, hnil⟩, rfl⟩
    cases hnil
    exact ⟨hpay.registered, hpay.sourceExists, hpay.signerPermitted, (), _,
      ⟨l₁, h₁, rfl⟩, hpay.registered, hpay.destinationExists,
      hpay.poolPermitted, (), _, ⟨l₂, h₂, rfl⟩, hpay.registered,
      hpay.destinationExists, hpay.poolPermitted, _, h₃, rfl⟩

theorem run_settleFeeFromSource_ok {s s' : Storage T}
    {self : PairSwapAction T} {w : T.AccountId} {t : Terms T} {u : Unit}
    (hside : self.feeFromDestination = false)
    (hin : t.source.toOption = some t.amountIn)
    (hout : t.destination.toOption = some t.amountOut) :
    ((self.completed w t).settleFeeFromSource w t.feeAccount).run s =
        (.ok u, s') ↔
      Payable s self w t ∧
        ∃ l, T.currency.payAll (self.payments w t) s.ledger = .ok l ∧
          s' = { s with ledger := l } := by
  rw [payments, if_neg (by simp [hside])]
  simp only [settleFeeFromSource, Tx.run_bind_eq_ok, Tx.run_liftM_eq_ok,
    unwrap_eq_ok, Bounds.unwrap_eq_ok, Technical.run_transferIn_ok,
    Technical.run_transferOut_ok, Assets.run_transferFrom_ok,
    MultiCurrency.payAll_cons_eq_ok, completed, hin, hout, Option.some.injEq,
    and_assoc, exists_eq_left', exists_and_left]
  constructor
  · rintro ⟨hreg, hsrc, hsigner, _, _, ⟨l₁, h₁, rfl⟩, hfreg, -, -, _, _,
      ⟨l₂, h₂, rfl⟩, -, hdst, hpool, l₃, h₃, rfl⟩
    exact ⟨⟨hreg, fun _ => hfreg, hsrc, hdst, hsigner, hpool⟩, l₃,
      ⟨l₁, h₁, l₂, h₂, l₃, h₃, rfl⟩, rfl⟩
  · rintro ⟨hpay, _, ⟨l₁, h₁, l₂, h₂, l₃, h₃, hnil⟩, rfl⟩
    cases hnil
    exact ⟨hpay.registered, hpay.sourceExists, hpay.signerPermitted, (), _,
      ⟨l₁, h₁, rfl⟩, hpay.feeRegistered hside, hpay.sourceExists,
      hpay.signerPermitted, (), _, ⟨l₂, h₂, rfl⟩, hpay.registered,
      hpay.destinationExists, hpay.poolPermitted, _, h₃, rfl⟩

theorem run_settle_ok {s s' : Storage T} {self : PairSwapAction T}
    {w : T.AccountId} {t : Terms T} {u : Unit}
    (hin : t.source.toOption = some t.amountIn)
    (hout : t.destination.toOption = some t.amountOut) :
    ((self.completed w t).settle w t.feeAccount).run s = (.ok u, s') ↔
      Payable s self w t ∧
        ∃ l, T.currency.payAll (self.payments w t) s.ledger = .ok l ∧
          s' = { s with ledger := l } := by
  have hrun : ((self.completed w t).settle w t.feeAccount).run s =
      (if self.feeFromDestination then
        (self.completed w t).settleFeeFromDestination w
          (techAccountIdToAccountId t.feeAccount)
      else
        (self.completed w t).settleFeeFromSource w t.feeAccount).run s := rfl
  rw [hrun]
  cases hside : self.feeFromDestination with
  | true => exact run_settleFeeFromDestination_ok hside hin hout
  | false => exact run_settleFeeFromSource_ok hside hin hout

/-- The storage after the terms were settled with a resulting ledger. -/
def settled (s : Storage T) (self : PairSwapAction T) (l : T.currency.Ledger) :
    Storage T :=
  refreshed { s with ledger := l } self.poolAccount self.source.asset
    self.destination.asset

theorem run_reserve_ok {s s' : Storage T} {self : PairSwapAction T}
    {w : T.AccountId} {t : Terms T} {u : Unit}
    (hin : t.source.toOption = some t.amountIn)
    (hout : t.destination.toOption = some t.amountOut) :
    ((self.completed w t).reserve w).run s = (.ok u, s') ↔
      Payable s self w t ∧
        ∃ l, T.currency.payAll (self.payments w t) s.ledger = .ok l ∧
          s' = settled s self l := by
  simp only [reserve, Tx.run_withTransaction_eq_ok, Tx.run_bind_eq_ok,
    Tx.run_liftM_eq_ok, ensure_eq_ok, unwrap_eq_ok, run_refreshReserves_ok]
  constructor
  · rintro ⟨_, _, ⟨-, rfl⟩, _, _, ⟨hfa, rfl⟩, _, _, hsettle, -, -, rfl⟩
    cases hfa
    obtain ⟨hpay, l, hl, rfl⟩ := (run_settle_ok hin hout).mp hsettle
    exact ⟨hpay, l, hl, rfl⟩
  · rintro ⟨hpay, l, hl, rfl⟩
    exact ⟨(), s, ⟨rfl, rfl⟩, _, s, ⟨rfl, rfl⟩, (), _,
      (run_settle_ok hin hout).mpr ⟨hpay, l, hl, rfl⟩, hpay.sourceExists,
      hpay.destinationExists, rfl⟩

end PairSwapAction
end PoolXyk
end SoraParachain

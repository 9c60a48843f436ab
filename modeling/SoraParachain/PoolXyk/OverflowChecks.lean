import SoraParachain.PoolXyk.Quote
import SoraParachain.PoolXyk.ResolvedActions

/-!
# Swaps in a build with overflow checks

Most amounts of a swap are computed by checked fixed-point operators, but five
differences of balances are plain.  A release build wraps them around; a build
with overflow checks panics where one would be negative.  Here the swap path is
written once more over the subtraction of the build.  With wrapping differences
it is the path of the pallet; with checked ones it shows which swaps compute a
negative difference.
-/

namespace SoraParachain

/-- `a - b` on `u128` in a build with overflow checks. -/
def checkedSub (a b : ℕ) : Result ℕ :=
  if b ≤ a then .ok (a - b) else .error .panic

/-- `a - b` on `u128` in a build without them. -/
def uncheckedSub (a b : ℕ) : Result ℕ :=
  .ok (wrappingSub a b)

theorem checkedSub_of_le {a b : ℕ} (h : b ≤ a) :
    checkedSub a b = uncheckedSub a b := by
  rw [checkedSub, if_pos h, uncheckedSub, wrappingSub_of_le h]

theorem checkedSub_of_lt {a b : ℕ} (h : a < b) :
    checkedSub a b = .error .panic :=
  if_neg (not_le.mpr h)

namespace PoolXyk

open FixedWrapper (ofBalance)

variable {T : Config}

/-! ## The swap path over a subtraction -/

section

variable (minus : ℕ → ℕ → Result ℕ)

/-- `calcInputForExactOutput` with the subtraction of a build. -/
def calcInputForExactOutputBy (getFeeFromDestination : Bool)
    (x y yOut : ℕ) : Result (ℕ × ℕ) := do
  let fxwX := ofBalance x
  let fxwY := ofBalance y
  let fxwYOut := ofBalance yOut
  if getFeeFromDestination then
    let unit := balance 1
    let fractA ← getFeeForDestination unit
    let fractB ← minus unit fractA
    let fxwY1 := fxwYOut / ofBalance fractB
    let fxwXIn := fxwX / ((fxwY - fxwY1) / fxwY1)
    let fxwFee := fxwY1 - fxwYOut
    let xIn ← toBalance fxwXIn
    let fee ← toBalance fxwFee
    pure (xIn, fee)
  else
    let yMinusYOut ← minus y yOut
    let ymyoFee ← getFeeForSource yMinusYOut
    let ymyoSubfee ← minus yMinusYOut ymyoFee
    let fxwXIn := fxwX / (ofBalance ymyoSubfee / fxwYOut)
    let xIn ← toBalance fxwXIn
    let fee ← getFeeForSource xIn
    pure (xIn, fee)

namespace PairSwapAction

def decideAmountsBy (feeFromDestination : Bool) (source destination : Bounds)
    (balanceSt balanceTt : ℕ) : Result (Bounds × Bounds × ℕ) :=
  match source, destination with
  | .desired sa, .desired ta => do
      ensure (sa > 0) (poolError .zeroValueInAmountParameter)
      ensure (ta > 0) (poolError .zeroValueInAmountParameter)
      let yOutPair ←
        calcOutputForExactInput feeFromDestination balanceSt balanceTt sa
      let xInPair ← calcInputForExactOutputBy minus feeFromDestination
        balanceSt balanceTt ta
      ensure (¬(yOutPair.1 ≠ ta ∨ xInPair.1 ≠ sa ∨ yOutPair.2 ≠ xInPair.2))
        (poolError .poolPairRatioAndPairSwapRatioIsDifferent)
      pure (source, destination, yOutPair.2)
  | .desired sa, .min taMin => do
      ensure (sa > 0) (poolError .zeroValueInAmountParameter)
      let calculated ←
        calcOutputForExactInput feeFromDestination balanceSt balanceTt sa
      ensure (calculated.1 ≥ taMin)
        (poolError .calculatedValueIsOutOfDesiredBounds)
      pure (source, .calculated calculated.1, calculated.2)
  | .desired sa, _ => do
      ensure (sa > 0) (poolError .zeroValueInAmountParameter)
      fail (poolError .impossibleToDecideAssetPairAmounts)
  | .max saMax, .desired ta => do
      ensure (ta > 0) (poolError .zeroValueInAmountParameter)
      let calculated ← calcInputForExactOutputBy minus feeFromDestination
        balanceSt balanceTt ta
      ensure (calculated.1 ≤ saMax)
        (poolError .calculatedValueIsOutOfDesiredBounds)
      pure (.calculated calculated.1, destination, calculated.2)
  | _, .desired ta => do
      ensure (ta > 0) (poolError .zeroValueInAmountParameter)
      fail (poolError .impossibleToDecideAssetPairAmounts)
  | _, _ => fail (poolError .impossibleToDecideAssetPairAmounts)

def resolveAmountsBy (self : PairSwapAction T) (required : Bool)
    (balanceSt balanceTt : ℕ) : Result (PairSwapAction T × Option ℕ) :=
  if required then do
    let feeFromDestination ← unwrap self.getFeeFromDestination
    let amounts ← decideAmountsBy minus feeFromDestination self.source.amount
      self.destination.amount balanceSt balanceTt
    pure
      ({ self with
          source := { self.source with amount := amounts.1 }
          destination := { self.destination with amount := amounts.2.1 } },
        some amounts.2.2)
  else .ok (self, none)

def prepareAndValidateBy (s : Storage T) (self : PairSwapAction T)
    (sourceOpt : Option T.AccountId) : Result (PairSwapAction T) := do
  let abstractCheckingFromMethod := self.isAbstractChecking
  let abstractChecking := sourceOpt.isNone || abstractCheckingFromMethod
  let abstractCheckingForQuote :=
    sourceOpt.isNone && !abstractCheckingFromMethod
  let required := abstractCheckingForQuote || !abstractChecking
  let self ← self.resolveAccounts abstractChecking sourceOpt
  let poolAccountReprSys :=
    Technical.techAccountIdToAccountId self.poolAccount
  isPoolAccountValidFor s self.source.asset self.poolAccount
  let balanceSs ← self.sourceBalance s abstractChecking sourceOpt
  let balanceSt ← Assets.freeBalance s self.source.asset poolAccountReprSys
  let balanceTt ←
    Assets.freeBalance s self.destination.asset poolAccountReprSys
  ensureSourceBalance abstractChecking balanceSs
  ensurePoolNotEmpty balanceSt balanceTt
  let self := self.decideFeeSide
  let (self, recomFee) ← self.resolveAmountsBy minus required balanceSt
    balanceTt
  let self ← self.resolveFeeAccount
  let self ← self.resolveFee required abstractChecking recomFee balanceSs
    balanceTt
  if abstractChecking then pure self
  else do
    self.ensureValidAfterOp balanceSt balanceTt
    pure self

def settleFeeFromDestinationBy (self : PairSwapAction T)
    (source : T.AccountId) (feeAccountReprSys : T.AccountId) :
    Exec T Unit := do
  let sourceAmount ← self.source.amount.unwrap
  Technical.transferIn self.source.asset source self.poolAccount sourceAmount
  let fee ← unwrap self.fee
  Technical.transferOut self.destination.asset self.poolAccount
    feeAccountReprSys fee
  let receiver ← unwrap self.receiverAccount
  let destinationAmount ← self.destination.amount.unwrap
  let rest ← minus destinationAmount fee
  Technical.transferOut self.destination.asset self.poolAccount receiver rest

def settleFeeFromSourceBy (self : PairSwapAction T) (source : T.AccountId)
    (feeAccount : TechAccountIdOf T) : Exec T Unit := do
  let sourceAmount ← self.source.amount.unwrap
  let fee ← unwrap self.fee
  let rest ← minus sourceAmount fee
  Technical.transferIn self.source.asset source self.poolAccount rest
  Technical.transferIn self.source.asset source feeAccount fee
  let receiver ← unwrap self.receiverAccount
  let destinationAmount ← self.destination.amount.unwrap
  Technical.transferOut self.destination.asset self.poolAccount receiver
    destinationAmount

def settleBy (self : PairSwapAction T) (source : T.AccountId)
    (feeAccount : TechAccountIdOf T) : Exec T Unit := do
  let feeFromDestination ← unwrap self.getFeeFromDestination
  if feeFromDestination then
    self.settleFeeFromDestinationBy minus source
      (Technical.techAccountIdToAccountId feeAccount)
  else
    self.settleFeeFromSourceBy minus source feeAccount

def reserveBy (self : PairSwapAction T) (source : T.AccountId) :
    Exec T Unit :=
  Tx.withTransaction do
    ensure (some source = self.clientAccount)
      (poolError .sourceAndClientAccountDoNotMatchAsEqual)
    let feeAccount ← unwrap self.feeAccount
    self.settleBy minus source feeAccount
    refreshReserves self.poolAccount self.source.asset self.destination.asset

end PairSwapAction

def exchangeOutcomeBy (a : PairSwapAction T) (swapAmount : SwapAmount) :
    Result SwapOutcome := do
  let fee ← unwrap a.fee
  let feeFromDestination ← unwrap a.getFeeFromDestination
  match swapAmount with
  | .withDesiredInput _ _ => do
      let amount ← a.destination.amount.unwrap
      if feeFromDestination then do
        let rest ← minus amount fee
        pure ⟨rest, fee⟩
      else pure ⟨amount, fee⟩
  | .withDesiredOutput _ _ => do
      let amount ← a.source.amount.unwrap
      pure ⟨amount, fee⟩

/-- An exchange; a settled swap is always claimed at once. -/
def exchangeBy (sender receiver : T.AccountId) (dexId : T.DEXId)
    (inputAssetId outputAssetId : T.AssetId) (swapAmount : SwapAmount) :
    Exec T SwapOutcome := do
  let (_, techAccId) ← Tx.reads fun s =>
    techAccountFromDexAndAssetPair s dexId inputAssetId outputAssetId
  let action :=
    exchangeAction receiver techAccId inputAssetId outputAssetId swapAmount
  let action ← Tx.reads fun s =>
    action.prepareAndValidateBy minus s (some sender)
  let outcome ← exchangeOutcomeBy minus action swapAmount
  Tx.withTransaction (action.reserveBy minus sender)
  pure outcome

def swapPairBy (who receiver : T.AccountId) (dexId : T.DEXId)
    (inputAssetId outputAssetId : T.AssetId) (swapAmount : SwapAmount) :
    Exec T Unit := do
  let _ ← exchangeBy minus who receiver dexId inputAssetId outputAssetId
    swapAmount

/-- `createSwap` of an exchange action. -/
def createSwapBy (who : T.AccountId) (action : PairSwapAction T) :
    Exec T Unit := do
  ensure (action.isAbstractChecking = false)
    (.technical .operationWithAbstractCheckingIsImposible)
  let action ← Tx.reads fun s =>
    action.prepareAndValidateBy minus s (some who)
  Tx.withTransaction (action.reserveBy minus who)

end

/-! ### Without overflow checks it is the path of the pallet -/

theorem calcInputForExactOutputBy_uncheckedSub (side : Bool) (x y yOut : ℕ) :
    calcInputForExactOutputBy uncheckedSub side x y yOut =
      calcInputForExactOutput side x y yOut := by
  unfold calcInputForExactOutputBy calcInputForExactOutput
  cases side with
  | true =>
      apply Tx.except_bind_congr
      intro fractA _
      exact Tx.except_ok_bind _ _
  | false =>
      apply (Tx.except_ok_bind _ _).trans
      apply Tx.except_bind_congr
      intro ymyoFee _
      exact Tx.except_ok_bind _ _

namespace PairSwapAction

variable {a : PairSwapAction T}

theorem decideAmountsBy_uncheckedSub (side : Bool)
    (source destination : Bounds) (x y : ℕ) :
    decideAmountsBy uncheckedSub side source destination x y =
      decideAmounts side source destination x y := by
  unfold decideAmountsBy
  simp only [calcInputForExactOutputBy_uncheckedSub]
  rfl

theorem prepareAndValidateBy_uncheckedSub (s : Storage T)
    (source : Option T.AccountId) :
    a.prepareAndValidateBy uncheckedSub s source =
      a.prepareAndValidate s source := by
  simp only [prepareAndValidateBy, prepareAndValidate, resolveAmountsBy,
    resolveAmounts, decideAmountsBy_uncheckedSub]

theorem settleBy_uncheckedSub (source : T.AccountId)
    (feeAccount : TechAccountIdOf T) :
    a.settleBy uncheckedSub source feeAccount =
      a.settle source feeAccount := by
  rfl

theorem reserveBy_uncheckedSub (source : T.AccountId) :
    a.reserveBy uncheckedSub source = a.reserve source := by
  simp only [reserveBy, reserve, settleBy_uncheckedSub]

end PairSwapAction

theorem exchangeOutcomeBy_uncheckedSub (a : PairSwapAction T)
    (swapAmount : SwapAmount) :
    exchangeOutcomeBy uncheckedSub a swapAmount =
      exchangeOutcome a swapAmount := by
  rfl

/-- A settled swap is claimed at once. -/
theorem performCreateSwapUnchecked_pairSwap (who : T.AccountId)
    (a : PairSwapAction T) :
    Technical.performCreateSwapUnchecked who (PolySwapAction.pairSwap a) =
      Tx.withTransaction (a.reserve who) := by
  funext s
  change Tx.run (Tx.withTransaction (a.reserve who >>= fun _ => pure ())) s =
    Tx.run (Tx.withTransaction (a.reserve who)) s
  apply Tx.run_withTransaction_congr
  rw [Tx.run_bind]
  rcases h : (a.reserve who).run s with ⟨_ | u, s'⟩
  · rfl
  · rfl

theorem swapPairBy_uncheckedSub (who receiver : T.AccountId) (dexId : T.DEXId)
    (inputAssetId outputAssetId : T.AssetId) (swapAmount : SwapAmount) :
    swapPairBy uncheckedSub who receiver dexId inputAssetId outputAssetId
        swapAmount =
      swapPair who receiver dexId inputAssetId outputAssetId swapAmount := by
  simp only [swapPairBy, exchangeBy, swapPair, exchange,
    PairSwapAction.prepareAndValidateBy_uncheckedSub,
    PairSwapAction.reserveBy_uncheckedSub, exchangeOutcomeBy_uncheckedSub,
    performCreateSwapUnchecked_pairSwap]

theorem createSwapBy_uncheckedSub (who : T.AccountId) (a : PairSwapAction T) :
    createSwapBy uncheckedSub who a =
      Technical.createSwap who (PolySwapAction.pairSwap a) := by
  simp only [createSwapBy, PairSwapAction.prepareAndValidateBy_uncheckedSub,
    PairSwapAction.reserveBy_uncheckedSub, Technical.createSwap,
    Technical.performCreateSwap]
  funext s
  change Tx.run _ s = Tx.run _ s
  apply Tx.run_bind_congr
  intro _ s' _
  change (Tx.reads (fun s => a.prepareAndValidate s (some who)) >>= fun act =>
      Tx.withTransaction (act.reserve who)).run s' =
    ((Tx.reads (fun s => a.prepareAndValidate s (some who)) >>= fun act =>
      pure (PolySwapAction.pairSwap act)) >>= fun act =>
        Technical.performCreateSwapUnchecked who act).run s'
  rw [Tx.run_bind, Tx.run_bind, Tx.run_bind]
  rcases (Tx.reads fun s => a.prepareAndValidate s (some who)).run s' with
    ⟨_ | act, s''⟩
  · rfl
  · exact congrArg (Tx.run · s'')
      (performCreateSwapUnchecked_pairSwap who act).symm

/-! ## The price of an exact output -/

theorem calcInputForExactOutputBy_checkedSub {side : Bool} {x y yOut : ℕ}
    (h : side = false → yOut ≤ y) :
    calcInputForExactOutputBy checkedSub side x y yOut =
      calcInputForExactOutput side x y yOut := by
  rw [← calcInputForExactOutputBy_uncheckedSub]
  unfold calcInputForExactOutputBy
  cases side with
  | true =>
      apply Tx.except_bind_congr
      intro fractA hfract
      have hle : fractA ≤ balance 1 := by
        obtain ⟨-, rfl⟩ := feeOf_eq_ok.mp hfract
        decide
      rw [checkedSub_of_le hle]
  | false =>
      rw [checkedSub_of_le (h rfl)]
      apply Tx.except_bind_congr
      intro yMinusYOut _
      apply Tx.except_bind_congr
      intro ymyoFee hfee
      have hle : ymyoFee ≤ yMinusYOut := by
        obtain ⟨-, rfl⟩ := feeOf_eq_ok.mp hfee
        omega
      rw [checkedSub_of_le hle]

theorem calcInputForExactOutputBy_panics {x y yOut : ℕ} (h : y < yOut) :
    calcInputForExactOutputBy checkedSub false x y yOut = .error .panic := by
  unfold calcInputForExactOutputBy
  rw [checkedSub_of_lt h]
  exact Tx.except_error_bind _ _

namespace PairSwapAction

/-- The amounts of a swap make its validation ask for the input of an exact
output with the fee taken from the source. -/
def PricesOutput (side : Bool) (x y : ℕ) (source destination : Bounds)
    (ta : ℕ) : Prop :=
  side = false ∧ destination = .desired ta ∧ 0 < ta ∧
    ((∃ saMax, source = .max saMax) ∨
      ∃ sa yOutPair, source = .desired sa ∧ 0 < sa ∧
        calcOutputForExactInput false x y sa = .ok yOutPair)

variable {side : Bool} {x y ta : ℕ} {source destination : Bounds}

theorem decideAmountsBy_checkedSub
    (h : ∀ ta, PricesOutput side x y source destination ta → ta ≤ y) :
    decideAmountsBy checkedSub side source destination x y =
      decideAmounts side source destination x y := by
  rw [← decideAmountsBy_uncheckedSub]
  unfold decideAmountsBy
  split
  · rename_i sa ta
    apply Tx.except_bind_congr
    intro _ hsa
    apply Tx.except_bind_congr
    intro _ hta
    apply Tx.except_bind_congr
    intro yOutPair hout
    have hle : side = false → ta ≤ y := by
      rintro rfl
      exact h ta ⟨rfl, rfl, ensure_eq_ok.mp hta,
        Or.inr ⟨sa, yOutPair, rfl, ensure_eq_ok.mp hsa, hout⟩⟩
    rw [calcInputForExactOutputBy_checkedSub hle,
      calcInputForExactOutputBy_uncheckedSub]
  · rfl
  · rfl
  · rename_i saMax ta
    apply Tx.except_bind_congr
    intro _ hta
    have hle : side = false → ta ≤ y := by
      rintro rfl
      exact h ta ⟨rfl, rfl, ensure_eq_ok.mp hta, Or.inl ⟨saMax, rfl⟩⟩
    rw [calcInputForExactOutputBy_checkedSub hle,
      calcInputForExactOutputBy_uncheckedSub]
  · rfl
  · rfl

theorem decideAmountsBy_panics
    (h : PricesOutput side x y source destination ta) (hlt : y < ta) :
    decideAmountsBy checkedSub side source destination x y =
      .error .panic := by
  obtain ⟨rfl, rfl, hta, ⟨saMax, rfl⟩ | ⟨sa, yOutPair, rfl, hsa, hout⟩⟩ := h
  · rw [decideAmountsBy, (ensure_eq_ok (u := ())).mpr hta, Tx.except_ok_bind,
      calcInputForExactOutputBy_panics hlt]
    exact Tx.except_error_bind _ _
  · rw [decideAmountsBy, (ensure_eq_ok (u := ())).mpr hsa, Tx.except_ok_bind,
      (ensure_eq_ok (u := ())).mpr hta, Tx.except_ok_bind, hout,
      Tx.except_ok_bind, calcInputForExactOutputBy_panics hlt]
    exact Tx.except_error_bind _ _

variable {s : Storage T} {a : PairSwapAction T} {w : T.AccountId}

theorem resolveAmountsBy_checkedSub
    (hside : a.getFeeFromDestination = some side)
    (h : ∀ ta, PricesOutput side x y a.source.amount a.destination.amount ta →
      ta ≤ y) :
    a.resolveAmountsBy checkedSub true x y = a.resolveAmounts true x y := by
  simp only [resolveAmountsBy, resolveAmounts, hside, if_true]
  apply Tx.except_bind_congr
  intro side' hside'
  cases hside'
  rw [decideAmountsBy_checkedSub h]

theorem resolveAmountsBy_panics
    (hside : a.getFeeFromDestination = some side)
    (h : PricesOutput side x y a.source.amount a.destination.amount ta)
    (hlt : y < ta) :
    a.resolveAmountsBy checkedSub true x y = .error .panic := by
  rw [resolveAmountsBy, if_pos rfl, unwrap_eq_ok.mpr hside, Tx.except_ok_bind,
    decideAmountsBy_panics h hlt]
  exact Tx.except_error_bind _ _

/-- The validation of the action gets to the price of an exact output with the
fee taken from the source. -/
structure Prices (s : Storage T) (a : PairSwapAction T) (w : T.AccountId)
    (ta : ℕ) : Prop where
  client : a.clientAccount = none ∨ a.clientAccount = some w
  registered : Technical.IsRegistered s a.poolAccount
  sourceExists : Assets.Exists s a.source.asset
  destinationExists : Assets.Exists s a.destination.asset
  signerPositive : 0 < s.free a.source.asset w
  reserves : 0 < s.free a.source.asset a.poolRepr ∧
    0 < s.free a.destination.asset a.poolRepr
  amounts : PricesOutput a.feeFromDestination
    (s.free a.source.asset a.poolRepr)
    (s.free a.destination.asset a.poolRepr) a.source.amount
    a.destination.amount ta

theorem prepareAndValidateBy_checkedSub (hab : a.isAbstractChecking = false)
    (h : ∀ ta, Prices s a w ta →
      ta ≤ s.free a.destination.asset a.poolRepr) :
    a.prepareAndValidateBy checkedSub s (some w) =
      a.prepareAndValidate s (some w) := by
  unfold prepareAndValidateBy prepareAndValidate
  simp only [hab, Option.isNone_some, Bool.or_false, Bool.not_false,
    Bool.or_true, Bool.false_eq_true, if_false]
  apply Tx.except_bind_congr
  intro act hact
  obtain ⟨hclient, rfl⟩ := resolveAccounts_eq_ok.mp hact
  apply Tx.except_bind_congr
  intro _ hreg
  have hreg := Technical.ensureTechAccountRegistered_eq_ok.mp hreg
  apply Tx.except_bind_congr
  intro balanceSs hss
  obtain ⟨-, rfl⟩ := sourceBalance_eq_ok.mp hss
  apply Tx.except_bind_congr
  intro st hst
  obtain ⟨hsource, rfl⟩ := Assets.freeBalance_eq_ok.mp hst
  apply Tx.except_bind_congr
  intro tt htt
  obtain ⟨hdestination, rfl⟩ := Assets.freeBalance_eq_ok.mp htt
  apply Tx.except_bind_congr
  intro _ hpositive
  have hpositive := ensureSourceBalance_eq_ok.mp hpositive
  apply Tx.except_bind_congr
  intro _ hpool
  have hpool := ensurePoolNotEmpty_eq_ok.mp hpool
  refine congrArg (· >>= _) (resolveAmountsBy_checkedSub rfl fun ta hta => ?_)
  exact h ta ⟨hclient, hreg, hsource, hdestination, hpositive, hpool, hta⟩

theorem prepareAndValidateBy_panics (hab : a.isAbstractChecking = false)
    (h : Prices s a w ta)
    (hlt : s.free a.destination.asset a.poolRepr < ta) :
    a.prepareAndValidateBy checkedSub s (some w) = .error .panic := by
  unfold prepareAndValidateBy
  simp only [hab, Option.isNone_some, Bool.or_false, Bool.not_false,
    Bool.or_true, Bool.false_eq_true, if_false]
  refine (Tx.except_bind_of_ok
    (resolveAccounts_eq_ok.mpr ⟨h.client, rfl⟩) _).trans ?_
  refine (Tx.except_bind_of_ok
    ((Technical.ensureTechAccountRegistered_eq_ok (u := ())).mpr
      h.registered) _).trans ?_
  refine (Tx.except_bind_of_ok
    (sourceBalance_eq_ok.mpr ⟨h.sourceExists, rfl⟩) _).trans ?_
  refine (Tx.except_bind_of_ok
    (Assets.freeBalance_eq_ok.mpr ⟨h.sourceExists, rfl⟩) _).trans ?_
  refine (Tx.except_bind_of_ok
    (Assets.freeBalance_eq_ok.mpr ⟨h.destinationExists, rfl⟩) _).trans ?_
  refine (Tx.except_bind_of_ok
    ((ensureSourceBalance_eq_ok (u := ())).mpr h.signerPositive) _).trans ?_
  refine (Tx.except_bind_of_ok
    ((ensurePoolNotEmpty_eq_ok (u := ())).mpr h.reserves) _).trans ?_
  have hpanics : resolveAmountsBy checkedSub
      ({ a with
        clientAccount := some w
        receiverAccount := some (a.receiver w) } :
        PairSwapAction T).decideFeeSide true
      (s.free a.source.asset a.poolRepr)
      (s.free a.destination.asset a.poolRepr) = .error .panic :=
    resolveAmountsBy_panics rfl h.amounts hlt
  apply (congrArg (· >>= _) hpanics).trans
  exact Tx.except_error_bind _ _

end PairSwapAction
end PoolXyk
end SoraParachain

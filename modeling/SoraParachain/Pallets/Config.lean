import Mathlib.Data.Finset.Insert
import Mathlib.Data.List.AList
import SoraParachain.Common.Primitives
import SoraParachain.Library.Ledger
import SoraParachain.Library.Transaction

/-!
# Configuration and storage of the runtime

`Config` gathers what the pallets take from the runtime they are built into:
the identifier types, the currency, the account references, the hashes and the
conversions between identifiers.  `Storage` holds every storage item that the
modelled calls read or write.  A call is a computation over the storage; a
panic is kept apart from a dispatch error because nothing reports it to the
caller.
-/

namespace SoraParachain

abbrev PermissionId := ℕ

/-- Where a permission applies. -/
inductive Scope where
  | limited (hash : H512)
  | unlimited
  deriving DecidableEq

/-- Whether holding a permission permits or forbids the action. -/
inductive Mode where
  | permit
  | forbid
  deriving DecidableEq

/-- Nonces and references of accounts. -/
structure System (AccountId : Type) where
  State : Type
  accountNonce : AccountId → State → ℕ
  incAccountNonce : AccountId → State → State
  incProviders : AccountId → State → State
  incConsumers : AccountId → State → Option State

/-- One argument of an asset record. -/
inductive AssetRecordArg (DEXId AccountId : Type) where
  | genericU128 (n : ℕ)
  | extra
      (arg : AssetIdExtraAssetRecordArg DEXId LiquiditySourceType AccountId)
  deriving DecidableEq

/-- What an asset identifier was derived from. -/
inductive AssetRecord (DEXId AccountId : Type) where
  | arity3 (a b c : AssetRecordArg DEXId AccountId)
  deriving DecidableEq

/-- The parameters of the runtime.

The account of a technical account is a hash of its encoding, and the
identifier of a derived asset is a hash of its record or of its registering
account and nonce.  Every identifier is a fixed number of bytes, so decoding
a hash never fails. -/
structure Config where
  AccountId : Type
  AssetId : Type
  TechAssetId : Type
  DEXId : Type
  [decEqAccountId : DecidableEq AccountId]
  [decEqAssetId : DecidableEq AssetId]
  [decEqTechAssetId : DecidableEq TechAssetId]
  [decEqDEXId : DecidableEq DEXId]
  currency : MultiCurrency AssetId AccountId
  system : System AccountId
  getBaseAssetId : AssetId
  defaultAccountId : AccountId
  techAssetIdInto : TechAssetId → AssetId
  techAssetIdTryFrom : AssetId → Option TechAssetId
  techAccountIdRepr : TechAccountId AccountId TechAssetId DEXId → AccountId
  assetIdOfRecord : AssetRecord DEXId AccountId → AssetId
  assetIdOfNonce : AccountId → ℕ → AssetId
  hashAssetId : AssetId → H512
  hashAssetIdPair : AssetId → AssetId → H512
  hashDEXId : DEXId → H512
  markingAssetTag : ℕ

attribute [instance] Config.decEqAccountId Config.decEqAssetId
  Config.decEqTechAssetId Config.decEqDEXId

instance (T : Config) : LawfulBEq T.AccountId := inferInstance

/-- The technical accounts of a runtime. -/
abbrev TechAccountIdOf (T : Config) : Type :=
  TechAccountId T.AccountId T.TechAssetId T.DEXId

/-- Hashes of different descriptions differ.  A derived identifier starts with a
zero byte, which keeps its conversion to a technical asset reversible. -/
structure Config.CollisionFree (T : Config) : Prop where
  repr : Function.Injective T.techAccountIdRepr
  record : Function.Injective T.assetIdOfRecord
  nonce_ne_record : ∀ who nonce record,
    T.assetIdOfNonce who nonce ≠ T.assetIdOfRecord record
  into_of_tryFrom : ∀ record techAsset,
    T.techAssetIdTryFrom (T.assetIdOfRecord record) = some techAsset →
      T.techAssetIdInto techAsset = T.assetIdOfRecord record

/-! ## Errors -/

inductive PermissionsError where
  | permissionNotFound
  | permissionNotOwned
  | permissionAlreadyExists
  | forbidden
  | incRefError
  deriving DecidableEq

inductive AssetsError where
  | assetIdAlreadyExists
  | assetIdNotExists
  | invalidAssetSymbol
  | invalidAssetName
  | invalidPrecision
  | assetSupplyIsNotMintable
  | invalidAssetOwner
  | incRefError
  deriving DecidableEq

inductive TechnicalError where
  | techAccountIdIsNotRegistered
  | notImplemented
  | operationWithAbstractCheckingIsImposible
  deriving DecidableEq

inductive DexManagerError where
  | dexDoesNotExist
  deriving DecidableEq

inductive TradingPairError where
  | tradingPairExists
  | forbiddenBaseAssetId
  | identicalAssetIds
  | tradingPairDoesntExist
  deriving DecidableEq

inductive PoolXykError where
  | poolPairRatioAndPairSwapRatioIsDifferent
  | pairSwapActionFeeIsSmallerThanRecommended
  | sourceBalanceIsNotLargeEnough
  | targetBalanceIsNotLargeEnough
  | unableToDeriveFeeAccount
  | feeAccountIsInvalid
  | sourceAndClientAccountDoNotMatchAsEqual
  | assetsMustNotBeSame
  | impossibleToDecideAssetPairAmounts
  | impossibleToDecideDepositLiquidityAmounts
  | invalidDepositLiquidityBasicAssetAmount
  | invalidDepositLiquidityTargetAssetAmount
  | pairSwapActionMinimumLiquidityIsSmallerThanRecommended
  | destinationAmountOfLiquidityIsNotLargeEnough
  | sourceBaseAmountIsNotLargeEnough
  | targetBaseAmountIsNotLargeEnough
  | poolIsInvalid
  | poolIsEmpty
  | zeroValueInAmountParameter
  | accountBalanceIsInvalid
  | invalidDepositLiquidityDestinationAmount
  | initialLiqudityDepositRatioMustBeDefined
  | invalidWithdrawLiquidityBasicAssetAmount
  | invalidWithdrawLiquidityTargetAssetAmount
  | sourceBalanceOfLiquidityTokensIsNotLargeEnough
  | invalidAssetForLiquidityMarking
  | assetDecodingError
  | calculatedValueIsOutOfDesiredBounds
  | baseAssetIsNotMatchedWithAnyAssetArguments
  | poolInitializationIsInvalid
  | poolIsAlreadyInitialized
  | invalidMinimumBoundValueOfBalance
  | impossibleToDecideValidPairValuesFromRangeForThisPool
  | rangeValuesIsInvalid
  | calculatedValueIsNotMeetsRequiredBoundaries
  | fixedWrapperCalculationFailed
  | poolBecameInvalidAfterOperation
  | unableToConvertAssetToTechAssetId
  deriving DecidableEq

inductive LiquidityProxyError where
  | unavailableExchangePath
  | aggregationError
  | calculationError
  | slippageNotTolerated
  deriving DecidableEq

inductive BondingCurveError where
  | calculatePriceFailed
  | cantExchangeOnItself
  | notEnoughReserves
  | cantExchange
  deriving DecidableEq

inductive DispatchError where
  | permissions (e : PermissionsError)
  | assets (e : AssetsError)
  | technical (e : TechnicalError)
  | dexManager (e : DexManagerError)
  | tradingPair (e : TradingPairError)
  | poolXyk (e : PoolXykError)
  | liquidityProxy (e : LiquidityProxyError)
  | bondingCurve (e : BondingCurveError)
  | foreign (e : ForeignError)
  deriving DecidableEq

/-- How a call can end without success: with an error for its caller, or in
an `unwrap` or `unreachable!` that stops the runtime. -/
inductive Failure where
  | error (e : DispatchError)
  | panic
  deriving DecidableEq

/-! ## Storage -/

/-- Symbol, name, precision and mintability of an asset. -/
structure AssetInfo where
  symbol : List UInt8
  name : List UInt8
  precision : ℕ
  isMintable : Bool
  deriving DecidableEq

/-- What is stored for an asset without information. -/
def AssetInfo.default : AssetInfo where
  symbol := []
  name := []
  precision := 0
  isMintable := false

structure Storage (T : Config) where
  ledger : T.currency.Ledger
  system : T.system.State
  permissionOwners : PermissionId → Scope → List T.AccountId
  modes : PermissionId → Option Mode
  permissions : T.AccountId → AList (fun _ : Scope => List PermissionId)
  assetOwners : T.AssetId → T.AccountId
  assetInfos : T.AssetId → AssetInfo
  assetRecords : T.AssetId → Option (AssetRecord T.DEXId T.AccountId)
  techAccounts : T.AccountId → Option (TechAccountIdOf T)
  dexInfos : T.DEXId → Option (DEXInfo T.AssetId)
  enabledSources : T.DEXId → TradingPair T.AssetId →
    Option (Finset LiquiditySourceType)
  reserves : T.AssetId → T.AssetId → ℕ × ℕ
  properties : T.AssetId → T.AssetId →
    Option (T.AccountId × T.AccountId × T.AssetId)
  markerTokensIndex : Finset T.AssetId

namespace Storage

variable {T : Config}

/-- The balances of the stored ledger. -/
def book (s : Storage T) : Book T.AssetId T.AccountId :=
  T.currency.book s.ledger

/-- The free balance of an account. -/
def free (s : Storage T) (assetId : T.AssetId) (who : T.AccountId) : ℕ :=
  s.book.free assetId who

def issuance (s : Storage T) (assetId : T.AssetId) : ℕ :=
  s.book.issuance assetId

end Storage

/-- Set one cell of a double map. -/
def insert₂ {α β γ : Type} [DecidableEq α] [DecidableEq β]
    (m : α → β → γ) (a : α) (b : β) (c : γ) : α → β → γ :=
  fun x y => if x = a ∧ y = b then c else m x y

/-- A computation of the runtime. -/
abbrev Exec (T : Config) : Type → Type :=
  Tx (Storage T) Failure

/-- A question that is answered or fails. -/
abbrev Result : Type → Type :=
  Except Failure

/-- Fail with an error for the caller. -/
def fail {α : Type} (e : DispatchError) : Result α :=
  .error (.error e)

/-- `ensure!`: fail with the error unless the condition holds. -/
def ensure (c : Prop) [Decidable c] (e : DispatchError) : Result Unit :=
  if c then .ok () else fail e

/-- Take the value of an option, or stop the runtime. -/
def unwrap {α : Type} : Option α → Result α
  | some a => .ok a
  | none => .error .panic

/-- Take the value of an option, or fail with the error. -/
def okOr {α : Type} (e : DispatchError) : Option α → Result α
  | some a => .ok a
  | none => fail e

/-- Pass the answer of foreign code on. -/
def foreign {α : Type} : Except ForeignError α → Result α
  | .ok a => .ok a
  | .error e => fail (.foreign e)

section

variable {α : Type}

@[simp] theorem ensure_eq_ok {c : Prop} [Decidable c] {e : DispatchError}
    {u : Unit} :
    ensure c e = .ok u ↔ c := by
  by_cases hc : c
  · simp [ensure, hc]
  · simp [ensure, hc, fail]

@[simp] theorem fail_ne_ok {e : DispatchError} {a : α} :
    (fail e : Result α) = .ok a ↔ False := by
  simp [fail]

@[simp] theorem unwrap_eq_ok {o : Option α} {a : α} :
    unwrap o = .ok a ↔ o = some a := by
  cases o with
  | none => simp [unwrap]
  | some b => simp [unwrap]

@[simp] theorem okOr_eq_ok {e : DispatchError} {o : Option α} {a : α} :
    okOr e o = .ok a ↔ o = some a := by
  cases o with
  | none => simp [okOr]
  | some b => simp [okOr]

@[simp] theorem foreign_eq_ok {x : Except ForeignError α} {a : α} :
    foreign x = .ok a ↔ x = .ok a := by
  cases x with
  | ok b => simp [foreign]
  | error e => simp [foreign]

end
end SoraParachain

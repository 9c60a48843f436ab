import SoraParachain.Library.Simulation
import SoraParachain.LiquidityProxy.DexApi
import SoraParachain.MockLiquiditySource.Pallet
import SoraParachain.PoolXyk.Quote

/-!
# One interface for all sources

The DEX API dispatches on the type of a source.  The composition is the one that
the pallet is tested in: the pools of the XYK pallet, four instances of the mock
source with reserves of their own, and nothing in the place of the bonding
curves.  Only the pools touch the storage of the other pallets.
-/

namespace SoraParachain

inductive SwapVariant where
  | withDesiredInput
  | withDesiredOutput
  deriving DecidableEq

def SwapAmount.withVariant (variant : SwapVariant) (amount limit : ℕ) :
    SwapAmount :=
  match variant with
  | .withDesiredInput => .withDesiredInput amount limit
  | .withDesiredOutput => .withDesiredOutput amount limit

namespace DexApi

open LiquidityProxy (LiquiditySourceId LiquiditySourceFilter)

variable {T : Config}

/-! ## Sources -/

/-- `LiquiditySource`.  Asking a source leaves no trace, an exchange may. -/
structure LiquiditySource (T : Config) (S : Type) where
  canExchange : S → T.DEXId → T.AssetId → T.AssetId → Result Bool
  quote : S → T.DEXId → T.AssetId → T.AssetId → SwapAmount →
    Result SwapOutcome
  exchange : T.AccountId → T.AccountId → T.DEXId → T.AssetId → T.AssetId →
    SwapAmount → Tx S Failure SwapOutcome

/-- `DispatchError::CannotLookup`, which no pallet reports. -/
def cannotLookup : DispatchError := .foreign ⟨255, 0⟩

/-- The source `()`. -/
def LiquiditySource.unit (S : Type) : LiquiditySource T S where
  canExchange _ _ _ _ := .ok false
  quote _ _ _ _ _ := fail cannotLookup
  exchange _ _ _ _ _ _ := throw (.error cannotLookup)

inductive MockPool where
  | mockPool
  | mockPool2
  | mockPool3
  | mockPool4
  deriving DecidableEq

/-- The storage of the pallets, the reserves of the mock sources and the types of
sources that the DEX API supports. -/
structure Market (T : Config) where
  storage : Storage T
  mockReserves : MockPool → MockLiquiditySource.Reserves T
  enabledSourceTypes : List LiquiditySourceType

/-- The storage of the pallets as a part of everything. -/
def Market.storagePart : Part (Market T) (Storage T) where
  get m := m.storage
  set s m := { m with storage := s }
  get_set _ _ := rfl
  set_get _ := rfl
  set_set _ _ _ := rfl

/-- A computation on everything. -/
abbrev MarketExec (T : Config) : Type → Type :=
  Tx (Market T) Failure

def poolXyk : LiquiditySource T (Market T) where
  canExchange m dexId inputAssetId outputAssetId :=
    ((PoolXyk.canExchange dexId inputAssetId outputAssetId).run m.storage).1
  quote m dexId inputAssetId outputAssetId swapAmount :=
    ((PoolXyk.quote dexId inputAssetId outputAssetId swapAmount).run
      m.storage).1
  exchange sender receiver dexId inputAssetId outputAssetId swapAmount :=
    Tx.onPart Market.storagePart
      (PoolXyk.exchange sender receiver dexId inputAssetId outputAssetId
        swapAmount)

def mockLiquiditySource (I : MockLiquiditySource.Instance) (pool : MockPool) :
    LiquiditySource T (Market T) where
  canExchange m dexId inputAssetId outputAssetId :=
    .ok (MockLiquiditySource.canExchange (m.mockReserves pool) dexId
      inputAssetId outputAssetId)
  quote m dexId inputAssetId outputAssetId swapAmount :=
    I.quote (m.mockReserves pool) dexId inputAssetId outputAssetId swapAmount
  exchange sender receiver dexId inputAssetId outputAssetId swapAmount :=
    Tx.reads fun m =>
      I.exchange (m.mockReserves pool) sender receiver dexId inputAssetId
        outputAssetId swapAmount

/-- The instances of the mock source. -/
abbrev Mocks : Type :=
  MockPool → MockLiquiditySource.Instance

/-- The source of a type. -/
def source (I : Mocks) : LiquiditySourceType → LiquiditySource T (Market T)
  | .xykPool => poolXyk
  | .bondingCurvePool => .unit _
  | .multicollateralBondingCurvePool => .unit _
  | .mockPool => mockLiquiditySource (I .mockPool) .mockPool
  | .mockPool2 => mockLiquiditySource (I .mockPool2) .mockPool2
  | .mockPool3 => mockLiquiditySource (I .mockPool3) .mockPool3
  | .mockPool4 => mockLiquiditySource (I .mockPool4) .mockPool4

/-! ## The pallet -/

def canExchange (I : Mocks) (m : Market T)
    (liquiditySourceId : LiquiditySourceId T.DEXId)
    (inputAssetId outputAssetId : T.AssetId) : Result Bool :=
  (source I liquiditySourceId.liquiditySourceIndex).canExchange m
    liquiditySourceId.dexId inputAssetId outputAssetId

def quote (I : Mocks) (m : Market T)
    (liquiditySourceId : LiquiditySourceId T.DEXId)
    (inputAssetId outputAssetId : T.AssetId) (swapAmount : SwapAmount) :
    Result SwapOutcome :=
  (source I liquiditySourceId.liquiditySourceIndex).quote m
    liquiditySourceId.dexId inputAssetId outputAssetId swapAmount

def exchange (I : Mocks) (sender receiver : T.AccountId)
    (liquiditySourceId : LiquiditySourceId T.DEXId)
    (inputAssetId outputAssetId : T.AssetId) (swapAmount : SwapAmount) :
    MarketExec T SwapOutcome :=
  (source I liquiditySourceId.liquiditySourceIndex).exchange sender receiver
    liquiditySourceId.dexId inputAssetId outputAssetId swapAmount

/-- `get_supported_types`. -/
def getSupportedTypes (m : Market T) : List LiquiditySourceType :=
  m.enabledSourceTypes

/-- The source of a supported type, if it passes the filter and can exchange. -/
def listedSource (I : Mocks) (m : Market T)
    (inputAssetId outputAssetId : T.AssetId)
    (filter : LiquiditySourceFilter T.DEXId)
    (sourceType : LiquiditySourceType) :
    Result (Option (LiquiditySourceId T.DEXId)) :=
  if filter.matchesIndex sourceType then do
    let can ← canExchange I m ⟨filter.dexId, sourceType⟩ inputAssetId
      outputAssetId
    pure (if can then some ⟨filter.dexId, sourceType⟩ else none)
  else pure none

def listLiquiditySources (I : Mocks) (m : Market T)
    (inputAssetId outputAssetId : T.AssetId)
    (filter : LiquiditySourceFilter T.DEXId) :
    Result (List (LiquiditySourceId T.DEXId)) := do
  let supportedTypes := getSupportedTypes m
  let _ ← DexManager.ensureDexExists m.storage filter.dexId
  supportedTypes.filterMapM
    (listedSource I m inputAssetId outputAssetId filter)

/-- Without a receiver the sender receives. -/
def swap (I : Mocks) (sender : T.AccountId) (dexId : T.DEXId)
    (liquiditySourceType : LiquiditySourceType)
    (inputAssetId outputAssetId : T.AssetId) (amount limit : ℕ)
    (swapVariant : SwapVariant) (receiver : Option T.AccountId) :
    MarketExec T Unit := do
  let receiver := receiver.getD sender
  let _ ← exchange I sender receiver ⟨dexId, liquiditySourceType⟩ inputAssetId
    outputAssetId (SwapAmount.withVariant swapVariant amount limit)

/-- Replace the reserves of a mock source.  Any account may. -/
def setReserve (pool : MockPool) (dexId : T.DEXId) (targetId : T.AssetId)
    (baseReserve targetReserve : FixedNumber) : MarketExec T Unit :=
  Tx.modify fun m =>
    { m with
      mockReserves := Function.update m.mockReserves pool
        (MockLiquiditySource.setReserve dexId targetId baseReserve targetReserve
          (m.mockReserves pool)) }

/-- The genesis of the pallet. -/
def build (sourceTypes : List LiquiditySourceType) (m : Market T) : Market T :=
  { m with enabledSourceTypes := sourceTypes }

end DexApi
end SoraParachain

import SoraParachain.Common.Linspace
import SoraParachain.Pallets.Config

/-!
# The sources of liquidity and what the proxy asks of them

The proxy knows its sources through a registry, which lists them, quotes them and
executes exchanges on them, and through the prices and reserves of two markets.
None of these is part of the proxy.  The storage it runs on has the balances apart
from everything else that the sources keep.
-/

namespace SoraParachain
namespace LiquidityProxy

/-- The balances, and what else the sources keep. -/
structure Chain (T : Config) (Market : Type) where
  free : T.AssetId → T.AccountId → ℕ
  market : Market

structure LiquiditySourceId (DEXId : Type) where
  dexId : DEXId
  liquiditySourceIndex : LiquiditySourceType
  deriving DecidableEq

/-- The sources of a DEX that are selected, or those that are not. -/
structure LiquiditySourceFilter (DEXId : Type) where
  dexId : DEXId
  selected : List LiquiditySourceType
  forbidSelected : Bool
  deriving DecidableEq

/-- What the proxy is configured with. -/
structure ProxyConfig (T : Config) where
  Market : Type
  getNumSamples : ℕ
  getTechnicalAccountId : T.AccountId
  listLiquiditySources : Chain T Market → T.AssetId → T.AssetId →
    LiquiditySourceFilter T.DEXId → Result (List (LiquiditySourceId T.DEXId))
  quote : Chain T Market → LiquiditySourceId T.DEXId → T.AssetId →
    T.AssetId → SwapAmount → Result SwapOutcome
  buyPrice : Chain T Market → T.AssetId → T.AssetId → Result FixedNumber
  sellPrice : Chain T Market → T.AssetId → T.AssetId → Result FixedNumber
  collateralReserves : Chain T Market → T.AssetId → Result ℕ
  reserves : Chain T Market → T.AssetId → T.AssetId → ℕ × ℕ

variable {T : Config}

/-- The storage that a configured proxy runs on. -/
abbrev ChainOf (P : ProxyConfig T) : Type :=
  Chain T P.Market

/-- A computation on the storage of the proxy. -/
abbrev ProxyExec (P : ProxyConfig T) : Type → Type :=
  Tx (ChainOf P) Failure

/-- How the sources execute an exchange: from the sender and the receiver, the
source, the two assets and the amount. -/
abbrev Sources (P : ProxyConfig T) : Type :=
  T.AccountId → T.AccountId → LiquiditySourceId T.DEXId → T.AssetId →
    T.AssetId → SwapAmount → ProxyExec P SwapOutcome

def proxyError (e : LiquidityProxyError) : DispatchError :=
  .liquidityProxy e

/-- Replace any error for the caller by one of the proxy. -/
def mapErr {α : Type} (e : LiquidityProxyError) : Result α → Result α
  | .ok a => .ok a
  | .error (.error _) => fail (proxyError e)
  | .error .panic => .error .panic

/-- The value, or an error of the proxy for an arithmetic error. -/
def calculated {α : Type} : Except ArithmeticError α → Result α
  | .ok a => .ok a
  | .error _ => fail (proxyError .calculationError)

/-- The value, or another one instead of an error. -/
def unwrapOr {α : Type} (a : α) : Result α → Result α
  | .ok b => .ok b
  | .error (.error _) => .ok a
  | .error .panic => .error .panic

/-- `Balance::MAX`. -/
def maxBalance : ℕ := balanceModulus - 1

/-- `a + b` on `u128`, which wraps around in a release build. -/
def wrappingAdd (a b : ℕ) : ℕ :=
  (a + b) % balanceModulus

@[simp] theorem calculated_eq_ok {α : Type} {x : Except ArithmeticError α}
    {a : α} :
    calculated x = .ok a ↔ x = .ok a := by
  cases x with
  | ok b => simp [calculated]
  | error e => simp [calculated]

/-- The share of the whole. -/
def fixedOne : FixedNumber := ⟨10 ^ 18, by decide⟩

def fixedZero : FixedNumber := ⟨0, fits_zero⟩

/-- `Fixed::MAX`. -/
def fixedMax : FixedNumber := ⟨2 ^ 127 - 1, fits_max⟩

end LiquidityProxy
end SoraParachain

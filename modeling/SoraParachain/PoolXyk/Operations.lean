import SoraParachain.Pallets.Technical
import SoraParachain.Pallets.TradingPair

/-!
# Bounds and actions of the pool

An amount is given by a bound that validation resolves to one value.  An action
names the pool account it works on and the resources it takes and gives.
-/

namespace SoraParachain
namespace PoolXyk

inductive Bounds where
  /-- Computed, not set by a user. -/
  | calculated (a : ℕ)
  /-- Fixed by the user. -/
  | desired (a : ℕ)
  | min (a : ℕ)
  | max (a : ℕ)
  /-- The desired value for an empty pool, a range otherwise. -/
  | rangeFromDesiredToMin (desired min : ℕ)
  /-- To be computed and filled in. -/
  | decide
  /-- Not needed, for abstract checks. -/
  | dummy
  deriving DecidableEq, Repr

namespace Bounds

/-- The known value of a bound. -/
def toOption : Bounds → Option ℕ
  | .calculated a => some a
  | .desired a => some a
  | .rangeFromDesiredToMin a _ => some a
  | _ => none

@[simp] theorem toOption_calculated (a : ℕ) :
    (calculated a).toOption = some a := rfl

@[simp] theorem toOption_desired (a : ℕ) :
    (desired a).toOption = some a := rfl

/-- The known value of a bound; there must be one. -/
def unwrap (b : Bounds) : Result ℕ :=
  SoraParachain.unwrap b.toOption

def meetsTheBoundaries (self rhs : Bounds) : Bool :=
  match self, self.toOption, rhs.toOption with
  | .min a, _, some b => Decidable.decide (a ≤ b)
  | .max a, _, some b => Decidable.decide (a ≥ b)
  | .rangeFromDesiredToMin a b, _, some c =>
      Decidable.decide (a ≥ c) && Decidable.decide (c ≤ b)
  | _, some a, some b => Decidable.decide (a = b)
  | _, _, _ => false

@[simp] theorem unwrap_eq_ok {b : Bounds} {n : ℕ} :
    b.unwrap = .ok n ↔ b.toOption = some n :=
  SoraParachain.unwrap_eq_ok

@[simp] theorem meetsTheBoundaries_min {a b : ℕ} :
    meetsTheBoundaries (.min a) (.calculated b) = true ↔ a ≤ b := by
  simp [meetsTheBoundaries, toOption]

end Bounds

structure Resource (AssetId : Type) where
  asset : AssetId
  amount : Bounds
  deriving DecidableEq

structure ResourcePair (AssetId : Type) where
  fst : Resource AssetId
  snd : Resource AssetId
  deriving DecidableEq

structure PairSwapAction (T : Config) where
  clientAccount : Option T.AccountId
  receiverAccount : Option T.AccountId
  poolAccount : TechAccountIdOf T
  source : Resource T.AssetId
  destination : Resource T.AssetId
  fee : Option ℕ
  feeAccount : Option (TechAccountIdOf T)
  getFeeFromDestination : Option Bool

structure DepositLiquidityAction (T : Config) where
  clientAccount : Option T.AccountId
  receiverAccount : Option T.AccountId
  poolAccount : TechAccountIdOf T
  source : ResourcePair T.AssetId
  destination : Resource T.TechAssetId
  minLiquidity : Option ℕ

structure WithdrawLiquidityAction (T : Config) where
  clientAccount : Option T.AccountId
  receiverAccountA : Option T.AccountId
  receiverAccountB : Option T.AccountId
  poolAccount : TechAccountIdOf T
  source : Resource T.TechAssetId
  destination : ResourcePair T.AssetId

inductive PolySwapAction (T : Config) where
  | pairSwap (a : PairSwapAction T)
  | depositLiquidity (a : DepositLiquidityAction T)
  | withdrawLiquidity (a : WithdrawLiquidityAction T)

/-- Fail with an error of the pool. -/
abbrev poolError (e : PoolXykError) : DispatchError :=
  .poolXyk e

end PoolXyk
end SoraParachain

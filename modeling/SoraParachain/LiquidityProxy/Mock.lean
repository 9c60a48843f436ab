import SoraParachain.LiquidityProxy.PricedSources
import SoraParachain.Mock

/-!
# A proxy to execute exchanges on

Two pools trade along the same curve: `x` units of the one asset buy `√x` units of
the other.  Red pepper is only traded by the first of them.  Everybody has the same
balance of everything.
-/

namespace SoraParachain
namespace Mock

open LiquidityProxy

/-- The price along the curve. -/
def curve : SwapAmount → SwapOutcome
  | .withDesiredInput desiredAmountIn _ => ⟨Nat.sqrt desiredAmountIn, 0⟩
  | .withDesiredOutput desiredAmountOut _ => ⟨desiredAmountOut ^ 2, 0⟩

def firstPool : LiquiditySourceId ℕ := ⟨0, .mockPool⟩
def secondPool : LiquiditySourceId ℕ := ⟨0, .mockPool2⟩

/-- The account that the proxy trades through. -/
def transitAccount : ℕ := 1

/-- A proxy that quotes with two samples. -/
def proxy : ProxyConfig runtime where
  Market := Unit
  getNumSamples := 2
  getTechnicalAccountId := transitAccount
  listLiquiditySources _ inputAssetId outputAssetId _ :=
    if inputAssetId = redPepper ∨ outputAssetId = redPepper then
      .ok [firstPool]
    else .ok [firstPool, secondPool]
  quote _ _ _ _ amount := .ok (curve amount)
  buyPrice _ _ _ := .ok fixedOne
  sellPrice _ _ _ := .ok fixedOne
  collateralReserves _ _ := .ok 0
  reserves _ _ _ := (0, 0)

/-- The same proxy with pools that quote otherwise. -/
def proxyQuoting
    (quote : LiquiditySourceId ℕ → SwapAmount → Result SwapOutcome) :
    ProxyConfig runtime :=
  { proxy with quote := fun _ src _ _ amount => quote src amount }

/-- The second pool charges two units for a trade, the first one a unit. -/
def chargingProxy : ProxyConfig runtime :=
  proxyQuoting fun src amount =>
    .ok ⟨(curve amount).amount, if src = firstPool then 1 else 2⟩

/-- The pools trade at their quotes. -/
def pools : Sources proxy := pricedSources proxy curve

def anyFilter : LiquiditySourceFilter ℕ := ⟨0, [], false⟩

/-- Everybody has a hundred units of everything. -/
def market : ChainOf proxy where
  free _ _ := 100
  market := ()

end Mock
end SoraParachain

import SoraParachain.BondingCurvePool.Pallet
import SoraParachain.Mock

/-!
# A pool to execute exchanges with

The mock runtime sells its base asset for red pepper and burns black pepper.  The
DEX API trades with an account of its own, at a hundredth of what it is given.
-/

namespace SoraParachain
namespace Mock

open BondingCurvePool
open Technical (techAccountIdToAccountId)

/-- The technical account of the pool with a number. -/
def techAccount (n : UInt8) : TechAccountIdOf runtime :=
  .pure dexA (.identifier [n])

def curveReserves : TechAccountIdOf runtime := techAccount 0

/-- The account that the DEX API trades from. -/
def dexMarket : ℕ := techAccountIdToAccountId (T := runtime) (techAccount 9)

def dexApiExchange (sender receiver : ℕ) (_ : ℕ) (input output : ℕ) :
    SwapAmount → Exec runtime SwapOutcome
  | .withDesiredInput desiredAmountIn _ => do
      Assets.transferFrom (T := runtime) input sender dexMarket desiredAmountIn
      Assets.transferFrom (T := runtime) output dexMarket receiver
        (desiredAmountIn / 100)
      pure ⟨desiredAmountIn / 100, 0⟩
  | .withDesiredOutput _ _ => fail (.foreign ⟨0, 0⟩)

/-- A tenth, or two of them. -/
def tenths (n : Fin 3) : FixedNumber :=
  ⟨n * 10 ^ 17, by
    constructor
    · change -((2 ^ 127 : ℕ) : ℤ) ≤ _
      omega
    · change _ < ((2 ^ 127 : ℕ) : ℤ)
      omega⟩

/-- Four technical accounts and Carol share the free reserves with the holders
of black pepper. -/
def distributionAccounts : DistributionAccounts runtime where
  xorAllocation := ⟨.techAccount (techAccount 1), tenths 2⟩
  soraCitizens := ⟨.techAccount (techAccount 2), tenths 1⟩
  storesAndShops := ⟨.techAccount (techAccount 3), tenths 1⟩
  parliamentAndDevelopment := ⟨.account carol.account, tenths 2⟩
  projects := ⟨.techAccount (techAccount 4), tenths 2⟩
  valHolders := ⟨.techAccount (techAccount 5), tenths 2⟩

/-- The curve pool with the parameters that a chain starts with. -/
def curvePool : Pool runtime where
  polkaswap := dexA
  usdt := redPepper
  val := blackPepper
  reservedBalance _ _ _ := 0
  dexApiExchange := dexApiExchange
  curve := .default
  reservesAcc := curveReserves
  distributionAccounts := distributionAccounts

/-- The genesis with the pool set up; it keeps some reserves, and the DEX API
has plenty of everything. -/
@[irreducible] def curveGenesis (reserves : ℕ) : Storage runtime :=
  ((do
    ([0, 1, 2, 3, 4].map techAccount).forM Technical.registerTechAccountId
    let _ ← curvePool.setReservesAccountId curveReserves
    Assets.mintTo redPepper alice.account curvePool.reservesAccountId reserves
    Assets.transferFrom goldenTicket alice.account dexMarket (10 ^ 6 * unit)
    Assets.transferFrom blackPepper alice.account dexMarket (10 ^ 6 * unit) :
      Exec runtime Unit).run genesis).2

/-- An exchange of Alice for Bob. -/
def curveExchange (input output : ℕ) (amount : SwapAmount) :
    Exec runtime SwapOutcome :=
  curvePool.exchange alice.account bob.account dexA input output amount

def curveQuote (s : Storage runtime) (input output : ℕ)
    (amount : SwapAmount) : Result SwapOutcome :=
  curvePool.quote s dexA input output amount

/-- Little more than the first purchases need. -/
def smallReserves : ℕ := 1000 * unit

/-- The small reserves, with so much more of the base asset issued. -/
def curveWith (extra : ℕ) : Storage runtime :=
  ((Assets.mintTo (T := runtime) goldenTicket alice.account alice.account
    extra).run (curveGenesis smallReserves)).2

/-- Alice sells one unit for Bob. -/
def curveSale : Exec runtime SwapOutcome :=
  curveExchange goldenTicket redPepper (.withDesiredInput unit 0)

/-- Alice buys one unit for Bob, and would pay nothing for it. -/
def curvePurchase : Exec runtime SwapOutcome :=
  curveExchange redPepper goldenTicket (.withDesiredOutput unit 0)

theorem curveSale_ok :
    curveSale.run (curveGenesis smallReserves) =
      (.ok ⟨92147759200800000000, 92239999200000000⟩,
        (curveSale.run (curveGenesis smallReserves)).2) :=
  Prod.ext (by decide +kernel) rfl

end Mock
end SoraParachain

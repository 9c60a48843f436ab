import SoraParachain.Library.Transaction
import SoraParachain.Library.Ledger
import SoraParachain.Library.Runs
import SoraParachain.Library.Shares
import SoraParachain.Library.ConstantProduct
import SoraParachain.Library.FlooredParts
import SoraParachain.Library.BinarySearch
import SoraParachain.Library.FlooredQuadratic
import SoraParachain.Library.Allocation
import SoraParachain.Library.EvenSpacing
import SoraParachain.Library.Audit
import SoraParachain.Library.FlooredExchange
import SoraParachain.Library.Simulation
import SoraParachain.Library.Format
import SoraParachain.Library.Scale
import SoraParachain.Library.Payouts
import SoraParachain.Common.FixedWrapper
import SoraParachain.Common.Primitives
import SoraParachain.Common.Linspace
import SoraParachain.Common.AssetId32
import SoraParachain.Common.TechAccountId
import SoraParachain.Pallets.Config
import SoraParachain.Pallets.Permissions
import SoraParachain.Pallets.Assets
import SoraParachain.Pallets.DexManager
import SoraParachain.Pallets.Technical
import SoraParachain.Pallets.TradingPair
import SoraParachain.PoolXyk.Operations
import SoraParachain.PoolXyk.Math
import SoraParachain.PoolXyk.Utils
import SoraParachain.PoolXyk.PairSwap
import SoraParachain.PoolXyk.DepositLiquidity
import SoraParachain.PoolXyk.WithdrawLiquidity
import SoraParachain.PoolXyk.Pallet
import SoraParachain.PoolXyk.PairSwapSpec
import SoraParachain.PoolXyk.DepositSpec
import SoraParachain.PoolXyk.WithdrawSpec
import SoraParachain.PoolXyk.Calls
import SoraParachain.Runtime
import SoraParachain.Mock
import SoraParachain.Pallets.Prohibitions
import SoraParachain.Pallets.PermissionVectors
import SoraParachain.Pallets.PermissionMock
import SoraParachain.Pallets.PermissionRuns
import SoraParachain.Pallets.PermissionOwners
import SoraParachain.Pallets.PermissionFailures
import SoraParachain.Pallets.AssetUpdates
import SoraParachain.Pallets.Grants
import SoraParachain.Pallets.Genesis
import SoraParachain.PoolXyk.Books
import SoraParachain.PoolXyk.ShareWorth
import SoraParachain.PoolXyk.ExchangeAmounts
import SoraParachain.PoolXyk.Errors
import SoraParachain.PoolXyk.InitializeSpec
import SoraParachain.PoolXyk.ReservePositivity
import SoraParachain.PoolXyk.CallerBounds
import SoraParachain.PoolXyk.Conservation
import SoraParachain.PoolXyk.MarkerSupply
import SoraParachain.PoolXyk.FeeRule
import SoraParachain.PoolXyk.FailedCalls
import SoraParachain.PoolXyk.Registry
import SoraParachain.PoolXyk.PoolLifetime
import SoraParachain.PoolXyk.Quote
import SoraParachain.PoolXyk.AssetBinding
import SoraParachain.PoolXyk.AssetIdentity
import SoraParachain.PoolXyk.ReservesCache
import SoraParachain.PoolXyk.Funding
import SoraParachain.PoolXyk.OptimalDeposit
import SoraParachain.PoolXyk.DepositOutcome
import SoraParachain.PoolXyk.ResolvedActions
import SoraParachain.PoolXyk.OverflowChecks
import SoraParachain.PoolXyk.SwapSubtractions
import SoraParachain.PoolXyk.PriceRounding
import SoraParachain.PoolXyk.AssetOrder
import SoraParachain.PoolXyk.BalanceSheet
import SoraParachain.PoolXyk.RegistryAgreement
import SoraParachain.PoolXyk.AssetAuthority
import SoraParachain.PoolXyk.AssetRecords
import SoraParachain.PoolXyk.Redemption
import SoraParachain.PoolXyk.ShareProduct
import SoraParachain.PoolXyk.GenesisPools
import SoraParachain.BondingCurvePool.Pallet
import SoraParachain.BondingCurvePool.Exchange
import SoraParachain.BondingCurvePool.Mock
import SoraParachain.BondingCurvePool.QuoteAgreement
import SoraParachain.BondingCurvePool.Settlement
import SoraParachain.BondingCurvePool.Reserves
import SoraParachain.BondingCurvePool.RoundTrip
import SoraParachain.BondingCurvePool.Splitting
import SoraParachain.BondingCurvePool.ExactCurve
import SoraParachain.BondingCurvePool.ExactSales
import SoraParachain.BondingCurvePool.Backing
import SoraParachain.LiquidityProxy.Algo
import SoraParachain.LiquidityProxy.Registry
import SoraParachain.MockLiquiditySource.Pallet
import SoraParachain.MockLiquiditySource.Prices
import SoraParachain.MockLiquiditySource.Quotes
import SoraParachain.LiquidityProxy.Exchange
import SoraParachain.LiquidityProxy.Shares
import SoraParachain.LiquidityProxy.Trades
import SoraParachain.LiquidityProxy.ExchangeSpec
import SoraParachain.LiquidityProxy.Mock
import SoraParachain.LiquidityProxy.Slippage
import SoraParachain.LiquidityProxy.Transit
import SoraParachain.LiquidityProxy.Delivery
import SoraParachain.LiquidityProxy.FastSplit
import SoraParachain.LiquidityProxy.BestDistribution
import SoraParachain.LiquidityProxy.SamplingPoints
import SoraParachain.LiquidityProxy.Planners
import SoraParachain.LiquidityProxy.SampledFees
import SoraParachain.LiquidityProxy.Paths
import SoraParachain.LiquidityProxy.DexApi
import SoraParachain.LiquidityProxy.ListedSources
import SoraParachain.LiquidityProxy.Limits
import SoraParachain.LiquidityProxy.Calls
import SoraParachain.DexApi.Pallet
import SoraParachain.DexApi.Runs
import SoraParachain.DexApi.Settlement
import SoraParachain.FixedSupply.Operations
import SoraParachain.FixedSupply.Pools
import SoraParachain.FixedSupply.Runs

import Usdd.Lib.Transaction
import Usdd.Lib.Runs
import Usdd.Lib.UpdateSum
import Usdd.Lib.RewardAccumulator
import Usdd.Lib.Ratio
import Usdd.Lib.CompoundingStake
import Usdd.Lib.RoundedPower
import Usdd.Lib.LinkedList
import Usdd.Lib.IndexedList
import Usdd.Lib.Numeral
import Usdd.LiquityBase
import Usdd.SortedTroves
import Usdd.SortedTrovesHistory
import Usdd.USDDToken
import Usdd.Pools
import Usdd.TroveManager
import Usdd.TroveViews
import Usdd.TroveWrites
import Usdd.BorrowerOperations
import Usdd.StabilityPool
import Usdd.StabilityPoolWrites
import Usdd.Liquidation
import Usdd.Redemption
import Usdd.LoopRules
import Usdd.Protocol
import Usdd.Book
import Usdd.FrontEnds
import Usdd.PoolShares
import Usdd.Registry
import Usdd.Accounts
import Usdd.RewardCover
import Usdd.StakeLiveness
import Usdd.RatioOrder
import Usdd.PoolSolvency
import Usdd.CollGains
import Usdd.FrontEndStakes
import Usdd.DEFTGains
import Usdd.Ledger
import Usdd.TroveCalls
import Usdd.BorrowerCalls
import Usdd.PoolCalls
import Usdd.LiquidationCalls
import Usdd.RedemptionCalls
import Usdd.TokenFailures
import Usdd.TokenCalls
import Usdd.ProtocolPaths
import Usdd.MarketRuns
import Usdd.PoolRuns
import Usdd.Backing
import Usdd.USDDCustody
import Usdd.USDDCustodyRuns
import Usdd.IssuanceSchedule
import Usdd.PriceFeed
import Usdd.PriceFeedTrust
import Usdd.PriceFeedFailures
import Usdd.Staking
import Usdd.StakingRuns
import Usdd.Unipool
import Usdd.UnipoolRuns
import Usdd.ModeGuards
import Usdd.RecoveryGuards
import Usdd.BaseRate
import Usdd.FeeRuns
import Usdd.DecPow
import Usdd.DepositViews
import Usdd.Epochs
import Usdd.LiquidationParts
import Usdd.FirstRedemption
import Usdd.HintHelpers
import Usdd.LibBase.Decimal
import Usdd.LibBase.DecimalString
import Usdd.LibBase.DecimalPrinting
import Usdd.LibBase.Fees
import Usdd.LibBase.Trove
import Usdd.LibBase.TroveParams
import Usdd.LibBase.TrovePredictions
import Usdd.TroveRights
import Usdd.LiquidationRights
import Usdd.RedemptionRights
import Usdd.OwnerEquity
import Usdd.CollateralFlows
import Usdd.CollateralCustody
import Usdd.SequenceBatch
import Usdd.MultiTroveGetter
import Usdd.BorrowerRequires
import Usdd.DevFrontend.ValidateTroveChange
import Usdd.DevFrontend.ValidationSound
import Usdd.Providers.BatchedProvider
import Usdd.Providers.BatchedSettlement
import Usdd.BorrowerWrappers

import Usdd.Lib.UpdateSum
import Usdd.SortedTroves

/-!
# Storage of the contracts

The storage of every contract of one market, and the addresses at which the market is deployed.
Fields are those that the modelled functions read or write. `JournalEntry` is not storage: the
model records each restake, redistribution, offset and change of a deposit with the storage it
starts from, so that a property of a run can speak about the steps inside a transaction.
-/

open Transaction

namespace Usdd

inductive Status
  | nonExistent
  | active
  | closedByOwner
  | closedByLiquidation
  | closedByRedemption
  deriving DecidableEq

structure Trove where
  debt : ℕ
  coll : ℕ
  stake : ℕ
  status : Status
  arrayIndex : ℕ
  deriving DecidableEq

structure RewardSnapshot where
  coll : ℕ
  usddDebt : ℕ
  deriving DecidableEq

structure TroveManager where
  troves : Address → Trove
  totalStakes : ℕ
  totalStakesSnapshot : ℕ
  totalCollateralSnapshot : ℕ
  lColl : ℕ
  lUSDDDebt : ℕ
  rewardSnapshots : Address → RewardSnapshot
  troveOwners : List Address
  lastETHErrorRedistribution : ℕ
  lastUSDDDebtErrorRedistribution : ℕ

structure Fees where
  baseRate : ℕ
  lastFeeOperationTime : ℕ
  deploymentStartTime : ℕ

/-- Active and default pool: collateral per token, and debt. -/
structure Pool where
  balances : Address → ℕ
  usddDebt : ℕ

structure CollSurplusPool where
  colls : Address → ℕ
  balances : Address → Address → ℕ

structure FrontEnd where
  kickbackRate : ℕ
  registered : Bool
  deriving DecidableEq

structure Deposit where
  initialValue : ℕ
  frontEndTag : Address
  deriving DecidableEq

structure Snapshots where
  S : ℕ
  P : ℕ
  G : ℕ
  scale : ℕ
  epoch : ℕ
  deriving DecidableEq

structure StabilityPool where
  coll : ℕ
  totalUSDDDeposits : ℕ
  deposits : Address → Deposit
  depositSnapshots : Address → Snapshots
  frontEnds : Address → FrontEnd
  frontEndStakes : Address → ℕ
  frontEndSnapshots : Address → Snapshots
  P : ℕ
  currentScale : ℕ
  currentEpoch : ℕ
  epochToScaleToSum : ℕ → ℕ → ℕ
  epochToScaleToG : ℕ → ℕ → ℕ
  lastDEFTError : ℕ
  lastCollErrorOffset : ℕ
  lastUSDDLossErrorOffset : ℕ

structure CommunityIssuance where
  deftSupplyCap : ℕ
  totalDEFTIssued : ℕ
  startTime : ℕ

structure DEFTStaking where
  totalDEFTStaked : ℕ
  fColls : Address → ℕ
  fUSDD : ℕ

/-- The supply is the sum of the balances by construction. -/
structure USDDToken where
  totalSupply : ℕ
  balances : Address → ℕ
  allowances : Address → Address → ℕ
  nonces : Address → ℕ
  sum_balances : ∑ a, balances a = totalSupply

inductive JournalEntry
  | restake (troveManager : TroveManager) (borrower : Address)
  | redistribute (troveManager : TroveManager) (sortedTroves : SortedTroves.Data) (debt coll : ℕ)
  | offset (stabilityPool : StabilityPool) (debt : ℕ)
  | changeDeposit (stabilityPool : StabilityPool) (depositor : Address)

structure State where
  troveManager : TroveManager
  fees : Fees
  sortedTroves : SortedTroves.Data
  activePool : Pool
  defaultPool : Pool
  collSurplusPool : CollSurplusPool
  stabilityPool : StabilityPool
  communityIssuance : CommunityIssuance
  deftStaking : DEFTStaking
  usddToken : USDDToken
  tokens : Address → Address → ℕ
  deft : Address → ℕ
  timestamp : ℕ
  journal : List JournalEntry

structure Deployment where
  borrowerOperations : Address
  troveManager : Address
  stabilityPool : Address
  activePool : Address
  defaultPool : Address
  gasPool : Address
  collSurplusPool : Address
  usddToken : Address
  deftStaking : Address
  communityIssuance : Address
  wETHGateway : Address
  collToken : Address

/-- The contracts that hold funds and move them only through the functions of this model. -/
def Deployment.contracts (D : Deployment) : List Address :=
  [D.borrowerOperations, D.troveManager, D.stabilityPool, D.activePool, D.defaultPool, D.gasPool,
    D.collSurplusPool, D.usddToken, D.communityIssuance]

/-- What the wiring of `connectCoreContracts` guarantees: the contracts are deployed at different
addresses, none of them null. -/
structure Deployment.Wired (D : Deployment) : Prop where
  nodup : (D.deftStaking :: D.wETHGateway :: D.contracts).Nodup
  nonzero : 0 ∉ D.deftStaking :: D.wETHGateway :: D.contracts

/-- The caller of a transaction, the price that the feed returns in it and its block time. -/
structure Message where
  sender : Address
  price : ℕ
  timestamp : ℕ

end Usdd

import Usdd.Pools

/-!
# TroveManager: troves, stakes and redistribution

The part of TroveManager that liquidation, redemption and BorrowerOperations share. Functions on
the contract's own storage come first, then those that also call the list or the pools.
-/

open Transaction

namespace Usdd.TroveManager

def minuteDecayFactor : ℕ := 999037758833783000

def redemptionFeeFloor : ℕ := decimalPrecision / 1000 * 5

def maxBorrowingFee : ℕ := decimalPrecision / 100 * 5

def secondsInOneMinute : ℕ := 60

def bootstrapPeriod : ℕ := 14 * 24 * 60 * 60

def beta : ℕ := 2

section Views

variable (tm : TroveManager) (borrower : Address)

def getPendingCollReward : Tx ℕ := do
  let rewardPerUnitStaked ← SafeMath.sub tm.lColl (tm.rewardSnapshots borrower).coll
  if rewardPerUnitStaked = 0 ∨ (tm.troves borrower).status ≠ .active then pure 0
  else pure ((tm.troves borrower).stake * rewardPerUnitStaked / decimalPrecision)

def getPendingUSDDDebtReward : Tx ℕ := do
  let rewardPerUnitStaked ← SafeMath.sub tm.lUSDDDebt (tm.rewardSnapshots borrower).usddDebt
  if rewardPerUnitStaked = 0 ∨ (tm.troves borrower).status ≠ .active then pure 0
  else pure ((tm.troves borrower).stake * rewardPerUnitStaked / decimalPrecision)

def hasPendingRewards : Bool :=
  if (tm.troves borrower).status ≠ .active then false
  else (tm.rewardSnapshots borrower).coll < tm.lColl

def getCurrentTroveAmounts : Tx (ℕ × ℕ) := do
  let pendingCollReward ← getPendingCollReward tm borrower
  let pendingUSDDDebtReward ← getPendingUSDDDebtReward tm borrower
  pure ((tm.troves borrower).coll + pendingCollReward,
    (tm.troves borrower).debt + pendingUSDDDebtReward)

def getNominalICR : Tx ℕ := do
  let current ← getCurrentTroveAmounts tm borrower
  pure (LiquityMath.computeNominalCR current.1 current.2)

def getCurrentICR (price : ℕ) : Tx ℕ := do
  let current ← getCurrentTroveAmounts tm borrower
  pure (LiquityMath.computeCR current.1 current.2 price)

end Views

structure EntireDebtAndColl where
  debt : ℕ
  coll : ℕ
  pendingUSDDDebtReward : ℕ
  pendingCollReward : ℕ

def getEntireDebtAndColl (tm : TroveManager) (borrower : Address) : Tx EntireDebtAndColl := do
  let pendingUSDDDebtReward ← getPendingUSDDDebtReward tm borrower
  let pendingCollReward ← getPendingCollReward tm borrower
  pure
    { debt := (tm.troves borrower).debt + pendingUSDDDebtReward
      coll := (tm.troves borrower).coll + pendingCollReward
      pendingUSDDDebtReward := pendingUSDDDebtReward
      pendingCollReward := pendingCollReward }

section Writes

def setTrove (tm : TroveManager) (borrower : Address) (t : Trove) : TroveManager :=
  { tm with troves := Function.update tm.troves borrower t }

def setTroveStatus (tm : TroveManager) (borrower : Address) (status : Status) : TroveManager :=
  tm.setTrove borrower { tm.troves borrower with status := status }

def increaseTroveColl (tm : TroveManager) (borrower : Address) (collIncrease : ℕ) :
    TroveManager :=
  tm.setTrove borrower
    { tm.troves borrower with coll := (tm.troves borrower).coll + collIncrease }

def decreaseTroveColl (tm : TroveManager) (borrower : Address) (collDecrease : ℕ) :
    Tx TroveManager := do
  let newColl ← SafeMath.sub (tm.troves borrower).coll collDecrease
  pure (tm.setTrove borrower { tm.troves borrower with coll := newColl })

def increaseTroveDebt (tm : TroveManager) (borrower : Address) (debtIncrease : ℕ) :
    TroveManager :=
  tm.setTrove borrower
    { tm.troves borrower with debt := (tm.troves borrower).debt + debtIncrease }

def decreaseTroveDebt (tm : TroveManager) (borrower : Address) (debtDecrease : ℕ) :
    Tx TroveManager := do
  let newDebt ← SafeMath.sub (tm.troves borrower).debt debtDecrease
  pure (tm.setTrove borrower { tm.troves borrower with debt := newDebt })

def updateTroveRewardSnapshots (tm : TroveManager) (borrower : Address) : TroveManager :=
  { tm with
    rewardSnapshots := Function.update tm.rewardSnapshots borrower ⟨tm.lColl, tm.lUSDDDebt⟩ }

def removeStake (tm : TroveManager) (borrower : Address) : Tx TroveManager := do
  let totalStakes ← SafeMath.sub tm.totalStakes (tm.troves borrower).stake
  pure { tm.setTrove borrower { tm.troves borrower with stake := 0 } with
    totalStakes := totalStakes }

def computeNewStake (tm : TroveManager) (coll : ℕ) : Tx ℕ :=
  if tm.totalCollateralSnapshot = 0 then pure coll
  else do
    assert (tm.totalStakesSnapshot > 0) "totalStakesSnapshot > 0"
    SafeMath.div (coll * tm.totalStakesSnapshot) tm.totalCollateralSnapshot

def updateStakeAndTotalStakes (tm : TroveManager) (borrower : Address) : Tx TroveManager := do
  let newStake ← computeNewStake tm (tm.troves borrower).coll
  let oldStake := (tm.troves borrower).stake
  let totalStakes ← SafeMath.sub tm.totalStakes oldStake
  pure { tm.setTrove borrower { tm.troves borrower with stake := newStake } with
    totalStakes := totalStakes + newStake }

def addTroveOwnerToArray (tm : TroveManager) (borrower : Address) : TroveManager :=
  { tm.setTrove borrower { tm.troves borrower with arrayIndex := tm.troveOwners.length } with
    troveOwners := tm.troveOwners ++ [borrower] }

/-- The last owner moves into the place of the removed one. -/
def removeTroveOwner (tm : TroveManager) (borrower : Address) (troveOwnersArrayLength : ℕ) :
    Tx TroveManager := do
  assert ((tm.troves borrower).status ≠ .nonExistent ∧ (tm.troves borrower).status ≠ .active)
    "troveStatus != Status.nonExistent && troveStatus != Status.active"
  let index := (tm.troves borrower).arrayIndex
  let idxLast ← SafeMath.sub troveOwnersArrayLength 1
  assert (index ≤ idxLast) "index <= idxLast"
  let addressToMove := tm.troveOwners.getD idxLast 0
  let tm := { tm with troveOwners := (tm.troveOwners.set index addressToMove).dropLast }
  pure (tm.setTrove addressToMove { tm.troves addressToMove with arrayIndex := index })

/-- The accumulators after `debt` and `coll` are spread over all stakes. The division errors are
fed back into the next redistribution. -/
def addRewardTerms (tm : TroveManager) (debt coll : ℕ) : Tx TroveManager := do
  let ethNumerator := coll * decimalPrecision + tm.lastETHErrorRedistribution
  let usddDebtNumerator := debt * decimalPrecision + tm.lastUSDDDebtErrorRedistribution
  let ethRewardPerUnitStaked ← SafeMath.div ethNumerator tm.totalStakes
  let usddDebtRewardPerUnitStaked ← SafeMath.div usddDebtNumerator tm.totalStakes
  let lastETHError ← SafeMath.sub ethNumerator (ethRewardPerUnitStaked * tm.totalStakes)
  let lastUSDDDebtError ←
    SafeMath.sub usddDebtNumerator (usddDebtRewardPerUnitStaked * tm.totalStakes)
  pure { tm with
    lColl := tm.lColl + ethRewardPerUnitStaked
    lUSDDDebt := tm.lUSDDDebt + usddDebtRewardPerUnitStaked
    lastETHErrorRedistribution := lastETHError
    lastUSDDDebtErrorRedistribution := lastUSDDDebtError }

end Writes

section System

variable (D : Deployment)

def getEntireSystemColl (s : State) : ℕ :=
  s.activePool.balances D.collToken + s.defaultPool.balances D.collToken

def getEntireSystemDebt (s : State) : ℕ := s.activePool.usddDebt + s.defaultPool.usddDebt

def getTCR (s : State) (price : ℕ) : ℕ :=
  LiquityMath.computeCR (getEntireSystemColl D s) (getEntireSystemDebt s) price

def checkRecoveryMode (s : State) (price : ℕ) : Bool := getTCR D s price < CCR

def checkPotentialRecoveryMode (entireSystemColl entireSystemDebt price : ℕ) : Bool :=
  LiquityMath.computeCR entireSystemColl entireSystemDebt price < CCR

def requireTroveIsActive (s : State) (borrower : Address) : Tx Unit :=
  require ((s.troveManager.troves borrower).status = .active)
    "TroveManager: Trove does not exist or is closed"

def requireMoreThanOneTroveInSystem (s : State) (troveOwnersArrayLength : ℕ) : Tx Unit :=
  require (troveOwnersArrayLength > 1 ∧ s.sortedTroves.size > 1)
    "TroveManager: Only one trove in the system"

def movePendingTroveRewardsToActivePool (s : State) (usdd coll : ℕ) : Tx State := do
  let s ← DefaultPool.decreaseUSDDDebt D D.troveManager s usdd
  let s ← ActivePool.increaseUSDDDebt D D.troveManager s usdd
  DefaultPool.sendToActivePool D D.troveManager s D.collToken coll

def applyPendingRewards (s : State) (borrower : Address) : Tx State :=
  if hasPendingRewards s.troveManager borrower then do
    requireTroveIsActive s borrower
    let tm := s.troveManager
    let pendingCollReward ← getPendingCollReward tm borrower
    let pendingUSDDDebtReward ← getPendingUSDDDebtReward tm borrower
    let tm := increaseTroveColl tm borrower pendingCollReward
    let tm := increaseTroveDebt tm borrower pendingUSDDDebtReward
    let tm := updateTroveRewardSnapshots tm borrower
    movePendingTroveRewardsToActivePool D { s with troveManager := tm } pendingUSDDDebtReward
      pendingCollReward
  else pure s

/-- `updateStakeAndTotalStakes`, entered into the journal. -/
def restake (s : State) (borrower : Address) : Tx State := do
  let tm ← updateStakeAndTotalStakes s.troveManager borrower
  pure { s with
    troveManager := tm
    journal := .restake s.troveManager borrower :: s.journal }

def redistributeDebtAndColl (s : State) (debt coll : ℕ) : Tx State :=
  if debt = 0 then pure s
  else do
    let entry := JournalEntry.redistribute s.troveManager s.sortedTroves debt coll
    let tm ← addRewardTerms s.troveManager debt coll
    let s := { s with troveManager := tm, journal := entry :: s.journal }
    let s ← ActivePool.decreaseUSDDDebt D D.troveManager s debt
    let s ← DefaultPool.increaseUSDDDebt D D.troveManager s debt
    let s ← ActivePool.sendColl D D.troveManager s D.troveManager D.collToken coll
    DefaultPool.receiveColl D D.troveManager s D.collToken coll

def closeTrove (s : State) (borrower : Address) (closedStatus : Status) : Tx State := do
  assert (closedStatus ≠ .nonExistent ∧ closedStatus ≠ .active)
    "closedStatus != Status.nonExistent && closedStatus != Status.active"
  let troveOwnersArrayLength := s.troveManager.troveOwners.length
  requireMoreThanOneTroveInSystem s troveOwnersArrayLength
  let tm := s.troveManager
  let tm := tm.setTrove borrower
    { tm.troves borrower with status := closedStatus, coll := 0, debt := 0 }
  let tm := { tm with rewardSnapshots := Function.update tm.rewardSnapshots borrower ⟨0, 0⟩ }
  let tm ← removeTroveOwner tm borrower troveOwnersArrayLength
  let list ← SortedTroves.remove s.sortedTroves borrower
  pure { s with troveManager := tm, sortedTroves := list }

def updateSystemSnapshotsExcludeCollRemainder (s : State) (collRemainder : ℕ) : Tx State := do
  let activeColl ← SafeMath.sub (s.activePool.balances D.collToken) collRemainder
  let liquidatedColl := s.defaultPool.balances D.collToken
  pure { s with
    troveManager.totalStakesSnapshot := s.troveManager.totalStakes
    troveManager.totalCollateralSnapshot := activeColl + liquidatedColl }

end System

section FeeFunctions

def minutesPassedSinceLastFeeOp (m : Message) (fees : Fees) : Tx ℕ := do
  let secondsPassed ← SafeMath.sub m.timestamp fees.lastFeeOperationTime
  pure (secondsPassed / secondsInOneMinute)

def calcDecayedBaseRate (m : Message) (fees : Fees) : Tx ℕ := do
  let minutesPassed ← minutesPassedSinceLastFeeOp m fees
  let decayFactor := LiquityMath.decPow minuteDecayFactor minutesPassed
  pure (fees.baseRate * decayFactor / decimalPrecision)

def updateLastFeeOpTime (m : Message) (fees : Fees) : Tx Fees := do
  let timePassed ← SafeMath.sub m.timestamp fees.lastFeeOperationTime
  if timePassed ≥ secondsInOneMinute then pure { fees with lastFeeOperationTime := m.timestamp }
  else pure fees

def decayBaseRateFromBorrowing (m : Message) (fees : Fees) : Tx Fees := do
  let decayedBaseRate ← calcDecayedBaseRate m fees
  assert (decayedBaseRate ≤ decimalPrecision) "decayedBaseRate <= DECIMAL_PRECISION"
  updateLastFeeOpTime m { fees with baseRate := decayedBaseRate }

def updateBaseRateFromRedemption (m : Message) (fees : Fees) (collDrawn price totalUSDDSupply : ℕ) :
    Tx Fees := do
  let decayedBaseRate ← calcDecayedBaseRate m fees
  let redeemedUSDDFraction ← SafeMath.div (collDrawn * price) totalUSDDSupply
  let newBaseRate := min (decayedBaseRate + redeemedUSDDFraction / beta) decimalPrecision
  assert (newBaseRate > 0) "newBaseRate > 0"
  updateLastFeeOpTime m { fees with baseRate := newBaseRate }

def calcBorrowingRate (baseRate : ℕ) : ℕ := min (borrowingFeeFloor + baseRate) maxBorrowingFee

def calcBorrowingFee (borrowingRate usddDebt : ℕ) : ℕ := borrowingRate * usddDebt / decimalPrecision

def getBorrowingFee (fees : Fees) (usddDebt : ℕ) : ℕ :=
  calcBorrowingFee (calcBorrowingRate fees.baseRate) usddDebt

def calcRedemptionRate (baseRate : ℕ) : ℕ := min (redemptionFeeFloor + baseRate) decimalPrecision

def calcRedemptionFee (redemptionRate collDrawn : ℕ) : Tx ℕ := do
  let redemptionFee := redemptionRate * collDrawn / decimalPrecision
  require (redemptionFee < collDrawn) "TroveManager: Fee would eat up all returned collateral"
  pure redemptionFee

def getRedemptionFee (fees : Fees) (collDrawn : ℕ) : Tx ℕ :=
  calcRedemptionFee (calcRedemptionRate fees.baseRate) collDrawn

end FeeFunctions

end Usdd.TroveManager

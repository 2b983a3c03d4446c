import Usdd.BorrowerOperations

/-!
# StabilityPool and CommunityIssuance

Deposits are tracked by the product `P` and the sums `S` and `G`. Functions on the pool's own
storage come first; the functions on the state call the token, the issuance and the other pools.
-/

open Transaction

namespace Usdd

namespace CommunityIssuance

def issuanceFactor : ℕ := 999998681227695000

def secondsInOneMinute : ℕ := 60

def getCumulativeIssuanceFraction (m : Message) (issuance : CommunityIssuance) : Tx ℕ := do
  let secondsPassed ← SafeMath.sub m.timestamp issuance.startTime
  let power := LiquityMath.decPow issuanceFactor (secondsPassed / secondsInOneMinute)
  let cumulativeIssuanceFraction ← SafeMath.sub decimalPrecision power
  assert (cumulativeIssuanceFraction ≤ decimalPrecision)
    "cumulativeIssuanceFraction <= DECIMAL_PRECISION"
  pure cumulativeIssuanceFraction

variable (D : Deployment)

def requireCallerIsStabilityPool (sender : Address) : Tx Unit :=
  require (sender = D.stabilityPool) "CommunityIssuance: caller is not SP"

/-- Returns the issuance since the last call along with the state. -/
def issueDEFT (m : Message) (sender : Address) (s : State) : Tx (State × ℕ) := do
  require (s.communityIssuance.startTime > 0) "Issuance not started"
  requireCallerIsStabilityPool D sender
  let fraction ← getCumulativeIssuanceFraction m s.communityIssuance
  let latestTotalDEFTIssued := s.communityIssuance.deftSupplyCap * fraction / decimalPrecision
  let issuance ← SafeMath.sub latestTotalDEFTIssued s.communityIssuance.totalDEFTIssued
  pure ({ s with communityIssuance.totalDEFTIssued := latestTotalDEFTIssued }, issuance)

def sendDEFT (sender : Address) (s : State) (account : Address) (deftAmount : ℕ) : Tx State := do
  require (s.communityIssuance.startTime > 0) "Issuance not started"
  requireCallerIsStabilityPool D sender
  let balance ← SafeMath.sub (s.deft D.communityIssuance) deftAmount
    "DEFT: transfer amount exceeds balance"
  let deft := Function.update s.deft D.communityIssuance balance
  pure { s with deft := Function.update deft account (deft account + deftAmount) }

end CommunityIssuance

namespace StabilityPool

def scaleFactor : ℕ := 10 ^ 9

section Views

variable (sp : StabilityPool)

def getGainFromSnapshots (sums : ℕ → ℕ → ℕ) (sumSnapshot initialStake : ℕ)
    (snapshots : Snapshots) : Tx ℕ := do
  let firstPortion ← SafeMath.sub (sums snapshots.epoch snapshots.scale) sumSnapshot
  let secondPortion := sums snapshots.epoch (snapshots.scale + 1) / scaleFactor
  let gain ← SafeMath.div (initialStake * (firstPortion + secondPortion)) snapshots.P
  pure (gain / decimalPrecision)

def getCollGainFromSnapshots (initialDeposit : ℕ) (snapshots : Snapshots) : Tx ℕ :=
  getGainFromSnapshots sp.epochToScaleToSum snapshots.S initialDeposit snapshots

def getDEFTGainFromSnapshots (initialStake : ℕ) (snapshots : Snapshots) : Tx ℕ :=
  getGainFromSnapshots sp.epochToScaleToG snapshots.G initialStake snapshots

def getDepositorCollGain (depositor : Address) : Tx ℕ :=
  if (sp.deposits depositor).initialValue = 0 then pure 0
  else getCollGainFromSnapshots sp (sp.deposits depositor).initialValue
    (sp.depositSnapshots depositor)

def getDepositorDEFTGain (depositor : Address) : Tx ℕ :=
  if (sp.deposits depositor).initialValue = 0 then pure 0
  else do
    let frontEndTag := (sp.deposits depositor).frontEndTag
    let kickbackRate :=
      if frontEndTag = 0 then decimalPrecision else (sp.frontEnds frontEndTag).kickbackRate
    let gain ← getDEFTGainFromSnapshots sp (sp.deposits depositor).initialValue
      (sp.depositSnapshots depositor)
    pure (kickbackRate * gain / decimalPrecision)

def getFrontEndDEFTGain (frontEnd : Address) : Tx ℕ :=
  if sp.frontEndStakes frontEnd = 0 then pure 0
  else do
    let frontEndShare ← SafeMath.sub decimalPrecision (sp.frontEnds frontEnd).kickbackRate
    let gain ← getDEFTGainFromSnapshots sp (sp.frontEndStakes frontEnd)
      (sp.frontEndSnapshots frontEnd)
    pure (frontEndShare * gain / decimalPrecision)

/-- The stake times `P` over its snapshot, for a stake that is `scaleDiff` scales old. -/
def compoundAtScale (initialStake snapshotP scaleDiff : ℕ) : Tx ℕ :=
  if scaleDiff = 0 then SafeMath.div (initialStake * sp.P) snapshotP
  else if scaleDiff = 1 then do
    let compoundedStake ← SafeMath.div (initialStake * sp.P) snapshotP
    pure (compoundedStake / scaleFactor)
  else pure 0

def getCompoundedStakeFromSnapshots (initialStake : ℕ) (snapshots : Snapshots) : Tx ℕ :=
  if snapshots.epoch < sp.currentEpoch then pure 0
  else do
    let scaleDiff ← SafeMath.sub sp.currentScale snapshots.scale
      "LiquitySafeMath128: subtraction overflow"
    let compoundedStake ← compoundAtScale sp initialStake snapshots.P scaleDiff
    if compoundedStake < initialStake / 10 ^ 9 then pure 0 else pure compoundedStake

def getCompoundedUSDDDeposit (depositor : Address) : Tx ℕ :=
  if (sp.deposits depositor).initialValue = 0 then pure 0
  else getCompoundedStakeFromSnapshots sp (sp.deposits depositor).initialValue
    (sp.depositSnapshots depositor)

def getCompoundedFrontEndStake (frontEnd : Address) : Tx ℕ :=
  if sp.frontEndStakes frontEnd = 0 then pure 0
  else getCompoundedStakeFromSnapshots sp (sp.frontEndStakes frontEnd)
    (sp.frontEndSnapshots frontEnd)

end Views

section Writes

def setFrontEndTag (sp : StabilityPool) (depositor frontEndTag : Address) : StabilityPool :=
  { sp with
    deposits := Function.update sp.deposits depositor
      { sp.deposits depositor with frontEndTag := frontEndTag } }

def currentSnapshots (sp : StabilityPool) : Snapshots where
  S := sp.epochToScaleToSum sp.currentEpoch sp.currentScale
  P := sp.P
  G := sp.epochToScaleToG sp.currentEpoch sp.currentScale
  scale := sp.currentScale
  epoch := sp.currentEpoch

def updateDepositAndSnapshots (sp : StabilityPool) (depositor : Address) (newValue : ℕ) :
    StabilityPool :=
  if newValue = 0 then
    { sp with
      deposits := Function.update sp.deposits depositor ⟨0, 0⟩
      depositSnapshots := Function.update sp.depositSnapshots depositor ⟨0, 0, 0, 0, 0⟩ }
  else
    { sp with
      deposits := Function.update sp.deposits depositor
        { sp.deposits depositor with initialValue := newValue }
      depositSnapshots := Function.update sp.depositSnapshots depositor (currentSnapshots sp) }

/-- The snapshot of a front end leaves out `S`. -/
def updateFrontEndStakeAndSnapshots (sp : StabilityPool) (frontEnd : Address) (newValue : ℕ) :
    StabilityPool :=
  if newValue = 0 then
    { sp with
      frontEndStakes := Function.update sp.frontEndStakes frontEnd 0
      frontEndSnapshots := Function.update sp.frontEndSnapshots frontEnd ⟨0, 0, 0, 0, 0⟩ }
  else
    { sp with
      frontEndStakes := Function.update sp.frontEndStakes frontEnd newValue
      frontEndSnapshots := Function.update sp.frontEndSnapshots frontEnd
        { currentSnapshots sp with S := (sp.frontEndSnapshots frontEnd).S } }

def addToSum (sums : ℕ → ℕ → ℕ) (epoch scale amount : ℕ) : ℕ → ℕ → ℕ :=
  Function.update sums epoch
    (Function.update (sums epoch) scale (sums epoch scale + amount))

def updateG (sp : StabilityPool) (deftIssuance : ℕ) : Tx StabilityPool :=
  if sp.totalUSDDDeposits = 0 ∨ deftIssuance = 0 then pure sp
  else do
    let deftNumerator := deftIssuance * decimalPrecision + sp.lastDEFTError
    let deftPerUnitStaked ← SafeMath.div deftNumerator sp.totalUSDDDeposits
    let lastDEFTError ← SafeMath.sub deftNumerator (deftPerUnitStaked * sp.totalUSDDDeposits)
    pure { sp with
      lastDEFTError := lastDEFTError
      epochToScaleToG :=
        addToSum sp.epochToScaleToG sp.currentEpoch sp.currentScale (deftPerUnitStaked * sp.P) }

/-- The loss per unit staked and the error that is fed back into the next offset. -/
def usddLossPerUnitStaked (sp : StabilityPool) (debtToOffset totalUSDDDeposits : ℕ) :
    Tx (ℕ × ℕ) :=
  if debtToOffset = totalUSDDDeposits then pure (decimalPrecision, 0)
  else do
    let usddLossNumerator ←
      SafeMath.sub (debtToOffset * decimalPrecision) sp.lastUSDDLossErrorOffset
    let loss ← SafeMath.div usddLossNumerator totalUSDDDeposits
    let lastError ← SafeMath.sub ((loss + 1) * totalUSDDDeposits) usddLossNumerator
    pure (loss + 1, lastError)

structure RewardsPerUnitStaked where
  pool : StabilityPool
  collGainPerUnitStaked : ℕ
  usddLossPerUnitStaked : ℕ

def computeRewardsPerUnitStaked (sp : StabilityPool)
    (collToAdd debtToOffset totalUSDDDeposits : ℕ) : Tx RewardsPerUnitStaked := do
  let collNumerator := collToAdd * decimalPrecision + sp.lastCollErrorOffset
  assert (debtToOffset ≤ totalUSDDDeposits) "_debtToOffset <= _totalUSDDDeposits"
  let loss ← usddLossPerUnitStaked sp debtToOffset totalUSDDDeposits
  let collGain ← SafeMath.div collNumerator totalUSDDDeposits
  let lastCollError ← SafeMath.sub collNumerator (collGain * totalUSDDDeposits)
  pure
    { pool := { sp with lastUSDDLossErrorOffset := loss.2, lastCollErrorOffset := lastCollError }
      collGainPerUnitStaked := collGain
      usddLossPerUnitStaked := loss.1 }

/-- The new product, and with it the epoch and the scale. -/
def updateProduct (sp : StabilityPool) (newProductFactor : ℕ) : StabilityPool :=
  if newProductFactor = 0 then
    { sp with currentEpoch := sp.currentEpoch + 1, currentScale := 0, P := decimalPrecision }
  else if sp.P * newProductFactor / decimalPrecision < scaleFactor then
    { sp with
      P := sp.P * newProductFactor * scaleFactor / decimalPrecision
      currentScale := sp.currentScale + 1 }
  else { sp with P := sp.P * newProductFactor / decimalPrecision }

def updateRewardSumAndProduct (sp : StabilityPool)
    (collGainPerUnitStaked usddLossPerUnitStaked : ℕ) : Tx StabilityPool := do
  assert (usddLossPerUnitStaked ≤ decimalPrecision) "_USDDLossPerUnitStaked <= DECIMAL_PRECISION"
  let newProductFactor ← SafeMath.sub decimalPrecision usddLossPerUnitStaked
  let sp := { sp with
    epochToScaleToSum := addToSum sp.epochToScaleToSum sp.currentEpoch sp.currentScale
      (collGainPerUnitStaked * sp.P) }
  let sp := updateProduct sp newProductFactor
  assert (sp.P > 0) "newP > 0"
  pure sp

end Writes

section System

variable (D : Deployment) (m : Message)

def requireCallerIsBorrowerOrGw (borrower : Address) : Tx Unit :=
  require (m.sender = borrower ∨ m.sender = D.wETHGateway)
    "StabilityPool: Caller must be the borrower or gateway"

def requireFrontEndIsRegisteredOrZero (s : State) (frontEnd : Address) : Tx Unit :=
  require ((s.stabilityPool.frontEnds frontEnd).registered = true ∨ frontEnd = 0)
    "StabilityPool: Tag must be a registered front end, or the zero address"

def requireFrontEndNotRegistered (s : State) (frontEnd : Address) : Tx Unit :=
  require ((s.stabilityPool.frontEnds frontEnd).registered = false)
    "StabilityPool: must not already be a registered front end"

def requireNonZeroAmount (amount : ℕ) : Tx Unit :=
  require (amount > 0) "StabilityPool: Amount must be non-zero"

def requireNoUnderCollateralizedTroves (s : State) : Tx Unit := do
  let icr ← TroveManager.getCurrentICR s.troveManager s.sortedTroves.tail m.price
  require (icr ≥ MCR) "StabilityPool: Cannot withdraw while there are troves with ICR < MCR"

def requireUserHasDeposit (initialDeposit : ℕ) : Tx Unit :=
  require (initialDeposit > 0) "StabilityPool: User must have a non-zero deposit"

def requireUserHasNoDeposit (s : State) (user : Address) : Tx Unit :=
  require ((s.stabilityPool.deposits user).initialValue = 0)
    "StabilityPool: User must have no deposit"

def requireUserHasTrove (s : State) (user : Address) : Tx Unit :=
  require ((s.troveManager.troves user).status = .active)
    "StabilityPool: caller must have an active trove to withdraw CollGain to"

def requireUserHasCollGain (s : State) (user : Address) : Tx Unit := do
  let collGain ← getDepositorCollGain s.stabilityPool user
  require (collGain > 0) "StabilityPool: caller must have non-zero COLL Gain"

def requireValidKickbackRate (kickbackRate : ℕ) : Tx Unit :=
  require (kickbackRate ≤ decimalPrecision) "StabilityPool: Kickback rate must be in range [0,1]"

def triggerDEFTIssuance (s : State) : Tx State := do
  let issued ← CommunityIssuance.issueDEFT D m D.stabilityPool s
  let sp ← updateG issued.1.stabilityPool issued.2
  pure { issued.1 with stabilityPool := sp }

def decreaseUSDD (s : State) (amount : ℕ) : Tx State := do
  let newTotalUSDDDeposits ← SafeMath.sub s.stabilityPool.totalUSDDDeposits amount
  pure { s with stabilityPool.totalUSDDDeposits := newTotalUSDDDeposits }

def sendUSDDtoStabilityPool (s : State) (account : Address) (amount : ℕ) : Tx State := do
  let s ← USDDToken.sendToPool D D.stabilityPool s account D.stabilityPool amount
  pure { s with
    stabilityPool.totalUSDDDeposits := s.stabilityPool.totalUSDDDeposits + amount }

def sendUSDDToDepositor (s : State) (depositor : Address) (usddWithdrawal : ℕ) : Tx State :=
  if usddWithdrawal = 0 then pure s
  else do
    let s ← USDDToken.returnFromPool D D.stabilityPool s D.stabilityPool depositor usddWithdrawal
    decreaseUSDD s usddWithdrawal

def sendCollGainToDepositor (s : State) (amount : ℕ) : Tx State :=
  if amount = 0 then pure s
  else do
    let newColl ← SafeMath.sub s.stabilityPool.coll amount
    Token.transfer { s with stabilityPool.coll := newColl } D.collToken D.stabilityPool m.sender
      amount

def payOutFrontEndGain (s : State) (frontEnd : Address) : Tx State :=
  if frontEnd ≠ 0 then do
    let frontEndDEFTGain ← getFrontEndDEFTGain s.stabilityPool frontEnd
    CommunityIssuance.sendDEFT D D.stabilityPool s frontEnd frontEndDEFTGain
  else pure s

def payOutDEFTGains (s : State) (depositor frontEnd : Address) : Tx State := do
  let s ← payOutFrontEndGain D s frontEnd
  let depositorDEFTGain ← getDepositorDEFTGain s.stabilityPool depositor
  CommunityIssuance.sendDEFT D D.stabilityPool s depositor depositorDEFTGain

def moveOffsetCollAndDebt (s : State) (collToAdd debtToOffset : ℕ) : Tx State := do
  let s ← ActivePool.decreaseUSDDDebt D D.stabilityPool s debtToOffset
  let s ← decreaseUSDD s debtToOffset
  let s ← USDDToken.burn D D.stabilityPool s D.stabilityPool debtToOffset
  let s ← ActivePool.sendColl D D.stabilityPool s D.stabilityPool D.collToken collToAdd
  pure { s with stabilityPool.coll := s.stabilityPool.coll + collToAdd }

def offset (sender : Address) (s : State) (debtToOffset collToAdd : ℕ) : Tx State := do
  require (sender = D.troveManager) "StabilityPool: Caller is not TroveManager"
  let totalUSDD := s.stabilityPool.totalUSDDDeposits
  if totalUSDD = 0 ∨ debtToOffset = 0 then pure s
  else do
    let s ← triggerDEFTIssuance D m s
    let entry := JournalEntry.offset s.stabilityPool debtToOffset
    let rewards ← computeRewardsPerUnitStaked s.stabilityPool collToAdd debtToOffset totalUSDD
    let sp ← updateRewardSumAndProduct rewards.pool rewards.collGainPerUnitStaked
      rewards.usddLossPerUnitStaked
    moveOffsetCollAndDebt D { s with stabilityPool := sp, journal := entry :: s.journal } collToAdd
      debtToOffset

def setTagOfNewDeposit (sp : StabilityPool) (depositor frontEndTag : Address) : StabilityPool :=
  if (sp.deposits depositor).initialValue = 0 then setFrontEndTag sp depositor frontEndTag else sp

def provideToSP (s : State) (depositor : Address) (amount : ℕ) (frontEndTag : Address) :
    Tx State := do
  requireCallerIsBorrowerOrGw D m depositor
  requireFrontEndIsRegisteredOrZero s frontEndTag
  requireFrontEndNotRegistered s depositor
  requireNonZeroAmount amount
  let initialDeposit := (s.stabilityPool.deposits depositor).initialValue
  let s ← triggerDEFTIssuance D m s
  let s := { s with stabilityPool := setTagOfNewDeposit s.stabilityPool depositor frontEndTag }
  let depositorCollGain ← getDepositorCollGain s.stabilityPool depositor
  let compoundedUSDDDeposit ← getCompoundedUSDDDeposit s.stabilityPool depositor
  let _usddLoss ← SafeMath.sub initialDeposit compoundedUSDDDeposit
  let frontEnd := (s.stabilityPool.deposits depositor).frontEndTag
  let s ← payOutDEFTGains D s depositor frontEnd
  let compoundedFrontEndStake ← getCompoundedFrontEndStake s.stabilityPool frontEnd
  let s := { s with
    stabilityPool := updateFrontEndStakeAndSnapshots s.stabilityPool frontEnd
      (compoundedFrontEndStake + amount)
    journal := .changeDeposit s.stabilityPool depositor :: s.journal }
  let s ← sendUSDDtoStabilityPool D s depositor amount
  let s := { s with
    stabilityPool := updateDepositAndSnapshots s.stabilityPool depositor
      (compoundedUSDDDeposit + amount) }
  sendCollGainToDepositor D m s depositorCollGain

def requireNoUnderCollateralizedTrovesToWithdraw (s : State) (amount : ℕ) : Tx Unit :=
  if amount ≠ 0 then requireNoUnderCollateralizedTroves m s else pure ()

def withdrawFromSP (s : State) (depositor : Address) (amount : ℕ) : Tx State := do
  requireCallerIsBorrowerOrGw D m depositor
  requireNoUnderCollateralizedTrovesToWithdraw m s amount
  let initialDeposit := (s.stabilityPool.deposits depositor).initialValue
  requireUserHasDeposit initialDeposit
  let s ← triggerDEFTIssuance D m s
  let depositorCollGain ← getDepositorCollGain s.stabilityPool depositor
  let compoundedUSDDDeposit ← getCompoundedUSDDDeposit s.stabilityPool depositor
  let usddToWithdraw := min amount compoundedUSDDDeposit
  let _usddLoss ← SafeMath.sub initialDeposit compoundedUSDDDeposit
  let frontEnd := (s.stabilityPool.deposits depositor).frontEndTag
  let s ← payOutDEFTGains D s depositor frontEnd
  let compoundedFrontEndStake ← getCompoundedFrontEndStake s.stabilityPool frontEnd
  let newFrontEndStake ← SafeMath.sub compoundedFrontEndStake usddToWithdraw
  let s := { s with
    stabilityPool := updateFrontEndStakeAndSnapshots s.stabilityPool frontEnd newFrontEndStake
    journal := .changeDeposit s.stabilityPool depositor :: s.journal }
  let s ← sendUSDDToDepositor D s depositor usddToWithdraw
  let newDeposit ← SafeMath.sub compoundedUSDDDeposit usddToWithdraw
  let s := { s with
    stabilityPool := updateDepositAndSnapshots s.stabilityPool depositor newDeposit }
  sendCollGainToDepositor D m s depositorCollGain

def withdrawCollGainToTrove (s : State) (upperHint lowerHint : Address) : Tx State := do
  let initialDeposit := (s.stabilityPool.deposits m.sender).initialValue
  requireUserHasDeposit initialDeposit
  requireUserHasTrove s m.sender
  requireUserHasCollGain s m.sender
  let s ← triggerDEFTIssuance D m s
  let depositorCollGain ← getDepositorCollGain s.stabilityPool m.sender
  let compoundedUSDDDeposit ← getCompoundedUSDDDeposit s.stabilityPool m.sender
  let _usddLoss ← SafeMath.sub initialDeposit compoundedUSDDDeposit
  let frontEnd := (s.stabilityPool.deposits m.sender).frontEndTag
  let s ← payOutDEFTGains D s m.sender frontEnd
  let compoundedFrontEndStake ← getCompoundedFrontEndStake s.stabilityPool frontEnd
  let sp := updateFrontEndStakeAndSnapshots s.stabilityPool frontEnd compoundedFrontEndStake
  let sp := updateDepositAndSnapshots sp m.sender compoundedUSDDDeposit
  let coll ← SafeMath.sub sp.coll depositorCollGain
  let s := { s with
    stabilityPool := { sp with coll := coll }
    journal := .changeDeposit s.stabilityPool m.sender :: s.journal }
  BorrowerOperations.moveCollGainToTrove D { m with sender := D.stabilityPool } s m.sender
    depositorCollGain upperHint lowerHint

def registerFrontEnd (s : State) (kickbackRate : ℕ) : Tx State := do
  requireFrontEndNotRegistered s m.sender
  requireUserHasNoDeposit s m.sender
  requireValidKickbackRate kickbackRate
  pure { s with
    stabilityPool.frontEnds :=
      Function.update s.stabilityPool.frontEnds m.sender ⟨kickbackRate, true⟩ }

end System

end StabilityPool

end Usdd

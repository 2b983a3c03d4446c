import Usdd.TroveManager
import Usdd.USDDToken

/-!
# BorrowerOperations

Opening, adjusting and closing a trove, and claiming surplus collateral. `setAddresses` assigns the
gateway field to itself, so the gateway that this contract accepts is the initial null address.
-/

open Transaction

namespace Usdd.BorrowerOperations

/-- The gateway field after `setAddresses`: its argument is not used. -/
def setWETHGatewayAddress (wETHGatewayAddress _newAddress : Address) : Address := wETHGatewayAddress

section Requires

variable (D : Deployment)

def wETHGatewayAddress : Address := setWETHGatewayAddress 0 D.wETHGateway

def requireCallerIsBorrowerOrGw (m : Message) (borrower : Address) : Tx Unit :=
  require (m.sender = borrower ∨ m.sender = wETHGatewayAddress D)
    "BorrowerOps: Caller must be the borrower or gateway"

def requireCallerIsBorrowerOrGwOrSP (m : Message) (borrower : Address) : Tx Unit :=
  require (m.sender = borrower ∨ m.sender = wETHGatewayAddress D ∨ m.sender = D.stabilityPool)
    "BorrowerOps: Caller must be the borrower or gateway or stabilityPool"

def requireCallerIsStabilityPool (m : Message) : Tx Unit :=
  require (m.sender = D.stabilityPool) "BorrowerOps: Caller is not Stability Pool"

def requireSingularCollChange (collDeposited collWithdrawal : ℕ) : Tx Unit :=
  require (collDeposited = 0 ∨ collWithdrawal = 0)
    "BorrowerOperations: Cannot withdraw and add coll"

def requireNonZeroAdjustment (collDeposited collWithdrawal usddChange : ℕ) : Tx Unit :=
  require (collDeposited ≠ 0 ∨ collWithdrawal ≠ 0 ∨ usddChange ≠ 0)
    "BorrowerOps: There must be either a collateral change or a debt change"

def requireTroveisActive (s : State) (borrower : Address) : Tx Unit :=
  require ((s.troveManager.troves borrower).status = .active)
    "BorrowerOps: Trove does not exist or is closed"

def requireTroveisNotActive (s : State) (borrower : Address) : Tx Unit :=
  require ((s.troveManager.troves borrower).status ≠ .active) "BorrowerOps: Trove is active"

def requireNonZeroDebtChange (usddChange : ℕ) : Tx Unit :=
  require (usddChange > 0) "BorrowerOps: Debt increase requires non-zero debtChange"

def requireNotInRecoveryMode (s : State) (price : ℕ) : Tx Unit :=
  require (TroveManager.checkRecoveryMode D s price = false)
    "BorrowerOps: Operation not permitted during Recovery Mode"

def requireNoCollWithdrawal (collWithdrawal : ℕ) : Tx Unit :=
  require (collWithdrawal = 0) "BorrowerOps: Collateral withdrawal not permitted Recovery Mode"

def requireICRisAboveMCR (newICR : ℕ) : Tx Unit :=
  require (newICR ≥ MCR) "BorrowerOps: An operation that would result in ICR < MCR is not permitted"

def requireICRisAboveCCR (newICR : ℕ) : Tx Unit :=
  require (newICR ≥ CCR) "BorrowerOps: Operation must leave trove with ICR >= CCR"

def requireNewICRisAboveOldICR (newICR oldICR : ℕ) : Tx Unit :=
  require (newICR ≥ oldICR) "BorrowerOps: Cannot decrease your Trove's ICR in Recovery Mode"

def requireNewTCRisAboveCCR (newTCR : ℕ) : Tx Unit :=
  require (newTCR ≥ CCR) "BorrowerOps: An operation that would result in TCR < CCR is not permitted"

def requireAtLeastMinNetDebt (netDebt : ℕ) : Tx Unit :=
  require (netDebt ≥ minNetDebt) "BorrowerOps: Trove's net debt must be greater than minimum"

def requireValidUSDDRepayment (currentDebt debtRepayment : ℕ) : Tx Unit := do
  let netDebt ← SafeMath.sub currentDebt usddGasCompensation
  require (debtRepayment ≤ netDebt)
    "BorrowerOps: Amount repaid must not be larger than the Trove's debt"

def requireSufficientUSDDBalance (s : State) (borrower : Address) (debtRepayment : ℕ) : Tx Unit :=
  require (s.usddToken.balances borrower ≥ debtRepayment)
    "BorrowerOps: Caller doesnt have enough USDD to make repayment"

def requireValidMaxFeePercentage (maxFeePercentage : ℕ) (isRecoveryMode : Bool) : Tx Unit :=
  if isRecoveryMode then
    require (maxFeePercentage ≤ decimalPrecision)
      "Max fee percentage must less than or equal to 100%"
  else
    require (maxFeePercentage ≥ borrowingFeeFloor ∧ maxFeePercentage ≤ decimalPrecision)
      "Max fee percentage must be between 0.5% and 100%"

end Requires

section Helpers

variable (D : Deployment)

/-- An amount that is added, or subtracted with a check. -/
def applyChange (amount change : ℕ) (isIncrease : Bool) : Tx ℕ :=
  if isIncrease then pure (amount + change) else SafeMath.sub amount change

def getNewTroveAmounts (coll debt collChange : ℕ) (isCollIncrease : Bool) (debtChange : ℕ)
    (isDebtIncrease : Bool) : Tx (ℕ × ℕ) := do
  let newColl ← applyChange coll collChange isCollIncrease
  let newDebt ← applyChange debt debtChange isDebtIncrease
  pure (newColl, newDebt)

def getNewNominalICRFromTroveChange (coll debt collChange : ℕ) (isCollIncrease : Bool)
    (debtChange : ℕ) (isDebtIncrease : Bool) : Tx ℕ := do
  let new ← getNewTroveAmounts coll debt collChange isCollIncrease debtChange isDebtIncrease
  pure (LiquityMath.computeNominalCR new.1 new.2)

def getNewICRFromTroveChange (coll debt collChange : ℕ) (isCollIncrease : Bool) (debtChange : ℕ)
    (isDebtIncrease : Bool) (price : ℕ) : Tx ℕ := do
  let new ← getNewTroveAmounts coll debt collChange isCollIncrease debtChange isDebtIncrease
  pure (LiquityMath.computeCR new.1 new.2 price)

def getNewTCRFromTroveChange (s : State) (collChange : ℕ) (isCollIncrease : Bool)
    (debtChange : ℕ) (isDebtIncrease : Bool) (price : ℕ) : Tx ℕ := do
  let totalColl ← applyChange (TroveManager.getEntireSystemColl D s) collChange isCollIncrease
  let totalDebt ← applyChange (TroveManager.getEntireSystemDebt s) debtChange isDebtIncrease
  pure (LiquityMath.computeCR totalColl totalDebt price)

def getCollChange (collReceived requestedCollWithdrawal : ℕ) : ℕ × Bool :=
  if collReceived ≠ 0 then (collReceived, true) else (requestedCollWithdrawal, false)

/-- Returns the fee along with the state in which it has been minted to the stakers. -/
def triggerBorrowingFee (m : Message) (s : State) (usddAmount maxFeePercentage : ℕ) :
    Tx (State × ℕ) := do
  let fees ← TroveManager.decayBaseRateFromBorrowing m s.fees
  let s := { s with fees := fees }
  let usddFee := TroveManager.getBorrowingFee s.fees usddAmount
  requireUserAcceptsFee usddFee usddAmount maxFeePercentage
  let s ← DEFTStaking.increaseFUSDD D D.borrowerOperations s usddFee
  let s ← USDDToken.mint D D.borrowerOperations s D.deftStaking usddFee
  pure (s, usddFee)

/-- The fee is charged outside Recovery Mode. -/
def chargeBorrowingFee (m : Message) (s : State) (charged : Bool)
    (usddAmount maxFeePercentage : ℕ) : Tx (State × ℕ) :=
  if charged then triggerBorrowingFee D m s usddAmount maxFeePercentage else pure (s, 0)

def updateCollFromAdjustment (tm : TroveManager) (borrower : Address) (collChange : ℕ)
    (isCollIncrease : Bool) : Tx TroveManager :=
  if isCollIncrease then pure (tm.increaseTroveColl borrower collChange)
  else tm.decreaseTroveColl borrower collChange

def updateDebtFromAdjustment (tm : TroveManager) (borrower : Address) (debtChange : ℕ)
    (isDebtIncrease : Bool) : Tx TroveManager :=
  if isDebtIncrease then pure (tm.increaseTroveDebt borrower debtChange)
  else tm.decreaseTroveDebt borrower debtChange

def updateTroveFromAdjustment (tm : TroveManager) (borrower : Address) (collChange : ℕ)
    (isCollIncrease : Bool) (debtChange : ℕ) (isDebtIncrease : Bool) : Tx TroveManager := do
  let tm ← updateCollFromAdjustment tm borrower collChange isCollIncrease
  updateDebtFromAdjustment tm borrower debtChange isDebtIncrease

def activePoolAddColl (m : Message) (s : State) (amount : ℕ) : Tx State := do
  let s ← Token.transfer s D.collToken m.sender D.borrowerOperations amount
  ActivePool.receiveColl D D.borrowerOperations s D.collToken amount

def withdrawUSDD (s : State) (account : Address) (usddAmount netDebtIncrease : ℕ) : Tx State := do
  let s ← ActivePool.increaseUSDDDebt D D.borrowerOperations s netDebtIncrease
  USDDToken.mint D D.borrowerOperations s account usddAmount

def repayUSDD (s : State) (account : Address) (usdd : ℕ) : Tx State := do
  let s ← ActivePool.decreaseUSDDDebt D D.borrowerOperations s usdd
  USDDToken.burn D D.borrowerOperations s account usdd

def moveUSDDFromAdjustment (s : State) (borrower : Address) (usddChange : ℕ)
    (isDebtIncrease : Bool) (netDebtChange : ℕ) : Tx State :=
  if isDebtIncrease then withdrawUSDD D s borrower usddChange netDebtChange
  else repayUSDD D s borrower usddChange

def moveCollFromAdjustment (m : Message) (s : State) (borrower : Address) (collChange : ℕ)
    (isCollIncrease : Bool) : Tx State :=
  if isCollIncrease then activePoolAddColl D m s collChange
  else ActivePool.sendColl D D.borrowerOperations s borrower D.collToken collChange

def moveTokensAndCollfromAdjustment (m : Message) (s : State) (borrower : Address)
    (collChange : ℕ) (isCollIncrease : Bool) (usddChange : ℕ) (isDebtIncrease : Bool)
    (netDebtChange : ℕ) : Tx State := do
  let s ← moveUSDDFromAdjustment D s borrower usddChange isDebtIncrease netDebtChange
  moveCollFromAdjustment D m s borrower collChange isCollIncrease

end Helpers

section Open

variable (D : Deployment) (m : Message)

/-- The ratio checks of `openTrove`. -/
def requireValidOpening (s : State) (isRecoveryMode : Bool) (collAmount compositeDebt : ℕ) :
    Tx Unit := do
  let icr := LiquityMath.computeCR collAmount compositeDebt m.price
  if isRecoveryMode then requireICRisAboveCCR icr
  else do
    requireICRisAboveMCR icr
    let newTCR ← getNewTCRFromTroveChange D s collAmount true compositeDebt true m.price
    requireNewTCRisAboveCCR newTCR

/-- Sets the properties of the new trove and enters it into the list and the array of owners. -/
def recordTrove (s : State) (owner : Address) (collAmount compositeDebt : ℕ)
    (upperHint lowerHint : Address) : Tx State := do
  let nicr := LiquityMath.computeNominalCR collAmount compositeDebt
  let tm := s.troveManager
  let tm := tm.setTroveStatus owner .active
  let tm := tm.increaseTroveColl owner collAmount
  let tm := tm.increaseTroveDebt owner compositeDebt
  let tm := tm.updateTroveRewardSnapshots owner
  let s ← TroveManager.restake { s with troveManager := tm } owner
  let list ← SortedTroves.insert (TroveManager.getNominalICR s.troveManager) s.sortedTroves owner
    nicr upperHint lowerHint
  pure { s with
    sortedTroves := list
    troveManager := s.troveManager.addTroveOwnerToArray owner }

def openTrove (s : State) (onBehalfOf : Address) (maxFeePercentage collAmount usddAmount : ℕ)
    (upperHint lowerHint : Address) : Tx State := do
  let isRecoveryMode := TroveManager.checkRecoveryMode D s m.price
  requireValidMaxFeePercentage maxFeePercentage isRecoveryMode
  requireTroveisNotActive s onBehalfOf
  let charged ← chargeBorrowingFee D m s (!isRecoveryMode) usddAmount maxFeePercentage
  let s := charged.1
  let netDebt := usddAmount + charged.2
  requireAtLeastMinNetDebt netDebt
  let compositeDebt := getCompositeDebt netDebt
  assert (compositeDebt > 0) "vars.compositeDebt > 0"
  requireValidOpening D m s isRecoveryMode collAmount compositeDebt
  let s ← recordTrove s onBehalfOf collAmount compositeDebt upperHint lowerHint
  let s ← activePoolAddColl D m s collAmount
  let s ← withdrawUSDD D s onBehalfOf usddAmount netDebt
  withdrawUSDD D s D.gasPool usddGasCompensation usddGasCompensation

end Open

section Adjust

variable (D : Deployment) (m : Message)

structure Adjustment where
  collDeposited : ℕ
  collWithdrawal : ℕ
  usddChange : ℕ
  isDebtIncrease : Bool
  upperHint : Address
  lowerHint : Address
  maxFeePercentage : ℕ

/-- Confirms a pure collateral transfer when the caller is the Stability Pool. -/
def assertCollTransferOfSP (a : Adjustment) : Tx Unit :=
  if m.sender = D.stabilityPool then
    assert (a.collDeposited > 0 ∧ a.usddChange = 0) "_collDeposited > 0 && _USDDChange == 0"
  else pure ()

def requireValidDebtIncrease (a : Adjustment) (isRecoveryMode : Bool) : Tx Unit :=
  if a.isDebtIncrease then do
    requireValidMaxFeePercentage a.maxFeePercentage isRecoveryMode
    requireNonZeroDebtChange a.usddChange
  else pure ()

/-- The checks on the arguments of `adjustTrove`. -/
def requireValidAdjustment (s : State) (onBehalfOf : Address) (a : Adjustment)
    (isRecoveryMode : Bool) : Tx Unit := do
  requireCallerIsBorrowerOrGwOrSP D m onBehalfOf
  assertCollTransferOfSP D m a
  requireValidDebtIncrease a isRecoveryMode
  requireSingularCollChange a.collDeposited a.collWithdrawal
  requireNonZeroAdjustment a.collDeposited a.collWithdrawal a.usddChange
  requireTroveisActive s onBehalfOf

def requireValidAdjustmentInCurrentMode (s : State) (isRecoveryMode : Bool)
    (collWithdrawal : ℕ) (isDebtIncrease : Bool) (oldICR newICR collChange : ℕ)
    (isCollIncrease : Bool) (netDebtChange : ℕ) : Tx Unit :=
  if isRecoveryMode then do
    requireNoCollWithdrawal collWithdrawal
    if isDebtIncrease then
      requireICRisAboveCCR newICR
      requireNewICRisAboveOldICR newICR oldICR
  else do
    requireICRisAboveMCR newICR
    let newTCR ←
      getNewTCRFromTroveChange D s collChange isCollIncrease netDebtChange isDebtIncrease m.price
    requireNewTCRisAboveCCR newTCR

/-- The checks of a repayment, made when debt is paid back. -/
def requireValidRepayment (s : State) (onBehalfOf : Address) (a : Adjustment)
    (debt netDebtChange : ℕ) : Tx Unit :=
  if a.isDebtIncrease = false ∧ a.usddChange > 0 then do
    let netDebt ← getNetDebt debt
    let newNetDebt ← SafeMath.sub netDebt netDebtChange
    requireAtLeastMinNetDebt newNetDebt
    requireValidUSDDRepayment debt netDebtChange
    requireSufficientUSDDBalance s onBehalfOf netDebtChange
  else pure ()

def adjustTrove (s : State) (onBehalfOf : Address) (a : Adjustment) : Tx State := do
  let isRecoveryMode := TroveManager.checkRecoveryMode D s m.price
  requireValidAdjustment D m s onBehalfOf a isRecoveryMode
  let s ← TroveManager.applyPendingRewards D s onBehalfOf
  let change := getCollChange a.collDeposited a.collWithdrawal
  let charged ← chargeBorrowingFee D m s (a.isDebtIncrease && !isRecoveryMode) a.usddChange
    a.maxFeePercentage
  let s := charged.1
  let netDebtChange := a.usddChange + charged.2
  let debt := (s.troveManager.troves onBehalfOf).debt
  let coll := (s.troveManager.troves onBehalfOf).coll
  let oldICR := LiquityMath.computeCR coll debt m.price
  let newICR ← getNewICRFromTroveChange coll debt change.1 change.2 netDebtChange
    a.isDebtIncrease m.price
  assert (a.collWithdrawal ≤ coll) "_collWithdrawal <= vars.coll"
  requireValidAdjustmentInCurrentMode D m s isRecoveryMode a.collWithdrawal a.isDebtIncrease
    oldICR newICR change.1 change.2 netDebtChange
  requireValidRepayment s onBehalfOf a debt netDebtChange
  let tm ← updateTroveFromAdjustment s.troveManager onBehalfOf change.1 change.2 netDebtChange
    a.isDebtIncrease
  let s ← TroveManager.restake { s with troveManager := tm } onBehalfOf
  let newNICR ← getNewNominalICRFromTroveChange coll debt change.1 change.2 netDebtChange
    a.isDebtIncrease
  let list ← SortedTroves.reInsert (TroveManager.getNominalICR s.troveManager) s.sortedTroves
    onBehalfOf newNICR a.upperHint a.lowerHint
  moveTokensAndCollfromAdjustment D m { s with sortedTroves := list } m.sender change.1 change.2
    a.usddChange a.isDebtIncrease netDebtChange

def addColl (s : State) (collAmount : ℕ) (upperHint lowerHint : Address) : Tx State :=
  adjustTrove D m s m.sender ⟨collAmount, 0, 0, false, upperHint, lowerHint, 0⟩

def moveCollGainToTrove (s : State) (borrower : Address) (collAmount : ℕ)
    (upperHint lowerHint : Address) : Tx State := do
  requireCallerIsStabilityPool D m
  adjustTrove D m s borrower ⟨collAmount, 0, 0, false, upperHint, lowerHint, 0⟩

def withdrawColl (s : State) (collWithdrawal : ℕ) (upperHint lowerHint : Address) : Tx State :=
  adjustTrove D m s m.sender ⟨0, collWithdrawal, 0, false, upperHint, lowerHint, 0⟩

def withdrawUSDDFromTrove (s : State) (maxFeePercentage usddAmount : ℕ)
    (upperHint lowerHint : Address) : Tx State :=
  adjustTrove D m s m.sender ⟨0, 0, usddAmount, true, upperHint, lowerHint, maxFeePercentage⟩

def repayUSDDToTrove (s : State) (usddAmount : ℕ) (upperHint lowerHint : Address) : Tx State :=
  adjustTrove D m s m.sender ⟨0, 0, usddAmount, false, upperHint, lowerHint, 0⟩

end Adjust

section Close

variable (D : Deployment) (m : Message)

/-- The trove that is closed is the caller's, whatever `onBehalfOf` is. -/
def closeTrove (s : State) (onBehalfOf : Address) : Tx State := do
  requireCallerIsBorrowerOrGw D m onBehalfOf
  requireTroveisActive s m.sender
  requireNotInRecoveryMode D s m.price
  let s ← TroveManager.applyPendingRewards D s m.sender
  let coll := (s.troveManager.troves m.sender).coll
  let debt := (s.troveManager.troves m.sender).debt
  let repayment ← SafeMath.sub debt usddGasCompensation
  requireSufficientUSDDBalance s m.sender repayment
  let newTCR ← getNewTCRFromTroveChange D s coll false debt false m.price
  requireNewTCRisAboveCCR newTCR
  let tm ← s.troveManager.removeStake m.sender
  let s ← TroveManager.closeTrove { s with troveManager := tm } m.sender .closedByOwner
  let s ← repayUSDD D s m.sender repayment
  let s ← repayUSDD D s D.gasPool usddGasCompensation
  ActivePool.sendColl D D.borrowerOperations s m.sender D.collToken coll

def claimCollateral (s : State) (onBehalfOf : Address) : Tx State := do
  requireCallerIsBorrowerOrGw D m onBehalfOf
  CollSurplusPool.claimColl D D.borrowerOperations s onBehalfOf m.sender D.collToken

end Close

end Usdd.BorrowerOperations

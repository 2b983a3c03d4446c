import Usdd.Liquidation

/-!
# Redemption
-/

open Transaction

namespace Usdd.TroveManager

structure SingleRedemptionValues where
  usddLot : ℕ
  collLot : ℕ
  cancelledPartial : Bool

structure Redemption where
  usddAmount : ℕ
  firstRedemptionHint : Address
  upperPartialRedemptionHint : Address
  lowerPartialRedemptionHint : Address
  partialRedemptionHintNICR : ℕ
  maxIterations : ℕ
  maxFeePercentage : ℕ

section Single

variable (D : Deployment)

def redeemCloseTrove (s : State) (borrower : Address) (usdd coll : ℕ) : Tx State := do
  let s ← USDDToken.burn D D.troveManager s D.gasPool usdd
  let s ← ActivePool.decreaseUSDDDebt D D.troveManager s usdd
  let s ← CollSurplusPool.accountSurplus D D.troveManager s borrower D.collToken coll
  let s ← ActivePool.sendColl D D.troveManager s D.troveManager D.collToken coll
  CollSurplusPool.receiveColl D D.troveManager s D.collToken coll

/-- The trove is left with `newDebt` and `newColl`, or closed when only the liquidation reserve
is left. Returns whether the partial redemption was cancelled. -/
def redeemFromTrove (s : State) (borrower : Address) (newDebt newColl : ℕ) (r : Redemption) :
    Tx (State × Bool) :=
  if newDebt = usddGasCompensation then do
    let tm ← s.troveManager.removeStake borrower
    let s ← closeTrove { s with troveManager := tm } borrower .closedByRedemption
    let s ← redeemCloseTrove D s borrower usddGasCompensation newColl
    pure (s, false)
  else do
    let newNICR := LiquityMath.computeNominalCR newColl newDebt
    let newNetDebt ← getNetDebt newDebt
    if newNICR ≠ r.partialRedemptionHintNICR ∨ newNetDebt < minNetDebt then pure (s, true)
    else do
      let list ← SortedTroves.reInsert (getNominalICR s.troveManager) s.sortedTroves borrower
        newNICR r.upperPartialRedemptionHint r.lowerPartialRedemptionHint
      let tm := s.troveManager.setTrove borrower
        { s.troveManager.troves borrower with debt := newDebt, coll := newColl }
      let s ← restake { s with sortedTroves := list, troveManager := tm } borrower
      pure (s, false)

def redeemCollateralFromTrove (s : State) (borrower : Address) (maxUSDDamount price : ℕ)
    (r : Redemption) : Tx (State × SingleRedemptionValues) := do
  let netDebt ← SafeMath.sub (s.troveManager.troves borrower).debt usddGasCompensation
  let usddLot := min maxUSDDamount netDebt
  let collLot ← SafeMath.div (usddLot * decimalPrecision) price
  let newDebt ← SafeMath.sub (s.troveManager.troves borrower).debt usddLot
  let newColl ← SafeMath.sub (s.troveManager.troves borrower).coll collLot
  let result ← redeemFromTrove D s borrower newDebt newColl r
  pure (result.1, ⟨usddLot, collLot, result.2⟩)

end Single

section Loops

variable (D : Deployment) (price : ℕ)

def isValidFirstRedemptionHint (s : State) (firstRedemptionHint : Address) : Tx Bool :=
  if firstRedemptionHint = 0 ∨ SortedTroves.contains s.sortedTroves firstRedemptionHint = false then
    pure false
  else do
    let icr ← getCurrentICR s.troveManager firstRedemptionHint price
    if icr < MCR then pure false
    else do
      let nextTrove := (s.sortedTroves.nodes firstRedemptionHint).nextId
      if nextTrove = 0 then pure true
      else do
        let nextICR ← getCurrentICR s.troveManager nextTrove price
        pure (decide (nextICR < MCR))

/-- Climbs the list from `borrower` to the first trove with a sufficient ratio. -/
def firstTroveAboveMCR (s : State) : ℕ → Address → Tx Address
  | 0, _ => .error .outOfGas
  | fuel + 1, borrower =>
      if borrower = 0 then pure borrower
      else do
        let icr ← getCurrentICR s.troveManager borrower price
        if icr < MCR then firstTroveAboveMCR s fuel (s.sortedTroves.nodes borrower).prevId
        else pure borrower

def firstBorrower (s : State) (firstRedemptionHint : Address) : Tx Address := do
  let valid ← isValidFirstRedemptionHint price s firstRedemptionHint
  if valid then pure firstRedemptionHint
  else firstTroveAboveMCR price s (s.sortedTroves.size + 1) s.sortedTroves.tail

structure RedemptionTotals where
  state : State
  remainingUSDD : ℕ
  totalUSDDToRedeem : ℕ
  totalETHDrawn : ℕ

/-- The redemption loop, with the number of rounds left as its first argument. -/
def redeemLoop (r : Redemption) : ℕ → Address → RedemptionTotals → Tx RedemptionTotals
  | 0, _, totals => pure totals
  | iterations + 1, currentBorrower, totals =>
      if currentBorrower = 0 ∨ totals.remainingUSDD = 0 then pure totals
      else do
        let nextUserToCheck := (totals.state.sortedTroves.nodes currentBorrower).prevId
        let s ← applyPendingRewards D totals.state currentBorrower
        let result ← redeemCollateralFromTrove D s currentBorrower totals.remainingUSDD price r
        if result.2.cancelledPartial then pure { totals with state := result.1 }
        else do
          let remainingUSDD ← SafeMath.sub totals.remainingUSDD result.2.usddLot
          redeemLoop r iterations nextUserToCheck
            { state := result.1
              remainingUSDD := remainingUSDD
              totalUSDDToRedeem := totals.totalUSDDToRedeem + result.2.usddLot
              totalETHDrawn := totals.totalETHDrawn + result.2.collLot }

end Loops

section Entry

variable (D : Deployment) (m : Message)

def requireCallerIsDepositorOrGw (depositor : Address) : Tx Unit :=
  require (m.sender = depositor ∨ m.sender = D.wETHGateway)
    "TroveManager: Caller must be the depositor or gateway"

def requireValidMaxFeePercentage (maxFeePercentage : ℕ) : Tx Unit :=
  require (maxFeePercentage ≥ redemptionFeeFloor ∧ maxFeePercentage ≤ decimalPrecision)
    "Max fee percentage must be between 0.5% and 100%"

def requireAfterBootstrapPeriod (s : State) : Tx Unit :=
  require (m.timestamp ≥ s.fees.deploymentStartTime + bootstrapPeriod)
    "TroveManager: Redemptions are not allowed during bootstrap phase"

def requireTCRoverMCR (s : State) : Tx Unit :=
  require (getTCR D s m.price ≥ MCR) "TroveManager: Cannot redeem when TCR < MCR"

def requireAmountGreaterThanZero (amount : ℕ) : Tx Unit :=
  require (amount > 0) "TroveManager: Amount must be greater than zero"

def requireUSDDBalanceCoversRedemption (s : State) (redeemer : Address) (amount : ℕ) : Tx Unit :=
  require (s.usddToken.balances redeemer ≥ amount)
    "TroveManager: Requested redemption amount must be <= user's USDD token balance"

/-- The checks at the start of a redemption. -/
def requireValidRedemption (s : State) (depositor : Address) (r : Redemption) : Tx Unit := do
  requireCallerIsDepositorOrGw D m depositor
  requireValidMaxFeePercentage r.maxFeePercentage
  requireAfterBootstrapPeriod m s
  requireTCRoverMCR D m s
  requireAmountGreaterThanZero r.usddAmount
  requireUSDDBalanceCoversRedemption s depositor r.usddAmount
  assert (s.usddToken.balances depositor ≤ getEntireSystemDebt s)
    "usddToken.balanceOf(_depositor) <= totals.totalUSDDSupplyAtStart"

/-- The end of a redemption: fee, burn and payout. -/
def settleRedemption (s : State) (depositor : Address) (r : Redemption)
    (totalUSDDToRedeem totalETHDrawn totalUSDDSupplyAtStart : ℕ) : Tx State := do
  require (totalETHDrawn > 0) "TroveManager: Unable to redeem any amount"
  let fees ← updateBaseRateFromRedemption m s.fees totalETHDrawn m.price totalUSDDSupplyAtStart
  let s := { s with fees := fees }
  let collFee ← getRedemptionFee s.fees totalETHDrawn
  requireUserAcceptsFee collFee totalETHDrawn r.maxFeePercentage
  let s ← ActivePool.sendColl D D.troveManager s D.deftStaking D.collToken collFee
  let s ← DEFTStaking.increaseFColl D D.troveManager s D.collToken collFee
  let collToSendToRedeemer ← SafeMath.sub totalETHDrawn collFee
  let s ← USDDToken.burn D D.troveManager s depositor totalUSDDToRedeem
  let s ← ActivePool.decreaseUSDDDebt D D.troveManager s totalUSDDToRedeem
  ActivePool.sendColl D D.troveManager s m.sender D.collToken collToSendToRedeemer

def redeemCollateral (s : State) (depositor : Address) (r : Redemption) : Tx State := do
  requireValidRedemption D m s depositor r
  let currentBorrower ← firstBorrower m.price s r.firstRedemptionHint
  let iterations := if r.maxIterations = 0 then 2 ^ 256 - 1 else r.maxIterations
  let totals ← redeemLoop D m.price r iterations currentBorrower ⟨s, r.usddAmount, 0, 0⟩
  settleRedemption D m totals.state depositor r totals.totalUSDDToRedeem totals.totalETHDrawn
    (getEntireSystemDebt s)

end Entry

end Usdd.TroveManager

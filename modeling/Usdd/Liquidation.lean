import Usdd.StabilityPool

/-!
# Liquidation

Liquidation of one trove in both modes, the four liquidation sequences, and the settlement of
their totals with the Stability Pool, the other troves, the surplus pool and the caller. A loop of
the source is a recursion over its remaining rounds.
-/

open Transaction

namespace Usdd.TroveManager

structure LiquidationValues where
  entireTroveDebt : ℕ
  entireTroveColl : ℕ
  collGasCompensation : ℕ
  usddGasCompensation : ℕ
  debtToOffset : ℕ
  collToSendToSP : ℕ
  debtToRedistribute : ℕ
  collToRedistribute : ℕ
  collSurplus : ℕ

def LiquidationValues.zero : LiquidationValues := ⟨0, 0, 0, 0, 0, 0, 0, 0, 0⟩

structure LiquidationTotals where
  totalCollInSequence : ℕ
  totalDebtInSequence : ℕ
  totalCollGasCompensation : ℕ
  totalUSDDGasCompensation : ℕ
  totalDebtToOffset : ℕ
  totalCollToSendToSP : ℕ
  totalDebtToRedistribute : ℕ
  totalCollToRedistribute : ℕ
  totalCollSurplus : ℕ

def LiquidationTotals.zero : LiquidationTotals := ⟨0, 0, 0, 0, 0, 0, 0, 0, 0⟩

def addLiquidationValuesToTotals (old : LiquidationTotals) (single : LiquidationValues) :
    LiquidationTotals where
  totalCollGasCompensation := old.totalCollGasCompensation + single.collGasCompensation
  totalUSDDGasCompensation := old.totalUSDDGasCompensation + single.usddGasCompensation
  totalDebtInSequence := old.totalDebtInSequence + single.entireTroveDebt
  totalCollInSequence := old.totalCollInSequence + single.entireTroveColl
  totalDebtToOffset := old.totalDebtToOffset + single.debtToOffset
  totalCollToSendToSP := old.totalCollToSendToSP + single.collToSendToSP
  totalDebtToRedistribute := old.totalDebtToRedistribute + single.debtToRedistribute
  totalCollToRedistribute := old.totalCollToRedistribute + single.collToRedistribute
  totalCollSurplus := old.totalCollSurplus + single.collSurplus

structure OffsetAndRedistributionVals where
  debtToOffset : ℕ
  collToSendToSP : ℕ
  debtToRedistribute : ℕ
  collToRedistribute : ℕ

def getOffsetAndRedistributionVals (debt coll usddInStabPool : ℕ) :
    Tx OffsetAndRedistributionVals :=
  if usddInStabPool > 0 then do
    let debtToOffset := min debt usddInStabPool
    let collToSendToSP ← SafeMath.div (coll * debtToOffset) debt
    let debtToRedistribute ← SafeMath.sub debt debtToOffset
    let collToRedistribute ← SafeMath.sub coll collToSendToSP
    pure ⟨debtToOffset, collToSendToSP, debtToRedistribute, collToRedistribute⟩
  else pure ⟨0, 0, debt, coll⟩

def getCappedOffsetVals (entireTroveDebt entireTroveColl price : ℕ) : Tx LiquidationValues := do
  let collToOffset ← SafeMath.div (entireTroveDebt * MCR) price
  let collGasCompensation := getCollGasCompensation collToOffset
  let collToSendToSP ← SafeMath.sub collToOffset collGasCompensation
  let collSurplus ← SafeMath.sub entireTroveColl collToOffset
  pure
    { entireTroveDebt := entireTroveDebt
      entireTroveColl := entireTroveColl
      collGasCompensation := collGasCompensation
      usddGasCompensation := usddGasCompensation
      debtToOffset := entireTroveDebt
      collToSendToSP := collToSendToSP
      debtToRedistribute := 0
      collToRedistribute := 0
      collSurplus := collSurplus }

section Single

variable (D : Deployment)

/-- Pending rewards move to the active pool and the stake is removed: the first steps of every
branch that closes a trove. -/
def settleTrove (s : State) (borrower : Address) (entire : EntireDebtAndColl) : Tx State := do
  let s ← movePendingTroveRewardsToActivePool D s entire.pendingUSDDDebtReward
    entire.pendingCollReward
  let tm ← s.troveManager.removeStake borrower
  pure { s with troveManager := tm }

def liquidationValues (entire : EntireDebtAndColl) (vals : OffsetAndRedistributionVals) :
    LiquidationValues where
  entireTroveDebt := entire.debt
  entireTroveColl := entire.coll
  collGasCompensation := getCollGasCompensation entire.coll
  usddGasCompensation := usddGasCompensation
  debtToOffset := vals.debtToOffset
  collToSendToSP := vals.collToSendToSP
  debtToRedistribute := vals.debtToRedistribute
  collToRedistribute := vals.collToRedistribute
  collSurplus := 0

def liquidateNormalMode (s : State) (borrower : Address) (usddInStabPool : ℕ) :
    Tx (State × LiquidationValues) := do
  let entire ← getEntireDebtAndColl s.troveManager borrower
  let s ← settleTrove D s borrower entire
  let collToLiquidate ← SafeMath.sub entire.coll (getCollGasCompensation entire.coll)
  let vals ← getOffsetAndRedistributionVals entire.debt collToLiquidate usddInStabPool
  let s ← closeTrove s borrower .closedByLiquidation
  pure (s, liquidationValues entire vals)

def accountCollSurplus (s : State) (borrower : Address) (collSurplus : ℕ) : Tx State :=
  if collSurplus > 0 then
    CollSurplusPool.accountSurplus D D.troveManager s borrower D.collToken collSurplus
  else pure s

def liquidateRecoveryMode (s : State) (borrower : Address) (icr usddInStabPool tcr price : ℕ) :
    Tx (State × LiquidationValues) :=
  if s.troveManager.troveOwners.length ≤ 1 then pure (s, .zero)
  else do
    let entire ← getEntireDebtAndColl s.troveManager borrower
    let collToLiquidate ← SafeMath.sub entire.coll (getCollGasCompensation entire.coll)
    if icr ≤ decimalPrecision then
      let s ← settleTrove D s borrower entire
      let s ← closeTrove s borrower .closedByLiquidation
      pure (s, liquidationValues entire ⟨0, 0, entire.debt, collToLiquidate⟩)
    else if icr > decimalPrecision ∧ icr < MCR then
      let s ← settleTrove D s borrower entire
      let vals ← getOffsetAndRedistributionVals entire.debt collToLiquidate usddInStabPool
      let s ← closeTrove s borrower .closedByLiquidation
      pure (s, liquidationValues entire vals)
    else if icr ≥ MCR ∧ icr < tcr ∧ entire.debt ≤ usddInStabPool then
      assert (usddInStabPool ≠ 0) "_USDDInStabPool != 0"
      let s ← settleTrove D s borrower entire
      let single ← getCappedOffsetVals entire.debt entire.coll price
      let s ← closeTrove s borrower .closedByLiquidation
      let s ← accountCollSurplus D s borrower single.collSurplus
      pure (s, single)
    else pure (s, .zero)

end Single

section Sequences

variable (D : Deployment) (price : ℕ)

/-- The running values of a sequence. -/
structure Sequence where
  state : State
  totals : LiquidationTotals
  remainingUSDDInStabPool : ℕ
  backToNormalMode : Bool
  entireSystemDebt : ℕ
  entireSystemColl : ℕ

/-- Liquidates `user` with the rules of Recovery Mode. The sequence from the end of the list takes
the surplus out of the system collateral, the batch does not. -/
def Sequence.liquidateInRecoveryMode (q : Sequence) (user : Address) (icr : ℕ)
    (subtractSurplus : Bool) : Tx Sequence := do
  let tcr := LiquityMath.computeCR q.entireSystemColl q.entireSystemDebt price
  let r ← liquidateRecoveryMode D q.state user icr q.remainingUSDDInStabPool tcr price
  let single := r.2
  let remaining ← SafeMath.sub q.remainingUSDDInStabPool single.debtToOffset
  let entireSystemDebt ← SafeMath.sub q.entireSystemDebt single.debtToOffset
  let systemCollLeft ← SafeMath.sub q.entireSystemColl single.collToSendToSP
  let entireSystemColl ←
    SafeMath.sub systemCollLeft (if subtractSurplus then single.collSurplus else 0)
  pure
    { state := r.1
      totals := addLiquidationValuesToTotals q.totals single
      remainingUSDDInStabPool := remaining
      backToNormalMode := !checkPotentialRecoveryMode entireSystemColl entireSystemDebt price
      entireSystemDebt := entireSystemDebt
      entireSystemColl := entireSystemColl }

def Sequence.liquidateInNormalMode (q : Sequence) (user : Address) : Tx Sequence := do
  let r ← liquidateNormalMode D q.state user q.remainingUSDDInStabPool
  let remaining ← SafeMath.sub q.remainingUSDDInStabPool r.2.debtToOffset
  pure { q with
    state := r.1
    totals := addLiquidationValuesToTotals q.totals r.2
    remainingUSDDInStabPool := remaining }

def liquidateTrovesSequenceRecoveryMode (firstUser : Address) :
    ℕ → Address → Sequence → Tx Sequence
  | 0, _, q => pure q
  | n + 1, user, q =>
      if user = firstUser then pure q
      else do
        let nextUser := (q.state.sortedTroves.nodes user).prevId
        let icr ← getCurrentICR q.state.troveManager user price
        if q.backToNormalMode = false then
          if icr ≥ MCR ∧ q.remainingUSDDInStabPool = 0 then pure q
          else do
            let q ← q.liquidateInRecoveryMode D price user icr true
            liquidateTrovesSequenceRecoveryMode firstUser n nextUser q
        else if icr < MCR then do
          let q ← q.liquidateInNormalMode D user
          liquidateTrovesSequenceRecoveryMode firstUser n nextUser q
        else pure q

def liquidateTrovesSequenceNormalMode : ℕ → Sequence → Tx Sequence
  | 0, q => pure q
  | n + 1, q => do
      let user := q.state.sortedTroves.tail
      let icr ← getCurrentICR q.state.troveManager user price
      if icr < MCR then do
        let q ← q.liquidateInNormalMode D user
        liquidateTrovesSequenceNormalMode n q
      else pure q

def batchLiquidateRecoveryMode : List Address → Sequence → Tx Sequence
  | [], q => pure q
  | user :: troveArray, q =>
      if (q.state.troveManager.troves user).status ≠ .active then
        batchLiquidateRecoveryMode troveArray q
      else do
        let icr ← getCurrentICR q.state.troveManager user price
        if q.backToNormalMode = false then
          if icr ≥ MCR ∧ q.remainingUSDDInStabPool = 0 then
            batchLiquidateRecoveryMode troveArray q
          else do
            let q ← q.liquidateInRecoveryMode D price user icr false
            batchLiquidateRecoveryMode troveArray q
        else if icr < MCR then do
          let q ← q.liquidateInNormalMode D user
          batchLiquidateRecoveryMode troveArray q
        else batchLiquidateRecoveryMode troveArray q

def batchLiquidateNormalMode : List Address → Sequence → Tx Sequence
  | [], q => pure q
  | user :: troveArray, q => do
      let icr ← getCurrentICR q.state.troveManager user price
      if icr < MCR then do
        let q ← q.liquidateInNormalMode D user
        batchLiquidateNormalMode troveArray q
      else batchLiquidateNormalMode troveArray q

def Sequence.start (s : State) : Sequence where
  state := s
  totals := .zero
  remainingUSDDInStabPool := s.stabilityPool.totalUSDDDeposits
  backToNormalMode := false
  entireSystemDebt := getEntireSystemDebt s
  entireSystemColl := getEntireSystemColl D s

def totalsFromLiquidateTrovesSequence (s : State) (n : ℕ) : Tx Sequence :=
  if checkRecoveryMode D s price then
    liquidateTrovesSequenceRecoveryMode D price s.sortedTroves.head n s.sortedTroves.tail
      (Sequence.start D s)
  else liquidateTrovesSequenceNormalMode D price n (Sequence.start D s)

def totalsFromBatchLiquidate (s : State) (troveArray : List Address) : Tx Sequence :=
  if checkRecoveryMode D s price then
    batchLiquidateRecoveryMode D price troveArray (Sequence.start D s)
  else batchLiquidateNormalMode D price troveArray (Sequence.start D s)

end Sequences

section Settlement

variable (D : Deployment) (m : Message)

def requireCallerIsLiquidatorOrGw (liquidator : Address) : Tx Unit :=
  require (m.sender = liquidator ∨ m.sender = D.wETHGateway)
    "TroveManager: Caller must be the liquidator or gateway"

def sendCollSurplus (s : State) (totalCollSurplus : ℕ) : Tx State :=
  if totalCollSurplus > 0 then do
    let s ← ActivePool.sendColl D D.troveManager s D.troveManager D.collToken totalCollSurplus
    CollSurplusPool.receiveColl D D.troveManager s D.collToken totalCollSurplus
  else pure s

def sendUSDDGasCompensation (s : State) (liquidator : Address) (usdd : ℕ) : Tx State :=
  if usdd > 0 then USDDToken.returnFromPool D D.troveManager s D.gasPool liquidator usdd
  else pure s

def sendCollGasCompensation (s : State) (liquidator : Address) (coll : ℕ) : Tx State :=
  if coll > 0 then ActivePool.sendColl D D.troveManager s liquidator D.collToken coll
  else pure s

def sendGasCompensation (s : State) (liquidator : Address) (usdd coll : ℕ) : Tx State := do
  let s ← sendUSDDGasCompensation D s liquidator usdd
  sendCollGasCompensation D s liquidator coll

/-- The end of both liquidation functions: the totals are settled with the pools. -/
def settleTotals (s : State) (liquidator : Address) (totals : LiquidationTotals) : Tx State := do
  require (totals.totalDebtInSequence > 0) "TroveManager: nothing to liquidate"
  let s ← StabilityPool.offset D m D.troveManager s totals.totalDebtToOffset
    totals.totalCollToSendToSP
  let s ← redistributeDebtAndColl D s totals.totalDebtToRedistribute
    totals.totalCollToRedistribute
  let s ← sendCollSurplus D s totals.totalCollSurplus
  let s ← updateSystemSnapshotsExcludeCollRemainder D s totals.totalCollGasCompensation
  let collWithoutGas ← SafeMath.sub totals.totalCollInSequence totals.totalCollGasCompensation
  let _liquidatedColl ← SafeMath.sub collWithoutGas totals.totalCollSurplus
  sendGasCompensation D s liquidator totals.totalUSDDGasCompensation
    totals.totalCollGasCompensation

def liquidateTroves (s : State) (liquidator : Address) (n : ℕ) : Tx State := do
  requireCallerIsLiquidatorOrGw D m liquidator
  let q ← totalsFromLiquidateTrovesSequence D m.price s n
  settleTotals D m q.state liquidator q.totals

def batchLiquidateTroves (s : State) (liquidator : Address) (troveArray : List Address) :
    Tx State := do
  requireCallerIsLiquidatorOrGw D m liquidator
  require (troveArray.length ≠ 0) "TroveManager: Calldata address array must not be empty"
  let q ← totalsFromBatchLiquidate D m.price s troveArray
  settleTotals D m q.state liquidator q.totals

def liquidate (s : State) (liquidator borrower : Address) : Tx State := do
  requireTroveIsActive s borrower
  batchLiquidateTroves D m s liquidator [borrower]

end Settlement

end Usdd.TroveManager

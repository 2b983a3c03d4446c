import Usdd.RedemptionCalls

/-!
# Failures of the USDD token

`TokenFailure` holds of the reasons for which burning or moving USDD can fail, and of the assertion
that a redemption starts with. The functions that never touch the token avoid them all, whatever
their arguments are. Only the calls that burn or move USDD need a reason of their own.
-/

open Transaction

namespace Usdd

@[simp] def TokenFailure : Revert → Prop
  | .message text => text ∈ ["ERC20: burn amount exceeds balance",
      "ERC20: transfer amount exceeds balance",
      "USDD: Caller is neither TroveManager nor StabilityPool",
      "USDD: Caller is neither BorrowerOperations nor TroveManager nor StabilityPool"]
  | .assertion condition => condition ∈ ["account != address(0)", "sender != address(0)",
      "recipient != address(0)",
      "usddToken.balanceOf(_depositor) <= totals.totalUSDDSupplyAtStart"]
  | .outOfGas => False

variable {D : Deployment} {m : Message} {s : State} {a sender recipient token borrower : Address}
  {amount debt coll price n : ℕ}

section Pools

@[simp] theorem Token.transfer_avoids :
    Avoids TokenFailure (Token.transfer s token sender recipient amount) := by
  simp [Token.transfer]

@[simp] theorem ActivePool.sendColl_avoids :
    Avoids TokenFailure (ActivePool.sendColl D sender s a token amount) := by
  simp [ActivePool.sendColl]

@[simp] theorem ActivePool.receiveColl_avoids :
    Avoids TokenFailure (ActivePool.receiveColl D sender s token amount) := by
  simp [ActivePool.receiveColl]

@[simp] theorem ActivePool.increaseUSDDDebt_avoids :
    Avoids TokenFailure (ActivePool.increaseUSDDDebt D sender s amount) := by
  simp [ActivePool.increaseUSDDDebt]

@[simp] theorem ActivePool.decreaseUSDDDebt_avoids :
    Avoids TokenFailure (ActivePool.decreaseUSDDDebt D sender s amount) := by
  simp [ActivePool.decreaseUSDDDebt]

@[simp] theorem DefaultPool.sendToActivePool_avoids :
    Avoids TokenFailure (DefaultPool.sendToActivePool D sender s token amount) := by
  simp [DefaultPool.sendToActivePool, DefaultPool.requireCallerIsTroveManagerOf]

@[simp] theorem DefaultPool.receiveColl_avoids :
    Avoids TokenFailure (DefaultPool.receiveColl D sender s token amount) := by
  simp [DefaultPool.receiveColl, DefaultPool.requireCallerIsTroveManagerOf]

@[simp] theorem DefaultPool.increaseUSDDDebt_avoids :
    Avoids TokenFailure (DefaultPool.increaseUSDDDebt D sender s amount) := by
  simp [DefaultPool.increaseUSDDDebt, DefaultPool.requireCallerIsTroveManager]

@[simp] theorem DefaultPool.decreaseUSDDDebt_avoids :
    Avoids TokenFailure (DefaultPool.decreaseUSDDDebt D sender s amount) := by
  simp [DefaultPool.decreaseUSDDDebt, DefaultPool.requireCallerIsTroveManager]

@[simp] theorem CollSurplusPool.accountSurplus_avoids :
    Avoids TokenFailure (CollSurplusPool.accountSurplus D sender s a token amount) := by
  simp [CollSurplusPool.accountSurplus]

@[simp] theorem CollSurplusPool.receiveColl_avoids :
    Avoids TokenFailure (CollSurplusPool.receiveColl D sender s token amount) := by
  simp [CollSurplusPool.receiveColl]

@[simp] theorem DEFTStaking.increaseFColl_avoids :
    Avoids TokenFailure (DEFTStaking.increaseFColl D sender s token amount) := by
  simp [DEFTStaking.increaseFColl]

end Pools

namespace SortedTroves

variable {view : Address → Tx ℕ} {d : Data} {nicr fuel : ℕ} {id prevId nextId : Address}

theorem descendLoop_avoidsTokenFailure (hn : ∀ a, Avoids TokenFailure (view a)) :
    Avoids TokenFailure (descendLoop view d nicr fuel prevId nextId) := by
  induction fuel generalizing prevId nextId with
  | zero => simp [descendLoop, Avoids]
  | succ fuel ih => simp [descendLoop, validInsertPosition_avoids hn, ih]

theorem ascendLoop_avoidsTokenFailure (hn : ∀ a, Avoids TokenFailure (view a)) :
    Avoids TokenFailure (ascendLoop view d nicr fuel prevId nextId) := by
  induction fuel generalizing prevId nextId with
  | zero => simp [ascendLoop, Avoids]
  | succ fuel ih => simp [ascendLoop, validInsertPosition_avoids hn, ih]

theorem findInsertPosition_avoidsTokenFailure (hn : ∀ a, Avoids TokenFailure (view a)) :
    Avoids TokenFailure (findInsertPosition view d nicr prevId nextId) := by
  simp [findInsertPosition, checkPrevHint, checkNextHint, descendList, ascendList, beforeHead,
    afterTail, hn, descendLoop_avoidsTokenFailure hn, ascendLoop_avoidsTokenFailure hn]

@[simp] theorem remove_avoids : Avoids TokenFailure (remove d id) := by
  simp [remove]

theorem reInsert_avoids (hn : ∀ a, Avoids TokenFailure (view a)) :
    Avoids TokenFailure (reInsert view d id nicr prevId nextId) := by
  simp [reInsert, insert, insertPosition, validInsertPosition_avoids hn,
    findInsertPosition_avoidsTokenFailure hn]

end SortedTroves

namespace TroveManager

variable {tm : TroveManager} {status : Status} {entire : EntireDebtAndColl} {fees : Fees}

@[simp] theorem getPendingCollReward_avoids :
    Avoids TokenFailure (getPendingCollReward tm borrower) := by
  simp [getPendingCollReward]

@[simp] theorem getPendingUSDDDebtReward_avoids :
    Avoids TokenFailure (getPendingUSDDDebtReward tm borrower) := by
  simp [getPendingUSDDDebtReward]

@[simp] theorem getNominalICR_avoids : Avoids TokenFailure (getNominalICR tm borrower) := by
  simp [getNominalICR, getCurrentTroveAmounts]

@[simp] theorem getCurrentICR_avoids : Avoids TokenFailure (getCurrentICR tm borrower price) := by
  simp [getCurrentICR, getCurrentTroveAmounts]

@[simp] theorem getEntireDebtAndColl_avoids :
    Avoids TokenFailure (getEntireDebtAndColl tm borrower) := by
  simp [getEntireDebtAndColl]

@[simp] theorem removeStake_avoids : Avoids TokenFailure (removeStake tm borrower) := by
  simp [removeStake]

@[simp] theorem updateStakeAndTotalStakes_avoids :
    Avoids TokenFailure (updateStakeAndTotalStakes tm borrower) := by
  simp [updateStakeAndTotalStakes, computeNewStake]

@[simp] theorem removeTroveOwner_avoids : Avoids TokenFailure (removeTroveOwner tm borrower n) := by
  simp [removeTroveOwner]

@[simp] theorem addRewardTerms_avoids : Avoids TokenFailure (addRewardTerms tm debt coll) := by
  simp [addRewardTerms]

@[simp] theorem movePendingTroveRewardsToActivePool_avoids :
    Avoids TokenFailure (movePendingTroveRewardsToActivePool D s debt coll) := by
  simp [movePendingTroveRewardsToActivePool]

@[simp] theorem applyPendingRewards_avoids :
    Avoids TokenFailure (applyPendingRewards D s borrower) := by
  simp [applyPendingRewards, requireTroveIsActive]

@[simp] theorem restake_avoids : Avoids TokenFailure (restake s borrower) := by
  simp [restake]

@[simp] theorem redistributeDebtAndColl_avoids :
    Avoids TokenFailure (redistributeDebtAndColl D s debt coll) := by
  simp [redistributeDebtAndColl]

@[simp] theorem closeTrove_avoids : Avoids TokenFailure (closeTrove s borrower status) := by
  simp [closeTrove, requireMoreThanOneTroveInSystem]

@[simp] theorem updateSystemSnapshotsExcludeCollRemainder_avoids :
    Avoids TokenFailure (updateSystemSnapshotsExcludeCollRemainder D s amount) := by
  simp [updateSystemSnapshotsExcludeCollRemainder]

@[simp] theorem updateBaseRateFromRedemption_avoids :
    Avoids TokenFailure (updateBaseRateFromRedemption m fees coll price debt) := by
  simp [updateBaseRateFromRedemption, calcDecayedBaseRate, minutesPassedSinceLastFeeOp,
    updateLastFeeOpTime]

@[simp] theorem getRedemptionFee_avoids : Avoids TokenFailure (getRedemptionFee fees coll) := by
  simp [getRedemptionFee, calcRedemptionFee]

@[simp] theorem settleTrove_avoids : Avoids TokenFailure (settleTrove D s borrower entire) := by
  simp [settleTrove]

@[simp] theorem getOffsetAndRedistributionVals_avoids :
    Avoids TokenFailure (getOffsetAndRedistributionVals debt coll amount) := by
  simp [getOffsetAndRedistributionVals]

@[simp] theorem liquidateNormalMode_avoids :
    Avoids TokenFailure (liquidateNormalMode D s borrower amount) := by
  simp [liquidateNormalMode]

@[simp] theorem liquidateRecoveryMode_avoids {icr tcr : ℕ} :
    Avoids TokenFailure (liquidateRecoveryMode D s borrower icr amount tcr price) := by
  simp [liquidateRecoveryMode, getCappedOffsetVals, accountCollSurplus]

section Sequences

variable {q : Sequence} {user firstUser : Address} {icr : ℕ} {subtractSurplus : Bool}

@[simp] theorem Sequence.liquidateInRecoveryMode_avoids :
    Avoids TokenFailure (q.liquidateInRecoveryMode D price user icr subtractSurplus) := by
  simp [Sequence.liquidateInRecoveryMode]

@[simp] theorem Sequence.liquidateInNormalMode_avoids :
    Avoids TokenFailure (q.liquidateInNormalMode D user) := by
  simp [Sequence.liquidateInNormalMode]

theorem totalsFromLiquidateTrovesSequence_avoids :
    Avoids TokenFailure (totalsFromLiquidateTrovesSequence D price s n) := by
  have hrecovery (n : ℕ) (user : Address) (q : Sequence) : Avoids TokenFailure
      (liquidateTrovesSequenceRecoveryMode D price s.sortedTroves.head n user q) := by
    induction n generalizing user q with
    | zero => simp [liquidateTrovesSequenceRecoveryMode]
    | succ n ih => simp [liquidateTrovesSequenceRecoveryMode, ih]
  have hnormal (n : ℕ) (q : Sequence) : Avoids TokenFailure
      (liquidateTrovesSequenceNormalMode D price n q) := by
    induction n generalizing q with
    | zero => simp [liquidateTrovesSequenceNormalMode]
    | succ n ih => simp [liquidateTrovesSequenceNormalMode, ih]
  simp [totalsFromLiquidateTrovesSequence, hrecovery, hnormal]

theorem totalsFromBatchLiquidate_avoids {troveArray : List Address} :
    Avoids TokenFailure (totalsFromBatchLiquidate D price s troveArray) := by
  have hrecovery (troveArray : List Address) (q : Sequence) : Avoids TokenFailure
      (batchLiquidateRecoveryMode D price troveArray q) := by
    induction troveArray generalizing q with
    | nil => simp [batchLiquidateRecoveryMode]
    | cons user troveArray ih => simp [batchLiquidateRecoveryMode, ih]
  have hnormal (troveArray : List Address) (q : Sequence) : Avoids TokenFailure
      (batchLiquidateNormalMode D price troveArray q) := by
    induction troveArray generalizing q with
    | nil => simp [batchLiquidateNormalMode]
    | cons user troveArray ih => simp [batchLiquidateNormalMode, ih]
  simp [totalsFromBatchLiquidate, hrecovery, hnormal]

@[simp] theorem sendCollSurplus_avoids : Avoids TokenFailure (sendCollSurplus D s amount) := by
  simp [sendCollSurplus]

@[simp] theorem sendCollGasCompensation_avoids :
    Avoids TokenFailure (sendCollGasCompensation D s a coll) := by
  simp [sendCollGasCompensation]

end Sequences

theorem firstBorrower_avoids : Avoids TokenFailure (firstBorrower price s borrower) := by
  have hclimb (fuel : ℕ) (borrower : Address) :
      Avoids TokenFailure (firstTroveAboveMCR price s fuel borrower) := by
    induction fuel generalizing borrower with
    | zero => simp [firstTroveAboveMCR, Avoids]
    | succ fuel ih => simp [firstTroveAboveMCR, ih]
  simp [firstBorrower, isValidFirstRedemptionHint, hclimb]

end TroveManager

namespace StabilityPool

variable {sp : StabilityPool}

@[simp] theorem triggerDEFTIssuance_avoids : Avoids TokenFailure (triggerDEFTIssuance D m s) := by
  simp [triggerDEFTIssuance, CommunityIssuance.issueDEFT, CommunityIssuance.requireCallerIsStabilityPool,
    CommunityIssuance.getCumulativeIssuanceFraction, updateG]

@[simp] theorem computeRewardsPerUnitStaked_avoids :
    Avoids TokenFailure (computeRewardsPerUnitStaked sp coll debt amount) := by
  simp [computeRewardsPerUnitStaked, usddLossPerUnitStaked]

@[simp] theorem updateRewardSumAndProduct_avoids {gain loss : ℕ} :
    Avoids TokenFailure (updateRewardSumAndProduct sp gain loss) := by
  simp [updateRewardSumAndProduct]

@[simp] theorem decreaseUSDD_avoids : Avoids TokenFailure (decreaseUSDD s amount) := by
  simp [decreaseUSDD]

end StabilityPool

end Usdd

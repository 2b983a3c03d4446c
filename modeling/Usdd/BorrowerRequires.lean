import Usdd.Registry
import Usdd.BorrowerCalls

/-!
# The requirements of BorrowerOperations

`BorrowerRequire` holds of the reasons with which a borrower operation refuses a change, other than
those about the fee limit. What an operation calls apart from its own checks never fails for one of
them.
-/

open Transaction

namespace Usdd

@[simp] def BorrowerRequire : Revert → Prop
  | .message text => text ∈ ["BorrowerOps: Caller must be the borrower or gateway",
      "BorrowerOps: Caller must be the borrower or gateway or stabilityPool",
      "BorrowerOps: Caller is not Stability Pool",
      "BorrowerOperations: Cannot withdraw and add coll",
      "BorrowerOps: There must be either a collateral change or a debt change",
      "BorrowerOps: Trove does not exist or is closed",
      "BorrowerOps: Trove is active",
      "BorrowerOps: Debt increase requires non-zero debtChange",
      "BorrowerOps: Operation not permitted during Recovery Mode",
      "BorrowerOps: Collateral withdrawal not permitted Recovery Mode",
      "BorrowerOps: An operation that would result in ICR < MCR is not permitted",
      "BorrowerOps: Operation must leave trove with ICR >= CCR",
      "BorrowerOps: Cannot decrease your Trove's ICR in Recovery Mode",
      "BorrowerOps: An operation that would result in TCR < CCR is not permitted",
      "BorrowerOps: Trove's net debt must be greater than minimum",
      "BorrowerOps: Amount repaid must not be larger than the Trove's debt",
      "BorrowerOps: Caller doesnt have enough USDD to make repayment",
      "TroveManager: Only one trove in the system"]
  | _ => False

variable {D : Deployment} {m : Message} {s : State} {a sender recipient token borrower : Address}
  {amount debt coll price n : ℕ}

section Tokens

theorem Token.transfer_passes :
    Avoids BorrowerRequire (Token.transfer s token sender recipient amount) := by
  simp [Token.transfer]

theorem ActivePool.sendColl_passes :
    Avoids BorrowerRequire (ActivePool.sendColl D sender s a token amount) := by
  simp [ActivePool.sendColl, Token.transfer]

theorem ActivePool.increaseUSDDDebt_passes :
    Avoids BorrowerRequire (ActivePool.increaseUSDDDebt D sender s amount) := by
  simp [ActivePool.increaseUSDDDebt]

theorem ActivePool.decreaseUSDDDebt_passes :
    Avoids BorrowerRequire (ActivePool.decreaseUSDDDebt D sender s amount) := by
  simp [ActivePool.decreaseUSDDDebt]

theorem USDDToken.mint_passes :
    Avoids BorrowerRequire (USDDToken.mint D sender s a amount) := by
  simp [USDDToken.mint, USDDToken.mintTo]

theorem USDDToken.burnFrom_passes {t : USDDToken} :
    Avoids BorrowerRequire (t.burnFrom a amount) := by
  refine avoids_bind (by simp) (fun _ _ => ?_)
  by_cases h : amount ≤ t.balances a
  · rw [dif_pos h]
    exact avoids_pure _
  · rw [dif_neg h]
    simp [Avoids]

theorem USDDToken.burn_passes :
    Avoids BorrowerRequire (USDDToken.burn D sender s a amount) := by
  simp [USDDToken.burn, USDDToken.burnFrom_passes]

end Tokens

namespace TroveManager

variable {tm : TroveManager} {status : Status} {fees : Fees}

theorem getNominalICR_passes : Avoids BorrowerRequire (getNominalICR tm borrower) := by
  simp [getNominalICR, getCurrentTroveAmounts, getPendingCollReward, getPendingUSDDDebtReward]

theorem restake_passes : Avoids BorrowerRequire (restake s borrower) := by
  simp [restake, updateStakeAndTotalStakes, computeNewStake]

theorem applyPendingRewards_passes :
    Avoids BorrowerRequire (applyPendingRewards D s borrower) := by
  simp [applyPendingRewards, requireTroveIsActive, getPendingCollReward, getPendingUSDDDebtReward,
    movePendingTroveRewardsToActivePool, DefaultPool.decreaseUSDDDebt,
    ActivePool.increaseUSDDDebt, DefaultPool.sendToActivePool, ActivePool.receiveColl,
    Token.transfer, DefaultPool.requireCallerIsTroveManager,
    DefaultPool.requireCallerIsTroveManagerOf]

theorem decayBaseRateFromBorrowing_passes :
    Avoids BorrowerRequire (decayBaseRateFromBorrowing m fees) := by
  simp [decayBaseRateFromBorrowing, calcDecayedBaseRate, minutesPassedSinceLastFeeOp,
    updateLastFeeOpTime]

/-- A closing passes when there is another trove. -/
theorem closeTrove_passes (h : 1 < s.troveManager.troveOwners.length ∧ 1 < s.sortedTroves.size) :
    Avoids BorrowerRequire (closeTrove s borrower status) := by
  simp [closeTrove, requireMoreThanOneTroveInSystem, h, removeTroveOwner, SortedTroves.remove]

end TroveManager

namespace SortedTroves

variable {view : Address → Tx ℕ} {d : Data} {nicr fuel : ℕ} {id prevId nextId : Address}

theorem descendLoop_passes (hn : ∀ a, Avoids BorrowerRequire (view a)) :
    Avoids BorrowerRequire (descendLoop view d nicr fuel prevId nextId) := by
  induction fuel generalizing prevId nextId with
  | zero => simp [descendLoop, Avoids]
  | succ fuel ih => simp [descendLoop, validInsertPosition_avoids hn, ih]

theorem ascendLoop_passes (hn : ∀ a, Avoids BorrowerRequire (view a)) :
    Avoids BorrowerRequire (ascendLoop view d nicr fuel prevId nextId) := by
  induction fuel generalizing prevId nextId with
  | zero => simp [ascendLoop, Avoids]
  | succ fuel ih => simp [ascendLoop, validInsertPosition_avoids hn, ih]

theorem findInsertPosition_passes (hn : ∀ a, Avoids BorrowerRequire (view a)) :
    Avoids BorrowerRequire (findInsertPosition view d nicr prevId nextId) := by
  simp [findInsertPosition, checkPrevHint, checkNextHint, descendList, ascendList, beforeHead,
    afterTail, hn, descendLoop_passes hn, ascendLoop_passes hn]

theorem insert_passes (hn : ∀ a, Avoids BorrowerRequire (view a)) :
    Avoids BorrowerRequire (insert view d id nicr prevId nextId) := by
  simp [insert, insertPosition, validInsertPosition_avoids hn, findInsertPosition_passes hn]

theorem reInsert_passes (hn : ∀ a, Avoids BorrowerRequire (view a)) :
    Avoids BorrowerRequire (reInsert view d id nicr prevId nextId) := by
  simp [reInsert, insert_passes hn, remove]

end SortedTroves

namespace BorrowerOperations

open TroveManager (applyPendingRewards_passes restake_passes getNominalICR_passes
  decayBaseRateFromBorrowing_passes)

variable {owner upperHint lowerHint : Address} {maxFee coll usdd : ℕ} {adj : Adjustment}
  {isIncrease isCollIncrease isDebtIncrease : Bool}

section Parts

theorem chargeBorrowingFee_passes {charged : Bool} :
    Avoids BorrowerRequire (chargeBorrowingFee D m s charged amount maxFee) := by
  simp [chargeBorrowingFee, triggerBorrowingFee, decayBaseRateFromBorrowing_passes,
    requireUserAcceptsFee, DEFTStaking.increaseFUSDD, USDDToken.mint_passes]

theorem requireValidMaxFeePercentage_passes {isRecoveryMode : Bool} :
    Avoids BorrowerRequire (requireValidMaxFeePercentage maxFee isRecoveryMode) := by
  simp [requireValidMaxFeePercentage]

theorem activePoolAddColl_passes : Avoids BorrowerRequire (activePoolAddColl D m s amount) := by
  simp [activePoolAddColl, Token.transfer, ActivePool.receiveColl]

theorem withdrawUSDD_passes {netDebtIncrease : ℕ} :
    Avoids BorrowerRequire (withdrawUSDD D s a amount netDebtIncrease) := by
  simp [withdrawUSDD, ActivePool.increaseUSDDDebt_passes, USDDToken.mint_passes]

theorem repayUSDD_passes : Avoids BorrowerRequire (repayUSDD D s a amount) := by
  simp [repayUSDD, ActivePool.decreaseUSDDDebt_passes, USDDToken.burn_passes]

theorem applyChange_passes {change : ℕ} :
    Avoids BorrowerRequire (applyChange amount change isIncrease) := by
  simp [applyChange]

theorem updateTroveFromAdjustment_passes {tm : TroveManager} {collChange debtChange : ℕ} :
    Avoids BorrowerRequire (updateTroveFromAdjustment tm borrower collChange isCollIncrease
      debtChange isDebtIncrease) := by
  simp [updateTroveFromAdjustment, updateCollFromAdjustment, updateDebtFromAdjustment,
    TroveManager.decreaseTroveColl, TroveManager.decreaseTroveDebt]

theorem moveTokensAndCollfromAdjustment_passes {collChange usddChange netDebtChange : ℕ} :
    Avoids BorrowerRequire (moveTokensAndCollfromAdjustment D m s borrower collChange
      isCollIncrease usddChange isDebtIncrease netDebtChange) := by
  simp [moveTokensAndCollfromAdjustment, moveUSDDFromAdjustment, moveCollFromAdjustment,
    withdrawUSDD_passes, repayUSDD_passes, activePoolAddColl_passes, ActivePool.sendColl_passes]

theorem recordTrove_passes {compositeDebt : ℕ} :
    Avoids BorrowerRequire (recordTrove s owner coll compositeDebt upperHint lowerHint) := by
  simp [recordTrove, restake_passes,
    SortedTroves.insert_passes (fun _ => getNominalICR_passes)]

end Parts

section Operations

/-- An opening passes if its own checks do. -/
theorem openTrove_passes (hnew : ¬s.troveManager.Active owner)
    (hchecks : ∀ s₁ fee, chargeBorrowingFee D m s
        (!TroveManager.checkRecoveryMode D s m.price) usdd maxFee = .ok (s₁, fee) →
      minNetDebt ≤ usdd + fee ∧
      Avoids BorrowerRequire (requireValidOpening D m s₁
        (TroveManager.checkRecoveryMode D s m.price) coll (getCompositeDebt (usdd + fee)))) :
    Avoids BorrowerRequire (openTrove D m s owner maxFee coll usdd upperHint lowerHint) := by
  refine avoids_bind requireValidMaxFeePercentage_passes (fun _ _ => ?_)
  refine avoids_bind (avoids_require_iff.2 (Or.inl hnew)) (fun _ _ => ?_)
  refine avoids_bind chargeBorrowingFee_passes (fun charged hcharged => ?_)
  obtain ⟨hmin, hratio⟩ := hchecks charged.1 charged.2 hcharged
  refine avoids_bind (avoids_require_iff.2 (Or.inl hmin)) (fun _ _ => ?_)
  refine avoids_bind (avoids_assert_iff.2 (Or.inr (by simp))) (fun _ _ => ?_)
  refine avoids_bind hratio (fun _ _ => ?_)
  refine avoids_bind recordTrove_passes (fun _ _ => ?_)
  refine avoids_bind activePoolAddColl_passes (fun _ _ => ?_)
  exact avoids_bind withdrawUSDD_passes (fun _ _ => withdrawUSDD_passes)

/-- After the checks on its arguments, an adjustment passes exactly if its checks on the resulting
ratios and on the repayment do. -/
theorem adjustTrove_passes_iff {s₁ : State}
    (hvalid : requireValidAdjustment D m s borrower adj
      (TroveManager.checkRecoveryMode D s m.price) = .ok ())
    (happly : TroveManager.applyPendingRewards D s borrower = .ok s₁) :
    Avoids BorrowerRequire (adjustTrove D m s borrower adj) ↔
      ∀ s₂ fee, chargeBorrowingFee D m s₁
        (adj.isDebtIncrease && !TroveManager.checkRecoveryMode D s m.price) adj.usddChange
        adj.maxFeePercentage = .ok (s₂, fee) →
      ∀ newICR, getNewICRFromTroveChange (s₂.troveManager.troves borrower).coll
        (s₂.troveManager.troves borrower).debt
        (getCollChange adj.collDeposited adj.collWithdrawal).1
        (getCollChange adj.collDeposited adj.collWithdrawal).2 (adj.usddChange + fee)
        adj.isDebtIncrease m.price = .ok newICR →
      adj.collWithdrawal ≤ (s₂.troveManager.troves borrower).coll →
      Avoids BorrowerRequire (do
        requireValidAdjustmentInCurrentMode D m s₂ (TroveManager.checkRecoveryMode D s m.price)
          adj.collWithdrawal adj.isDebtIncrease
          (LiquityMath.computeCR (s₂.troveManager.troves borrower).coll
            (s₂.troveManager.troves borrower).debt m.price) newICR
          (getCollChange adj.collDeposited adj.collWithdrawal).1
          (getCollChange adj.collDeposited adj.collWithdrawal).2 (adj.usddChange + fee)
        requireValidRepayment s₂ borrower adj (s₂.troveManager.troves borrower).debt
          (adj.usddChange + fee)) := by
  constructor
  · intro h s₂ fee hcharge newICR hicr hle
    have h := (avoids_bind_iff.1 h).2 () hvalid
    have h := (avoids_bind_iff.1 h).2 s₁ happly
    have h := (avoids_bind_iff.1 h).2 (s₂, fee) hcharge
    have h := (avoids_bind_iff.1 h).2 newICR hicr
    have h := (avoids_bind_iff.1 h).2 () (assert_eq_ok.2 hle)
    obtain ⟨hmode, h⟩ := avoids_bind_iff.1 h
    exact avoids_bind hmode (fun u hu => (avoids_bind_iff.1 (h u hu)).1)
  · intro h
    refine avoids_bind (by rw [hvalid]; exact avoids_ok ()) (fun _ _ => ?_)
    refine avoids_bind applyPendingRewards_passes (fun s₁' hs₁ => ?_)
    rw [happly] at hs₁
    cases hs₁
    refine avoids_bind chargeBorrowingFee_passes (fun charged hcharged => ?_)
    refine avoids_bind (by simp [getNewICRFromTroveChange, getNewTroveAmounts,
      applyChange_passes]) (fun newICR hicr => ?_)
    refine avoids_bind (avoids_assert_iff.2 (Or.inr (by simp))) (fun _ hle => ?_)
    obtain ⟨hmode, hrepay⟩ := avoids_bind_iff.1
      (h charged.1 charged.2 hcharged newICR hicr (assert_eq_ok.1 hle))
    refine avoids_bind hmode (fun u hu => ?_)
    refine avoids_bind (hrepay u hu) (fun _ _ => ?_)
    refine avoids_bind updateTroveFromAdjustment_passes (fun _ _ => ?_)
    refine avoids_bind restake_passes (fun _ _ => ?_)
    refine avoids_bind (by simp [getNewNominalICRFromTroveChange, getNewTroveAmounts,
      applyChange_passes]) (fun _ _ => ?_)
    refine avoids_bind (SortedTroves.reInsert_passes (fun _ => getNominalICR_passes))
      (fun _ _ => ?_)
    exact moveTokensAndCollfromAdjustment_passes

/-- A closing in Normal Mode with enough USDD passes exactly if the ratio of the system stays high
enough. -/
theorem closeTrove_passes_iff {s₁ : State} {newTCR : ℕ}
    (hactive : s.troveManager.Active m.sender)
    (hmode : TroveManager.checkRecoveryMode D s m.price = false)
    (happly : TroveManager.applyPendingRewards D s m.sender = .ok s₁)
    (hreserve : usddGasCompensation ≤ (s₁.troveManager.troves m.sender).debt)
    (hbalance : (s₁.troveManager.troves m.sender).debt - usddGasCompensation ≤
      s₁.usddToken.balances m.sender)
    (htcr : getNewTCRFromTroveChange D s₁ (s₁.troveManager.troves m.sender).coll false
      (s₁.troveManager.troves m.sender).debt false m.price = .ok newTCR)
    (hmore : 1 < s₁.troveManager.troveOwners.length ∧ 1 < s₁.sortedTroves.size) :
    Avoids BorrowerRequire (closeTrove D m s m.sender) ↔ CCR ≤ newTCR := by
  have hcaller : requireCallerIsBorrowerOrGw D m m.sender = .ok () :=
    require_eq_ok.2 (Or.inl rfl)
  have hrepayment : SafeMath.sub (s₁.troveManager.troves m.sender).debt usddGasCompensation =
      .ok ((s₁.troveManager.troves m.sender).debt - usddGasCompensation) :=
    sub_eq_ok.2 ⟨hreserve, rfl⟩
  have htrove : requireTroveisActive s m.sender = .ok () := require_eq_ok.2 hactive
  have hnormal : requireNotInRecoveryMode D s m.price = .ok () := require_eq_ok.2 hmode
  have hcovered : requireSufficientUSDDBalance s₁ m.sender
      ((s₁.troveManager.troves m.sender).debt - usddGasCompensation) = .ok () :=
    require_eq_ok.2 hbalance
  unfold closeTrove
  rw [hcaller, ok_bind, htrove, ok_bind, hnormal, ok_bind, happly, ok_bind]
  dsimp only
  rw [hrepayment, ok_bind, hcovered, ok_bind, htcr, ok_bind]
  constructor
  · intro h
    rcases avoids_require_iff.1 (avoids_bind_iff.1 h).1 with hccr | hbad
    · exact hccr
    · exact absurd (by simp) hbad
  · intro hccr
    refine avoids_bind (avoids_require_iff.2 (Or.inl hccr)) (fun _ _ => ?_)
    refine avoids_bind (by simp [TroveManager.removeStake]) (fun tm htm => ?_)
    have hstake : tm.troveOwners = s₁.troveManager.troveOwners := by
      obtain ⟨-, rfl⟩ := TroveManager.removeStake_eq_ok htm
      rfl
    refine avoids_bind (TroveManager.closeTrove_passes ?_) (fun _ _ => ?_)
    · dsimp only
      rw [hstake]
      exact hmore
    · refine avoids_bind repayUSDD_passes (fun _ _ => ?_)
      exact avoids_bind repayUSDD_passes (fun _ _ => ActivePool.sendColl_passes)

end Operations

end BorrowerOperations

end Usdd

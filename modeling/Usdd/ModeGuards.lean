import Usdd.MarketRuns

/-!
# Borrower operations in Normal Mode

The collateral ratios that a borrower operation predicts are those that the pools and the trove have
after it. The prediction of the system ratio holds in every state, and that of the trove's ratio in
every state in which the trove has no pending debt left once its rewards are applied.
-/

open Transaction

namespace Usdd.BorrowerOperations

open TroveManager

variable {D : Deployment} {m : Message} {s s₁ s₂ s' : State} {account : Address} {a : Adjustment}

section System

variable (D) in
/-- The collateral and the debt of the system. -/
def totals (s : State) : ℕ × ℕ := (getEntireSystemColl D s, getEntireSystemDebt s)

theorem getNewTCRFromTroveChange_congr (h : totals D s' = totals D s) (collChange : ℕ)
    (isCollIncrease : Bool) (debtChange : ℕ) (isDebtIncrease : Bool) (price : ℕ) :
    getNewTCRFromTroveChange D s' collChange isCollIncrease debtChange isDebtIncrease price =
      getNewTCRFromTroveChange D s collChange isCollIncrease debtChange isDebtIncrease price := by
  obtain ⟨hcoll, hdebt⟩ := Prod.mk.inj h
  unfold getNewTCRFromTroveChange
  rw [hcoll, hdebt]

theorem getTCR_congr (h : totals D s' = totals D s) (price : ℕ) :
    getTCR D s' price = getTCR D s price := by
  obtain ⟨hcoll, hdebt⟩ := Prod.mk.inj h
  unfold getTCR
  rw [hcoll, hdebt]

/-- Rewards move between the pools. -/
theorem applyPendingRewards_totals (ha : s.troveManager.Active account)
    (h : applyPendingRewards D s account = .ok s') : totals D s' = totals D s := by
  rcases applyPendingRewards_book ha h with ⟨rfl, -⟩ | ⟨coll, debt, -, -, hb⟩
  · rfl
  · obtain ⟨hdebt, hcoll, hb⟩ := hb 0 0 0
    have hactiveDebt := congrArg Book.activeDebt hb
    have hactiveColl := congrArg Book.activeColl hb
    have hdefaultDebt := congrArg Book.defaultDebt hb
    have hdefaultColl := congrArg Book.defaultColl hb
    unfold totals getEntireSystemColl getEntireSystemDebt
    dsimp only [State.book] at *
    rw [hactiveDebt, hactiveColl, hdefaultDebt, hdefaultColl]
    congr 1 <;> omega

theorem chargeBorrowingFee_frame {charged : Bool} {amount maxFee fee : ℕ}
    (h : chargeBorrowingFee D m s charged amount maxFee = .ok (s', fee)) :
    totals D s' = totals D s ∧ s'.troveManager = s.troveManager := by
  obtain ⟨_, _, -, -, hb⟩ := chargeBorrowingFee_book h 0 0 0
  have hactiveDebt := congrArg Book.activeDebt hb
  have hactiveColl := congrArg Book.activeColl hb
  have hdefaultDebt := congrArg Book.defaultDebt hb
  have hdefaultColl := congrArg Book.defaultColl hb
  refine ⟨?_, congrArg Book.troveManager hb⟩
  unfold totals getEntireSystemColl getEntireSystemDebt
  dsimp only [State.book] at *
  rw [hactiveDebt, hactiveColl, hdefaultDebt, hdefaultColl]

theorem applyChange_add_right {x y change : ℕ} {isIncrease : Bool} (z : ℕ)
    (h : applyChange x change isIncrease = .ok y) :
    applyChange (x + z) change isIncrease = .ok (y + z) := by
  rcases applyChange_eq_ok.1 h with ⟨hi, rfl⟩ | ⟨hi, hle, rfl⟩
  · exact applyChange_eq_ok.2 (Or.inl ⟨hi, by omega⟩)
  · exact applyChange_eq_ok.2 (Or.inr ⟨hi, by omega, by omega⟩)

/-- What an adjustment does to the totals of the system. -/
theorem moveTokens_totals {collChange usddChange netDebtChange : ℕ}
    {isCollIncrease isDebtIncrease : Bool}
    (hnet : isDebtIncrease = false → netDebtChange = usddChange) (hgas : account ≠ D.gasPool)
    (hpool : account = D.stabilityPool → usddChange = 0)
    (h : moveUSDDFromAdjustment D s account usddChange isDebtIncrease netDebtChange = .ok s₁)
    (h' : moveCollFromAdjustment D m s₁ account collChange isCollIncrease = .ok s') :
    applyChange (totals D s).1 collChange isCollIncrease = .ok (totals D s').1 ∧
      applyChange (totals D s).2 netDebtChange isDebtIncrease = .ok (totals D s').2 ∧
      s'.troveManager = s.troveManager := by
  obtain ⟨activeDebt, _, _, _, hactiveDebt, -, -, -, b₁⟩ :=
    moveUSDDFromAdjustment_book h hnet hgas hpool 0 0 0
  obtain ⟨activeColl, hactiveColl, b'⟩ := moveCollFromAdjustment_book h' 0 0 0
  rw [b₁] at hactiveColl b'
  have hdebt' := congrArg Book.activeDebt b'
  have hcoll' := congrArg Book.activeColl b'
  have hdefaultDebt := congrArg Book.defaultDebt b'
  have hdefaultColl := congrArg Book.defaultColl b'
  unfold totals getEntireSystemColl getEntireSystemDebt
  dsimp only [State.book] at *
  rw [hdebt', hcoll', hdefaultDebt, hdefaultColl]
  exact ⟨applyChange_add_right _ hactiveColl, applyChange_add_right _ hactiveDebt,
    congrArg Book.troveManager b'⟩

theorem getNewTCRFromTroveChange_eq {collChange debtChange : ℕ}
    {isCollIncrease isDebtIncrease : Bool}
    (hcoll : applyChange (totals D s).1 collChange isCollIncrease = .ok (totals D s').1)
    (hdebt : applyChange (totals D s).2 debtChange isDebtIncrease = .ok (totals D s').2)
    (price : ℕ) :
    getNewTCRFromTroveChange D s collChange isCollIncrease debtChange isDebtIncrease price =
      .ok (getTCR D s' price) :=
  bind_eq_ok.2 ⟨_, hcoll, bind_eq_ok.2 ⟨_, hdebt, rfl⟩⟩

end System

section Trove

/-- The ratio of a trove that has no pending rewards. -/
theorem getCurrentICR_of_realised {tm : TroveManager} (ha : tm.Active account)
    (hcoll : tm.collSnapshots account = tm.lColl) (hdebt : tm.debtSnapshots account = tm.lUSDDDebt)
    (price : ℕ) :
    getCurrentICR tm account price =
      .ok (LiquityMath.computeCR (tm.troves account).coll (tm.troves account).debt price) := by
  rw [getCurrentICR_of_active ha hcoll.le hdebt.le price, currentColl, currentDebt,
    pendingColl_of_le hcoll.ge, pendingDebt_of_le hdebt.ge, Nat.add_zero, Nat.add_zero]

theorem getNewICRFromTroveChange_eq_ok {coll debt collChange debtChange price icr coll' debt' : ℕ}
    {isCollIncrease isDebtIncrease : Bool}
    (h : getNewICRFromTroveChange coll debt collChange isCollIncrease debtChange isDebtIncrease
      price = .ok icr)
    (hcoll : applyChange coll collChange isCollIncrease = .ok coll')
    (hdebt : applyChange debt debtChange isDebtIncrease = .ok debt') :
    icr = LiquityMath.computeCR coll' debt' price := by
  obtain ⟨_, hnew, h⟩ := bind_eq_ok.1 h
  obtain ⟨_, hc, hnew⟩ := bind_eq_ok.1 hnew
  obtain ⟨_, hd, hnew⟩ := bind_eq_ok.1 hnew
  rw [hcoll] at hc
  rw [hdebt] at hd
  cases hc
  cases hd
  cases pure_eq_ok.1 hnew
  exact (pure_eq_ok.1 h).symm

/-- The trove has its current amounts once its rewards are applied. -/
theorem applyPendingRewards_current (hreg : Registry s.troveManager s.sortedTroves)
    (hin : s.troveManager.lColl ≤ s.troveManager.collSnapshots account →
      s.troveManager.lUSDDDebt ≤ s.troveManager.debtSnapshots account)
    (ha : s.troveManager.Active account) (h : applyPendingRewards D s account = .ok s') :
    s'.troveManager.collSnapshots account = s'.troveManager.lColl ∧
      s'.troveManager.debtSnapshots account = s'.troveManager.lUSDDDebt ∧
      (s'.troveManager.troves account).coll = s.troveManager.currentColl account ∧
      (s'.troveManager.troves account).debt = s.troveManager.currentDebt account := by
  rcases applyPendingRewards_book ha h with ⟨rfl, hcoll⟩ | ⟨coll, debt, hcoll, hdebt, hb⟩
  · have hdebt := hin hcoll
    obtain ⟨hcoll', hdebt'⟩ := hreg.snapshot_le account
    refine ⟨hcoll'.antisymm hcoll, hdebt'.antisymm hdebt, ?_, ?_⟩
    · rw [currentColl, pendingColl_of_le hcoll, Nat.add_zero]
    · rw [currentDebt, pendingDebt_of_le hdebt, Nat.add_zero]
  · have htm : s'.troveManager = s.troveManager.realised account coll debt :=
      congrArg Book.troveManager (hb 0 0 0).2.2
    obtain ⟨-, rfl⟩ := (getPendingCollReward_eq_ok_iff ha).1 hcoll
    obtain ⟨-, rfl⟩ := (getPendingUSDDDebtReward_eq_ok_iff ha).1 hdebt
    rw [htm]
    simp [realised_eq, collSnapshots, debtSnapshots, currentColl, currentDebt]

end Trove

section Predictions

/-- What an opening predicts from the state in which it has charged the fee. -/
def OpeningPredicted (D : Deployment) (m : Message) (s : State) (owner : Address)
    (maxFeePercentage collAmount usddAmount : ℕ) (s' : State) : Prop :=
  ∃ s₁ fee,
    chargeBorrowingFee D m s (!checkRecoveryMode D s m.price) usddAmount maxFeePercentage =
      .ok (s₁, fee) ∧
    getNewTCRFromTroveChange D s₁ collAmount true (getCompositeDebt (usddAmount + fee)) true
      m.price = .ok (getTCR D s' m.price) ∧
    getCurrentICR s'.troveManager owner m.price =
      .ok (LiquityMath.computeCR collAmount (getCompositeDebt (usddAmount + fee)) m.price)

/-- What an adjustment predicts from the state in which it has applied the rewards and charged the
fee. -/
def AdjustmentPredicted (D : Deployment) (m : Message) (s : State) (account : Address)
    (a : Adjustment) (s' : State) : Prop :=
  ∃ s₁ s₂ fee newICR,
    applyPendingRewards D s account = .ok s₁ ∧
    chargeBorrowingFee D m s₁ (a.isDebtIncrease && !checkRecoveryMode D s m.price) a.usddChange
      a.maxFeePercentage = .ok (s₂, fee) ∧
    getNewTCRFromTroveChange D s₂ (getCollChange a.collDeposited a.collWithdrawal).1
      (getCollChange a.collDeposited a.collWithdrawal).2 (a.usddChange + fee) a.isDebtIncrease
      m.price = .ok (getTCR D s' m.price) ∧
    getNewICRFromTroveChange (s₂.troveManager.troves account).coll
      (s₂.troveManager.troves account).debt (getCollChange a.collDeposited a.collWithdrawal).1
      (getCollChange a.collDeposited a.collWithdrawal).2 (a.usddChange + fee) a.isDebtIncrease
      m.price = .ok newICR ∧
    getCurrentICR s'.troveManager account m.price = .ok newICR

/-- What a closure predicts from the state in which it has applied the rewards. -/
def ClosurePredicted (D : Deployment) (m : Message) (s s' : State) : Prop :=
  ∃ s₁, applyPendingRewards D s m.sender = .ok s₁ ∧
    getNewTCRFromTroveChange D s₁ (s₁.troveManager.troves m.sender).coll false
      (s₁.troveManager.troves m.sender).debt false m.price = .ok (getTCR D s' m.price)

end Predictions

section Amounts

/-- The amounts of the trove and of the system after an opening. -/
theorem openTrove_amounts {owner upperHint lowerHint : Address} {maxFee coll usdd : ℕ}
    (hreg : Registry s.troveManager s.sortedTroves)
    (h : openTrove D m s owner maxFee coll usdd upperHint lowerHint = .ok s') :
    ∃ s₁ fee stake,
      chargeBorrowingFee D m s (!checkRecoveryMode D s m.price) usdd maxFee = .ok (s₁, fee) ∧
      totals D s₁ = totals D s ∧
      requireValidOpening D m s₁ (checkRecoveryMode D s m.price) coll
        (getCompositeDebt (usdd + fee)) = .ok () ∧
      s'.troveManager = s.troveManager.entered owner coll (getCompositeDebt (usdd + fee)) stake ∧
      totals D s' =
        ((totals D s).1 + coll, (totals D s).2 + getCompositeDebt (usdd + fee)) := by
  obtain ⟨s₁, fee, tm, list, s₃, s₄, hnew, h₁, hmin, hratio, htm, -, h₃, h₄, h⟩ := openTrove_eq_ok h
  obtain ⟨htotals, hs₁⟩ := chargeBorrowingFee_frame h₁
  rw [hs₁] at htm
  obtain ⟨hdebt, hcoll, hstake, -⟩ := hreg.inactive owner hnew
  obtain ⟨stake, -, hentered⟩ := opened_eq_ok hdebt hcoll hstake htm
  have b₃ := activePoolAddColl_book h₃ 0 0 0
  obtain ⟨_, _, -, -, -, b₄⟩ := withdrawUSDD_book h₄ 0 0 0
  obtain ⟨_, _, -, -, -, b₅⟩ := withdrawUSDD_book h 0 0 0
  rw [b₃] at b₄
  rw [b₄] at b₅
  refine ⟨s₁, fee, stake, h₁, htotals, hratio, ?_, ?_⟩
  · rw [← hentered]
    exact congrArg Book.troveManager b₅
  · have hactiveDebt := congrArg Book.activeDebt b₅
    have hactiveColl := congrArg Book.activeColl b₅
    have hdefaultDebt := congrArg Book.defaultDebt b₅
    have hdefaultColl := congrArg Book.defaultColl b₅
    rw [← htotals]
    unfold totals getEntireSystemColl getEntireSystemDebt
    dsimp only [State.book] at *
    rw [hactiveDebt, hactiveColl, hdefaultDebt, hdefaultColl]
    unfold getCompositeDebt
    congr 1 <;> omega

/-- The amounts of the trove and of the system after an adjustment. -/
theorem adjustTrove_amounts (hgas : m.sender ≠ D.gasPool)
    (h : adjustTrove D m s account a = .ok s') :
    ∃ s₁ s₂ fee newICR coll debt stake,
      requireValidAdjustment D m s account a (checkRecoveryMode D s m.price) = .ok () ∧
      applyPendingRewards D s account = .ok s₁ ∧
      chargeBorrowingFee D m s₁ (a.isDebtIncrease && !checkRecoveryMode D s m.price) a.usddChange
        a.maxFeePercentage = .ok (s₂, fee) ∧
      totals D s₂ = totals D s ∧ s₂.troveManager = s₁.troveManager ∧
      getNewICRFromTroveChange (s₂.troveManager.troves account).coll
        (s₂.troveManager.troves account).debt (getCollChange a.collDeposited a.collWithdrawal).1
        (getCollChange a.collDeposited a.collWithdrawal).2 (a.usddChange + fee) a.isDebtIncrease
        m.price = .ok newICR ∧
      newICR = LiquityMath.computeCR coll debt m.price ∧
      requireValidAdjustmentInCurrentMode D m s₂ (checkRecoveryMode D s m.price) a.collWithdrawal
        a.isDebtIncrease
        (LiquityMath.computeCR (s₂.troveManager.troves account).coll
          (s₂.troveManager.troves account).debt m.price) newICR
        (getCollChange a.collDeposited a.collWithdrawal).1
        (getCollChange a.collDeposited a.collWithdrawal).2 (a.usddChange + fee) = .ok () ∧
      applyChange (s₁.troveManager.troves account).coll
        (getCollChange a.collDeposited a.collWithdrawal).1
        (getCollChange a.collDeposited a.collWithdrawal).2 = .ok coll ∧
      applyChange (s₁.troveManager.troves account).debt (a.usddChange + fee) a.isDebtIncrease =
        .ok debt ∧
      computeNewStake s₁.troveManager coll = .ok stake ∧
      s'.troveManager = s₁.troveManager.restaked account coll debt stake ∧
      applyChange (totals D s).1 (getCollChange a.collDeposited a.collWithdrawal).1
        (getCollChange a.collDeposited a.collWithdrawal).2 = .ok (totals D s').1 ∧
      applyChange (totals D s).2 (a.usddChange + fee) a.isDebtIncrease = .ok (totals D s').2 := by
  obtain ⟨s₁, s₂, fee, newICR, coll, debt, tm, list, s₃, hvalid, h₁, h₂, hicr, hmode, -, hcoll,
    hdebt, hstake, -, h₃, h⟩ := adjustTrove_eq_ok h
  obtain ⟨hsp, hactive⟩ := requireValidAdjustment_eq_ok hvalid
  obtain ⟨htotals, htm⟩ := chargeBorrowingFee_frame h₂
  have htotals₁ := applyPendingRewards_totals hactive h₁
  have hnet : a.isDebtIncrease = false → a.usddChange + fee = a.usddChange :=
    adjustTrove_netDebtChange h₂
  have heq := getNewICRFromTroveChange_eq_ok hicr hcoll hdebt
  obtain ⟨stake, hnew, -, htm₃⟩ := amended_eq_ok hstake
  obtain ⟨hsystemColl, hsystemDebt, htm'⟩ := moveTokens_totals hnet hgas hsp h₃ h
  have htotals₂ : totals D s₂ = totals D s := htotals.trans htotals₁
  have hsame : totals D { s₂ with
      troveManager := tm
      sortedTroves := list
      journal := .restake (s₂.troveManager.amended account coll debt) account :: s₂.journal } =
      totals D s := htotals₂
  rw [hsame] at hsystemColl hsystemDebt
  rw [htm] at hcoll hdebt hnew htm₃
  exact ⟨s₁, s₂, fee, newICR, coll, debt, stake, hvalid, h₁, h₂, htotals₂, htm, hicr, heq, hmode,
    hcoll, hdebt, hnew, htm'.trans htm₃, hsystemColl, hsystemDebt⟩

/-- The total amounts after a closure. -/
theorem closeTrove_amounts (h : closeTrove D m s account = .ok s') :
    ∃ s₁ newTCR, applyPendingRewards D s m.sender = .ok s₁ ∧
      getNewTCRFromTroveChange D s₁ (s₁.troveManager.troves m.sender).coll false
        (s₁.troveManager.troves m.sender).debt false m.price = .ok newTCR ∧ CCR ≤ newTCR ∧
      applyChange (totals D s₁).1 (s₁.troveManager.troves m.sender).coll false =
        .ok (totals D s').1 ∧
      applyChange (totals D s₁).2 (s₁.troveManager.troves m.sender).debt false =
        .ok (totals D s').2 := by
  obtain ⟨s₁, repayment, newTCR, tm, s₂, s₃, s₄, hactive, -, h₁, hrepayment, htcr, hccr, htm, h₂, h₃,
    h₄, h⟩ := closeTrove_eq_ok h
  obtain ⟨-, -, tm', list, -, -, hs₂⟩ := closeTrove_book h₂
  obtain ⟨hle, rfl⟩ := sub_eq_ok.1 hrepayment
  have hgas : usddGasCompensation ≤ (s₁.troveManager.troves m.sender).debt := hle
  obtain ⟨hdebt₃, -, -, b₃⟩ := repayUSDD_book h₃ 0 0 0
  obtain ⟨hdebt₄, -, -, b₄⟩ := repayUSDD_book h₄ 0 0 0
  obtain ⟨hcoll, b'⟩ := ActivePool.sendColl_book h 0 0 0
  rw [hs₂] at hdebt₃ b₃
  rw [b₃] at hdebt₄ b₄
  rw [b₄] at hcoll b'
  have hactiveDebt := congrArg Book.activeDebt b'
  have hactiveColl := congrArg Book.activeColl b'
  have hdefaultDebt := congrArg Book.defaultDebt b'
  have hdefaultColl := congrArg Book.defaultColl b'
  refine ⟨s₁, newTCR, h₁, htcr, hccr, ?_, ?_⟩ <;> apply sub_eq_ok.2 <;>
    unfold totals getEntireSystemColl getEntireSystemDebt <;> dsimp only [State.book] at *
  · rw [hactiveColl, hdefaultColl]
    omega
  · rw [hactiveDebt, hdefaultDebt]
    omega

end Amounts

section Predicts

theorem openTrove_predicts {owner upperHint lowerHint : Address} {maxFee coll usdd : ℕ}
    (hreg : Registry s.troveManager s.sortedTroves)
    (h : openTrove D m s owner maxFee coll usdd upperHint lowerHint = .ok s') :
    OpeningPredicted D m s owner maxFee coll usdd s' := by
  obtain ⟨s₁, fee, stake, h₁, htotals, -, htm, htotals'⟩ := openTrove_amounts hreg h
  refine ⟨s₁, fee, h₁, ?_, ?_⟩
  · rw [getNewTCRFromTroveChange_congr htotals]
    apply getNewTCRFromTroveChange_eq <;> rw [htotals'] <;> rfl
  · rw [htm, getCurrentICR_of_realised, entered_self]
    · rw [Active, entered_self]
    · rw [collSnapshots, entered_snapshot]
      rfl
    · rw [debtSnapshots, entered_snapshot]
      rfl

theorem adjustTrove_predicts (hgas : m.sender ≠ D.gasPool)
    (hreg : Registry s.troveManager s.sortedTroves) (hin : s.troveManager.InStep)
    (h : adjustTrove D m s account a = .ok s') : AdjustmentPredicted D m s account a s' := by
  obtain ⟨s₁, s₂, fee, newICR, coll, debt, stake, hvalid, h₁, h₂, htotals, -, hicr, hnew, -, -, -, -,
    htm, hcoll, hdebt⟩ := adjustTrove_amounts hgas h
  have hactive := (requireValidAdjustment_eq_ok hvalid).2
  obtain ⟨hcollSnapshot, hdebtSnapshot, -⟩ := applyPendingRewards_current hreg (hin account hactive) hactive h₁
  refine ⟨s₁, s₂, fee, newICR, h₁, h₂, ?_, hicr, ?_⟩
  · rw [getNewTCRFromTroveChange_congr htotals]
    exact getNewTCRFromTroveChange_eq hcoll hdebt m.price
  · have hactive₁ := applyPendingRewards_active hactive h₁
    rw [htm, getCurrentICR_of_realised, restaked_self, hnew]
    · rw [Active, restaked_self]
      exact hactive₁
    · exact hcollSnapshot
    · exact hdebtSnapshot

theorem closeTrove_predicts (h : closeTrove D m s account = .ok s') :
    ClosurePredicted D m s s' := by
  obtain ⟨s₁, _, h₁, -, -, hcoll, hdebt⟩ := closeTrove_amounts h
  exact ⟨s₁, h₁, getNewTCRFromTroveChange_eq hcoll hdebt m.price⟩

end Predicts

section Guards

/-- The checks of Normal Mode are made on the predictions, so they hold of what is left. -/
theorem openTrove_guarded {owner upperHint lowerHint : Address} {maxFee coll usdd : ℕ}
    (hreg : Registry s.troveManager s.sortedTroves) (hmode : checkRecoveryMode D s m.price = false)
    (h : openTrove D m s owner maxFee coll usdd upperHint lowerHint = .ok s') :
    CCR ≤ getTCR D s' m.price ∧
      ∃ icr, getCurrentICR s'.troveManager owner m.price = .ok icr ∧ MCR ≤ icr := by
  obtain ⟨s₁, fee, _, h₁, -, hratio, -, -⟩ := openTrove_amounts hreg h
  obtain ⟨_, _, h₁', htcr, hicr⟩ := openTrove_predicts hreg h
  rw [h₁] at h₁'
  cases h₁'
  rw [hmode] at hratio
  obtain ⟨_, hmcr, hratio⟩ := bind_eq_ok.1 hratio
  obtain ⟨newTCR, htcr', hccr⟩ := bind_eq_ok.1 hratio
  rw [htcr] at htcr'
  cases htcr'
  exact ⟨require_eq_ok.1 hccr, _, hicr, require_eq_ok.1 hmcr⟩

theorem adjustTrove_guarded (hgas : m.sender ≠ D.gasPool)
    (hreg : Registry s.troveManager s.sortedTroves) (hin : s.troveManager.InStep)
    (hmode : checkRecoveryMode D s m.price = false) (h : adjustTrove D m s account a = .ok s') :
    CCR ≤ getTCR D s' m.price ∧
      ∃ icr, getCurrentICR s'.troveManager account m.price = .ok icr ∧ MCR ≤ icr := by
  obtain ⟨s₁, s₂, fee, newICR, _, _, _, -, h₁, h₂, -, -, hnew, -, hchecks, -⟩ :=
    adjustTrove_amounts hgas h
  obtain ⟨_, _, _, _, h₁', h₂', htcr, hnew', hicr⟩ := adjustTrove_predicts hgas hreg hin h
  rw [h₁] at h₁'
  cases h₁'
  rw [h₂] at h₂'
  cases h₂'
  rw [hnew] at hnew'
  cases hnew'
  rw [hmode] at hchecks
  obtain ⟨_, hmcr, hchecks⟩ := bind_eq_ok.1 hchecks
  obtain ⟨newTCR, htcr', hccr⟩ := bind_eq_ok.1 hchecks
  rw [htcr] at htcr'
  cases htcr'
  exact ⟨require_eq_ok.1 hccr, _, hicr, require_eq_ok.1 hmcr⟩

theorem closeTrove_guarded (h : closeTrove D m s account = .ok s') : CCR ≤ getTCR D s' m.price := by
  obtain ⟨s₁, newTCR, -, htcr, hccr, hcoll, hdebt⟩ := closeTrove_amounts h
  rw [getNewTCRFromTroveChange_eq hcoll hdebt m.price] at htcr
  cases htcr
  exact hccr

end Guards

end Usdd.BorrowerOperations

namespace Usdd

open BorrowerOperations TroveManager

variable {D : Deployment} {m : Message} {s s' : State} {amount : ℕ} {account : Address}

section Gains

/-- The troves, their list and the pools that hold their amounts. -/
def State.positions (s : State) : TroveManager × SortedTroves.Data × Pool × Pool :=
  (s.troveManager, s.sortedTroves, s.activePool, s.defaultPool)

theorem StabilityPool.triggerDEFTIssuance_positions :
    Ensures (fun s' => s'.positions = s.positions) (triggerDEFTIssuance D m s) := by
  intro s' h
  obtain ⟨⟨s₁, issuance⟩, h₁, h⟩ := bind_eq_ok.1 h
  obtain ⟨sp, -, h⟩ := bind_eq_ok.1 h
  obtain ⟨_, -, h₁⟩ := bind_eq_ok.1 h₁
  obtain ⟨_, -, h₁⟩ := bind_eq_ok.1 h₁
  obtain ⟨_, -, h₁⟩ := bind_eq_ok.1 h₁
  obtain ⟨_, -, h₁⟩ := bind_eq_ok.1 h₁
  cases pure_eq_ok.1 h₁
  rw [← pure_eq_ok.1 h]
  rfl

theorem StabilityPool.payOutDEFTGains_positions {depositor frontEnd : Address} :
    Ensures (fun s' => s'.positions = s.positions) (payOutDEFTGains D s depositor frontEnd) := by
  simp [payOutDEFTGains, payOutFrontEndGain, CommunityIssuance.sendDEFT,
    CommunityIssuance.requireCallerIsStabilityPool, State.positions]

/-- The gain of a depositor is moved by the pool once the rewards of the deposit are paid out. -/
theorem StabilityPool.withdrawCollGainToTrove_moves {upperHint lowerHint : Address}
    (h : withdrawCollGainToTrove D m s upperHint lowerHint = .ok s') :
    ∃ s₀ gain, s₀.positions = s.positions ∧
      moveCollGainToTrove D { m with sender := D.stabilityPool } s₀ m.sender gain upperHint
        lowerHint = .ok s' := by
  obtain ⟨_, -, h⟩ := bind_eq_ok.1 h
  obtain ⟨_, -, h⟩ := bind_eq_ok.1 h
  obtain ⟨_, -, h⟩ := bind_eq_ok.1 h
  obtain ⟨s₁, h₁, h⟩ := bind_eq_ok.1 h
  obtain ⟨gain, -, h⟩ := bind_eq_ok.1 h
  obtain ⟨deposit, -, h⟩ := bind_eq_ok.1 h
  obtain ⟨_, -, h⟩ := bind_eq_ok.1 h
  obtain ⟨s₂, h₂, h⟩ := bind_eq_ok.1 h
  obtain ⟨stake, -, h⟩ := bind_eq_ok.1 h
  obtain ⟨coll, -, h⟩ := bind_eq_ok.1 h
  refine ⟨_, gain, ?_, h⟩
  exact (payOutDEFTGains_positions s₂ h₂).trans (triggerDEFTIssuance_positions s₁ h₁)

end Gains

section NormalMode

/-- In Normal Mode, an operation on a trove leaves the system at or above the critical ratio and the
trove at or above the minimum ratio, and both ratios are as predicted. -/
theorem normal_mode_guarded (hw : D.Wired) (h : Reachable D s)
    (hj : ∀ e ∈ s.journal, e.RaisesCollWithDebt) (hm : m.sender ∉ D.contracts)
    (hccr : CCR ≤ getTCR D s m.price) :
    (∀ owner maxFee coll usdd upperHint lowerHint s',
      openTrove D m s owner maxFee coll usdd upperHint lowerHint = .ok s' →
        CCR ≤ getTCR D s' m.price ∧
        (∃ icr, getCurrentICR s'.troveManager owner m.price = .ok icr ∧ MCR ≤ icr) ∧
        OpeningPredicted D m s owner maxFee coll usdd s') ∧
      (∀ account a s', adjustTrove D m s account a = .ok s' →
        CCR ≤ getTCR D s' m.price ∧
        (∃ icr, getCurrentICR s'.troveManager account m.price = .ok icr ∧ MCR ≤ icr) ∧
        AdjustmentPredicted D m s account a s') ∧
      (∀ upperHint lowerHint s',
        StabilityPool.withdrawCollGainToTrove D m s upperHint lowerHint = .ok s' →
        CCR ≤ getTCR D s' m.price ∧
        (∃ icr, getCurrentICR s'.troveManager m.sender m.price = .ok icr ∧ MCR ≤ icr) ∧
        ∃ s₀ gain, s₀.positions = s.positions ∧
          moveCollGainToTrove D { m with sender := D.stabilityPool } s₀ m.sender gain upperHint
            lowerHint = .ok s' ∧
          AdjustmentPredicted D { m with sender := D.stabilityPool } s₀ m.sender
            ⟨gain, 0, 0, false, upperHint, lowerHint, 0⟩ s') ∧
      ∀ account s', closeTrove D m s account = .ok s' →
        CCR ≤ getTCR D s' m.price ∧ ClosurePredicted D m s s' := by
  have hreached := h.reached hw
  have hreg : Registry s.troveManager s.sortedTroves := hreached.consistent.registry
  have hrealised : (s.book D 0 0 0).DebtRealised :=
    hreached.conditional (initial_debtRealised D)
      (fun _ _ hc hi hj he => hi.event hc.registry hj he) hj
  have hmode : checkRecoveryMode D s m.price = false := decide_eq_false (Nat.not_lt.2 hccr)
  have hgas : m.sender ≠ D.gasPool := fun he => hm (he ▸ D.gasPool_mem)
  refine ⟨?_, ?_, ?_, ?_⟩
  · intro owner maxFee coll usdd upperHint lowerHint s' h
    obtain ⟨htcr, hicr⟩ := openTrove_guarded hreg hmode h
    exact ⟨htcr, hicr, openTrove_predicts hreg h⟩
  · intro account a s' h
    obtain ⟨htcr, hicr⟩ := adjustTrove_guarded hgas hreg hrealised.inStep hmode h
    exact ⟨htcr, hicr, adjustTrove_predicts hgas hreg hrealised.inStep h⟩
  · intro upperHint lowerHint s' h
    obtain ⟨s₀, gain, hs₀, h⟩ := StabilityPool.withdrawCollGainToTrove_moves h
    obtain ⟨htm, hpools⟩ := Prod.mk.inj hs₀
    obtain ⟨hlist, hpools⟩ := Prod.mk.inj hpools
    obtain ⟨hactive, hdefault⟩ := Prod.mk.inj hpools
    have htotals : totals D s₀ = totals D s := by
      unfold totals getEntireSystemColl getEntireSystemDebt
      rw [hactive, hdefault]
    obtain ⟨_, _, hadjust⟩ := bind_eq_ok.1 h
    have hpool : ({ m with sender := D.stabilityPool } : Message).sender ≠ D.gasPool :=
      hw.gasPool_ne.symm
    rw [← htm, ← hlist] at hreg
    have hin : s₀.troveManager.InStep := htm ▸ hrealised.inStep
    have hmode₀ : checkRecoveryMode D s₀ m.price = false := by
      unfold checkRecoveryMode
      rw [getTCR_congr htotals]
      exact hmode
    obtain ⟨htcr, hicr⟩ := adjustTrove_guarded hpool hreg hin hmode₀ hadjust
    exact ⟨htcr, hicr, s₀, gain, hs₀, h, adjustTrove_predicts hpool hreg hin hadjust⟩
  · intro account s' h
    exact ⟨closeTrove_guarded h, closeTrove_predicts h⟩

theorem normal_mode_guarded_of_liquidation : ∃ s s', sampleRun sampleLiquidation = .ok s ∧
    withdrawColl sampleDeployment ⟨1, 200 * decimalPrecision, 2⟩ s (10 * decimalPrecision) 0 0 =
      .ok s' ∧
    CCR ≤ getTCR sampleDeployment s' (200 * decimalPrecision) := by
  obtain ⟨s, hs, hj, hccr, s', hs', -⟩ : ∃ s, sampleRun sampleLiquidation = .ok s ∧
      (∀ e ∈ s.journal, e.RaisesCollWithDebt) ∧
      CCR ≤ getTCR sampleDeployment s (200 * decimalPrecision) ∧
      ∃ s', withdrawColl sampleDeployment ⟨1, 200 * decimalPrecision, 2⟩ s
        (10 * decimalPrecision) 0 0 = .ok s' ∧ True := by decide +kernel
  have hguarded := normal_mode_guarded (m := ⟨1, 200 * decimalPrecision, 2⟩) sampleDeployment_wired
    (reachable_sampleRun hs) hj (by decide +kernel) hccr
  exact ⟨s, s', hs, hs', (hguarded.2.1 1 _ s' hs').1⟩

end NormalMode

end Usdd

import Usdd.BaseRate
import Usdd.BorrowerCalls
import Usdd.LoopRules

/-!
# The fee state in runs

Only a borrowing fee and a redemption write the fee state. Both set the time of the last operation to
the current time at the latest, so that in a run it never lies in the future, and both leave a rate of
at most 100%.
-/

open Transaction

namespace Usdd

open TroveManager

variable {D : Deployment} {m : Message} {s s₁ s' : State} {sender account recipient : Address}
  {amount price n : ℕ}

section Frames

theorem USDDToken.mint_fees :
    Ensures (fun s' => s'.fees = s.fees) (USDDToken.mint D sender s account amount) := by
  simp [USDDToken.mint]

theorem USDDToken.burn_fees :
    Ensures (fun s' => s'.fees = s.fees) (USDDToken.burn D sender s account amount) := by
  simp [USDDToken.burn]

theorem ActivePool.sendColl_fees {token : Address} :
    Ensures (fun s' => s'.fees = s.fees)
      (ActivePool.sendColl D sender s account token amount) := by
  simp [ActivePool.sendColl, Token.transfer]

theorem ActivePool.decreaseUSDDDebt_fees :
    Ensures (fun s' => s'.fees = s.fees) (ActivePool.decreaseUSDDDebt D sender s amount) := by
  simp [ActivePool.decreaseUSDDDebt]

theorem DEFTStaking.increaseFColl_fees {token : Address} :
    Ensures (fun s' => s'.fees = s.fees) (DEFTStaking.increaseFColl D sender s token amount) := by
  simp [DEFTStaking.increaseFColl]

namespace TroveManager

variable {borrower liquidator : Address}

theorem applyPendingRewards_fees :
    Ensures (fun s' => s'.fees = s.fees) (applyPendingRewards D s borrower) := by
  simp [applyPendingRewards, movePendingTroveRewardsToActivePool, DefaultPool.decreaseUSDDDebt,
    ActivePool.increaseUSDDDebt, DefaultPool.sendToActivePool, ActivePool.receiveColl,
    Token.transfer, requireTroveIsActive, DefaultPool.requireCallerIsTroveManager,
    DefaultPool.requireCallerIsTroveManagerOf, getPendingCollReward, getPendingUSDDDebtReward]

theorem closeTrove_fees {status : Status} :
    Ensures (fun s' => s'.fees = s.fees) (TroveManager.closeTrove s borrower status) := by
  simp [TroveManager.closeTrove, requireMoreThanOneTroveInSystem]

theorem liquidateNormalMode_fees {usddInStabPool : ℕ} :
    Ensures (fun r => r.1.fees = s.fees) (liquidateNormalMode D s borrower usddInStabPool) := by
  simp [liquidateNormalMode, settleTrove, closeTrove, movePendingTroveRewardsToActivePool,
    DefaultPool.decreaseUSDDDebt, ActivePool.increaseUSDDDebt, DefaultPool.sendToActivePool,
    ActivePool.receiveColl, Token.transfer, DefaultPool.requireCallerIsTroveManager,
    DefaultPool.requireCallerIsTroveManagerOf, requireMoreThanOneTroveInSystem,
    getOffsetAndRedistributionVals]

theorem liquidateRecoveryMode_fees {icr usddInStabPool tcr : ℕ} :
    Ensures (fun r => r.1.fees = s.fees)
      (liquidateRecoveryMode D s borrower icr usddInStabPool tcr price) := by
  simp [liquidateRecoveryMode, settleTrove, closeTrove, movePendingTroveRewardsToActivePool,
    DefaultPool.decreaseUSDDDebt, ActivePool.increaseUSDDDebt, DefaultPool.sendToActivePool,
    ActivePool.receiveColl, Token.transfer, DefaultPool.requireCallerIsTroveManager,
    DefaultPool.requireCallerIsTroveManagerOf, requireMoreThanOneTroveInSystem,
    accountCollSurplus, CollSurplusPool.accountSurplus, getOffsetAndRedistributionVals]

theorem Sequence.liquidateInRecoveryMode_fees {q q' : Sequence} {icr : ℕ} {subtractSurplus : Bool}
    (h : q.liquidateInRecoveryMode D price borrower icr subtractSurplus = .ok q') :
    q'.state.fees = q.state.fees := by
  obtain ⟨r, hr, h⟩ := bind_eq_ok.1 h
  obtain ⟨_, -, h⟩ := bind_eq_ok.1 h
  obtain ⟨_, -, h⟩ := bind_eq_ok.1 h
  obtain ⟨_, -, h⟩ := bind_eq_ok.1 h
  obtain ⟨_, -, h⟩ := bind_eq_ok.1 h
  rw [← pure_eq_ok.1 h]
  exact liquidateRecoveryMode_fees r hr

theorem Sequence.liquidateInNormalMode_fees {q q' : Sequence}
    (h : q.liquidateInNormalMode D borrower = .ok q') : q'.state.fees = q.state.fees := by
  obtain ⟨r, hr, h⟩ := bind_eq_ok.1 h
  obtain ⟨_, -, h⟩ := bind_eq_ok.1 h
  rw [← pure_eq_ok.1 h]
  exact liquidateNormalMode_fees r hr

theorem settleTotals_fees {totals : LiquidationTotals} :
    Ensures (fun s' => s'.fees = s.fees) (settleTotals D m s liquidator totals) := by
  intro s' h
  obtain ⟨_, -, h⟩ := bind_eq_ok.1 h
  obtain ⟨s₁, h₁, h⟩ := bind_eq_ok.1 h
  obtain ⟨s₂, h₂, h⟩ := bind_eq_ok.1 h
  obtain ⟨s₃, h₃, h⟩ := bind_eq_ok.1 h
  obtain ⟨s₄, h₄, h⟩ := bind_eq_ok.1 h
  obtain ⟨_, -, h⟩ := bind_eq_ok.1 h
  obtain ⟨_, -, h⟩ := bind_eq_ok.1 h
  have hoffset : Ensures (fun s' => s'.fees = s.fees) (StabilityPool.offset D m D.troveManager s
      totals.totalDebtToOffset totals.totalCollToSendToSP) := by
    simp [StabilityPool.offset, StabilityPool.triggerDEFTIssuance, CommunityIssuance.issueDEFT,
      StabilityPool.moveOffsetCollAndDebt, ActivePool.decreaseUSDDDebt, StabilityPool.decreaseUSDD,
      USDDToken.burn, ActivePool.sendColl, Token.transfer]
  have hredistribute : Ensures (fun s' => s'.fees = s₁.fees) (redistributeDebtAndColl D s₁
      totals.totalDebtToRedistribute totals.totalCollToRedistribute) := by
    simp [redistributeDebtAndColl, ActivePool.decreaseUSDDDebt, DefaultPool.increaseUSDDDebt,
      ActivePool.sendColl, DefaultPool.receiveColl, Token.transfer,
      DefaultPool.requireCallerIsTroveManager, DefaultPool.requireCallerIsTroveManagerOf]
  have hsurplus : Ensures (fun s' => s'.fees = s₂.fees)
      (sendCollSurplus D s₂ totals.totalCollSurplus) := by
    simp [sendCollSurplus, ActivePool.sendColl, CollSurplusPool.receiveColl, Token.transfer]
  have hsnapshots : Ensures (fun s' => s'.fees = s₃.fees)
      (updateSystemSnapshotsExcludeCollRemainder D s₃ totals.totalCollGasCompensation) := by
    simp [updateSystemSnapshotsExcludeCollRemainder]
  have hgas : Ensures (fun s' => s'.fees = s₄.fees) (sendGasCompensation D s₄ liquidator
      totals.totalUSDDGasCompensation totals.totalCollGasCompensation) := by
    simp [sendGasCompensation, sendUSDDGasCompensation, USDDToken.returnFromPool,
      sendCollGasCompensation, ActivePool.sendColl, Token.transfer]
  rw [hgas s' h, hsnapshots s₄ h₄, hsurplus s₃ h₃, hredistribute s₂ h₂, hoffset s₁ h₁]

end TroveManager

end Frames

section Borrowing

namespace BorrowerOperations

theorem activePoolAddColl_fees :
    Ensures (fun s' => s'.fees = s.fees) (activePoolAddColl D m s amount) := by
  simp [activePoolAddColl, ActivePool.receiveColl, Token.transfer]

theorem withdrawUSDD_fees {netDebt : ℕ} :
    Ensures (fun s' => s'.fees = s.fees) (withdrawUSDD D s account amount netDebt) := by
  simp [withdrawUSDD, ActivePool.increaseUSDDDebt, USDDToken.mint]

theorem repayUSDD_fees : Ensures (fun s' => s'.fees = s.fees) (repayUSDD D s account amount) := by
  simp [repayUSDD, ActivePool.decreaseUSDDDebt, USDDToken.burn]

theorem moveUSDDFromAdjustment_fees {isDebtIncrease : Bool} {netDebtChange : ℕ} :
    Ensures (fun s' => s'.fees = s.fees)
      (moveUSDDFromAdjustment D s account amount isDebtIncrease netDebtChange) := by
  simp [moveUSDDFromAdjustment, withdrawUSDD, repayUSDD, ActivePool.increaseUSDDDebt,
    ActivePool.decreaseUSDDDebt, USDDToken.mint, USDDToken.burn]

theorem moveCollFromAdjustment_fees {isCollIncrease : Bool} :
    Ensures (fun s' => s'.fees = s.fees)
      (moveCollFromAdjustment D m s account amount isCollIncrease) := by
  simp [moveCollFromAdjustment, activePoolAddColl, ActivePool.receiveColl, ActivePool.sendColl,
    Token.transfer]

/-- A fee that is charged decays the rate first. -/
theorem chargeBorrowingFee_fees {charged : Bool} {maxFee fee : ℕ}
    (h : chargeBorrowingFee D m s charged amount maxFee = .ok (s', fee)) :
    s'.fees = s.fees ∨ decayBaseRateFromBorrowing m s.fees = .ok s'.fees := by
  unfold chargeBorrowingFee at h
  split_ifs at h
  · obtain ⟨fees, hfees, h⟩ := bind_eq_ok.1 h
    obtain ⟨_, -, h⟩ := bind_eq_ok.1 h
    obtain ⟨s₁, h₁, h⟩ := bind_eq_ok.1 h
    obtain ⟨s₂, h₂, h⟩ := bind_eq_ok.1 h
    cases pure_eq_ok.1 h
    have hstaking : Ensures (fun s₁ => s₁.fees = fees)
        (DEFTStaking.increaseFUSDD D D.borrowerOperations { s with fees := fees }
          (getBorrowingFee fees amount)) := by
      simp [DEFTStaking.increaseFUSDD]
    right
    rw [USDDToken.mint_fees _ h₂, hstaking s₁ h₁]
    exact hfees
  · cases pure_eq_ok.1 h
    exact Or.inl rfl

theorem openTrove_fees {owner upperHint lowerHint : Address} {maxFee coll usdd : ℕ}
    (h : openTrove D m s owner maxFee coll usdd upperHint lowerHint = .ok s') :
    s'.fees = s.fees ∨ decayBaseRateFromBorrowing m s.fees = .ok s'.fees := by
  obtain ⟨s₁, fee, tm, list, s₃, s₄, -, h₁, -, -, -, -, h₃, h₄, h⟩ := openTrove_eq_ok h
  have hsame : s'.fees = s₁.fees := by
    rw [withdrawUSDD_fees s' h, withdrawUSDD_fees s₄ h₄, activePoolAddColl_fees s₃ h₃]
  rw [hsame]
  exact chargeBorrowingFee_fees h₁

theorem adjustTrove_fees {a : Adjustment} (h : adjustTrove D m s account a = .ok s') :
    s'.fees = s.fees ∨ decayBaseRateFromBorrowing m s.fees = .ok s'.fees := by
  obtain ⟨s₁, s₂, fee, _, coll, debt, tm, list, s₃, -, h₁, h₂, -, -, -, -, -, -, -, h₃, h⟩ :=
    adjustTrove_eq_ok h
  have hsame : s'.fees = s₂.fees := by
    rw [moveCollFromAdjustment_fees s' h, moveUSDDFromAdjustment_fees s₃ h₃]
  rw [hsame, ← applyPendingRewards_fees s₁ h₁]
  exact chargeBorrowingFee_fees h₂

theorem closeTrove_fees (h : closeTrove D m s account = .ok s') : s'.fees = s.fees := by
  obtain ⟨s₁, repayment, _, tm, s₂, s₃, s₄, -, -, h₁, -, -, -, -, h₂, h₃, h₄, h⟩ := closeTrove_eq_ok h
  rw [ActivePool.sendColl_fees s' h, repayUSDD_fees s₄ h₄, repayUSDD_fees s₃ h₃,
    TroveManager.closeTrove_fees s₂ h₂]
  exact applyPendingRewards_fees s₁ h₁

theorem claimCollateral_fees :
    Ensures (fun s' => s'.fees = s.fees) (claimCollateral D m s account) := by
  simp [claimCollateral, requireCallerIsBorrowerOrGw, CollSurplusPool.claimColl, Token.transfer]

end BorrowerOperations

end Borrowing

section Redemption

namespace TroveManager

variable {borrower depositor liquidator : Address} {r : Redemption}

theorem redeemCollateralFromTrove_fees {v : SingleRedemptionValues} {usdd : ℕ}
    (h : redeemCollateralFromTrove D s borrower usdd price r = .ok (s', v)) : s'.fees = s.fees := by
  have hkeeps : Ensures (fun result => result.1.fees = s.fees)
      (redeemCollateralFromTrove D s borrower usdd price r) := by
    simp [redeemCollateralFromTrove, redeemFromTrove, closeTrove, requireMoreThanOneTroveInSystem,
      redeemCloseTrove, USDDToken.burn, ActivePool.decreaseUSDDDebt,
      CollSurplusPool.accountSurplus, ActivePool.sendColl, Token.transfer,
      CollSurplusPool.receiveColl, restake, getNetDebt]
  exact hkeeps _ h

/-- The loop leaves the fee state alone. -/
theorem redeemLoop_fees {iterations : ℕ} {currentBorrower : Address}
    {totals totals' : RedemptionTotals}
    (h : redeemLoop D price r iterations currentBorrower totals = .ok totals') :
    totals'.state.fees = totals.state.fees := by
  refine redeemLoop_rule (I := fun t => t.state.fees = totals.state.fees) ?_ ?_ rfl h
  · intro t s₁ borrower s₂ v remaining ht h₁ h₂ _ _
    exact (redeemCollateralFromTrove_fees h₂).trans ((applyPendingRewards_fees s₁ h₁).trans ht)
  · intro t s₁ borrower s₂ v ht h₁ h₂ _
    exact (redeemCollateralFromTrove_fees h₂).trans ((applyPendingRewards_fees s₁ h₁).trans ht)

theorem settleRedemption_fees {usdd coll supply : ℕ}
    (h : settleRedemption D m s depositor r usdd coll supply = .ok s') :
    updateBaseRateFromRedemption m s.fees coll m.price supply = .ok s'.fees := by
  obtain ⟨_, -, h⟩ := bind_eq_ok.1 h
  obtain ⟨fees, hfees, h⟩ := bind_eq_ok.1 h
  obtain ⟨fee, -, h⟩ := bind_eq_ok.1 h
  obtain ⟨_, -, h⟩ := bind_eq_ok.1 h
  obtain ⟨s₁, h₁, h⟩ := bind_eq_ok.1 h
  obtain ⟨s₂, h₂, h⟩ := bind_eq_ok.1 h
  obtain ⟨_, -, h⟩ := bind_eq_ok.1 h
  obtain ⟨s₃, h₃, h⟩ := bind_eq_ok.1 h
  obtain ⟨s₄, h₄, h⟩ := bind_eq_ok.1 h
  rw [ActivePool.sendColl_fees s' h, ActivePool.decreaseUSDDDebt_fees s₄ h₄,
    USDDToken.burn_fees s₃ h₃, DEFTStaking.increaseFColl_fees s₂ h₂, ActivePool.sendColl_fees s₁ h₁]
  exact hfees

theorem redeemCollateral_fees (h : redeemCollateral D m s depositor r = .ok s') :
    ∃ coll supply, updateBaseRateFromRedemption m s.fees coll m.price supply = .ok s'.fees := by
  obtain ⟨_, -, h⟩ := bind_eq_ok.1 h
  obtain ⟨borrower, -, h⟩ := bind_eq_ok.1 h
  obtain ⟨totals, htotals, h⟩ := bind_eq_ok.1 h
  have hfees := settleRedemption_fees h
  rw [redeemLoop_fees htotals] at hfees
  exact ⟨totals.totalETHDrawn, getEntireSystemDebt s, hfees⟩

theorem liquidateTroves_fees (h : liquidateTroves D m s liquidator n = .ok s') :
    s'.fees = s.fees := by
  obtain ⟨_, -, h⟩ := bind_eq_ok.1 h
  obtain ⟨q, hq, h⟩ := bind_eq_ok.1 h
  rw [settleTotals_fees s' h]
  exact totalsFromLiquidateTrovesSequence_rule (I := fun q => q.state.fees = s.fees)
    (fun _ _ _ _ _ hq h => (Sequence.liquidateInRecoveryMode_fees h).trans hq)
    (fun _ _ _ hq h => (Sequence.liquidateInNormalMode_fees h).trans hq) rfl hq

theorem batchLiquidateTroves_fees {troveArray : List Address}
    (h : batchLiquidateTroves D m s liquidator troveArray = .ok s') : s'.fees = s.fees := by
  obtain ⟨_, -, h⟩ := bind_eq_ok.1 h
  obtain ⟨_, -, h⟩ := bind_eq_ok.1 h
  obtain ⟨q, hq, h⟩ := bind_eq_ok.1 h
  rw [settleTotals_fees s' h]
  exact totalsFromBatchLiquidate_rule (I := fun q => q.state.fees = s.fees)
    (fun _ _ _ _ _ hq h => (Sequence.liquidateInRecoveryMode_fees h).trans hq)
    (fun _ _ _ hq h => (Sequence.liquidateInNormalMode_fees h).trans hq) rfl hq

end TroveManager

end Redemption

section Deposits

namespace StabilityPool

variable {depositor frontEnd frontEndTag upperHint lowerHint : Address}

theorem triggerDEFTIssuance_fees :
    Ensures (fun s' => s'.fees = s.fees) (triggerDEFTIssuance D m s) := by
  simp [triggerDEFTIssuance, CommunityIssuance.issueDEFT]

theorem payOutDEFTGains_fees :
    Ensures (fun s' => s'.fees = s.fees) (payOutDEFTGains D s depositor frontEnd) := by
  simp [payOutDEFTGains, payOutFrontEndGain, CommunityIssuance.sendDEFT]

theorem sendCollGainToDepositor_fees :
    Ensures (fun s' => s'.fees = s.fees) (sendCollGainToDepositor D m s amount) := by
  simp [sendCollGainToDepositor, Token.transfer]

theorem sendUSDDtoStabilityPool_fees :
    Ensures (fun s' => s'.fees = s.fees) (sendUSDDtoStabilityPool D s depositor amount) := by
  simp [sendUSDDtoStabilityPool, USDDToken.sendToPool]

theorem sendUSDDToDepositor_fees :
    Ensures (fun s' => s'.fees = s.fees) (sendUSDDToDepositor D s depositor amount) := by
  simp [sendUSDDToDepositor, USDDToken.returnFromPool, decreaseUSDD]

theorem provideToSP_fees (h : provideToSP D m s depositor amount frontEndTag = .ok s') :
    s'.fees = s.fees := by
  obtain ⟨_, -, h⟩ := bind_eq_ok.1 h
  obtain ⟨_, -, h⟩ := bind_eq_ok.1 h
  obtain ⟨_, -, h⟩ := bind_eq_ok.1 h
  obtain ⟨_, -, h⟩ := bind_eq_ok.1 h
  obtain ⟨s₁, h₁, h⟩ := bind_eq_ok.1 h
  obtain ⟨gain, -, h⟩ := bind_eq_ok.1 h
  obtain ⟨deposit, -, h⟩ := bind_eq_ok.1 h
  obtain ⟨_, -, h⟩ := bind_eq_ok.1 h
  obtain ⟨s₂, h₂, h⟩ := bind_eq_ok.1 h
  obtain ⟨stake, -, h⟩ := bind_eq_ok.1 h
  obtain ⟨s₃, h₃, h⟩ := bind_eq_ok.1 h
  have hpaid := payOutDEFTGains_fees s₂ h₂
  have hsent := sendUSDDtoStabilityPool_fees s₃ h₃
  rw [sendCollGainToDepositor_fees s' h]
  exact hsent.trans (hpaid.trans (triggerDEFTIssuance_fees s₁ h₁))

theorem withdrawFromSP_fees (h : withdrawFromSP D m s depositor amount = .ok s') :
    s'.fees = s.fees := by
  obtain ⟨_, -, h⟩ := bind_eq_ok.1 h
  obtain ⟨_, -, h⟩ := bind_eq_ok.1 h
  obtain ⟨_, -, h⟩ := bind_eq_ok.1 h
  obtain ⟨s₁, h₁, h⟩ := bind_eq_ok.1 h
  obtain ⟨gain, -, h⟩ := bind_eq_ok.1 h
  obtain ⟨deposit, -, h⟩ := bind_eq_ok.1 h
  obtain ⟨_, -, h⟩ := bind_eq_ok.1 h
  obtain ⟨s₂, h₂, h⟩ := bind_eq_ok.1 h
  obtain ⟨stake, -, h⟩ := bind_eq_ok.1 h
  obtain ⟨newStake, -, h⟩ := bind_eq_ok.1 h
  obtain ⟨s₃, h₃, h⟩ := bind_eq_ok.1 h
  obtain ⟨newDeposit, -, h⟩ := bind_eq_ok.1 h
  have hpaid := payOutDEFTGains_fees s₂ h₂
  have hsent := sendUSDDToDepositor_fees s₃ h₃
  rw [sendCollGainToDepositor_fees s' h]
  exact hsent.trans (hpaid.trans (triggerDEFTIssuance_fees s₁ h₁))

/-- A gain that is moved to a trove goes through an adjustment. -/
theorem withdrawCollGainToTrove_fees
    (h : withdrawCollGainToTrove D m s upperHint lowerHint = .ok s') :
    s'.fees = s.fees ∨ decayBaseRateFromBorrowing m s.fees = .ok s'.fees := by
  obtain ⟨_, -, h⟩ := bind_eq_ok.1 h
  obtain ⟨_, -, h⟩ := bind_eq_ok.1 h
  obtain ⟨_, -, h⟩ := bind_eq_ok.1 h
  obtain ⟨s₁, h₁, h⟩ := bind_eq_ok.1 h
  obtain ⟨gain, -, h⟩ := bind_eq_ok.1 h
  obtain ⟨deposit, -, h⟩ := bind_eq_ok.1 h
  obtain ⟨_, -, h⟩ := bind_eq_ok.1 h
  obtain ⟨s₂, h₂, h⟩ := bind_eq_ok.1 h
  obtain ⟨stake, -, h⟩ := bind_eq_ok.1 h
  obtain ⟨coll, -, h⟩ := bind_eq_ok.1 h
  obtain ⟨_, -, h⟩ := bind_eq_ok.1 h
  have hfees := BorrowerOperations.adjustTrove_fees h
  dsimp only at hfees
  rw [payOutDEFTGains_fees s₂ h₂, triggerDEFTIssuance_fees s₁ h₁] at hfees
  exact hfees

end StabilityPool

end Deposits

section Runs

/-- A fee operation lies in the past and left a rate of at most 100%. -/
structure Fees.Timely (fees : Fees) (now : ℕ) : Prop where
  last : fees.lastFeeOperationTime ≤ now
  rate : fees.baseRate ≤ decimalPrecision

/-- A call leaves the fee state alone, decays the rate, or redeems. -/
theorem perform_fees {call : Call} (h : perform D m s call = .ok s') :
    s'.fees = s.fees ∨ decayBaseRateFromBorrowing m s.fees = .ok s'.fees ∨
      ∃ coll supply, updateBaseRateFromRedemption m s.fees coll m.price supply = .ok s'.fees := by
  cases call with
  | openTrove => exact (BorrowerOperations.openTrove_fees h).imp_right Or.inl
  | addColl | withdrawColl | withdrawUSDD | repayUSDD | adjustTrove =>
      exact (BorrowerOperations.adjustTrove_fees h).imp_right Or.inl
  | closeTrove => exact Or.inl (BorrowerOperations.closeTrove_fees h)
  | claimCollateral => exact Or.inl (BorrowerOperations.claimCollateral_fees s' h)
  | liquidate =>
      obtain ⟨_, -, h⟩ := bind_eq_ok.1 h
      exact Or.inl (batchLiquidateTroves_fees h)
  | liquidateTroves => exact Or.inl (liquidateTroves_fees h)
  | batchLiquidateTroves => exact Or.inl (batchLiquidateTroves_fees h)
  | redeemCollateral => exact Or.inr (Or.inr (redeemCollateral_fees h))
  | provideToSP => exact Or.inl (StabilityPool.provideToSP_fees h)
  | withdrawFromSP => exact Or.inl (StabilityPool.withdrawFromSP_fees h)
  | withdrawCollGainToTrove =>
      exact (StabilityPool.withdrawCollGainToTrove_fees h).imp_right Or.inl
  | registerFrontEnd kickbackRate =>
      have hkeeps : Ensures (fun s' => s'.fees = s.fees)
          (StabilityPool.registerFrontEnd m s kickbackRate) := by
        simp [StabilityPool.registerFrontEnd]
      exact Or.inl (hkeeps s' h)
  | transfer recipient amount =>
      have hkeeps : Ensures (fun s' => s'.fees = s.fees)
          (USDDToken.transfer D m s recipient amount) := by simp [USDDToken.transfer]
      exact Or.inl (hkeeps s' h)
  | transferFrom sender recipient amount =>
      have hkeeps : Ensures (fun s' => s'.fees = s.fees)
          (USDDToken.transferFrom D m s sender recipient amount) := by
        simp [USDDToken.transferFrom]
      exact Or.inl (hkeeps s' h)
  | approve spender amount =>
      have hkeeps : Ensures (fun s' => s'.fees = s.fees) (USDDToken.approve m s spender amount) := by
        simp [USDDToken.approve]
      exact Or.inl (hkeeps s' h)
  | increaseAllowance spender addedValue =>
      have hkeeps : Ensures (fun s' => s'.fees = s.fees)
          (USDDToken.increaseAllowance m s spender addedValue) := by
        simp [USDDToken.increaseAllowance]
      exact Or.inl (hkeeps s' h)
  | decreaseAllowance spender subtractedValue =>
      have hkeeps : Ensures (fun s' => s'.fees = s.fees)
          (USDDToken.decreaseAllowance m s spender subtractedValue) := by
        simp [USDDToken.decreaseAllowance]
      exact Or.inl (hkeeps s' h)
  | permit signer owner spender amount deadline =>
      have hkeeps : Ensures (fun s' => s'.fees = s.fees)
          (USDDToken.permit m s signer owner spender amount deadline) := by
        simp [USDDToken.permit]
      exact Or.inl (hkeeps s' h)
  | transferCollateral token recipient amount =>
      have hkeeps : Ensures (fun s' => s'.fees = s.fees)
          (Token.transfer s token m.sender recipient amount) := by simp [Token.transfer]
      exact Or.inl (hkeeps s' h)

theorem Fees.Timely.decays {fees fees' : Fees} {now : ℕ} (h : fees.Timely now)
    (hnow : now ≤ m.timestamp) (hd : decayBaseRateFromBorrowing m fees = .ok fees') :
    fees'.Timely m.timestamp := by
  obtain ⟨rate, hrate, hd⟩ := bind_eq_ok.1 hd
  obtain ⟨_, hcap, hd⟩ := bind_eq_ok.1 hd
  obtain ⟨-, rfl⟩ := updateLastFeeOpTime_eq_ok_iff.1 hd
  exact ⟨countedFrom_le (h.last.trans hnow) le_rfl, assert_eq_ok.1 hcap⟩

theorem Fees.Timely.redeems {fees fees' : Fees} {now coll supply : ℕ} (h : fees.Timely now)
    (hnow : now ≤ m.timestamp)
    (hr : updateBaseRateFromRedemption m fees coll price supply = .ok fees') :
    fees'.Timely m.timestamp := by
  obtain ⟨_, -, hr⟩ := bind_eq_ok.1 hr
  obtain ⟨_, -, hr⟩ := bind_eq_ok.1 hr
  obtain ⟨_, -, hr⟩ := bind_eq_ok.1 hr
  obtain ⟨-, rfl⟩ := updateLastFeeOpTime_eq_ok_iff.1 hr
  exact ⟨countedFrom_le (h.last.trans hnow) le_rfl, min_le_right _ _⟩

theorem Reachable.fees_timely (h : Reachable D s) : s.fees.Timely s.timestamp := by
  refine Transaction.Reachable.invariant (I := fun s => s.fees.Timely s.timestamp) ?_ ?_ h
  · rintro s ⟨g, rfl⟩
    exact ⟨Nat.zero_le _, Nat.zero_le _⟩
  · intro s t s' hs hallowed hstep
    obtain ⟨s₁, h₁, hstep⟩ := bind_eq_ok.1 hstep
    cases pure_eq_ok.1 hstep
    rcases perform_fees h₁ with hfees | hfees | ⟨coll, supply, hfees⟩
    · show s₁.fees.Timely t.message.timestamp
      rw [hfees]
      exact ⟨hs.last.trans hallowed.timestamp, hs.rate⟩
    · exact hs.decays hallowed.timestamp hfees
    · exact hs.redeems hallowed.timestamp hfees

end Runs

section Redeeming

namespace TroveManager

variable {fees : Fees} {collDrawn supply : ℕ}

theorem half_fraction_pos_iff (hsupply : 0 < supply) :
    0 < collDrawn * price / supply / beta ↔ beta * supply ≤ collDrawn * price := by
  rw [Nat.div_div_eq_div_mul, Nat.div_pos_iff, Nat.mul_comm supply]
  exact ⟨fun h => h.2, fun h => ⟨Nat.mul_pos (by decide) hsupply, h⟩⟩

/-- The update succeeds unless the decayed rate is zero and the redeemed fraction rounds to zero. -/
theorem updateBaseRateFromRedemption_iff (hlast : fees.lastFeeOperationTime ≤ m.timestamp)
    (hsupply : 0 < supply) :
    (∃ fees', updateBaseRateFromRedemption m fees collDrawn price supply = .ok fees' ∧
      0 < fees'.baseRate ∧ fees'.baseRate ≤ decimalPrecision) ↔
    0 < fees.baseRate * LiquityMath.decPow minuteDecayFactor
      ((m.timestamp - fees.lastFeeOperationTime) / secondsInOneMinute) / decimalPrecision ∨
      beta * supply ≤ collDrawn * price := by
  rw [← half_fraction_pos_iff hsupply, ← Nat.add_pos_iff_pos_or_pos]
  obtain ⟨rate, hdecayed⟩ : ∃ rate, fees.baseRate * LiquityMath.decPow minuteDecayFactor
      ((m.timestamp - fees.lastFeeOperationTime) / secondsInOneMinute) / decimalPrecision = rate :=
    ⟨_, rfl⟩
  have hrate : calcDecayedBaseRate m fees = .ok rate :=
    calcDecayedBaseRate_eq_ok_iff.2 ⟨hlast, hdecayed.symm⟩
  rw [hdecayed]
  constructor
  · rintro ⟨fees', h, hpos, -⟩
    obtain ⟨rate', hrate', h⟩ := bind_eq_ok.1 h
    rw [hrate] at hrate'
    cases hrate'
    obtain ⟨fraction, hfraction, h⟩ := bind_eq_ok.1 h
    obtain ⟨-, rfl⟩ := div_eq_ok.1 hfraction
    obtain ⟨_, -, h⟩ := bind_eq_ok.1 h
    obtain ⟨-, rfl⟩ := updateLastFeeOpTime_eq_ok_iff.1 h
    exact hpos.trans_le (min_le_left _ _)
  · intro hpos
    have hnew : 0 < min (rate + collDrawn * price / supply / beta) decimalPrecision :=
      lt_min hpos (by decide)
    refine ⟨{ fees with
      baseRate := min (rate + collDrawn * price / supply / beta) decimalPrecision
      lastFeeOperationTime := countedFrom fees.lastFeeOperationTime m.timestamp },
      ?_, hnew, min_le_right _ _⟩
    refine bind_eq_ok.2 ⟨_, hrate, bind_eq_ok.2 ⟨_, div_eq_ok.2 ⟨hsupply.ne', rfl⟩, ?_⟩⟩
    exact bind_eq_ok.2 ⟨(), assert_eq_ok.2 hnew, updateLastFeeOpTime_eq_ok_iff.2 ⟨hlast, rfl⟩⟩

end TroveManager

/-- A redemption that has drawn collateral updates the base rate unless the decayed rate is zero and
what it has drawn is worth less than two units of the debt at 18 digits. -/
theorem redemption_updates_iff {depositor borrower : Address} {r : Redemption} {iterations : ℕ}
    {totals : RedemptionTotals} (h : Reachable D s) (htime : s.timestamp ≤ m.timestamp)
    (hvalid : requireValidRedemption D m s depositor r = .ok ())
    (hloop : redeemLoop D m.price r iterations borrower ⟨s, r.usddAmount, 0, 0⟩ = .ok totals) :
    (∃ fees, updateBaseRateFromRedemption m totals.state.fees totals.totalETHDrawn m.price
        (getEntireSystemDebt s) = .ok fees ∧
      0 < fees.baseRate ∧ fees.baseRate ≤ decimalPrecision) ↔
    0 < s.fees.baseRate * LiquityMath.decPow minuteDecayFactor
      ((m.timestamp - s.fees.lastFeeOperationTime) / secondsInOneMinute) / decimalPrecision ∨
      beta * getEntireSystemDebt s ≤ totals.totalETHDrawn * m.price := by
  obtain ⟨_, -, hvalid⟩ := bind_eq_ok.1 hvalid
  obtain ⟨_, -, hvalid⟩ := bind_eq_ok.1 hvalid
  obtain ⟨_, -, hvalid⟩ := bind_eq_ok.1 hvalid
  obtain ⟨_, -, hvalid⟩ := bind_eq_ok.1 hvalid
  obtain ⟨_, hamount, hvalid⟩ := bind_eq_ok.1 hvalid
  obtain ⟨_, hbalance, hdebt⟩ := bind_eq_ok.1 hvalid
  have hpos : r.usddAmount > 0 := require_eq_ok.1 hamount
  have hcovers : s.usddToken.balances depositor ≥ r.usddAmount := require_eq_ok.1 hbalance
  have hsupply : 0 < getEntireSystemDebt s := (hpos.trans_le hcovers).trans_le (assert_eq_ok.1 hdebt)
  rw [redeemLoop_fees hloop]
  exact updateBaseRateFromRedemption_iff (h.fees_timely.last.trans htime) hsupply

/-- Two troves, of which the second is redeemed from first. -/
def sampleRedeemable : List Transact :=
  [sampleOpen 1 (100 * decimalPrecision) (3000 * decimalPrecision) (200 * decimalPrecision),
    sampleOpen 2 (50 * decimalPrecision) (2000 * decimalPrecision) (200 * decimalPrecision)]

def sampleMessage : Message := ⟨1, 200 * decimalPrecision, bootstrapPeriod⟩

/-- Redeems `usddAmount` from the second trove of `sampleRedeemable`, which leaves `coll` in it. -/
def sampleRedemption (usddAmount coll : ℕ) : Redemption :=
  ⟨usddAmount, 0, 0, 0,
    LiquityMath.computeNominalCR coll (2210 * decimalPrecision - usddAmount), 0, decimalPrecision⟩

theorem redemption_updates_of_sample : ∃ s totals, sampleRun sampleRedeemable = .ok s ∧
    redeemLoop sampleDeployment (200 * decimalPrecision)
      (sampleRedemption (100 * decimalPrecision) (495 * decimalPrecision / 10)) 5 2
      ⟨s, 100 * decimalPrecision, 0, 0⟩ = .ok totals ∧
    0 < totals.totalETHDrawn ∧
    ∃ fees, updateBaseRateFromRedemption sampleMessage totals.state.fees totals.totalETHDrawn
      (200 * decimalPrecision) (getEntireSystemDebt s) = .ok fees ∧ 0 < fees.baseRate := by
  obtain ⟨s, hs, htime, hvalid, totals, hloop, hdrawn, hle⟩ : ∃ s,
      sampleRun sampleRedeemable = .ok s ∧ s.timestamp ≤ sampleMessage.timestamp ∧
      requireValidRedemption sampleDeployment sampleMessage s 1
        (sampleRedemption (100 * decimalPrecision) (495 * decimalPrecision / 10)) = .ok () ∧
      ∃ totals, redeemLoop sampleDeployment (200 * decimalPrecision)
        (sampleRedemption (100 * decimalPrecision) (495 * decimalPrecision / 10)) 5 2
        ⟨s, 100 * decimalPrecision, 0, 0⟩ = .ok totals ∧ 0 < totals.totalETHDrawn ∧
      beta * getEntireSystemDebt s ≤ totals.totalETHDrawn * (200 * decimalPrecision) := by
    decide +kernel
  obtain ⟨fees, hfees, hpos, -⟩ :=
    (redemption_updates_iff (reachable_sampleRun hs) htime hvalid hloop).2 (Or.inr hle)
  exact ⟨s, totals, hs, hloop, hdrawn, fees, hfees, hpos⟩

/-- One unit of collateral is drawn, and the fraction that it is of the debt rounds to zero. -/
theorem redemption_asserts : ∃ s totals, Reachable sampleDeployment s ∧
    requireValidRedemption sampleDeployment sampleMessage s 1
      (sampleRedemption 200 (50 * decimalPrecision - 1)) = .ok () ∧
    firstBorrower (200 * decimalPrecision) s 0 = .ok 2 ∧
    redeemLoop sampleDeployment (200 * decimalPrecision)
      (sampleRedemption 200 (50 * decimalPrecision - 1)) (2 ^ 256 - 1) 2 ⟨s, 200, 0, 0⟩ =
      .ok totals ∧
    0 < totals.totalETHDrawn ∧
    redeemCollateral sampleDeployment sampleMessage s 1
      (sampleRedemption 200 (50 * decimalPrecision - 1)) = .error (.assertion "newBaseRate > 0") := by
  obtain ⟨s, hs, hvalid, hfirst, hfails, totals, hloop, hdrawn⟩ : ∃ s,
      sampleRun sampleRedeemable = .ok s ∧
      requireValidRedemption sampleDeployment sampleMessage s 1
        (sampleRedemption 200 (50 * decimalPrecision - 1)) = .ok () ∧
      firstBorrower (200 * decimalPrecision) s 0 = .ok 2 ∧
      redeemCollateral sampleDeployment sampleMessage s 1
        (sampleRedemption 200 (50 * decimalPrecision - 1)) =
        .error (.assertion "newBaseRate > 0") ∧
      ∃ totals, redeemLoop sampleDeployment (200 * decimalPrecision)
        (sampleRedemption 200 (50 * decimalPrecision - 1)) (2 ^ 256 - 1) 2 ⟨s, 200, 0, 0⟩ =
        .ok totals ∧ 0 < totals.totalETHDrawn := by
    decide +kernel
  exact ⟨s, totals, reachable_sampleRun hs, hvalid, hfirst, hloop, hdrawn, hfails⟩

end Redeeming

section Decay

/-- The second trove is closed by a redemption. -/
def sampleFees : List Transact :=
  sampleRedeemable ++ [⟨sampleMessage, .redeemCollateral 1
    ⟨2010 * decimalPrecision, 0, 0, 0, 0, 0, decimalPrecision⟩⟩]

end Decay

end Usdd

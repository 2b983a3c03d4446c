import Usdd.MarketRuns
import Usdd.TokenFailures

/-!
# Backing of USDD

The supply of USDD is the debt that the pools record, and the gas pool holds the reserve of every
trove. Hence the calls that close troves never fail where they burn or move USDD.
-/

open Transaction

namespace Usdd

variable {D : Deployment} {m : Message} {s s' : State} {a account receiver sender : Address}
  {amount : ℕ}

section Token

theorem USDDToken.burn_avoids
    (hsender : sender = D.borrowerOperations ∨ sender = D.troveManager ∨ sender = D.stabilityPool)
    (ha : a ≠ 0) (hle : amount ≤ s.usddToken.balances a) :
    Avoids TokenFailure (USDDToken.burn D sender s a amount) := by
  simp [USDDToken.burn, USDDToken.burnFrom, hsender, ha, hle]

theorem USDDToken.returnFromPool_avoids (hsender : sender = D.troveManager ∨ sender = D.stabilityPool)
    (ha : a ≠ 0) (hreceiver : receiver ≠ 0) (hle : amount ≤ s.usddToken.balances a) :
    Avoids TokenFailure (USDDToken.returnFromPool D sender s a receiver amount) := by
  simp [USDDToken.returnFromPool, USDDToken.move, hsender, ha, hreceiver, hle]

theorem BorrowerOperations.repayUSDD_avoids (ha : a ≠ 0) (hle : amount ≤ s.usddToken.balances a) :
    Avoids TokenFailure (BorrowerOperations.repayUSDD D s a amount) := by
  refine avoids_bind ActivePool.decreaseUSDDDebt_avoids (fun s₁ h₁ => ?_)
  have htoken : s₁.usddToken = s.usddToken := by
    obtain ⟨_, -, h₁⟩ := bind_eq_ok.1 h₁
    obtain ⟨_, -, h₁⟩ := bind_eq_ok.1 h₁
    rw [← pure_eq_ok.1 h₁]
  exact USDDToken.burn_avoids (Or.inl rfl) ha (htoken ▸ hle)

theorem BorrowerOperations.repayUSDD_balances {b : Address}
    (h : BorrowerOperations.repayUSDD D s a amount = .ok s') (hb : b ≠ a) :
    s'.usddToken.balances b = s.usddToken.balances b := by
  obtain ⟨s₁, h₁, h⟩ := bind_eq_ok.1 h
  obtain ⟨_, -, h₁⟩ := bind_eq_ok.1 h₁
  obtain ⟨_, -, h₁⟩ := bind_eq_ok.1 h₁
  obtain ⟨_, -, h⟩ := bind_eq_ok.1 h
  obtain ⟨t, ht, h⟩ := bind_eq_ok.1 h
  rw [← pure_eq_ok.1 h₁] at ht
  obtain ⟨hle, heq⟩ := USDDToken.burnFrom_eq_ok ht
  rw [← pure_eq_ok.1 h, heq]
  exact Function.update_of_ne hb _ _

end Token

section Frames

theorem TroveManager.applyPendingRewards_usddToken :
    Ensures (fun s' => s'.usddToken = s.usddToken) (applyPendingRewards D s a) := by
  simp [applyPendingRewards, movePendingTroveRewardsToActivePool, DefaultPool.decreaseUSDDDebt,
    ActivePool.increaseUSDDDebt, DefaultPool.sendToActivePool, ActivePool.receiveColl, Token.transfer,
    requireTroveIsActive, DefaultPool.requireCallerIsTroveManager,
    DefaultPool.requireCallerIsTroveManagerOf, getPendingCollReward, getPendingUSDDDebtReward]

theorem TroveManager.closeTrove_usddToken {tm : TroveManager} {status : Status}
    (h : closeTrove { s with troveManager := tm } a status = .ok s') :
    s'.usddToken = s.usddToken := by
  obtain ⟨-, -, tm', list, -, -, rfl⟩ := closeTrove_book h
  rfl

end Frames

section Wiring

theorem Deployment.Wired.ne_zero (hw : D.Wired) (ha : a ∈ D.contracts) : a ≠ 0 := by
  rintro rfl
  exact hw.nonzero (List.mem_cons_of_mem _ (List.mem_cons_of_mem _ ha))

/-- The gas pool pays what is still owed for closed troves. -/
theorem Book.Reached.gas_le {d c : ℤ} {n : ℕ} (h : (s.book D d c n).Reached D) :
    n * usddGasCompensation ≤ s.usddToken.balances D.gasPool := by
  have hgas : (usddGasCompensation : ℤ) * (s.troveManager.troveOwners.length + n) ≤
      s.usddToken.balances D.gasPool := h.consistent.accounts.gas
  have hle : (usddGasCompensation : ℤ) * n ≤
      usddGasCompensation * (s.troveManager.troveOwners.length + n) := by
    refine mul_le_mul_of_nonneg_left ?_ (Int.natCast_nonneg _)
    omega
  rw [Nat.mul_comm]
  exact_mod_cast hle.trans hgas

end Wiring

section Closing

theorem BorrowerOperations.closeTrove_avoids (hw : D.Wired) (h : (s.book D 0 0 0).Reached D)
    (hsender : m.sender ≠ 0 ∧ m.sender ∉ D.contracts) :
    Avoids TokenFailure (BorrowerOperations.closeTrove D m s account) := by
  have hgas : D.gasPool ≠ m.sender := by
    intro heq
    exact hsender.2 (heq ▸ D.gasPool_mem)
  refine avoids_bind (by simp [requireCallerIsBorrowerOrGw]) (fun _ _ => ?_)
  refine avoids_bind (by simp [requireTroveisActive]) (fun _ hactive => ?_)
  refine avoids_bind (by simp [requireNotInRecoveryMode]) (fun _ _ => ?_)
  refine avoids_bind TroveManager.applyPendingRewards_avoids (fun s₁ h₁ => ?_)
  refine avoids_bind (by simp) (fun repayment _ => ?_)
  refine avoids_bind (by simp [requireSufficientUSDDBalance]) (fun _ hbalance => ?_)
  refine avoids_bind (by simp [getNewTCRFromTroveChange, applyChange]) (fun _ _ => ?_)
  refine avoids_bind (by simp [requireNewTCRisAboveCCR]) (fun _ _ => ?_)
  refine avoids_bind TroveManager.removeStake_avoids (fun tm htm => ?_)
  refine avoids_bind TroveManager.closeTrove_avoids (fun s₂ h₂ => ?_)
  have htoken : s₂.usddToken = s₁.usddToken := TroveManager.closeTrove_usddToken h₂
  refine avoids_bind (repayUSDD_avoids hsender.1 ?_) (fun s₃ h₃ => ?_)
  · rw [htoken]
    exact require_eq_ok.1 hbalance
  · have hreached := (h.trans (TroveManager.applyPendingRewards_path (require_eq_ok.1 hactive) h₁
      0 0 0)).trans (TroveManager.closeTrove_path htm h₂ 0 0 0)
    rw [zero_add, zero_add] at hreached
    have hle := hreached.gas_le (n := 1)
    rw [Nat.one_mul, ← repayUSDD_balances h₃ hgas] at hle
    exact avoids_bind (repayUSDD_avoids (hw.ne_zero D.gasPool_mem) hle) (fun _ _ => by simp)

end Closing

section Liquidating

theorem StabilityPool.triggerDEFTIssuance_usddToken :
    Ensures (fun s' => s'.usddToken = s.usddToken ∧
      s'.stabilityPool.totalUSDDDeposits = s.stabilityPool.totalUSDDDeposits)
      (triggerDEFTIssuance D m s) := by
  intro s' h
  obtain ⟨⟨s₁, issuance⟩, h₁, h⟩ := bind_eq_ok.1 h
  obtain ⟨sp, hsp, h⟩ := bind_eq_ok.1 h
  obtain ⟨_, -, h₁⟩ := bind_eq_ok.1 h₁
  obtain ⟨_, -, h₁⟩ := bind_eq_ok.1 h₁
  obtain ⟨_, -, h₁⟩ := bind_eq_ok.1 h₁
  obtain ⟨_, -, h₁⟩ := bind_eq_ok.1 h₁
  cases pure_eq_ok.1 h₁
  rw [← pure_eq_ok.1 h]
  exact ⟨rfl, updateG_totalUSDDDeposits hsp⟩

/-- The pool holds the deposits that an offset burns. -/
theorem StabilityPool.offset_avoids {debt coll : ℕ} (hw : D.Wired)
    (hdeposits : s.stabilityPool.totalUSDDDeposits ≤ s.usddToken.balances D.stabilityPool) :
    Avoids TokenFailure (offset D m D.troveManager s debt coll) := by
  refine avoids_bind (by simp) (fun _ _ => ?_)
  refine avoids_ite (fun _ => avoids_pure _) (fun _ => ?_)
  refine avoids_bind triggerDEFTIssuance_avoids (fun s₁ h₁ => ?_)
  refine avoids_bind computeRewardsPerUnitStaked_avoids (fun r hr => ?_)
  refine avoids_bind updateRewardSumAndProduct_avoids (fun sp _ => ?_)
  obtain ⟨htoken, -⟩ := triggerDEFTIssuance_usddToken s₁ h₁
  obtain ⟨_, hle, -⟩ := bind_eq_ok.1 hr
  have hle : debt ≤ s.stabilityPool.totalUSDDDeposits := assert_eq_ok.1 hle
  refine avoids_bind ActivePool.decreaseUSDDDebt_avoids (fun s₂ h₂ => ?_)
  refine avoids_bind decreaseUSDD_avoids (fun s₃ h₃ => ?_)
  obtain ⟨_, -, h₂⟩ := bind_eq_ok.1 h₂
  obtain ⟨_, -, h₂⟩ := bind_eq_ok.1 h₂
  obtain ⟨_, -, h₃⟩ := bind_eq_ok.1 h₃
  have htoken₃ : s₃.usddToken = s.usddToken := by
    rw [← pure_eq_ok.1 h₃, ← pure_eq_ok.1 h₂]
    exact htoken
  refine avoids_bind (USDDToken.burn_avoids (Or.inr (Or.inr rfl))
    (hw.ne_zero D.stabilityPool_mem) ?_) (fun _ _ => by simp)
  rw [htoken₃]
  exact hle.trans hdeposits

namespace TroveManager

variable {q : Sequence} {liquidator : Address} {n : ℕ}

theorem Sequence.Follows.settleTotals_avoids (hw : D.Wired) (h : (s.book D 0 0 0).Reached D)
    (hq : q.Follows D s) (hliquidator : liquidator ≠ 0) :
    Avoids TokenFailure (settleTotals D m q.state liquidator q.totals) := by
  obtain ⟨n, hn, hpath⟩ := hq.path
  have hreached := h.trans (hpath 0 0 0)
  have hcustody := hreached.consistent.custody.deposits
  refine avoids_bind (by simp) (fun _ hpos => ?_)
  refine avoids_bind (StabilityPool.offset_avoids hw hcustody) (fun s₁ h₁ => ?_)
  refine avoids_bind redistributeDebtAndColl_avoids (fun s₂ h₂ => ?_)
  refine avoids_bind sendCollSurplus_avoids (fun s₃ h₃ => ?_)
  refine avoids_bind updateSystemSnapshotsExcludeCollRemainder_avoids (fun s₄ h₄ => ?_)
  refine avoids_bind (by simp) (fun _ _ => avoids_bind (by simp) (fun _ _ => ?_))
  refine avoids_bind ?_ (fun _ _ => sendCollGasCompensation_avoids)
  refine avoids_ite (fun _ => ?_) (fun _ => avoids_pure _)
  refine USDDToken.returnFromPool_avoids (Or.inl rfl) (hw.ne_zero D.gasPool_mem) hliquidator ?_
  have hdeposits := hq.deposits
  have hnonempty : q.totals.totalDebtToOffset ≠ 0 → q.state.stabilityPool.totalUSDDDeposits ≠ 0 := by
    intro hz
    rw [hq.pool]
    omega
  have hp := settleTotals_prefix_path hw.gasPool_ne hq.balanced hnonempty hq.owners
    (require_eq_ok.1 hpos) h₁ h₂ h₃ h₄ (0 + q.totals.totalDebtInSequence)
    (0 + q.totals.totalCollInSequence) (0 + n)
  have hreached₄ := hreached.trans hp
  simp only [zero_add] at hreached₄
  rw [hn]
  exact hreached₄.gas_le

theorem liquidateTroves_avoids (hw : D.Wired) (h : (s.book D 0 0 0).Reached D)
    (hliquidator : liquidator ≠ 0) : Avoids TokenFailure (liquidateTroves D m s liquidator n) := by
  refine avoids_bind (by simp [requireCallerIsLiquidatorOrGw]) (fun _ _ => ?_)
  refine avoids_bind totalsFromLiquidateTrovesSequence_avoids (fun q hq => ?_)
  exact (totalsFromLiquidateTrovesSequence_follows h.consistent.registry hq).settleTotals_avoids hw h
    hliquidator

theorem batchLiquidateTroves_avoids {troveArray : List Address} (hw : D.Wired)
    (h : (s.book D 0 0 0).Reached D) (hliquidator : liquidator ≠ 0) :
    Avoids TokenFailure (batchLiquidateTroves D m s liquidator troveArray) := by
  refine avoids_bind (by simp [requireCallerIsLiquidatorOrGw]) (fun _ _ => ?_)
  refine avoids_bind (by simp) (fun _ _ => ?_)
  refine avoids_bind totalsFromBatchLiquidate_avoids (fun q hq => ?_)
  exact (totalsFromBatchLiquidate_follows h.consistent.registry hq).settleTotals_avoids hw h
    hliquidator

end TroveManager

end Liquidating

namespace TroveManager

section Redeeming

variable {borrower : Address} {r : Redemption} {newDebt newColl maxUSDDamount coll price : ℕ}

/-- Only the gas pool loses USDD when a trove is closed by a redemption. -/
theorem redeemCloseTrove_balances {b : Address} (hb : b ≠ D.gasPool)
    (h : redeemCloseTrove D s borrower amount coll = .ok s') :
    s'.usddToken.balances b = s.usddToken.balances b := by
  obtain ⟨s₁, h₁, h⟩ := bind_eq_ok.1 h
  obtain ⟨_, -, h₁⟩ := bind_eq_ok.1 h₁
  obtain ⟨t, ht, h₁⟩ := bind_eq_ok.1 h₁
  obtain ⟨hle, heq⟩ := USDDToken.burnFrom_eq_ok ht
  have hrest : Ensures (fun s' => s'.usddToken = s₁.usddToken) (do
      let s ← ActivePool.decreaseUSDDDebt D D.troveManager s₁ amount
      let s ← CollSurplusPool.accountSurplus D D.troveManager s borrower D.collToken coll
      let s ← ActivePool.sendColl D D.troveManager s D.troveManager D.collToken coll
      CollSurplusPool.receiveColl D D.troveManager s D.collToken coll) := by
    simp [ActivePool.decreaseUSDDDebt, CollSurplusPool.accountSurplus, ActivePool.sendColl,
      CollSurplusPool.receiveColl, Token.transfer]
  rw [hrest s' h, ← pure_eq_ok.1 h₁, heq]
  exact Function.update_of_ne hb _ _

theorem redeemCollateralFromTrove_balances {b : Address} {v : SingleRedemptionValues}
    (hb : b ≠ D.gasPool)
    (h : redeemCollateralFromTrove D s borrower maxUSDDamount price r = .ok (s', v)) :
    s'.usddToken.balances b = s.usddToken.balances b ∧ v.usddLot ≤ maxUSDDamount := by
  obtain ⟨netDebt, -, h⟩ := bind_eq_ok.1 h
  obtain ⟨collLot, -, h⟩ := bind_eq_ok.1 h
  obtain ⟨newDebt, -, h⟩ := bind_eq_ok.1 h
  obtain ⟨newColl, -, h⟩ := bind_eq_ok.1 h
  obtain ⟨⟨s₁, cancelled⟩, h₁, h⟩ := bind_eq_ok.1 h
  cases pure_eq_ok.1 h
  refine ⟨?_, min_le_left _ _⟩
  rcases ite_eq_ok.1 h₁ with ⟨-, h₁⟩ | ⟨-, h₁⟩
  · obtain ⟨tm, htm, h₁⟩ := bind_eq_ok.1 h₁
    obtain ⟨s₂, h₂, h₁⟩ := bind_eq_ok.1 h₁
    obtain ⟨s₃, h₃, h₁⟩ := bind_eq_ok.1 h₁
    cases pure_eq_ok.1 h₁
    rw [redeemCloseTrove_balances hb h₃, closeTrove_usddToken h₂]
  · obtain ⟨_, -, h₁⟩ := bind_eq_ok.1 h₁
    rcases ite_eq_ok.1 h₁ with ⟨-, h₁⟩ | ⟨-, h₁⟩
    · cases pure_eq_ok.1 h₁
      rfl
    · obtain ⟨list, -, h₁⟩ := bind_eq_ok.1 h₁
      obtain ⟨s₂, h₂, h₁⟩ := bind_eq_ok.1 h₁
      obtain ⟨tm, -, rfl⟩ := restake_eq_ok h₂
      cases pure_eq_ok.1 h₁
      rfl

theorem redeemCollateralFromTrove_avoids (hw : D.Wired) {d c : ℤ}
    (h : (s.book D d c 0).Reached D) :
    Avoids TokenFailure (redeemCollateralFromTrove D s borrower maxUSDDamount price r) := by
  refine avoids_bind (by simp) (fun _ _ => avoids_bind (by simp) (fun _ _ => ?_))
  refine avoids_bind (by simp) (fun newDebt _ => avoids_bind (by simp) (fun newColl _ => ?_))
  refine avoids_bind ?_ (fun _ _ => avoids_pure _)
  refine avoids_ite (fun _ => ?_) (fun _ => ?_)
  · refine avoids_bind removeStake_avoids (fun tm htm => ?_)
    refine avoids_bind closeTrove_avoids (fun s₁ h₁ => ?_)
    refine avoids_bind ?_ (fun _ _ => avoids_pure _)
    have hreached := h.trans (closeTrove_path htm h₁ d c 0)
    rw [zero_add] at hreached
    have hle := hreached.gas_le (n := 1)
    rw [Nat.one_mul] at hle
    exact avoids_bind (USDDToken.burn_avoids (Or.inr (Or.inl rfl)) (hw.ne_zero D.gasPool_mem) hle)
      (fun _ _ => by simp)
  · refine avoids_bind (by simp [getNetDebt]) (fun _ _ => ?_)
    refine avoids_ite (fun _ => avoids_pure _) (fun _ => ?_)
    refine avoids_bind (SortedTroves.reInsert_avoids (fun _ => getNominalICR_avoids))
      (fun _ _ => ?_)
    exact avoids_bind restake_avoids (fun _ _ => avoids_pure _)

variable {totals totals' : RedemptionTotals} {iterations : ℕ} {currentBorrower depositor : Address}

theorem redeemLoop_balances {b : Address} (hb : b ≠ D.gasPool)
    (h : redeemLoop D price r iterations currentBorrower totals = .ok totals') :
    totals'.state.usddToken.balances b = totals.state.usddToken.balances b ∧
      totals'.totalUSDDToRedeem + totals'.remainingUSDD =
        totals.totalUSDDToRedeem + totals.remainingUSDD := by
  refine redeemLoop_rule (I := fun t => t.state.usddToken.balances b =
      totals.state.usddToken.balances b ∧ t.totalUSDDToRedeem + t.remainingUSDD =
        totals.totalUSDDToRedeem + totals.remainingUSDD) ?_ ?_ ⟨rfl, rfl⟩ h
  · rintro t s₁ borrower s₂ v remaining ⟨hbalance, htotal⟩ h₁ h₂ - hremaining
    obtain ⟨hbalance₂, hlot⟩ := redeemCollateralFromTrove_balances hb h₂
    obtain ⟨hle, rfl⟩ := sub_eq_ok.1 hremaining
    rw [applyPendingRewards_usddToken s₁ h₁] at hbalance₂
    refine ⟨hbalance₂.trans hbalance, Eq.trans ?_ htotal⟩
    dsimp only
    omega
  · rintro t s₁ borrower s₂ v ⟨hbalance, htotal⟩ h₁ h₂ -
    obtain ⟨hbalance₂, -⟩ := redeemCollateralFromTrove_balances hb h₂
    rw [applyPendingRewards_usddToken s₁ h₁] at hbalance₂
    exact ⟨hbalance₂.trans hbalance, htotal⟩

theorem RedemptionTotals.Follows.redeemLoop_avoids (hw : D.Wired) (hs : (s.book D 0 0 0).Reached D)
    (hf : totals.Follows D s) :
    Avoids TokenFailure
      (TroveManager.redeemLoop D price r iterations currentBorrower totals) := by
  induction iterations generalizing currentBorrower totals with
  | zero => exact avoids_pure _
  | succ iterations ih =>
      refine avoids_ite (fun _ => avoids_pure _) (fun _ => ?_)
      refine avoids_bind applyPendingRewards_avoids (fun s₁ h₁ => ?_)
      have hreached := hs.trans (hf 0 0 0)
      have hreg := hreached.consistent.registry
      by_cases hactive : totals.state.troveManager.Active currentBorrower
      · have hreached₁ := hreached.trans (applyPendingRewards_path hactive h₁ _ _ _)
        refine avoids_bind (redeemCollateralFromTrove_avoids hw hreached₁) (fun result h₂ => ?_)
        refine avoids_ite (fun _ => avoids_pure _) (fun hc => ?_)
        refine avoids_bind (by simp) (fun remaining _ => ih (fun d c g => ?_))
        rcases redeemCollateralFromTrove_path hw.gasPool_ne (applyPendingRewards_active hactive h₁)
          (applyPendingRewards_snapshot hactive h₁) h₂ with ⟨hc', -⟩ | ⟨-, hp⟩
        · exact absurd hc' hc
        · have hstep := (hf d c g).trans ((applyPendingRewards_path hactive h₁ _ _ _).trans
            (hp _ _ _))
          dsimp only
          push_cast
          rw [← add_assoc, ← add_assoc]
          exact hstep
      · refine avoids_bind ?_ (fun result h₂ => ?_)
        · have hdebt : (s₁.troveManager.troves currentBorrower).debt = 0 := by
            have hpending : hasPendingRewards totals.state.troveManager currentBorrower = false :=
              if_pos hactive
            unfold applyPendingRewards at h₁
            rw [hpending] at h₁
            rw [← pure_eq_ok.1 h₁]
            exact (hreg.inactive currentBorrower hactive).1
          refine avoids_bind (by simp) (fun netDebt hnet => ?_)
          obtain ⟨hle, -⟩ := sub_eq_ok.1 hnet
          rw [hdebt] at hle
          exact absurd hle (by decide)
        · exact absurd (redeemCollateralFromTrove_active hreg h₁ h₂) hactive

theorem settleRedemption_avoids {totalUSDDSupplyAtStart : ℕ} (hdepositor : depositor ≠ 0)
    (hle : amount ≤ s.usddToken.balances depositor) :
    Avoids TokenFailure
      (settleRedemption D m s depositor r amount coll totalUSDDSupplyAtStart) := by
  refine avoids_bind (by simp) (fun _ _ => ?_)
  refine avoids_bind updateBaseRateFromRedemption_avoids (fun fees _ => ?_)
  refine avoids_bind getRedemptionFee_avoids (fun collFee _ => ?_)
  refine avoids_bind (by simp [requireUserAcceptsFee]) (fun _ _ => ?_)
  refine avoids_bind ActivePool.sendColl_avoids (fun s₁ h₁ => ?_)
  refine avoids_bind DEFTStaking.increaseFColl_avoids (fun s₂ h₂ => ?_)
  refine avoids_bind (by simp) (fun _ _ => avoids_bind ?_ (fun _ _ => by simp))
  have hsend : Ensures (fun s₁ => s₁.usddToken = s.usddToken)
      (ActivePool.sendColl D D.troveManager { s with fees := fees } D.deftStaking D.collToken
        collFee) := by
    simp [ActivePool.sendColl, Token.transfer]
  have hfee : Ensures (fun s₂ => s₂.usddToken = s₁.usddToken)
      (DEFTStaking.increaseFColl D D.troveManager s₁ D.collToken collFee) := by
    simp [DEFTStaking.increaseFColl]
  refine USDDToken.burn_avoids (Or.inr (Or.inl rfl)) hdepositor ?_
  rw [hfee s₂ h₂, hsend s₁ h₁]
  exact hle

theorem redeemCollateral_avoids (hw : D.Wired) (h : (s.book D 0 0 0).Reached D)
    (hdepositor : depositor ≠ 0 ∧ depositor ∉ D.contracts) :
    Avoids TokenFailure (redeemCollateral D m s depositor r) := by
  have hgas : depositor ≠ D.gasPool := by
    rintro rfl
    exact hdepositor.2 D.gasPool_mem
  have hsupply : s.usddToken.totalSupply = getEntireSystemDebt s := h.consistent.accounts.supply
  refine avoids_bind ?_ (fun _ hvalid => ?_)
  · simp [requireValidRedemption, requireCallerIsDepositorOrGw, requireValidMaxFeePercentage,
      requireAfterBootstrapPeriod, requireTCRoverMCR, requireAmountGreaterThanZero,
      requireUSDDBalanceCoversRedemption, ← hsupply, s.usddToken.balance_le_totalSupply]
  · refine avoids_bind firstBorrower_avoids (fun _ _ => ?_)
    have hstart : RedemptionTotals.Follows D s ⟨s, r.usddAmount, 0, 0⟩ := by
      intro d c g
      simp only [Nat.cast_zero, add_zero]
      exact Path.refl _
    refine avoids_bind (RedemptionTotals.Follows.redeemLoop_avoids hw h hstart) (fun totals htotals => ?_)
    obtain ⟨hbalance, htotal⟩ := redeemLoop_balances hgas htotals
    have hle : r.usddAmount ≤ s.usddToken.balances depositor := by
      obtain ⟨_, -, hvalid⟩ := bind_eq_ok.1 hvalid
      obtain ⟨_, -, hvalid⟩ := bind_eq_ok.1 hvalid
      obtain ⟨_, -, hvalid⟩ := bind_eq_ok.1 hvalid
      obtain ⟨_, -, hvalid⟩ := bind_eq_ok.1 hvalid
      obtain ⟨_, -, hvalid⟩ := bind_eq_ok.1 hvalid
      obtain ⟨_, hbalance, -⟩ := bind_eq_ok.1 hvalid
      exact require_eq_ok.1 hbalance
    refine settleRedemption_avoids hdepositor.1 ?_
    rw [hbalance]
    dsimp only at htotal ⊢
    omega

end Redeeming

end TroveManager

section Results

/-- The calls that close troves. -/
def Call.ClosesTroves : Call → Prop
  | .closeTrove _ | .liquidate _ _ | .liquidateTroves _ _ | .batchLiquidateTroves _ _
  | .redeemCollateral _ _ => True
  | _ => False

theorem usdd_backed (hw : D.Wired) (h : Reachable D s) :
    s.usddToken.totalSupply = ∑ a, s.usddToken.balances a ∧
      s.usddToken.totalSupply = s.activePool.usddDebt + s.defaultPool.usddDebt ∧
      usddGasCompensation * (Finset.univ.filter s.troveManager.Active).card ≤
        s.usddToken.balances D.gasPool ∧
      ∀ t : Transact, Allowed D s t → t.call.ClosesTroves →
        Avoids TokenFailure (perform D t.message s t.call) := by
  have hreached := h.reached hw
  obtain ⟨hreg, hacc, -⟩ := hreached.consistent
  refine ⟨s.usddToken.sum_balances.symm, hacc.supply, ?_, fun t ha hc => ?_⟩
  · have hcard : (Finset.univ.filter s.troveManager.Active).card =
        s.troveManager.troveOwners.length := by
      have hnodup : s.troveManager.troveOwners.Nodup := hreg.indexed.nodup
      have hset : Finset.univ.filter s.troveManager.Active =
          s.troveManager.troveOwners.toFinset := by
        ext a
        have hmem : a ∈ s.troveManager.troveOwners ↔ s.troveManager.Active a := hreg.mem_owners a
        rw [Finset.mem_filter, List.mem_toFinset, hmem]
        exact ⟨And.right, fun ha => ⟨Finset.mem_univ _, ha⟩⟩
      rw [hset, List.toFinset_card_of_nodup hnodup]
    have hgas : (usddGasCompensation : ℤ) * (s.troveManager.troveOwners.length + 0) ≤
        s.usddToken.balances D.gasPool := hacc.gas
    rw [add_zero] at hgas
    rw [hcard]
    exact_mod_cast hgas
  · obtain ⟨m, call⟩ := t
    cases call with
    | closeTrove onBehalfOf => exact BorrowerOperations.closeTrove_avoids hw hreached ha.sender
    | liquidate liquidator borrower =>
        exact avoids_bind (by simp [TroveManager.requireTroveIsActive]) (fun _ _ =>
          TroveManager.batchLiquidateTroves_avoids hw hreached ha.account.1)
    | liquidateTroves liquidator n =>
        exact TroveManager.liquidateTroves_avoids hw hreached ha.account.1
    | batchLiquidateTroves liquidator troveArray =>
        exact TroveManager.batchLiquidateTroves_avoids hw hreached ha.account.1
    | redeemCollateral depositor r => exact TroveManager.redeemCollateral_avoids hw hreached ha.account
    | _ => exact absurd hc id

theorem usdd_backed_of_liquidation : ∃ s, sampleRun sampleLiquidation = .ok s ∧
    s.usddToken.totalSupply = s.activePool.usddDebt + s.defaultPool.usddDebt ∧
      Avoids TokenFailure (perform sampleDeployment ⟨4, 100 * decimalPrecision, 2⟩ s
        (.liquidateTroves 4 10)) := by
  obtain ⟨s, hs, ha⟩ : ∃ s, sampleRun sampleLiquidation = .ok s ∧ Allowed sampleDeployment s
      ((Call.liquidateTroves 4 10).sent 4 (100 * decimalPrecision)) := by decide +kernel
  obtain ⟨-, hsupply, -, hcalls⟩ := usdd_backed sampleDeployment_wired (reachable_sampleRun hs)
  exact ⟨s, hs, hsupply, hcalls _ ha trivial⟩

end Results

end Usdd

import Usdd.Lib.Ratio
import Usdd.ModeGuards

/-!
# Borrower operations in Recovery Mode

An adjustment that adds debt is compared with the trove before it by rounded ratios, so that a small
amount of debt can be added at the same rounded ratio. The total ratio does not fall if and only if
the added collateral and what the old total ratio was rounded by pay for the added debt.
-/

open Transaction

namespace Usdd.BorrowerOperations

open TroveManager

variable {D : Deployment} {m : Message} {s s₁ s₂ s' : State} {account : Address} {a : Adjustment}

section Ratios

variable {coll debt price : ℕ}

theorem computeCR_of_pos (hd : 0 < debt) :
    LiquityMath.computeCR coll debt price = coll * price / debt := if_pos hd

theorem le_computeCR_iff (hd : 0 < debt) {ratio : ℕ} :
    ratio ≤ LiquityMath.computeCR coll debt price ↔ ratio * debt ≤ coll * price := by
  rw [computeCR_of_pos hd, Nat.le_div_iff_mul_le hd]

theorem ccr_le_computeCR_zero : CCR ≤ LiquityMath.computeCR coll 0 price := by
  unfold LiquityMath.computeCR
  rw [if_neg (lt_irrefl 0)]
  decide

/-- A ratio below the critical one has a debt. -/
theorem pos_of_computeCR_lt (h : LiquityMath.computeCR coll debt price < CCR) : 0 < debt := by
  rcases Nat.eq_zero_or_pos debt with rfl | hd
  · exact absurd ccr_le_computeCR_zero (not_le.2 h)
  · exact hd

/-- A rounded ratio below the critical one rises when debt is paid and collateral is added. -/
theorem computeCR_le_of_repaid (h : LiquityMath.computeCR coll debt price < CCR) {coll' debt' : ℕ}
    (hcoll : coll ≤ coll') (hdebt : debt' ≤ debt) :
    LiquityMath.computeCR coll debt price ≤ LiquityMath.computeCR coll' debt' price := by
  have hd := pos_of_computeCR_lt h
  rcases Nat.eq_zero_or_pos debt' with rfl | hd'
  · exact h.le.trans ccr_le_computeCR_zero
  · rw [le_computeCR_iff hd', computeCR_of_pos hd]
    calc
      coll * price / debt * debt' ≤ coll * price / debt * debt := Nat.mul_le_mul_left _ hdebt
      _ ≤ coll * price := Nat.div_mul_le_self _ _
      _ ≤ coll' * price := Nat.mul_le_mul_right _ hcoll

theorem computeCR_add_iff (hd : 0 < debt) (collAdded debtAdded : ℕ) :
    LiquityMath.computeCR coll debt price ≤
        LiquityMath.computeCR (coll + collAdded) (debt + debtAdded) price ↔
      LiquityMath.computeCR coll debt price * debtAdded ≤
        collAdded * price + coll * price % debt := by
  rw [computeCR_of_pos hd, computeCR_of_pos (Nat.add_pos_left hd _), Nat.add_mul]
  exact Ratio.div_le_div_add_iff hd _ _

end Ratios

section Adjust

theorem applyChange_deposited {amount amount' collDeposited : ℕ}
    (h : applyChange amount (getCollChange collDeposited 0).1 (getCollChange collDeposited 0).2 =
      .ok amount') : amount' = amount + collDeposited := by
  unfold getCollChange at h
  split_ifs at h with hc
  · exact (pure_eq_ok.1 h).symm
  · have hsub : SafeMath.sub amount 0 = .ok amount' := h
    obtain ⟨-, rfl⟩ := sub_eq_ok.1 hsub
    omega

/-- In Recovery Mode, the checks leave a deposit, a repayment, or a debt increase that is compared
with the trove before it. -/
theorem requireValidAdjustmentInCurrentMode_recovery {collWithdrawal oldICR newICR collChange : ℕ}
    {isCollIncrease isDebtIncrease : Bool} {netDebtChange : ℕ}
    (h : requireValidAdjustmentInCurrentMode D m s true collWithdrawal isDebtIncrease oldICR newICR
      collChange isCollIncrease netDebtChange = .ok ()) :
    collWithdrawal = 0 ∧ (isDebtIncrease = true → CCR ≤ newICR ∧ oldICR ≤ newICR) := by
  obtain ⟨_, hcoll, h⟩ := bind_eq_ok.1 h
  refine ⟨require_eq_ok.1 hcoll, ?_⟩
  rintro rfl
  obtain ⟨_, hccr, h⟩ := bind_eq_ok.1 h
  exact ⟨require_eq_ok.1 hccr, require_eq_ok.1 h⟩

/-- The adjustment does not lower the total ratio. If it adds debt, then it adds collateral, and
the ratio of the trove does not fall and is at least the critical one. -/
structure Improves (D : Deployment) (price : ℕ) (s : State) (account : Address) (a : Adjustment)
    (s' : State) : Prop where
  tcr : getTCR D s price ≤ getTCR D s' price
  coll : a.isDebtIncrease = true → 0 < a.collDeposited
  icr : a.isDebtIncrease = true → ∃ oldICR newICR,
    getCurrentICR s.troveManager account price = .ok oldICR ∧
    getCurrentICR s'.troveManager account price = .ok newICR ∧ CCR ≤ newICR ∧ oldICR ≤ newICR

/-- The trove has a debt reward that `hasPendingRewards` does not see. -/
def HidesDebt (tm : TroveManager) (account : Address) : Prop :=
  tm.lColl ≤ tm.collSnapshots account ∧ tm.debtSnapshots account < tm.lUSDDDebt

/-- Added debt comes with collateral, and the added collateral and the remainder of the total ratio
pay for it at that ratio. A reward that stays hidden is paid for by the collateral of the trove. -/
structure PaysForDebt (D : Deployment) (price : ℕ) (s : State) (account : Address)
    (a : Adjustment) : Prop where
  coll : 0 < a.collDeposited
  added : getTCR D s price * a.usddChange ≤
    a.collDeposited * price + getEntireSystemColl D s * price % getEntireSystemDebt s
  hidden : HidesDebt s.troveManager account → ∀ stake oldICR,
    computeNewStake s.troveManager
      ((s.troveManager.troves account).coll + a.collDeposited) = .ok stake →
    getCurrentICR s.troveManager account price = .ok oldICR →
    max CCR oldICR * ((s.troveManager.troves account).debt + a.usddChange +
      stake * (s.troveManager.lUSDDDebt - s.troveManager.debtSnapshots account) /
        decimalPrecision) ≤
      ((s.troveManager.troves account).coll + a.collDeposited) * price

end Adjust

section Hidden

theorem applyPendingRewards_of_le (hle : s.troveManager.lColl ≤ s.troveManager.collSnapshots account)
    (h : applyPendingRewards D s account = .ok s') : s' = s := by
  unfold applyPendingRewards at h
  split_ifs at h with hp
  · unfold hasPendingRewards at hp
    split_ifs at hp
    exact absurd (of_decide_eq_true hp) (not_lt.2 hle)
  · exact (pure_eq_ok.1 h).symm

/-- The ratio that is left is the one that was checked, except that a hidden reward stays. -/
theorem restaked_icr_iff {coll debt stake price : ℕ}
    (hreg : Registry s.troveManager s.sortedTroves) (ha : s.troveManager.Active account)
    (h₁ : applyPendingRewards D s account = .ok s₁)
    (hratios : CCR ≤ LiquityMath.computeCR coll debt price ∧
      LiquityMath.computeCR (s₁.troveManager.troves account).coll
        (s₁.troveManager.troves account).debt price ≤ LiquityMath.computeCR coll debt price)
    (hcoll : coll = (s₁.troveManager.troves account).coll + a.collDeposited)
    (hdebt : debt = (s₁.troveManager.troves account).debt + a.usddChange)
    (hstake : computeNewStake s₁.troveManager coll = .ok stake)
    (htm : s'.troveManager = s₁.troveManager.restaked account coll debt stake) :
    (∃ oldICR newICR, getCurrentICR s.troveManager account price = .ok oldICR ∧
      getCurrentICR s'.troveManager account price = .ok newICR ∧ CCR ≤ newICR ∧ oldICR ≤ newICR) ↔
    (HidesDebt s.troveManager account → ∀ stake oldICR,
      computeNewStake s.troveManager
        ((s.troveManager.troves account).coll + a.collDeposited) = .ok stake →
      getCurrentICR s.troveManager account price = .ok oldICR →
      max CCR oldICR * ((s.troveManager.troves account).debt + a.usddChange +
        stake * (s.troveManager.lUSDDDebt - s.troveManager.debtSnapshots account) /
          decimalPrecision) ≤
        ((s.troveManager.troves account).coll + a.collDeposited) * price) := by
  obtain ⟨hcollSnapshot, hdebtSnapshot⟩ := hreg.snapshot_le account
  have hold := getCurrentICR_of_active ha hcollSnapshot hdebtSnapshot price
  by_cases hhidden : HidesDebt s.troveManager account
  · cases applyPendingRewards_of_le hhidden.1 h₁
    have hpos : 0 < debt + stake *
        (s.troveManager.lUSDDDebt - s.troveManager.debtSnapshots account) / decimalPrecision := by
      have hmin := (hreg.active account ha).1
      have hgas : 0 < minNetDebt + usddGasCompensation := by decide
      exact Nat.add_pos_left (by omega) _
    have hnew : getCurrentICR s'.troveManager account price =
        .ok (LiquityMath.computeCR coll (debt + stake *
          (s.troveManager.lUSDDDebt - s.troveManager.debtSnapshots account) / decimalPrecision)
          price) := by
      have hactive : (s.troveManager.restaked account coll debt stake).Active account := by
        rw [Active, restaked_self]
        exact ha
      have hsnapshot : (s.troveManager.restaked account coll debt stake).lColl ≤
          (s.troveManager.restaked account coll debt stake).collSnapshots account := hhidden.1
      have hzero := pendingColl_of_le hsnapshot
      rw [htm, getCurrentICR_of_active hactive hcollSnapshot hdebtSnapshot price, currentColl,
        currentDebt, hzero, pendingDebt, RewardAccumulator.earned, stakes, restaked_self]
      rfl
    rw [hcoll, hdebt] at hnew
    rw [hdebt] at hpos
    rw [hcoll] at hstake
    constructor
    · rintro ⟨oldICR, newICR, hold', hnew', hccr, hle⟩ - stake' oldICR' hstake' hold''
      rw [hstake] at hstake'
      cases hstake'
      rw [hold'] at hold''
      cases hold''
      rw [hnew] at hnew'
      cases hnew'
      exact (le_computeCR_iff hpos).1 (max_le hccr hle)
    · intro hpays
      have hle := (le_computeCR_iff hpos).2 (hpays hhidden stake _ hstake hold)
      exact ⟨_, _, hold, hnew, (le_max_left _ _).trans hle, (le_max_right _ _).trans hle⟩
  · have hin : s.troveManager.lColl ≤ s.troveManager.collSnapshots account →
        s.troveManager.lUSDDDebt ≤ s.troveManager.debtSnapshots account :=
      fun hle => not_lt.1 (fun hlt => hhidden ⟨hle, hlt⟩)
    obtain ⟨hcollSnapshot₁, hdebtSnapshot₁, hcoll₁, hdebt₁⟩ :=
      applyPendingRewards_current hreg hin ha h₁
    have hactive : (s₁.troveManager.restaked account coll debt stake).Active account := by
      rw [Active, restaked_self]
      exact applyPendingRewards_active ha h₁
    have hnew : getCurrentICR s'.troveManager account price =
        .ok (LiquityMath.computeCR coll debt price) := by
      rw [htm, getCurrentICR_of_realised hactive hcollSnapshot₁ hdebtSnapshot₁, restaked_self]
    rw [← hcoll₁, ← hdebt₁] at hold
    exact iff_of_true ⟨_, _, hold, hnew, hratios.1, hratios.2⟩ (fun h => absurd h hhidden)

end Hidden

section Recovery

variable (htcr : getTCR D s m.price < CCR)

include htcr

/-- A new trove is above the critical ratio, and so is its share of the total. -/
theorem openTrove_improves {owner upperHint lowerHint : Address} {maxFee coll usdd : ℕ}
    (hreg : Registry s.troveManager s.sortedTroves)
    (h : openTrove D m s owner maxFee coll usdd upperHint lowerHint = .ok s') :
    getTCR D s m.price ≤ getTCR D s' m.price ∧ 0 < coll ∧
      ∃ icr, getCurrentICR s'.troveManager owner m.price = .ok icr ∧ CCR ≤ icr := by
  have hmode : checkRecoveryMode D s m.price = true := decide_eq_true htcr
  obtain ⟨s₁, fee, _, h₁, -, hratio, -, htotals⟩ := openTrove_amounts hreg h
  obtain ⟨_, _, h₁', -, hicr⟩ := openTrove_predicts hreg h
  rw [h₁] at h₁'
  cases h₁'
  rw [hmode] at hratio
  simp only [requireValidOpening, if_true] at hratio
  have hccr := require_eq_ok.1 hratio
  have hpos : 0 < getCompositeDebt (usdd + fee) := Nat.add_pos_right _ (by decide)
  have hcoll : CCR * getCompositeDebt (usdd + fee) ≤ coll * m.price := (le_computeCR_iff hpos).1 hccr
  obtain ⟨hsystemColl, hsystemDebt⟩ := Prod.mk.inj htotals
  refine ⟨?_, ?_, _, hicr, hccr⟩
  · unfold getTCR
    rw [hsystemColl, hsystemDebt]
    refine (computeCR_add_iff (pos_of_computeCR_lt htcr) _ _).2 ?_
    exact (Nat.mul_le_mul_right _ htcr.le).trans (hcoll.trans (Nat.le_add_right _ _))
  · by_contra hz
    have hprod : 0 < CCR * getCompositeDebt (usdd + fee) := Nat.mul_pos (by decide) hpos
    rw [Nat.eq_zero_of_not_pos hz, Nat.zero_mul] at hcoll
    omega

/-- What an adjustment in Recovery Mode amounts to. No fee is charged. -/
theorem adjustTrove_recovery (hgas : m.sender ≠ D.gasPool)
    (h : adjustTrove D m s account a = .ok s') :
    ∃ s₁ coll debt stake, s.troveManager.Active account ∧
      applyPendingRewards D s account = .ok s₁ ∧
      coll = (s₁.troveManager.troves account).coll + a.collDeposited ∧
      applyChange (s₁.troveManager.troves account).debt a.usddChange a.isDebtIncrease = .ok debt ∧
      (a.isDebtIncrease = true → CCR ≤ LiquityMath.computeCR coll debt m.price ∧
        LiquityMath.computeCR (s₁.troveManager.troves account).coll
          (s₁.troveManager.troves account).debt m.price ≤
          LiquityMath.computeCR coll debt m.price) ∧
      computeNewStake s₁.troveManager coll = .ok stake ∧
      s'.troveManager = s₁.troveManager.restaked account coll debt stake ∧
      (totals D s').1 = (totals D s).1 + a.collDeposited ∧
      applyChange (totals D s).2 a.usddChange a.isDebtIncrease = .ok (totals D s').2 := by
  have hmode : checkRecoveryMode D s m.price = true := decide_eq_true htcr
  obtain ⟨s₁, s₂, fee, newICR, coll, debt, stake, hvalid, h₁, h₂, -, htm, -, rfl, hchecks, hcoll,
    hdebt, hstake, htm', hsystemColl, hsystemDebt⟩ := adjustTrove_amounts hgas h
  rw [hmode] at h₂ hchecks
  rw [Bool.not_true, Bool.and_false] at h₂
  cases pure_eq_ok.1 h₂
  obtain ⟨hzero, hratios⟩ := requireValidAdjustmentInCurrentMode_recovery hchecks
  rw [hzero] at hcoll hsystemColl
  exact ⟨s₁, coll, debt, stake, (requireValidAdjustment_eq_ok hvalid).2, h₁,
    applyChange_deposited hcoll, hdebt, hratios, hstake, htm', applyChange_deposited hsystemColl,
    hsystemDebt⟩

/-- An adjustment improves the system if and only if the debt that it adds is paid for. -/
theorem adjustTrove_improves_iff (hgas : m.sender ≠ D.gasPool)
    (hreg : Registry s.troveManager s.sortedTroves) (h : adjustTrove D m s account a = .ok s') :
    Improves D m.price s account a s' ↔
      (a.isDebtIncrease = true → PaysForDebt D m.price s account a) := by
  obtain ⟨s₁, coll, debt, stake, hactive, h₁, hcoll, hdebt, hratios, hstake, htm, hsystemColl,
    hsystemDebt⟩ := adjustTrove_recovery htcr hgas h
  cases hi : a.isDebtIncrease with
  | false =>
      rw [hi] at hsystemDebt
      obtain ⟨-, hsystemDebt⟩ := sub_eq_ok.1 hsystemDebt
      refine iff_of_true ⟨?_, by simp [hi], by simp [hi]⟩ (by simp)
      apply computeCR_le_of_repaid htcr
      · show (totals D s).1 ≤ (totals D s').1
        omega
      · show (totals D s').2 ≤ (totals D s).2
        omega
  | true =>
      rw [hi] at hdebt hsystemDebt
      have hdebt := (pure_eq_ok.1 hdebt).symm
      have hsystemDebt := (pure_eq_ok.1 hsystemDebt).symm
      have htcr' : getTCR D s m.price ≤ getTCR D s' m.price ↔
          getTCR D s m.price * a.usddChange ≤ a.collDeposited * m.price +
            getEntireSystemColl D s * m.price % getEntireSystemDebt s := by
        have hsame : getTCR D s' m.price =
            LiquityMath.computeCR (totals D s').1 (totals D s').2 m.price := rfl
        rw [hsame, hsystemColl, hsystemDebt]
        exact computeCR_add_iff (pos_of_computeCR_lt htcr) _ _
      have hicr := restaked_icr_iff hreg hactive h₁ (hratios hi) hcoll hdebt hstake htm
      constructor
      · intro himproves _
        exact ⟨himproves.coll hi, htcr'.1 himproves.tcr, hicr.1 (himproves.icr hi)⟩
      · intro hpays
        have hpays := hpays rfl
        exact ⟨htcr'.2 hpays.added, fun _ => hpays.coll, fun _ => hicr.2 hpays.hidden⟩

end Recovery

end Usdd.BorrowerOperations

namespace Usdd

open BorrowerOperations TroveManager

section RecoveryMode

variable {D : Deployment} {m : Message} {s : State}

/-- In Recovery Mode an opening improves the system, and an adjustment does so if and only if the
debt that it adds is paid for. -/
theorem recovery_mode_improves_iff (hw : D.Wired) (h : Reachable D s) (hm : m.sender ∉ D.contracts)
    (htcr : getTCR D s m.price < CCR) :
    (∀ owner maxFee coll usdd upperHint lowerHint s',
      openTrove D m s owner maxFee coll usdd upperHint lowerHint = .ok s' →
        getTCR D s m.price ≤ getTCR D s' m.price ∧ 0 < coll ∧
        ∃ icr, getCurrentICR s'.troveManager owner m.price = .ok icr ∧ CCR ≤ icr) ∧
      ∀ account a s', adjustTrove D m s account a = .ok s' →
        (Improves D m.price s account a s' ↔
          (a.isDebtIncrease = true → PaysForDebt D m.price s account a)) := by
  have hreg := (h.consistent hw).registry
  have hgas : m.sender ≠ D.gasPool := fun he => hm (he ▸ D.gasPool_mem)
  constructor
  · intro owner maxFee coll usdd upperHint lowerHint s' h
    exact openTrove_improves htcr hreg h
  · intro account a s' h
    exact adjustTrove_improves_iff htcr hgas hreg h

/-- Two troves that have a total ratio of exactly 125% at a price of 150. -/
def sampleRecovery : List Transact :=
  [sampleOpen 1 (100 * decimalPrecision) (1800 * decimalPrecision) (200 * decimalPrecision),
    sampleOpen 2 (1000 * decimalPrecision) 129145273631840796019901 (200 * decimalPrecision)]

theorem recovery_mode_improves_of_deposit : ∃ s s', sampleRun sampleRecovery = .ok s ∧
    addColl sampleDeployment ⟨1, 150 * decimalPrecision, 2⟩ s decimalPrecision 0 0 = .ok s' ∧
    getTCR sampleDeployment s (150 * decimalPrecision) ≤
      getTCR sampleDeployment s' (150 * decimalPrecision) := by
  obtain ⟨s, hs, htcr, s', hs', -⟩ : ∃ s, sampleRun sampleRecovery = .ok s ∧
      getTCR sampleDeployment s (150 * decimalPrecision) < CCR ∧
      ∃ s', addColl sampleDeployment ⟨1, 150 * decimalPrecision, 2⟩ s decimalPrecision 0 0 =
        .ok s' ∧ True := by decide +kernel
  have himproves := recovery_mode_improves_iff (m := ⟨1, 150 * decimalPrecision, 2⟩)
    sampleDeployment_wired (reachable_sampleRun hs) (by decide +kernel) htcr
  exact ⟨s, s', hs, hs', ((himproves.2 1 _ s' hs').2 (fun h => absurd h Bool.false_ne_true)).tcr⟩

/-- One unit of debt does not change the rounded ratio of the first trove. -/
theorem recovery_mode_worsens : ∃ s s', Reachable sampleDeployment s ∧
    getTCR sampleDeployment s (150 * decimalPrecision) < CCR ∧
    withdrawUSDDFromTrove sampleDeployment ⟨1, 150 * decimalPrecision, 2⟩ s decimalPrecision 1 0 0 =
      .ok s' ∧
    getTCR sampleDeployment s' (150 * decimalPrecision) <
      getTCR sampleDeployment s (150 * decimalPrecision) := by
  obtain ⟨s, hs, htcr, s', hs', hlt⟩ : ∃ s, sampleRun sampleRecovery = .ok s ∧
      getTCR sampleDeployment s (150 * decimalPrecision) < CCR ∧
      ∃ s', withdrawUSDDFromTrove sampleDeployment ⟨1, 150 * decimalPrecision, 2⟩ s
        decimalPrecision 1 0 0 = .ok s' ∧
      getTCR sampleDeployment s' (150 * decimalPrecision) <
        getTCR sampleDeployment s (150 * decimalPrecision) := by decide +kernel
  exact ⟨s, s', reachable_sampleRun hs, htcr, hs', hlt⟩

end RecoveryMode

end Usdd

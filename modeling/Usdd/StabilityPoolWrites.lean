import Usdd.Lib.CompoundingStake
import Usdd.StabilityPool

/-!
# The writes to the Stability Pool

What each write to the storage of the Stability Pool amounts to. The product, the scale and the
epoch are the clock of the pool.
-/

open Transaction CompoundingStake

namespace Usdd

def Snapshots.clock (snapshots : Snapshots) : Clock :=
  ⟨snapshots.P, snapshots.scale, snapshots.epoch⟩

namespace StabilityPool

def clock (sp : StabilityPool) : Clock := ⟨sp.P, sp.currentScale, sp.currentEpoch⟩

variable {sp sp' : StabilityPool}

/-- What `payOutFrontEndGain` sends. -/
def owedToFrontEnd (sp : StabilityPool) (frontEnd : Address) : Tx ℕ :=
  if frontEnd ≠ 0 then getFrontEndDEFTGain sp frontEnd else pure 0

theorem addToSum_zero (sums : ℕ → ℕ → ℕ) (epoch scale : ℕ) :
    addToSum sums epoch scale 0 = sums := by
  simp [addToSum]

/-- An issuance that is spread over nobody counts as one at the rate zero. -/
theorem updateG_eq_ok {issuance : ℕ} (h : updateG sp issuance = .ok sp') :
    ∃ rate lastDEFTError,
      sp' = { sp with
        lastDEFTError := lastDEFTError
        epochToScaleToG :=
          addToSum sp.epochToScaleToG sp.currentEpoch sp.currentScale (rate * sp.P) } ∧
      rate * sp.totalUSDDDeposits + lastDEFTError ≤
        issuance * decimalPrecision + sp.lastDEFTError := by
  unfold updateG at h
  split_ifs at h with hz
  · refine ⟨0, sp.lastDEFTError, ?_, ?_⟩
    · rw [Nat.zero_mul, addToSum_zero]
      exact (pure_eq_ok.1 h).symm
    · rw [Nat.zero_mul, Nat.zero_add]
      exact Nat.le_add_left _ _
  · obtain ⟨rate, -, h⟩ := bind_eq_ok.1 h
    obtain ⟨lastDEFTError, herror, h⟩ := bind_eq_ok.1 h
    obtain ⟨hle, herror⟩ := sub_eq_ok.1 herror
    refine ⟨rate, lastDEFTError, (pure_eq_ok.1 h).symm, ?_⟩
    rw [← herror, Nat.add_sub_cancel' hle]

theorem updateG_totalUSDDDeposits {issuance : ℕ} (h : updateG sp issuance = .ok sp') :
    sp'.totalUSDDDeposits = sp.totalUSDDDeposits := by
  obtain ⟨_, _, rfl, -⟩ := updateG_eq_ok h
  rfl

theorem setTagOfNewDeposit_eq (sp : StabilityPool) (depositor frontEndTag : Address) :
    ∃ deposits, setTagOfNewDeposit sp depositor frontEndTag = { sp with deposits := deposits } ∧
      ∀ a, (deposits a).initialValue = (sp.deposits a).initialValue := by
  unfold setTagOfNewDeposit
  split_ifs with hz
  · refine ⟨_, rfl, fun a => ?_⟩
    by_cases ha : a = depositor
    · subst ha
      simp
    · simp [ha]
  · exact ⟨_, rfl, fun _ => rfl⟩

theorem setTagOfNewDeposit_totalUSDDDeposits (sp : StabilityPool) (depositor frontEndTag : Address) :
    (setTagOfNewDeposit sp depositor frontEndTag).totalUSDDDeposits = sp.totalUSDDDeposits := by
  obtain ⟨_, heq, -⟩ := setTagOfNewDeposit_eq sp depositor frontEndTag
  rw [heq]

theorem computeRewardsPerUnitStaked_eq_ok {coll debt total : ℕ} {r : RewardsPerUnitStaked}
    (h : computeRewardsPerUnitStaked sp coll debt total = .ok r) :
    debt ≤ total ∧ ∃ lossError collError,
      usddLossPerUnitStaked sp debt total = .ok (r.usddLossPerUnitStaked, lossError) ∧
      r.collGainPerUnitStaked * total + collError =
        coll * decimalPrecision + sp.lastCollErrorOffset ∧
      r.pool = { sp with
        lastUSDDLossErrorOffset := lossError
        lastCollErrorOffset := collError } := by
  obtain ⟨_, hle, h⟩ := bind_eq_ok.1 h
  obtain ⟨loss, hloss, h⟩ := bind_eq_ok.1 h
  obtain ⟨gain, -, h⟩ := bind_eq_ok.1 h
  obtain ⟨collError, hcollError, h⟩ := bind_eq_ok.1 h
  obtain ⟨hgain, hcollError⟩ := sub_eq_ok.1 hcollError
  cases pure_eq_ok.1 h
  refine ⟨assert_eq_ok.1 hle, _, _, hloss, ?_, rfl⟩
  dsimp only
  rw [← hcollError, Nat.add_sub_cancel' hgain]

theorem updateRewardSumAndProduct_eq_ok {gain loss : ℕ}
    (h : updateRewardSumAndProduct sp gain loss = .ok sp') :
    loss ≤ decimalPrecision ∧ 0 < sp'.P ∧
      sp' = updateProduct
        { sp with
          epochToScaleToSum :=
            addToSum sp.epochToScaleToSum sp.currentEpoch sp.currentScale (gain * sp.P) }
        (decimalPrecision - loss) := by
  obtain ⟨_, hle, h⟩ := bind_eq_ok.1 h
  obtain ⟨_, hf, h⟩ := bind_eq_ok.1 h
  obtain ⟨-, rfl⟩ := sub_eq_ok.1 hf
  obtain ⟨_, hpos, h⟩ := bind_eq_ok.1 h
  cases pure_eq_ok.1 h
  exact ⟨assert_eq_ok.1 hle, assert_eq_ok.1 hpos, rfl⟩

theorem updateProduct_eq_charge (sp : StabilityPool) (factor : ℕ) :
    updateProduct sp factor = { sp with
      P := (charge decimalPrecision scaleFactor sp.clock factor).product
      currentScale := (charge decimalPrecision scaleFactor sp.clock factor).scale
      currentEpoch := (charge decimalPrecision scaleFactor sp.clock factor).epoch } := by
  unfold updateProduct charge clock
  split_ifs <;> rfl

/-- The pool after the rewards and the loss of an offset. -/
theorem offset_eq_ok {coll debt : ℕ} {r : RewardsPerUnitStaked}
    (hr : computeRewardsPerUnitStaked sp coll debt sp.totalUSDDDeposits = .ok r)
    (hp : updateRewardSumAndProduct r.pool r.collGainPerUnitStaked r.usddLossPerUnitStaked =
      .ok sp') :
    r.usddLossPerUnitStaked ≤ decimalPrecision ∧ 0 < sp'.P ∧ ∃ lossError collError clock',
      clock' = charge decimalPrecision scaleFactor sp.clock
        (decimalPrecision - r.usddLossPerUnitStaked) ∧
      usddLossPerUnitStaked sp debt sp.totalUSDDDeposits =
        .ok (r.usddLossPerUnitStaked, lossError) ∧
      r.collGainPerUnitStaked * sp.totalUSDDDeposits + collError =
        coll * decimalPrecision + sp.lastCollErrorOffset ∧
      sp' = { sp with
        P := clock'.product
        currentScale := clock'.scale
        currentEpoch := clock'.epoch
        epochToScaleToSum := record sp.epochToScaleToSum sp.clock.epoch sp.clock.scale
          (r.collGainPerUnitStaked * sp.clock.product)
        lastUSDDLossErrorOffset := lossError
        lastCollErrorOffset := collError } := by
  obtain ⟨-, lossError, collError, hloss, hcoll, hpool⟩ := computeRewardsPerUnitStaked_eq_ok hr
  obtain ⟨hle, hpos, hsp⟩ := updateRewardSumAndProduct_eq_ok hp
  refine ⟨hle, hpos, lossError, collError, _, rfl, hloss, hcoll, ?_⟩
  rw [hsp, hpool, updateProduct_eq_charge]
  rfl

theorem updateProduct_totals (sp : StabilityPool) (factor : ℕ) :
    (updateProduct sp factor).totalUSDDDeposits = sp.totalUSDDDeposits ∧
      (updateProduct sp factor).coll = sp.coll := by
  unfold updateProduct
  split_ifs <;> exact ⟨rfl, rfl⟩

theorem updateFrontEndStakeAndSnapshots_eq (sp : StabilityPool) (frontEnd : Address)
    (newValue : ℕ) :
    updateFrontEndStakeAndSnapshots sp frontEnd newValue = { sp with
      frontEndStakes := Function.update sp.frontEndStakes frontEnd newValue
      frontEndSnapshots := Function.update sp.frontEndSnapshots frontEnd
        (if newValue = 0 then ⟨0, 0, 0, 0, 0⟩
        else { currentSnapshots sp with S := (sp.frontEndSnapshots frontEnd).S }) } := by
  unfold updateFrontEndStakeAndSnapshots
  split_ifs with hz
  · rw [hz]
  · rfl

theorem updateDepositAndSnapshots_eq (sp : StabilityPool) (depositor : Address) (newValue : ℕ) :
    updateDepositAndSnapshots sp depositor newValue = { sp with
      deposits := Function.update sp.deposits depositor
        ⟨newValue, if newValue = 0 then 0 else (sp.deposits depositor).frontEndTag⟩
      depositSnapshots := Function.update sp.depositSnapshots depositor
        (if newValue = 0 then ⟨0, 0, 0, 0, 0⟩ else currentSnapshots sp) } := by
  unfold updateDepositAndSnapshots
  split_ifs with hz
  · rw [hz]
  · rfl

/-- The pool after a deposit and the stake of its front end have been changed. -/
theorem changeDeposit_eq (sp : StabilityPool) (depositor frontEnd : Address)
    (deposit stake total coll : ℕ) :
    { updateDepositAndSnapshots (updateFrontEndStakeAndSnapshots sp frontEnd stake) depositor
        deposit with
      totalUSDDDeposits := total
      coll := coll } =
    { sp with
      totalUSDDDeposits := total
      coll := coll
      frontEndStakes := Function.update sp.frontEndStakes frontEnd stake
      frontEndSnapshots := Function.update sp.frontEndSnapshots frontEnd
        (if stake = 0 then ⟨0, 0, 0, 0, 0⟩
        else { currentSnapshots sp with S := (sp.frontEndSnapshots frontEnd).S })
      deposits := Function.update sp.deposits depositor
        ⟨deposit, if deposit = 0 then 0 else (sp.deposits depositor).frontEndTag⟩
      depositSnapshots := Function.update sp.depositSnapshots depositor
        (if deposit = 0 then ⟨0, 0, 0, 0, 0⟩ else currentSnapshots sp) } := by
  rw [updateDepositAndSnapshots_eq, updateFrontEndStakeAndSnapshots_eq]
  rfl

theorem updateFrontEndStakeAndSnapshots_totals (sp : StabilityPool) (frontEnd : Address)
    (newValue : ℕ) :
    (updateFrontEndStakeAndSnapshots sp frontEnd newValue).totalUSDDDeposits =
        sp.totalUSDDDeposits ∧
      (updateFrontEndStakeAndSnapshots sp frontEnd newValue).coll = sp.coll := by
  unfold updateFrontEndStakeAndSnapshots
  split_ifs <;> exact ⟨rfl, rfl⟩

theorem updateDepositAndSnapshots_totals (sp : StabilityPool) (depositor : Address)
    (newValue : ℕ) :
    (updateDepositAndSnapshots sp depositor newValue).totalUSDDDeposits = sp.totalUSDDDeposits ∧
      (updateDepositAndSnapshots sp depositor newValue).coll = sp.coll := by
  unfold updateDepositAndSnapshots
  split_ifs <;> exact ⟨rfl, rfl⟩

theorem updateDepositAndSnapshots_totalUSDDDeposits (sp : StabilityPool) (depositor : Address)
    (newValue total : ℕ) :
    updateDepositAndSnapshots { sp with totalUSDDDeposits := total } depositor newValue =
      { updateDepositAndSnapshots sp depositor newValue with totalUSDDDeposits := total } := by
  unfold updateDepositAndSnapshots
  split_ifs <;> rfl

end StabilityPool

end Usdd

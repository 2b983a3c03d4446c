import Usdd.PoolSolvency

/-!
# Collateral gains

What all depositors have gained, exactly and with the error that the next offset feeds back, is
covered by the collateral that the pool records. An offset adds to the gains what the exact deposits
earn at the rate per unit staked, which is no more than the collateral that comes in as long as the
total covers the exact deposits.
-/

open Transaction CompoundingStake

namespace Usdd

open StabilityPool

/-- The pool is solvent at every offset. -/
def JournalEntry.OffsetsSolventPool : JournalEntry → Prop
  | .offset sp _ => sp.Solvent
  | _ => True

namespace StabilityPool

def exactCollGain (sp : StabilityPool) (d : Address) : ℚ :=
  gain scaleFactor sp.epochToScaleToSum (sp.depositSnapshots d).S (sp.depositSnapshots d).clock
    (sp.deposits d).initialValue

def CollGainsCovered (sp : StabilityPool) : Prop :=
  ∑ d, sp.exactCollGain d + sp.lastCollErrorOffset ≤ sp.coll * (decimalPrecision : ℕ)

variable {sp sp' : StabilityPool} {d : Address} {v : ℕ}

theorem exactCollGain_of_initialValue_eq_zero (h : (sp.deposits d).initialValue = 0) :
    sp.exactCollGain d = 0 := by
  unfold exactCollGain
  rw [h, gain_zero]

theorem getDepositorCollGain_le (h : getDepositorCollGain sp d = .ok v) :
    (v : ℚ) * (decimalPrecision : ℕ) ≤ sp.exactCollGain d := by
  unfold getDepositorCollGain at h
  split_ifs at h with hz
  · rw [← pure_eq_ok.1 h, Nat.cast_zero, zero_mul]
    exact gain_nonneg _ _ _ _
  · exact getGainFromSnapshots_le h

theorem Timely.getDepositorCollGain_eq_ok (h : sp.Timely) (d : Address) :
    ∃ v, getDepositorCollGain sp d = .ok v := by
  unfold getDepositorCollGain
  split_ifs with hz
  · exact ⟨0, rfl⟩
  · exact getGainFromSnapshots_eq_ok (h.deposits d hz).clock.product (h.sums d hz) _

/-- The gains that the pool computes are covered when the exact ones are. -/
theorem CollGainsCovered.sum_le (h : sp.CollGainsCovered) {value : Address → ℕ}
    (hvalue : ∀ d, getDepositorCollGain sp d = .ok (value d)) : ∑ d, value d ≤ sp.coll := by
  have hdp : (0 : ℚ) < (decimalPrecision : ℕ) := Nat.cast_pos.2 unit_pos
  have hsum : (∑ d, (value d : ℚ)) * (decimalPrecision : ℕ) ≤ ∑ d, sp.exactCollGain d := by
    rw [Finset.sum_mul]
    exact Finset.sum_le_sum (fun d _ => getDepositorCollGain_le (hvalue d))
  have herror : (0 : ℚ) ≤ sp.lastCollErrorOffset := Nat.cast_nonneg _
  have hle : (∑ d, (value d : ℚ)) * (decimalPrecision : ℕ) ≤ sp.coll * (decimalPrecision : ℕ) := by
    unfold CollGainsCovered at h
    linarith
  exact_mod_cast le_of_mul_le_mul_right hle hdp

/-- What the deposits earn when an offset spreads collateral at a rate per unit staked. -/
theorem sum_exactCollGain_record_le (ht : sp.Timely) {rate : ℕ}
    (hdeposits : sp'.deposits = sp.deposits)
    (hsnapshots : sp'.depositSnapshots = sp.depositSnapshots)
    (hsums : sp'.epochToScaleToSum = record sp.epochToScaleToSum sp.clock.epoch sp.clock.scale
      (rate * sp.clock.product)) :
    ∑ d, sp'.exactCollGain d ≤ ∑ d, sp.exactCollGain d + rate * sp.exactTotal := by
  unfold exactTotal
  rw [Finset.mul_sum, ← Finset.sum_add_distrib]
  refine Finset.sum_le_sum (fun d _ => ?_)
  unfold exactCollGain exactDeposit exactStake
  rw [hdeposits, hsnapshots, hsums]
  by_cases hz : (sp.deposits d).initialValue = 0
  · rw [hz, gain_zero, gain_zero, share_zero, mul_zero, zero_add]
  · exact gain_record_le (ht.deposits d hz).clock base_pos (ht.sums d hz)

theorem exactCollGain_congr (hdeposits : (sp'.deposits d).initialValue =
      (sp.deposits d).initialValue) (hsnapshots : sp'.depositSnapshots d = sp.depositSnapshots d)
    (hsums : sp'.epochToScaleToSum = sp.epochToScaleToSum) :
    sp'.exactCollGain d = sp.exactCollGain d := by
  unfold exactCollGain
  rw [hdeposits, hsnapshots, hsums]

/-- A changed deposit starts without gain. -/
theorem exactCollGain_changeDeposit (ht : sp.Timely) (depositor frontEnd : Address)
    (deposit stake total coll : ℕ) (a : Address) :
    exactCollGain
      { updateDepositAndSnapshots (updateFrontEndStakeAndSnapshots sp frontEnd stake) depositor
          deposit with
        totalUSDDDeposits := total
        coll := coll } a = if a = depositor then 0 else sp.exactCollGain a := by
  rw [changeDeposit_eq]
  unfold exactCollGain
  dsimp only
  by_cases ha : a = depositor
  · rw [if_pos ha, ha, Function.update_self, Function.update_self]
    by_cases hz : deposit = 0
    · rw [hz, gain_zero]
    · rw [if_neg hz, if_neg hz]
      exact gain_self ht.unreachedSum _
  · rw [if_neg ha, Function.update_of_ne ha, Function.update_of_ne ha]

theorem CollGainsCovered.offset (h : sp.CollGainsCovered) (ht : sp.Timely) (hsolvent : sp.Solvent)
    {rate coll : ℕ} (hdeposits : sp'.deposits = sp.deposits)
    (hsnapshots : sp'.depositSnapshots = sp.depositSnapshots)
    (hsums : sp'.epochToScaleToSum = record sp.epochToScaleToSum sp.clock.epoch sp.clock.scale
      (rate * sp.clock.product)) (hcoll : sp'.coll = sp.coll + coll)
    (hrate : rate * sp.totalUSDDDeposits + sp'.lastCollErrorOffset =
      coll * decimalPrecision + sp.lastCollErrorOffset) : sp'.CollGainsCovered := by
  have hrate' : (rate : ℚ) * sp.totalUSDDDeposits + sp'.lastCollErrorOffset =
      coll * (decimalPrecision : ℕ) + sp.lastCollErrorOffset := by exact_mod_cast hrate
  have hearned : (rate : ℚ) * sp.exactTotal ≤ rate * sp.totalUSDDDeposits :=
    mul_le_mul_of_nonneg_left hsolvent (Nat.cast_nonneg _)
  have hsum := sum_exactCollGain_record_le ht hdeposits hsnapshots hsums
  unfold CollGainsCovered at h ⊢
  rw [hcoll, Nat.cast_add]
  linarith

theorem CollGainsCovered.changeDeposit (h : sp.CollGainsCovered) (ht : sp.Timely)
    (hgain : getDepositorCollGain sp d = .ok v) (hle : v ≤ sp.coll) (frontEnd : Address)
    (deposit stake total : ℕ) :
    CollGainsCovered
      { updateDepositAndSnapshots (updateFrontEndStakeAndSnapshots sp frontEnd stake) d deposit with
        totalUSDDDeposits := total
        coll := sp.coll - v } := by
  have hgains := exactCollGain_changeDeposit ht d frontEnd deposit stake total (sp.coll - v)
  have hself := hgains d
  rw [if_pos rfl] at hself
  have hsum := UpdateSum.sum_change d (g := sp.exactCollGain)
    (fun a ha => (hgains a).trans (if_neg ha))
  rw [hself, add_zero] at hsum
  have hpaid := getDepositorCollGain_le hgain
  have hcoll : ((sp.coll - v : ℕ) : ℚ) = sp.coll - v := Nat.cast_sub hle
  unfold CollGainsCovered at h ⊢
  rw [changeDeposit_eq] at hsum ⊢
  dsimp only
  rw [hcoll, sub_mul]
  linarith

end StabilityPool

variable {D : Deployment} {b b' : Book}

theorem StabilityPool.CollGainsCovered.event (ht : b.pool.Timely) (h : b.pool.CollGainsCovered)
    (hj : ∀ e ∈ b'.journal, e.OffsetsSolventPool) (he : Event D b b') :
    b'.pool.CollGainsCovered := by
  cases he with
  | @offsets debt coll rewards pool hpos hrewards hpool hdebt hcoll hsupply hdeposits husdd =>
      obtain ⟨-, -, lossError, collError, clock, -, -, hrate, rfl⟩ := offset_eq_ok hrewards hpool
      exact h.offset ht (hj _ (List.mem_cons_self ..)) rfl rfl rfl rfl hrate
  | issues hpool =>
      obtain ⟨rate, lastDEFTError, rfl, -⟩ := updateG_eq_ok hpool
      exact h
  | @tags depositor frontEndTag htag =>
      obtain ⟨deposits, heq, hsame⟩ := setTagOfNewDeposit_eq b.pool depositor frontEndTag
      have hgains (d : Address) :
          exactCollGain { b.pool with deposits := deposits } d = b.pool.exactCollGain d :=
        exactCollGain_congr (hsame d) rfl rfl
      show (setTagOfNewDeposit b.pool depositor frontEndTag).CollGainsCovered
      rw [heq]
      unfold CollGainsCovered
      rw [Finset.sum_congr rfl (fun d _ => hgains d)]
      exact h
  | changesDeposit hdeposit hstake hgain hwithdrawn hwithdrawn' hgain' =>
      exact h.changeDeposit ht hgain hgain' _ _ _ _
  | registers => exact h
  | _ => exact h

end Usdd

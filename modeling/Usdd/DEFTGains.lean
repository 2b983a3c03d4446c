import Usdd.FrontEnds
import Usdd.PoolSolvency

/-!
# DEFT gains

A deposit earns DEFT at the kickback rate of its front end, and the stake of the front end earns the
rest, so that one unit deposited counts once. What the weighted stakes have earned and what has been
paid out is covered by what has been issued, as long as the total of the pool covers the weighted
stakes.
-/

open Transaction CompoundingStake

namespace Usdd

open StabilityPool

namespace StabilityPool

/-- The fraction of the reward that goes to the depositor. -/
def depositorShare (sp : StabilityPool) (d : Address) : ℚ :=
  (if (sp.deposits d).frontEndTag = 0 then decimalPrecision
    else (sp.frontEnds (sp.deposits d).frontEndTag).kickbackRate : ℕ) / (decimalPrecision : ℕ)

/-- The fraction that goes to a front end. Nobody is paid for deposits without one. -/
def frontEndShare (sp : StabilityPool) (f : Address) : ℚ :=
  if f = 0 then 0
  else (decimalPrecision - (sp.frontEnds f).kickbackRate : ℕ) / (decimalPrecision : ℕ)

def exactDEFTGain (sp : StabilityPool) (d : Address) : ℚ :=
  gain scaleFactor sp.epochToScaleToG (sp.depositSnapshots d).G (sp.depositSnapshots d).clock
    (sp.deposits d).initialValue

def exactFrontEndDEFTGain (sp : StabilityPool) (f : Address) : ℚ :=
  gain scaleFactor sp.epochToScaleToG (sp.frontEndSnapshots f).G (sp.frontEndSnapshots f).clock
    (sp.frontEndStakes f)

/-- The stakes that earn DEFT, each with its share of the reward. -/
def rewardedTotal (sp : StabilityPool) : ℚ :=
  ∑ d, sp.depositorShare d * sp.exactDeposit d + ∑ f, sp.frontEndShare f * sp.exactFrontEndStake f

def exactDEFTOwed (sp : StabilityPool) : ℚ :=
  ∑ d, sp.depositorShare d * sp.exactDEFTGain d +
    ∑ f, sp.frontEndShare f * sp.exactFrontEndDEFTGain f

end StabilityPool

/-- The loss of each offset and the surplus over the rewarded stakes cover the debt. -/
def JournalEntry.LossCoversRewarded : JournalEntry → Prop
  | .offset sp debt => sp.LossCovers sp.rewardedTotal debt
  | _ => True

/-- The rewarded stakes are covered by the deposits, and what is owed and what has been paid out of
the initial `funds` by what has been issued. -/
structure Book.DEFTCovered (funds : ℕ) (b : Book) : Prop where
  stakes : b.pool.rewardedTotal ≤ b.pool.totalUSDDDeposits
  owed : b.pool.exactDEFTOwed + b.pool.lastDEFTError + (decimalPrecision : ℕ) * (funds : ℚ) ≤
    (decimalPrecision : ℕ) * (b.totalDEFTIssued + b.deft)

namespace StabilityPool

variable {sp sp' : StabilityPool} {d f : Address} {v : ℕ} {D : Deployment}

section Shares

theorem depositorShare_nonneg (sp : StabilityPool) (d : Address) : 0 ≤ sp.depositorShare d := by
  unfold depositorShare
  positivity

theorem frontEndShare_nonneg (sp : StabilityPool) (f : Address) : 0 ≤ sp.frontEndShare f := by
  unfold frontEndShare
  split_ifs
  · exact le_rfl
  · positivity

theorem depositorShare_congr (htag : (sp'.deposits d).frontEndTag = (sp.deposits d).frontEndTag)
    (hfrontEnds : sp'.frontEnds = sp.frontEnds) : sp'.depositorShare d = sp.depositorShare d := by
  unfold depositorShare
  rw [htag, hfrontEnds]

/-- Depositor and front end share the whole reward. -/
theorem depositorShare_add_frontEndShare (h : sp.FrontEndsRegistered D) (d : Address) :
    sp.depositorShare d + sp.frontEndShare (sp.deposits d).frontEndTag = 1 := by
  have hdp : ((decimalPrecision : ℕ) : ℚ) ≠ 0 := Nat.cast_ne_zero.2 unit_pos.ne'
  unfold depositorShare frontEndShare
  by_cases hz : (sp.deposits d).frontEndTag = 0
  · rw [if_pos hz, if_pos hz, div_self hdp, add_zero]
  · rw [if_neg hz, if_neg hz, ← add_div, ← Nat.cast_add,
      Nat.add_sub_cancel' (h.rate _), div_self hdp]

/-- The share of a gain, rounded down. -/
theorem floor_share_le {rate gain : ℕ} {exact : ℚ} (h : (gain : ℚ) * (decimalPrecision : ℕ) ≤ exact) :
    ((rate * gain / decimalPrecision : ℕ) : ℚ) * (decimalPrecision : ℕ) ≤
      rate / (decimalPrecision : ℕ) * exact := by
  have hdp : (0 : ℚ) < (decimalPrecision : ℕ) := Nat.cast_pos.2 unit_pos
  have hfloor : ((rate * gain / decimalPrecision : ℕ) : ℚ) * (decimalPrecision : ℕ) ≤
      rate * gain := by exact_mod_cast Nat.div_mul_le_self _ _
  rw [div_mul_eq_mul_div, le_div_iff₀ hdp]
  calc
    ((rate * gain / decimalPrecision : ℕ) : ℚ) * (decimalPrecision : ℕ) * (decimalPrecision : ℕ) ≤
        rate * gain * (decimalPrecision : ℕ) := mul_le_mul_of_nonneg_right hfloor hdp.le
    _ = rate * (gain * (decimalPrecision : ℕ)) := mul_assoc _ _ _
    _ ≤ rate * exact := mul_le_mul_of_nonneg_left h (Nat.cast_nonneg _)

theorem getDepositorDEFTGain_le (h : getDepositorDEFTGain sp d = .ok v) :
    (v : ℚ) * (decimalPrecision : ℕ) ≤ sp.depositorShare d * sp.exactDEFTGain d := by
  unfold getDepositorDEFTGain at h
  split_ifs at h with hz
  · rw [← pure_eq_ok.1 h, Nat.cast_zero, zero_mul]
    exact mul_nonneg (depositorShare_nonneg _ _) (gain_nonneg _ _ _ _)
  · obtain ⟨gain, hgain, h⟩ := bind_eq_ok.1 h
    rw [← pure_eq_ok.1 h]
    exact floor_share_le (getGainFromSnapshots_le hgain)

theorem Timely.getDepositorDEFTGain_eq_ok (h : sp.Timely) (d : Address) :
    ∃ v, getDepositorDEFTGain sp d = .ok v := by
  unfold getDepositorDEFTGain
  split_ifs with hz
  · exact ⟨0, rfl⟩
  · obtain ⟨gain, hgain⟩ := getGainFromSnapshots_eq_ok (h.deposits d hz).clock.product
      (h.deposits d hz).G (sp.deposits d).initialValue
    exact ⟨_, bind_eq_ok.2 ⟨gain, hgain, rfl⟩⟩

theorem getFrontEndDEFTGain_le (hf : f ≠ 0) (h : getFrontEndDEFTGain sp f = .ok v) :
    (v : ℚ) * (decimalPrecision : ℕ) ≤ sp.frontEndShare f * sp.exactFrontEndDEFTGain f := by
  unfold getFrontEndDEFTGain at h
  split_ifs at h with hz
  · rw [← pure_eq_ok.1 h, Nat.cast_zero, zero_mul]
    exact mul_nonneg (frontEndShare_nonneg _ _) (gain_nonneg _ _ _ _)
  · obtain ⟨rate, hrate, h⟩ := bind_eq_ok.1 h
    obtain ⟨-, rfl⟩ := sub_eq_ok.1 hrate
    obtain ⟨gain, hgain, h⟩ := bind_eq_ok.1 h
    rw [← pure_eq_ok.1 h, frontEndShare, if_neg hf]
    exact floor_share_le (getGainFromSnapshots_le hgain)

theorem Timely.getFrontEndDEFTGain_eq_ok (h : sp.Timely) (hrate : ∀ f,
    (sp.frontEnds f).kickbackRate ≤ decimalPrecision) (f : Address) :
    ∃ v, getFrontEndDEFTGain sp f = .ok v := by
  unfold getFrontEndDEFTGain
  split_ifs with hz
  · exact ⟨0, rfl⟩
  · obtain ⟨gain, hgain⟩ := getGainFromSnapshots_eq_ok (h.frontEnds f hz).clock.product
      (h.frontEnds f hz).G (sp.frontEndStakes f)
    exact ⟨_, bind_eq_ok.2 ⟨_, sub_eq_ok.2 ⟨hrate f, rfl⟩, bind_eq_ok.2 ⟨gain, hgain, rfl⟩⟩⟩

theorem owedToFrontEnd_le (h : owedToFrontEnd sp f = .ok v) :
    (v : ℚ) * (decimalPrecision : ℕ) ≤ sp.frontEndShare f * sp.exactFrontEndDEFTGain f := by
  unfold owedToFrontEnd at h
  split_ifs at h with hf
  · exact getFrontEndDEFTGain_le hf h
  · rw [← pure_eq_ok.1 h, Nat.cast_zero, zero_mul]
    exact mul_nonneg (frontEndShare_nonneg _ _) (gain_nonneg _ _ _ _)

end Shares

section Totals

theorem exactDEFTGain_of_initialValue_eq_zero (h : (sp.deposits d).initialValue = 0) :
    sp.exactDEFTGain d = 0 := by
  unfold exactDEFTGain
  rw [h, gain_zero]

/-- A loss takes from the rewarded stakes what it takes from every unit. -/
theorem rewardedTotal_charge_le (ht : sp.Timely) {factor : ℕ}
    (hdeposits : sp'.deposits = sp.deposits)
    (hsnapshots : sp'.depositSnapshots = sp.depositSnapshots)
    (hfrontEnds : sp'.frontEnds = sp.frontEnds)
    (hstakes : sp'.frontEndStakes = sp.frontEndStakes)
    (hstakeSnapshots : sp'.frontEndSnapshots = sp.frontEndSnapshots)
    (hclock : sp'.clock = charge decimalPrecision scaleFactor sp.clock factor) :
    sp'.rewardedTotal ≤ factor / (decimalPrecision : ℕ) * sp.rewardedTotal := by
  have hproduct : 0 < sp.clock.product := ht.product
  have hdeposit := sum_share_charge_le Finset.univ sp.depositorShare
    (fun d => (sp.depositSnapshots d).clock) (fun d => (sp.deposits d).initialValue) hproduct
    unit_pos base_pos (fun d _ => depositorShare_nonneg sp d)
    (fun d _ hd => (ht.deposits d hd).clock) factor
  have hstake := sum_share_charge_le Finset.univ sp.frontEndShare
    (fun f => (sp.frontEndSnapshots f).clock) sp.frontEndStakes hproduct unit_pos base_pos
    (fun f _ => frontEndShare_nonneg sp f) (fun f _ hf => (ht.frontEnds f hf).clock) factor
  rw [← hclock] at hdeposit hstake
  unfold rewardedTotal exactDeposit exactFrontEndStake exactStake depositorShare frontEndShare at *
  rw [hdeposits, hsnapshots, hfrontEnds, hstakes, hstakeSnapshots, mul_add]
  exact add_le_add hdeposit hstake

/-- What an issuance at a rate per unit staked adds to what is owed. -/
theorem exactDEFTOwed_record_le (ht : sp.Timely) {rate : ℕ}
    (hdeposits : sp'.deposits = sp.deposits)
    (hsnapshots : sp'.depositSnapshots = sp.depositSnapshots)
    (hfrontEnds : sp'.frontEnds = sp.frontEnds)
    (hstakes : sp'.frontEndStakes = sp.frontEndStakes)
    (hstakeSnapshots : sp'.frontEndSnapshots = sp.frontEndSnapshots)
    (hsums : sp'.epochToScaleToG = record sp.epochToScaleToG sp.clock.epoch sp.clock.scale
      (rate * sp.clock.product)) :
    sp'.exactDEFTOwed ≤ sp.exactDEFTOwed + rate * sp.rewardedTotal := by
  have hdeposit : ∑ d, sp'.depositorShare d * sp'.exactDEFTGain d ≤
      ∑ d, sp.depositorShare d * sp.exactDEFTGain d +
        rate * ∑ d, sp.depositorShare d * sp.exactDeposit d := by
    rw [Finset.mul_sum, ← Finset.sum_add_distrib]
    refine Finset.sum_le_sum (fun d _ => ?_)
    have hgain : sp'.exactDEFTGain d ≤ sp.exactDEFTGain d + rate * sp.exactDeposit d := by
      unfold exactDEFTGain exactDeposit exactStake
      rw [hdeposits, hsnapshots, hsums]
      by_cases hz : (sp.deposits d).initialValue = 0
      · rw [hz, gain_zero, gain_zero, share_zero, mul_zero, zero_add]
      · exact gain_record_le (ht.deposits d hz).clock base_pos (ht.deposits d hz).G
    have hshare : sp'.depositorShare d = sp.depositorShare d :=
      depositorShare_congr (by rw [hdeposits]) hfrontEnds
    rw [hshare, mul_left_comm, ← mul_add]
    exact mul_le_mul_of_nonneg_left hgain (depositorShare_nonneg _ _)
  have hstake : ∑ f, sp'.frontEndShare f * sp'.exactFrontEndDEFTGain f ≤
      ∑ f, sp.frontEndShare f * sp.exactFrontEndDEFTGain f +
        rate * ∑ f, sp.frontEndShare f * sp.exactFrontEndStake f := by
    rw [Finset.mul_sum, ← Finset.sum_add_distrib]
    refine Finset.sum_le_sum (fun f _ => ?_)
    have hgain : sp'.exactFrontEndDEFTGain f ≤
        sp.exactFrontEndDEFTGain f + rate * sp.exactFrontEndStake f := by
      unfold exactFrontEndDEFTGain exactFrontEndStake exactStake
      rw [hstakes, hstakeSnapshots, hsums]
      by_cases hz : sp.frontEndStakes f = 0
      · rw [hz, gain_zero, gain_zero, share_zero, mul_zero, zero_add]
      · exact gain_record_le (ht.frontEnds f hz).clock base_pos (ht.frontEnds f hz).G
    have hshare : sp'.frontEndShare f = sp.frontEndShare f := by
      unfold frontEndShare
      rw [hfrontEnds]
    rw [hshare, mul_left_comm, ← mul_add]
    exact mul_le_mul_of_nonneg_left hgain (frontEndShare_nonneg _ _)
  unfold exactDEFTOwed rewardedTotal
  rw [mul_add]
  linarith

end Totals

section Changes

/-- Shares of nothing do not count. -/
theorem rewarded_congr
    (hdeposit : ∀ a, (sp.deposits a).initialValue ≠ 0 → sp'.depositorShare a = sp.depositorShare a)
    (hstake : ∀ f, sp.frontEndStakes f ≠ 0 → sp'.frontEndShare f = sp.frontEndShare f)
    (hvalues : ∀ a, (sp'.deposits a).initialValue = (sp.deposits a).initialValue)
    (hsnapshots : sp'.depositSnapshots = sp.depositSnapshots)
    (hstakes : sp'.frontEndStakes = sp.frontEndStakes)
    (hstakeSnapshots : sp'.frontEndSnapshots = sp.frontEndSnapshots)
    (hclock : sp'.clock = sp.clock) (hsums : sp'.epochToScaleToG = sp.epochToScaleToG) :
    sp'.rewardedTotal = sp.rewardedTotal ∧ sp'.exactDEFTOwed = sp.exactDEFTOwed := by
  have hdeposits (a : Address) : sp'.exactDeposit a = sp.exactDeposit a := by
    unfold exactDeposit exactStake
    rw [hvalues, hsnapshots, hclock]
  have hfrontEnds (f : Address) : sp'.exactFrontEndStake f = sp.exactFrontEndStake f := by
    unfold exactFrontEndStake exactStake
    rw [hstakes, hstakeSnapshots, hclock]
  have hgains (a : Address) : sp'.exactDEFTGain a = sp.exactDEFTGain a := by
    unfold exactDEFTGain
    rw [hvalues, hsnapshots, hsums]
  have hfrontEndGains (f : Address) : sp'.exactFrontEndDEFTGain f = sp.exactFrontEndDEFTGain f := by
    unfold exactFrontEndDEFTGain
    rw [hstakes, hstakeSnapshots, hsums]
  unfold rewardedTotal exactDEFTOwed
  refine ⟨congrArg₂ _ (Finset.sum_congr rfl (fun a _ => ?_)) (Finset.sum_congr rfl (fun f _ => ?_)),
    congrArg₂ _ (Finset.sum_congr rfl (fun a _ => ?_)) (Finset.sum_congr rfl (fun f _ => ?_))⟩
  · rw [hdeposits]
    by_cases hz : (sp.deposits a).initialValue = 0
    · rw [exactDeposit_of_initialValue_eq_zero hz, mul_zero, mul_zero]
    · rw [hdeposit a hz]
  · rw [hfrontEnds]
    by_cases hz : sp.frontEndStakes f = 0
    · rw [exactFrontEndStake, hz, exactStake, share_zero, mul_zero, mul_zero]
    · rw [hstake f hz]
  · rw [hgains]
    by_cases hz : (sp.deposits a).initialValue = 0
    · rw [exactDEFTGain_of_initialValue_eq_zero hz, mul_zero, mul_zero]
    · rw [hdeposit a hz]
  · rw [hfrontEndGains]
    by_cases hz : sp.frontEndStakes f = 0
    · rw [exactFrontEndDEFTGain, hz, gain_zero, mul_zero, mul_zero]
    · rw [hstake f hz]

/-- A new tag is for an empty deposit. -/
theorem rewarded_setTagOfNewDeposit (sp : StabilityPool) (depositor frontEndTag : Address) :
    (setTagOfNewDeposit sp depositor frontEndTag).rewardedTotal = sp.rewardedTotal ∧
      (setTagOfNewDeposit sp depositor frontEndTag).exactDEFTOwed = sp.exactDEFTOwed := by
  unfold setTagOfNewDeposit
  split_ifs with hz
  · refine rewarded_congr (fun a ha => depositorShare_congr ?_ rfl) (fun _ _ => rfl) (fun a => ?_)
      rfl rfl rfl rfl rfl
    · have hne : a ≠ depositor := by
        rintro rfl
        exact ha hz
      rw [setFrontEndTag]
      dsimp only
      rw [Function.update_of_ne hne]
    · rw [setFrontEndTag]
      dsimp only
      by_cases ha : a = depositor
      · rw [ha, Function.update_self]
      · rw [Function.update_of_ne ha]
  · exact ⟨rfl, rfl⟩

/-- Nothing is staked for a front end before it registers. -/
theorem rewarded_register (h : sp.FrontEndsRegistered D)
    (hnew : (sp.frontEnds f).registered = false) (entry : FrontEnd) :
    rewardedTotal { sp with frontEnds := Function.update sp.frontEnds f entry } =
        sp.rewardedTotal ∧
      exactDEFTOwed { sp with frontEnds := Function.update sp.frontEnds f entry } =
        sp.exactDEFTOwed := by
  have hne {f' : Address} (hf : (sp.frontEnds f').registered = true) : f' ≠ f := by
    rintro rfl
    rw [hnew] at hf
    exact Bool.false_ne_true hf
  refine rewarded_congr (fun a _ => ?_) (fun f' hf => ?_) (fun _ => rfl) rfl rfl rfl rfl rfl
  · unfold depositorShare
    dsimp only
    rcases h.tag a with htag | htag
    · rw [Function.update_of_ne (hne htag)]
    · rw [if_pos htag, if_pos htag]
  · unfold frontEndShare
    dsimp only
    rcases h.stake f' hf with hreg | hz
    · rw [Function.update_of_ne (hne hreg)]
    · rw [if_pos hz, if_pos hz]

variable {depositor frontEnd : Address} {deposit stake total coll : ℕ}

theorem exactDEFTGain_changeDeposit (ht : sp.Timely) (depositor frontEnd : Address)
    (deposit stake total coll : ℕ) (a : Address) :
    exactDEFTGain
      { updateDepositAndSnapshots (updateFrontEndStakeAndSnapshots sp frontEnd stake) depositor
          deposit with
        totalUSDDDeposits := total
        coll := coll } a = if a = depositor then 0 else sp.exactDEFTGain a := by
  rw [changeDeposit_eq]
  unfold exactDEFTGain
  dsimp only
  by_cases ha : a = depositor
  · rw [if_pos ha, ha, Function.update_self, Function.update_self]
    by_cases hz : deposit = 0
    · rw [hz, gain_zero]
    · rw [if_neg hz, if_neg hz]
      exact gain_self ht.unreachedG _
  · rw [if_neg ha, Function.update_of_ne ha, Function.update_of_ne ha]

theorem exactFrontEndDEFTGain_changeDeposit (ht : sp.Timely) (depositor frontEnd : Address)
    (deposit stake total coll : ℕ) (f : Address) :
    exactFrontEndDEFTGain
      { updateDepositAndSnapshots (updateFrontEndStakeAndSnapshots sp frontEnd stake) depositor
          deposit with
        totalUSDDDeposits := total
        coll := coll } f = if f = frontEnd then 0 else sp.exactFrontEndDEFTGain f := by
  rw [changeDeposit_eq]
  unfold exactFrontEndDEFTGain
  dsimp only
  by_cases hf : f = frontEnd
  · rw [if_pos hf, hf, Function.update_self, Function.update_self]
    by_cases hz : stake = 0
    · rw [hz, gain_zero]
    · rw [if_neg hz]
      exact gain_self ht.unreachedG _
  · rw [if_neg hf, Function.update_of_ne hf, Function.update_of_ne hf]

/-- Only the share of a deposit that is emptied changes. -/
theorem depositorShare_changeDeposit {a : Address} (ha : a ≠ depositor ∨ deposit ≠ 0) :
    depositorShare
      { updateDepositAndSnapshots (updateFrontEndStakeAndSnapshots sp frontEnd stake) depositor
          deposit with
        totalUSDDDeposits := total
        coll := coll } a = sp.depositorShare a := by
  rw [changeDeposit_eq]
  refine depositorShare_congr ?_ rfl
  dsimp only
  by_cases had : a = depositor
  · rw [had, Function.update_self]
    exact if_neg (ha.resolve_left (fun h => h had))
  · rw [Function.update_of_ne had]

theorem frontEndShare_changeDeposit (f : Address) :
    frontEndShare
      { updateDepositAndSnapshots (updateFrontEndStakeAndSnapshots sp frontEnd stake) depositor
          deposit with
        totalUSDDDeposits := total
        coll := coll } f = sp.frontEndShare f := by
  rw [changeDeposit_eq]
  rfl

/-- The rewarded stakes move with the deposit and the stake of its front end. -/
theorem rewardedTotal_changeDeposit (hP : 0 < sp.P) (depositor frontEnd : Address)
    (deposit stake total coll : ℕ) :
    rewardedTotal
      { updateDepositAndSnapshots (updateFrontEndStakeAndSnapshots sp frontEnd stake) depositor
          deposit with
        totalUSDDDeposits := total
        coll := coll } + (sp.depositorShare depositor * sp.exactDeposit depositor +
        sp.frontEndShare frontEnd * sp.exactFrontEndStake frontEnd) =
      sp.rewardedTotal + (sp.depositorShare depositor * deposit + sp.frontEndShare frontEnd * stake) := by
  obtain ⟨sp', hsp'⟩ : ∃ sp', sp' = { updateDepositAndSnapshots (updateFrontEndStakeAndSnapshots sp
      frontEnd stake) depositor deposit with
        totalUSDDDeposits := total
        coll := coll } := ⟨_, rfl⟩
  have hexact (a : Address) : sp'.exactDeposit a = if a = depositor then (deposit : ℚ)
      else sp.exactDeposit a := by
    rw [hsp']
    exact exactDeposit_changeDeposit hP _ _ _ _ _ _ _
  have hstake (f : Address) : sp'.exactFrontEndStake f = if f = frontEnd then (stake : ℚ)
      else sp.exactFrontEndStake f := by
    rw [hsp']
    exact exactFrontEndStake_changeDeposit hP _ _ _ _ _ _ _
  have hshare (a : Address) (ha : a ≠ depositor ∨ deposit ≠ 0) :
      sp'.depositorShare a = sp.depositorShare a := by
    rw [hsp']
    exact depositorShare_changeDeposit ha
  have hshare' (f : Address) : sp'.frontEndShare f = sp.frontEndShare f := by
    rw [hsp']
    exact frontEndShare_changeDeposit f
  have hself : sp'.depositorShare depositor * sp'.exactDeposit depositor =
      sp.depositorShare depositor * deposit := by
    rw [hexact, if_pos rfl]
    by_cases hz : deposit = 0
    · rw [hz, Nat.cast_zero, mul_zero, mul_zero]
    · rw [hshare _ (Or.inr hz)]
  have hd := UpdateSum.sum_change (f := fun a => sp'.depositorShare a * sp'.exactDeposit a)
    (g := fun a => sp.depositorShare a * sp.exactDeposit a) depositor
    (fun a ha => by rw [hshare a (Or.inl ha), hexact, if_neg ha])
  have hf := UpdateSum.sum_change (f := fun f => sp'.frontEndShare f * sp'.exactFrontEndStake f)
    (g := fun f => sp.frontEndShare f * sp.exactFrontEndStake f) frontEnd
    (fun f hf => by rw [hshare' f, hstake, if_neg hf])
  rw [hself] at hd
  rw [hshare', hstake, if_pos rfl] at hf
  rw [← hsp']
  unfold rewardedTotal
  linarith

/-- The changed deposit and its front end start without gain. -/
theorem exactDEFTOwed_changeDeposit (ht : sp.Timely) (depositor frontEnd : Address)
    (deposit stake total coll : ℕ) :
    exactDEFTOwed
      { updateDepositAndSnapshots (updateFrontEndStakeAndSnapshots sp frontEnd stake) depositor
          deposit with
        totalUSDDDeposits := total
        coll := coll } + (sp.depositorShare depositor * sp.exactDEFTGain depositor +
        sp.frontEndShare frontEnd * sp.exactFrontEndDEFTGain frontEnd) = sp.exactDEFTOwed := by
  obtain ⟨sp', hsp'⟩ : ∃ sp', sp' = { updateDepositAndSnapshots (updateFrontEndStakeAndSnapshots sp
      frontEnd stake) depositor deposit with
        totalUSDDDeposits := total
        coll := coll } := ⟨_, rfl⟩
  have hgain (a : Address) : sp'.exactDEFTGain a = if a = depositor then 0
      else sp.exactDEFTGain a := by
    rw [hsp']
    exact exactDEFTGain_changeDeposit ht _ _ _ _ _ _ _
  have hgain' (f : Address) : sp'.exactFrontEndDEFTGain f = if f = frontEnd then 0
      else sp.exactFrontEndDEFTGain f := by
    rw [hsp']
    exact exactFrontEndDEFTGain_changeDeposit ht _ _ _ _ _ _ _
  have hshare (a : Address) (ha : a ≠ depositor) :
      sp'.depositorShare a = sp.depositorShare a := by
    rw [hsp']
    exact depositorShare_changeDeposit (Or.inl ha)
  have hshare' (f : Address) : sp'.frontEndShare f = sp.frontEndShare f := by
    rw [hsp']
    exact frontEndShare_changeDeposit f
  have hd := UpdateSum.sum_change (f := fun a => sp'.depositorShare a * sp'.exactDEFTGain a)
    (g := fun a => sp.depositorShare a * sp.exactDEFTGain a) depositor
    (fun a ha => by rw [hshare a ha, hgain, if_neg ha])
  have hf := UpdateSum.sum_change (f := fun f => sp'.frontEndShare f * sp'.exactFrontEndDEFTGain f)
    (g := fun f => sp.frontEndShare f * sp.exactFrontEndDEFTGain f) frontEnd
    (fun f hf => by rw [hshare' f, hgain', if_neg hf])
  rw [hgain, if_pos rfl, mul_zero, add_zero] at hd
  rw [hgain', if_pos rfl, mul_zero, add_zero] at hf
  rw [← hsp']
  unfold exactDEFTOwed
  linarith

end Changes

end StabilityPool

variable {D : Deployment} {b b' : Book} {funds : ℕ}

section Issuance

/-- The gains that the pool computes are covered when the exact ones are. -/
theorem Book.DEFTCovered.sum_le (h : b.DEFTCovered funds) {gain frontEndGain : Address → ℕ}
    (hgain : ∀ d, getDepositorDEFTGain b.pool d = .ok (gain d))
    (hfrontEndGain : ∀ f, getFrontEndDEFTGain b.pool f = .ok (frontEndGain f)) :
    funds + ∑ d, gain d + ∑ f with f ≠ 0, frontEndGain f ≤ b.totalDEFTIssued + b.deft := by
  have hdp : (0 : ℚ) < (decimalPrecision : ℕ) := Nat.cast_pos.2 unit_pos
  have hdeposits : (∑ d, (gain d : ℚ)) * (decimalPrecision : ℕ) ≤
      ∑ d, b.pool.depositorShare d * b.pool.exactDEFTGain d := by
    rw [Finset.sum_mul]
    exact Finset.sum_le_sum (fun d _ => getDepositorDEFTGain_le (hgain d))
  have hfrontEnds : (∑ f with f ≠ 0, (frontEndGain f : ℚ)) * (decimalPrecision : ℕ) ≤
      ∑ f, b.pool.frontEndShare f * b.pool.exactFrontEndDEFTGain f := by
    rw [Finset.sum_mul]
    calc
      ∑ f with f ≠ 0, (frontEndGain f : ℚ) * (decimalPrecision : ℕ) ≤
          ∑ f with f ≠ 0, b.pool.frontEndShare f * b.pool.exactFrontEndDEFTGain f :=
        Finset.sum_le_sum (fun f hf =>
          getFrontEndDEFTGain_le (Finset.mem_filter.1 hf).2 (hfrontEndGain f))
      _ ≤ ∑ f, b.pool.frontEndShare f * b.pool.exactFrontEndDEFTGain f :=
        Finset.sum_le_sum_of_subset_of_nonneg (Finset.subset_univ _) (fun f _ _ =>
          mul_nonneg (frontEndShare_nonneg _ _) (gain_nonneg _ _ _ _))
  have herror : (0 : ℚ) ≤ b.pool.lastDEFTError := Nat.cast_nonneg _
  have howed := h.owed
  unfold exactDEFTOwed at howed
  have hle : (funds + ∑ d, (gain d : ℚ) + ∑ f with f ≠ 0, (frontEndGain f : ℚ)) *
      (decimalPrecision : ℕ) ≤ (b.totalDEFTIssued + b.deft) * (decimalPrecision : ℕ) := by
    rw [add_mul, add_mul]
    linarith
  exact_mod_cast le_of_mul_le_mul_right hle hdp

theorem Book.DEFTCovered.issue (h : b.DEFTCovered funds) (ht : b.pool.Timely)
    {rate issuance lastDEFTError : ℕ} {sp' : StabilityPool}
    (hsp' : sp' = { b.pool with
      lastDEFTError := lastDEFTError
      epochToScaleToG := record b.pool.epochToScaleToG b.pool.clock.epoch b.pool.clock.scale
        (rate * b.pool.clock.product) })
    (hrate : rate * b.pool.totalUSDDDeposits + lastDEFTError ≤
      issuance * decimalPrecision + b.pool.lastDEFTError) :
    Book.DEFTCovered funds { b with
      pool := sp'
      totalDEFTIssued := b.totalDEFTIssued + issuance } := by
  have hrewarded : sp'.rewardedTotal = b.pool.rewardedTotal := by
    rw [hsp']
    rfl
  have htotal : sp'.totalUSDDDeposits = b.pool.totalUSDDDeposits := by rw [hsp']
  have howed : sp'.exactDEFTOwed ≤ b.pool.exactDEFTOwed + rate * b.pool.rewardedTotal := by
    rw [hsp']
    exact exactDEFTOwed_record_le ht rfl rfl rfl rfl rfl rfl
  have herror : sp'.lastDEFTError = lastDEFTError := by rw [hsp']
  refine ⟨?_, ?_⟩
  · rw [hrewarded, htotal]
    exact h.stakes
  · have hrate' : (rate : ℚ) * b.pool.totalUSDDDeposits + lastDEFTError ≤
        issuance * (decimalPrecision : ℕ) + b.pool.lastDEFTError := by exact_mod_cast hrate
    have hearned : (rate : ℚ) * b.pool.rewardedTotal ≤ rate * b.pool.totalUSDDDeposits :=
      mul_le_mul_of_nonneg_left h.stakes (Nat.cast_nonneg _)
    have hbefore := h.owed
    rw [herror, Nat.cast_add]
    linarith

/-- What is paid out is no longer owed, and what is withdrawn no longer earns. -/
theorem Book.DEFTCovered.changeDeposit (h : b.DEFTCovered funds) (ht : b.pool.Timely)
    (hfrontEnds : b.pool.FrontEndsRegistered D) {depositor f : Address}
    (hf : f = (b.pool.deposits depositor).frontEndTag)
    {deposit stake provided withdrawn depositorDEFTGain frontEndDEFTGain coll : ℕ}
    (hdeposit : getCompoundedUSDDDeposit b.pool depositor = .ok deposit)
    (hstake : getCompoundedFrontEndStake b.pool f = .ok stake)
    (hwithdrawn : withdrawn ≤ deposit) (hwithdrawn' : withdrawn ≤ stake)
    (hdeposits : withdrawn ≤ b.pool.totalUSDDDeposits)
    (hdepositorDEFT : getDepositorDEFTGain b.pool depositor = .ok depositorDEFTGain)
    (hfrontEndDEFT : owedToFrontEnd b.pool f = .ok frontEndDEFTGain)
    (hdeft : frontEndDEFTGain + depositorDEFTGain ≤ b.deft) {b' : Book}
    (hpool : b'.pool = { updateDepositAndSnapshots (updateFrontEndStakeAndSnapshots b.pool f
        (stake + provided - withdrawn)) depositor (deposit + provided - withdrawn) with
      totalUSDDDeposits := b.pool.totalUSDDDeposits + provided - withdrawn
      coll := coll })
    (hissued : b'.totalDEFTIssued = b.totalDEFTIssued)
    (hpaid : b'.deft = b.deft - (frontEndDEFTGain + depositorDEFTGain)) :
    b'.DEFTCovered funds := by
  have hshares := depositorShare_add_frontEndShare hfrontEnds depositor
  rw [← hf] at hshares
  have hrewarded := rewardedTotal_changeDeposit ht.product depositor f
    (deposit + provided - withdrawn) (stake + provided - withdrawn)
    (b.pool.totalUSDDDeposits + provided - withdrawn) coll
  have howed := exactDEFTOwed_changeDeposit ht depositor f
    (deposit + provided - withdrawn) (stake + provided - withdrawn)
    (b.pool.totalUSDDDeposits + provided - withdrawn) coll
  rw [← hpool] at hrewarded howed
  have htotal : b'.pool.totalUSDDDeposits = b.pool.totalUSDDDeposits + provided - withdrawn := by
    rw [hpool]
  have herror : b'.pool.lastDEFTError = b.pool.lastDEFTError := by
    rw [hpool, changeDeposit_eq]
  refine ⟨?_, ?_⟩
  · have hd := mul_le_mul_of_nonneg_left (getCompoundedUSDDDeposit_le hdeposit)
      (depositorShare_nonneg b.pool depositor)
    have hs := mul_le_mul_of_nonneg_left (getCompoundedFrontEndStake_le hstake)
      (frontEndShare_nonneg b.pool f)
    have hchange : b.pool.depositorShare depositor * (provided - withdrawn : ℚ) +
        b.pool.frontEndShare f * (provided - withdrawn : ℚ) = provided - withdrawn := by
      rw [← add_mul, hshares, one_mul]
    have hbefore := h.stakes
    rw [htotal, Nat.cast_sub (hdeposits.trans (Nat.le_add_right _ _)), Nat.cast_add]
    rw [Nat.cast_sub (hwithdrawn.trans (Nat.le_add_right _ _)), Nat.cast_add,
      Nat.cast_sub (hwithdrawn'.trans (Nat.le_add_right _ _)), Nat.cast_add, add_sub_assoc,
      add_sub_assoc, mul_add, mul_add] at hrewarded
    linarith
  · have hd := getDepositorDEFTGain_le hdepositorDEFT
    have hs := owedToFrontEnd_le hfrontEndDEFT
    have hbefore := h.owed
    rw [herror, hissued, hpaid, Nat.cast_sub hdeft, Nat.cast_add]
    linarith

theorem Book.DEFTCovered.event (ht : b.pool.Timely) (hfrontEnds : b.pool.FrontEndsRegistered D)
    (h : b.DEFTCovered funds) (hj : ∀ e ∈ b'.journal, e.LossCoversRewarded) (he : Event D b b') :
    b'.DEFTCovered funds := by
  cases he with
  | @offsets debt coll rewards pool hpos hrewards hpool hdebt hcoll hsupply hdeposits husdd =>
      have hcovers : b.pool.LossCovers b.pool.rewardedTotal debt := hj _ (List.mem_cons_self ..)
      obtain ⟨hle, -, lossError, collError, clock, hclock, hloss, -, rfl⟩ :=
        offset_eq_ok hrewards hpool
      refine ⟨(le_sub_of_lossCovers hloss hle ?_ hcovers).trans_eq (Nat.cast_sub hdeposits).symm,
        h.owed⟩
      exact rewardedTotal_charge_le ht rfl rfl rfl rfl rfl hclock
  | issues hpool =>
      obtain ⟨rate, lastDEFTError, hsp', hrate⟩ := updateG_eq_ok hpool
      exact h.issue ht hsp' hrate
  | @tags depositor frontEndTag htag =>
      obtain ⟨deposits, heq, -⟩ := setTagOfNewDeposit_eq b.pool depositor frontEndTag
      obtain ⟨hrewarded, howed⟩ := rewarded_setTagOfNewDeposit b.pool depositor frontEndTag
      rw [heq] at hrewarded howed ⊢
      exact ⟨hrewarded.trans_le h.stakes, by
        dsimp only
        rw [howed]
        exact h.owed⟩
  | changesDeposit hdeposit hstake hgain hwithdrawn hwithdrawn' hgain' hdepositorDEFT hfrontEndDEFT
      hdeft hdeposits husdd =>
      exact h.changeDeposit ht hfrontEnds rfl hdeposit hstake hwithdrawn hwithdrawn' hdeposits
        hdepositorDEFT hfrontEndDEFT hdeft rfl rfl rfl
  | registers hfrontEnd hnew hrate =>
      obtain ⟨hrewarded, howed⟩ := rewarded_register hfrontEnds hnew ⟨_, true⟩
      exact ⟨hrewarded.trans_le h.stakes, by
        dsimp only
        rw [howed]
        exact h.owed⟩
  | _ => exact ⟨h.stakes, h.owed⟩

end Issuance

end Usdd

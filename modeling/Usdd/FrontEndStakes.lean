import Usdd.PoolSolvency

/-!
# The stakes of the front ends

What is left of a stake is its exact value until it is spent: it is worth less than one unit or less
than the cutoff of a billionth of what was recorded, or two changes of scale or an epoch have passed.
A compounded stake is what is left of it, rounded down. The stake of a front end covers what is left
of the deposits tagged with it as long as each change of a deposit rounds the stake down by no more
than the deposit and what the stake is ahead, and no offset spends a stake before the deposits.
-/

open Transaction CompoundingStake

namespace Usdd

open StabilityPool

namespace StabilityPool

def Spent (sp : StabilityPool) (stake : ℕ) (snapshots : Snapshots) : Prop :=
  snapshots.epoch < sp.currentEpoch ∨ 2 ≤ sp.currentScale - snapshots.scale ∨
    sp.exactStake stake snapshots < (max 1 (stake / scaleFactor) : ℕ)

instance (sp : StabilityPool) (stake : ℕ) (snapshots : Snapshots) :
    Decidable (sp.Spent stake snapshots) := inferInstanceAs (Decidable (_ ∨ _ ∨ _))

def unspent (sp : StabilityPool) (stake : ℕ) (snapshots : Snapshots) : ℚ :=
  if sp.Spent stake snapshots then 0 else sp.exactStake stake snapshots

def unspentDeposit (sp : StabilityPool) (d : Address) : ℚ :=
  sp.unspent (sp.deposits d).initialValue (sp.depositSnapshots d)

def unspentFrontEndStake (sp : StabilityPool) (f : Address) : ℚ :=
  sp.unspent (sp.frontEndStakes f) (sp.frontEndSnapshots f)

def taggedWith (sp : StabilityPool) (f : Address) : Finset Address :=
  {d | (sp.deposits d).frontEndTag = f}

/-- The stake, rounded down, covers the deposit, rounded down, and what is left of the others. -/
def StakeCoversChange (sp : StabilityPool) (depositor : Address) : Prop :=
  let f := (sp.deposits depositor).frontEndTag
  ⌊sp.unspentDeposit depositor⌋₊ + ∑ d ∈ (sp.taggedWith f).erase depositor, sp.unspentDeposit d ≤
    ⌊sp.unspentFrontEndStake f⌋₊

/-- A stake that is spent has only deposits that are. -/
def SpentTogether (sp : StabilityPool) : Prop :=
  ∀ d, let f := (sp.deposits d).frontEndTag
    sp.Spent (sp.frontEndStakes f) (sp.frontEndSnapshots f) →
      sp.Spent (sp.deposits d).initialValue (sp.depositSnapshots d)

/-- The pool after the loss of an offset. -/
def afterLoss (sp : StabilityPool) (debt : ℕ) : StabilityPool :=
  updateProduct sp (decimalPrecision -
    if debt = sp.totalUSDDDeposits then decimalPrecision else sp.partialLoss debt)

def FrontEndsCover (sp : StabilityPool) : Prop :=
  ∀ f, ∑ d ∈ sp.taggedWith f, sp.unspentDeposit d ≤ sp.unspentFrontEndStake f

end StabilityPool

def JournalEntry.KeepsFrontEndsCovered : JournalEntry → Prop
  | .offset sp debt => (sp.afterLoss debt).SpentTogether
  | .changeDeposit sp depositor => sp.StakeCoversChange depositor
  | _ => True

namespace StabilityPool

variable {sp sp' : StabilityPool} {snapshots : Snapshots} {d f depositor : Address}
  {v stake deposit debt : ℕ}

section Rounding

theorem lt_compoundAtScale_add_one {snapshotP diff : ℕ} (hP : 0 < snapshotP) (hdiff : diff < 2)
    (h : compoundAtScale sp stake snapshotP diff = .ok v) :
    stake * sp.P / (snapshotP * (scaleFactor : ℚ) ^ diff) < v + 1 := by
  have hp : (0 : ℚ) < snapshotP := Nat.cast_pos.2 hP
  have hb : (0 : ℚ) < scaleFactor := Nat.cast_pos.2 base_pos
  unfold compoundAtScale at h
  split_ifs at h with h₀ h₁
  · obtain ⟨-, rfl⟩ := div_eq_ok.1 h
    have hlt := Nat.lt_mul_div_succ (stake * sp.P) hP
    rw [h₀, pow_zero, mul_one, div_lt_iff₀ hp, mul_comm ((_ : ℚ) + 1)]
    exact_mod_cast hlt
  · obtain ⟨w, hw, h⟩ := bind_eq_ok.1 h
    obtain ⟨-, rfl⟩ := div_eq_ok.1 hw
    rw [← pure_eq_ok.1 h, Nat.div_div_eq_div_mul, h₁, pow_one, div_lt_iff₀ (mul_pos hp hb),
      mul_comm ((_ : ℚ) + 1)]
    exact_mod_cast Nat.lt_mul_div_succ (stake * sp.P) (Nat.mul_pos hP base_pos)
  · omega

theorem unspent_nonneg (sp : StabilityPool) (stake : ℕ) (snapshots : Snapshots) :
    0 ≤ sp.unspent stake snapshots := by
  unfold unspent
  split_ifs
  · exact le_rfl
  · exact exactStake_nonneg _ _ _

theorem unspent_le (sp : StabilityPool) (stake : ℕ) (snapshots : Snapshots) :
    sp.unspent stake snapshots ≤ sp.exactStake stake snapshots := by
  unfold unspent
  split_ifs
  · exact exactStake_nonneg _ _ _
  · exact le_rfl

theorem unspent_of_spent (h : sp.Spent stake snapshots) : sp.unspent stake snapshots = 0 :=
  if_pos h

theorem unspent_of_lt_one (h : sp.exactStake stake snapshots < 1) :
    sp.unspent stake snapshots = 0 := by
  refine unspent_of_spent (Or.inr (Or.inr (h.trans_le ?_)))
  exact_mod_cast le_max_left _ _

theorem unspent_zero (sp : StabilityPool) (snapshots : Snapshots) : sp.unspent 0 snapshots = 0 := by
  refine unspent_of_lt_one ?_
  rw [exactStake, share_zero]
  exact zero_lt_one

/-- A compounded stake is what is left of it, rounded down. -/
theorem floor_unspent (hP : 0 < snapshots.P)
    (h : getCompoundedStakeFromSnapshots sp stake snapshots = .ok v) :
    ⌊sp.unspent stake snapshots⌋₊ = v := by
  have hle := getCompoundedStakeFromSnapshots_le h
  unfold getCompoundedStakeFromSnapshots at h
  split_ifs at h with he
  · rw [unspent_of_spent (Or.inl he), Nat.floor_zero]
    exact pure_eq_ok.1 h
  · obtain ⟨diff, hdiff, h⟩ := bind_eq_ok.1 h
    obtain ⟨-, rfl⟩ := sub_eq_ok.1 hdiff
    obtain ⟨w, hw, h⟩ := bind_eq_ok.1 h
    by_cases hscale : 2 ≤ sp.currentScale - snapshots.scale
    · have hw0 : w = 0 := by
        rw [compoundAtScale, if_neg (by omega), if_neg (by omega)] at hw
        exact (pure_eq_ok.1 hw).symm
      have hv : v = 0 := by
        split_ifs at h
        · exact (pure_eq_ok.1 h).symm
        · exact (pure_eq_ok.1 h).symm.trans hw0
      rw [unspent_of_spent (Or.inr (Or.inl hscale)), Nat.floor_zero, hv]
    · have hexact : sp.exactStake stake snapshots = stake * sp.P /
          (snapshots.P * (scaleFactor : ℚ) ^ (sp.currentScale - snapshots.scale)) := if_neg he
      have hlt : sp.exactStake stake snapshots < (w + 1 : ℕ) := by
        rw [hexact, Nat.cast_succ]
        exact lt_compoundAtScale_add_one hP (by omega) hw
      split_ifs at h with hcut
      · have hspent : sp.Spent stake snapshots := by
          refine Or.inr (Or.inr (hlt.trans_le ?_))
          exact_mod_cast (Nat.succ_le_of_lt hcut).trans (le_max_right _ _)
        rw [unspent_of_spent hspent, Nat.floor_zero]
        exact pure_eq_ok.1 h
      · have hwv : w = v := pure_eq_ok.1 h
        subst hwv
        unfold unspent
        split_ifs with hspent
        · have hsmall := (hspent.resolve_left he).resolve_left hscale
          have hlt' : w < max 1 (stake / scaleFactor) := by exact_mod_cast hle.trans_lt hsmall
          have hcut' : ¬ w < stake / scaleFactor := hcut
          rw [Nat.floor_zero]
          omega
        · rw [Nat.floor_eq_iff (exactStake_nonneg _ _ _)]
          exact ⟨hle, by exact_mod_cast hlt⟩

theorem Timely.floor_unspentDeposit (h : sp.Timely) (hv : getCompoundedUSDDDeposit sp d = .ok v) :
    ⌊sp.unspentDeposit d⌋₊ = v := by
  unfold getCompoundedUSDDDeposit at hv
  split_ifs at hv with hz
  · rw [unspentDeposit, hz, unspent_zero, Nat.floor_zero]
    exact pure_eq_ok.1 hv
  · exact floor_unspent (h.deposits d hz).clock.product hv

theorem Timely.floor_unspentFrontEndStake (h : sp.Timely)
    (hv : getCompoundedFrontEndStake sp f = .ok v) : ⌊sp.unspentFrontEndStake f⌋₊ = v := by
  unfold getCompoundedFrontEndStake at hv
  split_ifs at hv with hz
  · rw [unspentFrontEndStake, hz, unspent_zero, Nat.floor_zero]
    exact pure_eq_ok.1 hv
  · exact floor_unspent (h.frontEnds f hz).clock.product hv

end Rounding

/-- The compounded stake covers the compounded deposits when what is left of it does. -/
theorem FrontEndsCover.sum_le (h : sp.FrontEndsCover) (ht : sp.Timely) {value : Address → ℕ}
    (hvalue : ∀ d, getCompoundedUSDDDeposit sp d = .ok (value d))
    (hstake : getCompoundedFrontEndStake sp f = .ok stake) :
    ∑ d ∈ sp.taggedWith f, value d ≤ stake := by
  have hsum : ((∑ d ∈ sp.taggedWith f, value d : ℕ) : ℚ) ≤
      ∑ d ∈ sp.taggedWith f, sp.unspentDeposit d := by
    rw [Nat.cast_sum]
    refine Finset.sum_le_sum (fun d _ => ?_)
    rw [← ht.floor_unspentDeposit (hvalue d)]
    exact Nat.floor_le (unspent_nonneg _ _ _)
  rw [← ht.floor_unspentFrontEndStake hstake]
  exact Nat.le_floor (hsum.trans (h f))

section Offset

/-- What is spent stays spent, and an offset scales everything else alike. -/
theorem unspent_charge (ht : sp.Timely) {factor : ℕ} (hfactor : factor ≤ decimalPrecision)
    (hclock : sp'.clock = charge decimalPrecision scaleFactor sp.clock factor) :
    ∃ ratio : ℚ, 0 ≤ ratio ∧ ∀ stake snapshots,
      (stake ≠ 0 → snapshots.clock.Precedes sp.clock) →
        sp'.unspent stake snapshots ≤ ratio * sp.unspent stake snapshots ∧
          (¬ sp'.Spent stake snapshots →
            sp'.unspent stake snapshots = ratio * sp.unspent stake snapshots) := by
  have hproduct : 0 < sp.clock.product := ht.product
  have hprecedes : sp.clock.Precedes (charge decimalPrecision scaleFactor sp.clock factor) :=
    precedes_charge hproduct factor
  rw [← hclock] at hprecedes
  obtain ⟨ratio, hnonneg, hle, hshare⟩ := share_charge hproduct unit_pos base_pos factor
  have hone : ratio ≤ 1 := by
    refine hle.trans ((div_le_one (Nat.cast_pos.2 unit_pos)).2 ?_)
    exact_mod_cast hfactor
  refine ⟨ratio, hnonneg, fun stake snapshots hs => ?_⟩
  have hexact : sp'.exactStake stake snapshots = ratio * sp.exactStake stake snapshots := by
    unfold exactStake
    rw [hclock]
    by_cases hz : stake = 0
    · rw [hz, share_zero, share_zero, mul_zero]
    · exact hshare _ _ (hs hz)
  have hstays (hspent : sp.Spent stake snapshots) : sp'.Spent stake snapshots := by
    have hepoch : sp.currentEpoch ≤ sp'.currentEpoch := hprecedes.epoch
    rcases hspent with he | hscale | hsmall
    · exact Or.inl (he.trans_le hepoch)
    · by_cases he : snapshots.epoch < sp'.currentEpoch
      · exact Or.inl he
      · by_cases he' : snapshots.epoch < sp.currentEpoch
        · exact Or.inl (he'.trans_le hepoch)
        · by_cases hz : stake = 0
          · refine Or.inr (Or.inr ?_)
            rw [hz, exactStake, share_zero]
            exact_mod_cast (lt_max_of_lt_left Nat.one_pos)
          · have hle' : snapshots.epoch ≤ sp.currentEpoch := (hs hz).epoch
            have hsame : sp.currentScale ≤ sp'.currentScale :=
              hprecedes.scale (le_antisymm hepoch ((not_lt.1 he).trans hle'))
            exact Or.inr (Or.inl (by omega))
    · refine Or.inr (Or.inr (lt_of_le_of_lt ?_ hsmall))
      rw [hexact]
      exact mul_le_of_le_one_left (exactStake_nonneg _ _ _) hone
  by_cases hspent' : sp'.Spent stake snapshots
  · refine ⟨?_, fun h => absurd hspent' h⟩
    rw [unspent_of_spent hspent']
    exact mul_nonneg hnonneg (unspent_nonneg _ _ _)
  · have heq : sp'.unspent stake snapshots = ratio * sp.unspent stake snapshots := by
      rw [unspent, if_neg hspent', unspent, if_neg (fun h => hspent' (hstays h)), hexact]
    exact ⟨heq.le, fun _ => heq⟩

theorem FrontEndsCover.charge (h : sp.FrontEndsCover) (ht : sp.Timely) {factor : ℕ}
    (hfactor : factor ≤ decimalPrecision) (hdeposits : sp'.deposits = sp.deposits)
    (hsnapshots : sp'.depositSnapshots = sp.depositSnapshots)
    (hstakes : sp'.frontEndStakes = sp.frontEndStakes)
    (hfrontEnds : sp'.frontEndSnapshots = sp.frontEndSnapshots)
    (hclock : sp'.clock = charge decimalPrecision scaleFactor sp.clock factor)
    (hspent : sp'.SpentTogether) : sp'.FrontEndsCover := by
  obtain ⟨ratio, hnonneg, hscale⟩ := unspent_charge ht hfactor hclock
  intro f
  have htagged : sp'.taggedWith f = sp.taggedWith f := by
    unfold taggedWith
    rw [hdeposits]
  have hdeposit (d : Address) : sp'.unspentDeposit d ≤ ratio * sp.unspentDeposit d := by
    unfold unspentDeposit
    rw [hdeposits, hsnapshots]
    exact (hscale _ _ (fun hz => (ht.deposits d hz).clock)).1
  by_cases hf : sp'.Spent (sp'.frontEndStakes f) (sp'.frontEndSnapshots f)
  · have hzero : ∑ d ∈ sp'.taggedWith f, sp'.unspentDeposit d = 0 := by
      refine Finset.sum_eq_zero (fun d hd => unspent_of_spent (hspent d ?_))
      have htag : (sp'.deposits d).frontEndTag = f := (Finset.mem_filter.1 hd).2
      rw [htag]
      exact hf
    rw [hzero]
    exact unspent_nonneg _ _ _
  · have hstake : sp'.unspentFrontEndStake f = ratio * sp.unspentFrontEndStake f := by
      rw [hstakes, hfrontEnds] at hf
      unfold unspentFrontEndStake
      rw [hstakes, hfrontEnds]
      exact (hscale _ _ (fun hz => (ht.frontEnds f hz).clock)).2 hf
    calc
      ∑ d ∈ sp'.taggedWith f, sp'.unspentDeposit d ≤
          ∑ d ∈ sp.taggedWith f, ratio * sp.unspentDeposit d := by
        rw [htagged]
        exact Finset.sum_le_sum (fun d _ => hdeposit d)
      _ = ratio * ∑ d ∈ sp.taggedWith f, sp.unspentDeposit d := (Finset.mul_sum _ _ _).symm
      _ ≤ ratio * sp.unspentFrontEndStake f := mul_le_mul_of_nonneg_left (h f) hnonneg
      _ = sp'.unspentFrontEndStake f := hstake.symm

end Offset

section Changes

theorem unspent_congr (hclock : sp'.clock = sp.clock) (stake : ℕ) (snapshots : Snapshots) :
    sp'.unspent stake snapshots = sp.unspent stake snapshots := by
  have hscale : sp'.currentScale = sp.currentScale := congrArg Clock.scale hclock
  have hepoch : sp'.currentEpoch = sp.currentEpoch := congrArg Clock.epoch hclock
  have hexact : sp'.exactStake stake snapshots = sp.exactStake stake snapshots := by
    rw [exactStake, hclock, exactStake]
  have hspent : sp'.Spent stake snapshots ↔ sp.Spent stake snapshots := by
    unfold Spent
    rw [hscale, hepoch, hexact]
  unfold unspent
  simp only [hspent, hexact]

theorem FrontEndsCover.congr (h : sp.FrontEndsCover) (hdeposits : sp'.deposits = sp.deposits)
    (hsnapshots : sp'.depositSnapshots = sp.depositSnapshots)
    (hstakes : sp'.frontEndStakes = sp.frontEndStakes)
    (hfrontEnds : sp'.frontEndSnapshots = sp.frontEndSnapshots) (hclock : sp'.clock = sp.clock) :
    sp'.FrontEndsCover := by
  intro f
  have hf := h f
  unfold taggedWith unspentDeposit unspentFrontEndStake at hf ⊢
  simp only [hdeposits, hsnapshots, hstakes, hfrontEnds, unspent_congr hclock]
  exact hf

/-- How the sum of the deposits with one tag moves when one deposit is changed. -/
theorem sum_taggedWith_change (sp sp' : StabilityPool) (depositor : Address)
    (hother : ∀ a, a ≠ depositor → (sp'.deposits a).frontEndTag = (sp.deposits a).frontEndTag ∧
      sp'.unspentDeposit a = sp.unspentDeposit a) (f : Address) :
    ∑ d ∈ sp'.taggedWith f, sp'.unspentDeposit d +
        (if (sp.deposits depositor).frontEndTag = f then sp.unspentDeposit depositor else 0) =
      ∑ d ∈ sp.taggedWith f, sp.unspentDeposit d +
        if (sp'.deposits depositor).frontEndTag = f then sp'.unspentDeposit depositor else 0 := by
  unfold taggedWith
  rw [Finset.sum_filter, Finset.sum_filter]
  refine UpdateSum.sum_change
    (f := fun a => if (sp'.deposits a).frontEndTag = f then sp'.unspentDeposit a else 0)
    (g := fun a => if (sp.deposits a).frontEndTag = f then sp.unspentDeposit a else 0) depositor
    (fun a ha => ?_)
  obtain ⟨htag, hleft⟩ := hother a ha
  rw [htag, hleft]

theorem FrontEndsCover.setTagOfNewDeposit (h : sp.FrontEndsCover) (depositor frontEndTag : Address) :
    (setTagOfNewDeposit sp depositor frontEndTag).FrontEndsCover := by
  unfold StabilityPool.setTagOfNewDeposit
  split_ifs with hz
  · obtain ⟨sp', hsp⟩ : ∃ sp', sp' = setFrontEndTag sp depositor frontEndTag := ⟨_, rfl⟩
    have hzero : sp'.unspentDeposit depositor = 0 := by
      rw [hsp, setFrontEndTag, unspentDeposit]
      dsimp only
      rw [Function.update_self, hz, unspent_zero]
    have hother (a : Address) (ha : a ≠ depositor) : sp'.deposits a = sp.deposits a := by
      rw [hsp, setFrontEndTag]
      exact Function.update_of_ne ha _ _
    have hsnapshots : sp'.depositSnapshots = sp.depositSnapshots := by rw [hsp, setFrontEndTag]
    have hclock : sp'.clock = sp.clock := by
      rw [hsp]
      rfl
    have hstake (f : Address) : sp'.unspentFrontEndStake f = sp.unspentFrontEndStake f := by
      unfold unspentFrontEndStake
      rw [unspent_congr hclock, hsp, setFrontEndTag]
    rw [← hsp]
    intro f
    have hsum := sum_taggedWith_change sp sp' depositor
      (fun a ha => ⟨by rw [hother a ha], by
        unfold unspentDeposit
        rw [hother a ha, hsnapshots, unspent_congr hclock]⟩) f
    rw [hzero, unspentDeposit, hz, unspent_zero, ite_self, ite_self, add_zero, add_zero] at hsum
    rw [hsum, hstake]
    exact h f
  · exact h

/-- A stake that has just been recorded is all left. -/
theorem unspent_current (hP : 0 < sp.P) (hclock : snapshots.clock = sp.clock) (stake : ℕ) :
    sp.unspent stake snapshots = stake := by
  have hscale : snapshots.scale = sp.currentScale := congrArg Clock.scale hclock
  have hepoch : snapshots.epoch = sp.currentEpoch := congrArg Clock.epoch hclock
  have hexact : sp.exactStake stake snapshots = stake := by
    rw [exactStake, hclock]
    exact share_self hP stake
  by_cases hz : stake = 0
  · rw [hz, unspent_zero, Nat.cast_zero]
  · refine (if_neg ?_).trans hexact
    rintro (he | hdiff | hsmall)
    · exact (hepoch ▸ he).false
    · rw [hscale, Nat.sub_self] at hdiff
      omega
    · rw [hexact] at hsmall
      have hlt : stake < max 1 (stake / scaleFactor) := by exact_mod_cast hsmall
      have hle : stake / scaleFactor ≤ stake := Nat.div_le_self _ _
      omega

/-- A changed deposit takes its front end's stake along. -/
theorem FrontEndsCover.changeDeposit (h : sp.FrontEndsCover) (ht : sp.Timely)
    (hf : f = (sp.deposits depositor).frontEndTag)
    (hdeposit : getCompoundedUSDDDeposit sp depositor = .ok deposit)
    (hstake : getCompoundedFrontEndStake sp f = .ok stake) {provided withdrawn : ℕ}
    (hw : withdrawn ≤ deposit) (hw' : withdrawn ≤ stake)
    (hcovers : sp.StakeCoversChange depositor)
    (hsp' : sp' = { updateDepositAndSnapshots (updateFrontEndStakeAndSnapshots sp f
        (stake + provided - withdrawn)) depositor (deposit + provided - withdrawn) with
      totalUSDDDeposits := sp'.totalUSDDDeposits
      coll := sp'.coll }) : sp'.FrontEndsCover := by
  rw [changeDeposit_eq] at hsp'
  have hclock : sp'.clock = sp.clock := by
    rw [hsp']
    rfl
  have hP : 0 < sp'.P := by
    rw [hsp']
    exact ht.product
  have hself : sp'.deposits depositor =
      ⟨deposit + provided - withdrawn, if deposit + provided - withdrawn = 0 then 0 else f⟩ := by
    rw [hsp', hf]
    exact Function.update_self _ _ _
  have hleft : sp'.unspentDeposit depositor = (deposit + provided - withdrawn : ℕ) := by
    rw [unspentDeposit, hself]
    by_cases hz : deposit + provided - withdrawn = 0
    · rw [hz, unspent_zero, Nat.cast_zero]
    · refine unspent_current hP ?_ _
      rw [hclock, hsp']
      dsimp only
      rw [Function.update_self, if_neg hz]
      rfl
  have hother (a : Address) (ha : a ≠ depositor) :
      (sp'.deposits a).frontEndTag = (sp.deposits a).frontEndTag ∧
        sp'.unspentDeposit a = sp.unspentDeposit a := by
    have hd : sp'.deposits a = sp.deposits a := by
      rw [hsp']
      exact Function.update_of_ne ha _ _
    have hs : sp'.depositSnapshots a = sp.depositSnapshots a := by
      rw [hsp']
      exact Function.update_of_ne ha _ _
    refine ⟨by rw [hd], ?_⟩
    unfold unspentDeposit
    rw [hd, hs, unspent_congr hclock]
  have hvalue : sp'.unspentFrontEndStake f = (stake + provided - withdrawn : ℕ) := by
    have hstakes : sp'.frontEndStakes f = stake + provided - withdrawn := by
      rw [hsp']
      exact Function.update_self _ _ _
    rw [unspentFrontEndStake, hstakes]
    by_cases hz : stake + provided - withdrawn = 0
    · rw [hz, unspent_zero, Nat.cast_zero]
    · refine unspent_current hP ?_ _
      rw [hclock, hsp']
      dsimp only
      rw [Function.update_self, if_neg hz]
      rfl
  have hvalue' (f' : Address) (hff : f' ≠ f) :
      sp'.unspentFrontEndStake f' = sp.unspentFrontEndStake f' := by
    have hstakes : sp'.frontEndStakes f' = sp.frontEndStakes f' := by
      rw [hsp']
      exact Function.update_of_ne hff _ _
    have hs : sp'.frontEndSnapshots f' = sp.frontEndSnapshots f' := by
      rw [hsp']
      exact Function.update_of_ne hff _ _
    unfold unspentFrontEndStake
    rw [hstakes, hs, unspent_congr hclock]
  intro f'
  have hsum := sum_taggedWith_change sp sp' depositor hother f'
  by_cases hff : f' = f
  · subst hff
    have hmem : depositor ∈ sp.taggedWith f' :=
      Finset.mem_filter.2 ⟨Finset.mem_univ _, hf.symm⟩
    have herase : ∑ d ∈ sp.taggedWith f', sp.unspentDeposit d = sp.unspentDeposit depositor +
        ∑ d ∈ (sp.taggedWith f').erase depositor, sp.unspentDeposit d :=
      (Finset.add_sum_erase _ sp.unspentDeposit hmem).symm
    have hle : (deposit : ℚ) + ∑ d ∈ (sp.taggedWith f').erase depositor, sp.unspentDeposit d ≤
        stake := by
      rw [← ht.floor_unspentDeposit hdeposit, ← ht.floor_unspentFrontEndStake hstake, hf]
      exact hcovers
    have hnew : (if (sp'.deposits depositor).frontEndTag = f' then sp'.unspentDeposit depositor
        else 0) ≤ ((deposit + provided - withdrawn : ℕ) : ℚ) := by
      rw [hleft]
      split_ifs
      · exact le_rfl
      · exact Nat.cast_nonneg _
    rw [if_pos hf.symm, herase] at hsum
    rw [hvalue, Nat.cast_sub (hw'.trans (Nat.le_add_right _ _)), Nat.cast_add]
    rw [Nat.cast_sub (hw.trans (Nat.le_add_right _ _)), Nat.cast_add] at hnew
    linarith
  · have hnew : (if (sp'.deposits depositor).frontEndTag = f' then sp'.unspentDeposit depositor
        else 0) = 0 := by
      rw [hleft, hself]
      dsimp only
      by_cases hz : deposit + provided - withdrawn = 0
      · rw [hz, Nat.cast_zero, ite_self]
      · rw [if_neg hz, if_neg (Ne.symm hff)]
    rw [hnew, if_neg (hf ▸ Ne.symm hff), add_zero, add_zero] at hsum
    rw [hsum, hvalue' f' hff]
    exact h f'

end Changes

end StabilityPool

variable {D : Deployment} {b b' : Book}

theorem StabilityPool.FrontEndsCover.event (ht : b.pool.Timely) (h : b.pool.FrontEndsCover)
    (hj : ∀ e ∈ b'.journal, e.KeepsFrontEndsCovered) (he : Event D b b') :
    b'.pool.FrontEndsCover := by
  cases he with
  | @offsets debt coll rewards pool hpos hrewards hpool hdebt hcoll hsupply hdeposits husdd =>
      have hspent : (b.pool.afterLoss debt).SpentTogether := hj _ (List.mem_cons_self ..)
      obtain ⟨-, -, lossError, collError, clock, hclock, hloss, -, rfl⟩ :=
        offset_eq_ok hrewards hpool
      have hloss' : rewards.usddLossPerUnitStaked =
          if debt = b.pool.totalUSDDDeposits then decimalPrecision else b.pool.partialLoss debt := by
        rcases usddLossPerUnitStaked_eq_ok hloss with ⟨heq, hl⟩ | ⟨hne, -, -, hl⟩
        · rw [if_pos heq, hl]
        · rw [if_neg hne, hl]
      refine h.charge ht (Nat.sub_le _ _) rfl rfl rfl rfl hclock ?_
      rw [afterLoss, updateProduct_eq_charge, ← hloss', ← hclock] at hspent
      exact hspent
  | issues hpool =>
      obtain ⟨rate, lastDEFTError, rfl, -⟩ := updateG_eq_ok hpool
      exact h.congr rfl rfl rfl rfl rfl
  | tags => exact h.setTagOfNewDeposit _ _
  | changesDeposit hdeposit hstake hgain hwithdrawn hwithdrawn' =>
      exact h.changeDeposit ht rfl hdeposit hstake hwithdrawn hwithdrawn'
        (hj _ (List.mem_cons_self ..)) rfl
  | registers => exact h.congr rfl rfl rfl rfl rfl
  | _ => exact h

end Usdd

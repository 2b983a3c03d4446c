import Usdd.PoolRuns

/-!
# The views of a deposit

The product has only shrunk since a snapshot, apart from the changes of scale, so that a compounded
stake is at most the recorded one. A later offset makes it no larger, and the gain no smaller.
-/

open Transaction CompoundingStake

namespace Usdd

namespace StabilityPool

variable {sp sp' : StabilityPool} {snapshots : Snapshots} {d f : Address}
  {v v' w w' stake factor diff diff' : ℕ}

section Undiluted

/-- The product has not grown since any snapshot. The snapshot of a front end has no `S`. -/
structure Undiluted (sp : StabilityPool) : Prop where
  deposits : ∀ d, (sp.deposits d).initialValue ≠ 0 →
    (sp.depositSnapshots d).clock.Shrinks scaleFactor sp.clock
  frontEnds : ∀ f, sp.frontEndStakes f ≠ 0 →
    (sp.frontEndSnapshots f).clock.Shrinks scaleFactor sp.clock
  frontEndSums : ∀ f, (sp.frontEndSnapshots f).S = 0

theorem initial_undiluted (g : Genesis) : (initial g).stabilityPool.Undiluted where
  deposits _ hd := absurd rfl hd
  frontEnds _ hf := absurd rfl hf
  frontEndSums _ := rfl

end Undiluted

end StabilityPool

open StabilityPool

variable {D : Deployment} {b b' : Book}

theorem StabilityPool.Undiluted.event (ht : b.pool.Timely) (h : b.pool.Undiluted)
    (he : Event D b b') : b'.pool.Undiluted := by
  cases he with
  | offsets hpos hrewards hpool hdebt hcoll hsupply hdeposits husdd =>
      obtain ⟨-, -, lossError, collError, clock, hclock, -, -, rfl⟩ := offset_eq_ok hrewards hpool
      have hlater {since : Clock} (hs : since.Shrinks scaleFactor b.pool.clock)
          (hp : since.Precedes b.pool.clock) : since.Shrinks scaleFactor clock := by
        rw [hclock]
        exact hs.charge hp (Nat.sub_le _ _)
      exact
        { deposits := fun d hd => hlater (h.deposits d hd) (ht.deposits d hd).clock
          frontEnds := fun f hf => hlater (h.frontEnds f hf) (ht.frontEnds f hf).clock
          frontEndSums := h.frontEndSums }
  | issues hpool =>
      obtain ⟨rate, lastDEFTError, rfl, -⟩ := updateG_eq_ok hpool
      exact ⟨h.deposits, h.frontEnds, h.frontEndSums⟩
  | @tags depositor frontEndTag htag =>
      obtain ⟨deposits, heq, hsame⟩ := setTagOfNewDeposit_eq b.pool depositor frontEndTag
      show (setTagOfNewDeposit b.pool depositor frontEndTag).Undiluted
      rw [heq]
      refine ⟨fun d hd => ?_, h.frontEnds, h.frontEndSums⟩
      rw [hsame] at hd
      exact h.deposits d hd
  | @changesDeposit depositor deposit frontEndStake gain provided withdrawn =>
      show Undiluted { updateDepositAndSnapshots _ _ _ with
        totalUSDDDeposits := _
        coll := _ }
      rw [changeDeposit_eq]
      have hnow : b.pool.clock.Shrinks scaleFactor b.pool.clock := Clock.Shrinks.refl _
      refine ⟨fun d hd => ?_, fun f hf => ?_, fun f => ?_⟩
      · dsimp only at hd ⊢
        by_cases had : d = depositor
        · subst had
          rw [Function.update_self] at hd ⊢
          rw [if_neg hd]
          exact hnow
        · rw [Function.update_of_ne had] at hd ⊢
          exact h.deposits d hd
      · dsimp only at hf ⊢
        by_cases haf : f = (b.pool.deposits depositor).frontEndTag
        · subst haf
          rw [Function.update_self] at hf ⊢
          rw [if_neg hf]
          exact hnow
        · rw [Function.update_of_ne haf] at hf ⊢
          exact h.frontEnds f hf
      · dsimp only
        by_cases haf : f = (b.pool.deposits depositor).frontEndTag
        · subst haf
          rw [Function.update_self]
          split_ifs
          · rfl
          · exact h.frontEndSums _
        · rw [Function.update_of_ne haf]
          exact h.frontEndSums f
  | registers => exact ⟨h.deposits, h.frontEnds, h.frontEndSums⟩
  | _ => exact h

theorem PoolReachable.undiluted {g : Genesis} {s : State} (hw : D.Wired)
    (h : PoolReachable D g s) : s.stabilityPool.Undiluted := by
  obtain ⟨d, c, hp⟩ := h.path hw
  have hinitial : ((initial g).book D 0 0 0).pool.Timely :=
    (Book.Reached.consistent ⟨g, Path.refl _⟩).timely
  exact (hp.invariant (I := fun b => b.pool.Timely ∧ b.pool.Undiluted)
    (fun _ _ he hi => ⟨hi.1.event he, hi.2.event hi.1 he⟩)
    ⟨hinitial, initial_undiluted g⟩).2

namespace StabilityPool

variable {sp sp' : StabilityPool} {snapshots : Snapshots} {d f : Address}
  {v v' w w' stake factor diff diff' : ℕ}

section Later

/-- Either the scale stays and the product falls, or the scale changes and the product grows by at
most what a scale is. -/
theorem compoundAtScale_mono
    (hp : diff' = diff ∧ sp'.P ≤ sp.P ∨ diff' = diff + 1 ∧ sp'.P ≤ sp.P * scaleFactor)
    (h : compoundAtScale sp stake snapshots.P diff = .ok w)
    (h' : compoundAtScale sp' stake snapshots.P diff' = .ok w') : w' ≤ w := by
  unfold compoundAtScale at h h'
  rcases hp with ⟨rfl, hP⟩ | ⟨rfl, hP⟩
  · have hle : stake * sp'.P / snapshots.P ≤ stake * sp.P / snapshots.P :=
      Nat.div_le_div_right (Nat.mul_le_mul_left _ hP)
    split_ifs at h h'
    · obtain ⟨-, rfl⟩ := div_eq_ok.1 h
      obtain ⟨-, rfl⟩ := div_eq_ok.1 h'
      exact hle
    · obtain ⟨_, hw, h⟩ := bind_eq_ok.1 h
      obtain ⟨_, hw', h'⟩ := bind_eq_ok.1 h'
      obtain ⟨-, rfl⟩ := div_eq_ok.1 hw
      obtain ⟨-, rfl⟩ := div_eq_ok.1 hw'
      rw [← pure_eq_ok.1 h, ← pure_eq_ok.1 h']
      exact Nat.div_le_div_right hle
    · rw [← pure_eq_ok.1 h']
      exact Nat.zero_le _
  · rw [if_neg (Nat.succ_ne_zero diff)] at h'
    split_ifs at h h' with h₀ h₁
    · obtain ⟨-, rfl⟩ := div_eq_ok.1 h
      obtain ⟨_, hw', h'⟩ := bind_eq_ok.1 h'
      obtain ⟨-, rfl⟩ := div_eq_ok.1 hw'
      rw [← pure_eq_ok.1 h', Nat.div_div_eq_div_mul]
      calc
        stake * sp'.P / (snapshots.P * scaleFactor)
            ≤ stake * sp.P * scaleFactor / (snapshots.P * scaleFactor) := by
          apply Nat.div_le_div_right
          rw [Nat.mul_assoc]
          exact Nat.mul_le_mul_left _ hP
        _ = stake * sp.P / snapshots.P := Nat.mul_div_mul_right _ _ base_pos
    all_goals first
      | omega
      | (rw [← pure_eq_ok.1 h']; exact Nat.zero_le _)

/-- A charge makes no stake worth more, whatever is rounded and cut off. -/
theorem getCompoundedStakeFromSnapshots_mono (hp : snapshots.clock.Precedes sp.clock)
    (hclock : sp'.clock = charge decimalPrecision scaleFactor sp.clock factor)
    (hfactor : factor ≤ decimalPrecision)
    (h : getCompoundedStakeFromSnapshots sp stake snapshots = .ok v)
    (h' : getCompoundedStakeFromSnapshots sp' stake snapshots = .ok v') : v' ≤ v := by
  have hprecedes : sp.clock.epoch ≤ sp'.clock.epoch ∧ (sp.clock.epoch = sp'.clock.epoch →
      sp'.clock.scale = sp.clock.scale ∧ sp'.clock.product ≤ sp.clock.product ∨
      sp'.clock.scale = sp.clock.scale + 1 ∧ sp'.clock.product ≤ sp.clock.product * scaleFactor) := by
    have hround : sp.clock.product * factor ≤ decimalPrecision * sp.clock.product := by
      rw [Nat.mul_comm decimalPrecision]
      exact Nat.mul_le_mul_left _ hfactor
    rw [hclock]
    unfold charge
    split_ifs
    · exact ⟨Nat.le_succ _, fun he => absurd he (Nat.lt_succ_self _).ne⟩
    · refine ⟨le_rfl, fun _ => Or.inr ⟨rfl, Nat.div_le_of_le_mul ?_⟩⟩
      rw [← Nat.mul_assoc]
      exact Nat.mul_le_mul_right _ hround
    · exact ⟨le_rfl, fun _ => Or.inl ⟨rfl, Nat.div_le_of_le_mul hround⟩⟩
  obtain ⟨hepoch, hscale⟩ := hprecedes
  have hepoch : sp.currentEpoch ≤ sp'.currentEpoch := hepoch
  unfold getCompoundedStakeFromSnapshots at h h'
  split_ifs at h h' with he he' he'
  · rw [← pure_eq_ok.1 h']
    exact Nat.zero_le _
  · omega
  · rw [← pure_eq_ok.1 h']
    exact Nat.zero_le _
  · have hsame : sp.currentEpoch = sp'.currentEpoch := by
      have hsnapshot : snapshots.epoch ≤ sp.currentEpoch := hp.epoch
      omega
    obtain ⟨diff, hdiff, h⟩ := bind_eq_ok.1 h
    obtain ⟨w, hw, hcut⟩ := bind_eq_ok.1 h
    obtain ⟨diff', hdiff', h'⟩ := bind_eq_ok.1 h'
    obtain ⟨w', hw', hcut'⟩ := bind_eq_ok.1 h'
    obtain ⟨hle, rfl⟩ := sub_eq_ok.1 hdiff
    obtain ⟨hle', rfl⟩ := sub_eq_ok.1 hdiff'
    have hww : w' ≤ w := by
      refine compoundAtScale_mono ?_ hw hw'
      rcases hscale hsame with ⟨hs, hP⟩ | ⟨hs, hP⟩
      · have hs : sp'.currentScale = sp.currentScale := hs
        exact Or.inl ⟨by omega, hP⟩
      · have hs : sp'.currentScale = sp.currentScale + 1 := hs
        exact Or.inr ⟨by omega, hP⟩
    split_ifs at hcut hcut' <;> rw [← pure_eq_ok.1 hcut, ← pure_eq_ok.1 hcut'] <;> omega

theorem getGainFromSnapshots_mono {sums sums' : ℕ → ℕ → ℕ} {start : ℕ}
    (hsums : ∀ e s, sums e s ≤ sums' e s)
    (h : getGainFromSnapshots sums start stake snapshots = .ok v)
    (h' : getGainFromSnapshots sums' start stake snapshots = .ok v') : v ≤ v' := by
  obtain ⟨_, hfirst, h⟩ := bind_eq_ok.1 h
  obtain ⟨_, hdiv, h⟩ := bind_eq_ok.1 h
  obtain ⟨_, hfirst', h'⟩ := bind_eq_ok.1 h'
  obtain ⟨_, hdiv', h'⟩ := bind_eq_ok.1 h'
  obtain ⟨-, rfl⟩ := sub_eq_ok.1 hfirst
  obtain ⟨-, rfl⟩ := sub_eq_ok.1 hfirst'
  obtain ⟨-, rfl⟩ := div_eq_ok.1 hdiv
  obtain ⟨-, rfl⟩ := div_eq_ok.1 hdiv'
  rw [← pure_eq_ok.1 h, ← pure_eq_ok.1 h']
  apply Nat.div_le_div_right
  apply Nat.div_le_div_right
  apply Nat.mul_le_mul_left
  exact Nat.add_le_add (Nat.sub_le_sub_right (hsums _ _) _) (Nat.div_le_div_right (hsums _ _))

end Later

section Offset

/-- What an offset does to what the views read. -/
structure Offsets (sp sp' : StabilityPool) : Prop where
  deposits : sp'.deposits = sp.deposits
  depositSnapshots : sp'.depositSnapshots = sp.depositSnapshots
  frontEndStakes : sp'.frontEndStakes = sp.frontEndStakes
  frontEndSnapshots : sp'.frontEndSnapshots = sp.frontEndSnapshots
  sums : ∀ e s, sp.epochToScaleToSum e s ≤ sp'.epochToScaleToSum e s
  clock : ∃ factor ≤ decimalPrecision,
    sp'.clock = charge decimalPrecision scaleFactor sp.clock factor

theorem le_addToSum (sums : ℕ → ℕ → ℕ) (epoch scale amount e s : ℕ) :
    sums e s ≤ addToSum sums epoch scale amount e s := by
  unfold addToSum
  by_cases he : e = epoch
  · subst he
    rw [Function.update_self]
    by_cases hs : s = scale
    · subst hs
      rw [Function.update_self]
      exact Nat.le_add_right _ _
    · rw [Function.update_of_ne hs]
  · rw [Function.update_of_ne he]

theorem offset_charge {D : Deployment} {m : Message} {sender : Address} {s s' : State}
    {debt coll : ℕ} (hne : D.gasPool ≠ D.stabilityPool)
    (h : offset D m sender s debt coll = .ok s') :
    ((s.stabilityPool.totalUSDDDeposits = 0 ∨ debt = 0) ∧ s' = s) ∨
      ∃ loss lossError,
        usddLossPerUnitStaked s.stabilityPool debt s.stabilityPool.totalUSDDDeposits =
          .ok (loss, lossError) ∧
        loss ≤ decimalPrecision ∧ debt ≤ s.stabilityPool.totalUSDDDeposits ∧
        s'.stabilityPool.totalUSDDDeposits = s.stabilityPool.totalUSDDDeposits - debt ∧
        s'.stabilityPool.clock =
          charge decimalPrecision scaleFactor s.stabilityPool.clock (decimalPrecision - loss) ∧
        Offsets s.stabilityPool s'.stabilityPool := by
  obtain ⟨_, -, h⟩ := bind_eq_ok.1 h
  dsimp only at h
  split_ifs at h with hz
  · exact Or.inl ⟨hz, (pure_eq_ok.1 h).symm⟩
  right
  obtain ⟨s₁, h₁, h⟩ := bind_eq_ok.1 h
  obtain ⟨r, hr, h⟩ := bind_eq_ok.1 h
  obtain ⟨sp, hsp, h⟩ := bind_eq_ok.1 h
  obtain ⟨issuance, pool, hissue, -, b₁⟩ := triggerDEFTIssuance_book h₁
  have hpool : s₁.stabilityPool = pool := congrArg Book.pool (b₁ 0 0 0)
  have hdeposits : s.stabilityPool.totalUSDDDeposits = s₁.stabilityPool.totalUSDDDeposits := by
    rw [hpool, updateG_totalUSDDDeposits hissue]
  rw [hdeposits] at hr
  obtain ⟨-, -, -, hle, -, b₂⟩ := moveOffsetCollAndDebt_book h hne 0 0 0
  have hpool' : s'.stabilityPool = { sp with
      totalUSDDDeposits := sp.totalUSDDDeposits - debt
      coll := sp.coll + coll } := congrArg Book.pool b₂
  obtain ⟨hloss, -, lossError, collError, clock, hclock, hunit, -, hsp'⟩ := offset_eq_ok hr hsp
  obtain ⟨rate, lastDEFTError, hG, -⟩ := updateG_eq_ok hissue
  rw [hpool', hsp', hpool, hG]
  rw [hpool, hG] at hclock hunit
  dsimp only at hle
  rw [hsp', hpool, hG] at hle
  exact ⟨_, lossError, hunit, hloss, hle, rfl, hclock,
    { deposits := rfl
      depositSnapshots := rfl
      frontEndStakes := rfl
      frontEndSnapshots := rfl
      sums := le_addToSum _ _ _ _
      clock := ⟨_, Nat.sub_le _ _, hclock⟩ }⟩

variable (ht : sp.Timely) (ht' : sp'.Timely) (ho : Offsets sp sp')

include ht ht' ho

theorem Offsets.getCompoundedUSDDDeposit_mono (d : Address) :
    ∃ v v', getCompoundedUSDDDeposit sp d = .ok v ∧
      getCompoundedUSDDDeposit sp' d = .ok v' ∧ v' ≤ v := by
  obtain ⟨v, hv⟩ := ht.getCompoundedUSDDDeposit_eq_ok d
  obtain ⟨v', hv'⟩ := ht'.getCompoundedUSDDDeposit_eq_ok d
  refine ⟨v, v', hv, hv', ?_⟩
  unfold getCompoundedUSDDDeposit at hv hv'
  rw [ho.deposits, ho.depositSnapshots] at hv'
  split_ifs at hv hv' with hz
  · rw [← pure_eq_ok.1 hv']
    exact Nat.zero_le _
  · obtain ⟨factor, hfactor, hclock⟩ := ho.clock
    exact getCompoundedStakeFromSnapshots_mono (ht.deposits d hz).clock hclock hfactor hv hv'

theorem Offsets.getCompoundedFrontEndStake_mono (f : Address) :
    ∃ v v', getCompoundedFrontEndStake sp f = .ok v ∧
      getCompoundedFrontEndStake sp' f = .ok v' ∧ v' ≤ v := by
  obtain ⟨v, hv⟩ := ht.getCompoundedFrontEndStake_eq_ok f
  obtain ⟨v', hv'⟩ := ht'.getCompoundedFrontEndStake_eq_ok f
  refine ⟨v, v', hv, hv', ?_⟩
  unfold getCompoundedFrontEndStake at hv hv'
  rw [ho.frontEndStakes, ho.frontEndSnapshots] at hv'
  split_ifs at hv hv' with hz
  · rw [← pure_eq_ok.1 hv']
    exact Nat.zero_le _
  · obtain ⟨factor, hfactor, hclock⟩ := ho.clock
    exact getCompoundedStakeFromSnapshots_mono (ht.frontEnds f hz).clock hclock hfactor hv hv'

theorem Offsets.getDepositorCollGain_mono (d : Address) :
    ∃ gain gain', getDepositorCollGain sp d = .ok gain ∧
      getDepositorCollGain sp' d = .ok gain' ∧ gain ≤ gain' := by
  obtain ⟨gain, hgain⟩ := ht.getDepositorCollGain_eq_ok d
  obtain ⟨gain', hgain'⟩ := ht'.getDepositorCollGain_eq_ok d
  refine ⟨gain, gain', hgain, hgain', ?_⟩
  unfold getDepositorCollGain at hgain hgain'
  rw [ho.deposits, ho.depositSnapshots] at hgain'
  split_ifs at hgain hgain' with hz
  · rw [← pure_eq_ok.1 hgain]
    exact Nat.zero_le _
  · exact getGainFromSnapshots_mono ho.sums hgain hgain'

end Offset

section Calculators

/-- No calculation on a recorded stake and its snapshots reverts. -/
structure Calculable (sp : StabilityPool) (stake : ℕ) (snapshots : Snapshots) : Prop where
  product : 0 < snapshots.P
  sum : snapshots.S ≤ sp.epochToScaleToSum snapshots.epoch snapshots.scale
  G : snapshots.G ≤ sp.epochToScaleToG snapshots.epoch snapshots.scale
  scale : snapshots.epoch = sp.currentEpoch → snapshots.scale ≤ sp.currentScale
  compounded : ∃ v ≤ stake, getCompoundedStakeFromSnapshots sp stake snapshots = .ok v

theorem TakenBefore.calculable (h : sp.TakenBefore snapshots)
    (hsum : snapshots.S ≤ sp.epochToScaleToSum snapshots.epoch snapshots.scale)
    (hs : snapshots.clock.Shrinks scaleFactor sp.clock) (stake : ℕ) :
    sp.Calculable stake snapshots where
  product := h.clock.product
  sum := hsum
  G := h.G
  scale := h.clock.scale
  compounded := by
    obtain ⟨v, hv⟩ := getCompoundedStakeFromSnapshots_eq_ok h.clock stake
    have hle : (v : ℚ) ≤ stake :=
      (getCompoundedStakeFromSnapshots_le hv).trans (share_le_stake hs h.clock stake)
    exact ⟨v, Nat.cast_le.1 hle, hv⟩

end Calculators

end StabilityPool

variable {g : Genesis} {s : State}

/-- What has been recorded can be calculated with, and an offset takes from the compounded stakes
and adds to the gains. -/
theorem calculators_safe (hw : D.Wired) (h : PoolReachable D g s) :
    (∀ d, (s.stabilityPool.deposits d).initialValue ≠ 0 →
      s.stabilityPool.Calculable (s.stabilityPool.deposits d).initialValue
        (s.stabilityPool.depositSnapshots d)) ∧
    (∀ f, s.stabilityPool.frontEndStakes f ≠ 0 →
      s.stabilityPool.Calculable (s.stabilityPool.frontEndStakes f)
        (s.stabilityPool.frontEndSnapshots f)) ∧
    ∀ m debt coll s', s.timestamp ≤ m.timestamp →
      StabilityPool.offset D m D.troveManager s debt coll = .ok s' →
      (∀ d, ∃ v v' gain gain', getCompoundedUSDDDeposit s.stabilityPool d = .ok v ∧
        getCompoundedUSDDDeposit s'.stabilityPool d = .ok v' ∧ v' ≤ v ∧
        getDepositorCollGain s.stabilityPool d = .ok gain ∧
        getDepositorCollGain s'.stabilityPool d = .ok gain' ∧ gain ≤ gain') ∧
      ∀ f, ∃ v v', getCompoundedFrontEndStake s.stabilityPool f = .ok v ∧
        getCompoundedFrontEndStake s'.stabilityPool f = .ok v' ∧ v' ≤ v := by
  have ht := h.timely hw
  have hu := h.undiluted hw
  refine ⟨fun d hd => (ht.deposits d hd).calculable (ht.sums d hd) (hu.deposits d hd) _,
    fun f hf => (ht.frontEnds f hf).calculable ?_ (hu.frontEnds f hf) _,
    fun m debt coll s' htime hs' => ?_⟩
  · rw [hu.frontEndSums f]
    exact Nat.zero_le _
  have hreached : PoolReachable D g { s' with timestamp := m.timestamp } :=
    h.next (t := .offset m debt coll) htime (bind_eq_ok.2 ⟨s', hs', rfl⟩)
  have ht' : s'.stabilityPool.Timely :=
    PoolReachable.timely (s := { s' with timestamp := m.timestamp }) hw hreached
  rcases offset_charge hw.gasPool_ne hs' with ⟨-, rfl⟩ | ⟨_, _, -, -, -, -, -, ho⟩
  · refine ⟨fun d => ?_, fun f => ?_⟩
    · obtain ⟨v, hv⟩ := ht.getCompoundedUSDDDeposit_eq_ok d
      obtain ⟨gain, hgain⟩ := ht.getDepositorCollGain_eq_ok d
      exact ⟨v, v, gain, gain, hv, hv, le_rfl, hgain, hgain, le_rfl⟩
    · obtain ⟨v, hv⟩ := ht.getCompoundedFrontEndStake_eq_ok f
      exact ⟨v, v, hv, hv, le_rfl⟩
  · refine ⟨fun d => ?_, ho.getCompoundedFrontEndStake_mono ht ht'⟩
    obtain ⟨v, v', hv, hv', hle⟩ := ho.getCompoundedUSDDDeposit_mono ht ht' d
    obtain ⟨gain, gain', hgain, hgain', hle'⟩ := ho.getDepositorCollGain_mono ht ht' d
    exact ⟨v, v', gain, gain', hv, hv', hle, hgain, hgain', hle'⟩

theorem calculators_safe_of_liquidation : ∃ s, sampleRun sampleLiquidation = .ok s ∧
    (s.stabilityPool.deposits 1).initialValue ≠ 0 ∧
    s.stabilityPool.Calculable (s.stabilityPool.deposits 1).initialValue
      (s.stabilityPool.depositSnapshots 1) := by
  obtain ⟨s, hs, hd⟩ : ∃ s, sampleRun sampleLiquidation = .ok s ∧
      (s.stabilityPool.deposits 1).initialValue ≠ 0 := by decide +kernel
  exact ⟨s, hs, hd,
    (calculators_safe sampleDeployment_wired (poolReachable_sampleRun hs)).1 1 hd⟩

end Usdd

import Usdd.Book

/-!
# The shares of the depositors

The exact value of a deposit, or of the stake of a front end, is its share by the clock of the pool,
without rounding, and its exact gains are read off the sums. What the pool computes is never more.
`Timely` says that every snapshot was taken before now and that nothing has been recorded ahead of
the clock; it holds in every run.
-/

open Transaction CompoundingStake

namespace Usdd

namespace StabilityPool

def exactStake (sp : StabilityPool) (stake : ℕ) (snapshots : Snapshots) : ℚ :=
  share scaleFactor sp.clock snapshots.clock stake

def exactDeposit (sp : StabilityPool) (depositor : Address) : ℚ :=
  sp.exactStake (sp.deposits depositor).initialValue (sp.depositSnapshots depositor)

def exactFrontEndStake (sp : StabilityPool) (frontEnd : Address) : ℚ :=
  sp.exactStake (sp.frontEndStakes frontEnd) (sp.frontEndSnapshots frontEnd)

structure TakenBefore (sp : StabilityPool) (snapshots : Snapshots) : Prop where
  clock : snapshots.clock.Precedes sp.clock
  G : snapshots.G ≤ sp.epochToScaleToG snapshots.epoch snapshots.scale

structure Timely (sp : StabilityPool) : Prop where
  product : 0 < sp.P
  deposits : ∀ d, (sp.deposits d).initialValue ≠ 0 → sp.TakenBefore (sp.depositSnapshots d)
  sums : ∀ d, (sp.deposits d).initialValue ≠ 0 → (sp.depositSnapshots d).S ≤
    sp.epochToScaleToSum (sp.depositSnapshots d).epoch (sp.depositSnapshots d).scale
  frontEnds : ∀ f, sp.frontEndStakes f ≠ 0 → sp.TakenBefore (sp.frontEndSnapshots f)
  unreachedSum : Unreached sp.epochToScaleToSum sp.clock
  unreachedG : Unreached sp.epochToScaleToG sp.clock

variable {sp sp' : StabilityPool} {snapshots : Snapshots} {d f : Address} {v stake start : ℕ}
  {sums : ℕ → ℕ → ℕ}

theorem base_pos : 0 < scaleFactor := by decide

theorem unit_pos : 0 < decimalPrecision := by decide

section Compounded

theorem compoundAtScale_le {snapshotP diff : ℕ}
    (h : compoundAtScale sp stake snapshotP diff = .ok v) :
    (v : ℚ) ≤ stake * sp.P / (snapshotP * (scaleFactor : ℚ) ^ diff) := by
  unfold compoundAtScale at h
  split_ifs at h with h₀ h₁
  · obtain ⟨-, rfl⟩ := div_eq_ok.1 h
    rw [h₀, pow_zero, mul_one, ← Nat.cast_mul]
    exact Nat.cast_div_le
  · obtain ⟨w, hw, h⟩ := bind_eq_ok.1 h
    obtain ⟨-, rfl⟩ := div_eq_ok.1 hw
    rw [← pure_eq_ok.1 h, h₁, pow_one, ← div_div]
    calc
      ((stake * sp.P / snapshotP / scaleFactor : ℕ) : ℚ) ≤
          (stake * sp.P / snapshotP : ℕ) / (scaleFactor : ℚ) := Nat.cast_div_le
      _ ≤ (stake * sp.P : ℕ) / (snapshotP : ℚ) / scaleFactor :=
        div_le_div_of_nonneg_right Nat.cast_div_le (Nat.cast_nonneg _)
      _ = stake * sp.P / snapshotP / scaleFactor := by rw [Nat.cast_mul]
  · rw [← pure_eq_ok.1 h, Nat.cast_zero]
    positivity

/-- A compounded stake is its exact value rounded down. -/
theorem getCompoundedStakeFromSnapshots_le
    (h : getCompoundedStakeFromSnapshots sp stake snapshots = .ok v) :
    (v : ℚ) ≤ sp.exactStake stake snapshots := by
  unfold getCompoundedStakeFromSnapshots at h
  split_ifs at h with he
  · rw [← pure_eq_ok.1 h, Nat.cast_zero]
    exact share_nonneg _ _ _
  · obtain ⟨diff, hdiff, h⟩ := bind_eq_ok.1 h
    obtain ⟨-, rfl⟩ := sub_eq_ok.1 hdiff
    obtain ⟨w, hw, h⟩ := bind_eq_ok.1 h
    have hle := compoundAtScale_le hw
    have hexact : sp.exactStake stake snapshots = stake * sp.P /
        (snapshots.P * (scaleFactor : ℚ) ^ (sp.currentScale - snapshots.scale)) := if_neg he
    split_ifs at h with hcut
    · rw [← pure_eq_ok.1 h, Nat.cast_zero]
      exact share_nonneg _ _ _
    · rwa [← pure_eq_ok.1 h, hexact]

theorem getCompoundedStakeFromSnapshots_eq_ok (h : snapshots.clock.Precedes sp.clock)
    (stake : ℕ) : ∃ v, getCompoundedStakeFromSnapshots sp stake snapshots = .ok v := by
  have hP : snapshots.P ≠ 0 := h.product.ne'
  unfold getCompoundedStakeFromSnapshots
  split_ifs with he
  · exact ⟨0, rfl⟩
  · have hscale : snapshots.scale ≤ sp.currentScale :=
      h.scale (le_antisymm h.epoch (not_lt.1 he))
    obtain ⟨w, hw⟩ : ∃ w, compoundAtScale sp stake snapshots.P
        (sp.currentScale - snapshots.scale) = .ok w := by
      unfold compoundAtScale
      split_ifs
      · exact ⟨_, div_eq_ok.2 ⟨hP, rfl⟩⟩
      · exact ⟨_, bind_eq_ok.2 ⟨_, div_eq_ok.2 ⟨hP, rfl⟩, rfl⟩⟩
      · exact ⟨0, rfl⟩
    by_cases hcut : w < stake / 10 ^ 9
    · refine ⟨0, bind_eq_ok.2 ⟨_, sub_eq_ok.2 ⟨hscale, rfl⟩, bind_eq_ok.2 ⟨w, hw, ?_⟩⟩⟩
      rw [if_pos hcut]
      rfl
    · refine ⟨w, bind_eq_ok.2 ⟨_, sub_eq_ok.2 ⟨hscale, rfl⟩, bind_eq_ok.2 ⟨w, hw, ?_⟩⟩⟩
      rw [if_neg hcut]
      rfl

theorem exactStake_nonneg (sp : StabilityPool) (stake : ℕ) (snapshots : Snapshots) :
    0 ≤ sp.exactStake stake snapshots := share_nonneg _ _ _

theorem exactDeposit_of_initialValue_eq_zero (h : (sp.deposits d).initialValue = 0) :
    sp.exactDeposit d = 0 := by
  unfold exactDeposit exactStake
  rw [h, share_zero]

theorem getCompoundedUSDDDeposit_le (h : getCompoundedUSDDDeposit sp d = .ok v) :
    (v : ℚ) ≤ sp.exactDeposit d := by
  unfold getCompoundedUSDDDeposit at h
  split_ifs at h
  · rw [← pure_eq_ok.1 h, Nat.cast_zero]
    exact exactStake_nonneg _ _ _
  · exact getCompoundedStakeFromSnapshots_le h

theorem Timely.getCompoundedUSDDDeposit_eq_ok (h : sp.Timely) (d : Address) :
    ∃ v, getCompoundedUSDDDeposit sp d = .ok v := by
  unfold getCompoundedUSDDDeposit
  split_ifs with hz
  · exact ⟨0, rfl⟩
  · exact getCompoundedStakeFromSnapshots_eq_ok (h.deposits d hz).clock _

theorem getCompoundedFrontEndStake_le (h : getCompoundedFrontEndStake sp f = .ok v) :
    (v : ℚ) ≤ sp.exactFrontEndStake f := by
  unfold getCompoundedFrontEndStake at h
  split_ifs at h
  · rw [← pure_eq_ok.1 h, Nat.cast_zero]
    exact exactStake_nonneg _ _ _
  · exact getCompoundedStakeFromSnapshots_le h

theorem Timely.getCompoundedFrontEndStake_eq_ok (h : sp.Timely) (f : Address) :
    ∃ v, getCompoundedFrontEndStake sp f = .ok v := by
  unfold getCompoundedFrontEndStake
  split_ifs with hz
  · exact ⟨0, rfl⟩
  · exact getCompoundedStakeFromSnapshots_eq_ok (h.frontEnds f hz).clock _

end Compounded

section Gains

/-- A gain is its exact value rounded down. -/
theorem getGainFromSnapshots_le (h : getGainFromSnapshots sums start stake snapshots = .ok v) :
    (v : ℚ) * decimalPrecision ≤ gain scaleFactor sums start snapshots.clock stake := by
  obtain ⟨first, hfirst, h⟩ := bind_eq_ok.1 h
  obtain ⟨-, rfl⟩ := sub_eq_ok.1 hfirst
  obtain ⟨w, hw, h⟩ := bind_eq_ok.1 h
  obtain ⟨-, rfl⟩ := div_eq_ok.1 hw
  rw [← pure_eq_ok.1 h]
  exact floor_gain_le unit_pos

theorem getGainFromSnapshots_eq_ok (hP : 0 < snapshots.P)
    (hstart : start ≤ sums snapshots.epoch snapshots.scale) (stake : ℕ) :
    ∃ v, getGainFromSnapshots sums start stake snapshots = .ok v :=
  ⟨_, bind_eq_ok.2 ⟨_, sub_eq_ok.2 ⟨hstart, rfl⟩,
    bind_eq_ok.2 ⟨_, div_eq_ok.2 ⟨hP.ne', rfl⟩, rfl⟩⟩⟩

end Gains

section Writes

theorem exactDeposit_changeDeposit (hP : 0 < sp.P) (depositor frontEnd : Address)
    (deposit stake total coll : ℕ) (a : Address) :
    exactDeposit
      { updateDepositAndSnapshots (updateFrontEndStakeAndSnapshots sp frontEnd stake) depositor
          deposit with
        totalUSDDDeposits := total
        coll := coll } a = if a = depositor then (deposit : ℚ) else sp.exactDeposit a := by
  rw [changeDeposit_eq]
  unfold exactDeposit exactStake
  dsimp only
  by_cases ha : a = depositor
  · rw [if_pos ha, ha, Function.update_self, Function.update_self]
    by_cases hz : deposit = 0
    · rw [hz, share_zero, Nat.cast_zero]
    · have hclock : 0 < sp.clock.product := hP
      rw [if_neg hz, if_neg hz]
      exact share_self hclock _
  · rw [if_neg ha, Function.update_of_ne ha, Function.update_of_ne ha]
    rfl

theorem exactFrontEndStake_changeDeposit (hP : 0 < sp.P) (depositor frontEnd : Address)
    (deposit stake total coll : ℕ) (f : Address) :
    exactFrontEndStake
      { updateDepositAndSnapshots (updateFrontEndStakeAndSnapshots sp frontEnd stake) depositor
          deposit with
        totalUSDDDeposits := total
        coll := coll } f = if f = frontEnd then (stake : ℚ) else sp.exactFrontEndStake f := by
  rw [changeDeposit_eq]
  unfold exactFrontEndStake exactStake
  dsimp only
  by_cases hf : f = frontEnd
  · rw [if_pos hf, hf, Function.update_self, Function.update_self]
    by_cases hz : stake = 0
    · rw [hz, share_zero, Nat.cast_zero]
    · have hclock : 0 < sp.clock.product := hP
      rw [if_neg hz]
      exact share_self hclock _
  · rw [if_neg hf, Function.update_of_ne hf, Function.update_of_ne hf]
    rfl

/-- A sum read at an earlier clock cannot be more than what it is after a record. -/
theorem le_of_le_record {epoch scale amount e s : ℕ} (h : start ≤ sums e s) :
    start ≤ record sums epoch scale amount e s :=
  h.trans (le_record _ _ _ _ _ _)

theorem TakenBefore.mono (h : sp.TakenBefore snapshots) (hclock : sp.clock.Precedes sp'.clock)
    (hG : ∀ e s, sp.epochToScaleToG e s ≤ sp'.epochToScaleToG e s) : sp'.TakenBefore snapshots :=
  ⟨h.clock.trans hclock, h.G.trans (hG _ _)⟩

theorem Timely.takenBefore_currentSnapshots (h : sp.Timely) : sp.TakenBefore (currentSnapshots sp) :=
  ⟨Clock.Precedes.refl h.product, le_rfl⟩

end Writes

end StabilityPool

open StabilityPool

variable {D : Deployment} {b b' : Book}

theorem StabilityPool.Timely.event (h : b.pool.Timely) (he : Event D b b') : b'.pool.Timely := by
  have hself : b.pool.clock.Precedes b.pool.clock := Clock.Precedes.refl h.product
  cases he with
  | @offsets debt coll rewards pool hpos hrewards hpool hdebt hcoll hsupply hdeposits husdd =>
      obtain ⟨-, hP, lossError, collError, clock, hclock, -, -, rfl⟩ := offset_eq_ok hrewards hpool
      have hlater : b.pool.clock.Precedes clock := by
        rw [hclock]
        exact precedes_charge h.product _
      exact
        { product := hP
          deposits := fun d hd => (h.deposits d hd).mono hlater (fun _ _ => le_rfl)
          sums := fun d hd => le_of_le_record (h.sums d hd)
          frontEnds := fun f hf => (h.frontEnds f hf).mono hlater (fun _ _ => le_rfl)
          unreachedSum := (h.unreachedSum.record _).mono hlater
          unreachedG := h.unreachedG.mono hlater }
  | issues hpool =>
      obtain ⟨rate, lastDEFTError, rfl, -⟩ := updateG_eq_ok hpool
      exact
        { product := h.product
          deposits := fun d hd => (h.deposits d hd).mono hself (fun _ _ => le_record _ _ _ _ _ _)
          sums := h.sums
          frontEnds := fun f hf => (h.frontEnds f hf).mono hself (fun _ _ => le_record _ _ _ _ _ _)
          unreachedSum := h.unreachedSum
          unreachedG := h.unreachedG.record _ }
  | @tags depositor frontEndTag htag =>
      obtain ⟨deposits, heq, hsame⟩ := setTagOfNewDeposit_eq b.pool depositor frontEndTag
      show (setTagOfNewDeposit b.pool depositor frontEndTag).Timely
      rw [heq]
      refine ⟨h.product, fun d hd => ?_, fun d hd => ?_,
        fun f hf => (h.frontEnds f hf).mono hself (fun _ _ => le_rfl), h.unreachedSum,
        h.unreachedG⟩
      · rw [hsame] at hd
        exact (h.deposits d hd).mono hself (fun _ _ => le_rfl)
      · rw [hsame] at hd
        exact h.sums d hd
  | @changesDeposit depositor deposit frontEndStake gain provided withdrawn =>
      show Timely { updateDepositAndSnapshots _ _ _ with
        totalUSDDDeposits := _
        coll := _ }
      rw [changeDeposit_eq]
      have hnow := h.takenBefore_currentSnapshots
      refine ⟨h.product, fun d hd => ?_, fun d hd => ?_, fun f hf => ?_, h.unreachedSum,
        h.unreachedG⟩
      · suffices b.pool.TakenBefore _ from this.mono hself (fun _ _ => le_rfl)
        dsimp only at hd ⊢
        by_cases had : d = depositor
        · subst had
          rw [Function.update_self] at hd ⊢
          rwa [if_neg hd]
        · rw [Function.update_of_ne had] at hd ⊢
          exact h.deposits d hd
      · dsimp only at hd ⊢
        by_cases had : d = depositor
        · subst had
          rw [Function.update_self] at hd ⊢
          rw [if_neg hd]
          exact le_rfl
        · rw [Function.update_of_ne had] at hd ⊢
          exact h.sums d hd
      · suffices b.pool.TakenBefore _ from this.mono hself (fun _ _ => le_rfl)
        dsimp only at hf ⊢
        by_cases haf : f = (b.pool.deposits depositor).frontEndTag
        · subst haf
          rw [Function.update_self] at hf ⊢
          rw [if_neg hf]
          exact ⟨hnow.clock, hnow.G⟩
        · rw [Function.update_of_ne haf] at hf ⊢
          exact h.frontEnds f hf
  | registers =>
      exact ⟨h.product, fun d hd => (h.deposits d hd).mono hself (fun _ _ => le_rfl), h.sums,
        fun f hf => (h.frontEnds f hf).mono hself (fun _ _ => le_rfl), h.unreachedSum,
        h.unreachedG⟩
  | _ => exact h

end Usdd

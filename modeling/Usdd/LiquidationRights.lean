import Usdd.LiquidationParts
import Usdd.TroveRights

/-!
# Which troves a liquidation can close

A liquidation closes a trove below the minimum ratio, or, in Recovery Mode, one below the critical
ratio whose whole debt the deposits pay for. The owner of the latter can claim what the capped
collateral leaves. Every other trove keeps its record.
-/

open Transaction

namespace Usdd

open TroveManager

/-- The collateral that an account can claim. -/
def State.surplus (D : Deployment) (s : State) (a : Address) : ℕ :=
  s.collSurplusPool.balances a D.collToken

structure Spared (D : Deployment) (s s' : State) (a : Address) : Prop extends KeepsRecord s s' a where
  surplus : s'.surplus D a = s.surplus D a

/-- The trove is closed by a liquidation for its ratio in `s`. -/
structure Seized (D : Deployment) (price : ℕ) (s s' : State) (a : Address) : Prop where
  active : s.troveManager.Active a
  closed : (s'.troveManager.troves a).status = .closedByLiquidation
  cause :
    s.troveManager.currentICR price a < MCR ∧ s'.surplus D a = s.surplus D a ∨
    checkRecoveryMode D s price = true ∧ MCR ≤ s.troveManager.currentICR price a ∧
      s.troveManager.currentICR price a < CCR ∧
      s.troveManager.currentDebt a ≤ s.stabilityPool.totalUSDDDeposits ∧
      s'.surplus D a = s.surplus D a +
        (s.troveManager.currentColl a - s.troveManager.currentDebt a * MCR / price)

variable {D : Deployment} {m : Message} {s s₁ s' : State} {a borrower : Address} {price : ℕ}

section Records

theorem KeepsRecord.currentDebt (h : KeepsRecord s s' a)
    (hdebt : s'.troveManager.lUSDDDebt = s.troveManager.lUSDDDebt) :
    s'.troveManager.currentDebt a = s.troveManager.currentDebt a := by
  unfold TroveManager.currentDebt TroveManager.pendingDebt RewardAccumulator.earned
    TroveManager.stakes TroveManager.debtSnapshots
  rw [h.debt, h.stake, h.snapshot, hdebt]

theorem KeepsRecord.currentColl (h : KeepsRecord s s' a)
    (hcoll : s'.troveManager.lColl = s.troveManager.lColl) :
    s'.troveManager.currentColl a = s.troveManager.currentColl a := by
  unfold TroveManager.currentColl TroveManager.pendingColl RewardAccumulator.earned
    TroveManager.stakes TroveManager.collSnapshots
  rw [h.coll, h.stake, h.snapshot, hcoll]

/-- What a liquidation may change of an account, in whatever account: its trove and its claim. -/
def State.records (s : State) :
    (Address → Trove) × (Address → RewardSnapshot) × (Address → Address → ℕ) :=
  (s.troveManager.troves, s.troveManager.rewardSnapshots, s.collSurplusPool.balances)

theorem Spared.refl (D : Deployment) (s : State) (a : Address) : Spared D s s a :=
  ⟨KeepsRecord.refl s a, rfl⟩

theorem Spared.trans (h : Spared D s s₁ a) (h' : Spared D s₁ s' a) : Spared D s s' a :=
  ⟨h.toKeepsRecord.trans h'.toKeepsRecord, h'.surplus.trans h.surplus⟩

theorem Spared.of_records (D : Deployment) (h : s'.records = s.records) (a : Address) :
    Spared D s s' a := by
  obtain ⟨htroves, h⟩ := Prod.mk.inj h
  obtain ⟨hsnapshots, hbalances⟩ := Prod.mk.inj h
  refine ⟨⟨?_, ?_, ?_, ?_, ?_⟩, ?_⟩
  · rw [htroves]
  · rw [htroves]
  · rw [htroves]
  · rw [htroves]
  · rw [hsnapshots]
  · rw [State.surplus, hbalances]
    rfl

/-- A closed trove stays closed with what is left to claim. -/
theorem Seized.spared (h : Seized D price s s₁ a) (h' : Spared D s₁ s' a) :
    Seized D price s s' a := by
  refine ⟨h.active, h'.status.trans h.closed, ?_⟩
  rw [h'.surplus]
  exact h.cause

end Records

namespace TroveManager

variable {entire : EntireDebtAndColl} {v : LiquidationValues} {icr tcr usddInStabPool : ℕ}

section Single

/-- The only trove that changes is closed by a liquidation. -/
structure Closes (s s' : State) (borrower : Address) : Prop where
  active : s.troveManager.Active borrower
  frame : Frame s.troveManager s'.troveManager borrower
  closed : (s'.troveManager.troves borrower).status = .closedByLiquidation
  list : SortedTroves.remove s.sortedTroves borrower = .ok s'.sortedTroves

theorem movePendingTroveRewardsToActivePool_surplus {debt coll : ℕ}
    (h : movePendingTroveRewardsToActivePool D s debt coll = .ok s') :
    s'.collSurplusPool = s.collSurplusPool := by
  have hensures : Ensures (fun s' => s'.collSurplusPool = s.collSurplusPool)
      (movePendingTroveRewardsToActivePool D s debt coll) := by
    simp [movePendingTroveRewardsToActivePool, DefaultPool.decreaseUSDDDebt,
      DefaultPool.requireCallerIsTroveManager, ActivePool.increaseUSDDDebt,
      DefaultPool.sendToActivePool, DefaultPool.requireCallerIsTroveManagerOf,
      ActivePool.receiveColl, Token.transfer]
  exact hensures s' h

theorem settleTrove_closeTrove_closes (hreg : Registry s.troveManager s.sortedTroves)
    (h₁ : settleTrove D s borrower entire = .ok s₁)
    (h : closeTrove s₁ borrower .closedByLiquidation = .ok s') :
    Closes s s' borrower ∧ s'.collSurplusPool = s.collSurplusPool := by
  obtain ⟨s₂, h₂, h₁⟩ := bind_eq_ok.1 h₁
  obtain ⟨tm₁, htm₁, h₁⟩ := bind_eq_ok.1 h₁
  rw [← pure_eq_ok.1 h₁] at h
  obtain ⟨-, -, hb⟩ := movePendingTroveRewardsToActivePool_book h₂ 0 0 0
  obtain ⟨htm₂, hlist₂⟩ : s₂.troveManager = s.troveManager ∧ s₂.sortedTroves = s.sortedTroves :=
    ⟨congrArg Book.troveManager hb, congrArg Book.sortedTroves hb⟩
  obtain ⟨-, -, tm', list, howner, hlist, rfl⟩ := closeTrove_book h
  rw [htm₂] at htm₁
  rw [hlist₂] at hlist
  have howners : tm₁.troveOwners = s.troveManager.troveOwners := by
    obtain ⟨-, rfl⟩ := removeStake_eq_ok htm₁
    rfl
  rw [howners] at howner
  obtain ⟨-, -, rfl⟩ := departed_eq_ok htm₁ howner
  obtain ⟨pre, post, hl, -⟩ := SortedTroves.remove_eq_ok hreg.list hlist
  refine ⟨⟨?_, departed_frame, ?_, hlist⟩, (movePendingTroveRewardsToActivePool_surplus h₂ :)⟩
  · rw [← hreg.mem_list, hl]
    simp
  · dsimp only
    rw [departed_troves, if_pos rfl]

theorem liquidateNormalMode_closes (hreg : Registry s.troveManager s.sortedTroves)
    (h : liquidateNormalMode D s borrower usddInStabPool = .ok (s', v)) :
    Closes s s' borrower ∧ s'.collSurplusPool = s.collSurplusPool := by
  obtain ⟨entire, -, h⟩ := bind_eq_ok.1 h
  obtain ⟨s₁, h₁, h⟩ := bind_eq_ok.1 h
  obtain ⟨_, -, h⟩ := bind_eq_ok.1 h
  obtain ⟨_, -, h⟩ := bind_eq_ok.1 h
  obtain ⟨s₂, h₂, h⟩ := bind_eq_ok.1 h
  cases pure_eq_ok.1 h
  exact settleTrove_closeTrove_closes hreg h₁ h₂

theorem accountCollSurplus_surplus {collSurplus : ℕ}
    (h : accountCollSurplus D s borrower collSurplus = .ok s') :
    s'.troveManager = s.troveManager ∧ s'.sortedTroves = s.sortedTroves ∧
      ∀ a, s'.surplus D a = s.surplus D a + if a = borrower then collSurplus else 0 := by
  unfold accountCollSurplus at h
  split_ifs at h with hpos
  · obtain ⟨_, -, h⟩ := bind_eq_ok.1 h
    obtain ⟨_, -, h⟩ := bind_eq_ok.1 h
    cases pure_eq_ok.1 h
    refine ⟨rfl, rfl, fun a => ?_⟩
    unfold State.surplus
    by_cases ha : a = borrower
    · subst ha
      simp
    · simp [ha]
  · cases pure_eq_ok.1 h
    have hzero : collSurplus = 0 := by omega
    exact ⟨rfl, rfl, fun a => by rw [hzero, ite_self, Nat.add_zero]⟩

theorem getCappedOffsetVals_collSurplus {debt coll : ℕ}
    (h : getCappedOffsetVals debt coll price = .ok v) : v.collSurplus = coll - debt * MCR / price := by
  obtain ⟨_, hcapped, h⟩ := bind_eq_ok.1 h
  obtain ⟨_, -, h⟩ := bind_eq_ok.1 h
  obtain ⟨_, hsurplus, h⟩ := bind_eq_ok.1 h
  obtain ⟨-, rfl⟩ := div_eq_ok.1 hcapped
  obtain ⟨-, rfl⟩ := sub_eq_ok.1 hsurplus
  cases pure_eq_ok.1 h
  rfl

/-- A trove is skipped, or closed below the minimum ratio, or closed below the total ratio with its
debt paid by the deposits. -/
theorem liquidateRecoveryMode_closes (hreg : Registry s.troveManager s.sortedTroves)
    (h : liquidateRecoveryMode D s borrower icr usddInStabPool tcr price = .ok (s', v)) :
    s' = s ∧ v.collSurplus = 0 ∨ Closes s s' borrower ∧
      (∀ a, s'.surplus D a = s.surplus D a + if a = borrower then v.collSurplus else 0) ∧
      (icr < MCR ∧ v.collSurplus = 0 ∨
        MCR ≤ icr ∧ icr < tcr ∧ ∃ entire, getEntireDebtAndColl s.troveManager borrower = .ok entire ∧
          entire.debt ≤ usddInStabPool ∧
          v.collSurplus = entire.coll - entire.debt * MCR / price) := by
  rcases ite_eq_ok.1 h with ⟨-, h⟩ | ⟨-, h⟩
  · cases pure_eq_ok.1 h
    exact Or.inl ⟨rfl, rfl⟩
  obtain ⟨entire, hentire, h⟩ := bind_eq_ok.1 h
  obtain ⟨_, -, h⟩ := bind_eq_ok.1 h
  have hunit : decimalPrecision < MCR := by decide
  have hsame {s' : State} (hpool : s'.collSurplusPool = s.collSurplusPool) (a : Address) :
      s'.surplus D a = s.surplus D a + if a = borrower then 0 else 0 := by
    rw [ite_self, Nat.add_zero, State.surplus, hpool]
    rfl
  split_ifs at h with h₀ h₁ h₂
  · obtain ⟨s₁, hs₁, h⟩ := bind_eq_ok.1 h
    obtain ⟨s₂, hs₂, h⟩ := bind_eq_ok.1 h
    cases pure_eq_ok.1 h
    obtain ⟨hc, hpool⟩ := settleTrove_closeTrove_closes hreg hs₁ hs₂
    exact Or.inr ⟨hc, hsame hpool, Or.inl ⟨by omega, rfl⟩⟩
  · obtain ⟨s₁, hs₁, h⟩ := bind_eq_ok.1 h
    obtain ⟨_, -, h⟩ := bind_eq_ok.1 h
    obtain ⟨s₂, hs₂, h⟩ := bind_eq_ok.1 h
    cases pure_eq_ok.1 h
    obtain ⟨hc, hpool⟩ := settleTrove_closeTrove_closes hreg hs₁ hs₂
    exact Or.inr ⟨hc, hsame hpool, Or.inl ⟨h₁.2, rfl⟩⟩
  · obtain ⟨_, -, h⟩ := bind_eq_ok.1 h
    obtain ⟨s₁, hs₁, h⟩ := bind_eq_ok.1 h
    obtain ⟨single, hsingle, h⟩ := bind_eq_ok.1 h
    obtain ⟨s₂, hs₂, h⟩ := bind_eq_ok.1 h
    obtain ⟨s₃, hs₃, h⟩ := bind_eq_ok.1 h
    cases pure_eq_ok.1 h
    obtain ⟨hc, hpool⟩ := settleTrove_closeTrove_closes hreg hs₁ hs₂
    obtain ⟨htm, hlist, hsurplus⟩ := accountCollSurplus_surplus hs₃
    refine Or.inr ⟨⟨hc.active, ?_, ?_, ?_⟩, fun a => ?_, Or.inr ⟨h₂.1, h₂.2.1, entire, hentire,
      h₂.2.2, getCappedOffsetVals_collSurplus hsingle⟩⟩
    · rw [htm]
      exact hc.frame
    · rw [htm]
      exact hc.closed
    · rw [hlist]
      exact hc.list
    · rw [hsurplus, State.surplus, hpool]
      rfl
  · cases pure_eq_ok.1 h
    exact Or.inl ⟨rfl, rfl⟩

end Single

section Sequences

variable {q q' : Sequence} {user : Address} {n : ℕ}

/-- What holds along a sequence of liquidations from `s`: each trove keeps its record or is closed for
its ratio in `s`. While the sequence is in Recovery Mode, the running total ratio is critical. -/
structure Sequence.Rightful (D : Deployment) (price : ℕ) (s : State) (q : Sequence) : Prop where
  follows : q.Follows D s
  lColl : q.state.troveManager.lColl = s.troveManager.lColl
  lUSDDDebt : q.state.troveManager.lUSDDDebt = s.troveManager.lUSDDDebt
  critical : checkRecoveryMode D s price = true → q.backToNormalMode = false →
    LiquityMath.computeCR q.entireSystemColl q.entireSystemDebt price < CCR
  troves : ∀ a, Spared D s q.state a ∨ Seized D price s q.state a

theorem Sequence.start_rightful (D : Deployment) (price : ℕ) (s : State) :
    (Sequence.start D s).Rightful D price s where
  follows := Sequence.start_follows D s
  lColl := rfl
  lUSDDDebt := rfl
  critical h _ := of_decide_eq_true h
  troves a := Or.inl (Spared.refl D s a)

/-- The trove that is closed has its record, and so its amounts and its ratio, from `s`. -/
theorem Sequence.Rightful.amounts (h : q.Rightful D price s)
    (hreg : Registry s.troveManager s.sortedTroves) (ha : q.state.troveManager.Active user)
    (hicr : getCurrentICR q.state.troveManager user price = .ok icr) :
    Spared D s q.state user ∧ s.troveManager.Active user ∧
      icr = s.troveManager.currentICR price user ∧
      ∀ entire, getEntireDebtAndColl q.state.troveManager user = .ok entire →
        entire.debt = s.troveManager.currentDebt user ∧
          entire.coll = s.troveManager.currentColl user := by
  have hspared : Spared D s q.state user := by
    rcases h.troves user with hspared | hseized
    · exact hspared
    · have hclosed := hseized.closed
      unfold TroveManager.Active at ha
      rw [ha] at hclosed
      cases hclosed
  have hs : s.troveManager.Active user := hspared.active_iff.1 ha
  refine ⟨hspared, hs, ?_, fun entire hentire => ?_⟩
  · rw [hspared.getCurrentICR h.lColl h.lUSDDDebt,
      getCurrentICR_of_mem hreg ((hreg.mem_list user).2 hs)] at hicr
    cases hicr
    rfl
  · obtain ⟨hcoll, hdebt, hd, hc⟩ := getEntireDebtAndColl_eq_ok hentire
    rw [← hspared.currentDebt h.lUSDDDebt, ← hspared.currentColl h.lColl, hd, hc,
      ((getPendingCollReward_eq_ok_iff ha).1 hcoll).2,
      ((getPendingUSDDDebtReward_eq_ok_iff ha).1 hdebt).2]
    exact ⟨rfl, rfl⟩

/-- The troves other than the one that is closed. -/
theorem Sequence.Rightful.others (h : q.Rightful D price s) (hc : Closes q.state s' user)
    (hsurplus : ∀ a, a ≠ user → s'.surplus D a = q.state.surplus D a) (ha : a ≠ user) :
    Spared D s s' a ∨ Seized D price s s' a := by
  have hnext : Spared D q.state s' a := ⟨KeepsRecord.of_frame hc.frame ha, hsurplus a ha⟩
  rcases h.troves a with hspared | hseized
  · exact Or.inl (hspared.trans hnext)
  · exact Or.inr (hseized.spared hnext)

theorem Sequence.Rightful.liquidateInNormalMode (h : q.Rightful D price s)
    (hreg : Registry s.troveManager s.sortedTroves)
    (hicr : getCurrentICR q.state.troveManager user price = .ok icr) (hlow : icr < MCR)
    (hq : q.liquidateInNormalMode D user = .ok q') : q'.Rightful D price s := by
  have hfollows := h.follows.liquidateInNormalMode hreg hq
  obtain ⟨r, hr, hq⟩ := bind_eq_ok.1 hq
  obtain ⟨_, -, hq⟩ := bind_eq_ok.1 hq
  obtain ⟨hc, hpool⟩ := liquidateNormalMode_closes (h.follows.registry hreg) hr
  obtain ⟨hspared, hactive, hratio, -⟩ := h.amounts hreg hc.active hicr
  have hsurplus (a : Address) : r.1.surplus D a = q.state.surplus D a := by
    rw [State.surplus, hpool]
    rfl
  cases pure_eq_ok.1 hq
  refine ⟨hfollows, hc.frame.lColl.trans h.lColl, hc.frame.lUSDDDebt.trans h.lUSDDDebt, h.critical,
    fun a => ?_⟩
  by_cases ha : a = user
  · subst ha
    refine Or.inr ⟨hactive, hc.closed, Or.inl ⟨?_, ?_⟩⟩
    · rwa [← hratio]
    · exact (hsurplus a).trans hspared.surplus
  · exact h.others hc (fun a _ => hsurplus a) ha

theorem Sequence.Rightful.liquidateInRecoveryMode {subtractSurplus : Bool}
    (h : q.Rightful D price s) (hreg : Registry s.troveManager s.sortedTroves)
    (hrecovery : checkRecoveryMode D s price = true)
    (hicr : getCurrentICR q.state.troveManager user price = .ok icr)
    (hback : q.backToNormalMode = false)
    (hq : q.liquidateInRecoveryMode D price user icr subtractSurplus = .ok q') :
    q'.Rightful D price s := by
  have hfollows := h.follows.liquidateInRecoveryMode hreg hq
  have htcr := h.critical hrecovery hback
  obtain ⟨r, hr, hq⟩ := bind_eq_ok.1 hq
  obtain ⟨_, -, hq⟩ := bind_eq_ok.1 hq
  obtain ⟨_, -, hq⟩ := bind_eq_ok.1 hq
  obtain ⟨_, -, hq⟩ := bind_eq_ok.1 hq
  obtain ⟨_, -, hq⟩ := bind_eq_ok.1 hq
  have hdeposits := h.follows.deposits
  have hcloses := liquidateRecoveryMode_closes (h.follows.registry hreg) hr
  cases pure_eq_ok.1 hq
  have hcritical {coll debt : ℕ} (hb : (!checkPotentialRecoveryMode coll debt price) = false) :
      LiquityMath.computeCR coll debt price < CCR := by
    rw [Bool.not_eq_false'] at hb
    exact of_decide_eq_true hb
  rcases hcloses with ⟨hskip, -⟩ | ⟨hc, hsurplus, hcause⟩
  · have hsame : r.1 = q.state := hskip
    refine ⟨hfollows, ?_, ?_, fun _ hb => hcritical hb, fun a => ?_⟩
    · rw [← h.lColl, ← hsame]
    · rw [← h.lUSDDDebt, ← hsame]
    · dsimp only
      rw [hsame]
      exact h.troves a
  · obtain ⟨hspared, hactive, hratio, hentire⟩ := h.amounts hreg hc.active hicr
    refine ⟨hfollows, hc.frame.lColl.trans h.lColl, hc.frame.lUSDDDebt.trans h.lUSDDDebt,
      fun _ hb => hcritical hb, fun a => ?_⟩
    rcases hcause with ⟨hlow, hzero⟩ | ⟨hmin, hlow, entire, hok, hle, hcapped⟩
    · have hkept (a : Address) : r.1.surplus D a = q.state.surplus D a := by
        rw [hsurplus, hzero, ite_self, Nat.add_zero]
      by_cases ha : a = user
      · subst ha
        refine Or.inr ⟨hactive, hc.closed, Or.inl ⟨?_, ?_⟩⟩
        · rwa [← hratio]
        · exact (hkept a).trans hspared.surplus
      · exact h.others hc (fun a _ => hkept a) ha
    · obtain ⟨hdebt, hcoll⟩ := hentire entire hok
      by_cases ha : a = user
      · subst ha
        refine Or.inr ⟨hactive, hc.closed, Or.inr ⟨hrecovery, ?_, ?_, ?_, ?_⟩⟩
        · rwa [← hratio]
        · rw [← hratio]
          exact hlow.trans htcr
        · rw [← hdebt]
          omega
        · dsimp only
          rw [hsurplus, if_pos rfl, hcapped, hspared.surplus, hdebt, hcoll]
      · refine h.others hc (fun a ha => ?_) ha
        rw [hsurplus, if_neg ha, Nat.add_zero]

theorem totalsFromLiquidateTrovesSequence_rightful (hreg : Registry s.troveManager s.sortedTroves)
    (hq : totalsFromLiquidateTrovesSequence D price s n = .ok q) : q.Rightful D price s := by
  unfold totalsFromLiquidateTrovesSequence at hq
  split_ifs at hq with hmode
  · exact liquidateTrovesSequenceRecoveryMode_guarded
      (fun _ _ _ _ _ h hicr hback hq => h.liquidateInRecoveryMode hreg hmode hicr hback hq)
      (fun _ _ _ _ h hicr hlow hq => h.liquidateInNormalMode hreg hicr hlow hq)
      (Sequence.start_rightful D price s) hq
  · exact liquidateTrovesSequenceNormalMode_guarded
      (fun _ _ _ _ h hicr hlow hq => h.liquidateInNormalMode hreg hicr hlow hq)
      (Sequence.start_rightful D price s) hq

theorem totalsFromBatchLiquidate_rightful {troveArray : List Address}
    (hreg : Registry s.troveManager s.sortedTroves)
    (hq : totalsFromBatchLiquidate D price s troveArray = .ok q) : q.Rightful D price s := by
  unfold totalsFromBatchLiquidate at hq
  split_ifs at hq with hmode
  · exact batchLiquidateRecoveryMode_guarded
      (fun _ _ _ _ _ h hicr hback hq => h.liquidateInRecoveryMode hreg hmode hicr hback hq)
      (fun _ _ _ _ h hicr hlow hq => h.liquidateInNormalMode hreg hicr hlow hq)
      (Sequence.start_rightful D price s) hq
  · exact batchLiquidateNormalMode_guarded
      (fun _ _ _ _ h hicr hlow hq => h.liquidateInNormalMode hreg hicr hlow hq)
      (Sequence.start_rightful D price s) hq

end Sequences

section Settlement

variable {liquidator : Address} {debt coll : ℕ} {totals : LiquidationTotals}

theorem triggerDEFTIssuance_records (h : StabilityPool.triggerDEFTIssuance D m s = .ok s') :
    s'.records = s.records := by
  obtain ⟨⟨s₁, issuance⟩, h₁, h⟩ := bind_eq_ok.1 h
  obtain ⟨_, -, h⟩ := bind_eq_ok.1 h
  obtain ⟨_, -, h₁⟩ := bind_eq_ok.1 h₁
  obtain ⟨_, -, h₁⟩ := bind_eq_ok.1 h₁
  obtain ⟨_, -, h₁⟩ := bind_eq_ok.1 h₁
  obtain ⟨_, -, h₁⟩ := bind_eq_ok.1 h₁
  cases pure_eq_ok.1 h₁
  rw [← pure_eq_ok.1 h]
  rfl

theorem moveOffsetCollAndDebt_records :
    Ensures (fun s' => s'.records = s.records) (StabilityPool.moveOffsetCollAndDebt D s coll debt) := by
  simp [StabilityPool.moveOffsetCollAndDebt, ActivePool.decreaseUSDDDebt, StabilityPool.decreaseUSDD,
    USDDToken.burn, ActivePool.sendColl, Token.transfer, State.records]

theorem offset_records {sender : Address}
    (h : StabilityPool.offset D m sender s debt coll = .ok s') : s'.records = s.records := by
  obtain ⟨_, -, h⟩ := bind_eq_ok.1 h
  rcases ite_eq_ok.1 h with ⟨-, h⟩ | ⟨-, h⟩
  · rw [pure_eq_ok.1 h]
  · obtain ⟨s₁, h₁, h⟩ := bind_eq_ok.1 h
    obtain ⟨_, -, h⟩ := bind_eq_ok.1 h
    obtain ⟨_, -, h⟩ := bind_eq_ok.1 h
    exact (moveOffsetCollAndDebt_records s' h).trans (triggerDEFTIssuance_records h₁ :)

theorem redistributeDebtAndColl_records :
    Ensures (fun s' => s'.records = s.records) (redistributeDebtAndColl D s debt coll) := by
  simp [redistributeDebtAndColl, addRewardTerms, ActivePool.decreaseUSDDDebt,
    DefaultPool.increaseUSDDDebt, DefaultPool.requireCallerIsTroveManager, ActivePool.sendColl,
    DefaultPool.receiveColl, DefaultPool.requireCallerIsTroveManagerOf, Token.transfer,
    State.records]

theorem sendCollSurplus_records :
    Ensures (fun s' => s'.records = s.records) (sendCollSurplus D s coll) := by
  simp [sendCollSurplus, ActivePool.sendColl, CollSurplusPool.receiveColl, Token.transfer,
    State.records]

theorem sendGasCompensation_records {usdd : ℕ} :
    Ensures (fun s' => s'.records = s.records) (sendGasCompensation D s liquidator usdd coll) := by
  simp [sendGasCompensation, sendUSDDGasCompensation, sendCollGasCompensation,
    USDDToken.returnFromPool, ActivePool.sendColl, Token.transfer, State.records]

theorem settleTotals_records (h : settleTotals D m s liquidator totals = .ok s') :
    s'.records = s.records := by
  obtain ⟨_, -, h⟩ := bind_eq_ok.1 h
  obtain ⟨s₁, h₁, h⟩ := bind_eq_ok.1 h
  obtain ⟨s₂, h₂, h⟩ := bind_eq_ok.1 h
  obtain ⟨s₃, h₃, h⟩ := bind_eq_ok.1 h
  obtain ⟨s₄, h₄, h⟩ := bind_eq_ok.1 h
  obtain ⟨_, -, h⟩ := bind_eq_ok.1 h
  obtain ⟨_, -, h⟩ := bind_eq_ok.1 h
  obtain ⟨_, -, h₄⟩ := bind_eq_ok.1 h₄
  calc
    s'.records = s₄.records := sendGasCompensation_records s' h
    _ = s₃.records := by rw [← pure_eq_ok.1 h₄]; rfl
    _ = s₂.records := sendCollSurplus_records s₃ h₃
    _ = s₁.records := redistributeDebtAndColl_records s₂ h₂
    _ = s.records := offset_records h₁

end Settlement

section Calls

variable {liquidator : Address} {q : Sequence}

theorem Sequence.Rightful.settled (h : q.Rightful D price s)
    (hs : settleTotals D m q.state liquidator q.totals = .ok s') (a : Address) :
    Spared D s s' a ∨ Seized D price s s' a := by
  have hspared := Spared.of_records D (settleTotals_records hs) a
  rcases h.troves a with h | h
  · exact Or.inl (h.trans hspared)
  · exact Or.inr (h.spared hspared)

theorem liquidateTroves_rightful {n : ℕ} (hreg : Registry s.troveManager s.sortedTroves)
    (h : liquidateTroves D m s liquidator n = .ok s') (a : Address) :
    Spared D s s' a ∨ Seized D m.price s s' a := by
  obtain ⟨_, -, h⟩ := bind_eq_ok.1 h
  obtain ⟨q, hq, h⟩ := bind_eq_ok.1 h
  exact (totalsFromLiquidateTrovesSequence_rightful hreg hq).settled h a

theorem batchLiquidateTroves_rightful {troveArray : List Address}
    (hreg : Registry s.troveManager s.sortedTroves)
    (h : batchLiquidateTroves D m s liquidator troveArray = .ok s') (a : Address) :
    Spared D s s' a ∨ Seized D m.price s s' a := by
  obtain ⟨_, -, h⟩ := bind_eq_ok.1 h
  obtain ⟨_, -, h⟩ := bind_eq_ok.1 h
  obtain ⟨q, hq, h⟩ := bind_eq_ok.1 h
  exact (totalsFromBatchLiquidate_rightful hreg hq).settled h a

end Calls

end TroveManager

section Runs

theorem perform_rightful {call : Call} (hreg : Registry s.troveManager s.sortedTroves)
    (hcall : call.liquidates = true) (h : perform D m s call = .ok s') (a : Address) :
    Spared D s s' a ∨ Seized D m.price s s' a := by
  cases call with
  | liquidate liquidator borrower =>
      obtain ⟨_, -, h⟩ := bind_eq_ok.1 h
      exact batchLiquidateTroves_rightful hreg h a
  | liquidateTroves => exact liquidateTroves_rightful hreg h a
  | batchLiquidateTroves => exact batchLiquidateTroves_rightful hreg h a
  | _ => exact Bool.noConfusion hcall

/-- What a liquidation does to each trove. -/
theorem liquidation_takes_only (hw : D.Wired) (h : Reachable D s) {t : Transact}
    (hcall : t.call.liquidates = true) (hs : step D s t = .ok s') (a : Address) :
    Spared D s s' a ∨ Seized D t.message.price s s' a := by
  obtain ⟨s₁, h₁, hs⟩ := bind_eq_ok.1 hs
  have hlast : Spared D s₁ s' a := by
    rw [← pure_eq_ok.1 hs]
    refine Spared.of_records D ?_ a
    rfl
  rcases perform_rightful (h.consistent hw).registry hcall h₁ a with h | h
  · exact Or.inl (h.trans hlast)
  · exact Or.inr (h.spared hlast)

/-- A trove that is at least at the critical ratio whenever somebody makes a call keeps its record as
long as its owner makes none and nobody redeems. -/
theorem solvent_trove_survives (hw : D.Wired) (h : Reachable D s) (ha : s.troveManager.Active a)
    (hrun : Transaction.Reachable (step D) (fun s₀ => s₀ = s)
      (fun s t => Allowed D s t ∧ t.message.sender ≠ a ∧ t.call.redeems = false ∧
        CCR ≤ s.troveManager.currentICR t.message.price a) s') : KeepsRecord s s' a := by
  have hinv : Reachable D s' ∧ KeepsRecord s s' a := by
    refine Transaction.Reachable.invariant (I := fun s₁ => Reachable D s₁ ∧ KeepsRecord s s₁ a)
      ?_ ?_ hrun
    · rintro s₀ rfl
      exact ⟨h, KeepsRecord.refl _ a⟩
    · rintro s₁ t s₂ ⟨h₁, hkept⟩ ⟨hallowed, hsender, hredeems, hratio⟩ hs
      refine ⟨h₁.next hallowed hs, hkept.trans ?_⟩
      by_cases hcall : t.call.liquidates = true
      · have hlt : MCR < CCR := by decide
        obtain ⟨s₃, h₃, hs⟩ := bind_eq_ok.1 hs
        cases pure_eq_ok.1 hs
        rcases perform_rightful (h₁.consistent hw).registry hcall h₃ a with hspared | hseized
        · exact hspared.toKeepsRecord.trans ⟨rfl, rfl, rfl, rfl, rfl⟩
        · rcases hseized.cause with ⟨hlow, -⟩ | ⟨-, -, hlow, -⟩
          · omega
          · omega
      · have htakes : t.call.takesTroves = false := by
          rw [Call.takesTroves, hredeems, Bool.eq_false_of_not_eq_true hcall, Bool.or_false]
        obtain ⟨id, hid, hc⟩ := h₁.step_concerns hw hallowed htakes hs
        apply KeepsRecord.of_frame hc.frame
        rintro rfl
        rcases hid with rfl | ⟨-, hnew⟩
        · exact hsender rfl
        · exact hnew (hkept.active_iff.2 ha)
  exact hinv.2

/-- The second trove is liquidated at a price at which the first one is far above the ratio. -/
theorem sampleSeizure : ∃ s, sampleRun sampleLiquidation = .ok s ∧
    s.troveManager.Active 1 ∧ s.troveManager.Active 2 ∧
    Allowed sampleDeployment s ((Call.liquidate 4 2).sent 4 (45 * decimalPrecision)) ∧
    CCR ≤ s.troveManager.currentICR (45 * decimalPrecision) 1 ∧
    ∃ s', step sampleDeployment s ((Call.liquidate 4 2).sent 4 (45 * decimalPrecision)) = .ok s' ∧
      (s'.troveManager.troves 2).status = .closedByLiquidation := by
  decide +kernel

theorem liquidation_takes_only_of_sample : ∃ s s', sampleRun sampleLiquidation = .ok s ∧
    step sampleDeployment s ((Call.liquidate 4 2).sent 4 (45 * decimalPrecision)) = .ok s' ∧
    Seized sampleDeployment (45 * decimalPrecision) s s' 2 := by
  obtain ⟨s, hs, -, hactive, -, -, s', hs', hclosed⟩ := sampleSeizure
  refine ⟨s, s', hs, hs', ?_⟩
  rcases liquidation_takes_only sampleDeployment_wired (reachable_sampleRun hs) rfl hs' 2 with
    hspared | hseized
  · have hstatus : (s.troveManager.troves 2).status = .active := hactive
    rw [hspared.status, hstatus] at hclosed
    cases hclosed
  · exact hseized

theorem solvent_trove_survives_of_sample : ∃ s s', sampleRun sampleLiquidation = .ok s ∧
    step sampleDeployment s ((Call.liquidate 4 2).sent 4 (45 * decimalPrecision)) = .ok s' ∧
    KeepsRecord s s' 1 := by
  obtain ⟨s, hs, hactive, -, hallowed, hratio, s', hs', -⟩ := sampleSeizure
  exact ⟨s, s', hs, hs', solvent_trove_survives sampleDeployment_wired (reachable_sampleRun hs)
    hactive (.next (.start rfl) ⟨hallowed, by decide, rfl, hratio⟩ hs')⟩

end Runs

end Usdd

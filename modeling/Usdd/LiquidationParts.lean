import Usdd.MarketRuns

/-!
# The parts of a liquidation

A liquidation divides the debt and the collateral of a trove exactly, and offsets no more than it is
given. Nothing that it subtracts is larger than what it is subtracted from, in the capped branch
because the collateral is worth the minimum ratio. Over a sequence the offsets stay within the
deposits.
-/

open Transaction

namespace Usdd

namespace TroveManager

variable {D : Deployment} {s s₁ s₂ s' : State} {borrower : Address} {entire : EntireDebtAndColl}
  {vals : OffsetAndRedistributionVals} {v : LiquidationValues}
  {debt coll price icr tcr usddInStabPool : ℕ}

section Division

/-- The values of a liquidation divide a trove, with no more offset than there are deposits. -/
structure LiquidationValues.Divides (v : LiquidationValues) (entire : EntireDebtAndColl)
    (usddInStabPool : ℕ) : Prop where
  entireDebt : v.entireTroveDebt = entire.debt
  entireColl : v.entireTroveColl = entire.coll
  debt : v.debtToOffset + v.debtToRedistribute = entire.debt
  coll : v.collToSendToSP + v.collToRedistribute + v.collGasCompensation + v.collSurplus =
    entire.coll
  offset : v.debtToOffset ≤ usddInStabPool

theorem getOffsetAndRedistributionVals_divides
    (h : getOffsetAndRedistributionVals debt coll usddInStabPool = .ok vals) :
    vals.debtToOffset + vals.debtToRedistribute = debt ∧
      vals.collToSendToSP + vals.collToRedistribute = coll ∧
      vals.debtToOffset ≤ usddInStabPool := by
  unfold getOffsetAndRedistributionVals at h
  split_ifs at h
  · obtain ⟨collToSendToSP, -, h⟩ := bind_eq_ok.1 h
    obtain ⟨debtToRedistribute, hdebt, h⟩ := bind_eq_ok.1 h
    obtain ⟨collToRedistribute, hcoll, h⟩ := bind_eq_ok.1 h
    obtain ⟨hle, rfl⟩ := sub_eq_ok.1 hdebt
    obtain ⟨hle', rfl⟩ := sub_eq_ok.1 hcoll
    cases pure_eq_ok.1 h
    exact ⟨Nat.add_sub_cancel' hle, Nat.add_sub_cancel' hle', min_le_right _ _⟩
  · cases pure_eq_ok.1 h
    exact ⟨Nat.zero_add _, Nat.zero_add _, Nat.zero_le _⟩

theorem liquidationValues_divides
    (hdebt : vals.debtToOffset + vals.debtToRedistribute = entire.debt)
    (hcoll : vals.collToSendToSP + vals.collToRedistribute =
      entire.coll - getCollGasCompensation entire.coll)
    (hoffset : vals.debtToOffset ≤ usddInStabPool) :
    (liquidationValues entire vals).Divides entire usddInStabPool := by
  have hgas : getCollGasCompensation entire.coll ≤ entire.coll := Nat.div_le_self _ _
  refine ⟨rfl, rfl, hdebt, ?_, hoffset⟩
  dsimp only [liquidationValues]
  omega

theorem getCappedOffsetVals_divides (hle : entire.debt ≤ usddInStabPool)
    (h : getCappedOffsetVals entire.debt entire.coll price = .ok v) :
    v.Divides entire usddInStabPool := by
  obtain ⟨collToOffset, -, h⟩ := bind_eq_ok.1 h
  obtain ⟨collToSendToSP, hsend, h⟩ := bind_eq_ok.1 h
  obtain ⟨collSurplus, hsurplus, h⟩ := bind_eq_ok.1 h
  obtain ⟨hgas, rfl⟩ := sub_eq_ok.1 hsend
  obtain ⟨hcoll, rfl⟩ := sub_eq_ok.1 hsurplus
  cases pure_eq_ok.1 h
  refine ⟨rfl, rfl, Nat.add_zero _, ?_, hle⟩
  dsimp only
  omega

theorem liquidateNormalMode_divides
    (h : liquidateNormalMode D s borrower usddInStabPool = .ok (s', v)) :
    ∃ entire, getEntireDebtAndColl s.troveManager borrower = .ok entire ∧
      v.Divides entire usddInStabPool := by
  obtain ⟨entire, hentire, h⟩ := bind_eq_ok.1 h
  obtain ⟨_, -, h⟩ := bind_eq_ok.1 h
  obtain ⟨collToLiquidate, hliquidate, h⟩ := bind_eq_ok.1 h
  obtain ⟨vals, hvals, h⟩ := bind_eq_ok.1 h
  obtain ⟨_, -, h⟩ := bind_eq_ok.1 h
  rw [← (sub_eq_ok.1 hliquidate).2] at hvals
  obtain ⟨hdebt, hcoll, hoffset⟩ := getOffsetAndRedistributionVals_divides hvals
  cases pure_eq_ok.1 h
  exact ⟨entire, hentire, liquidationValues_divides hdebt hcoll hoffset⟩

/-- A trove that is skipped has the zero values. -/
theorem liquidateRecoveryMode_divides
    (h : liquidateRecoveryMode D s borrower icr usddInStabPool tcr price = .ok (s', v)) :
    (s' = s ∧ v = .zero) ∨ ∃ entire, getEntireDebtAndColl s.troveManager borrower = .ok entire ∧
      v.Divides entire usddInStabPool := by
  rcases ite_eq_ok.1 h with ⟨-, h⟩ | ⟨-, h⟩
  · cases pure_eq_ok.1 h
    exact Or.inl ⟨rfl, rfl⟩
  obtain ⟨entire, hentire, h⟩ := bind_eq_ok.1 h
  obtain ⟨collToLiquidate, hliquidate, h⟩ := bind_eq_ok.1 h
  have hcollToLiquidate := (sub_eq_ok.1 hliquidate).2
  split_ifs at h with h₀ h₁ h₂
  · obtain ⟨_, -, h⟩ := bind_eq_ok.1 h
    obtain ⟨_, -, h⟩ := bind_eq_ok.1 h
    rw [← hcollToLiquidate] at h
    cases pure_eq_ok.1 h
    exact Or.inr ⟨entire, hentire, liquidationValues_divides (Nat.zero_add _) (Nat.zero_add _)
      (Nat.zero_le _)⟩
  · obtain ⟨_, -, h⟩ := bind_eq_ok.1 h
    obtain ⟨vals, hvals, h⟩ := bind_eq_ok.1 h
    obtain ⟨_, -, h⟩ := bind_eq_ok.1 h
    rw [← hcollToLiquidate] at hvals
    obtain ⟨hdebt, hcoll, hoffset⟩ := getOffsetAndRedistributionVals_divides hvals
    cases pure_eq_ok.1 h
    exact Or.inr ⟨entire, hentire, liquidationValues_divides hdebt hcoll hoffset⟩
  · obtain ⟨_, -, h⟩ := bind_eq_ok.1 h
    obtain ⟨_, -, h⟩ := bind_eq_ok.1 h
    obtain ⟨single, hsingle, h⟩ := bind_eq_ok.1 h
    obtain ⟨_, -, h⟩ := bind_eq_ok.1 h
    obtain ⟨_, -, h⟩ := bind_eq_ok.1 h
    cases pure_eq_ok.1 h
    exact Or.inr ⟨entire, hentire, getCappedOffsetVals_divides h₂.2.2 hsingle⟩
  · cases pure_eq_ok.1 h
    exact Or.inl ⟨rfl, rfl⟩

end Division

section Success

theorem getOffsetAndRedistributionVals_succeeds (hpos : 0 < debt) (coll usddInStabPool : ℕ) :
    ∃ vals, getOffsetAndRedistributionVals debt coll usddInStabPool = .ok vals := by
  unfold getOffsetAndRedistributionVals
  split_ifs
  · have hle : coll * min debt usddInStabPool / debt ≤ coll := by
      apply Nat.div_le_of_le_mul
      rw [Nat.mul_comm]
      exact Nat.mul_le_mul_right _ (min_le_left _ _)
    exact ⟨_, bind_eq_ok.2 ⟨_, div_eq_ok.2 ⟨hpos.ne', rfl⟩, bind_eq_ok.2 ⟨_,
      sub_eq_ok.2 ⟨min_le_left _ _, rfl⟩, bind_eq_ok.2 ⟨_, sub_eq_ok.2 ⟨hle, rfl⟩, rfl⟩⟩⟩⟩
  · exact ⟨_, rfl⟩

/-- At or above the minimum ratio, the capped collateral is part of the collateral: both divisions
are rounded down. -/
theorem capped_le (hpos : 0 < debt) (hicr : MCR ≤ LiquityMath.computeCR coll debt price) :
    price ≠ 0 ∧ debt * MCR / price ≤ coll := by
  unfold LiquityMath.computeCR at hicr
  rw [if_pos hpos] at hicr
  have hmul : debt * MCR ≤ coll * price := by
    calc
      debt * MCR ≤ debt * (coll * price / debt) := Nat.mul_le_mul_left _ hicr
      _ ≤ coll * price := Nat.mul_div_le _ _
  have hmin : 0 < MCR := by decide
  refine ⟨fun hz => ?_, Nat.div_le_of_le_mul ?_⟩
  · rw [hz, Nat.mul_zero] at hmul
    exact absurd (Nat.mul_pos hpos hmin) (by omega)
  · rwa [Nat.mul_comm price]

theorem getCappedOffsetVals_succeeds (hpos : 0 < debt)
    (hicr : MCR ≤ LiquityMath.computeCR coll debt price) :
    ∃ v, getCappedOffsetVals debt coll price = .ok v := by
  obtain ⟨hprice, hle⟩ := capped_le hpos hicr
  have hgas : getCollGasCompensation (debt * MCR / price) ≤ debt * MCR / price :=
    Nat.div_le_self _ _
  exact ⟨_, bind_eq_ok.2 ⟨_, div_eq_ok.2 ⟨hprice, rfl⟩, bind_eq_ok.2 ⟨_,
    sub_eq_ok.2 ⟨hgas, rfl⟩, bind_eq_ok.2 ⟨_, sub_eq_ok.2 ⟨hle, rfl⟩, rfl⟩⟩⟩⟩

theorem accountCollSurplus_succeeds (D : Deployment) (s : State) (borrower : Address)
    (collSurplus : ℕ) : ∃ s', accountCollSurplus D s borrower collSurplus = .ok s' := by
  unfold accountCollSurplus
  split_ifs
  · exact ⟨_, bind_eq_ok.2 ⟨(), require_eq_ok.2 rfl, bind_eq_ok.2 ⟨(), require_eq_ok.2 rfl, rfl⟩⟩⟩
  · exact ⟨_, rfl⟩

theorem stake_le_totalStakes (hreg : Registry s.troveManager s.sortedTroves) (borrower : Address) :
    (s.troveManager.troves borrower).stake ≤ s.troveManager.totalStakes := by
  rw [← hreg.totalStakes]
  exact Finset.single_le_sum (f := s.troveManager.stakes) (fun _ _ => Nat.zero_le _)
    (Finset.mem_univ borrower)

theorem removeTroveOwner_succeeds {tm : TroveManager} {n : ℕ}
    (hstatus : (tm.troves borrower).status ≠ .nonExistent ∧ (tm.troves borrower).status ≠ .active)
    (hindex : (tm.troves borrower).arrayIndex < n) :
    ∃ tm', removeTroveOwner tm borrower n = .ok tm' :=
  ⟨_, bind_eq_ok.2 ⟨(), assert_eq_ok.2 hstatus, bind_eq_ok.2 ⟨_, sub_eq_ok.2 ⟨by omega, rfl⟩,
    bind_eq_ok.2 ⟨(), assert_eq_ok.2 (by omega), rfl⟩⟩⟩⟩

theorem remove_succeeds {list : SortedTroves.Data} {l : List Address}
    (h : SortedTroves.WellFormed list l) (hmem : borrower ∈ l) :
    ∃ list', SortedTroves.remove list borrower = .ok list' := by
  have hsize : 1 ≤ (SortedTroves.unlinkAt list borrower).size := by
    rw [SortedTroves.unlinkAt_size, h.size]
    exact List.length_pos_of_mem hmem
  exact ⟨_, bind_eq_ok.2 ⟨(), require_eq_ok.2 (h.contains_iff.2 hmem), bind_eq_ok.2 ⟨_,
    sub_eq_ok.2 ⟨hsize, rfl⟩, rfl⟩⟩⟩

/-- One of several troves can be closed. -/
theorem closeTrove_succeeds (hreg : Registry s.troveManager s.sortedTroves)
    (hactive : s.troveManager.Active borrower) (hmore : 1 < s.troveManager.troveOwners.length)
    {tm : TroveManager} (htm : removeStake s.troveManager borrower = .ok tm)
    (hs₁ : s₁.troveManager = tm) (hlist : s₁.sortedTroves = s.sortedTroves) :
    ∃ s', closeTrove s₁ borrower .closedByLiquidation = .ok s' := by
  obtain ⟨-, rfl⟩ := removeStake_eq_ok htm
  have hindex : (s.troveManager.troves borrower).arrayIndex < s.troveManager.troveOwners.length :=
    (List.getElem?_eq_some_iff.1
      (hreg.indexed.getElem? ((hreg.mem_owners borrower).2 hactive))).1
  have hsize := hreg.size_eq
  obtain ⟨list, hremove⟩ := remove_succeeds hreg.list ((hreg.mem_list borrower).2 hactive)
  rw [← hlist] at hremove hsize
  have howners : s₁.troveManager.troveOwners = s.troveManager.troveOwners := by rw [hs₁]
  have hsame : (s₁.troveManager.troves borrower).arrayIndex =
      (s.troveManager.troves borrower).arrayIndex := by
    rw [hs₁]
    dsimp only
    rw [Function.update_self]
  have hindex₁ : (s₁.troveManager.troves borrower).arrayIndex <
      s₁.troveManager.troveOwners.length := by
    rw [hsame, howners]
    exact hindex
  obtain ⟨cleared₁, hcleared⟩ : ∃ tm, tm = s₁.troveManager.cleared borrower .closedByLiquidation :=
    ⟨_, rfl⟩
  have hstatus : (cleared₁.troves borrower).status ≠ .nonExistent ∧
      (cleared₁.troves borrower).status ≠ .active := by simp [hcleared, cleared, setTrove]
  have hlast : (cleared₁.troves borrower).arrayIndex < s₁.troveManager.troveOwners.length := by
    simpa [hcleared, cleared, setTrove] using hindex₁
  obtain ⟨tm', htm'⟩ := removeTroveOwner_succeeds hstatus hlast
  rw [hcleared] at htm'
  refine ⟨_, bind_eq_ok.2 ⟨(), assert_eq_ok.2 ⟨by decide, by decide⟩, bind_eq_ok.2 ⟨(),
    require_eq_ok.2 ⟨?_, ?_⟩, bind_eq_ok.2 ⟨tm', htm', bind_eq_ok.2 ⟨list, hremove, rfl⟩⟩⟩⟩⟩
  · rw [howners]
    exact hmore
  · omega

/-- The steps that every branch shares succeed once the rewards are in the active pool. -/
theorem settle_and_close_succeed (hreg : Registry s.troveManager s.sortedTroves)
    (hactive : s.troveManager.Active borrower) (hmore : 1 < s.troveManager.troveOwners.length)
    (hmove : movePendingTroveRewardsToActivePool D s entire.pendingUSDDDebtReward
      entire.pendingCollReward = .ok s₁) :
    ∃ s₂, settleTrove D s borrower entire = .ok s₂ ∧
      ∃ s', closeTrove s₂ borrower .closedByLiquidation = .ok s' := by
  obtain ⟨-, -, hb⟩ := movePendingTroveRewardsToActivePool_book hmove 0 0 0
  have htm : s₁.troveManager = s.troveManager := congrArg Book.troveManager hb
  have hlist : s₁.sortedTroves = s.sortedTroves := congrArg Book.sortedTroves hb
  obtain ⟨tm, hstake⟩ : ∃ tm, removeStake s.troveManager borrower = .ok tm :=
    ⟨_, removeStake_of_le (stake_le_totalStakes hreg borrower)⟩
  have hstake₁ : removeStake s₁.troveManager borrower = .ok tm := by rwa [htm]
  exact ⟨{ s₁ with troveManager := tm }, bind_eq_ok.2 ⟨s₁, hmove, bind_eq_ok.2 ⟨tm, hstake₁, rfl⟩⟩,
    closeTrove_succeeds hreg hactive hmore hstake rfl hlist⟩

theorem entire_debt_pos (hreg : Registry s.troveManager s.sortedTroves)
    (hactive : s.troveManager.Active borrower)
    (hentire : getEntireDebtAndColl s.troveManager borrower = .ok entire) : 0 < entire.debt := by
  obtain ⟨-, -, hdebt, -⟩ := getEntireDebtAndColl_eq_ok hentire
  have hpos : 0 < (s.troveManager.troves borrower).debt :=
    Registry.minDebt_pos (hreg.active borrower hactive).1
  omega

theorem getCurrentICR_of_entire {tm : TroveManager}
    (hentire : getEntireDebtAndColl tm borrower = .ok entire) :
    getCurrentICR tm borrower price = .ok (LiquityMath.computeCR entire.coll entire.debt price) := by
  obtain ⟨hcoll, hdebt, hd, hc⟩ := getEntireDebtAndColl_eq_ok hentire
  rw [hd, hc]
  exact bind_eq_ok.2 ⟨_, bind_eq_ok.2 ⟨_, hcoll, bind_eq_ok.2 ⟨_, hdebt, rfl⟩⟩, rfl⟩

theorem liquidateNormalMode_succeeds (hreg : Registry s.troveManager s.sortedTroves)
    (hactive : s.troveManager.Active borrower) (hmore : 1 < s.troveManager.troveOwners.length)
    (hentire : getEntireDebtAndColl s.troveManager borrower = .ok entire)
    (hmove : movePendingTroveRewardsToActivePool D s entire.pendingUSDDDebtReward
      entire.pendingCollReward = .ok s₁) (usddInStabPool : ℕ) :
    ∃ r, liquidateNormalMode D s borrower usddInStabPool = .ok r := by
  have hpos := entire_debt_pos hreg hactive hentire
  have hgas : getCollGasCompensation entire.coll ≤ entire.coll := Nat.div_le_self _ _
  obtain ⟨s₂, hsettle, s', hclose⟩ := settle_and_close_succeed hreg hactive hmore hmove
  obtain ⟨vals, hvals⟩ := getOffsetAndRedistributionVals_succeeds hpos
    (entire.coll - getCollGasCompensation entire.coll) usddInStabPool
  exact ⟨_, bind_eq_ok.2 ⟨entire, hentire, bind_eq_ok.2 ⟨s₂, hsettle, bind_eq_ok.2 ⟨_,
    sub_eq_ok.2 ⟨hgas, rfl⟩, bind_eq_ok.2 ⟨vals, hvals, bind_eq_ok.2 ⟨s', hclose, rfl⟩⟩⟩⟩⟩⟩

/-- For any total ratio: the capped branch is entered with the ratio of the trove itself. -/
theorem liquidateRecoveryMode_succeeds (hreg : Registry s.troveManager s.sortedTroves)
    (hactive : s.troveManager.Active borrower)
    (hentire : getEntireDebtAndColl s.troveManager borrower = .ok entire)
    (hmove : movePendingTroveRewardsToActivePool D s entire.pendingUSDDDebtReward
      entire.pendingCollReward = .ok s₁)
    (hicr : getCurrentICR s.troveManager borrower price = .ok icr) (usddInStabPool tcr : ℕ) :
    ∃ r, liquidateRecoveryMode D s borrower icr usddInStabPool tcr price = .ok r := by
  unfold liquidateRecoveryMode
  by_cases hone : s.troveManager.troveOwners.length ≤ 1
  · exact ⟨_, if_pos hone⟩
  rw [if_neg hone]
  have hpos := entire_debt_pos hreg hactive hentire
  have hgas : getCollGasCompensation entire.coll ≤ entire.coll := Nat.div_le_self _ _
  obtain ⟨s₂, hsettle, s', hclose⟩ :=
    settle_and_close_succeed hreg hactive (not_le.1 hone) hmove
  rw [getCurrentICR_of_entire hentire] at hicr
  cases hicr
  have hliquidate : SafeMath.sub entire.coll (getCollGasCompensation entire.coll) =
      .ok (entire.coll - getCollGasCompensation entire.coll) := sub_eq_ok.2 ⟨hgas, rfl⟩
  rw [hentire, ok_bind, hliquidate, ok_bind]
  split_ifs with h₀ h₁ h₂
  · exact ⟨_, bind_eq_ok.2 ⟨s₂, hsettle, bind_eq_ok.2 ⟨s', hclose, rfl⟩⟩⟩
  · obtain ⟨vals, hvals⟩ := getOffsetAndRedistributionVals_succeeds hpos
      (entire.coll - getCollGasCompensation entire.coll) usddInStabPool
    exact ⟨_, bind_eq_ok.2 ⟨s₂, hsettle, bind_eq_ok.2 ⟨vals, hvals, bind_eq_ok.2 ⟨s', hclose,
      rfl⟩⟩⟩⟩
  · obtain ⟨single, hsingle⟩ := getCappedOffsetVals_succeeds hpos h₂.1
    obtain ⟨s'', haccount⟩ := accountCollSurplus_succeeds D s' borrower single.collSurplus
    have hpool : usddInStabPool ≠ 0 := by omega
    exact ⟨_, bind_eq_ok.2 ⟨(), assert_eq_ok.2 hpool, bind_eq_ok.2 ⟨s₂, hsettle, bind_eq_ok.2
      ⟨single, hsingle, bind_eq_ok.2 ⟨s', hclose, bind_eq_ok.2 ⟨s'', haccount, rfl⟩⟩⟩⟩⟩⟩
  · exact ⟨_, rfl⟩

end Success

section Sequences

variable {q : Sequence} {n : ℕ}

/-- What holds along a sequence of liquidations from `s`. The last field is what the offset at the
end asserts. -/
structure Sequence.WithinDeposits (s : State) (q : Sequence) : Prop where
  registry : Registry q.state.troveManager q.state.sortedTroves
  deposits : q.totals.totalDebtToOffset + q.remainingUSDDInStabPool =
    s.stabilityPool.totalUSDDDeposits
  pool : q.totals.totalDebtToOffset ≤ q.state.stabilityPool.totalUSDDDeposits

theorem Sequence.Follows.withinDeposits (h : q.Follows D s)
    (hreg : Registry s.troveManager s.sortedTroves) : q.WithinDeposits s where
  registry := h.registry hreg
  deposits := h.deposits
  pool := by
    have hdeposits := h.deposits
    rw [h.pool]
    omega

end Sequences

end TroveManager

section Runs

open TroveManager

variable {D : Deployment} {s : State}

/-- Both modes divide every trove that they close exactly and offset no more than is left of the
deposits; they fail for no trove that can be settled; and a sequence stays within the deposits. -/
theorem liquidation_conserves (hw : D.Wired) (h : Reachable D s) :
    (∀ s₁ borrower usddInStabPool s' v,
      liquidateNormalMode D s₁ borrower usddInStabPool = .ok (s', v) →
        ∃ entire, getEntireDebtAndColl s₁.troveManager borrower = .ok entire ∧
          v.Divides entire usddInStabPool) ∧
    (∀ s₁ borrower icr usddInStabPool tcr price s' v,
      liquidateRecoveryMode D s₁ borrower icr usddInStabPool tcr price = .ok (s', v) →
        (s' = s₁ ∧ v = .zero) ∨
          ∃ entire, getEntireDebtAndColl s₁.troveManager borrower = .ok entire ∧
            v.Divides entire usddInStabPool) ∧
    (∀ s₁ s₂ borrower entire, Registry s₁.troveManager s₁.sortedTroves →
      s₁.troveManager.Active borrower →
      getEntireDebtAndColl s₁.troveManager borrower = .ok entire →
      movePendingTroveRewardsToActivePool D s₁ entire.pendingUSDDDebtReward
        entire.pendingCollReward = .ok s₂ →
      (1 < s₁.troveManager.troveOwners.length → ∀ usddInStabPool,
        ∃ r, liquidateNormalMode D s₁ borrower usddInStabPool = .ok r) ∧
      ∀ price icr, getCurrentICR s₁.troveManager borrower price = .ok icr →
        ∀ usddInStabPool tcr,
          ∃ r, liquidateRecoveryMode D s₁ borrower icr usddInStabPool tcr price = .ok r) ∧
    (∀ price n q, totalsFromLiquidateTrovesSequence D price s n = .ok q → q.WithinDeposits s) ∧
    ∀ price troveArray q, totalsFromBatchLiquidate D price s troveArray = .ok q →
      q.WithinDeposits s := by
  have hreg := (h.consistent hw).registry
  refine ⟨fun _ _ _ _ _ hr => liquidateNormalMode_divides hr,
    fun _ _ _ _ _ _ _ _ hr => liquidateRecoveryMode_divides hr,
    fun s₁ s₂ borrower entire hreg₁ hactive hentire hmove => ⟨fun hmore usddInStabPool =>
      liquidateNormalMode_succeeds hreg₁ hactive hmore hentire hmove usddInStabPool,
      fun price icr hicr usddInStabPool tcr =>
        liquidateRecoveryMode_succeeds hreg₁ hactive hentire hmove hicr usddInStabPool tcr⟩,
    fun price n q hq => (totalsFromLiquidateTrovesSequence_follows hreg hq).withinDeposits hreg,
    fun price troveArray q hq => (totalsFromBatchLiquidate_follows hreg hq).withinDeposits hreg⟩

theorem liquidation_conserves_of_liquidation : ∃ s, sampleRun sampleLiquidation = .ok s ∧
    ∃ q, totalsFromBatchLiquidate sampleDeployment (40 * decimalPrecision) s [2] = .ok q ∧
      0 < q.totals.totalDebtInSequence ∧
      q.totals.totalDebtToOffset + q.remainingUSDDInStabPool =
        s.stabilityPool.totalUSDDDeposits := by
  obtain ⟨s, hs, q, hq, hpos⟩ : ∃ s, sampleRun sampleLiquidation = .ok s ∧
      ∃ q, totalsFromBatchLiquidate sampleDeployment (40 * decimalPrecision) s [2] = .ok q ∧
        0 < q.totals.totalDebtInSequence := by decide +kernel
  obtain ⟨-, -, -, -, hbatch⟩ :=
    liquidation_conserves sampleDeployment_wired (reachable_sampleRun hs)
  exact ⟨s, hs, q, hq, hpos, (hbatch _ _ _ hq).deposits⟩

end Runs

end Usdd

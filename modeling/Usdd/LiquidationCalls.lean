import Usdd.LoopRules
import Usdd.PoolCalls

/-!
# Liquidation as events

A liquidated trove realises its rewards and closes, and then the pools owe its debt, its collateral
and its reserve. The values of a sequence of liquidations add up to what the settlement at the end
takes out of the pools.
-/

open Transaction

namespace Usdd.TroveManager

/-- The parts of the debt and of the collateral add up, and no collateral goes where no debt goes. -/
structure LiquidationValues.Balanced (v : LiquidationValues) : Prop where
  debt : v.debtToOffset + v.debtToRedistribute = v.entireTroveDebt
  coll : v.collToSendToSP + v.collToRedistribute + v.collSurplus + v.collGasCompensation =
    v.entireTroveColl
  offset : v.debtToOffset = 0 → v.collToSendToSP = 0
  redistribute : v.debtToRedistribute = 0 → v.collToRedistribute = 0

structure LiquidationTotals.Balanced (t : LiquidationTotals) : Prop where
  debt : t.totalDebtToOffset + t.totalDebtToRedistribute = t.totalDebtInSequence
  coll : t.totalCollToSendToSP + t.totalCollToRedistribute + t.totalCollSurplus +
    t.totalCollGasCompensation = t.totalCollInSequence
  offset : t.totalDebtToOffset = 0 → t.totalCollToSendToSP = 0
  redistribute : t.totalDebtToRedistribute = 0 → t.totalCollToRedistribute = 0

/-- What a successful liquidation of one trove does to the state. -/
structure Liquidated (D : Deployment) (s s' : State) (v : LiquidationValues) : Prop where
  balanced : v.Balanced
  pool : s'.stabilityPool = s.stabilityPool
  owners : v.entireTroveDebt ≠ 0 → s.troveManager.troveOwners ≠ []
  path : ∃ n : ℕ, v.usddGasCompensation = n * Usdd.usddGasCompensation ∧ ∀ d c g : ℤ,
    Path D (s.book D d c g) (s'.book D (d + v.entireTroveDebt) (c + v.entireTroveColl) (g + n))

/-- What a sequence of liquidations from `s` has done so far. -/
structure Sequence.Follows (D : Deployment) (s : State) (q : Sequence) : Prop where
  balanced : q.totals.Balanced
  pool : q.state.stabilityPool = s.stabilityPool
  deposits : q.totals.totalDebtToOffset + q.remainingUSDDInStabPool =
    s.stabilityPool.totalUSDDDeposits
  owners : q.totals.totalDebtInSequence ≠ 0 → q.state.troveManager.troveOwners ≠ []
  path : ∃ n : ℕ, q.totals.totalUSDDGasCompensation = n * Usdd.usddGasCompensation ∧
    ∀ d c g : ℤ, Path D (s.book D d c g) (q.state.book D (d + q.totals.totalDebtInSequence)
      (c + q.totals.totalCollInSequence) (g + n))

variable {D : Deployment} {m : Message} {s s₁ s' : State} {borrower : Address} {status : Status}
  {v : LiquidationValues}

section Single

variable {entire : EntireDebtAndColl} {vals : OffsetAndRedistributionVals}
  {usddInStabPool price icr tcr : ℕ}

theorem getOffsetAndRedistributionVals_eq_ok {debt coll : ℕ} (hpos : 0 < debt)
    (h : getOffsetAndRedistributionVals debt coll usddInStabPool = .ok vals) :
    vals.debtToOffset + vals.debtToRedistribute = debt ∧
      vals.collToSendToSP + vals.collToRedistribute = coll ∧
      (vals.debtToOffset = 0 → vals.collToSendToSP = 0) ∧
      (vals.debtToRedistribute = 0 → vals.collToRedistribute = 0) := by
  unfold getOffsetAndRedistributionVals at h
  split_ifs at h with hpool
  · obtain ⟨collToSendToSP, hsend, h⟩ := bind_eq_ok.1 h
    obtain ⟨debtToRedistribute, hdebt, h⟩ := bind_eq_ok.1 h
    obtain ⟨collToRedistribute, hcoll, h⟩ := bind_eq_ok.1 h
    obtain ⟨-, hsend⟩ := div_eq_ok.1 hsend
    obtain ⟨hle, hdebt⟩ := sub_eq_ok.1 hdebt
    obtain ⟨hle', hcoll⟩ := sub_eq_ok.1 hcoll
    cases pure_eq_ok.1 h
    refine ⟨?_, ?_, fun hz => ?_, fun hz => ?_⟩
    · dsimp only
      omega
    · dsimp only
      omega
    · dsimp only at hz ⊢
      rw [← hsend, hz, Nat.mul_zero, Nat.zero_div]
    · dsimp only at hz ⊢
      have hmin : min debt usddInStabPool = debt := by omega
      rw [hmin, Nat.mul_div_cancel _ hpos] at hsend
      omega
  · cases pure_eq_ok.1 h
    refine ⟨Nat.zero_add _, Nat.zero_add _, fun _ => rfl, fun hz => ?_⟩
    exact absurd hz hpos.ne'

/-- The collateral of a trove is enough for its gas compensation. -/
theorem liquidationValues_balanced
    (hvals : vals.debtToOffset + vals.debtToRedistribute = entire.debt ∧
      vals.collToSendToSP + vals.collToRedistribute =
        entire.coll - getCollGasCompensation entire.coll ∧
      (vals.debtToOffset = 0 → vals.collToSendToSP = 0) ∧
      (vals.debtToRedistribute = 0 → vals.collToRedistribute = 0)) :
    (liquidationValues entire vals).Balanced := by
  obtain ⟨hdebt, hcoll, hoffset, hredistribute⟩ := hvals
  have hgas : getCollGasCompensation entire.coll ≤ entire.coll := Nat.div_le_self _ _
  refine ⟨hdebt, ?_, hoffset, hredistribute⟩
  dsimp only [liquidationValues]
  omega

theorem getCappedOffsetVals_eq_ok {debt coll : ℕ} (hpos : 0 < debt)
    (h : getCappedOffsetVals debt coll price = .ok v) :
    v.Balanced ∧ v.entireTroveDebt = debt ∧ v.entireTroveColl = coll ∧
      v.usddGasCompensation = Usdd.usddGasCompensation := by
  obtain ⟨collToOffset, -, h⟩ := bind_eq_ok.1 h
  obtain ⟨collToSendToSP, hsend, h⟩ := bind_eq_ok.1 h
  obtain ⟨collSurplus, hsurplus, h⟩ := bind_eq_ok.1 h
  obtain ⟨hle, hsend⟩ := sub_eq_ok.1 hsend
  obtain ⟨hle', hsurplus⟩ := sub_eq_ok.1 hsurplus
  cases pure_eq_ok.1 h
  refine ⟨⟨Nat.add_zero _, ?_, fun hz => absurd hz hpos.ne', fun _ => rfl⟩, rfl, rfl, rfl⟩
  dsimp only
  omega

theorem getEntireDebtAndColl_eq_ok {tm : TroveManager}
    (h : getEntireDebtAndColl tm borrower = .ok entire) :
    getPendingCollReward tm borrower = .ok entire.pendingCollReward ∧
      getPendingUSDDDebtReward tm borrower = .ok entire.pendingUSDDDebtReward ∧
      entire.debt = (tm.troves borrower).debt + entire.pendingUSDDDebtReward ∧
      entire.coll = (tm.troves borrower).coll + entire.pendingCollReward := by
  obtain ⟨debt, hdebt, h⟩ := bind_eq_ok.1 h
  obtain ⟨coll, hcoll, h⟩ := bind_eq_ok.1 h
  cases pure_eq_ok.1 h
  exact ⟨hcoll, hdebt, rfl, rfl⟩

/-- A trove that is settled and closed has realised its rewards. -/
theorem settleTrove_closeTrove_path (hreg : Registry s.troveManager s.sortedTroves)
    (hentire : getEntireDebtAndColl s.troveManager borrower = .ok entire)
    (h₁ : settleTrove D s borrower entire = .ok s₁)
    (h : closeTrove s₁ borrower status = .ok s') :
    0 < entire.debt ∧ s'.stabilityPool = s.stabilityPool ∧ s.troveManager.troveOwners ≠ [] ∧
      ∀ d c g : ℤ, Path D (s.book D d c g)
        (s'.book D (d + entire.debt) (c + entire.coll) (g + 1)) := by
  obtain ⟨hcoll, hdebt, hd, hc⟩ := getEntireDebtAndColl_eq_ok hentire
  obtain ⟨s₂, h₂, h₁⟩ := bind_eq_ok.1 h₁
  obtain ⟨tm₁, htm₁, h₁⟩ := bind_eq_ok.1 h₁
  rw [← pure_eq_ok.1 h₁] at h
  have hb := movePendingTroveRewardsToActivePool_book h₂
  have htm₂ : s₂.troveManager = s.troveManager := congrArg Book.troveManager (hb 0 0 0).2.2
  have hst₂ : s₂.sortedTroves = s.sortedTroves := congrArg Book.sortedTroves (hb 0 0 0).2.2
  have hpool₂ : s₂.stabilityPool = s.stabilityPool := congrArg Book.pool (hb 0 0 0).2.2
  obtain ⟨hstatus, hmore, tm', list, howner, hlist, rfl⟩ := closeTrove_book h
  rw [hst₂] at hlist hmore
  rw [htm₂] at htm₁
  obtain ⟨pre, post, hl, -⟩ := SortedTroves.remove_eq_ok hreg.list hlist
  have hactive : s.troveManager.Active borrower := by
    rw [← hreg.mem_list, hl]
    simp
  have hpos : 0 < (s.troveManager.troves borrower).debt :=
    Registry.minDebt_pos (hreg.active borrower hactive).1
  have howners : tm₁.troveOwners = s.troveManager.troveOwners := by
    obtain ⟨-, rfl⟩ := removeStake_eq_ok htm₁
    rfl
  rw [howners] at hmore howner
  refine ⟨by omega, hpool₂, List.ne_nil_of_length_pos (by omega), fun d c g => ?_⟩
  obtain ⟨hdefaultDebt, hdefaultColl, b₂⟩ := hb (d + entire.debt) (c + entire.coll) (g + 1)
  have hself := realised_self s.troveManager borrower entire.pendingCollReward
    entire.pendingUSDDDebtReward
  obtain ⟨tm₂, htm₂⟩ : ∃ tm₂, removeStake (s.troveManager.realised borrower
      entire.pendingCollReward entire.pendingUSDDDebtReward) borrower = .ok tm₂ := by
    refine ⟨_, removeStake_of_le ?_⟩
    rw [hself]
    exact (removeStake_eq_ok htm₁).1
  rw [← cleared_removeStake_realised s.troveManager status htm₁ htm₂] at howner
  have hrealises := Event.realises (D := D) (b := s.book D d c g) hactive hcoll hdebt hdefaultColl
    hdefaultDebt
  have hcloses := Event.closes (D := D) (b := { s.book D d c g with
    troveManager := s.troveManager.realised borrower entire.pendingCollReward
      entire.pendingUSDDDebtReward
    activeDebt := (s.book D d c g).activeDebt + entire.pendingUSDDDebtReward
    activeColl := (s.book D d c g).activeColl + entire.pendingCollReward
    defaultDebt := (s.book D d c g).defaultDebt - entire.pendingUSDDDebtReward
    defaultColl := (s.book D d c g).defaultColl - entire.pendingCollReward }) hstatus hmore htm₂
    howner hlist
  rw [hself] at hcloses
  dsimp only at hcloses
  rw [← hd, ← hc] at hcloses
  have hs' : State.book D { s₂ with troveManager := tm', sortedTroves := list } (d + entire.debt)
      (c + entire.coll) (g + 1) = { s₂.book D (d + entire.debt) (c + entire.coll) (g + 1) with
        troveManager := tm'
        sortedTroves := list } := rfl
  rw [hs', b₂]
  exact (Path.single hrealises).trans (Path.single hcloses)

theorem Liquidated.zero (D : Deployment) (s : State) : Liquidated D s s .zero where
  balanced := ⟨rfl, rfl, fun _ => rfl, fun _ => rfl⟩
  pool := rfl
  owners h := absurd rfl h
  path := by
    refine ⟨0, (Nat.zero_mul _).symm, fun d c g => ?_⟩
    have hzero (z : ℤ) : z + (0 : ℕ) = z := by simp
    simp only [LiquidationValues.zero, hzero]
    exact Path.refl _

/-- The branches that close a trove. -/
theorem Liquidated.of_closeTrove (hreg : Registry s.troveManager s.sortedTroves)
    (hentire : getEntireDebtAndColl s.troveManager borrower = .ok entire)
    (h₁ : settleTrove D s borrower entire = .ok s₁)
    (h : closeTrove s₁ borrower status = .ok s')
    (hv : 0 < entire.debt → v.Balanced ∧ v.entireTroveDebt = entire.debt ∧
      v.entireTroveColl = entire.coll ∧ v.usddGasCompensation = Usdd.usddGasCompensation) :
    Liquidated D s s' v := by
  obtain ⟨hpos, hpool, howners, hpath⟩ := settleTrove_closeTrove_path hreg hentire h₁ h
  obtain ⟨hbalanced, hdebt, hcoll, hgas⟩ := hv hpos
  refine ⟨hbalanced, hpool, fun _ => howners, 1, by rw [hgas, Nat.one_mul], ?_⟩
  rw [hdebt, hcoll, Nat.cast_one]
  exact hpath

theorem liquidateNormalMode_eq_ok (hreg : Registry s.troveManager s.sortedTroves)
    (h : liquidateNormalMode D s borrower usddInStabPool = .ok (s', v)) : Liquidated D s s' v := by
  obtain ⟨entire, hentire, h⟩ := bind_eq_ok.1 h
  obtain ⟨s₁, h₁, h⟩ := bind_eq_ok.1 h
  obtain ⟨collToLiquidate, hliquidate, h⟩ := bind_eq_ok.1 h
  obtain ⟨vals, hvals, h⟩ := bind_eq_ok.1 h
  obtain ⟨s₂, h₂, h⟩ := bind_eq_ok.1 h
  obtain ⟨-, hcoll⟩ := sub_eq_ok.1 hliquidate
  rw [← hcoll] at hvals
  cases pure_eq_ok.1 h
  exact Liquidated.of_closeTrove hreg hentire h₁ h₂ (fun hpos =>
    ⟨liquidationValues_balanced (getOffsetAndRedistributionVals_eq_ok hpos hvals), rfl, rfl, rfl⟩)

theorem liquidateRecoveryMode_eq_ok (hreg : Registry s.troveManager s.sortedTroves)
    (h : liquidateRecoveryMode D s borrower icr usddInStabPool tcr price = .ok (s', v)) :
    Liquidated D s s' v := by
  rcases ite_eq_ok.1 h with ⟨-, h⟩ | ⟨-, h⟩
  · cases pure_eq_ok.1 h
    exact Liquidated.zero D s
  obtain ⟨entire, hentire, h⟩ := bind_eq_ok.1 h
  obtain ⟨collToLiquidate, hliquidate, h⟩ := bind_eq_ok.1 h
  obtain ⟨-, hcoll⟩ := sub_eq_ok.1 hliquidate
  split_ifs at h with h₀ h₁ h₂
  · obtain ⟨s₁, hs₁, h⟩ := bind_eq_ok.1 h
    obtain ⟨s₂, hs₂, h⟩ := bind_eq_ok.1 h
    rw [← hcoll] at h
    cases pure_eq_ok.1 h
    exact Liquidated.of_closeTrove hreg hentire hs₁ hs₂ (fun hpos =>
      ⟨liquidationValues_balanced ⟨Nat.zero_add _, Nat.zero_add _, fun _ => rfl,
        fun hz => absurd hz hpos.ne'⟩, rfl, rfl, rfl⟩)
  · obtain ⟨s₁, hs₁, h⟩ := bind_eq_ok.1 h
    obtain ⟨vals, hvals, h⟩ := bind_eq_ok.1 h
    obtain ⟨s₂, hs₂, h⟩ := bind_eq_ok.1 h
    rw [← hcoll] at hvals
    cases pure_eq_ok.1 h
    exact Liquidated.of_closeTrove hreg hentire hs₁ hs₂ (fun hpos =>
      ⟨liquidationValues_balanced (getOffsetAndRedistributionVals_eq_ok hpos hvals), rfl, rfl,
        rfl⟩)
  · obtain ⟨_, -, h⟩ := bind_eq_ok.1 h
    obtain ⟨s₁, hs₁, h⟩ := bind_eq_ok.1 h
    obtain ⟨single, hsingle, h⟩ := bind_eq_ok.1 h
    obtain ⟨s₂, hs₂, h⟩ := bind_eq_ok.1 h
    obtain ⟨s₃, hs₃, h⟩ := bind_eq_ok.1 h
    cases pure_eq_ok.1 h
    have hbook (d c g : ℤ) : s'.book D d c g = s₂.book D d c g := by
      unfold accountCollSurplus at hs₃
      split_ifs at hs₃
      · exact CollSurplusPool.accountSurplus_book hs₃ d c g
      · rw [pure_eq_ok.1 hs₃]
    obtain ⟨hbalanced, hpool, howners, n, hn, hpath⟩ :=
      Liquidated.of_closeTrove hreg hentire hs₁ hs₂ (fun hpos => getCappedOffsetVals_eq_ok hpos hsingle)
    refine ⟨hbalanced, (congrArg Book.pool (hbook 0 0 0)).trans hpool, howners, n, hn, ?_⟩
    intro d c g
    rw [hbook]
    exact hpath d c g
  · cases pure_eq_ok.1 h
    exact Liquidated.zero D s

end Single

section Sequences

variable {q q' : Sequence} {price icr : ℕ} {user firstUser : Address} {n : ℕ}

theorem Sequence.start_follows (D : Deployment) (s : State) : (Sequence.start D s).Follows D s where
  balanced := ⟨rfl, rfl, fun _ => rfl, fun _ => rfl⟩
  pool := rfl
  deposits := Nat.zero_add _
  owners h := absurd rfl h
  path := by
    refine ⟨0, (Nat.zero_mul _).symm, fun d c g => ?_⟩
    have hzero (z : ℤ) : z + (0 : ℕ) = z := by simp
    simp only [Sequence.start, LiquidationTotals.zero, hzero]
    exact Path.refl _

theorem Sequence.Follows.registry (h : q.Follows D s)
    (hreg : Registry s.troveManager s.sortedTroves) :
    Registry q.state.troveManager q.state.sortedTroves := by
  obtain ⟨n, -, hpath⟩ := h.path
  exact (hpath 0 0 0).registry hreg

theorem Sequence.Follows.next (h : q.Follows D s) (hl : Liquidated D q.state s' v)
    (hle : v.debtToOffset ≤ q.remainingUSDDInStabPool) (hstate : q'.state = s')
    (htotals : q'.totals = addLiquidationValuesToTotals q.totals v)
    (hremaining : q'.remainingUSDDInStabPool = q.remainingUSDDInStabPool - v.debtToOffset) :
    q'.Follows D s := by
  obtain ⟨n, hn, hpath⟩ := h.path
  obtain ⟨k, hk, hpath'⟩ := hl.path
  obtain ⟨hdebt, hcoll, hoffset, hredistribute⟩ := h.balanced
  obtain ⟨hdebt', hcoll', hoffset', hredistribute'⟩ := hl.balanced
  have hdeposits := h.deposits
  refine ⟨?_, ?_, ?_, ?_, n + k, ?_, ?_⟩
  · rw [htotals]
    refine ⟨?_, ?_, fun hz => ?_, fun hz => ?_⟩
    · dsimp only [addLiquidationValuesToTotals]
      omega
    · dsimp only [addLiquidationValuesToTotals]
      omega
    · obtain ⟨hz₁, hz₂⟩ := Nat.add_eq_zero_iff.1 hz
      exact Nat.add_eq_zero_iff.2 ⟨hoffset hz₁, hoffset' hz₂⟩
    · obtain ⟨hz₁, hz₂⟩ := Nat.add_eq_zero_iff.1 hz
      exact Nat.add_eq_zero_iff.2 ⟨hredistribute hz₁, hredistribute' hz₂⟩
  · rw [hstate, hl.pool, h.pool]
  · rw [htotals, hremaining]
    dsimp only [addLiquidationValuesToTotals]
    omega
  · intro hne
    rw [htotals] at hne
    have howners : q.state.troveManager.troveOwners ≠ [] := by
      by_cases hz : q.totals.totalDebtInSequence = 0
      · refine hl.owners (fun hv => hne ?_)
        dsimp only [addLiquidationValuesToTotals]
        omega
      · exact h.owners hz
    rw [hstate]
    exact (hpath' 0 0 0).troveOwners_ne_nil howners
  · rw [htotals, Nat.add_mul, ← hn, ← hk]
    rfl
  · intro d c g
    have hp := (hpath d c g).trans (hpath' _ _ _)
    rw [hstate, htotals]
    dsimp only [addLiquidationValuesToTotals]
    push_cast
    rw [← add_assoc, ← add_assoc, ← add_assoc]
    exact hp

theorem Sequence.Follows.liquidateInRecoveryMode {subtractSurplus : Bool} (h : q.Follows D s)
    (hreg : Registry s.troveManager s.sortedTroves)
    (hq : q.liquidateInRecoveryMode D price user icr subtractSurplus = .ok q') :
    q'.Follows D s := by
  obtain ⟨r, hr, hq⟩ := bind_eq_ok.1 hq
  obtain ⟨remaining, hremaining, hq⟩ := bind_eq_ok.1 hq
  obtain ⟨_, -, hq⟩ := bind_eq_ok.1 hq
  obtain ⟨_, -, hq⟩ := bind_eq_ok.1 hq
  obtain ⟨_, -, hq⟩ := bind_eq_ok.1 hq
  obtain ⟨hle, hremaining⟩ := sub_eq_ok.1 hremaining
  have hl : Liquidated D q.state r.1 r.2 := liquidateRecoveryMode_eq_ok (h.registry hreg) hr
  refine h.next hl hle ?_ ?_ ?_
  · rw [← pure_eq_ok.1 hq]
  · rw [← pure_eq_ok.1 hq]
  · rw [← pure_eq_ok.1 hq, hremaining]

theorem Sequence.Follows.liquidateInNormalMode (h : q.Follows D s)
    (hreg : Registry s.troveManager s.sortedTroves)
    (hq : q.liquidateInNormalMode D user = .ok q') : q'.Follows D s := by
  obtain ⟨r, hr, hq⟩ := bind_eq_ok.1 hq
  obtain ⟨remaining, hremaining, hq⟩ := bind_eq_ok.1 hq
  obtain ⟨hle, hremaining⟩ := sub_eq_ok.1 hremaining
  have hl : Liquidated D q.state r.1 r.2 := liquidateNormalMode_eq_ok (h.registry hreg) hr
  refine h.next hl hle ?_ ?_ ?_
  · rw [← pure_eq_ok.1 hq]
  · rw [← pure_eq_ok.1 hq]
  · rw [← pure_eq_ok.1 hq, hremaining]

theorem totalsFromLiquidateTrovesSequence_follows
    (hreg : Registry s.troveManager s.sortedTroves)
    (hq : totalsFromLiquidateTrovesSequence D price s n = .ok q) : q.Follows D s :=
  totalsFromLiquidateTrovesSequence_rule
    (fun _ _ _ _ _ h hq => h.liquidateInRecoveryMode hreg hq)
    (fun _ _ _ h hq => h.liquidateInNormalMode hreg hq) (Sequence.start_follows D s) hq

theorem totalsFromBatchLiquidate_follows {troveArray : List Address}
    (hreg : Registry s.troveManager s.sortedTroves)
    (hq : totalsFromBatchLiquidate D price s troveArray = .ok q) : q.Follows D s :=
  totalsFromBatchLiquidate_rule
    (fun _ _ _ _ _ h hq => h.liquidateInRecoveryMode hreg hq)
    (fun _ _ _ h hq => h.liquidateInNormalMode hreg hq) (Sequence.start_follows D s) hq

end Sequences

section Settlement

variable {totals : LiquidationTotals} {liquidator : Address} {amount coll usdd n : ℕ}

theorem sendCollSurplus_path (h : sendCollSurplus D s amount = .ok s') (d c g : ℤ) :
    Path D (s.book D d c g) (s'.book D d (c - amount) g) := by
  rcases ite_eq_ok.1 h with ⟨-, h⟩ | ⟨hz, h⟩
  · obtain ⟨s₁, h₁, h⟩ := bind_eq_ok.1 h
    rw [CollSurplusPool.receiveColl_book h]
    exact BorrowerOperations.sendColl_path h₁ d c g
  · rw [← pure_eq_ok.1 h, Nat.eq_zero_of_not_pos hz, Nat.cast_zero, sub_zero]
    exact Path.refl _

theorem sendCollGasCompensation_path (h : sendCollGasCompensation D s liquidator coll = .ok s')
    (d c g : ℤ) : Path D (s.book D d c g) (s'.book D d (c - coll) g) := by
  rcases ite_eq_ok.1 h with ⟨-, h⟩ | ⟨hz, h⟩
  · exact BorrowerOperations.sendColl_path h d c g
  · rw [← pure_eq_ok.1 h, Nat.eq_zero_of_not_pos hz, Nat.cast_zero, sub_zero]
    exact Path.refl _

theorem sendUSDDGasCompensation_path (hne : D.gasPool ≠ D.stabilityPool)
    (h : sendUSDDGasCompensation D s liquidator usdd = .ok s')
    (hn : usdd = n * usddGasCompensation) (d c g : ℤ) :
    Path D (s.book D d c g) (s'.book D d c (g - n)) := by
  rcases ite_eq_ok.1 h with ⟨-, h⟩ | ⟨hz, h⟩
  · obtain ⟨_, -, h⟩ := bind_eq_ok.1 h
    obtain ⟨t, ht, h⟩ := bind_eq_ok.1 h
    have hb := USDDToken.move_book (D := D) ht d c (g - n)
    have hpool := USDDToken.move_balances_of_ne ht hne.symm
    have hgas := USDDToken.move_balances_le ht D.gasPool
    rw [← pure_eq_ok.1 h, hb]
    exact Path.single (Event.paysGas (b := s.book D d c g) (hn ▸ hgas) hpool)
  · have hzero : n = 0 := by
      have hpos : 0 < usddGasCompensation := by decide
      by_contra hne
      exact hz (hn ▸ Nat.mul_pos (Nat.pos_of_ne_zero hne) hpos)
    rw [← pure_eq_ok.1 h, hzero, Nat.cast_zero, sub_zero]
    exact Path.refl _

/-- The settlement up to the gas compensation. -/
theorem settleTotals_prefix_path {s₂ s₃ s₄ : State} (hne : D.gasPool ≠ D.stabilityPool)
    (hbalanced : totals.Balanced)
    (hdeposits : totals.totalDebtToOffset ≠ 0 → s.stabilityPool.totalUSDDDeposits ≠ 0)
    (howners : totals.totalDebtInSequence ≠ 0 → s.troveManager.troveOwners ≠ [])
    (hpos : 0 < totals.totalDebtInSequence)
    (h₁ : StabilityPool.offset D m D.troveManager s totals.totalDebtToOffset
      totals.totalCollToSendToSP = .ok s₁)
    (h₂ : redistributeDebtAndColl D s₁ totals.totalDebtToRedistribute
      totals.totalCollToRedistribute = .ok s₂)
    (h₃ : sendCollSurplus D s₂ totals.totalCollSurplus = .ok s₃)
    (h₄ : updateSystemSnapshotsExcludeCollRemainder D s₃ totals.totalCollGasCompensation = .ok s₄)
    (d c g : ℤ) : Path D (s.book D d c g) (s₄.book D (d - totals.totalDebtInSequence)
      (c - totals.totalCollInSequence + totals.totalCollGasCompensation) g) := by
  obtain ⟨hdebt, hcoll, hoffset, hredistribute⟩ := hbalanced
  have p₁ : Path D (s.book D d c g)
      (s₁.book D (d - totals.totalDebtToOffset) (c - totals.totalCollToSendToSP) g) := by
    rcases StabilityPool.offset_path hne h₁ d c g with ⟨hz, rfl⟩ | hp
    · have hzero : totals.totalDebtToOffset = 0 := by
        by_contra hne
        exact hz.elim (hdeposits hne) hne
      rw [hzero, hoffset hzero, Nat.cast_zero, sub_zero, sub_zero]
      exact Path.refl _
    · exact hp
  have p₃ : Path D (s.book D d c g) (s₃.book D
      (d - totals.totalDebtToOffset - totals.totalDebtToRedistribute)
      (c - totals.totalCollToSendToSP - totals.totalCollToRedistribute - totals.totalCollSurplus)
      g) :=
    p₁.trans ((redistributeDebtAndColl_path h₂ hredistribute _ _ _).trans
      (sendCollSurplus_path h₃ _ _ _))
  have howners₃ : s₃.troveManager.troveOwners ≠ [] := p₃.troveOwners_ne_nil (howners hpos.ne')
  have p₄ := p₃.trans (updateSystemSnapshotsExcludeCollRemainder_path h₄ howners₃ _ _ _)
  have hd : d - totals.totalDebtToOffset - totals.totalDebtToRedistribute =
      d - totals.totalDebtInSequence := by omega
  have hc : c - totals.totalCollToSendToSP - totals.totalCollToRedistribute -
      totals.totalCollSurplus =
      c - totals.totalCollInSequence + totals.totalCollGasCompensation := by omega
  rwa [hd, hc] at p₄

theorem settleTotals_path (hne : D.gasPool ≠ D.stabilityPool) (hbalanced : totals.Balanced)
    (hdeposits : totals.totalDebtToOffset ≠ 0 → s.stabilityPool.totalUSDDDeposits ≠ 0)
    (howners : totals.totalDebtInSequence ≠ 0 → s.troveManager.troveOwners ≠ [])
    (hn : totals.totalUSDDGasCompensation = n * usddGasCompensation)
    (h : settleTotals D m s liquidator totals = .ok s') (d c g : ℤ) :
    Path D (s.book D (d + totals.totalDebtInSequence) (c + totals.totalCollInSequence) (g + n))
      (s'.book D d c g) := by
  obtain ⟨_, hpos, h⟩ := bind_eq_ok.1 h
  obtain ⟨s₁, h₁, h⟩ := bind_eq_ok.1 h
  obtain ⟨s₂, h₂, h⟩ := bind_eq_ok.1 h
  obtain ⟨s₃, h₃, h⟩ := bind_eq_ok.1 h
  obtain ⟨s₄, h₄, h⟩ := bind_eq_ok.1 h
  obtain ⟨_, -, h⟩ := bind_eq_ok.1 h
  obtain ⟨_, -, h⟩ := bind_eq_ok.1 h
  obtain ⟨s₅, h₅, h⟩ := bind_eq_ok.1 h
  have p₄ := settleTotals_prefix_path hne hbalanced hdeposits howners (require_eq_ok.1 hpos) h₁ h₂
    h₃ h₄ (d + totals.totalDebtInSequence) (c + totals.totalCollInSequence) (g + n)
  have p₅ := p₄.trans ((sendUSDDGasCompensation_path hne h₅ hn _ _ _).trans
    (sendCollGasCompensation_path h _ _ _))
  have hd : d + (totals.totalDebtInSequence : ℤ) - totals.totalDebtInSequence = d :=
    add_sub_cancel_right d _
  have hc : c + (totals.totalCollInSequence : ℤ) - totals.totalCollInSequence +
      totals.totalCollGasCompensation - totals.totalCollGasCompensation = c := by omega
  have hg : g + (n : ℤ) - n = g := add_sub_cancel_right g _
  rwa [hd, hc, hg] at p₅

theorem Sequence.Follows.settleTotals_path {q : Sequence} (hq : q.Follows D s)
    (hne : D.gasPool ≠ D.stabilityPool)
    (h : settleTotals D m q.state liquidator q.totals = .ok s') (d c g : ℤ) :
    Path D (s.book D d c g) (s'.book D d c g) := by
  obtain ⟨n, hn, hpath⟩ := hq.path
  have hdeposits := hq.deposits
  refine (hpath d c g).trans (TroveManager.settleTotals_path hne hq.balanced ?_ hq.owners hn h d c g)
  intro hz
  rw [hq.pool]
  omega

theorem liquidateTroves_path (hreg : Registry s.troveManager s.sortedTroves)
    (hne : D.gasPool ≠ D.stabilityPool) (h : liquidateTroves D m s liquidator n = .ok s')
    (d c g : ℤ) : Path D (s.book D d c g) (s'.book D d c g) := by
  obtain ⟨_, -, h⟩ := bind_eq_ok.1 h
  obtain ⟨q, hq, h⟩ := bind_eq_ok.1 h
  exact (totalsFromLiquidateTrovesSequence_follows hreg hq).settleTotals_path hne h d c g

theorem batchLiquidateTroves_path {troveArray : List Address}
    (hreg : Registry s.troveManager s.sortedTroves) (hne : D.gasPool ≠ D.stabilityPool)
    (h : batchLiquidateTroves D m s liquidator troveArray = .ok s') (d c g : ℤ) :
    Path D (s.book D d c g) (s'.book D d c g) := by
  obtain ⟨_, -, h⟩ := bind_eq_ok.1 h
  obtain ⟨_, -, h⟩ := bind_eq_ok.1 h
  obtain ⟨q, hq, h⟩ := bind_eq_ok.1 h
  exact (totalsFromBatchLiquidate_follows hreg hq).settleTotals_path hne h d c g

theorem liquidate_path (hreg : Registry s.troveManager s.sortedTroves)
    (hne : D.gasPool ≠ D.stabilityPool) (h : liquidate D m s liquidator borrower = .ok s')
    (d c g : ℤ) : Path D (s.book D d c g) (s'.book D d c g) := by
  obtain ⟨_, -, h⟩ := bind_eq_ok.1 h
  exact batchLiquidateTroves_path hreg hne h d c g

end Settlement

end Usdd.TroveManager

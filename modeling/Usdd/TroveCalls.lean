import Usdd.Ledger

/-!
# The functions of the TroveManager as events

Applying pending rewards, closing a trove, redistributing and taking system snapshots are each one
event of the book.
-/

open Transaction

namespace Usdd

namespace Path

variable {D : Deployment} {a b c : Book}

theorem refl (a : Book) : Path D a a := Relation.ReflTransGen.refl

theorem trans (h : Path D a b) (h' : Path D b c) : Path D a c := Relation.ReflTransGen.trans h h'

theorem single (h : Event D a b) : Path D a b := Relation.ReflTransGen.single h

theorem of_eq (h : b = a) : Path D a b := h ▸ refl b

theorem registry (h : Path D a b) (ha : Registry a.troveManager a.sortedTroves) :
    Registry b.troveManager b.sortedTroves :=
  Path.invariant (I := fun b => Registry b.troveManager b.sortedTroves)
    (fun _ _ he hi => hi.event he) h ha

theorem troveOwners_ne_nil (h : Path D a b) (ha : a.troveManager.troveOwners ≠ []) :
    b.troveManager.troveOwners ≠ [] :=
  Path.invariant (I := fun b => b.troveManager.troveOwners ≠ [])
    (fun _ _ he hi => he.troveOwners_ne_nil hi) h ha

end Path

namespace TroveManager

variable {D : Deployment} {s s' : State} {borrower : Address} {debt coll : ℕ}

section Rewards

theorem movePendingTroveRewardsToActivePool_book
    (h : movePendingTroveRewardsToActivePool D s debt coll = .ok s') (d c g : ℤ) :
    debt ≤ (s.book D d c g).defaultDebt ∧ coll ≤ (s.book D d c g).defaultColl ∧
      s'.book D d c g = { s.book D d c g with
        activeDebt := (s.book D d c g).activeDebt + debt
        activeColl := (s.book D d c g).activeColl + coll
        defaultDebt := (s.book D d c g).defaultDebt - debt
        defaultColl := (s.book D d c g).defaultColl - coll } := by
  obtain ⟨s₁, h₁, h⟩ := bind_eq_ok.1 h
  obtain ⟨s₂, h₂, h⟩ := bind_eq_ok.1 h
  obtain ⟨hdebt, b₁⟩ := DefaultPool.decreaseUSDDDebt_book h₁ d c g
  have b₂ := ActivePool.increaseUSDDDebt_book h₂ d c g
  obtain ⟨hcoll, b₃⟩ := DefaultPool.sendToActivePool_book h d c g
  rw [b₂, b₁] at hcoll b₃
  exact ⟨hdebt, hcoll, b₃⟩

/-- Either there is nothing to apply, or the rewards are realised. -/
theorem applyPendingRewards_book (ha : s.troveManager.Active borrower)
    (h : applyPendingRewards D s borrower = .ok s') :
    (s' = s ∧ s.troveManager.lColl ≤ s.troveManager.collSnapshots borrower) ∨
      ∃ coll debt, getPendingCollReward s.troveManager borrower = .ok coll ∧
        getPendingUSDDDebtReward s.troveManager borrower = .ok debt ∧
        ∀ d c g, debt ≤ (s.book D d c g).defaultDebt ∧ coll ≤ (s.book D d c g).defaultColl ∧
          s'.book D d c g = { s.book D d c g with
            troveManager := s.troveManager.realised borrower coll debt
            activeDebt := (s.book D d c g).activeDebt + debt
            activeColl := (s.book D d c g).activeColl + coll
            defaultDebt := (s.book D d c g).defaultDebt - debt
            defaultColl := (s.book D d c g).defaultColl - coll } := by
  unfold applyPendingRewards at h
  split_ifs at h with hp
  · obtain ⟨_, -, h⟩ := bind_eq_ok.1 h
    obtain ⟨coll, hcoll, h⟩ := bind_eq_ok.1 h
    obtain ⟨debt, hdebt, h⟩ := bind_eq_ok.1 h
    exact Or.inr ⟨coll, debt, hcoll, hdebt, movePendingTroveRewardsToActivePool_book h⟩
  · refine Or.inl ⟨(pure_eq_ok.1 h).symm, ?_⟩
    have hstatus : (s.troveManager.troves borrower).status = .active := ha
    simpa [hasPendingRewards, hstatus, collSnapshots] using hp

theorem applyPendingRewards_path (ha : s.troveManager.Active borrower)
    (h : applyPendingRewards D s borrower = .ok s') (d c g : ℤ) :
    Path D (s.book D d c g) (s'.book D d c g) := by
  rcases applyPendingRewards_book ha h with ⟨rfl, -⟩ | ⟨coll, debt, hcoll, hdebt, hb⟩
  · exact Path.refl _
  · obtain ⟨hd, hc, hb⟩ := hb d c g
    rw [hb]
    exact Path.single (Event.realises ha hcoll hdebt hc hd)

theorem applyPendingRewards_snapshot (ha : s.troveManager.Active borrower)
    (h : applyPendingRewards D s borrower = .ok s') :
    s'.troveManager.lColl ≤ s'.troveManager.collSnapshots borrower := by
  rcases applyPendingRewards_book ha h with ⟨rfl, hle⟩ | ⟨coll, debt, -, -, hb⟩
  · exact hle
  · have htm : s'.troveManager = s.troveManager.realised borrower coll debt :=
      congrArg Book.troveManager (hb 0 0 0).2.2
    rw [htm, collSnapshots, realised_snapshot]
    exact le_rfl

theorem applyPendingRewards_active (ha : s.troveManager.Active borrower)
    (h : applyPendingRewards D s borrower = .ok s') : s'.troveManager.Active borrower := by
  rcases applyPendingRewards_book ha h with ⟨rfl, -⟩ | ⟨coll, debt, -, -, hb⟩
  · exact ha
  · have htm : s'.troveManager = s.troveManager.realised borrower coll debt :=
      congrArg Book.troveManager (hb 0 0 0).2.2
    rw [htm, Active, realised_self]
    exact ha

theorem applyPendingRewards_pool (ha : s.troveManager.Active borrower)
    (h : applyPendingRewards D s borrower = .ok s') : s'.stabilityPool = s.stabilityPool := by
  rcases applyPendingRewards_book ha h with ⟨rfl, -⟩ | ⟨coll, debt, -, -, hb⟩
  · rfl
  · exact congrArg Book.pool (hb 0 0 0).2.2

theorem restake_eq_ok (h : restake s borrower = .ok s') :
    ∃ tm, updateStakeAndTotalStakes s.troveManager borrower = .ok tm ∧
      s' = { s with
        troveManager := tm
        journal := .restake s.troveManager borrower :: s.journal } := by
  obtain ⟨tm, htm, h⟩ := bind_eq_ok.1 h
  exact ⟨tm, htm, (pure_eq_ok.1 h).symm⟩

end Rewards

section Closing

theorem closeTrove_book {tm : TroveManager} {status : Status}
    (h : closeTrove { s with troveManager := tm } borrower status = .ok s') :
    (status ≠ .nonExistent ∧ status ≠ .active) ∧
      (1 < tm.troveOwners.length ∧ 1 < s.sortedTroves.size) ∧ ∃ tm' list,
      removeTroveOwner (tm.cleared borrower status) borrower tm.troveOwners.length = .ok tm' ∧
      SortedTroves.remove s.sortedTroves borrower = .ok list ∧
      s' = { s with troveManager := tm', sortedTroves := list } := by
  obtain ⟨_, hstatus, h⟩ := bind_eq_ok.1 h
  obtain ⟨_, hmore, h⟩ := bind_eq_ok.1 h
  obtain ⟨tm', htm, h⟩ := bind_eq_ok.1 h
  obtain ⟨list, hlist, h⟩ := bind_eq_ok.1 h
  exact ⟨assert_eq_ok.1 hstatus, require_eq_ok.1 hmore, tm', list, htm, hlist,
    (pure_eq_ok.1 h).symm⟩

theorem removeStake_eq_ok {tm tm' : TroveManager} (h : removeStake tm borrower = .ok tm') :
    (tm.troves borrower).stake ≤ tm.totalStakes ∧
      tm' = { tm with
        troves := Function.update tm.troves borrower { tm.troves borrower with stake := 0 }
        totalStakes := tm.totalStakes - (tm.troves borrower).stake } := by
  obtain ⟨total, htotal, h⟩ := bind_eq_ok.1 h
  obtain ⟨hle, rfl⟩ := sub_eq_ok.1 htotal
  exact ⟨hle, (pure_eq_ok.1 h).symm⟩

theorem removeStake_of_le {tm : TroveManager}
    (h : (tm.troves borrower).stake ≤ tm.totalStakes) :
    removeStake tm borrower = .ok { tm with
      troves := Function.update tm.troves borrower { tm.troves borrower with stake := 0 }
      totalStakes := tm.totalStakes - (tm.troves borrower).stake } :=
  bind_eq_ok.2 ⟨_, sub_eq_ok.2 ⟨h, rfl⟩, rfl⟩

/-- Removing a stake and closing the trove is one event. -/
theorem closeTrove_path {tm : TroveManager} {status : Status}
    (hr : removeStake s.troveManager borrower = .ok tm)
    (h : closeTrove { s with troveManager := tm } borrower status = .ok s') (d c g : ℤ) :
    Path D (s.book D d c g) (s'.book D (d + (s.troveManager.troves borrower).debt)
      (c + (s.troveManager.troves borrower).coll) (g + 1)) := by
  obtain ⟨hstatus, hmore, tm', list, htm, hlist, rfl⟩ := closeTrove_book h
  have howners : tm.troveOwners = s.troveManager.troveOwners := by
    obtain ⟨-, rfl⟩ := removeStake_eq_ok hr
    rfl
  rw [howners] at hmore htm
  exact Path.single (Event.closes hstatus hmore hr htm hlist)

/-- Whether the rewards of a trove are realised makes no difference to what closing it leaves. -/
theorem cleared_removeStake_realised (tm : TroveManager) (status : Status)
    {tm₁ tm₂ : TroveManager} (h₁ : removeStake tm borrower = .ok tm₁)
    (h₂ : removeStake (tm.realised borrower coll debt) borrower = .ok tm₂) :
    tm₂.cleared borrower status = tm₁.cleared borrower status := by
  obtain ⟨-, rfl⟩ := removeStake_eq_ok h₁
  obtain ⟨-, rfl⟩ := removeStake_eq_ok h₂
  simp [cleared, setTrove, realised_eq]

end Closing

section Redistribution

theorem redistributeDebtAndColl_path (h : redistributeDebtAndColl D s debt coll = .ok s')
    (hzero : debt = 0 → coll = 0) (d c g : ℤ) :
    Path D (s.book D d c g) (s'.book D (d - debt) (c - coll) g) := by
  unfold redistributeDebtAndColl at h
  split_ifs at h with h₀
  · cases pure_eq_ok.1 h
    rw [h₀, hzero h₀, Nat.cast_zero, sub_zero, sub_zero]
    exact Path.refl _
  · obtain ⟨tm, htm, h⟩ := bind_eq_ok.1 h
    obtain ⟨s₁, h₁, h⟩ := bind_eq_ok.1 h
    obtain ⟨s₂, h₂, h⟩ := bind_eq_ok.1 h
    obtain ⟨s₃, h₃, h⟩ := bind_eq_ok.1 h
    obtain ⟨hdebt, b₁⟩ := ActivePool.decreaseUSDDDebt_book h₁ (d - debt) (c - coll) g
    have b₂ := DefaultPool.increaseUSDDDebt_book h₂ (d - debt) (c - coll) g
    obtain ⟨hcoll, b₃⟩ := ActivePool.sendColl_book h₃ (d - debt) (c - coll) g
    have b₄ := DefaultPool.receiveColl_book h (d - debt) (c - coll) g
    rw [b₂, b₁] at hcoll
    rw [b₄, b₃, b₂, b₁]
    exact Path.single (Event.redistributes h₀ htm hdebt hcoll)

theorem updateSystemSnapshotsExcludeCollRemainder_path {collRemainder : ℕ}
    (h : updateSystemSnapshotsExcludeCollRemainder D s collRemainder = .ok s')
    (howners : s.troveManager.troveOwners ≠ []) (d c g : ℤ) :
    Path D (s.book D d c g) (s'.book D d c g) := by
  obtain ⟨_, -, h⟩ := bind_eq_ok.1 h
  rw [← pure_eq_ok.1 h]
  exact Path.single (Event.snapshots howners)

end Redistribution

end TroveManager

end Usdd

import Usdd.Lib.RewardAccumulator
import Usdd.TroveManager

/-!
# What the storage of the TroveManager says about a trove

The views of an active trove as plain numbers, and the effect of each composite write: which
fields of the one trove it is about it changes, and that it changes no other trove.
-/

open Transaction

namespace Usdd.TroveManager

section Amounts

variable (tm : TroveManager) (a : Address)

def stakes : ℕ := (tm.troves a).stake

def collSnapshots : ℕ := (tm.rewardSnapshots a).coll

def debtSnapshots : ℕ := (tm.rewardSnapshots a).usddDebt

def pendingColl : ℕ :=
  RewardAccumulator.earned tm.stakes tm.collSnapshots tm.lColl a / decimalPrecision

def pendingDebt : ℕ :=
  RewardAccumulator.earned tm.stakes tm.debtSnapshots tm.lUSDDDebt a / decimalPrecision

def currentColl : ℕ := (tm.troves a).coll + tm.pendingColl a

def currentDebt : ℕ := (tm.troves a).debt + tm.pendingDebt a

def Active : Prop := (tm.troves a).status = .active

instance : Decidable (tm.Active a) := inferInstanceAs (Decidable (_ = _))

end Amounts

variable {tm tm' : TroveManager} {a b id : Address} {v : ℕ}

theorem pendingColl_of_le (h : tm.lColl ≤ tm.collSnapshots a) : tm.pendingColl a = 0 := by
  rw [pendingColl, RewardAccumulator.earned, Nat.sub_eq_zero_of_le h, Nat.mul_zero, Nat.zero_div]

theorem pendingDebt_of_le (h : tm.lUSDDDebt ≤ tm.debtSnapshots a) : tm.pendingDebt a = 0 := by
  rw [pendingDebt, RewardAccumulator.earned, Nat.sub_eq_zero_of_le h, Nat.mul_zero, Nat.zero_div]

theorem getPendingCollReward_eq_ok_iff (ha : tm.Active a) :
    getPendingCollReward tm a = .ok v ↔ tm.collSnapshots a ≤ tm.lColl ∧ v = tm.pendingColl a := by
  unfold getPendingCollReward pendingColl RewardAccumulator.earned
  simp only [bind_eq_ok, sub_eq_ok, ite_eq_ok, pure_eq_ok]
  constructor
  · rintro ⟨_, ⟨hle, rfl⟩, ⟨hz | hn, rfl⟩ | ⟨-, rfl⟩⟩
    · exact ⟨hle, by simp [collSnapshots, hz]⟩
    · exact absurd ha hn
    · exact ⟨hle, rfl⟩
  · rintro ⟨hle, rfl⟩
    refine ⟨_, ⟨hle, rfl⟩, ?_⟩
    by_cases hz : tm.lColl - (tm.rewardSnapshots a).coll = 0
    · exact Or.inl ⟨Or.inl hz, by simp [collSnapshots, hz]⟩
    · exact Or.inr ⟨fun h => h.elim hz (fun hn => hn ha), rfl⟩

theorem getPendingUSDDDebtReward_eq_ok_iff (ha : tm.Active a) :
    getPendingUSDDDebtReward tm a = .ok v ↔
      tm.debtSnapshots a ≤ tm.lUSDDDebt ∧ v = tm.pendingDebt a := by
  unfold getPendingUSDDDebtReward pendingDebt RewardAccumulator.earned
  simp only [bind_eq_ok, sub_eq_ok, ite_eq_ok, pure_eq_ok]
  constructor
  · rintro ⟨_, ⟨hle, rfl⟩, ⟨hz | hn, rfl⟩ | ⟨-, rfl⟩⟩
    · exact ⟨hle, by simp [debtSnapshots, hz]⟩
    · exact absurd ha hn
    · exact ⟨hle, rfl⟩
  · rintro ⟨hle, rfl⟩
    refine ⟨_, ⟨hle, rfl⟩, ?_⟩
    by_cases hz : tm.lUSDDDebt - (tm.rewardSnapshots a).usddDebt = 0
    · exact Or.inl ⟨Or.inl hz, by simp [debtSnapshots, hz]⟩
    · exact Or.inr ⟨fun h => h.elim hz (fun hn => hn ha), rfl⟩

theorem getCurrentTroveAmounts_of_active (ha : tm.Active a)
    (hc : tm.collSnapshots a ≤ tm.lColl) (hd : tm.debtSnapshots a ≤ tm.lUSDDDebt) :
    getCurrentTroveAmounts tm a = .ok (tm.currentColl a, tm.currentDebt a) := by
  unfold getCurrentTroveAmounts
  rw [(getPendingCollReward_eq_ok_iff ha).2 ⟨hc, rfl⟩,
    (getPendingUSDDDebtReward_eq_ok_iff ha).2 ⟨hd, rfl⟩]
  rfl

theorem getNominalICR_of_active (ha : tm.Active a) (hc : tm.collSnapshots a ≤ tm.lColl)
    (hd : tm.debtSnapshots a ≤ tm.lUSDDDebt) :
    getNominalICR tm a = .ok (LiquityMath.computeNominalCR (tm.currentColl a) (tm.currentDebt a)) := by
  unfold getNominalICR
  rw [getCurrentTroveAmounts_of_active ha hc hd]
  rfl

theorem getCurrentICR_of_active (ha : tm.Active a) (hc : tm.collSnapshots a ≤ tm.lColl)
    (hd : tm.debtSnapshots a ≤ tm.lUSDDDebt) (price : ℕ) :
    getCurrentICR tm a price =
      .ok (LiquityMath.computeCR (tm.currentColl a) (tm.currentDebt a) price) := by
  unfold getCurrentICR
  rw [getCurrentTroveAmounts_of_active ha hc hd]
  rfl

/-- A change of storage that is about the trove of `id` only. -/
structure Frame (tm tm' : TroveManager) (id : Address) : Prop where
  status : ∀ a, a ≠ id → (tm'.troves a).status = (tm.troves a).status
  debt : ∀ a, a ≠ id → (tm'.troves a).debt = (tm.troves a).debt
  coll : ∀ a, a ≠ id → (tm'.troves a).coll = (tm.troves a).coll
  stake : ∀ a, a ≠ id → (tm'.troves a).stake = (tm.troves a).stake
  snapshot : ∀ a, a ≠ id → tm'.rewardSnapshots a = tm.rewardSnapshots a
  lColl : tm'.lColl = tm.lColl
  lUSDDDebt : tm'.lUSDDDebt = tm.lUSDDDebt
  collError : tm'.lastETHErrorRedistribution = tm.lastETHErrorRedistribution
  debtError : tm'.lastUSDDDebtErrorRedistribution = tm.lastUSDDDebtErrorRedistribution
  totalStakesSnapshot : tm'.totalStakesSnapshot = tm.totalStakesSnapshot
  totalCollateralSnapshot : tm'.totalCollateralSnapshot = tm.totalCollateralSnapshot

namespace Frame

variable (h : Frame tm tm' id)
include h

theorem active_iff (ha : a ≠ id) : tm'.Active a ↔ tm.Active a := by
  unfold Active
  rw [h.status a ha]

theorem collSnapshots (ha : a ≠ id) : tm'.collSnapshots a = tm.collSnapshots a := by
  unfold TroveManager.collSnapshots
  rw [h.snapshot a ha]

theorem debtSnapshots (ha : a ≠ id) : tm'.debtSnapshots a = tm.debtSnapshots a := by
  unfold TroveManager.debtSnapshots
  rw [h.snapshot a ha]

theorem currentColl (ha : a ≠ id) : tm'.currentColl a = tm.currentColl a := by
  unfold TroveManager.currentColl pendingColl RewardAccumulator.earned stakes
  rw [h.coll a ha, h.stake a ha, h.collSnapshots ha, h.lColl]

theorem currentDebt (ha : a ≠ id) : tm'.currentDebt a = tm.currentDebt a := by
  unfold TroveManager.currentDebt pendingDebt RewardAccumulator.earned stakes
  rw [h.debt a ha, h.stake a ha, h.debtSnapshots ha, h.lUSDDDebt]

theorem getNominalICR (ha : a ≠ id) :
    TroveManager.getNominalICR tm' a = TroveManager.getNominalICR tm a := by
  unfold TroveManager.getNominalICR getCurrentTroveAmounts getPendingCollReward
    getPendingUSDDDebtReward
  rw [h.snapshot a ha, h.lColl, h.lUSDDDebt, h.status a ha, h.stake a ha, h.debt a ha, h.coll a ha]

theorem sum_debt : ∑ a, (tm'.troves a).debt + (tm.troves id).debt =
    ∑ a, (tm.troves a).debt + (tm'.troves id).debt :=
  UpdateSum.sum_change id h.debt

theorem sum_coll : ∑ a, (tm'.troves a).coll + (tm.troves id).coll =
    ∑ a, (tm.troves a).coll + (tm'.troves id).coll :=
  UpdateSum.sum_change id h.coll

theorem sum_stakes : ∑ a, tm'.stakes a + tm.stakes id = ∑ a, tm.stakes a + tm'.stakes id :=
  UpdateSum.sum_change id h.stake

end Frame

end Usdd.TroveManager

import Usdd.Registry

/-!
# Stakes stay positive

A new stake is the collateral scaled by the ratio of the last system snapshots, rounded down. It is
positive exactly when the collateral is worth one unit of stake, and as long as every restake of a
run meets this, no stake, no total and no snapshot of the total is ever zero.
-/

open Transaction

namespace Usdd

open TroveManager

/-- The collateral that is restaked is worth at least one unit of stake. -/
def JournalEntry.KeepsStake : JournalEntry → Prop
  | .restake tm borrower =>
      tm.totalCollateralSnapshot ≤ (tm.troves borrower).coll * tm.totalStakesSnapshot
  | _ => True

instance : DecidablePred JournalEntry.KeepsStake
  | .redistribute _ _ _ _ => isTrue trivial
  | .restake _ _ => inferInstanceAs (Decidable (_ ≤ _))
  | .offset _ _ => isTrue trivial
  | .changeDeposit _ _ => isTrue trivial

namespace TroveManager

structure StakesPositive (tm : TroveManager) : Prop where
  stake : ∀ a, tm.Active a → 0 < tm.stakes a
  snapshot : 0 < tm.totalCollateralSnapshot → 0 < tm.totalStakesSnapshot

variable {tm tm' : TroveManager} {id : Address} {coll debt stake : ℕ}

theorem computeNewStake_pos (h : computeNewStake tm coll = .ok stake) (hcoll : 0 < coll)
    (hkeeps : tm.totalCollateralSnapshot ≤ coll * tm.totalStakesSnapshot) : 0 < stake := by
  unfold computeNewStake at h
  split_ifs at h with hz
  · rwa [← pure_eq_ok.1 h]
  · obtain ⟨_, -, h⟩ := bind_eq_ok.1 h
    obtain ⟨-, rfl⟩ := div_eq_ok.1 h
    exact Nat.div_pos hkeeps (Nat.pos_of_ne_zero hz)

theorem StakesPositive.computeNewStake_eq_ok (h : tm.StakesPositive) (coll : ℕ) :
    ∃ stake, computeNewStake tm coll = .ok stake := by
  unfold computeNewStake
  split_ifs with hz
  · exact ⟨coll, rfl⟩
  · refine ⟨coll * tm.totalStakesSnapshot / tm.totalCollateralSnapshot, ?_⟩
    exact bind_eq_ok.2 ⟨(), assert_eq_ok.2 (h.snapshot (Nat.pos_of_ne_zero hz)),
      div_eq_ok.2 ⟨hz, rfl⟩⟩

theorem StakesPositive.write (h : tm.StakesPositive) (hf : Frame tm tm' id)
    (hid : tm'.Active id → 0 < tm'.stakes id) : tm'.StakesPositive := by
  refine ⟨fun a ha => ?_, ?_⟩
  · by_cases haid : a = id
    · subst haid
      exact hid ha
    · rw [stakes, hf.stake a haid]
      exact h.stake a ((hf.active_iff haid).1 ha)
  · rw [hf.totalCollateralSnapshot, hf.totalStakesSnapshot]
    exact h.snapshot

end TroveManager

namespace Registry

variable {tm : TroveManager} {d : SortedTroves.Data} {a : Address}

theorem totalStakes_pos (h : Registry tm d) (hs : tm.StakesPositive) (ha : tm.Active a) :
    0 < tm.totalStakes := by
  rw [← h.totalStakes]
  exact (hs.stake a ha).trans_le (UpdateSum.single_le_sum tm.stakes a)

/-- The divisions of a redistribution do not fail. -/
theorem addRewardTerms_of_active (h : Registry tm d) (hs : tm.StakesPositive) (ha : tm.Active a)
    (debt coll : ℕ) : ∃ tm', TroveManager.addRewardTerms tm debt coll = .ok tm' := by
  have hne : tm.totalStakes ≠ 0 := (h.totalStakes_pos hs ha).ne'
  have hdiv (n : ℕ) : SafeMath.div n tm.totalStakes = .ok (n / tm.totalStakes) :=
    div_eq_ok.2 ⟨hne, rfl⟩
  have hsub (n : ℕ) : SafeMath.sub n (n / tm.totalStakes * tm.totalStakes) =
      .ok (n - n / tm.totalStakes * tm.totalStakes) :=
    sub_eq_ok.2 ⟨Nat.div_mul_le_self _ _, rfl⟩
  simp only [TroveManager.addRewardTerms, bind_eq_ok, pure_eq_ok, hdiv, hsub, Except.ok.injEq,
    exists_eq_left', exists_eq']

end Registry

variable {D : Deployment} {b b' : Book}

theorem TroveManager.StakesPositive.event (hreg : Registry b.troveManager b.sortedTroves)
    (h : b.troveManager.StakesPositive) (hj : ∀ e ∈ b'.journal, e.KeepsStake)
    (he : Event D b b') : b'.troveManager.StakesPositive := by
  have hreg' := hreg.event he
  cases he with
  | @opens id _ _ coll debt _ _ _ _ hnew hdebt hstake hlist hgas hpool =>
      obtain ⟨hd, hc, hs, -⟩ := hreg.inactive _ hnew
      obtain ⟨stake, hcompute, heq⟩ := opened_eq_ok hd hc hs hstake
      have hkeeps : b.troveManager.totalCollateralSnapshot ≤
          ((b.troveManager.opened id coll debt).troves id).coll *
            b.troveManager.totalStakesSnapshot := hj _ (List.mem_cons_self ..)
      have hcoll : ((b.troveManager.opened id coll debt).troves id).coll = coll := by
        simp [opened_eq, hc]
      rw [heq]
      refine h.write entered_frame (fun _ => ?_)
      rw [hcoll] at hkeeps
      have hpos := Registry.pos_of_computeNominalCR (Registry.insert_nicr_pos hlist)
        (Registry.minDebt_pos hdebt)
      rw [stakes, entered_self]
      exact computeNewStake_pos hcompute hpos hkeeps
  | @realises id coll debt hactive =>
      refine h.write realised_frame (fun _ => ?_)
      rw [stakes, realised_self]
      exact h.stake id hactive
  | @amends id _ _ coll debt _ _ _ _ _ _ _ _ _ _ hactive hsnapshot hdebt hstake hview hlist =>
      obtain ⟨stake, hcompute, -, rfl⟩ := amended_eq_ok hstake
      have hkeeps : b.troveManager.totalCollateralSnapshot ≤
          ((b.troveManager.amended id coll debt).troves id).coll *
            b.troveManager.totalStakesSnapshot := hj _ (List.mem_cons_self ..)
      have hcoll : ((b.troveManager.amended id coll debt).troves id).coll = coll := by
        simp [amended, setTrove]
      refine h.write restaked_frame (fun _ => ?_)
      rw [hcoll] at hkeeps
      have hmin := hdebt.elim (hreg.active id hactive).1.trans (fun hle => hle)
      have hpos := Registry.pos_of_computeNominalCR (Registry.reInsert_nicr_pos hlist)
        (Registry.minDebt_pos hmin)
      rw [stakes, restaked_self]
      exact computeNewStake_pos hcompute hpos hkeeps
  | closes hstatus hmore hstake howner hlist =>
      obtain ⟨-, -, rfl⟩ := departed_eq_ok hstake howner
      refine h.write departed_frame (fun ha => ?_)
      rw [Active, departed_troves, if_pos rfl] at ha
      exact absurd ha hstatus.2
  | redistributes hpos hterms =>
      obtain ⟨-, q, r, e, f, -, -, -, -, rfl⟩ := addRewardTerms_eq_ok hterms
      exact ⟨h.stake, h.snapshot⟩
  | snapshots howners =>
      obtain ⟨a, ha⟩ := List.exists_mem_of_ne_nil _ howners
      exact ⟨h.stake, fun _ => hreg.totalStakes_pos h ((hreg.mem_owners a).1 ha)⟩
  | _ => exact h

end Usdd

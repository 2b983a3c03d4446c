import Usdd.LiquidationCalls

/-!
# Redemption as events

What a redemption takes out of the troves is owed by the active pool until the end, when the redeemer
is paid and the redeemed USDD are burned.
-/

open Transaction

namespace Usdd.TroveManager

variable {D : Deployment} {m : Message} {s s₁ s' : State} {borrower depositor : Address}
  {r : Redemption} {usdd coll price : ℕ}

section Single

/-- A trove that is closed keeps its reserve for the last part of its debt. -/
theorem redeemCloseTrove_path (hne : D.gasPool ≠ D.stabilityPool)
    (h : redeemCloseTrove D s borrower usddGasCompensation coll = .ok s') (d c g : ℤ) :
    Path D (s.book D d c g) (s'.book D (d - usddGasCompensation) (c - coll) (g - 1)) := by
  obtain ⟨s₁, h₁, h⟩ := bind_eq_ok.1 h
  obtain ⟨s₂, h₂, h⟩ := bind_eq_ok.1 h
  obtain ⟨s₃, h₃, h⟩ := bind_eq_ok.1 h
  obtain ⟨s₄, h₄, h⟩ := bind_eq_ok.1 h
  obtain ⟨-, hsupply, b₁⟩ := USDDToken.burn_book h₁ (d - usddGasCompensation) c (g - 1)
  obtain ⟨hdebt, b₂⟩ := ActivePool.decreaseUSDDDebt_book h₂ (d - usddGasCompensation) c (g - 1)
  rw [if_pos rfl, if_neg hne.symm, Nat.sub_zero] at b₁
  rw [b₁] at hdebt b₂
  have hgas : (s.book D d c g).gas ≤
      (s.book D d c g).gas - usddGasCompensation + 1 * usddGasCompensation := by omega
  have p₂ : Path D (s.book D d c g) (s₂.book D (d - usddGasCompensation) c (g - 1)) := by
    rw [b₂]
    exact (Path.single (Event.paysGas hgas le_rfl)).trans
      (Path.single (Event.burnsDebt hdebt hsupply))
  refine p₂.trans ?_
  rw [← CollSurplusPool.accountSurplus_book h₃, CollSurplusPool.receiveColl_book h]
  exact BorrowerOperations.sendColl_path h₄ _ _ _

theorem redeemFromTrove_path {newDebt newColl : ℕ} {cancelled : Bool}
    (hne : D.gasPool ≠ D.stabilityPool) (hactive : s.troveManager.Active borrower)
    (hsnapshot : s.troveManager.lColl ≤ s.troveManager.collSnapshots borrower)
    (h : redeemFromTrove D s borrower newDebt newColl r = .ok (s', cancelled)) :
    (cancelled = true ∧ s' = s) ∨ (cancelled = false ∧ ∀ d c g : ℤ, Path D (s.book D d c g)
      (s'.book D (d + (s.troveManager.troves borrower).debt - newDebt)
        (c + (s.troveManager.troves borrower).coll - newColl) g)) := by
  rcases ite_eq_ok.1 h with ⟨hdebt, h⟩ | ⟨-, h⟩
  · obtain ⟨tm, htm, h⟩ := bind_eq_ok.1 h
    obtain ⟨s₁, h₁, h⟩ := bind_eq_ok.1 h
    obtain ⟨s₂, h₂, h⟩ := bind_eq_ok.1 h
    cases pure_eq_ok.1 h
    refine Or.inr ⟨rfl, fun d c g => ?_⟩
    have hp := (closeTrove_path htm h₁ d c g).trans (redeemCloseTrove_path hne h₂ _ _ _)
    rw [add_sub_cancel_right g 1] at hp
    rwa [hdebt]
  · obtain ⟨newNetDebt, hnet, h⟩ := bind_eq_ok.1 h
    obtain ⟨hle, hnet⟩ := sub_eq_ok.1 hnet
    rcases ite_eq_ok.1 h with ⟨-, h⟩ | ⟨hhint, h⟩
    · cases pure_eq_ok.1 h
      exact Or.inl ⟨rfl, rfl⟩
    · obtain ⟨list, hlist, h⟩ := bind_eq_ok.1 h
      obtain ⟨s₁, h₁, h⟩ := bind_eq_ok.1 h
      cases pure_eq_ok.1 h
      obtain ⟨tm, htm, rfl⟩ := restake_eq_ok h₁
      obtain ⟨-, hmin⟩ := not_or.1 hhint
      refine Or.inr ⟨rfl, fun d c g => ?_⟩
      have hview (a : Address) (ha : a ≠ borrower) :
          getNominalICR s.troveManager a = getNominalICR tm a := by
        obtain ⟨stake, -, -, rfl⟩ := amended_eq_ok htm
        exact (restaked_frame.getNominalICR ha).symm
      refine Path.single (Event.amends (b := s.book D d c g) hactive hsnapshot (Or.inr ?_) htm hview
        hlist ?_ ?_ rfl le_rfl le_rfl)
      · omega
      · dsimp only [State.book]
        omega
      · dsimp only [State.book]
        omega

theorem redeemCollateralFromTrove_path {maxUSDDamount : ℕ} {v : SingleRedemptionValues}
    (hne : D.gasPool ≠ D.stabilityPool) (hactive : s.troveManager.Active borrower)
    (hsnapshot : s.troveManager.lColl ≤ s.troveManager.collSnapshots borrower)
    (h : redeemCollateralFromTrove D s borrower maxUSDDamount price r = .ok (s', v)) :
    (v.cancelledPartial = true ∧ s' = s) ∨ (v.cancelledPartial = false ∧ ∀ d c g : ℤ,
      Path D (s.book D d c g) (s'.book D (d + v.usddLot) (c + v.collLot) g)) := by
  obtain ⟨netDebt, -, h⟩ := bind_eq_ok.1 h
  obtain ⟨collLot, -, h⟩ := bind_eq_ok.1 h
  obtain ⟨newDebt, hdebt, h⟩ := bind_eq_ok.1 h
  obtain ⟨newColl, hcoll, h⟩ := bind_eq_ok.1 h
  obtain ⟨⟨s₁, cancelled⟩, h₁, h⟩ := bind_eq_ok.1 h
  obtain ⟨hle, hdebt⟩ := sub_eq_ok.1 hdebt
  obtain ⟨hle', hcoll⟩ := sub_eq_ok.1 hcoll
  cases pure_eq_ok.1 h
  rcases redeemFromTrove_path hne hactive hsnapshot h₁ with ⟨hc, hs⟩ | ⟨hc, hp⟩
  · exact Or.inl ⟨hc, hs⟩
  · refine Or.inr ⟨hc, fun d c g => ?_⟩
    have hd : d + (s.troveManager.troves borrower).debt - newDebt =
        d + (min maxUSDDamount netDebt : ℕ) := by omega
    have hc : c + (s.troveManager.troves borrower).coll - newColl = c + collLot := by omega
    have hp := hp d c g
    rwa [hd, hc] at hp

/-- Only an active trove can be redeemed from, since any other has no debt. -/
theorem redeemCollateralFromTrove_active {maxUSDDamount : ℕ} {v : SingleRedemptionValues}
    (hreg : Registry s.troveManager s.sortedTroves)
    (h₁ : applyPendingRewards D s borrower = .ok s₁)
    (h : redeemCollateralFromTrove D s₁ borrower maxUSDDamount price r = .ok (s', v)) :
    s.troveManager.Active borrower := by
  by_contra hna
  have hs₁ : s = s₁ := by
    have hpending : hasPendingRewards s.troveManager borrower = false := if_pos hna
    unfold applyPendingRewards at h₁
    rw [hpending] at h₁
    exact pure_eq_ok.1 h₁
  obtain ⟨netDebt, hnet, -⟩ := bind_eq_ok.1 h
  obtain ⟨hle, -⟩ := sub_eq_ok.1 hnet
  rw [← hs₁, (hreg.inactive borrower hna).1] at hle
  exact absurd hle (by decide)

end Single

section Loop

/-- What the loop has redeemed so far is owed by the active pool. -/
def RedemptionTotals.Follows (D : Deployment) (s : State) (totals : RedemptionTotals) : Prop :=
  ∀ d c g : ℤ, Path D (s.book D d c g)
    (totals.state.book D (d + totals.totalUSDDToRedeem) (c + totals.totalETHDrawn) g)

variable {totals totals' : RedemptionTotals} {iterations : ℕ} {currentBorrower : Address}

theorem RedemptionTotals.Follows.redeemLoop (hne : D.gasPool ≠ D.stabilityPool)
    (hreg : Registry s.troveManager s.sortedTroves) (hf : totals.Follows D s)
    (h : redeemLoop D price r iterations currentBorrower totals = .ok totals') :
    totals'.Follows D s := by
  have hactive {totals : RedemptionTotals} {s₁ s₂ : State} {borrower : Address}
      {v : SingleRedemptionValues} (hf : totals.Follows D s)
      (h₁ : applyPendingRewards D totals.state borrower = .ok s₁)
      (h₂ : redeemCollateralFromTrove D s₁ borrower totals.remainingUSDD price r = .ok (s₂, v)) :
      totals.state.troveManager.Active borrower :=
    redeemCollateralFromTrove_active ((hf 0 0 0).registry hreg) h₁ h₂
  refine redeemLoop_rule ?_ ?_ hf h
  · intro totals s₁ borrower s₂ v remaining hf h₁ h₂ hc _ d c g
    have ha := hactive hf h₁ h₂
    have hp₁ := applyPendingRewards_path ha h₁
    rcases redeemCollateralFromTrove_path hne (applyPendingRewards_active ha h₁)
      (applyPendingRewards_snapshot ha h₁) h₂ with ⟨hc', -⟩ | ⟨-, hp⟩
    · rw [hc] at hc'
      cases hc'
    · have hstep := (hf d c g).trans ((hp₁ _ _ _).trans (hp _ _ _))
      dsimp only
      push_cast
      rw [← add_assoc, ← add_assoc]
      exact hstep
  · intro totals s₁ borrower s₂ v hf h₁ h₂ hc d c g
    have ha := hactive hf h₁ h₂
    have hp₁ := applyPendingRewards_path ha h₁
    rcases redeemCollateralFromTrove_path hne (applyPendingRewards_active ha h₁)
      (applyPendingRewards_snapshot ha h₁) h₂ with ⟨-, hs⟩ | ⟨hc', -⟩
    · show Path D _ (s₂.book D _ _ g)
      rw [hs]
      exact (hf d c g).trans (hp₁ _ _ _)
    · rw [hc] at hc'
      cases hc'

end Loop

section Settlement

theorem settleRedemption_path {totalUSDDSupplyAtStart : ℕ} (hgas : depositor ≠ D.gasPool)
    (hpool : depositor ≠ D.stabilityPool)
    (h : settleRedemption D m s depositor r usdd coll totalUSDDSupplyAtStart = .ok s')
    (d c g : ℤ) : Path D (s.book D (d + usdd) (c + coll) g) (s'.book D d c g) := by
  obtain ⟨_, -, h⟩ := bind_eq_ok.1 h
  obtain ⟨fees, -, h⟩ := bind_eq_ok.1 h
  obtain ⟨collFee, -, h⟩ := bind_eq_ok.1 h
  obtain ⟨_, -, h⟩ := bind_eq_ok.1 h
  obtain ⟨s₁, h₁, h⟩ := bind_eq_ok.1 h
  obtain ⟨s₂, h₂, h⟩ := bind_eq_ok.1 h
  obtain ⟨collToSend, hsend, h⟩ := bind_eq_ok.1 h
  obtain ⟨s₃, h₃, h⟩ := bind_eq_ok.1 h
  obtain ⟨s₄, h₄, h⟩ := bind_eq_ok.1 h
  obtain ⟨hle, hsend⟩ := sub_eq_ok.1 hsend
  have p₁ : Path D (s.book D (d + usdd) (c + coll) g)
      (s₂.book D (d + usdd) (c + coll - collFee) g) := by
    rw [DEFTStaking.increaseFColl_book h₂]
    exact BorrowerOperations.sendColl_path h₁ _ _ _
  obtain ⟨-, hsupply, b₃⟩ := USDDToken.burn_book h₃ d (c + coll - collFee) g
  obtain ⟨hdebt, b₄⟩ := ActivePool.decreaseUSDDDebt_book h₄ d (c + coll - collFee) g
  rw [if_neg hgas.symm, if_neg hpool.symm, Nat.sub_zero, Nat.sub_zero] at b₃
  rw [b₃] at hdebt b₄
  have hburn := Event.burnsDebt (D := D) (b := s₂.book D (d + usdd) (c + coll - collFee) g) hdebt
    hsupply
  have hd : d + (usdd : ℤ) - usdd = d := add_sub_cancel_right d _
  have p₄ : Path D (s₂.book D (d + usdd) (c + coll - collFee) g)
      (s₄.book D d (c + coll - collFee) g) := by
    dsimp only [State.book] at hburn b₄ ⊢
    rw [hd] at hburn
    rw [b₄]
    exact Path.single hburn
  have p₅ := BorrowerOperations.sendColl_path h d (c + coll - collFee) g
  have hc : c + (coll : ℤ) - collFee - collToSend = c := by omega
  rw [hc] at p₅
  exact p₁.trans (p₄.trans p₅)

theorem redeemCollateral_path (hreg : Registry s.troveManager s.sortedTroves)
    (hne : D.gasPool ≠ D.stabilityPool) (hgas : depositor ≠ D.gasPool)
    (hpool : depositor ≠ D.stabilityPool) (h : redeemCollateral D m s depositor r = .ok s')
    (d c g : ℤ) : Path D (s.book D d c g) (s'.book D d c g) := by
  obtain ⟨_, -, h⟩ := bind_eq_ok.1 h
  obtain ⟨currentBorrower, -, h⟩ := bind_eq_ok.1 h
  obtain ⟨totals, htotals, h⟩ := bind_eq_ok.1 h
  have hstart : RedemptionTotals.Follows D s ⟨s, r.usddAmount, 0, 0⟩ := by
    intro d c g
    simp only [Nat.cast_zero, add_zero]
    exact Path.refl _
  have hf := hstart.redeemLoop hne hreg htotals
  exact (hf d c g).trans (settleRedemption_path hgas hpool h d c g)

end Settlement

end Usdd.TroveManager

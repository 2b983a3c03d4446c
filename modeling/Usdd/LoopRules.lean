import Usdd.Redemption

/-!
# Rules for the loops

A property of the running values that one liquidation keeps holds at the end of each of the four
sequences. The redemption loop has a rule of the same kind.
-/

open Transaction

namespace Usdd.TroveManager

variable {D : Deployment} {s : State} {price n : ℕ} {q q' : Sequence}

section Guarded

/-! A liquidation in a sequence comes after the check of the ratio of its trove, in Normal Mode also
of its bound. -/

variable {I : Sequence → Prop}
  (hrecovery : ∀ q user icr subtractSurplus q', I q →
    getCurrentICR q.state.troveManager user price = .ok icr → q.backToNormalMode = false →
    q.liquidateInRecoveryMode D price user icr subtractSurplus = .ok q' → I q')
  (hnormal : ∀ q user icr q', I q →
    getCurrentICR q.state.troveManager user price = .ok icr → icr < MCR →
    q.liquidateInNormalMode D user = .ok q' → I q')

include hrecovery hnormal in
theorem liquidateTrovesSequenceRecoveryMode_guarded {firstUser user : Address} (h : I q)
    (hq : liquidateTrovesSequenceRecoveryMode D price firstUser n user q = .ok q') : I q' := by
  induction n generalizing user q with
  | zero => rwa [← pure_eq_ok.1 hq]
  | succ n ih =>
    rcases ite_eq_ok.1 hq with ⟨-, hq⟩ | ⟨-, hq⟩
    · rwa [← pure_eq_ok.1 hq]
    · obtain ⟨icr, hicr, hq⟩ := bind_eq_ok.1 hq
      split_ifs at hq with hmode _ hlow
      · rwa [← pure_eq_ok.1 hq]
      · obtain ⟨q₁, hq₁, hq⟩ := bind_eq_ok.1 hq
        exact ih (hrecovery _ _ _ _ _ h hicr hmode hq₁) hq
      · obtain ⟨q₁, hq₁, hq⟩ := bind_eq_ok.1 hq
        exact ih (hnormal _ _ _ _ h hicr hlow hq₁) hq
      · rwa [← pure_eq_ok.1 hq]

include hnormal in
theorem liquidateTrovesSequenceNormalMode_guarded (h : I q)
    (hq : liquidateTrovesSequenceNormalMode D price n q = .ok q') : I q' := by
  induction n generalizing q with
  | zero => rwa [← pure_eq_ok.1 hq]
  | succ n ih =>
    obtain ⟨icr, hicr, hq⟩ := bind_eq_ok.1 hq
    split_ifs at hq with hlow
    · obtain ⟨q₁, hq₁, hq⟩ := bind_eq_ok.1 hq
      exact ih (hnormal _ _ _ _ h hicr hlow hq₁) hq
    · rwa [← pure_eq_ok.1 hq]

include hrecovery hnormal in
theorem batchLiquidateRecoveryMode_guarded {troveArray : List Address} (h : I q)
    (hq : batchLiquidateRecoveryMode D price troveArray q = .ok q') : I q' := by
  induction troveArray generalizing q with
  | nil => rwa [← pure_eq_ok.1 hq]
  | cons user troveArray ih =>
    rcases ite_eq_ok.1 hq with ⟨-, hq⟩ | ⟨-, hq⟩
    · exact ih h hq
    · obtain ⟨icr, hicr, hq⟩ := bind_eq_ok.1 hq
      split_ifs at hq with hmode _ hlow
      · exact ih h hq
      · obtain ⟨q₁, hq₁, hq⟩ := bind_eq_ok.1 hq
        exact ih (hrecovery _ _ _ _ _ h hicr hmode hq₁) hq
      · obtain ⟨q₁, hq₁, hq⟩ := bind_eq_ok.1 hq
        exact ih (hnormal _ _ _ _ h hicr hlow hq₁) hq
      · exact ih h hq

include hnormal in
theorem batchLiquidateNormalMode_guarded {troveArray : List Address} (h : I q)
    (hq : batchLiquidateNormalMode D price troveArray q = .ok q') : I q' := by
  induction troveArray generalizing q with
  | nil => rwa [← pure_eq_ok.1 hq]
  | cons user troveArray ih =>
    obtain ⟨icr, hicr, hq⟩ := bind_eq_ok.1 hq
    split_ifs at hq with hlow
    · obtain ⟨q₁, hq₁, hq⟩ := bind_eq_ok.1 hq
      exact ih (hnormal _ _ _ _ h hicr hlow hq₁) hq
    · exact ih h hq

end Guarded

section Liquidation

variable {I : Sequence → Prop}
  (hrecovery : ∀ q user icr subtractSurplus q', I q →
    q.liquidateInRecoveryMode D price user icr subtractSurplus = .ok q' → I q')
  (hnormal : ∀ q user q', I q → q.liquidateInNormalMode D user = .ok q' → I q')

include hrecovery hnormal in
theorem totalsFromLiquidateTrovesSequence_rule (h : I (Sequence.start D s))
    (hq : totalsFromLiquidateTrovesSequence D price s n = .ok q) : I q := by
  unfold totalsFromLiquidateTrovesSequence at hq
  split_ifs at hq
  · exact liquidateTrovesSequenceRecoveryMode_guarded
      (fun _ _ _ _ _ hi _ _ hq => hrecovery _ _ _ _ _ hi hq)
      (fun _ _ _ _ hi _ _ hq => hnormal _ _ _ hi hq) h hq
  · exact liquidateTrovesSequenceNormalMode_guarded
      (fun _ _ _ _ hi _ _ hq => hnormal _ _ _ hi hq) h hq

include hrecovery hnormal in
theorem totalsFromBatchLiquidate_rule {troveArray : List Address} (h : I (Sequence.start D s))
    (hq : totalsFromBatchLiquidate D price s troveArray = .ok q) : I q := by
  unfold totalsFromBatchLiquidate at hq
  split_ifs at hq
  · exact batchLiquidateRecoveryMode_guarded
      (fun _ _ _ _ _ hi _ _ hq => hrecovery _ _ _ _ _ hi hq)
      (fun _ _ _ _ hi _ _ hq => hnormal _ _ _ hi hq) h hq
  · exact batchLiquidateNormalMode_guarded
      (fun _ _ _ _ hi _ _ hq => hnormal _ _ _ hi hq) h hq

end Liquidation

section Redemption

variable {r : Redemption} {I : RedemptionTotals → Prop} {iterations : ℕ} {currentBorrower : Address}
  {totals totals' : RedemptionTotals}

/-- One round of the loop, which has something left to redeem, and either cancels the partial
redemption or adds to the totals. -/
theorem redeemLoop_guarded
    (hround : ∀ totals s₁ borrower s₂ v remaining, I totals → totals.remainingUSDD ≠ 0 →
      applyPendingRewards D totals.state borrower = .ok s₁ →
      redeemCollateralFromTrove D s₁ borrower totals.remainingUSDD price r = .ok (s₂, v) →
      v.cancelledPartial = false → SafeMath.sub totals.remainingUSDD v.usddLot = .ok remaining → I
        { state := s₂
          remainingUSDD := remaining
          totalUSDDToRedeem := totals.totalUSDDToRedeem + v.usddLot
          totalETHDrawn := totals.totalETHDrawn + v.collLot })
    (hcancel : ∀ totals s₁ borrower s₂ v, I totals → totals.remainingUSDD ≠ 0 →
      applyPendingRewards D totals.state borrower = .ok s₁ →
      redeemCollateralFromTrove D s₁ borrower totals.remainingUSDD price r = .ok (s₂, v) →
      v.cancelledPartial = true → I { totals with state := s₂ })
    (h : I totals) (hl : redeemLoop D price r iterations currentBorrower totals = .ok totals') :
    I totals' := by
  induction iterations generalizing currentBorrower totals with
  | zero => rwa [← pure_eq_ok.1 hl]
  | succ iterations ih =>
    rcases ite_eq_ok.1 hl with ⟨-, hl⟩ | ⟨hgoes, hl⟩
    · rwa [← pure_eq_ok.1 hl]
    · obtain ⟨-, hpos⟩ := not_or.1 hgoes
      obtain ⟨s₁, h₁, hl⟩ := bind_eq_ok.1 hl
      obtain ⟨⟨s₂, v⟩, h₂, hl⟩ := bind_eq_ok.1 hl
      rcases ite_eq_ok.1 hl with ⟨hc, hl⟩ | ⟨hc, hl⟩
      · rw [← pure_eq_ok.1 hl]
        exact hcancel _ _ _ _ _ h hpos h₁ h₂ hc
      · obtain ⟨remaining, hremaining, hl⟩ := bind_eq_ok.1 hl
        have hc : v.cancelledPartial = false := Bool.eq_false_of_not_eq_true hc
        exact ih (hround _ _ _ _ _ _ h hpos h₁ h₂ hc hremaining) hl

theorem redeemLoop_rule
    (hround : ∀ totals s₁ borrower s₂ v remaining, I totals →
      applyPendingRewards D totals.state borrower = .ok s₁ →
      redeemCollateralFromTrove D s₁ borrower totals.remainingUSDD price r = .ok (s₂, v) →
      v.cancelledPartial = false → SafeMath.sub totals.remainingUSDD v.usddLot = .ok remaining → I
        { state := s₂
          remainingUSDD := remaining
          totalUSDDToRedeem := totals.totalUSDDToRedeem + v.usddLot
          totalETHDrawn := totals.totalETHDrawn + v.collLot })
    (hcancel : ∀ totals s₁ borrower s₂ v, I totals →
      applyPendingRewards D totals.state borrower = .ok s₁ →
      redeemCollateralFromTrove D s₁ borrower totals.remainingUSDD price r = .ok (s₂, v) →
      v.cancelledPartial = true → I { totals with state := s₂ })
    (h : I totals) (hl : redeemLoop D price r iterations currentBorrower totals = .ok totals') :
    I totals' :=
  redeemLoop_guarded (fun _ _ _ _ _ _ hi _ => hround _ _ _ _ _ _ hi)
    (fun _ _ _ _ _ hi _ => hcancel _ _ _ _ _ hi) h hl

end Redemption

end Usdd.TroveManager

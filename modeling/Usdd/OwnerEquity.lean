import Usdd.RecoveryGuards
import Usdd.RedemptionRights

/-!
# The equity of an owner

What a trove holds, and what its owner can claim, less what it owes. At the price of the feed a
redemption takes nothing of it, and nobody else can lower it either, save by a liquidation.
-/

open Transaction

namespace Usdd

open TroveManager

/-- The collateral of an account, in its trove or left to claim, at a price, less its debt. -/
def State.equity (D : Deployment) (price : ℕ) (s : State) (a : Address) : ℤ :=
  (s.troveManager.currentColl a + s.surplus D a) * price -
    s.troveManager.currentDebt a * decimalPrecision

variable {D : Deployment} {m : Message} {s s₁ s' : State} {a account : Address} {price amount : ℕ}

section Claims

/-! Only the TroveManager and the claims of their owners change the claims. -/

theorem ActivePool.sendColl_surplus {sender token : Address} :
    Ensures (fun s' => s'.collSurplusPool = s.collSurplusPool)
      (ActivePool.sendColl D sender s account token amount) := by
  simp [ActivePool.sendColl, Token.transfer]

namespace BorrowerOperations

variable {adj : Adjustment}

theorem chargeBorrowingFee_surplus {charged : Bool} {maxFee : ℕ} :
    Ensures (fun r => r.1.collSurplusPool = s.collSurplusPool)
      (chargeBorrowingFee D m s charged amount maxFee) := by
  simp [chargeBorrowingFee, triggerBorrowingFee, DEFTStaking.increaseFUSDD, USDDToken.mint]

theorem activePoolAddColl_surplus :
    Ensures (fun s' => s'.collSurplusPool = s.collSurplusPool) (activePoolAddColl D m s amount) := by
  simp [activePoolAddColl, ActivePool.receiveColl, Token.transfer]

theorem withdrawUSDD_surplus {netDebt : ℕ} :
    Ensures (fun s' => s'.collSurplusPool = s.collSurplusPool)
      (withdrawUSDD D s account amount netDebt) := by
  simp [withdrawUSDD, ActivePool.increaseUSDDDebt, USDDToken.mint]

theorem repayUSDD_surplus :
    Ensures (fun s' => s'.collSurplusPool = s.collSurplusPool) (repayUSDD D s account amount) := by
  simp [repayUSDD, ActivePool.decreaseUSDDDebt, USDDToken.burn]

theorem moveCollFromAdjustment_surplus {isCollIncrease : Bool} :
    Ensures (fun s' => s'.collSurplusPool = s.collSurplusPool)
      (moveCollFromAdjustment D m s account amount isCollIncrease) := by
  simp [moveCollFromAdjustment, activePoolAddColl, ActivePool.receiveColl, ActivePool.sendColl,
    Token.transfer]

theorem openTrove_surplus {owner upperHint lowerHint : Address} {maxFee coll usdd : ℕ}
    (h : openTrove D m s owner maxFee coll usdd upperHint lowerHint = .ok s') :
    s'.collSurplusPool = s.collSurplusPool := by
  obtain ⟨s₁, fee, tm, list, s₃, s₄, -, h₁, -, -, -, -, h₃, h₄, h⟩ := openTrove_eq_ok h
  calc
    s'.collSurplusPool = s₄.collSurplusPool := withdrawUSDD_surplus s' h
    _ = s₃.collSurplusPool := withdrawUSDD_surplus s₄ h₄
    _ = s₁.collSurplusPool := (activePoolAddColl_surplus s₃ h₃ :)
    _ = s.collSurplusPool := chargeBorrowingFee_surplus _ h₁

theorem adjustTrove_surplus (h : adjustTrove D m s account adj = .ok s') :
    s'.collSurplusPool = s.collSurplusPool := by
  obtain ⟨s₁, s₂, fee, _, coll, debt, tm, list, s₃, -, h₁, h₂, -, -, -, -, -, -, -, h₃, h⟩ :=
    adjustTrove_eq_ok h
  have hmoved : s₃.collSurplusPool = s₂.collSurplusPool := by
    unfold moveUSDDFromAdjustment at h₃
    split_ifs at h₃
    · exact (withdrawUSDD_surplus s₃ h₃ :)
    · exact (repayUSDD_surplus s₃ h₃ :)
  calc
    s'.collSurplusPool = s₃.collSurplusPool := moveCollFromAdjustment_surplus s' h
    _ = s₂.collSurplusPool := hmoved
    _ = s₁.collSurplusPool := chargeBorrowingFee_surplus _ h₂
    _ = s.collSurplusPool := applyPendingRewards_surplus h₁

theorem closeTrove_surplus (h : closeTrove D m s account = .ok s') :
    s'.collSurplusPool = s.collSurplusPool := by
  obtain ⟨s₁, repayment, _, tm, s₂, s₃, s₄, -, -, h₁, -, -, -, -, h₂, h₃, h₄, h⟩ :=
    closeTrove_eq_ok h
  obtain ⟨-, -, tm', list, -, -, rfl⟩ := TroveManager.closeTrove_book h₂
  calc
    s'.collSurplusPool = s₄.collSurplusPool := ActivePool.sendColl_surplus s' h
    _ = s₃.collSurplusPool := repayUSDD_surplus s₄ h₄
    _ = s₁.collSurplusPool := (repayUSDD_surplus s₃ h₃ :)
    _ = s.collSurplusPool := applyPendingRewards_surplus h₁

/-- Whoever claims takes its own claim. -/
theorem claimCollateral_surplus (hsender : m.sender ≠ 0)
    (h : claimCollateral D m s account = .ok s') (ha : a ≠ m.sender) :
    s'.surplus D a = s.surplus D a := by
  obtain ⟨_, hcaller, h⟩ := bind_eq_ok.1 h
  have hself : m.sender = account := (require_eq_ok.1 hcaller).resolve_right hsender
  obtain ⟨_, -, h⟩ := bind_eq_ok.1 h
  obtain ⟨_, -, h⟩ := bind_eq_ok.1 h
  obtain ⟨_, -, h⟩ := bind_eq_ok.1 h
  obtain ⟨_, -, h⟩ := bind_eq_ok.1 h
  obtain ⟨_, -, h⟩ := bind_eq_ok.1 h
  rw [← pure_eq_ok.1 h, ← hself]
  simp [State.surplus, ha]

end BorrowerOperations

namespace StabilityPool

variable {depositor frontEnd frontEndTag upperHint lowerHint : Address}

theorem triggerDEFTIssuance_surplus (h : triggerDEFTIssuance D m s = .ok s') :
    s'.collSurplusPool = s.collSurplusPool := by
  obtain ⟨⟨s₁, issuance⟩, h₁, h⟩ := bind_eq_ok.1 h
  obtain ⟨_, -, h⟩ := bind_eq_ok.1 h
  obtain ⟨_, -, h₁⟩ := bind_eq_ok.1 h₁
  obtain ⟨_, -, h₁⟩ := bind_eq_ok.1 h₁
  obtain ⟨_, -, h₁⟩ := bind_eq_ok.1 h₁
  obtain ⟨_, -, h₁⟩ := bind_eq_ok.1 h₁
  cases pure_eq_ok.1 h₁
  rw [← pure_eq_ok.1 h]

theorem payOutDEFTGains_surplus :
    Ensures (fun s' => s'.collSurplusPool = s.collSurplusPool)
      (payOutDEFTGains D s depositor frontEnd) := by
  simp [payOutDEFTGains, payOutFrontEndGain, CommunityIssuance.sendDEFT,
    CommunityIssuance.requireCallerIsStabilityPool]

theorem sendUSDDtoStabilityPool_surplus :
    Ensures (fun s' => s'.collSurplusPool = s.collSurplusPool)
      (sendUSDDtoStabilityPool D s account amount) := by
  simp [sendUSDDtoStabilityPool, USDDToken.sendToPool]

theorem sendUSDDToDepositor_surplus :
    Ensures (fun s' => s'.collSurplusPool = s.collSurplusPool)
      (sendUSDDToDepositor D s account amount) := by
  simp [sendUSDDToDepositor, USDDToken.returnFromPool, decreaseUSDD]

theorem sendCollGainToDepositor_surplus :
    Ensures (fun s' => s'.collSurplusPool = s.collSurplusPool)
      (sendCollGainToDepositor D m s amount) := by
  simp [sendCollGainToDepositor, Token.transfer]

theorem provideToSP_surplus (h : provideToSP D m s depositor amount frontEndTag = .ok s') :
    s'.collSurplusPool = s.collSurplusPool := by
  obtain ⟨_, -, h⟩ := bind_eq_ok.1 h
  obtain ⟨_, -, h⟩ := bind_eq_ok.1 h
  obtain ⟨_, -, h⟩ := bind_eq_ok.1 h
  obtain ⟨_, -, h⟩ := bind_eq_ok.1 h
  obtain ⟨s₁, h₁, h⟩ := bind_eq_ok.1 h
  obtain ⟨_, -, h⟩ := bind_eq_ok.1 h
  obtain ⟨_, -, h⟩ := bind_eq_ok.1 h
  obtain ⟨_, -, h⟩ := bind_eq_ok.1 h
  obtain ⟨s₂, h₂, h⟩ := bind_eq_ok.1 h
  obtain ⟨_, -, h⟩ := bind_eq_ok.1 h
  obtain ⟨s₃, h₃, h⟩ := bind_eq_ok.1 h
  calc
    s'.collSurplusPool = s₃.collSurplusPool := (sendCollGainToDepositor_surplus s' h :)
    _ = s₂.collSurplusPool := (sendUSDDtoStabilityPool_surplus s₃ h₃ :)
    _ = s₁.collSurplusPool := (payOutDEFTGains_surplus s₂ h₂ :)
    _ = s.collSurplusPool := triggerDEFTIssuance_surplus h₁

theorem withdrawFromSP_surplus (h : withdrawFromSP D m s depositor amount = .ok s') :
    s'.collSurplusPool = s.collSurplusPool := by
  obtain ⟨_, -, h⟩ := bind_eq_ok.1 h
  obtain ⟨_, -, h⟩ := bind_eq_ok.1 h
  obtain ⟨_, -, h⟩ := bind_eq_ok.1 h
  obtain ⟨s₁, h₁, h⟩ := bind_eq_ok.1 h
  obtain ⟨_, -, h⟩ := bind_eq_ok.1 h
  obtain ⟨_, -, h⟩ := bind_eq_ok.1 h
  obtain ⟨_, -, h⟩ := bind_eq_ok.1 h
  obtain ⟨s₂, h₂, h⟩ := bind_eq_ok.1 h
  obtain ⟨_, -, h⟩ := bind_eq_ok.1 h
  obtain ⟨_, -, h⟩ := bind_eq_ok.1 h
  obtain ⟨s₃, h₃, h⟩ := bind_eq_ok.1 h
  obtain ⟨_, -, h⟩ := bind_eq_ok.1 h
  calc
    s'.collSurplusPool = s₃.collSurplusPool := (sendCollGainToDepositor_surplus s' h :)
    _ = s₂.collSurplusPool := (sendUSDDToDepositor_surplus s₃ h₃ :)
    _ = s₁.collSurplusPool := (payOutDEFTGains_surplus s₂ h₂ :)
    _ = s.collSurplusPool := triggerDEFTIssuance_surplus h₁

theorem withdrawCollGainToTrove_surplus
    (h : withdrawCollGainToTrove D m s upperHint lowerHint = .ok s') :
    s'.collSurplusPool = s.collSurplusPool := by
  obtain ⟨_, -, h⟩ := bind_eq_ok.1 h
  obtain ⟨_, -, h⟩ := bind_eq_ok.1 h
  obtain ⟨_, -, h⟩ := bind_eq_ok.1 h
  obtain ⟨s₁, h₁, h⟩ := bind_eq_ok.1 h
  obtain ⟨_, -, h⟩ := bind_eq_ok.1 h
  obtain ⟨_, -, h⟩ := bind_eq_ok.1 h
  obtain ⟨_, -, h⟩ := bind_eq_ok.1 h
  obtain ⟨s₂, h₂, h⟩ := bind_eq_ok.1 h
  obtain ⟨stake, -, h⟩ := bind_eq_ok.1 h
  obtain ⟨coll, -, h⟩ := bind_eq_ok.1 h
  obtain ⟨_, -, h⟩ := bind_eq_ok.1 h
  calc
    s'.collSurplusPool = s₂.collSurplusPool := (BorrowerOperations.adjustTrove_surplus h :)
    _ = s₁.collSurplusPool := (payOutDEFTGains_surplus s₂ h₂ :)
    _ = s.collSurplusPool := triggerDEFTIssuance_surplus h₁

end StabilityPool

end Claims

section Calls

theorem perform_surplus {call : Call} (hsender : m.sender ≠ 0) (hcall : call.takesTroves = false)
    (h : perform D m s call = .ok s') (ha : a ≠ m.sender) : s'.surplus D a = s.surplus D a := by
  have hkept (hpool : s'.collSurplusPool = s.collSurplusPool) : s'.surplus D a = s.surplus D a := by
    rw [State.surplus, hpool]
    rfl
  cases call with
  | openTrove => exact hkept (BorrowerOperations.openTrove_surplus h)
  | addColl | withdrawColl | withdrawUSDD | repayUSDD | adjustTrove =>
      exact hkept (BorrowerOperations.adjustTrove_surplus h)
  | closeTrove => exact hkept (BorrowerOperations.closeTrove_surplus h)
  | claimCollateral => exact BorrowerOperations.claimCollateral_surplus hsender h ha
  | liquidate | liquidateTroves | batchLiquidateTroves | redeemCollateral =>
      exact Bool.noConfusion hcall
  | provideToSP => exact hkept (StabilityPool.provideToSP_surplus h)
  | withdrawFromSP => exact hkept (StabilityPool.withdrawFromSP_surplus h)
  | withdrawCollGainToTrove => exact hkept (StabilityPool.withdrawCollGainToTrove_surplus h)
  | transferCollateral =>
      obtain ⟨_, -, h⟩ := bind_eq_ok.1 h
      rw [← pure_eq_ok.1 h]
      rfl
  | registerFrontEnd | transfer | transferFrom | approve | increaseAllowance | decreaseAllowance
  | permit =>
      obtain ⟨_, _, rfl⟩ := perform_minor rfl h
      rfl

end Calls

section Equity

/-- Outside the trove that is changed, an account is as well off as before. -/
theorem Spared.equity (h : Spared D s s' a)
    (hcoll : s'.troveManager.lColl = s.troveManager.lColl)
    (hdebt : s'.troveManager.lUSDDDebt = s.troveManager.lUSDDDebt) (price : ℕ) :
    s'.equity D price a = s.equity D price a := by
  unfold State.equity
  rw [h.currentColl hcoll, h.currentDebt hdebt, h.surplus]

theorem Registry.current_of_not_active {tm : TroveManager} {d : SortedTroves.Data}
    (h : Registry tm d) (ha : ¬tm.Active a) : tm.currentColl a = 0 ∧ tm.currentDebt a = 0 := by
  obtain ⟨hdebt, hcoll, hstake, -⟩ := h.inactive a ha
  have hzero : tm.stakes a = 0 := hstake
  unfold currentColl currentDebt pendingColl pendingDebt RewardAccumulator.earned
  rw [hdebt, hcoll, hzero]
  simp

/-- The collateral that a redemption draws is worth no more than the debt it pays. -/
theorem Redeemed.equity_le {lot : ℕ} (hreg : Registry s'.troveManager s'.sortedTroves)
    (h : Redeemed D price s s' a lot) : s.equity D price a ≤ s'.equity D price a := by
  obtain ⟨drawn, hdrawn⟩ : ∃ drawn, lot * decimalPrecision / price = drawn := ⟨_, rfl⟩
  have hvalue : (drawn : ℤ) * price ≤ lot * decimalPrecision := by
    rw [← hdrawn]
    exact_mod_cast Nat.div_mul_le_self _ _
  have houtcome := h.outcome
  rw [hdrawn] at houtcome
  unfold State.equity
  rcases houtcome with ⟨-, hsurplus, hdebt, hcoll⟩ | ⟨hclosed, hdebt, hsurplus⟩
  · rw [hsurplus, ← hdebt, ← hcoll]
    push_cast
    linarith
  · have hna : ¬s'.troveManager.Active a := by
      unfold TroveManager.Active
      rw [hclosed]
      exact nofun
    obtain ⟨hcoll', hdebt'⟩ := hreg.current_of_not_active hna
    have hheld : (s.troveManager.currentColl a + s.surplus D a : ℤ) =
        s'.surplus D a + drawn := by omega
    have hreserve : (0 : ℤ) ≤ usddGasCompensation * decimalPrecision := Int.natCast_nonneg _
    rw [hcoll', hdebt', hheld, ← hdebt]
    push_cast
    linarith

/-- A trove that is opened is worth more than it owes. -/
theorem openTrove_equity_le {upperHint lowerHint : Address} {maxFee coll usdd : ℕ}
    (hreg : Registry s.troveManager s.sortedTroves)
    (h : BorrowerOperations.openTrove D m s a maxFee coll usdd upperHint lowerHint = .ok s') :
    s.equity D m.price a ≤ s'.equity D m.price a := by
  obtain ⟨s₁, fee, stake, -, -, hvalid, htm, -⟩ := BorrowerOperations.openTrove_amounts hreg h
  obtain ⟨hna, -⟩ := BorrowerOperations.openTrove_concerns hreg h
  obtain ⟨hcoll, hdebt⟩ := hreg.current_of_not_active hna
  have hsurplus : s'.surplus D a = s.surplus D a := by
    rw [State.surplus, BorrowerOperations.openTrove_surplus h]
    rfl
  have hdebtPos : 0 < getCompositeDebt (usdd + fee) := by
    unfold getCompositeDebt
    have : 0 < usddGasCompensation := by decide
    omega
  have hratio : decimalPrecision ≤
      LiquityMath.computeCR coll (getCompositeDebt (usdd + fee)) m.price := by
    unfold BorrowerOperations.requireValidOpening at hvalid
    split_ifs at hvalid
    · exact le_trans (by decide) (require_eq_ok.1 hvalid)
    · obtain ⟨_, hmcr, -⟩ := bind_eq_ok.1 hvalid
      exact le_trans (by decide) (require_eq_ok.1 hmcr)
  have hworth := (BorrowerOperations.le_computeCR_iff hdebtPos).1 hratio
  have hself := entered_self s.troveManager a coll (getCompositeDebt (usdd + fee)) stake
  have hsnapshot := entered_snapshot s.troveManager a coll (getCompositeDebt (usdd + fee)) stake
  obtain ⟨hcoll', hdebt'⟩ : _ ∧ _ := current_of_realised
    (congrArg RewardSnapshot.coll hsnapshot) (congrArg RewardSnapshot.usddDebt hsnapshot)
  unfold State.equity
  rw [hcoll, hdebt, hsurplus, htm, hcoll', hdebt', hself]
  have hworth : (getCompositeDebt (usdd + fee) * decimalPrecision : ℤ) ≤ coll * m.price := by
    rw [Nat.mul_comm] at hworth
    exact_mod_cast hworth
  push_cast
  linarith

/-- In a call without liquidation, nobody but its owner can lower the equity of an account. -/
theorem step_equity_le {t : Transact} (hw : D.Wired) (h : Reachable D s)
    (hj : ∀ e ∈ s.journal, e.RaisesCollWithDebt) (hallowed : Allowed D s t)
    (hsender : t.message.sender ≠ a) (hcall : t.call.liquidates = false)
    (hs : step D s t = .ok s') :
    s.equity D t.message.price a ≤ s'.equity D t.message.price a := by
  have hreg := (h.consistent hw).registry
  have hreach' : Reachable D s' := h.next hallowed hs
  by_cases hredeems : t.call.redeems = true
  · obtain ⟨m, call⟩ := t
    cases call with
    | redeemCollateral depositor r =>
        obtain ⟨s₁, h₁, hs⟩ := bind_eq_ok.1 hs
        cases pure_eq_ok.1 hs
        obtain ⟨lots, _, _, hsettled⟩ :=
          redeemCollateral_settled hreg hw.gasPool_ne (h.inStep hw hj) h₁ m.timestamp
        rcases hsettled.troves a with ⟨-, hspared⟩ | hredeemed
        · exact (hspared.equity hsettled.rewards.1 hsettled.rewards.2 _).ge
        · exact hredeemed.equity_le (hreach'.consistent hw).registry
    | _ => exact Bool.noConfusion hredeems
  · have htakes : t.call.takesTroves = false := by
      rw [Call.takesTroves, hcall, Bool.eq_false_of_not_eq_true hredeems, Bool.or_false]
    obtain ⟨id, hid, hc⟩ := h.step_concerns hw hallowed htakes hs
    obtain ⟨s₁, h₁, hs⟩ := bind_eq_ok.1 hs
    have hsurplus := perform_surplus (a := a) hallowed.sender.1 htakes h₁ hsender.symm
    cases pure_eq_ok.1 hs
    have hspared (hne : a ≠ id) :
        Spared D s { s₁ with timestamp := t.message.timestamp } a :=
      ⟨KeepsRecord.of_frame hc.frame hne, hsurplus⟩
    rcases hid with rfl | ⟨⟨maxFee, coll, usdd, upper, lower, hopens⟩, -⟩
    · exact ((hspared hsender.symm).equity hc.frame.lColl hc.frame.lUSDDDebt _).ge
    · by_cases hne : a = id
      · subst hne
        rw [hopens] at h₁
        exact (openTrove_equity_le hreg h₁ :)
      · exact ((hspared hne).equity hc.frame.lColl hc.frame.lUSDDDebt _).ge

/-- As long as nobody liquidates and the price stays, nobody but its owner can lower the equity of an
account. -/
theorem equity_never_falls (hw : D.Wired) (h : Reachable D s)
    (hrun : Transaction.Reachable (step D) (fun s₀ => s₀ = s)
      (fun s t => Allowed D s t ∧ t.message.sender ≠ a ∧ t.call.liquidates = false ∧
        t.message.price = price) s')
    (hj : ∀ e ∈ s'.journal, e.RaisesCollWithDebt) :
    s.equity D price a ≤ s'.equity D price a := by
  induction hrun with
  | start hstart => rw [hstart]
  | @next s₁ s₂ t hrun ht hs ih =>
      obtain ⟨hallowed, hsender, hcall, rfl⟩ := ht
      have hreach₁ : Reachable D s₁ := by
        refine Transaction.Reachable.invariant (I := fun s => Reachable D s) ?_ ?_ hrun
        · rintro s₀ rfl
          exact h
        · rintro s t s' hs ⟨ha, -⟩ hstep
          exact hs.next ha hstep
      have hpath := (hreach₁.reached hw).step_path hw hallowed hs
      have hsubset : s₁.journal ⊆ s₂.journal :=
        Path.invariant (I := fun b => s₁.journal ⊆ b.journal)
          (fun _ _ he hi => List.Subset.trans hi he.journal_subset) hpath (List.Subset.refl _)
      have hj₁ : ∀ e ∈ s₁.journal, e.RaisesCollWithDebt := fun e he => hj e (hsubset he)
      exact (ih hj₁).trans (step_equity_le hw hreach₁ hj₁ hallowed hsender hcall hs)

/-- A redemption that closes the trove of the second account. -/
theorem equity_never_falls_of_sample : ∃ s s' : State, Reachable sampleDeployment s ∧
    s.troveManager.Active 2 ∧ (s'.troveManager.troves 2).status = .closedByRedemption ∧
    s.equity sampleDeployment (200 * decimalPrecision) 2 ≤
      s'.equity sampleDeployment (200 * decimalPrecision) 2 := by
  obtain ⟨s, hs, -, hactive, hints, -, hallowed, s', hs', hclosed, -, hj, -⟩ := sampleFullRedemption
  have hreach := reachable_sampleRun hs
  have hother : (1 : Address) ≠ 2 := by decide
  exact ⟨s, s', hreach, hactive, hclosed, equity_never_falls sampleDeployment_wired hreach
    (.next (.start rfl) ⟨hallowed, hother, rfl, rfl⟩ hs') hj⟩

end Equity

end Usdd

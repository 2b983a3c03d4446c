import Usdd.USDDCustody

/-!
# Custody of USDD in runs

No call of a liquidator or a redeemer, and no call on the token, strands USDD in the core contracts
either. So in a run that opens no trove for one of them, the Stability Pool holds the deposits, and
BorrowerOperations and the TroveManager hold nothing.
-/

open Transaction

namespace Usdd

variable {D : Deployment} {m : Message} {s s₁ s' : State}
  {account borrower liquidator depositor : Address} {amount price n : ℕ}

section Liquidation

namespace TroveManager

theorem liquidateNormalMode_usddBook {usddInStabPool : ℕ} :
    Ensures (fun r => r.1.usddBook = s.usddBook)
      (liquidateNormalMode D s borrower usddInStabPool) := by
  simp [liquidateNormalMode, settleTrove, closeTrove, movePendingTroveRewardsToActivePool,
    DefaultPool.decreaseUSDDDebt, ActivePool.increaseUSDDDebt, DefaultPool.sendToActivePool,
    ActivePool.receiveColl, Token.transfer, DefaultPool.requireCallerIsTroveManager,
    DefaultPool.requireCallerIsTroveManagerOf, requireMoreThanOneTroveInSystem,
    getOffsetAndRedistributionVals, State.usddBook]

theorem liquidateRecoveryMode_usddBook {icr usddInStabPool tcr : ℕ} :
    Ensures (fun r => r.1.usddBook = s.usddBook)
      (liquidateRecoveryMode D s borrower icr usddInStabPool tcr price) := by
  simp [liquidateRecoveryMode, settleTrove, closeTrove, movePendingTroveRewardsToActivePool,
    DefaultPool.decreaseUSDDDebt, ActivePool.increaseUSDDDebt, DefaultPool.sendToActivePool,
    ActivePool.receiveColl, Token.transfer, DefaultPool.requireCallerIsTroveManager,
    DefaultPool.requireCallerIsTroveManagerOf, requireMoreThanOneTroveInSystem,
    accountCollSurplus, CollSurplusPool.accountSurplus,
    getOffsetAndRedistributionVals, State.usddBook]

theorem Sequence.liquidateInRecoveryMode_usddBook {q q' : Sequence} {icr : ℕ}
    {subtractSurplus : Bool}
    (h : q.liquidateInRecoveryMode D price borrower icr subtractSurplus = .ok q') :
    q'.state.usddBook = q.state.usddBook := by
  obtain ⟨r, hr, h⟩ := bind_eq_ok.1 h
  obtain ⟨_, -, h⟩ := bind_eq_ok.1 h
  obtain ⟨_, -, h⟩ := bind_eq_ok.1 h
  obtain ⟨_, -, h⟩ := bind_eq_ok.1 h
  obtain ⟨_, -, h⟩ := bind_eq_ok.1 h
  rw [← pure_eq_ok.1 h]
  exact liquidateRecoveryMode_usddBook r hr

theorem Sequence.liquidateInNormalMode_usddBook {q q' : Sequence}
    (h : q.liquidateInNormalMode D borrower = .ok q') :
    q'.state.usddBook = q.state.usddBook := by
  obtain ⟨r, hr, h⟩ := bind_eq_ok.1 h
  obtain ⟨_, -, h⟩ := bind_eq_ok.1 h
  rw [← pure_eq_ok.1 h]
  exact liquidateNormalMode_usddBook r hr

theorem settleTotals_keeps {totals : LiquidationTotals} (hgas : D.gasPool ∉ D.core)
    (hliquidator : liquidator ∉ D.core) (h : settleTotals D m s liquidator totals = .ok s') :
    KeepsCustody D s s' := by
  obtain ⟨_, -, h⟩ := bind_eq_ok.1 h
  obtain ⟨s₁, h₁, h⟩ := bind_eq_ok.1 h
  obtain ⟨s₂, h₂, h⟩ := bind_eq_ok.1 h
  obtain ⟨s₃, h₃, h⟩ := bind_eq_ok.1 h
  obtain ⟨s₄, h₄, h⟩ := bind_eq_ok.1 h
  obtain ⟨_, -, h⟩ := bind_eq_ok.1 h
  obtain ⟨_, -, h⟩ := bind_eq_ok.1 h
  obtain ⟨s₅, h₅, h⟩ := bind_eq_ok.1 h
  have hbook : s₄.usddBook = s₁.usddBook := by
    rw [updateSystemSnapshotsExcludeCollRemainder_usddBook s₄ h₄, sendCollSurplus_usddBook s₃ h₃,
      redistributeDebtAndColl_usddBook s₂ h₂]
  have hpaid : KeepsCustody D s₄ s₅ := by
    unfold sendUSDDGasCompensation at h₅
    split_ifs at h₅
    · exact USDDToken.returnFromPool_keeps hgas hliquidator h₅
    · rw [← pure_eq_ok.1 h₅]
      exact .refl D s₄
  exact (((StabilityPool.offset_keeps h₁).trans (.of_usddBook hbook)).trans hpaid).trans
    (.of_usddBook (sendCollGasCompensation_usddBook s' h))

theorem liquidateTroves_keeps (hgas : D.gasPool ∉ D.core) (hliquidator : liquidator ∉ D.core)
    (h : liquidateTroves D m s liquidator n = .ok s') : KeepsCustody D s s' := by
  obtain ⟨_, -, h⟩ := bind_eq_ok.1 h
  obtain ⟨q, hq, h⟩ := bind_eq_ok.1 h
  have hbook : q.state.usddBook = s.usddBook :=
    totalsFromLiquidateTrovesSequence_rule (I := fun q => q.state.usddBook = s.usddBook)
      (fun _ _ _ _ _ hq h => (Sequence.liquidateInRecoveryMode_usddBook h).trans hq)
      (fun _ _ _ hq h => (Sequence.liquidateInNormalMode_usddBook h).trans hq) rfl hq
  exact (KeepsCustody.of_usddBook hbook).trans (settleTotals_keeps hgas hliquidator h)

theorem batchLiquidateTroves_keeps {troveArray : List Address} (hgas : D.gasPool ∉ D.core)
    (hliquidator : liquidator ∉ D.core)
    (h : batchLiquidateTroves D m s liquidator troveArray = .ok s') : KeepsCustody D s s' := by
  obtain ⟨_, -, h⟩ := bind_eq_ok.1 h
  obtain ⟨_, -, h⟩ := bind_eq_ok.1 h
  obtain ⟨q, hq, h⟩ := bind_eq_ok.1 h
  have hbook : q.state.usddBook = s.usddBook :=
    totalsFromBatchLiquidate_rule (I := fun q => q.state.usddBook = s.usddBook)
      (fun _ _ _ _ _ hq h => (Sequence.liquidateInRecoveryMode_usddBook h).trans hq)
      (fun _ _ _ hq h => (Sequence.liquidateInNormalMode_usddBook h).trans hq) rfl hq
  exact (KeepsCustody.of_usddBook hbook).trans (settleTotals_keeps hgas hliquidator h)

end TroveManager

end Liquidation

section Redemption

namespace TroveManager

variable {r : Redemption}

/-- The reserve of a closed trove is burned from the gas pool. -/
theorem redeemCloseTrove_keeps {usdd coll : ℕ} (hgas : D.gasPool ∉ D.core)
    (h : redeemCloseTrove D s borrower usdd coll = .ok s') : KeepsCustody D s s' := by
  obtain ⟨s₁, h₁, h⟩ := bind_eq_ok.1 h
  obtain ⟨s₂, h₂, h⟩ := bind_eq_ok.1 h
  obtain ⟨s₃, h₃, h⟩ := bind_eq_ok.1 h
  obtain ⟨s₄, h₄, h⟩ := bind_eq_ok.1 h
  have hsurplus : Ensures (fun s₃ => s₃.usddBook = s₂.usddBook)
      (CollSurplusPool.accountSurplus D D.troveManager s₂ borrower D.collToken coll) := by
    simp [CollSurplusPool.accountSurplus, State.usddBook]
  have hreceived : Ensures (fun s' => s'.usddBook = s₄.usddBook)
      (CollSurplusPool.receiveColl D D.troveManager s₄ D.collToken coll) := by
    simp [CollSurplusPool.receiveColl, Token.transfer, State.usddBook]
  refine (USDDToken.burn_keeps (Or.inl hgas) h₁).trans (.of_usddBook ?_)
  calc s'.usddBook = s₄.usddBook := hreceived s' h
    _ = s₃.usddBook := ActivePool.sendColl_usddBook s₄ h₄
    _ = s₂.usddBook := hsurplus s₃ h₃
    _ = s₁.usddBook := ActivePool.decreaseUSDDDebt_usddBook s₂ h₂

theorem redeemFromTrove_keeps {newDebt newColl : ℕ} {cancelled : Bool} (hgas : D.gasPool ∉ D.core)
    (h : redeemFromTrove D s borrower newDebt newColl r = .ok (s', cancelled)) :
    KeepsCustody D s s' := by
  unfold redeemFromTrove at h
  split_ifs at h
  · obtain ⟨tm, -, h⟩ := bind_eq_ok.1 h
    obtain ⟨s₁, h₁, h⟩ := bind_eq_ok.1 h
    obtain ⟨s₂, h₂, h⟩ := bind_eq_ok.1 h
    cases pure_eq_ok.1 h
    have hclosed : KeepsCustody D { s with troveManager := tm } s₁ :=
      .of_usddBook (closeTrove_usddBook s₁ h₁)
    exact hclosed.trans (redeemCloseTrove_keeps hgas h₂)
  · obtain ⟨_, -, h⟩ := bind_eq_ok.1 h
    split_ifs at h
    · cases pure_eq_ok.1 h
      exact .refl D s
    · obtain ⟨list, -, h⟩ := bind_eq_ok.1 h
      obtain ⟨s₁, h₁, h⟩ := bind_eq_ok.1 h
      cases pure_eq_ok.1 h
      have hrestaked := restake_usddBook s' h₁
      exact .of_usddBook hrestaked

theorem redeemCollateralFromTrove_keeps {v : SingleRedemptionValues} (hgas : D.gasPool ∉ D.core)
    (h : redeemCollateralFromTrove D s borrower amount price r = .ok (s', v)) :
    KeepsCustody D s s' := by
  obtain ⟨_, -, h⟩ := bind_eq_ok.1 h
  obtain ⟨_, -, h⟩ := bind_eq_ok.1 h
  obtain ⟨_, -, h⟩ := bind_eq_ok.1 h
  obtain ⟨_, -, h⟩ := bind_eq_ok.1 h
  obtain ⟨⟨s₁, cancelled⟩, h₁, h⟩ := bind_eq_ok.1 h
  cases pure_eq_ok.1 h
  exact redeemFromTrove_keeps hgas h₁

theorem settleRedemption_keeps {usdd coll supply : ℕ} (hdepositor : depositor ∉ D.core)
    (h : settleRedemption D m s depositor r usdd coll supply = .ok s') : KeepsCustody D s s' := by
  obtain ⟨_, -, h⟩ := bind_eq_ok.1 h
  obtain ⟨fees, -, h⟩ := bind_eq_ok.1 h
  obtain ⟨fee, -, h⟩ := bind_eq_ok.1 h
  obtain ⟨_, -, h⟩ := bind_eq_ok.1 h
  obtain ⟨s₁, h₁, h⟩ := bind_eq_ok.1 h
  obtain ⟨s₂, h₂, h⟩ := bind_eq_ok.1 h
  obtain ⟨_, -, h⟩ := bind_eq_ok.1 h
  obtain ⟨s₃, h₃, h⟩ := bind_eq_ok.1 h
  obtain ⟨s₄, h₄, h⟩ := bind_eq_ok.1 h
  have hfee : Ensures (fun s' => s'.usddBook = s₁.usddBook)
      (DEFTStaking.increaseFColl D D.troveManager s₁ D.collToken fee) := by
    simp [DEFTStaking.increaseFColl, State.usddBook]
  have hcharged : KeepsCustody D { s with fees := fees } s₂ :=
    (KeepsCustody.of_usddBook (ActivePool.sendColl_usddBook s₁ h₁)).trans
      (.of_usddBook (hfee s₂ h₂))
  have hburnt := USDDToken.burn_keeps (Or.inl hdepositor) h₃
  have hsent : s'.usddBook = s₃.usddBook :=
    (ActivePool.sendColl_usddBook s' h).trans (ActivePool.decreaseUSDDDebt_usddBook s₄ h₄)
  exact (hcharged.trans hburnt).trans (.of_usddBook hsent)

theorem redeemCollateral_keeps (hgas : D.gasPool ∉ D.core) (hdepositor : depositor ∉ D.core)
    (h : redeemCollateral D m s depositor r = .ok s') : KeepsCustody D s s' := by
  obtain ⟨_, -, h⟩ := bind_eq_ok.1 h
  obtain ⟨_, -, h⟩ := bind_eq_ok.1 h
  obtain ⟨totals, htotals, h⟩ := bind_eq_ok.1 h
  have hround {s s₁ s₂ : State} {borrower : Address} {amount : ℕ} {v : SingleRedemptionValues}
      (h₁ : applyPendingRewards D s borrower = .ok s₁)
      (h₂ : redeemCollateralFromTrove D s₁ borrower amount m.price r = .ok (s₂, v)) :
      KeepsCustody D s s₂ :=
    (KeepsCustody.of_usddBook (applyPendingRewards_usddBook s₁ h₁)).trans
      (redeemCollateralFromTrove_keeps hgas h₂)
  have hloop : KeepsCustody D s totals.state :=
    redeemLoop_rule (I := fun totals => KeepsCustody D s totals.state)
      (fun _ _ _ _ _ _ hs h₁ h₂ _ _ => hs.trans (hround h₁ h₂))
      (fun _ _ _ _ _ hs h₁ h₂ _ => hs.trans (hround h₁ h₂)) (.refl D s) htotals
  exact hloop.trans (settleRedemption_keeps hdepositor h)

end TroveManager

end Redemption

section Runs

/-- The account for which the call opens a trove, if it opens one, is not in the core. -/
def Call.OpensOutside (D : Deployment) : Call → Prop
  | .openTrove onBehalfOf _ _ _ _ _ => onBehalfOf ∉ D.core
  | _ => True

instance (call : Call) : Decidable (call.OpensOutside D) := by
  cases call <;> unfold Call.OpensOutside <;> infer_instance

theorem Deployment.core_subset (D : Deployment) : D.core ⊆ D.contracts := by
  simp [Deployment.core, Deployment.contracts]

theorem Deployment.Wired.deftStaking_notMem (hw : D.Wired) : D.deftStaking ∉ D.core := by
  intro h
  exact (List.nodup_cons.1 hw.nodup).1 (List.mem_cons_of_mem _ (D.core_subset h))

theorem Deployment.Wired.gasPool_notMem (hw : D.Wired) : D.gasPool ∉ D.core := by
  have hnodup := hw.nodup
  simp only [Deployment.contracts, Deployment.core, List.nodup_cons, List.mem_cons] at hnodup ⊢
  grind

/-- What one call keeps. The contracts have approved nobody. -/
theorem perform_keeps {call : Call} (hw : D.Wired)
    (hallowances : ∀ owner ∈ D.contracts, ∀ spender, s.usddToken.allowances owner spender = 0)
    (hsender : m.sender ∉ D.contracts) (haccount : call.account m.sender ∉ D.contracts)
    (hopens : call.OpensOutside D) (h : perform D m s call = .ok s') : KeepsCustody D s s' := by
  have hstaking := hw.deftStaking_notMem
  have hgas := hw.gasPool_notMem
  have hsender : m.sender ∉ D.core := fun h => hsender (D.core_subset h)
  have haccount : call.account m.sender ∉ D.core := fun h => haccount (D.core_subset h)
  cases call with
  | openTrove => exact BorrowerOperations.openTrove_keeps hstaking hgas hopens h
  | addColl | withdrawColl | withdrawUSDD | repayUSDD | adjustTrove =>
      exact BorrowerOperations.adjustTrove_keeps hstaking (Or.inl hsender) h
  | closeTrove => exact BorrowerOperations.closeTrove_keeps hgas hsender h
  | claimCollateral => exact .of_usddBook (BorrowerOperations.claimCollateral_usddBook s' h)
  | liquidate =>
      obtain ⟨_, -, h⟩ := bind_eq_ok.1 h
      exact TroveManager.batchLiquidateTroves_keeps hgas haccount h
  | liquidateTroves => exact TroveManager.liquidateTroves_keeps hgas haccount h
  | batchLiquidateTroves => exact TroveManager.batchLiquidateTroves_keeps hgas haccount h
  | redeemCollateral => exact TroveManager.redeemCollateral_keeps hgas haccount h
  | provideToSP => exact StabilityPool.provideToSP_keeps haccount h
  | withdrawFromSP => exact StabilityPool.withdrawFromSP_keeps haccount h
  | withdrawCollGainToTrove => exact StabilityPool.withdrawCollGainToTrove_keeps hstaking h
  | registerFrontEnd kickbackRate =>
      have hbook : Ensures (fun s' => s'.usddBook = s.usddBook)
          (StabilityPool.registerFrontEnd m s kickbackRate) := by
        simp [StabilityPool.registerFrontEnd, State.usddBook]
      exact .of_usddBook (hbook s' h)
  | transfer => exact USDDToken.transfer_keeps hsender h
  | transferFrom =>
      exact USDDToken.transferFrom_keeps
        (fun owner ho => hallowances owner (D.core_subset ho) m.sender) h
  | approve | increaseAllowance =>
      obtain ⟨t, ht, h⟩ := bind_eq_ok.1 h
      rw [← pure_eq_ok.1 h]
      exact USDDToken.setAllowance_keeps rfl ht
  | decreaseAllowance =>
      obtain ⟨_, -, h⟩ := bind_eq_ok.1 h
      obtain ⟨t, ht, h⟩ := bind_eq_ok.1 h
      rw [← pure_eq_ok.1 h]
      exact USDDToken.setAllowance_keeps rfl ht
  | permit =>
      obtain ⟨_, -, h⟩ := bind_eq_ok.1 h
      obtain ⟨_, -, h⟩ := bind_eq_ok.1 h
      obtain ⟨t, ht, h⟩ := bind_eq_ok.1 h
      rw [← pure_eq_ok.1 h]
      exact USDDToken.setAllowance_keeps (by rfl) ht
  | transferCollateral token recipient amount =>
      have hbook : Ensures (fun s' => s'.usddBook = s.usddBook)
          (Token.transfer s token m.sender recipient amount) := by
        simp [Token.transfer, State.usddBook]
      exact .of_usddBook (hbook s' h)

/-- Nothing leaves the core, and something comes in for which there is no deposit. -/
structure Strands (D : Deployment) (s s' : State) : Prop where
  le : ∀ a ∈ D.core, s.stranded D a ≤ s'.stranded D a
  lt : ∃ a ∈ D.core, s.stranded D a < s'.stranded D a

theorem KeepsCustody.le (h : KeepsCustody D s s') {a : Address} (ha : a ∈ D.core) :
    s.stranded D a ≤ s'.stranded D a := (h a ha).ge

theorem USDDToken.mint_strands {sender : Address} (haccount : account ∈ D.core) (hpos : 0 < amount)
    (h : mint D sender s account amount = .ok s') : Strands D s s' := by
  obtain ⟨_, -, h⟩ := bind_eq_ok.1 h
  obtain ⟨t, ht, h⟩ := bind_eq_ok.1 h
  have hs' : s' = { s with usddToken := s.usddToken.credit account amount } := by
    rw [← pure_eq_ok.1 h, (mintTo_eq_ok ht).2]
  have hstranded (a : Address) :
      s'.stranded D a = s.stranded D a + if a = account then (amount : ℤ) else 0 := by
    rw [hs']
    simp only [State.stranded, credit, Function.update_apply]
    split_ifs <;> simp_all
    omega
  constructor
  · intro a _
    rw [hstranded]
    split_ifs <;> omega
  · refine ⟨account, haccount, ?_⟩
    rw [hstranded, if_pos rfl]
    omega

theorem BorrowerOperations.chargeBorrowingFee_zero {charged : Bool} {maxFee fee : ℕ}
    (h : chargeBorrowingFee D m s charged 0 maxFee = .ok (s', fee)) : fee = 0 := by
  cases charged with
  | false =>
      cases pure_eq_ok.1 h
      rfl
  | true =>
      obtain ⟨_, -, h⟩ := bind_eq_ok.1 h
      obtain ⟨_, hfee, -⟩ := bind_eq_ok.1 h
      obtain ⟨_, hdiv, -⟩ := bind_eq_ok.1 hfee
      exact absurd rfl (div_eq_ok.1 hdiv).1

/-- A trove that is opened for a contract of the core strands what is drawn from it. -/
theorem BorrowerOperations.openTrove_strands {onBehalfOf upperHint lowerHint : Address}
    {maxFeePercentage collAmount usddAmount : ℕ} (hstaking : D.deftStaking ∉ D.core)
    (hgas : D.gasPool ∉ D.core) (honBehalfOf : onBehalfOf ∈ D.core)
    (h : openTrove D m s onBehalfOf maxFeePercentage collAmount usddAmount upperHint lowerHint =
      .ok s') : Strands D s s' := by
  obtain ⟨s₁, fee, tm, list, s₃, s₄, -, h₁, hmin, -, -, -, h₃, h₄, h⟩ := openTrove_eq_ok h
  have hpos : 0 < usddAmount := by
    apply Nat.pos_of_ne_zero
    rintro rfl
    rw [chargeBorrowingFee_zero h₁] at hmin
    exact absurd hmin (by decide)
  have hcharged := chargeBorrowingFee_keeps hstaking h₁
  have hcoll : KeepsCustody D _ s₃ := .of_usddBook (activePoolAddColl_usddBook s₃ h₃)
  have hbefore : KeepsCustody D s s₃ := hcharged.trans hcoll
  obtain ⟨s₅, h₅, h₄⟩ := bind_eq_ok.1 h₄
  have hdebt : KeepsCustody D s₃ s₅ := .of_usddBook (ActivePool.increaseUSDDDebt_usddBook s₅ h₅)
  obtain ⟨hle, a, ha, hlt⟩ := USDDToken.mint_strands honBehalfOf hpos h₄
  have hafter := withdrawUSDD_keeps hgas h
  have hbefore := hbefore.trans hdebt
  constructor
  · intro a ha
    exact ((hbefore.le ha).trans (hle a ha)).trans (hafter.le ha)
  · exact ⟨a, ha, ((hbefore.le ha).trans_lt hlt).trans_le (hafter.le ha)⟩

theorem perform_strands {call : Call} (hw : D.Wired) (hopens : ¬ call.OpensOutside D)
    (h : perform D m s call = .ok s') : Strands D s s' := by
  cases call with
  | openTrove =>
      exact BorrowerOperations.openTrove_strands hw.deftStaking_notMem hw.gasPool_notMem
        (not_not.1 hopens) h
  | _ => exact absurd trivial hopens

/-- The core gains what is stranded there in the calls that open a trove for it, and never loses
it again. -/
theorem run_stranded {ts : List Transact} (hw : D.Wired) (hs : Reachable D s)
    (h : run (checked (step D) (Allowed D)) s ts = .ok s') :
    ((∀ t ∈ ts, t.call.OpensOutside D) → KeepsCustody D s s') ∧
      ((¬ ∀ t ∈ ts, t.call.OpensOutside D) → Strands D s s') := by
  induction ts generalizing s with
  | nil =>
      cases h
      exact ⟨fun _ => .refl D s', fun h => absurd (List.forall_mem_nil _) h⟩
  | cons t ts ih =>
      obtain ⟨s₁, h₁, h⟩ := bind_eq_ok.1 h
      obtain ⟨_, ha, h₁⟩ := bind_eq_ok.1 h₁
      have ha := require_eq_ok.1 ha
      obtain ⟨hkeeps, hstrands⟩ := ih (hs.next ha h₁) h
      obtain ⟨s₂, h₂, h₁⟩ := bind_eq_ok.1 h₁
      rw [← pure_eq_ok.1 h₁] at hkeeps hstrands
      have hfirst (hopens : t.call.OpensOutside D) : KeepsCustody D s s₂ :=
        perform_keeps hw (hs.consistent hw).custody.allowances ha.sender.2 ha.account.2 hopens h₂
      have hrest (a : Address) (ha : a ∈ D.core) : s₂.stranded D a ≤ s'.stranded D a := by
        by_cases hall : ∀ t ∈ ts, t.call.OpensOutside D
        · exact (hkeeps hall).le ha
        · exact (hstrands hall).le a ha
      rw [List.forall_mem_cons]
      constructor
      · rintro ⟨hopens, hall⟩
        exact (hfirst hopens).trans (hkeeps hall)
      · intro hnot
        by_cases hopens : t.call.OpensOutside D
        · obtain ⟨hle, a, ha, hlt⟩ := hstrands (fun hall => hnot ⟨hopens, hall⟩)
          exact ⟨fun a ha => ((hfirst hopens).le ha).trans (hle a ha),
            a, ha, ((hfirst hopens).le ha).trans_lt hlt⟩
        · obtain ⟨hle, a, ha, hlt⟩ := perform_strands hw hopens h₂
          exact ⟨fun a ha => (hle a ha).trans (hrest a ha), a, ha, hlt.trans_le (hrest a ha)⟩

theorem initial_stranded (D : Deployment) (g : Genesis) (a : Address) :
    (initial g).stranded D a = 0 := by
  simp [State.stranded, initial]

theorem stranded_eq_zero_iff (hw : D.Wired) (s : State) :
    (∀ a ∈ D.core, s.stranded D a = 0) ↔
      s.usddToken.balances D.stabilityPool = s.stabilityPool.totalUSDDDeposits ∧
        s.usddToken.balances D.borrowerOperations = 0 ∧
        s.usddToken.balances D.troveManager = 0 := by
  obtain ⟨hbo, htm⟩ : D.borrowerOperations ≠ D.stabilityPool ∧ D.troveManager ≠ D.stabilityPool := by
    have hnodup := hw.nodup
    simp only [Deployment.contracts, List.nodup_cons, List.mem_cons] at hnodup
    grind
  simp only [Deployment.core, List.forall_mem_cons, State.stranded, if_pos, if_neg hbo, if_neg htm,
    List.not_mem_nil, false_imp_iff, implies_true, and_true]
  omega

/-- The Stability Pool holds the deposits and the rest of the core nothing, exactly as long as no
trove is opened for a contract of the core. -/
theorem stabilityPool_holds_deposits_iff {g : Genesis} {ts : List Transact} (hw : D.Wired)
    (h : run (checked (step D) (Allowed D)) (initial g) ts = .ok s) :
    (s.usddToken.balances D.stabilityPool = s.stabilityPool.totalUSDDDeposits ∧
        s.usddToken.balances D.borrowerOperations = 0 ∧
        s.usddToken.balances D.troveManager = 0) ↔
      ∀ t ∈ ts, t.call.OpensOutside D := by
  obtain ⟨hkeeps, hstrands⟩ := run_stranded hw (.start ⟨g, rfl⟩) h
  rw [← stranded_eq_zero_iff hw]
  constructor
  · intro hzero
    by_contra hall
    obtain ⟨a, ha, hlt⟩ := (hstrands hall).lt
    rw [initial_stranded, hzero a ha] at hlt
    exact lt_irrefl _ hlt
  · intro hall a ha
    rw [hkeeps hall a ha, initial_stranded]

theorem stabilityPool_holds_deposits_of_liquidation : ∃ s, sampleRun sampleLiquidation = .ok s ∧
    s.usddToken.balances sampleDeployment.stabilityPool = s.stabilityPool.totalUSDDDeposits := by
  obtain ⟨s, hs, -⟩ := sampleLiquidation_succeeds
  exact ⟨s, hs, ((stabilityPool_holds_deposits_iff sampleDeployment_wired hs).2
    (by decide +kernel)).1⟩

/-- A trove for the Stability Pool leaves it with USDD that nobody has deposited. -/
theorem stabilityPool_holds_more : ∃ s, Reachable sampleDeployment s ∧
    s.stabilityPool.totalUSDDDeposits = 0 ∧
    s.usddToken.balances sampleDeployment.stabilityPool = 1800 * decimalPrecision := by
  obtain ⟨s, hs, h⟩ : ∃ s, sampleRun
      [(Call.openTrove sampleDeployment.stabilityPool decimalPrecision (100 * decimalPrecision)
        (1800 * decimalPrecision) 0 0).sent 1 (200 * decimalPrecision)] = .ok s ∧
      s.stabilityPool.totalUSDDDeposits = 0 ∧
      s.usddToken.balances sampleDeployment.stabilityPool = 1800 * decimalPrecision := by
    decide +kernel
  exact ⟨s, reachable_sampleRun hs, h⟩

end Runs

end Usdd

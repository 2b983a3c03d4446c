import Usdd.CollateralFlows
import Usdd.LoopRules
import Usdd.RedemptionRights

/-!
# Custody of collateral

In every call the collateral that the pools record moves together with the token: only accounts outside
the market pay and are paid. So each contract of the market holds what it records and what was
sent to it directly, and the accounts can claim exactly what the surplus pool records for them.
-/

open Transaction

namespace Usdd

variable {D : Deployment} {m : Message} {s s₁ s' : State}
  {account borrower liquidator depositor : Address} {amount price n : ℕ}

/-- No contract of the market holds more or less in excess than before. -/
def Balanced (D : Deployment) (v v' : Vault) : Prop :=
  ∃ flow : Address → ℤ, Flows D v v' flow 0 ∧ ∀ a ∈ D.contracts, flow a = 0

namespace Balanced

variable {v v₁ v' : Vault}

theorem of_vault (h : v' = v) : Balanced D v v' := ⟨0, Flows.of_vault h, fun _ _ => rfl⟩

theorem of_flows (h : Flows D v v' 0 0) : Balanced D v v' := ⟨0, h, fun _ _ => rfl⟩

theorem of_single {x : ℤ} (h : Flows D v v' (Pi.single account x) 0) (ha : account ∉ D.contracts) :
    Balanced D v v' := by
  refine ⟨_, h, fun a hmem => ?_⟩
  have hne : a ≠ account := by
    rintro rfl
    exact ha hmem
  rw [Pi.single_apply, if_neg hne]

theorem trans (h : Balanced D v v₁) (h' : Balanced D v₁ v') : Balanced D v v' := by
  obtain ⟨flow, hf, hzero⟩ := h
  obtain ⟨flow', hf', hzero'⟩ := h'
  refine ⟨_, (hf.trans hf').of_eq rfl (add_zero 0), fun a ha => ?_⟩
  rw [Pi.add_apply, hzero a ha, hzero' a ha, add_zero]

end Balanced

section Borrowing

namespace BorrowerOperations

variable {adj : Adjustment}

theorem chargeBorrowingFee_vault {charged : Bool} {maxFee : ℕ} :
    Ensures (fun r => r.1.vault = s.vault) (chargeBorrowingFee D m s charged amount maxFee) := by
  simp [chargeBorrowingFee, triggerBorrowingFee, DEFTStaking.increaseFUSDD, USDDToken.mint,
    State.vault]

theorem withdrawUSDD_vault {netDebt : ℕ} :
    Ensures (fun s' => s'.vault = s.vault) (withdrawUSDD D s account amount netDebt) := by
  simp [withdrawUSDD, ActivePool.increaseUSDDDebt, USDDToken.mint, State.vault]

theorem repayUSDD_vault :
    Ensures (fun s' => s'.vault = s.vault) (repayUSDD D s account amount) := by
  simp [repayUSDD, ActivePool.decreaseUSDDDebt, USDDToken.burn, State.vault]

theorem moveUSDDFromAdjustment_vault {isDebtIncrease : Bool} {netDebtChange : ℕ} :
    Ensures (fun s' => s'.vault = s.vault)
      (moveUSDDFromAdjustment D s account amount isDebtIncrease netDebtChange) := by
  intro s' h
  unfold moveUSDDFromAdjustment at h
  split_ifs at h
  · exact withdrawUSDD_vault s' h
  · exact repayUSDD_vault s' h

theorem activePoolAddColl_flows (h : activePoolAddColl D m s amount = .ok s') :
    Flows D s.vault s'.vault (Pi.single m.sender (-amount : ℤ)) 0 := by
  obtain ⟨s₁, h₁, h⟩ := bind_eq_ok.1 h
  refine ((Token.transfer_flows h₁).trans (ActivePool.receiveColl_flows h)).of_eq ?_ (add_zero 0)
  rw [Pi.single_neg]
  abel

/-- What the sender adds, it pays, and what it withdraws, it receives. -/
theorem moveCollFromAdjustment_flows {isCollIncrease : Bool}
    (h : moveCollFromAdjustment D m s m.sender amount isCollIncrease = .ok s') :
    Flows D s.vault s'.vault
      (Pi.single m.sender (if isCollIncrease then -amount else amount : ℤ)) 0 := by
  unfold moveCollFromAdjustment at h
  split_ifs at h ⊢
  · exact activePoolAddColl_flows h
  · exact ActivePool.sendColl_flows h

theorem openTrove_balanced {owner upperHint lowerHint : Address} {maxFee coll usdd : ℕ}
    (hsender : m.sender ∉ D.contracts)
    (h : openTrove D m s owner maxFee coll usdd upperHint lowerHint = .ok s') :
    Balanced D s.vault s'.vault := by
  obtain ⟨s₁, fee, tm, list, s₃, s₄, -, h₁, -, -, -, -, h₃, h₄, h⟩ := openTrove_eq_ok h
  have hcharged : s₁.vault = s.vault := chargeBorrowingFee_vault _ h₁
  have hminted : s'.vault = s₃.vault := (withdrawUSDD_vault s' h).trans (withdrawUSDD_vault s₄ h₄)
  rw [hminted, ← hcharged]
  exact .of_single (activePoolAddColl_flows h₃ :) hsender

theorem adjustTrove_flows (h : adjustTrove D m s account adj = .ok s') :
    Flows D s.vault s'.vault (Pi.single m.sender
      (if (getCollChange adj.collDeposited adj.collWithdrawal).2 then
        -(getCollChange adj.collDeposited adj.collWithdrawal).1
      else (getCollChange adj.collDeposited adj.collWithdrawal).1 : ℤ)) 0 := by
  obtain ⟨s₁, s₂, fee, _, coll, debt, tm, list, s₃, -, h₁, h₂, -, -, -, -, -, -, -, h₃, h⟩ :=
    adjustTrove_eq_ok h
  have hcharged : s₂.vault = s₁.vault := chargeBorrowingFee_vault _ h₂
  have hmoved : s₃.vault = s₂.vault := (moveUSDDFromAdjustment_vault s₃ h₃ :)
  have hcoll := moveCollFromAdjustment_flows h
  rw [hmoved, hcharged] at hcoll
  exact ((TroveManager.applyPendingRewards_flows h₁).trans hcoll).of_eq (zero_add _) (zero_add 0)

theorem adjustTrove_balanced (hsender : m.sender ∉ D.contracts)
    (h : adjustTrove D m s account adj = .ok s') : Balanced D s.vault s'.vault :=
  .of_single (adjustTrove_flows h) hsender

theorem closeTrove_balanced (hsender : m.sender ∉ D.contracts)
    (h : closeTrove D m s account = .ok s') : Balanced D s.vault s'.vault := by
  obtain ⟨s₁, repayment, _, tm, s₂, s₃, s₄, -, -, h₁, -, -, -, -, h₂, h₃, h₄, h⟩ :=
    closeTrove_eq_ok h
  have hclosed : s₂.vault = s₁.vault := (TroveManager.closeTrove_vault s₂ h₂ :)
  have hrepaid : s₄.vault = s₂.vault := (repayUSDD_vault s₄ h₄).trans (repayUSDD_vault s₃ h₃)
  have hpaid := ActivePool.sendColl_flows h
  rw [hrepaid, hclosed] at hpaid
  exact (Balanced.of_flows (TroveManager.applyPendingRewards_flows h₁)).trans
    (.of_single hpaid hsender)

theorem claimCollateral_balanced (hsender : m.sender ∉ D.contracts)
    (h : claimCollateral D m s account = .ok s') : Balanced D s.vault s'.vault := by
  obtain ⟨_, -, h⟩ := bind_eq_ok.1 h
  exact .of_single (CollSurplusPool.claimColl_flows h) hsender

end BorrowerOperations

end Borrowing

section Pool

namespace StabilityPool

variable {frontEnd frontEndTag upperHint lowerHint : Address} {sp : StabilityPool}

theorem sendUSDDtoStabilityPool_vault :
    Ensures (fun s' => s'.vault = s.vault) (sendUSDDtoStabilityPool D s account amount) := by
  simp [sendUSDDtoStabilityPool, USDDToken.sendToPool, State.vault]

theorem sendUSDDToDepositor_vault :
    Ensures (fun s' => s'.vault = s.vault) (sendUSDDToDepositor D s account amount) := by
  simp [sendUSDDToDepositor, USDDToken.returnFromPool, decreaseUSDD, State.vault]

theorem sendCollGainToDepositor_flows (h : sendCollGainToDepositor D m s amount = .ok s') :
    Flows D s.vault s'.vault (Pi.single m.sender (amount : ℤ)) 0 := by
  rcases ite_eq_ok.1 h with ⟨rfl, h⟩ | ⟨-, h⟩
  · rw [← pure_eq_ok.1 h]
    refine (Flows.refl D s.vault).of_eq ?_ rfl
    rw [Nat.cast_zero, Pi.single_zero]
  · obtain ⟨coll, hcoll, h⟩ := bind_eq_ok.1 h
    obtain ⟨hle, rfl⟩ := sub_eq_ok.1 hcoll
    refine ((flows_stabilityPool _).trans (Token.transfer_flows h)).of_eq ?_ (add_zero 0)
    dsimp only [State.vault]
    rw [Nat.cast_sub hle, sub_sub_cancel, add_sub_cancel]

theorem updateFrontEndStakeAndSnapshots_coll (sp : StabilityPool) (frontEnd : Address) (stake : ℕ) :
    (updateFrontEndStakeAndSnapshots sp frontEnd stake).coll = sp.coll := by
  unfold updateFrontEndStakeAndSnapshots
  split_ifs <;> rfl

theorem updateDepositAndSnapshots_coll (sp : StabilityPool) (depositor : Address) (value : ℕ) :
    (updateDepositAndSnapshots sp depositor value).coll = sp.coll := by
  unfold updateDepositAndSnapshots
  split_ifs <;> rfl

theorem setTagOfNewDeposit_coll (sp : StabilityPool) (depositor frontEndTag : Address) :
    (setTagOfNewDeposit sp depositor frontEndTag).coll = sp.coll := by
  unfold setTagOfNewDeposit
  split_ifs <;> rfl

theorem vault_of_coll (h : sp.coll = s.stabilityPool.coll) (journal : List JournalEntry) :
    State.vault { s with stabilityPool := sp, journal := journal } = s.vault := by
  simp only [State.vault, h]

theorem provideToSP_balanced (hsender : m.sender ∉ D.contracts)
    (h : provideToSP D m s depositor amount frontEndTag = .ok s') :
    Balanced D s.vault s'.vault := by
  obtain ⟨_, -, h⟩ := bind_eq_ok.1 h
  obtain ⟨_, -, h⟩ := bind_eq_ok.1 h
  obtain ⟨_, -, h⟩ := bind_eq_ok.1 h
  obtain ⟨_, -, h⟩ := bind_eq_ok.1 h
  obtain ⟨s₁, h₁, h⟩ := bind_eq_ok.1 h
  obtain ⟨_, -, h⟩ := bind_eq_ok.1 h
  obtain ⟨_, -, h⟩ := bind_eq_ok.1 h
  obtain ⟨_, -, h⟩ := bind_eq_ok.1 h
  obtain ⟨s₂, h₂, h⟩ := bind_eq_ok.1 h
  obtain ⟨_, -, h⟩ := bind_eq_ok.1 h
  obtain ⟨s₃, h₃, h⟩ := bind_eq_ok.1 h
  have hissued : s₁.vault = s.vault := triggerDEFTIssuance_vault s₁ h₁
  have hpaid : s₂.vault = s₁.vault := (payOutDEFTGains_vault s₂ h₂).trans
    (vault_of_coll (setTagOfNewDeposit_coll _ _ _) _)
  have hsent : s₃.vault = s₂.vault := (sendUSDDtoStabilityPool_vault s₃ h₃).trans
    (vault_of_coll (updateFrontEndStakeAndSnapshots_coll _ _ _) _)
  have hgain := sendCollGainToDepositor_flows h
  rw [vault_of_coll (updateDepositAndSnapshots_coll _ _ _), hsent, hpaid, hissued] at hgain
  exact .of_single hgain hsender

theorem withdrawFromSP_balanced (hsender : m.sender ∉ D.contracts)
    (h : withdrawFromSP D m s depositor amount = .ok s') : Balanced D s.vault s'.vault := by
  obtain ⟨_, -, h⟩ := bind_eq_ok.1 h
  obtain ⟨_, -, h⟩ := bind_eq_ok.1 h
  obtain ⟨_, -, h⟩ := bind_eq_ok.1 h
  obtain ⟨s₁, h₁, h⟩ := bind_eq_ok.1 h
  obtain ⟨_, -, h⟩ := bind_eq_ok.1 h
  obtain ⟨_, -, h⟩ := bind_eq_ok.1 h
  obtain ⟨_, -, h⟩ := bind_eq_ok.1 h
  obtain ⟨s₂, h₂, h⟩ := bind_eq_ok.1 h
  obtain ⟨_, -, h⟩ := bind_eq_ok.1 h
  obtain ⟨_, -, h⟩ := bind_eq_ok.1 h
  obtain ⟨s₃, h₃, h⟩ := bind_eq_ok.1 h
  obtain ⟨_, -, h⟩ := bind_eq_ok.1 h
  have hissued : s₁.vault = s.vault := triggerDEFTIssuance_vault s₁ h₁
  have hpaid : s₂.vault = s₁.vault := payOutDEFTGains_vault s₂ h₂
  have hsent : s₃.vault = s₂.vault := (sendUSDDToDepositor_vault s₃ h₃).trans
    (vault_of_coll (updateFrontEndStakeAndSnapshots_coll _ _ _) _)
  have hgain := sendCollGainToDepositor_flows h
  rw [vault_of_coll (updateDepositAndSnapshots_coll _ _ _), hsent, hpaid, hissued] at hgain
  exact .of_single hgain hsender

/-- The pool pays the gain into the trove. -/
theorem withdrawCollGainToTrove_balanced
    (h : withdrawCollGainToTrove D m s upperHint lowerHint = .ok s') :
    Balanced D s.vault s'.vault := by
  obtain ⟨_, -, h⟩ := bind_eq_ok.1 h
  obtain ⟨_, -, h⟩ := bind_eq_ok.1 h
  obtain ⟨_, -, h⟩ := bind_eq_ok.1 h
  obtain ⟨s₁, h₁, h⟩ := bind_eq_ok.1 h
  obtain ⟨gain, -, h⟩ := bind_eq_ok.1 h
  obtain ⟨_, -, h⟩ := bind_eq_ok.1 h
  obtain ⟨_, -, h⟩ := bind_eq_ok.1 h
  obtain ⟨s₂, h₂, h⟩ := bind_eq_ok.1 h
  obtain ⟨stake, -, h⟩ := bind_eq_ok.1 h
  obtain ⟨coll, hcoll, h⟩ := bind_eq_ok.1 h
  obtain ⟨_, -, h⟩ := bind_eq_ok.1 h
  obtain ⟨hle, rfl⟩ := sub_eq_ok.1 hcoll
  rw [updateDepositAndSnapshots_coll, updateFrontEndStakeAndSnapshots_coll] at hle h
  have hissued : s₁.vault = s.vault := triggerDEFTIssuance_vault s₁ h₁
  have hpaid : s₂.vault = s₁.vault := payOutDEFTGains_vault s₂ h₂
  have hrecorded := flows_stabilityPool (D := D) (v := s₂.vault) (s₂.stabilityPool.coll - gain)
  have hmoved := BorrowerOperations.adjustTrove_flows h
  have hgain : (if (BorrowerOperations.getCollChange gain 0).2 then
      -(BorrowerOperations.getCollChange gain 0).1
      else (BorrowerOperations.getCollChange gain 0).1 : ℤ) = -gain := by
    unfold BorrowerOperations.getCollChange
    split_ifs <;> simp_all
  dsimp only at hmoved
  rw [hgain] at hmoved
  rw [← hissued, ← hpaid]
  refine .of_flows ((hrecorded.trans hmoved).of_eq ?_ (add_zero 0))
  dsimp only [State.vault]
  rw [Nat.cast_sub hle, sub_sub_cancel, Pi.single_neg, add_neg_cancel]

end StabilityPool

end Pool

section Liquidation

namespace TroveManager

variable {entire : EntireDebtAndColl} {totals : LiquidationTotals} {q q' : Sequence}

theorem settleTrove_flows (h : settleTrove D s borrower entire = .ok s') :
    Flows D s.vault s'.vault 0 0 := by
  obtain ⟨s₁, h₁, h⟩ := bind_eq_ok.1 h
  obtain ⟨tm, -, h⟩ := bind_eq_ok.1 h
  rw [← pure_eq_ok.1 h]
  exact (movePendingTroveRewardsToActivePool_flows h₁ :)

theorem settleTrove_closeTrove_flows {status : Status}
    (h₁ : settleTrove D s borrower entire = .ok s₁) (h : closeTrove s₁ borrower status = .ok s') :
    Flows D s.vault s'.vault 0 0 := by
  have hclosed : s'.vault = s₁.vault := closeTrove_vault s' h
  rw [hclosed]
  exact settleTrove_flows h₁

theorem accountCollSurplus_flows (h : accountCollSurplus D s borrower amount = .ok s') :
    Flows D s.vault s'.vault 0 amount := by
  rcases ite_eq_ok.1 h with ⟨-, h⟩ | ⟨hzero, h⟩
  · exact CollSurplusPool.accountSurplus_flows h
  · rw [← pure_eq_ok.1 h, Nat.le_zero.1 (not_lt.1 hzero)]
    exact Flows.refl D s.vault

theorem liquidateNormalMode_flows {usddInStabPool : ℕ} {r : State × LiquidationValues}
    (h : liquidateNormalMode D s borrower usddInStabPool = .ok r) :
    Flows D s.vault r.1.vault 0 r.2.collSurplus := by
  obtain ⟨entire, -, h⟩ := bind_eq_ok.1 h
  obtain ⟨s₁, h₁, h⟩ := bind_eq_ok.1 h
  obtain ⟨_, -, h⟩ := bind_eq_ok.1 h
  obtain ⟨_, -, h⟩ := bind_eq_ok.1 h
  obtain ⟨s₂, h₂, h⟩ := bind_eq_ok.1 h
  rw [← pure_eq_ok.1 h]
  exact settleTrove_closeTrove_flows h₁ h₂

/-- What is recorded for the owner is the surplus of the trove. -/
theorem liquidateRecoveryMode_flows {icr usddInStabPool tcr : ℕ} {r : State × LiquidationValues}
    (h : liquidateRecoveryMode D s borrower icr usddInStabPool tcr price = .ok r) :
    Flows D s.vault r.1.vault 0 r.2.collSurplus := by
  rcases ite_eq_ok.1 h with ⟨-, h⟩ | ⟨-, h⟩
  · rw [← pure_eq_ok.1 h]
    exact Flows.refl D s.vault
  obtain ⟨entire, -, h⟩ := bind_eq_ok.1 h
  obtain ⟨_, -, h⟩ := bind_eq_ok.1 h
  split_ifs at h
  · obtain ⟨s₁, h₁, h⟩ := bind_eq_ok.1 h
    obtain ⟨s₂, h₂, h⟩ := bind_eq_ok.1 h
    rw [← pure_eq_ok.1 h]
    exact settleTrove_closeTrove_flows h₁ h₂
  · obtain ⟨s₁, h₁, h⟩ := bind_eq_ok.1 h
    obtain ⟨_, -, h⟩ := bind_eq_ok.1 h
    obtain ⟨s₂, h₂, h⟩ := bind_eq_ok.1 h
    rw [← pure_eq_ok.1 h]
    exact settleTrove_closeTrove_flows h₁ h₂
  · obtain ⟨_, -, h⟩ := bind_eq_ok.1 h
    obtain ⟨s₁, h₁, h⟩ := bind_eq_ok.1 h
    obtain ⟨single, -, h⟩ := bind_eq_ok.1 h
    obtain ⟨s₂, h₂, h⟩ := bind_eq_ok.1 h
    obtain ⟨s₃, h₃, h⟩ := bind_eq_ok.1 h
    rw [← pure_eq_ok.1 h]
    exact ((settleTrove_closeTrove_flows h₁ h₂).trans (accountCollSurplus_flows h₃)).of_eq
      (add_zero 0) (zero_add _)
  · rw [← pure_eq_ok.1 h]
    exact Flows.refl D s.vault

/-- The surplus of a sequence is recorded but has not been moved yet. -/
def Sequence.Flows (D : Deployment) (s : State) (q : Sequence) : Prop :=
  Usdd.Flows D s.vault q.state.vault 0 q.totals.totalCollSurplus

theorem Sequence.Flows.liquidateInRecoveryMode {icr : ℕ} {subtractSurplus : Bool}
    (hf : q.Flows D s)
    (h : q.liquidateInRecoveryMode D price borrower icr subtractSurplus = .ok q') :
    q'.Flows D s := by
  obtain ⟨r, hr, h⟩ := bind_eq_ok.1 h
  obtain ⟨_, -, h⟩ := bind_eq_ok.1 h
  obtain ⟨_, -, h⟩ := bind_eq_ok.1 h
  obtain ⟨_, -, h⟩ := bind_eq_ok.1 h
  obtain ⟨_, -, h⟩ := bind_eq_ok.1 h
  rw [← pure_eq_ok.1 h]
  refine (Usdd.Flows.trans hf (liquidateRecoveryMode_flows hr)).of_eq (add_zero 0) ?_
  exact (Nat.cast_add _ _).symm

theorem Sequence.Flows.liquidateInNormalMode (hf : q.Flows D s)
    (h : q.liquidateInNormalMode D borrower = .ok q') : q'.Flows D s := by
  obtain ⟨r, hr, h⟩ := bind_eq_ok.1 h
  obtain ⟨_, -, h⟩ := bind_eq_ok.1 h
  rw [← pure_eq_ok.1 h]
  refine (Usdd.Flows.trans hf (liquidateNormalMode_flows hr)).of_eq (add_zero 0) ?_
  exact (Nat.cast_add _ _).symm

theorem sendCollSurplus_flows (h : sendCollSurplus D s amount = .ok s') :
    Flows D s.vault s'.vault 0 (-amount) := by
  rcases ite_eq_ok.1 h with ⟨-, h⟩ | ⟨hzero, h⟩
  · obtain ⟨s₁, h₁, h⟩ := bind_eq_ok.1 h
    exact ((ActivePool.sendColl_flows h₁).trans (CollSurplusPool.receiveColl_flows h)).of_eq
      (add_neg_cancel _) (zero_add _)
  · rw [← pure_eq_ok.1 h, Nat.le_zero.1 (not_lt.1 hzero)]
    exact Flows.refl D s.vault

theorem sendGasCompensation_flows {usdd coll : ℕ}
    (h : sendGasCompensation D s liquidator usdd coll = .ok s') :
    Flows D s.vault s'.vault (Pi.single liquidator (coll : ℤ)) 0 := by
  obtain ⟨s₁, h₁, h⟩ := bind_eq_ok.1 h
  have husdd : Ensures (fun s₁ => s₁.vault = s.vault) (sendUSDDGasCompensation D s liquidator usdd) := by
    simp [sendUSDDGasCompensation, USDDToken.returnFromPool, State.vault]
  rw [← husdd s₁ h₁]
  rcases ite_eq_ok.1 h with ⟨-, h⟩ | ⟨hzero, h⟩
  · exact ActivePool.sendColl_flows h
  · rw [← pure_eq_ok.1 h, Nat.le_zero.1 (not_lt.1 hzero), Nat.cast_zero, Pi.single_zero]
    exact Flows.refl D s₁.vault

/-- The settlement moves the surplus. -/
theorem settleTotals_flows (h : settleTotals D m s liquidator totals = .ok s') :
    Flows D s.vault s'.vault (Pi.single liquidator (totals.totalCollGasCompensation : ℤ))
      (-totals.totalCollSurplus) := by
  obtain ⟨_, -, h⟩ := bind_eq_ok.1 h
  obtain ⟨s₁, h₁, h⟩ := bind_eq_ok.1 h
  obtain ⟨s₂, h₂, h⟩ := bind_eq_ok.1 h
  obtain ⟨s₃, h₃, h⟩ := bind_eq_ok.1 h
  obtain ⟨s₄, h₄, h⟩ := bind_eq_ok.1 h
  obtain ⟨_, -, h⟩ := bind_eq_ok.1 h
  obtain ⟨_, -, h⟩ := bind_eq_ok.1 h
  have hsnapshots : Ensures (fun s₄ => s₄.vault = s₃.vault)
      (updateSystemSnapshotsExcludeCollRemainder D s₃ totals.totalCollGasCompensation) := by
    simp [updateSystemSnapshotsExcludeCollRemainder, State.vault]
  have hpaid := sendGasCompensation_flows h
  rw [hsnapshots s₄ h₄] at hpaid
  refine ((((StabilityPool.offset_flows h₁).trans (redistributeDebtAndColl_flows h₂)).trans
    (sendCollSurplus_flows h₃)).trans hpaid).of_eq ?_ ?_ <;> abel

theorem settled_balanced (hliquidator : liquidator ∉ D.contracts) (hq : q.Flows D s)
    (h : settleTotals D m q.state liquidator q.totals = .ok s') : Balanced D s.vault s'.vault :=
  .of_single ((Flows.trans hq (settleTotals_flows h)).of_eq (zero_add _) (add_neg_cancel _))
    hliquidator

theorem liquidateTroves_balanced (hliquidator : liquidator ∉ D.contracts)
    (h : liquidateTroves D m s liquidator n = .ok s') : Balanced D s.vault s'.vault := by
  obtain ⟨_, -, h⟩ := bind_eq_ok.1 h
  obtain ⟨q, hq, h⟩ := bind_eq_ok.1 h
  refine settled_balanced hliquidator ?_ h
  exact totalsFromLiquidateTrovesSequence_rule (I := fun q => q.Flows D s)
    (fun _ _ _ _ _ hq h => hq.liquidateInRecoveryMode h)
    (fun _ _ _ hq h => hq.liquidateInNormalMode h) (Flows.refl D s.vault) hq

theorem batchLiquidateTroves_balanced {troveArray : List Address}
    (hliquidator : liquidator ∉ D.contracts)
    (h : batchLiquidateTroves D m s liquidator troveArray = .ok s') :
    Balanced D s.vault s'.vault := by
  obtain ⟨_, -, h⟩ := bind_eq_ok.1 h
  obtain ⟨_, -, h⟩ := bind_eq_ok.1 h
  obtain ⟨q, hq, h⟩ := bind_eq_ok.1 h
  refine settled_balanced hliquidator ?_ h
  exact totalsFromBatchLiquidate_rule (I := fun q => q.Flows D s)
    (fun _ _ _ _ _ hq h => hq.liquidateInRecoveryMode h)
    (fun _ _ _ hq h => hq.liquidateInNormalMode h) (Flows.refl D s.vault) hq

end TroveManager

end Liquidation

section Redemption

namespace TroveManager

variable {r : Redemption} {usdd coll : ℕ}

/-- The collateral that a closed trove leaves is recorded for its owner and moved at once. -/
theorem redeemCloseTrove_flows (h : redeemCloseTrove D s borrower usdd coll = .ok s') :
    Flows D s.vault s'.vault 0 0 := by
  obtain ⟨s₁, h₁, h⟩ := bind_eq_ok.1 h
  obtain ⟨s₂, h₂, h⟩ := bind_eq_ok.1 h
  obtain ⟨s₃, h₃, h⟩ := bind_eq_ok.1 h
  obtain ⟨s₄, h₄, h⟩ := bind_eq_ok.1 h
  have hburned : Ensures (fun s₁ => s₁.vault = s.vault)
      (USDDToken.burn D D.troveManager s D.gasPool usdd) := by
    simp [USDDToken.burn, State.vault]
  have hdebt : Ensures (fun s₂ => s₂.vault = s₁.vault)
      (ActivePool.decreaseUSDDDebt D D.troveManager s₁ usdd) := by
    simp [ActivePool.decreaseUSDDDebt, State.vault]
  rw [← hburned s₁ h₁, ← hdebt s₂ h₂]
  refine (((CollSurplusPool.accountSurplus_flows h₃).trans (ActivePool.sendColl_flows h₄)).trans
    (CollSurplusPool.receiveColl_flows h)).of_eq ?_ ?_ <;> abel

theorem redeemFromTrove_flows {newDebt newColl : ℕ} {cancelled : Bool}
    (h : redeemFromTrove D s borrower newDebt newColl r = .ok (s', cancelled)) :
    Flows D s.vault s'.vault 0 0 := by
  rcases ite_eq_ok.1 h with ⟨-, h⟩ | ⟨-, h⟩
  · obtain ⟨tm, -, h⟩ := bind_eq_ok.1 h
    obtain ⟨s₁, h₁, h⟩ := bind_eq_ok.1 h
    obtain ⟨s₂, h₂, h⟩ := bind_eq_ok.1 h
    cases pure_eq_ok.1 h
    have hclosed : s₁.vault = s.vault := (closeTrove_vault s₁ h₁ :)
    rw [← hclosed]
    exact redeemCloseTrove_flows h₂
  · obtain ⟨_, -, h⟩ := bind_eq_ok.1 h
    rcases ite_eq_ok.1 h with ⟨-, h⟩ | ⟨-, h⟩
    · cases pure_eq_ok.1 h
      exact Flows.refl D s.vault
    · obtain ⟨list, -, h⟩ := bind_eq_ok.1 h
      obtain ⟨s₁, h₁, h⟩ := bind_eq_ok.1 h
      cases pure_eq_ok.1 h
      exact Flows.of_vault (restake_vault s' h₁ :)

theorem redeemCollateralFromTrove_flows {maxUSDDamount : ℕ} {v : SingleRedemptionValues}
    (h : redeemCollateralFromTrove D s borrower maxUSDDamount price r = .ok (s', v)) :
    Flows D s.vault s'.vault 0 0 := by
  obtain ⟨_, -, h⟩ := bind_eq_ok.1 h
  obtain ⟨_, -, h⟩ := bind_eq_ok.1 h
  obtain ⟨_, -, h⟩ := bind_eq_ok.1 h
  obtain ⟨_, -, h⟩ := bind_eq_ok.1 h
  obtain ⟨⟨s₁, cancelled⟩, h₁, h⟩ := bind_eq_ok.1 h
  cases pure_eq_ok.1 h
  exact redeemFromTrove_flows h₁

theorem settleRedemption_balanced {supply : ℕ} (hsender : m.sender ∉ D.contracts)
    (hstaking : D.deftStaking ∉ D.contracts)
    (h : settleRedemption D m s depositor r usdd coll supply = .ok s') :
    Balanced D s.vault s'.vault := by
  obtain ⟨_, -, h⟩ := bind_eq_ok.1 h
  obtain ⟨fees, -, h⟩ := bind_eq_ok.1 h
  obtain ⟨fee, -, h⟩ := bind_eq_ok.1 h
  obtain ⟨_, -, h⟩ := bind_eq_ok.1 h
  obtain ⟨s₁, h₁, h⟩ := bind_eq_ok.1 h
  obtain ⟨s₂, h₂, h⟩ := bind_eq_ok.1 h
  obtain ⟨rest, -, h⟩ := bind_eq_ok.1 h
  obtain ⟨s₃, h₃, h⟩ := bind_eq_ok.1 h
  obtain ⟨s₄, h₄, h⟩ := bind_eq_ok.1 h
  have hfee : Ensures (fun s₂ => s₂.vault = s₁.vault)
      (DEFTStaking.increaseFColl D D.troveManager s₁ D.collToken fee) := by
    simp [DEFTStaking.increaseFColl, State.vault]
  have hburned : Ensures (fun s₃ => s₃.vault = s₂.vault)
      (USDDToken.burn D D.troveManager s₂ depositor usdd) := by
    simp [USDDToken.burn, State.vault]
  have hdebt : Ensures (fun s₄ => s₄.vault = s₃.vault)
      (ActivePool.decreaseUSDDDebt D D.troveManager s₃ usdd) := by
    simp [ActivePool.decreaseUSDDDebt, State.vault]
  have hpaid := ActivePool.sendColl_flows h
  rw [hdebt s₄ h₄, hburned s₃ h₃, hfee s₂ h₂] at hpaid
  exact (Balanced.of_single (ActivePool.sendColl_flows h₁ :) hstaking).trans
    (.of_single hpaid hsender)

theorem redeemCollateral_balanced (hsender : m.sender ∉ D.contracts)
    (hstaking : D.deftStaking ∉ D.contracts)
    (h : redeemCollateral D m s depositor r = .ok s') : Balanced D s.vault s'.vault := by
  obtain ⟨_, -, h⟩ := bind_eq_ok.1 h
  obtain ⟨_, -, h⟩ := bind_eq_ok.1 h
  obtain ⟨totals, htotals, h⟩ := bind_eq_ok.1 h
  have hround {totals : RedemptionTotals} {s₁ s₂ : State} {borrower : Address}
      {v : SingleRedemptionValues} (hf : Flows D s.vault totals.state.vault 0 0)
      (h₁ : applyPendingRewards D totals.state borrower = .ok s₁)
      (h₂ : redeemCollateralFromTrove D s₁ borrower totals.remainingUSDD m.price r = .ok (s₂, v)) :
      Flows D s.vault s₂.vault 0 0 :=
    ((hf.trans (applyPendingRewards_flows h₁)).trans (redeemCollateralFromTrove_flows h₂)).of_eq
      (by abel) (by abel)
  have hloop : Flows D s.vault totals.state.vault 0 0 :=
    redeemLoop_rule (I := fun totals => Flows D s.vault totals.state.vault 0 0)
      (fun _ _ _ _ _ _ hf h₁ h₂ _ _ => hround hf h₁ h₂)
      (fun _ _ _ _ _ hf h₁ h₂ _ => hround hf h₁ h₂) (Flows.refl D s.vault) htotals
  exact (Balanced.of_flows hloop).trans (settleRedemption_balanced hsender hstaking h)

end TroveManager

end Redemption

section Calls

/-- What a call sends to an account directly. -/
def Call.donation (token a : Address) : Call → ℕ
  | .transferCollateral token' recipient amount =>
      if token' = token ∧ recipient = a then amount else 0
  | _ => 0

/-- From `v` to `v'`, each contract of the market is sent `given` directly. -/
structure Receives (D : Deployment) (v v' : Vault) (given : Address → Address → ℕ) : Prop where
  excess : ∀ token, ∀ a ∈ D.contracts, v'.excess D token a = v.excess D token a + given token a
  unclaimed : ∀ token, v'.unclaimed token = v.unclaimed token

theorem Balanced.receives {v v' : Vault} (h : Balanced D v v') : Receives D v v' (fun _ _ => 0) := by
  obtain ⟨flow, hf, hzero⟩ := h
  refine ⟨fun token a ha => ?_, fun token => ?_⟩
  · rw [hf.excess, hzero a ha, ite_self, Nat.cast_zero]
  · rw [hf.unclaimed, ite_self, add_zero]

theorem Token.transfer_receives {token recipient : Address} (hsender : m.sender ∉ D.contracts)
    (h : Token.transfer s token m.sender recipient amount = .ok s') :
    Receives D s.vault s'.vault
      (fun token' a => if token = token' ∧ recipient = a then amount else 0) := by
  obtain ⟨balance, -, h⟩ := bind_eq_ok.1 h
  rw [← pure_eq_ok.1 h]
  refine ⟨fun token' a ha => ?_, fun token' => rfl⟩
  have hne : a ≠ m.sender := by
    rintro rfl
    exact hsender ha
  simp only [Vault.excess, Vault.recorded, State.vault]
  by_cases htoken : token = token'
  · subst htoken
    by_cases hrecipient : recipient = a
    · subst hrecipient
      simp [hne]
      omega
    · simp [hne, hrecipient, Ne.symm hrecipient]
  · simp [htoken, Ne.symm htoken]

theorem perform_receives {call : Call} (hw : D.Wired) (hsender : m.sender ∉ D.contracts)
    (haccount : call.account m.sender ∉ D.contracts) (h : perform D m s call = .ok s') :
    Receives D s.vault s'.vault (fun token a => call.donation token a) := by
  have hstaking : D.deftStaking ∉ D.contracts := by
    have hnodup := hw.nodup
    rw [List.nodup_cons, List.mem_cons, not_or] at hnodup
    exact hnodup.1.2
  cases call with
  | openTrove => exact (BorrowerOperations.openTrove_balanced hsender h).receives
  | addColl | withdrawColl | withdrawUSDD | repayUSDD | adjustTrove =>
      exact (BorrowerOperations.adjustTrove_balanced hsender h).receives
  | closeTrove => exact (BorrowerOperations.closeTrove_balanced hsender h).receives
  | claimCollateral => exact (BorrowerOperations.claimCollateral_balanced hsender h).receives
  | liquidate =>
      obtain ⟨_, -, h⟩ := bind_eq_ok.1 h
      exact (TroveManager.batchLiquidateTroves_balanced haccount h).receives
  | liquidateTroves => exact (TroveManager.liquidateTroves_balanced haccount h).receives
  | batchLiquidateTroves => exact (TroveManager.batchLiquidateTroves_balanced haccount h).receives
  | redeemCollateral => exact (TroveManager.redeemCollateral_balanced hsender hstaking h).receives
  | provideToSP => exact (StabilityPool.provideToSP_balanced hsender h).receives
  | withdrawFromSP => exact (StabilityPool.withdrawFromSP_balanced hsender h).receives
  | withdrawCollGainToTrove => exact (StabilityPool.withdrawCollGainToTrove_balanced h).receives
  | transferCollateral => exact Token.transfer_receives hsender h
  | registerFrontEnd | transfer | transferFrom | approve | increaseAllowance | decreaseAllowance
  | permit =>
      obtain ⟨_, _, rfl⟩ := perform_minor rfl h
      exact (Balanced.of_vault rfl).receives

end Calls

section Runs

theorem step_receives {t : Transact} (hw : D.Wired) (ha : Allowed D s t)
    (hs : step D s t = .ok s') :
    Receives D s.vault s'.vault (fun token a => t.call.donation token a) := by
  obtain ⟨s₁, h₁, hs⟩ := bind_eq_ok.1 hs
  have hreceives := perform_receives hw ha.sender.2 ha.account.2 h₁
  rw [← pure_eq_ok.1 hs]
  exact hreceives

theorem run_receives {calls : List Transact} (hw : D.Wired)
    (hrun : run (checked (step D) (Allowed D)) s calls = .ok s') :
    Receives D s.vault s'.vault
      (fun token a => (calls.map (fun t => t.call.donation token a)).sum) := by
  induction calls generalizing s with
  | nil =>
      cases hrun
      exact ⟨fun _ _ _ => by simp, fun _ => rfl⟩
  | cons t calls ih =>
      obtain ⟨s₁, hs, hrun⟩ := bind_eq_ok.1 hrun
      obtain ⟨_, ha, hs⟩ := bind_eq_ok.1 hs
      have hstep := step_receives hw (require_eq_ok.1 ha) hs
      have hrest := ih hrun
      refine ⟨fun token a hmem => ?_, fun token => ?_⟩
      · rw [hrest.excess token a hmem, hstep.excess token a hmem, List.map_cons, List.sum_cons]
        push_cast
        ring
      · rw [hrest.unclaimed, hstep.unclaimed]

/-- At the end of every run, each contract of the market holds of every token what it records, what it
held at the deployment and what it was sent directly, and the claims are what the surplus pool
records. -/
theorem collateral_backed {calls : List Transact} {g : Genesis} (hw : D.Wired)
    (hrun : run (checked (step D) (Allowed D)) (initial g) calls = .ok s) (token : Address) :
    (∀ a ∈ D.contracts, s.tokens token a = s.vault.recorded D token a + g.tokens token a +
      (calls.map (fun t => t.call.donation token a)).sum) ∧
    ∑ a, s.collSurplusPool.balances a token = s.collSurplusPool.colls token := by
  have hreceives := run_receives hw hrun
  refine ⟨fun a ha => ?_, ?_⟩
  · have hstart : (initial g).vault.excess D token a = g.tokens token a := by
      simp [Vault.excess, Vault.recorded, State.vault, initial]
    have hexcess := hreceives.excess token a ha
    rw [hstart] at hexcess
    have hdef : s.vault.excess D token a = s.tokens token a - s.vault.recorded D token a := rfl
    omega
  · have hstart : (initial g).vault.unclaimed token = 0 := by
      simp [Vault.unclaimed, State.vault, initial]
    have hunclaimed := hreceives.unclaimed token
    rw [hstart] at hunclaimed
    have hdef : s.vault.unclaimed token =
      (∑ a, s.collSurplusPool.balances a token : ℕ) - s.collSurplusPool.colls token := rfl
    omega

theorem collateral_backed_of_liquidation : ∃ s, sampleRun sampleLiquidation = .ok s ∧
    ∑ a, s.collSurplusPool.balances a sampleDeployment.collToken =
      s.collSurplusPool.colls sampleDeployment.collToken := by
  obtain ⟨s, hs, -⟩ := sampleLiquidation_succeeds
  exact ⟨s, hs, (collateral_backed sampleDeployment_wired hs _).2⟩

end Runs

section Claims

theorem Reachable.backed (hw : D.Wired) (h : Reachable D s) (token : Address) :
    (∀ a ∈ D.contracts, s.vault.recorded D token a ≤ s.tokens token a) ∧
      ∑ a, s.collSurplusPool.balances a token = s.collSurplusPool.colls token := by
  have hinv : (∀ a ∈ D.contracts, 0 ≤ s.vault.excess D token a) ∧ s.vault.unclaimed token = 0 := by
    refine Transaction.Reachable.invariant (I := fun s =>
      (∀ a ∈ D.contracts, 0 ≤ s.vault.excess D token a) ∧ s.vault.unclaimed token = 0) ?_ ?_ h
    · rintro s ⟨g, rfl⟩
      simp [Vault.excess, Vault.recorded, Vault.unclaimed, State.vault, initial]
    · rintro s t s' ⟨hexcess, hunclaimed⟩ ha hs
      have hstep := step_receives hw ha hs
      refine ⟨fun a hmem => ?_, (hstep.unclaimed token).trans hunclaimed⟩
      have := hexcess a hmem
      rw [hstep.excess token a hmem]
      omega
  obtain ⟨hexcess, hunclaimed⟩ := hinv
  refine ⟨fun a ha => ?_, ?_⟩
  · have := hexcess a ha
    unfold Vault.excess at this
    exact Int.ofNat_le.1 (Int.sub_nonneg.1 this)
  · unfold Vault.unclaimed at hunclaimed
    exact Int.ofNat_inj.1 (Int.sub_eq_zero.1 hunclaimed)

/-- A claim is paid in full and leaves the others alone. -/
theorem claimCollateral_succeeds (hw : D.Wired) (h : Reachable D s) (hpos : 0 < s.surplus D m.sender)
    (hsender : m.sender ∉ D.contracts) :
    ∃ s', BorrowerOperations.claimCollateral D m s m.sender = .ok s' ∧
      s'.surplus D m.sender = 0 ∧
      s'.tokens D.collToken m.sender = s.tokens D.collToken m.sender + s.surplus D m.sender ∧
      ∀ a, a ≠ m.sender → s'.surplus D a = s.surplus D a ∧
        (a ∉ D.contracts → s'.tokens D.collToken a = s.tokens D.collToken a) := by
  obtain ⟨hbacked, hclaims⟩ := h.backed hw D.collToken
  have hle : s.surplus D m.sender ≤ s.collSurplusPool.colls D.collToken := by
    rw [← hclaims]
    exact UpdateSum.single_le_sum (fun a => s.collSurplusPool.balances a D.collToken) m.sender
  have hpool : D.collSurplusPool ∈ D.contracts := by simp [Deployment.contracts]
  have hrecorded : s.collSurplusPool.colls D.collToken ≤
      s.vault.recorded D D.collToken D.collSurplusPool := by
    unfold Vault.recorded
    rw [if_pos (rfl : D.collSurplusPool = D.collSurplusPool)]
    simp only [State.vault]
    omega
  have hheld : s.surplus D m.sender ≤ s.tokens D.collToken D.collSurplusPool :=
    hle.trans (hrecorded.trans (hbacked D.collSurplusPool hpool))
  have hne : m.sender ≠ D.collSurplusPool := fun heq => hsender (heq ▸ hpool)
  refine ⟨_, bind_eq_ok.2 ⟨(), require_eq_ok.2 (.inl rfl), bind_eq_ok.2 ⟨(), require_eq_ok.2 rfl,
    bind_eq_ok.2 ⟨(), require_eq_ok.2 rfl, bind_eq_ok.2 ⟨(), require_eq_ok.2 hpos,
      bind_eq_ok.2 ⟨_, sub_eq_ok.2 ⟨hle, rfl⟩, bind_eq_ok.2 ⟨_, sub_eq_ok.2 ⟨hheld, rfl⟩,
        rfl⟩⟩⟩⟩⟩⟩, ?_, ?_, ?_⟩
  · simp [State.surplus]
  · simp [State.surplus, hne]
  · intro a ha
    refine ⟨by simp [State.surplus, ha], fun hmem => ?_⟩
    have hapool : a ≠ D.collSurplusPool := fun heq => hmem (heq ▸ hpool)
    simp [ha, hapool]

/-- Whatever the order in which accounts claim, each one is paid its whole surplus. -/
theorem claims_payable {claimants : List Address} {price time : ℕ} (hw : D.Wired)
    (h : Reachable D s) (hprice : 0 < price) (htime : s.timestamp ≤ time)
    (hnodup : claimants.Nodup)
    (hclaimants : ∀ a ∈ claimants, a ≠ 0 ∧ a ∉ D.contracts ∧ 0 < s.surplus D a) :
    ∃ s', run (checked (step D) (Allowed D)) s
        (claimants.map fun a => ⟨⟨a, price, time⟩, .claimCollateral a⟩) = .ok s' ∧
      ∀ a, (a ∈ claimants → s'.surplus D a = 0 ∧
          s'.tokens D.collToken a = s.tokens D.collToken a + s.surplus D a) ∧
        (a ∉ claimants → s'.surplus D a = s.surplus D a ∧
          (a ∉ D.contracts → s'.tokens D.collToken a = s.tokens D.collToken a)) := by
  induction claimants generalizing s with
  | nil => exact ⟨s, rfl, fun a => ⟨fun ha => absurd ha List.not_mem_nil, fun _ => ⟨rfl, fun _ => rfl⟩⟩⟩
  | cons claimant claimants ih =>
      obtain ⟨hnew, hnodup⟩ := List.nodup_cons.1 hnodup
      obtain ⟨hne, hmem, hpos⟩ := hclaimants claimant List.mem_cons_self
      have hallowed : Allowed D s ⟨⟨claimant, price, time⟩, .claimCollateral claimant⟩ :=
        ⟨⟨hne, hmem⟩, ⟨hne, hmem⟩, hprice, htime⟩
      obtain ⟨s₁, hclaim, hzero, hpaid, hothers⟩ :=
        claimCollateral_succeeds (m := ⟨claimant, price, time⟩) hw h hpos hmem
      have hs : step D s ⟨⟨claimant, price, time⟩, .claimCollateral claimant⟩ =
          .ok { s₁ with timestamp := time } := bind_eq_ok.2 ⟨s₁, hclaim, rfl⟩
      obtain ⟨s', hrun, hrest⟩ := ih (h.next hallowed hs) le_rfl hnodup fun a ha => by
        obtain ⟨hne', hmem', hpos'⟩ := hclaimants a (List.mem_cons_of_mem _ ha)
        have hother : a ≠ claimant := fun heq => hnew (heq ▸ ha)
        exact ⟨hne', hmem', (hothers a hother).1.symm ▸ hpos'⟩
      refine ⟨s', bind_eq_ok.2 ⟨_, bind_eq_ok.2 ⟨(), require_eq_ok.2 hallowed, hs⟩, hrun⟩,
        fun a => ⟨fun ha => ?_, fun ha => ?_⟩⟩
      · by_cases hother : a = claimant
        · subst hother
          obtain ⟨hsame, htokens⟩ := (hrest a).2 hnew
          exact ⟨hsame.trans hzero, (htokens hmem).trans hpaid⟩
        · have ha := (List.mem_cons.1 ha).resolve_left hother
          obtain ⟨hzero', hpaid'⟩ := (hrest a).1 ha
          obtain ⟨hsurplus, htokens⟩ := hothers a hother
          refine ⟨hzero', hpaid'.trans ?_⟩
          exact congrArg₂ (· + ·) (htokens (hclaimants a (List.mem_cons_of_mem _ ha)).2.1) hsurplus
      · rw [List.mem_cons, not_or] at ha
        obtain ⟨hsurplus, htokens⟩ := hothers a ha.1
        obtain ⟨hsurplus', htokens'⟩ := (hrest a).2 ha.2
        exact ⟨hsurplus'.trans hsurplus, fun hmem => (htokens' hmem).trans (htokens hmem)⟩

/-- The second account claims what the redemption left of its collateral. -/
theorem claims_payable_of_sample : ∃ s s' : State, 0 < s.surplus sampleDeployment 2 ∧
    run (checked (step sampleDeployment) (Allowed sampleDeployment)) s
      ([2].map fun a => ⟨⟨a, 200 * decimalPrecision, 10 ^ 7⟩, .claimCollateral a⟩) = .ok s' ∧
    s'.surplus sampleDeployment 2 = 0 := by
  obtain ⟨s₀, hs₀, -, -, hints, -, hallowed, s, hs, -, -, -, hpos⟩ := sampleFullRedemption
  have hreach := (reachable_sampleRun hs₀).next hallowed hs
  have htime : s.timestamp = 10 ^ 7 := by
    obtain ⟨_, -, hs⟩ := bind_eq_ok.1 hs
    cases pure_eq_ok.1 hs
    rfl
  have hprice : 0 < 200 * decimalPrecision := by decide
  obtain ⟨s', hrun, hclaims⟩ := claims_payable sampleDeployment_wired hreach hprice htime.le
    (List.nodup_singleton 2) fun a ha => by
      cases List.mem_singleton.1 ha
      exact ⟨by decide, by decide, hpos⟩
  exact ⟨s, s', hpos, hrun, ((hclaims 2).1 (List.mem_singleton_self 2)).1⟩

end Claims

end Usdd

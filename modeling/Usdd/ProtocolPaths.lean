import Usdd.CollGains
import Usdd.DEFTGains
import Usdd.FrontEndStakes
import Usdd.RatioOrder
import Usdd.RewardCover
import Usdd.StakeLiveness
import Usdd.TokenCalls

/-!
# Runs of the protocol as paths of the book

Every call is a path of events, so that what each event keeps holds in every reachable state and at
every point inside a transaction. `Reached` books are those at the end of a path from deployment.
-/

open Transaction

namespace Usdd

variable {D : Deployment} {s s' : State} {m : Message}

section Wiring

theorem Deployment.gasPool_mem (D : Deployment) : D.gasPool ∈ D.contracts := by
  simp [Deployment.contracts]

theorem Deployment.stabilityPool_mem (D : Deployment) : D.stabilityPool ∈ D.contracts := by
  simp [Deployment.contracts]

theorem Deployment.Wired.gasPool_ne (hw : D.Wired) : D.gasPool ≠ D.stabilityPool := by
  intro h
  have hnodup := hw.nodup
  simp [Deployment.contracts, h] at hnodup

end Wiring

section Calls

theorem perform_path {call : Call} (hw : D.Wired)
    (hreg : Registry s.troveManager s.sortedTroves)
    (hallowances : ∀ owner ∈ D.contracts, ∀ spender, s.usddToken.allowances owner spender = 0)
    (hfrontEnds : s.stabilityPool.FrontEndsRegistered D)
    (hsender : m.sender ∉ D.contracts) (haccount : call.account m.sender ∉ D.contracts)
    (h : perform D m s call = .ok s') (d c g : ℤ) :
    Path D (s.book D d c g) (s'.book D d c g) := by
  have hne := hw.gasPool_ne
  have hgas {a : Address} (ha : a ∉ D.contracts) : a ≠ D.gasPool := by
    rintro rfl
    exact ha D.gasPool_mem
  have hpool {a : Address} (ha : a ∉ D.contracts) : a ≠ D.stabilityPool := by
    rintro rfl
    exact ha D.stabilityPool_mem
  have hissuance {a : Address} (ha : a ∉ D.contracts) : a ≠ D.communityIssuance := by
    rintro rfl
    exact ha D.communityIssuance_mem
  cases call with
  | openTrove => exact BorrowerOperations.openTrove_path h d c g
  | addColl | withdrawColl | withdrawUSDD | repayUSDD | adjustTrove =>
      exact BorrowerOperations.adjustTrove_path (hgas hsender) h d c g
  | closeTrove =>
      exact BorrowerOperations.closeTrove_path (hgas hsender) (hpool hsender) hne h d c g
  | claimCollateral => exact Path.of_eq (BorrowerOperations.claimCollateral_book h d c g)
  | liquidate => exact TroveManager.liquidate_path hreg hne h d c g
  | liquidateTroves => exact TroveManager.liquidateTroves_path hreg hne h d c g
  | batchLiquidateTroves => exact TroveManager.batchLiquidateTroves_path hreg hne h d c g
  | redeemCollateral =>
      exact TroveManager.redeemCollateral_path hreg hne (hgas haccount) (hpool haccount) h d c g
  | provideToSP =>
      exact StabilityPool.provideToSP_path (hgas haccount) (hpool haccount) (hissuance haccount) hne
        hfrontEnds h d c g
  | withdrawFromSP =>
      exact StabilityPool.withdrawFromSP_path (hgas haccount) (hpool haccount) (hissuance haccount)
        hne hfrontEnds h d c g
  | withdrawCollGainToTrove =>
      exact StabilityPool.withdrawCollGainToTrove_path (hissuance hsender) hne hfrontEnds h d c g
  | registerFrontEnd => exact StabilityPool.registerFrontEnd_path hsender h d c g
  | transfer => exact USDDToken.transfer_path (hgas hsender) (hpool hsender) h d c g
  | transferFrom sender =>
      exact USDDToken.transferFrom_path (fun hs => hallowances sender hs m.sender) D.gasPool_mem
        D.stabilityPool_mem h d c g
  | approve | increaseAllowance => exact USDDToken.approve_path hsender h d c g
  | decreaseAllowance => exact USDDToken.decreaseAllowance_path hsender h d c g
  | permit => exact USDDToken.permit_path haccount h d c g
  | transferCollateral => exact Path.of_eq (Token.transfer_book h d c g)

end Calls

section Initial

variable (D) (g : Genesis)

theorem initial_registry : Registry (initial g).troveManager (initial g).sortedTroves := by
  have hforward : (initial g).sortedTroves.forward = [] :=
    (SortedTroves.initial_wellFormed _).forward_eq
  refine ⟨?_, ?_, IndexedList.indexed_nil, ?_, ?_, ?_, ?_, ?_⟩
  · rw [hforward]
    exact SortedTroves.initial_wellFormed _
  · intro a
    rw [hforward]
    simp [TroveManager.Active, initial]
  · intro a
    simp [TroveManager.Active, initial]
  · simp [TroveManager.stakes, initial]
  · intro a
    exact ⟨le_rfl, le_rfl⟩
  · intro a _
    exact ⟨rfl, rfl, rfl, rfl⟩
  · intro a ha
    exact absurd ha (by simp [TroveManager.Active, initial])

theorem initial_accounts : Accounts ((initial g).book D 0 0 0) where
  debt := by simp [initial, State.book]
  coll := by simp [initial, State.book]
  supply := rfl
  gas := by simp [initial, State.book]

theorem initial_custody : Custody D ((initial g).book D 0 0 0) where
  deposits := le_rfl
  allowances _ _ _ := rfl

theorem initial_collCovered : ((initial g).book D 0 0 0).CollCovered := by
  simp [Book.CollCovered, RewardAccumulator.Covers, RewardAccumulator.earned, initial, State.book,
    TroveManager.stakes]

theorem initial_debtRealised : ((initial g).book D 0 0 0).DebtRealised where
  covered := by
    simp [Book.DebtCovered, RewardAccumulator.Covers, RewardAccumulator.earned, initial,
      State.book, TroveManager.stakes]
  inStep _ _ _ := le_rfl
  restakes _ _ h := absurd h List.not_mem_nil

theorem initial_stakesPositive : (initial g).troveManager.StakesPositive where
  stake a ha := absurd ha (by simp [TroveManager.Active, initial])
  snapshot h := h

theorem initial_ordered : ((initial g).book D 0 0 0).Ordered := by
  have hforward : (initial g).sortedTroves.forward = [] :=
    (SortedTroves.initial_wellFormed _).forward_eq
  show (initial g).sortedTroves.forward.Pairwise _
  rw [hforward]
  exact List.Pairwise.nil

theorem initial_frontEndsRegistered : (initial g).stabilityPool.FrontEndsRegistered D where
  outside _ h := absurd h Bool.false_ne_true
  rate _ := Nat.zero_le _
  tag _ := Or.inr rfl
  stake _ h := absurd rfl h

theorem initial_timely : (initial g).stabilityPool.Timely where
  product := StabilityPool.unit_pos
  deposits _ h := absurd rfl h
  sums _ h := absurd rfl h
  frontEnds _ h := absurd rfl h
  unreachedSum _ _ _ := rfl
  unreachedG _ _ _ := rfl

theorem initial_solvent : (initial g).stabilityPool.Solvent := by
  have hexact : (initial g).stabilityPool.exactTotal = 0 :=
    Finset.sum_eq_zero (fun _ _ => StabilityPool.exactDeposit_of_initialValue_eq_zero rfl)
  rw [StabilityPool.Solvent, hexact]
  exact Nat.cast_nonneg _

theorem initial_collGainsCovered : (initial g).stabilityPool.CollGainsCovered := by
  have hgains : ∑ d, (initial g).stabilityPool.exactCollGain d = 0 :=
    Finset.sum_eq_zero (fun _ _ => StabilityPool.exactCollGain_of_initialValue_eq_zero rfl)
  rw [StabilityPool.CollGainsCovered, hgains]
  simp [initial]

theorem initial_frontEndsCover : (initial g).stabilityPool.FrontEndsCover := by
  have hdeposit (d : Address) : (initial g).stabilityPool.unspentDeposit d = 0 :=
    StabilityPool.unspent_zero _ _
  intro f
  rw [Finset.sum_eq_zero (fun d _ => hdeposit d)]
  exact StabilityPool.unspent_nonneg _ _ _

theorem initial_deftCovered :
    ((initial g).book D 0 0 0).DEFTCovered (g.deft D.communityIssuance) := by
  have hdeposit (d : Address) : (initial g).stabilityPool.exactDeposit d = 0 :=
    StabilityPool.exactDeposit_of_initialValue_eq_zero rfl
  have hstake (f : Address) : (initial g).stabilityPool.exactFrontEndStake f = 0 := by
    unfold StabilityPool.exactFrontEndStake StabilityPool.exactStake
    exact CompoundingStake.share_zero _ _
  have hgain (d : Address) : (initial g).stabilityPool.exactDEFTGain d = 0 :=
    StabilityPool.exactDEFTGain_of_initialValue_eq_zero rfl
  have hgain' (f : Address) : (initial g).stabilityPool.exactFrontEndDEFTGain f = 0 := by
    unfold StabilityPool.exactFrontEndDEFTGain
    exact CompoundingStake.gain_zero _ _ _
  have hrewarded : (initial g).stabilityPool.rewardedTotal = 0 := by
    simp [StabilityPool.rewardedTotal, hdeposit, hstake]
  have howed : (initial g).stabilityPool.exactDEFTOwed = 0 := by
    simp [StabilityPool.exactDEFTOwed, hgain, hgain']
  refine ⟨?_, ?_⟩
  · show (initial g).stabilityPool.rewardedTotal ≤ _
    rw [hrewarded]
    exact Nat.cast_nonneg _
  · show (initial g).stabilityPool.exactDEFTOwed + _ + _ ≤ _
    rw [howed]
    simp [initial, State.book]

theorem initial_productInRange : (initial g).stabilityPool.ProductInRange := by
  refine ⟨?_, le_rfl⟩
  show StabilityPool.scaleFactor ≤ decimalPrecision
  decide

end Initial

section Reached

/-- What holds at every point of every run, without a condition on the run. -/
structure Book.Consistent (D : Deployment) (b : Book) : Prop where
  registry : Registry b.troveManager b.sortedTroves
  accounts : Accounts b
  custody : Custody D b
  covered : b.CollCovered
  timely : b.pool.Timely
  frontEnds : b.pool.FrontEndsRegistered D

/-- The books at the end of a path from deployment. -/
def Book.Reached (D : Deployment) (b : Book) : Prop :=
  ∃ g, Path D ((initial g).book D 0 0 0) b

variable {b b' : Book}

theorem Book.Consistent.event (h : b.Consistent D) (he : Event D b b') : b'.Consistent D :=
  ⟨h.registry.event he, h.accounts.event h.registry he, h.custody.event he,
    h.covered.event h.registry he, h.timely.event he, h.frontEnds.event he⟩

theorem initial_consistent (D : Deployment) (g : Genesis) :
    ((initial g).book D 0 0 0).Consistent D :=
  ⟨initial_registry g, initial_accounts D g, initial_custody D g, initial_collCovered D g,
    initial_timely g, initial_frontEndsRegistered D g⟩

theorem Book.Reached.consistent (h : b.Reached D) : b.Consistent D := by
  obtain ⟨g, hp⟩ := h
  exact Path.invariant (fun _ _ he hi => hi.event he) hp (initial_consistent D g)

theorem Book.Reached.trans (h : b.Reached D) (hp : Path D b b') : b'.Reached D := by
  obtain ⟨g, hp₀⟩ := h
  exact ⟨g, hp₀.trans hp⟩

theorem Book.Reached.step_path {t : Transact} {d c g : ℤ} (hw : D.Wired)
    (hs : (s.book D d c g).Reached D) (ha : Allowed D s t) (h : step D s t = .ok s') :
    Path D (s.book D d c g) (s'.book D d c g) := by
  obtain ⟨s₁, h₁, h⟩ := bind_eq_ok.1 h
  have hc := hs.consistent
  have hp := perform_path hw hc.registry hc.custody.allowances hc.frontEnds ha.sender.2
    ha.account.2 h₁ d c g
  rw [← pure_eq_ok.1 h]
  exact hp

theorem Book.Reached.step {t : Transact} {d c g : ℤ} (hw : D.Wired)
    (hs : (s.book D d c g).Reached D) (ha : Allowed D s t) (h : step D s t = .ok s') :
    (s'.book D d c g).Reached D :=
  hs.trans (hs.step_path hw ha h)

theorem Reachable.reached (hw : D.Wired) (h : Reachable D s) : (s.book D 0 0 0).Reached D := by
  refine Transaction.Reachable.invariant (I := fun s => (s.book D 0 0 0).Reached D) ?_ ?_ h
  · rintro s ⟨g, rfl⟩
    exact ⟨g, Path.refl _⟩
  · intro s t s' hs ha hstep
    exact hs.step hw ha hstep

theorem Reachable.consistent (hw : D.Wired) (h : Reachable D s) :
    (s.book D 0 0 0).Consistent D :=
  (h.reached hw).consistent

/-- The rule for runs whose steps all meet a condition: the property holds initially, and an event
keeps it as long as what the event enters into the journal meets the condition. -/
theorem Path.conditional {g : Genesis} {I : Book → Prop} {C : JournalEntry → Prop}
    (h₀ : I ((initial g).book D 0 0 0))
    (h₁ : ∀ b b', b.Consistent D → I b → (∀ e ∈ b'.journal, C e) → Event D b b' → I b')
    (hp : Path D ((initial g).book D 0 0 0) b) (hj : ∀ e ∈ b.journal, C e) : I b := by
  induction hp with
  | refl => exact h₀
  | @tail b₁ b₂ hp he ih =>
      exact h₁ _ _ (Book.Reached.consistent ⟨g, hp⟩)
        (ih (fun e hm => hj e (he.journal_subset hm))) hj he

theorem Book.Reached.conditional {I : Book → Prop} {C : JournalEntry → Prop}
    (h₀ : ∀ g, I ((initial g).book D 0 0 0))
    (h₁ : ∀ b b', b.Consistent D → I b → (∀ e ∈ b'.journal, C e) → Event D b b' → I b')
    (h : b.Reached D) (hj : ∀ e ∈ b.journal, C e) : I b := by
  obtain ⟨g, hp⟩ := h
  exact hp.conditional (h₀ g) h₁ hj

end Reached

end Usdd

import Usdd.DepositViews

/-!
# The epochs of the Stability Pool

The loss per unit staked of an offset that leaves something in the pool is rounded up, and can
reach one when what is left is small beside the total. The epoch then advances with USDD in the
pool that no deposit can claim.
-/

open Transaction CompoundingStake

namespace Usdd

namespace StabilityPool

/-- What the offset leaves and the error of the last offset keep the loss per unit below one. -/
def LossBelowOne (sp : StabilityPool) (debt : ℕ) : Prop :=
  sp.totalUSDDDeposits <
    (sp.totalUSDDDeposits - debt) * decimalPrecision + sp.lastUSDDLossErrorOffset

def EpochFollowsPool (sp : StabilityPool) (debt : ℕ) : Prop :=
  debt = sp.totalUSDDDeposits ∨ sp.LossBelowOne debt

instance (sp : StabilityPool) (debt : ℕ) : Decidable (sp.LossBelowOne debt) :=
  inferInstanceAs (Decidable (_ < _))

instance (sp : StabilityPool) (debt : ℕ) : Decidable (sp.EpochFollowsPool debt) :=
  inferInstanceAs (Decidable (_ ∨ _))

end StabilityPool

open StabilityPool

def JournalEntry.EpochFollowsPool : JournalEntry → Prop
  | .offset sp debt => sp.EpochFollowsPool debt
  | _ => True

instance : DecidablePred JournalEntry.EpochFollowsPool
  | .offset sp debt => inferInstanceAs (Decidable (sp.EpochFollowsPool debt))
  | .restake _ _ => isTrue trivial
  | .redistribute _ _ _ _ => isTrue trivial
  | .changeDeposit _ _ => isTrue trivial

def JournalEntry.EmptiesPool : JournalEntry → Prop
  | .offset sp debt => debt = sp.totalUSDDDeposits
  | _ => False

instance : DecidablePred JournalEntry.EmptiesPool
  | .offset _ _ => inferInstanceAs (Decidable (_ = _))
  | .restake _ _ => isFalse id
  | .redistribute _ _ _ _ => isFalse id
  | .changeDeposit _ _ => isFalse id

section Offset

variable {sp : StabilityPool} {debt loss lossError : ℕ}

theorem StabilityPool.partialLoss_lt_iff (hpos : sp.totalUSDDDeposits ≠ 0)
    (hle : debt ≤ sp.totalUSDDDeposits)
    (herror : sp.lastUSDDLossErrorOffset ≤ debt * decimalPrecision) :
    sp.partialLoss debt < decimalPrecision ↔ sp.LossBelowOne debt := by
  have hsplit : (sp.totalUSDDDeposits - debt) * decimalPrecision =
      sp.totalUSDDDeposits * decimalPrecision - debt * decimalPrecision := Nat.sub_mul _ _ _
  have hmul : debt * decimalPrecision ≤ sp.totalUSDDDeposits * decimalPrecision :=
    Nat.mul_le_mul_right _ hle
  have hone : (decimalPrecision - 1) * sp.totalUSDDDeposits =
      sp.totalUSDDDeposits * decimalPrecision - sp.totalUSDDDeposits := by
    rw [Nat.sub_mul, Nat.one_mul, Nat.mul_comm]
  have hunit : sp.totalUSDDDeposits ≤ sp.totalUSDDDeposits * decimalPrecision :=
    Nat.le_mul_of_pos_right _ unit_pos
  calc
    sp.partialLoss debt < decimalPrecision ↔
        (debt * decimalPrecision - sp.lastUSDDLossErrorOffset) / sp.totalUSDDDeposits <
          decimalPrecision - 1 := Nat.lt_sub_iff_add_lt.symm
    _ ↔ debt * decimalPrecision - sp.lastUSDDLossErrorOffset <
        (decimalPrecision - 1) * sp.totalUSDDDeposits :=
      Nat.div_lt_iff_lt_mul (Nat.pos_of_ne_zero hpos)
    _ ↔ sp.LossBelowOne debt := by
      unfold LossBelowOne
      omega

/-- An offset takes everything from the shares exactly if it empties the pool or its loss rounds up
to one. -/
theorem StabilityPool.loss_eq_iff (hpos : sp.totalUSDDDeposits ≠ 0)
    (hle : debt ≤ sp.totalUSDDDeposits)
    (hloss : usddLossPerUnitStaked sp debt sp.totalUSDDDeposits = .ok (loss, lossError))
    (hone : loss ≤ decimalPrecision) :
    decimalPrecision - loss = 0 ↔ debt = sp.totalUSDDDeposits ∨ ¬sp.LossBelowOne debt := by
  rcases usddLossPerUnitStaked_eq_ok hloss with ⟨heq, rfl⟩ | ⟨hne, herror, -, rfl⟩
  · exact iff_of_true (Nat.sub_self _) (Or.inl heq)
  · rw [← partialLoss_lt_iff hpos hle herror, or_iff_right hne]
    omega

theorem charge_epoch (unit base : ℕ) (now : Clock) (factor : ℕ) :
    (charge unit base now factor).epoch = if factor = 0 then now.epoch + 1 else now.epoch := by
  unfold charge
  split_ifs <;> rfl

end Offset

section Runs

variable {D : Deployment} {b b' : Book} {g : Genesis} {s : State}

/-- The offsets that emptied the pool and those whose loss rounded up to one. -/
def advances (journal : List JournalEntry) : ℕ :=
  journal.countP (fun e => decide e.EmptiesPool) +
    journal.countP (fun e => decide ¬e.EpochFollowsPool)

theorem advances_cons {e : JournalEntry} (hempties : ¬e.EmptiesPool) (hfollows : e.EpochFollowsPool)
    (journal : List JournalEntry) : advances (e :: journal) = advances journal := by
  unfold advances
  rw [List.countP_cons_of_neg (p := fun e : JournalEntry => decide e.EmptiesPool)
      (fun he => hempties (of_decide_eq_true he)),
    List.countP_cons_of_neg (p := fun e : JournalEntry => decide ¬e.EpochFollowsPool)
      (fun he => of_decide_eq_true he hfollows)]

theorem advances_cons_offset (sp : StabilityPool) (debt : ℕ) (journal : List JournalEntry) :
    advances (.offset sp debt :: journal) = advances journal +
      if debt = sp.totalUSDDDeposits ∨ ¬sp.LossBelowOne debt then 1 else 0 := by
  have hempties : (JournalEntry.offset sp debt).EmptiesPool ↔ debt = sp.totalUSDDDeposits := Iff.rfl
  have hfollows : (JournalEntry.offset sp debt).EpochFollowsPool ↔
    debt = sp.totalUSDDDeposits ∨ sp.LossBelowOne debt := Iff.rfl
  unfold advances
  rw [List.countP_cons, List.countP_cons]
  simp only [decide_eq_true_eq, hempties, hfollows]
  by_cases heq : debt = sp.totalUSDDDeposits
  · simp only [heq, true_or, if_true, not_true_eq_false, if_false]
    omega
  · by_cases hbelow : sp.LossBelowOne debt
    · simp [heq, hbelow]
    · simp only [heq, hbelow, not_false_eq_true, or_true, or_false, if_true, if_false]
      omega

/-- The epoch counts the offsets that emptied the pool and those whose loss rounded up to one. -/
def Book.EpochCounted (b : Book) : Prop := b.pool.currentEpoch = advances b.journal

theorem Book.EpochCounted.event (h : b.EpochCounted) (he : Event D b b') : b'.EpochCounted := by
  unfold EpochCounted at h ⊢
  cases he with
  | @offsets debt coll rewards pool hpos hrewards hpool hdebt hcoll hsupply hle husdd =>
      obtain ⟨hone, -, lossError, collError, clock, hclock, hloss, -, rfl⟩ :=
        offset_eq_ok hrewards hpool
      have hzero := loss_eq_iff hpos.1 hle hloss hone
      have hepoch : clock.epoch = if decimalPrecision - rewards.usddLossPerUnitStaked = 0 then
          b.pool.currentEpoch + 1 else b.pool.currentEpoch := by
        rw [hclock, charge_epoch]
        rfl
      show clock.epoch = advances (.offset b.pool debt :: b.journal)
      rw [hepoch, advances_cons_offset, ← h]
      simp only [hzero]
      split_ifs <;> rfl
  | opens | amends => exact h.trans (advances_cons (e := .restake _ _) id trivial _).symm
  | redistributes => exact h.trans (advances_cons (e := .redistribute _ _ _ _) id trivial _).symm
  | issues hpool =>
      obtain ⟨rate, lastDEFTError, rfl, -⟩ := updateG_eq_ok hpool
      exact h
  | @tags depositor frontEndTag =>
      obtain ⟨deposits, heq, -⟩ := setTagOfNewDeposit_eq b.pool depositor frontEndTag
      show (setTagOfNewDeposit b.pool depositor frontEndTag).currentEpoch = advances b.journal
      rw [heq]
      exact h
  | @changesDeposit depositor deposit frontEndStake gain provided withdrawn =>
      show (updateDepositAndSnapshots _ _ _).currentEpoch = advances (.changeDeposit _ _ :: _)
      rw [advances_cons (e := .changeDeposit _ _) id trivial]
      unfold updateDepositAndSnapshots updateFrontEndStakeAndSnapshots
      split_ifs <;> exact h
  | _ => exact h

theorem PoolReachable.epochCounted (hw : D.Wired) (h : PoolReachable D g s) :
    s.stabilityPool.currentEpoch = advances s.journal := by
  obtain ⟨d, c, hp⟩ := h.path hw
  have hcounted : (s.book D d c 0).EpochCounted :=
    hp.invariant (I := Book.EpochCounted) (fun _ _ he hi => hi.event he) rfl
  exact hcounted

end Runs

end Usdd

import Usdd.TroveCalls

/-!
# The calls of BorrowerOperations as events

Opening a trove is one event, an adjustment realises rewards and amends the trove, and closing a
trove ends with the burns and the payout that settle what the closed trove owed.
-/

open Transaction

namespace Usdd.BorrowerOperations

open TroveManager (applyPendingRewards_path applyPendingRewards_active
  applyPendingRewards_snapshot closeTrove_path)

variable {D : Deployment} {m : Message} {s s' : State} {account : Address} {d c g : ℤ}

section Parts

theorem chargeBorrowingFee_book {charged : Bool} {amount maxFee fee : ℕ}
    (h : chargeBorrowingFee D m s charged amount maxFee = .ok (s', fee)) (d c g : ℤ) :
    ∃ gas poolUSDD, (s.book D d c g).gas ≤ gas ∧ (s.book D d c g).poolUSDD ≤ poolUSDD ∧
      s'.book D d c g = { s.book D d c g with
        supply := (s.book D d c g).supply + fee
        gas := gas
        poolUSDD := poolUSDD } := by
  cases charged with
  | false =>
      cases pure_eq_ok.1 h
      exact ⟨_, _, le_rfl, le_rfl, rfl⟩
  | true =>
      obtain ⟨_, -, h⟩ := bind_eq_ok.1 h
      obtain ⟨_, -, h⟩ := bind_eq_ok.1 h
      obtain ⟨s₁, h₁, h⟩ := bind_eq_ok.1 h
      obtain ⟨s₂, h₂, h⟩ := bind_eq_ok.1 h
      cases pure_eq_ok.1 h
      obtain ⟨gas, poolUSDD, hgas, -, hpool, hb⟩ := USDDToken.mint_book h₂ d c g
      rw [DEFTStaking.increaseFUSDD_book h₁] at hgas hpool hb
      exact ⟨gas, poolUSDD, hgas, hpool, hb⟩

theorem activePoolAddColl_book {amount : ℕ} (h : activePoolAddColl D m s amount = .ok s')
    (d c g : ℤ) :
    s'.book D d c g =
      { s.book D d c g with activeColl := (s.book D d c g).activeColl + amount } := by
  obtain ⟨s₁, h₁, h⟩ := bind_eq_ok.1 h
  rw [ActivePool.receiveColl_book h, Token.transfer_book h₁]

theorem withdrawUSDD_book {amount netDebtIncrease : ℕ}
    (h : withdrawUSDD D s account amount netDebtIncrease = .ok s') (d c g : ℤ) :
    ∃ gas poolUSDD, (s.book D d c g).gas ≤ gas ∧
      (account = D.gasPool → gas = (s.book D d c g).gas + amount) ∧
      (s.book D d c g).poolUSDD ≤ poolUSDD ∧
      s'.book D d c g = { s.book D d c g with
        activeDebt := (s.book D d c g).activeDebt + netDebtIncrease
        supply := (s.book D d c g).supply + amount
        gas := gas
        poolUSDD := poolUSDD } := by
  obtain ⟨s₁, h₁, h⟩ := bind_eq_ok.1 h
  obtain ⟨gas, poolUSDD, hgas, hgas', hpool, hb⟩ := USDDToken.mint_book h d c g
  rw [ActivePool.increaseUSDDDebt_book h₁] at hgas hgas' hpool hb
  exact ⟨gas, poolUSDD, hgas, hgas', hpool, hb⟩

theorem repayUSDD_book {usdd : ℕ} (h : repayUSDD D s account usdd = .ok s') (d c g : ℤ) :
    usdd ≤ (s.book D d c g).activeDebt ∧ usdd ≤ (s.book D d c g).supply ∧
      usdd ≤ s.usddToken.balances account ∧
      s'.book D d c g = { s.book D d c g with
        activeDebt := (s.book D d c g).activeDebt - usdd
        supply := (s.book D d c g).supply - usdd
        gas := (s.book D d c g).gas - if D.gasPool = account then usdd else 0
        poolUSDD :=
          (s.book D d c g).poolUSDD - if D.stabilityPool = account then usdd else 0 } := by
  obtain ⟨s₁, h₁, h⟩ := bind_eq_ok.1 h
  obtain ⟨hdebt, b₁⟩ := ActivePool.decreaseUSDDDebt_book h₁ d c g
  obtain ⟨hbal, hsupply, hb⟩ := USDDToken.burn_book h d c g
  have htoken : s₁.usddToken = s.usddToken := by
    obtain ⟨_, -, h₁⟩ := bind_eq_ok.1 h₁
    obtain ⟨_, -, h₁⟩ := bind_eq_ok.1 h₁
    rw [← pure_eq_ok.1 h₁]
  rw [b₁] at hsupply hb
  rw [htoken] at hbal
  exact ⟨hdebt, hsupply, hbal, hb⟩

theorem sendColl_path {sender recipient : Address} {amount : ℕ}
    (h : ActivePool.sendColl D sender s recipient D.collToken amount = .ok s') (d c g : ℤ) :
    Path D (s.book D d c g) (s'.book D d (c - amount) g) := by
  obtain ⟨hle, hb⟩ := ActivePool.sendColl_book h d (c - amount) g
  rw [hb]
  exact Path.single (Event.sendsColl hle)

end Parts

section Open

theorem recordTrove_eq_ok {owner upperHint lowerHint : Address} {coll debt : ℕ}
    (h : recordTrove s owner coll debt upperHint lowerHint = .ok s') :
    ∃ tm list,
      TroveManager.updateStakeAndTotalStakes (s.troveManager.opened owner coll debt) owner =
        .ok tm ∧
      SortedTroves.insert (TroveManager.getNominalICR tm) s.sortedTroves owner
        (LiquityMath.computeNominalCR coll debt) upperHint lowerHint = .ok list ∧
      s' = { s with
        troveManager := tm.addTroveOwnerToArray owner
        sortedTroves := list
        journal := .restake (s.troveManager.opened owner coll debt) owner :: s.journal } := by
  obtain ⟨s₁, h₁, h⟩ := bind_eq_ok.1 h
  obtain ⟨tm, htm, h₁⟩ := bind_eq_ok.1 h₁
  cases pure_eq_ok.1 h₁
  obtain ⟨list, hlist, h⟩ := bind_eq_ok.1 h
  exact ⟨tm, list, htm, hlist, (pure_eq_ok.1 h).symm⟩

theorem openTrove_eq_ok {owner upperHint lowerHint : Address} {maxFee coll usdd : ℕ}
    (h : openTrove D m s owner maxFee coll usdd upperHint lowerHint = .ok s') :
    ∃ s₁ fee tm list s₃ s₄,
      ¬ s.troveManager.Active owner ∧
      chargeBorrowingFee D m s (!TroveManager.checkRecoveryMode D s m.price) usdd maxFee =
        .ok (s₁, fee) ∧
      minNetDebt ≤ usdd + fee ∧
      requireValidOpening D m s₁ (TroveManager.checkRecoveryMode D s m.price) coll
        (getCompositeDebt (usdd + fee)) = .ok () ∧
      TroveManager.updateStakeAndTotalStakes
        (s₁.troveManager.opened owner coll (getCompositeDebt (usdd + fee))) owner = .ok tm ∧
      SortedTroves.insert (TroveManager.getNominalICR tm) s₁.sortedTroves owner
        (LiquityMath.computeNominalCR coll (getCompositeDebt (usdd + fee))) upperHint lowerHint =
        .ok list ∧
      activePoolAddColl D m
        { s₁ with
          troveManager := tm.addTroveOwnerToArray owner
          sortedTroves := list
          journal := .restake (s₁.troveManager.opened owner coll (getCompositeDebt (usdd + fee)))
            owner :: s₁.journal } coll = .ok s₃ ∧
      withdrawUSDD D s₃ owner usdd (usdd + fee) = .ok s₄ ∧
      withdrawUSDD D s₄ D.gasPool usddGasCompensation usddGasCompensation = .ok s' := by
  obtain ⟨_, -, h⟩ := bind_eq_ok.1 h
  obtain ⟨_, hnew, h⟩ := bind_eq_ok.1 h
  obtain ⟨⟨s₁, fee⟩, h₁, h⟩ := bind_eq_ok.1 h
  obtain ⟨_, hmin, h⟩ := bind_eq_ok.1 h
  obtain ⟨_, -, h⟩ := bind_eq_ok.1 h
  obtain ⟨_, hratio, h⟩ := bind_eq_ok.1 h
  obtain ⟨s₂, h₂, h⟩ := bind_eq_ok.1 h
  obtain ⟨s₃, h₃, h⟩ := bind_eq_ok.1 h
  obtain ⟨s₄, h₄, h⟩ := bind_eq_ok.1 h
  dsimp only at hmin hratio h₂ h₃ h₄
  obtain ⟨tm, list, htm, hlist, hs₂⟩ := recordTrove_eq_ok h₂
  rw [hs₂] at h₃
  exact ⟨s₁, fee, tm, list, s₃, s₄, require_eq_ok.1 hnew, h₁, require_eq_ok.1 hmin, hratio, htm,
    hlist, h₃, h₄, h⟩

theorem openTrove_path {owner upperHint lowerHint : Address} {maxFee coll usdd : ℕ}
    (h : openTrove D m s owner maxFee coll usdd upperHint lowerHint = .ok s') (d c g : ℤ) :
    Path D (s.book D d c g) (s'.book D d c g) := by
  obtain ⟨s₁, fee, tm, list, s₃, s₄, hnew, h₁, hmin, -, htm, hlist, h₃, h₄, h⟩ := openTrove_eq_ok h
  obtain ⟨gas₁, pool₁, hg₁, hp₁, b₁⟩ := chargeBorrowingFee_book h₁ d c g
  have htm₁ : s₁.troveManager = s.troveManager := congrArg Book.troveManager b₁
  have hlist₁ : s₁.sortedTroves = s.sortedTroves := congrArg Book.sortedTroves b₁
  have hjournal₁ : s₁.journal = s.journal := congrArg Book.journal b₁
  rw [htm₁] at htm
  rw [hlist₁] at hlist
  have b₃ := activePoolAddColl_book h₃ d c g
  have b₂ : State.book D
      { s₁ with
        troveManager := tm.addTroveOwnerToArray owner
        sortedTroves := list
        journal := .restake (s₁.troveManager.opened owner coll (getCompositeDebt (usdd + fee)))
          owner :: s₁.journal } d c g = { s₁.book D d c g with
        troveManager := tm.addTroveOwnerToArray owner
        sortedTroves := list
        journal := .restake (s₁.troveManager.opened owner coll
          (getCompositeDebt (usdd + fee))) owner :: s₁.journal } := rfl
  obtain ⟨gas₄, pool₄, hg₄, -, hp₄, b₄⟩ := withdrawUSDD_book h₄ d c g
  obtain ⟨gas, pool, -, hgas, hpool, b₅⟩ := withdrawUSDD_book h d c g
  have hgas := hgas rfl
  rw [b₃, b₂, htm₁, hjournal₁, b₁] at hg₄ hp₄ b₄
  rw [b₄] at hgas hpool b₅
  dsimp only at hg₁ hp₁ hg₄ hp₄ hgas hpool
  have hdebt : (s.book D d c g).activeDebt + (usdd + fee) + usddGasCompensation =
      (s.book D d c g).activeDebt + getCompositeDebt (usdd + fee) := by
    unfold getCompositeDebt
    omega
  have hsupply : (s.book D d c g).supply + fee + usdd + usddGasCompensation =
      (s.book D d c g).supply + getCompositeDebt (usdd + fee) := by
    unfold getCompositeDebt
    omega
  rw [b₅]
  dsimp only
  rw [hdebt, hsupply]
  exact Path.single (Event.opens hnew (Nat.add_le_add_right hmin _) htm hlist (by omega)
    (by omega))

end Open

section Adjust

variable {isIncrease isCollIncrease isDebtIncrease : Bool} {a : Adjustment}

theorem applyChange_eq_ok {amount change amount' : ℕ} :
    applyChange amount change isIncrease = .ok amount' ↔
      (isIncrease = true ∧ amount' = amount + change) ∨
        (isIncrease = false ∧ change ≤ amount ∧ amount' = amount - change) := by
  cases isIncrease with
  | false =>
      constructor
      · intro h
        obtain ⟨hle, rfl⟩ := sub_eq_ok.1 h
        exact Or.inr ⟨rfl, hle, rfl⟩
      · rintro (⟨h, -⟩ | ⟨-, hle, rfl⟩)
        · exact absurd h Bool.false_ne_true
        · exact sub_eq_ok.2 ⟨hle, rfl⟩
  | true =>
      constructor
      · intro h
        exact Or.inl ⟨rfl, (pure_eq_ok.1 h).symm⟩
      · rintro (⟨-, rfl⟩ | ⟨h, -⟩)
        · rfl
        · exact absurd h.symm Bool.false_ne_true

/-- Two amounts that undergo the same change keep their difference. -/
theorem applyChange_add {x y x' y' change : ℕ} (hx : applyChange x change isIncrease = .ok x')
    (hy : applyChange y change isIncrease = .ok y') : x' + y = x + y' := by
  rcases applyChange_eq_ok.1 hx with ⟨hi, rfl⟩ | ⟨hi, hx, rfl⟩ <;>
    rcases applyChange_eq_ok.1 hy with ⟨hi', rfl⟩ | ⟨hi', hy, rfl⟩
  · omega
  · rw [hi] at hi'
    exact absurd hi'.symm Bool.false_ne_true
  · rw [hi] at hi'
    exact absurd hi' Bool.false_ne_true
  · omega

theorem updateTroveFromAdjustment_eq_ok {tm tm' : TroveManager} {collChange debtChange : ℕ}
    (h : updateTroveFromAdjustment tm account collChange isCollIncrease debtChange
      isDebtIncrease = .ok tm') :
    ∃ coll debt, applyChange (tm.troves account).coll collChange isCollIncrease = .ok coll ∧
      applyChange (tm.troves account).debt debtChange isDebtIncrease = .ok debt ∧
      tm' = tm.amended account coll debt := by
  obtain ⟨tm₁, h₁, h⟩ := bind_eq_ok.1 h
  have hcoll : ∃ coll, applyChange (tm.troves account).coll collChange isCollIncrease = .ok coll ∧
      tm₁ = tm.setTrove account { tm.troves account with coll := coll } := by
    cases isCollIncrease with
    | false =>
        obtain ⟨coll, hc, h₁⟩ := bind_eq_ok.1 h₁
        exact ⟨coll, hc, (pure_eq_ok.1 h₁).symm⟩
    | true => exact ⟨_, rfl, (pure_eq_ok.1 h₁).symm⟩
  obtain ⟨coll, hc, rfl⟩ := hcoll
  have htrove : (tm.setTrove account { tm.troves account with coll := coll }).troves account =
      { tm.troves account with coll := coll } := Function.update_self ..
  have hdebt : ∃ debt, applyChange (tm.troves account).debt debtChange isDebtIncrease = .ok debt ∧
      tm' = (tm.setTrove account { tm.troves account with coll := coll }).setTrove account
        { tm.troves account with coll := coll, debt := debt } := by
    cases isDebtIncrease with
    | false =>
        obtain ⟨debt, hd, h⟩ := bind_eq_ok.1 h
        rw [htrove] at hd h
        exact ⟨debt, hd, (pure_eq_ok.1 h).symm⟩
    | true =>
        have h := pure_eq_ok.1 h
        rw [TroveManager.increaseTroveDebt, htrove] at h
        exact ⟨_, rfl, h.symm⟩
  obtain ⟨debt, hd, rfl⟩ := hdebt
  refine ⟨coll, debt, hc, hd, ?_⟩
  simp [TroveManager.setTrove, TroveManager.amended]

theorem moveUSDDFromAdjustment_book {usddChange netDebtChange : ℕ}
    (h : moveUSDDFromAdjustment D s account usddChange isDebtIncrease netDebtChange = .ok s')
    (hnet : isDebtIncrease = false → netDebtChange = usddChange) (hgas : account ≠ D.gasPool)
    (hpool : account = D.stabilityPool → usddChange = 0) (d c g : ℤ) :
    ∃ activeDebt supply gas poolUSDD,
      applyChange (s.book D d c g).activeDebt netDebtChange isDebtIncrease = .ok activeDebt ∧
      applyChange (s.book D d c g).supply usddChange isDebtIncrease = .ok supply ∧
      (s.book D d c g).gas ≤ gas ∧ (s.book D d c g).poolUSDD ≤ poolUSDD ∧
      s'.book D d c g = { s.book D d c g with
        activeDebt := activeDebt
        supply := supply
        gas := gas
        poolUSDD := poolUSDD } := by
  cases isDebtIncrease with
  | false =>
      obtain ⟨hdebt, hsupply, -, hb⟩ := repayUSDD_book h d c g
      have hzero : (if D.stabilityPool = account then usddChange else 0) = 0 := by
        split_ifs with hsp
        · exact hpool hsp.symm
        · rfl
      rw [if_neg hgas.symm, hzero] at hb
      rw [hnet rfl]
      exact ⟨_, _, _, _, sub_eq_ok.2 ⟨hdebt, rfl⟩, sub_eq_ok.2 ⟨hsupply, rfl⟩, le_rfl, le_rfl, hb⟩
  | true =>
      obtain ⟨gas, poolUSDD, hg, -, hp, hb⟩ := withdrawUSDD_book h d c g
      exact ⟨_, _, gas, poolUSDD, rfl, rfl, hg, hp, hb⟩

theorem moveCollFromAdjustment_book {collChange : ℕ}
    (h : moveCollFromAdjustment D m s account collChange isCollIncrease = .ok s') (d c g : ℤ) :
    ∃ activeColl, applyChange (s.book D d c g).activeColl collChange isCollIncrease =
        .ok activeColl ∧
      s'.book D d c g = { s.book D d c g with activeColl := activeColl } := by
  cases isCollIncrease with
  | false =>
      obtain ⟨hle, hb⟩ := ActivePool.sendColl_book h d c g
      exact ⟨_, sub_eq_ok.2 ⟨hle, rfl⟩, hb⟩
  | true => exact ⟨_, rfl, activePoolAddColl_book h d c g⟩

/-- An adjustment leaves the debt above the minimum or does not lower it. -/
theorem requireValidRepayment_eq_ok {debt netDebtChange debt' : ℕ}
    (h : requireValidRepayment s account a debt netDebtChange = .ok ())
    (hnet : a.isDebtIncrease = false → netDebtChange = a.usddChange)
    (hdebt : applyChange debt netDebtChange a.isDebtIncrease = .ok debt') :
    debt ≤ debt' ∨ minNetDebt + usddGasCompensation ≤ debt' := by
  rcases applyChange_eq_ok.1 hdebt with ⟨-, rfl⟩ | ⟨hi, hle, rfl⟩
  · exact Or.inl (Nat.le_add_right _ _)
  · unfold requireValidRepayment at h
    split_ifs at h with hpos
    · obtain ⟨net, hn, h⟩ := bind_eq_ok.1 h
      obtain ⟨net', hn', h⟩ := bind_eq_ok.1 h
      obtain ⟨_, hmin, -⟩ := bind_eq_ok.1 h
      obtain ⟨hle₁, rfl⟩ := sub_eq_ok.1 hn
      obtain ⟨hle₂, rfl⟩ := sub_eq_ok.1 hn'
      have hmin : minNetDebt ≤ debt - usddGasCompensation - netDebtChange := require_eq_ok.1 hmin
      right
      omega
    · have hzero : a.usddChange = 0 := by
        by_contra hne
        exact hpos ⟨hi, Nat.pos_of_ne_zero hne⟩
      rw [hnet hi, hzero]
      exact Or.inl le_rfl

theorem requireValidAdjustment_eq_ok {isRecoveryMode : Bool}
    (h : requireValidAdjustment D m s account a isRecoveryMode = .ok ()) :
    (m.sender = D.stabilityPool → a.usddChange = 0) ∧ s.troveManager.Active account := by
  obtain ⟨_, -, h⟩ := bind_eq_ok.1 h
  obtain ⟨_, hsp, h⟩ := bind_eq_ok.1 h
  obtain ⟨_, -, h⟩ := bind_eq_ok.1 h
  obtain ⟨_, -, h⟩ := bind_eq_ok.1 h
  obtain ⟨_, -, h⟩ := bind_eq_ok.1 h
  refine ⟨fun hm => ?_, require_eq_ok.1 h⟩
  unfold assertCollTransferOfSP at hsp
  rw [if_pos hm] at hsp
  exact (assert_eq_ok.1 hsp).2

theorem getNewNominalICRFromTroveChange_eq_ok {coll debt coll' debt' collChange debtChange nicr : ℕ}
    (h : getNewNominalICRFromTroveChange coll debt collChange isCollIncrease debtChange
      isDebtIncrease = .ok nicr)
    (hcoll : applyChange coll collChange isCollIncrease = .ok coll')
    (hdebt : applyChange debt debtChange isDebtIncrease = .ok debt') :
    nicr = LiquityMath.computeNominalCR coll' debt' := by
  obtain ⟨_, hnew, h⟩ := bind_eq_ok.1 h
  obtain ⟨_, hc, hnew⟩ := bind_eq_ok.1 hnew
  obtain ⟨_, hd, hnew⟩ := bind_eq_ok.1 hnew
  rw [hcoll] at hc
  rw [hdebt] at hd
  cases hc
  cases hd
  cases pure_eq_ok.1 hnew
  exact (pure_eq_ok.1 h).symm

/-- A successful adjustment, taken apart: the rewards are applied, the fee is charged, the trove is
changed and restaked, the list is updated, and then USDD and collateral are moved. -/
theorem adjustTrove_eq_ok (h : adjustTrove D m s account a = .ok s') :
    ∃ s₁ s₂ fee newICR coll debt tm list s₃,
      requireValidAdjustment D m s account a (TroveManager.checkRecoveryMode D s m.price) = .ok () ∧
      TroveManager.applyPendingRewards D s account = .ok s₁ ∧
      chargeBorrowingFee D m s₁ (a.isDebtIncrease && !TroveManager.checkRecoveryMode D s m.price)
        a.usddChange a.maxFeePercentage = .ok (s₂, fee) ∧
      getNewICRFromTroveChange (s₂.troveManager.troves account).coll
        (s₂.troveManager.troves account).debt (getCollChange a.collDeposited a.collWithdrawal).1
        (getCollChange a.collDeposited a.collWithdrawal).2 (a.usddChange + fee) a.isDebtIncrease
        m.price = .ok newICR ∧
      requireValidAdjustmentInCurrentMode D m s₂ (TroveManager.checkRecoveryMode D s m.price)
        a.collWithdrawal a.isDebtIncrease
        (LiquityMath.computeCR (s₂.troveManager.troves account).coll
          (s₂.troveManager.troves account).debt m.price) newICR
        (getCollChange a.collDeposited a.collWithdrawal).1
        (getCollChange a.collDeposited a.collWithdrawal).2 (a.usddChange + fee) = .ok () ∧
      requireValidRepayment s₂ account a (s₂.troveManager.troves account).debt
        (a.usddChange + fee) = .ok () ∧
      applyChange (s₂.troveManager.troves account).coll
        (getCollChange a.collDeposited a.collWithdrawal).1
        (getCollChange a.collDeposited a.collWithdrawal).2 = .ok coll ∧
      applyChange (s₂.troveManager.troves account).debt (a.usddChange + fee) a.isDebtIncrease =
        .ok debt ∧
      TroveManager.updateStakeAndTotalStakes (s₂.troveManager.amended account coll debt) account =
        .ok tm ∧
      SortedTroves.reInsert (TroveManager.getNominalICR tm) s₂.sortedTroves account
        (LiquityMath.computeNominalCR coll debt) a.upperHint a.lowerHint = .ok list ∧
      moveUSDDFromAdjustment D
        { s₂ with
          troveManager := tm
          sortedTroves := list
          journal := .restake (s₂.troveManager.amended account coll debt) account :: s₂.journal }
        m.sender a.usddChange a.isDebtIncrease (a.usddChange + fee) = .ok s₃ ∧
      moveCollFromAdjustment D m s₃ m.sender (getCollChange a.collDeposited a.collWithdrawal).1
        (getCollChange a.collDeposited a.collWithdrawal).2 = .ok s' := by
  obtain ⟨_, hvalid, h⟩ := bind_eq_ok.1 h
  obtain ⟨s₁, h₁, h⟩ := bind_eq_ok.1 h
  obtain ⟨⟨s₂, fee⟩, h₂, h⟩ := bind_eq_ok.1 h
  obtain ⟨newICR, hicr, h⟩ := bind_eq_ok.1 h
  obtain ⟨_, -, h⟩ := bind_eq_ok.1 h
  obtain ⟨_, hmode, h⟩ := bind_eq_ok.1 h
  obtain ⟨_, hrepay, h⟩ := bind_eq_ok.1 h
  obtain ⟨tm₂, htm₂, h⟩ := bind_eq_ok.1 h
  obtain ⟨s₃, h₃, h⟩ := bind_eq_ok.1 h
  obtain ⟨nicr, hnicr, h⟩ := bind_eq_ok.1 h
  obtain ⟨list, hlist, h⟩ := bind_eq_ok.1 h
  obtain ⟨s₄, h₄, h⟩ := bind_eq_ok.1 h
  dsimp only at hicr hmode hrepay htm₂ h₃ hnicr hlist h₄ h
  obtain ⟨coll, debt, hcoll, hdebt, heq⟩ := updateTroveFromAdjustment_eq_ok htm₂
  rw [heq] at h₃
  obtain ⟨tm, hstake, hs₃⟩ := TroveManager.restake_eq_ok h₃
  rw [getNewNominalICRFromTroveChange_eq_ok hnicr hcoll hdebt, hs₃] at hlist
  rw [hs₃] at h₄
  exact ⟨s₁, s₂, fee, newICR, coll, debt, tm, list, s₄, hvalid, h₁, h₂, hicr, hmode, hrepay, hcoll,
    hdebt, hstake, hlist, h₄, h⟩

/-- A fee is added to the debt only when debt is drawn. -/
theorem adjustTrove_netDebtChange {isRecoveryMode : Bool} {s₂ : State} {maxFee amount fee : ℕ}
    (h : chargeBorrowingFee D m s (isDebtIncrease && !isRecoveryMode) amount maxFee =
      .ok (s₂, fee)) (hi : isDebtIncrease = false) : amount + fee = amount := by
  rw [hi, Bool.false_and] at h
  cases pure_eq_ok.1 h
  rfl

theorem adjustTrove_path (hgas : m.sender ≠ D.gasPool)
    (h : adjustTrove D m s account a = .ok s') (d c g : ℤ) :
    Path D (s.book D d c g) (s'.book D d c g) := by
  obtain ⟨s₁, s₂, fee, _, coll, debt, tm₃, list, s₄, hvalid, h₁, h₂, -, -, hrepay, hcoll, hdebt,
    hstake, hlist, h₄, h⟩ := adjustTrove_eq_ok h
  obtain ⟨hsp, hactive⟩ := requireValidAdjustment_eq_ok hvalid
  refine (applyPendingRewards_path hactive h₁ d c g).trans ?_
  have hsnapshot := applyPendingRewards_snapshot hactive h₁
  have hactive := applyPendingRewards_active hactive h₁
  have hnet : a.isDebtIncrease = false → a.usddChange + fee = a.usddChange :=
    adjustTrove_netDebtChange h₂
  obtain ⟨gas₂, pool₂, hgas₂, hpool₂, b₂⟩ := chargeBorrowingFee_book h₂ d c g
  have htm : s₂.troveManager = s₁.troveManager := congrArg Book.troveManager b₂
  have hst : s₂.sortedTroves = s₁.sortedTroves := congrArg Book.sortedTroves b₂
  have hjournal : s₂.journal = s₁.journal := congrArg Book.journal b₂
  rw [htm] at hrepay hcoll hdebt hstake
  rw [hst] at hlist
  have hmin := requireValidRepayment_eq_ok hrepay hnet hdebt
  obtain ⟨activeDebt, supply, gas, poolUSDD, hactiveDebt, hsupply, hgas₄, hpool₄, b₄⟩ :=
    moveUSDDFromAdjustment_book h₄ hnet hgas hsp d c g
  obtain ⟨activeColl, hactiveColl, b₅⟩ := moveCollFromAdjustment_book h d c g
  have b₃ : State.book D
      { s₂ with
        troveManager := tm₃
        sortedTroves := list
        journal := .restake (s₂.troveManager.amended account coll debt) account :: s₂.journal }
      d c g = { s₂.book D d c g with
        troveManager := tm₃
        sortedTroves := list
        journal := .restake (s₁.troveManager.amended account coll debt) account :: s₂.journal } := by
    rw [htm]
    rfl
  rw [b₃, hjournal, b₂] at hactiveDebt hsupply hgas₄ hpool₄ b₄
  rw [b₄] at hactiveColl b₅
  dsimp only at hactiveDebt hsupply hgas₄ hpool₄ hactiveColl
  have hsupply' : supply + (s₁.book D d c g).activeDebt = (s₁.book D d c g).supply + activeDebt := by
    rcases applyChange_eq_ok.1 hsupply with ⟨hi, rfl⟩ | ⟨hi, hle, rfl⟩ <;>
      rcases applyChange_eq_ok.1 hactiveDebt with ⟨hi', rfl⟩ | ⟨hi', hle', rfl⟩
    · omega
    · rw [hi] at hi'
      exact absurd hi'.symm Bool.false_ne_true
    · rw [hi] at hi'
      exact absurd hi' Bool.false_ne_true
    · have hfee := hnet hi
      omega
  have hdebt' : (activeDebt : ℤ) + (s₁.troveManager.troves account).debt + d =
      (s₁.book D d c g).activeDebt + debt + d := by
    exact_mod_cast congrArg (· + d) (congrArg Nat.cast (applyChange_add hactiveDebt hdebt))
  have hcoll' : (activeColl : ℤ) + (s₁.troveManager.troves account).coll + c =
      (s₁.book D d c g).activeColl + coll + c := by
    exact_mod_cast congrArg (· + c) (congrArg Nat.cast (applyChange_add hactiveColl hcoll))
  rw [b₅]
  exact Path.single (Event.amends hactive hsnapshot hmin hstake (fun _ _ => rfl) hlist hdebt' hcoll'
    hsupply' (hgas₂.trans hgas₄) (hpool₂.trans hpool₄))

end Adjust

section Close

theorem repayUSDD_path {usdd : ℕ} (h : repayUSDD D s account usdd = .ok s')
    (hgas : account ≠ D.gasPool) (hpool : account ≠ D.stabilityPool) (d c g : ℤ) :
    Path D (s.book D d c g) (s'.book D (d - usdd) c g) := by
  obtain ⟨hdebt, hsupply, -, hb⟩ := repayUSDD_book h (d - usdd) c g
  rw [if_neg hgas.symm, if_neg hpool.symm, Nat.sub_zero, Nat.sub_zero] at hb
  rw [hb]
  exact Path.single (Event.burnsDebt (b := s.book D d c g) hdebt hsupply)

/-- The reserve of a trove leaves the gas pool and pays the rest of its debt. -/
theorem repayUSDD_gasPool_path (h : repayUSDD D s D.gasPool usddGasCompensation = .ok s')
    (hpool : D.gasPool ≠ D.stabilityPool) (d c g : ℤ) :
    Path D (s.book D d c g) (s'.book D (d - usddGasCompensation) c (g - 1)) := by
  obtain ⟨hdebt, hsupply, -, hb⟩ := repayUSDD_book h (d - usddGasCompensation) c (g - 1)
  rw [if_pos rfl, if_neg hpool.symm, Nat.sub_zero] at hb
  rw [hb]
  have hgas : (s.book D d c g).gas ≤
      (s.book D d c g).gas - usddGasCompensation + 1 * usddGasCompensation := by omega
  exact (Path.single (Event.paysGas hgas le_rfl)).trans
    (Path.single (Event.burnsDebt hdebt hsupply))

theorem closeTrove_eq_ok (h : closeTrove D m s account = .ok s') :
    ∃ s₁ repayment newTCR tm s₂ s₃ s₄,
      s.troveManager.Active m.sender ∧ TroveManager.checkRecoveryMode D s m.price = false ∧
      TroveManager.applyPendingRewards D s m.sender = .ok s₁ ∧
      SafeMath.sub (s₁.troveManager.troves m.sender).debt usddGasCompensation = .ok repayment ∧
      getNewTCRFromTroveChange D s₁ (s₁.troveManager.troves m.sender).coll false
        (s₁.troveManager.troves m.sender).debt false m.price = .ok newTCR ∧ CCR ≤ newTCR ∧
      s₁.troveManager.removeStake m.sender = .ok tm ∧
      TroveManager.closeTrove { s₁ with troveManager := tm } m.sender .closedByOwner = .ok s₂ ∧
      repayUSDD D s₂ m.sender repayment = .ok s₃ ∧
      repayUSDD D s₃ D.gasPool usddGasCompensation = .ok s₄ ∧
      ActivePool.sendColl D D.borrowerOperations s₄ m.sender D.collToken
        (s₁.troveManager.troves m.sender).coll = .ok s' := by
  obtain ⟨_, -, h⟩ := bind_eq_ok.1 h
  obtain ⟨_, hactive, h⟩ := bind_eq_ok.1 h
  obtain ⟨_, hmode, h⟩ := bind_eq_ok.1 h
  obtain ⟨s₁, h₁, h⟩ := bind_eq_ok.1 h
  obtain ⟨repayment, hrepayment, h⟩ := bind_eq_ok.1 h
  obtain ⟨_, -, h⟩ := bind_eq_ok.1 h
  obtain ⟨newTCR, htcr, h⟩ := bind_eq_ok.1 h
  obtain ⟨_, hccr, h⟩ := bind_eq_ok.1 h
  obtain ⟨tm, htm, h⟩ := bind_eq_ok.1 h
  obtain ⟨s₂, h₂, h⟩ := bind_eq_ok.1 h
  obtain ⟨s₃, h₃, h⟩ := bind_eq_ok.1 h
  obtain ⟨s₄, h₄, h⟩ := bind_eq_ok.1 h
  exact ⟨s₁, repayment, newTCR, tm, s₂, s₃, s₄, require_eq_ok.1 hactive, require_eq_ok.1 hmode, h₁,
    hrepayment, htcr, require_eq_ok.1 hccr, htm, h₂, h₃, h₄, h⟩

theorem closeTrove_path (hgas : m.sender ≠ D.gasPool) (hpool : m.sender ≠ D.stabilityPool)
    (hne : D.gasPool ≠ D.stabilityPool) (h : closeTrove D m s account = .ok s') (d c g : ℤ) :
    Path D (s.book D d c g) (s'.book D d c g) := by
  obtain ⟨s₁, repayment, _, tm, s₂, s₃, s₄, hactive, -, h₁, hrepayment, -, -, htm, h₂, h₃, h₄, h⟩ :=
    closeTrove_eq_ok h
  obtain ⟨hle, hrep⟩ := sub_eq_ok.1 hrepayment
  let debt := (s₁.troveManager.troves m.sender).debt
  let coll := (s₁.troveManager.troves m.sender).coll
  have hd : d + debt - repayment - usddGasCompensation = d := by omega
  have hc : c + coll - coll = c := add_sub_cancel_right c _
  have hg : g + 1 - 1 = g := add_sub_cancel_right g 1
  have hpath : Path D (s.book D d c g)
      (s'.book D (d + debt - repayment - usddGasCompensation) (c + coll - coll) (g + 1 - 1)) :=
    (applyPendingRewards_path hactive h₁ d c g).trans <|
      (TroveManager.closeTrove_path htm h₂ d c g).trans <|
      (repayUSDD_path h₃ hgas hpool _ _ _).trans <|
      (repayUSDD_gasPool_path h₄ hne _ _ _).trans (sendColl_path h _ _ _)
  rwa [hd, hc, hg] at hpath

theorem claimCollateral_book (h : claimCollateral D m s account = .ok s') (d c g : ℤ) :
    s'.book D d c g = s.book D d c g := by
  obtain ⟨_, -, h⟩ := bind_eq_ok.1 h
  exact CollSurplusPool.claimColl_book h d c g

end Close

end Usdd.BorrowerOperations

import Usdd.FeeRuns
import Usdd.LibBase.TroveParams
import Usdd.ModeGuards

/-!
# Predictions of troves

The client library reads a trove and the accumulators, adds the pending redistribution and applies
the parameters of a transaction with the borrowing rate in force. What it predicts is what
BorrowerOperations stores, and the nominal ratio of the prediction is the one with which the trove
is entered into the list.
-/

open Transaction

namespace Usdd.LibBase

open TroveManager BorrowerOperations

section Reading

def userTroveStatusFrom : Status → UserTroveStatus
  | .nonExistent => .nonExistent
  | .active => .open
  | .closedByOwner => .closedByOwner
  | .closedByLiquidation => .closedByLiquidation
  | .closedByRedemption => .closedByRedemption

def getTotalRedistributed (tm : TroveManager) : Trove := ⟨⟨tm.lColl⟩, ⟨tm.lUSDDDebt⟩⟩

/-- Only the amounts of an active trove are read. -/
def getTroveBeforeRedistribution (tm : TroveManager) (address : Address) :
    TroveWithPendingRedistribution :=
  let trove := tm.troves address
  let snapshot := tm.rewardSnapshots address
  if trove.status = .active then
    { collateral := ⟨trove.coll⟩
      debt := ⟨trove.debt⟩
      ownerAddress := address
      status := userTroveStatusFrom trove.status
      stake := ⟨trove.stake⟩
      snapshotOfTotalRedistributed := ⟨⟨snapshot.coll⟩, ⟨snapshot.usddDebt⟩⟩ }
  else
    { toTrove := emptyTrove
      ownerAddress := address
      status := userTroveStatusFrom trove.status
      stake := Decimal.zero
      snapshotOfTotalRedistributed := emptyTrove }

def getTrove (tm : TroveManager) (address : Address) : Tx UserTrove :=
  (getTroveBeforeRedistribution tm address).applyRedistribution (getTotalRedistributed tm)

/-- The borrowing rate that the contract charges in the call `m`. -/
def borrowingRateInForce (D : Deployment) (m : Message) (s : State) : Tx ℕ :=
  if checkRecoveryMode D s m.price then pure 0 else getBorrowingRateWithDecay m s.fees

/-- The arguments with which the parameters of an adjustment are sent to the contract. -/
def TroveAdjustmentParams.arguments (params : TroveAdjustmentParams) (maxFeePercentage : ℕ)
    (upperHint lowerHint : Address) : Adjustment where
  collDeposited := (params.depositCollateral.getD Decimal.zero).bigNumber
  collWithdrawal := (params.withdrawCollateral.getD Decimal.zero).bigNumber
  usddChange := ((params.borrowLUSD <|> params.repayLUSD).getD Decimal.zero).bigNumber
  isDebtIncrease := params.borrowLUSD.isSome
  upperHint := upperHint
  lowerHint := lowerHint
  maxFeePercentage := maxFeePercentage

end Reading

variable {D : Deployment} {m : Message} {s s' : State} {account : Address} {rate : ℕ}

section Fees

theorem applyFee_eq (rate amount : ℕ) :
    applyFee ⟨rate⟩ ⟨amount⟩ = ⟨amount + calcBorrowingFee rate amount⟩ := by
  have hpos : 0 < decimalPrecision := by decide
  have hproduct : amount * (decimalPrecision + rate) =
      rate * amount + decimalPrecision * amount := by ring
  unfold applyFee Decimal.mul Decimal.add calcBorrowingFee
  congr 1
  change amount * (decimalPrecision + rate) / decimalPrecision = _
  rw [hproduct, Nat.add_mul_div_left _ _ hpos, Nat.add_comm]

/-- The fee charged is the one at the rate in force. -/
theorem chargeBorrowingFee_rate {s₁ : State} {amount maxFee fee : ℕ}
    (hrate : borrowingRateInForce D m s = .ok rate) (hfees : s₁.fees = s.fees)
    (h : chargeBorrowingFee D m s₁ (!checkRecoveryMode D s m.price) amount maxFee =
      .ok (s', fee)) :
    fee = calcBorrowingFee rate amount := by
  unfold borrowingRateInForce at hrate
  cases hmode : checkRecoveryMode D s m.price with
  | true =>
    rw [hmode] at hrate h
    cases pure_eq_ok.1 h
    cases pure_eq_ok.1 hrate
    unfold calcBorrowingFee
    rw [Nat.zero_mul, Nat.zero_div]
  | false =>
    rw [hmode] at hrate h
    obtain ⟨decayed, hdecayed, hrate⟩ := bind_eq_ok.1 hrate
    cases pure_eq_ok.1 hrate
    obtain ⟨fees, hfees', h⟩ := bind_eq_ok.1 h
    obtain ⟨_, -, h⟩ := bind_eq_ok.1 h
    obtain ⟨_, -, h⟩ := bind_eq_ok.1 h
    obtain ⟨_, -, h⟩ := bind_eq_ok.1 h
    obtain ⟨decayed', hdecayed', rfl⟩ := decayBaseRateFromBorrowing_eq_ok hfees'
    rw [hfees, hdecayed] at hdecayed'
    cases hdecayed'
    cases pure_eq_ok.1 h
    rfl

end Fees

section Reading

/-- Rewards are pending in collateral, or there are none. -/
def RewardsInStep (tm : TroveManager) (account : Address) : Prop :=
  tm.collSnapshots account < tm.lColl ∨
    (tm.lColl = tm.collSnapshots account ∧ tm.lUSDDDebt = tm.debtSnapshots account)

instance (tm : TroveManager) (account : Address) : Decidable (RewardsInStep tm account) :=
  inferInstanceAs (Decidable (_ ∨ _))

theorem getTrove_of_active {tm : TroveManager} (ha : tm.Active account) :
    ∃ user, getTrove tm account = .ok user ∧
      user.toTrove = ⟨⟨tm.currentColl account⟩, ⟨tm.currentDebt account⟩⟩ := by
  have hstatus : (tm.troves account).status = .active := ha
  unfold getTrove getTroveBeforeRedistribution
  rw [if_pos hstatus]
  refine ⟨_, bind_eq_ok.2 ⟨_, bind_eq_ok.2 ⟨_, Trove.subtractAmount_eq _ _,
    bind_eq_ok.2 ⟨_, Trove.subtractAmount_eq _ _, rfl⟩⟩, rfl⟩, ?_⟩
  unfold currentColl currentDebt pendingColl pendingDebt RewardAccumulator.earned
  refine Trove.ext (congrArg Decimal.mk ?_) (congrArg Decimal.mk ?_)
  · change _ + (tm.lColl - tm.collSnapshots account) * tm.stakes account / decimalPrecision = _
    rw [Nat.mul_comm]
  · change _ + (tm.lUSDDDebt - tm.debtSnapshots account) * tm.stakes account /
      decimalPrecision = _
    rw [Nat.mul_comm]

theorem applyPendingRewards_amounts (hin : RewardsInStep s.troveManager account)
    (ha : s.troveManager.Active account) (h : applyPendingRewards D s account = .ok s') :
    (s'.troveManager.troves account).coll = s.troveManager.currentColl account ∧
      (s'.troveManager.troves account).debt = s.troveManager.currentDebt account := by
  rcases applyPendingRewards_book ha h with ⟨rfl, hcoll⟩ | ⟨coll, debt, hcoll, hdebt, hb⟩
  · obtain ⟨heq, hdebt⟩ := hin.resolve_left (Nat.not_lt.2 hcoll)
    rw [currentColl, currentDebt, pendingColl_of_le hcoll, pendingDebt_of_le hdebt.le]
    exact ⟨rfl, rfl⟩
  · have htm : s'.troveManager = s.troveManager.realised account coll debt :=
      congrArg Book.troveManager (hb 0 0 0).2.2
    obtain ⟨-, rfl⟩ := (getPendingCollReward_eq_ok_iff ha).1 hcoll
    obtain ⟨-, rfl⟩ := (getPendingUSDDDebtReward_eq_ok_iff ha).1 hdebt
    rw [htm, realised_self]
    exact ⟨rfl, rfl⟩

end Reading

section Changes

variable (p : TroveAdjustmentParams)

/-- The two collateral arguments move the collateral as the client does. -/
theorem applyChange_collateral {coll coll' : ℕ}
    (h : applyChange coll
      (getCollChange (p.depositCollateral.getD Decimal.zero).bigNumber
        (p.withdrawCollateral.getD Decimal.zero).bigNumber).1
      (getCollChange (p.depositCollateral.getD Decimal.zero).bigNumber
        (p.withdrawCollateral.getD Decimal.zero).bigNumber).2 = .ok coll') :
    coll' = coll + (p.depositCollateral.getD Decimal.zero).bigNumber -
      (p.withdrawCollateral.getD Decimal.zero).bigNumber := by
  have hone : (p.depositCollateral.getD Decimal.zero).bigNumber = 0 ∨
      (p.withdrawCollateral.getD Decimal.zero).bigNumber = 0 := by
    unfold TroveAdjustmentParams.depositCollateral TroveAdjustmentParams.withdrawCollateral
    rcases p.collateralChange with _ | _ | _
    · exact Or.inl rfl
    · exact Or.inr rfl
    · exact Or.inl rfl
  unfold getCollChange at h
  by_cases hdeposit : (p.depositCollateral.getD Decimal.zero).bigNumber = 0
  · rw [if_neg (not_not.2 hdeposit)] at h
    rcases applyChange_eq_ok.1 h with ⟨hfalse, -⟩ | ⟨-, -, rfl⟩
    · exact absurd hfalse Bool.false_ne_true
    · rw [hdeposit, Nat.add_zero]
  · rw [if_pos hdeposit] at h
    rcases applyChange_eq_ok.1 h with ⟨-, rfl⟩ | ⟨htrue, -⟩
    · rw [hone.resolve_left hdeposit, Nat.sub_zero]
    · exact absurd htrue.symm Bool.false_ne_true

/-- The debt argument, with the fee on a borrowed amount, moves the debt as the client does. -/
theorem applyChange_debt {debt debt' fee : ℕ}
    (hborrow : p.borrowLUSD.isSome = true → fee = calcBorrowingFee rate
      ((p.borrowLUSD <|> p.repayLUSD).getD Decimal.zero).bigNumber)
    (hrepay : p.borrowLUSD.isSome = false → fee = 0)
    (h : applyChange debt (((p.borrowLUSD <|> p.repayLUSD).getD Decimal.zero).bigNumber + fee)
      p.borrowLUSD.isSome = .ok debt') :
    debt' = debt + ((p.borrowLUSD.map (applyFee ⟨rate⟩)).getD Decimal.zero).bigNumber -
      (p.repayLUSD.getD Decimal.zero).bigNumber := by
  unfold TroveAdjustmentParams.borrowLUSD TroveAdjustmentParams.repayLUSD at *
  generalize p.debtChange = change at *
  rcases change with _ | amount | amount
  · rw [hrepay rfl] at h
    rcases applyChange_eq_ok.1 h with ⟨hfalse, -⟩ | ⟨-, -, rfl⟩
    · exact absurd hfalse Bool.false_ne_true
    · rfl
  · rw [hborrow rfl] at h
    rw [← pure_eq_ok.1 h]
    change debt + (amount.bigNumber + calcBorrowingFee rate amount.bigNumber) =
      debt + (applyFee ⟨rate⟩ amount).bigNumber - 0
    rw [applyFee_eq, Nat.sub_zero]
  · rw [hrepay rfl] at h
    rcases applyChange_eq_ok.1 h with ⟨hfalse, -⟩ | ⟨-, -, rfl⟩
    · exact absurd hfalse Bool.false_ne_true
    · rfl

end Changes

section Predictions

theorem nominalCollateralRatio_eq (coll debt : ℕ) :
    (Trove.nominalCollateralRatio ⟨⟨coll⟩, ⟨debt⟩⟩).bigNumber =
      LiquityMath.computeNominalCR coll debt := by
  unfold Trove.nominalCollateralRatio Decimal.mulDiv LiquityMath.computeNominalCR
  by_cases h : debt = 0
  · subst h
    rfl
  · have hne : (⟨debt⟩ : Decimal) ≠ Decimal.zero := fun hzero => h (congrArg Decimal.bigNumber hzero)
    rw [if_neg hne, if_pos (Nat.pos_of_ne_zero h)]
    rfl

theorem withdrawUSDD_trove {amount netDebt : ℕ}
    (h : withdrawUSDD D s account amount netDebt = .ok s') :
    s'.troveManager = s.troveManager ∧ s'.sortedTroves = s.sortedTroves := by
  obtain ⟨_, _, -, -, -, hb⟩ := withdrawUSDD_book h 0 0 0
  exact ⟨congrArg Book.troveManager hb, congrArg Book.sortedTroves hb⟩

theorem activePoolAddColl_trove {amount : ℕ} (h : activePoolAddColl D m s amount = .ok s') :
    s'.troveManager = s.troveManager ∧ s'.sortedTroves = s.sortedTroves :=
  ⟨congrArg Book.troveManager (activePoolAddColl_book h 0 0 0),
    congrArg Book.sortedTroves (activePoolAddColl_book h 0 0 0)⟩

theorem moveUSDDFromAdjustment_trove {usddChange netDebtChange : ℕ} {isDebtIncrease : Bool}
    (h : moveUSDDFromAdjustment D s account usddChange isDebtIncrease netDebtChange = .ok s') :
    s'.troveManager = s.troveManager ∧ s'.sortedTroves = s.sortedTroves := by
  cases isDebtIncrease with
  | false =>
    obtain ⟨-, -, -, hb⟩ := repayUSDD_book h 0 0 0
    exact ⟨congrArg Book.troveManager hb, congrArg Book.sortedTroves hb⟩
  | true => exact withdrawUSDD_trove h

theorem moveCollFromAdjustment_trove {collChange : ℕ} {isCollIncrease : Bool}
    (h : moveCollFromAdjustment D m s account collChange isCollIncrease = .ok s') :
    s'.troveManager = s.troveManager ∧ s'.sortedTroves = s.sortedTroves := by
  obtain ⟨_, -, hb⟩ := moveCollFromAdjustment_book h 0 0 0
  exact ⟨congrArg Book.troveManager hb, congrArg Book.sortedTroves hb⟩

theorem applyPendingRewards_sortedTroves (ha : s.troveManager.Active account)
    (h : applyPendingRewards D s account = .ok s') : s'.sortedTroves = s.sortedTroves := by
  rcases applyPendingRewards_book ha h with ⟨rfl, -⟩ | ⟨coll, debt, -, -, hb⟩
  · rfl
  · exact congrArg Book.sortedTroves (hb 0 0 0).2.2

/-- What the client predicts is what is stored. -/
def Stored (t : Trove) (s : State) (account : Address) : Prop :=
  (s.troveManager.troves account).coll = t.collateral.bigNumber ∧
    (s.troveManager.troves account).debt = t.debt.bigNumber

theorem openTrove_predicted {maxFee coll usdd : ℕ} {upperHint lowerHint : Address}
    (hreg : Registry s.troveManager s.sortedTroves)
    (hrate : borrowingRateInForce D m s = .ok rate)
    (h : openTrove D m s account maxFee coll usdd upperHint lowerHint = .ok s') {t : Trove}
    (ht : t = ⟨⟨coll⟩, lusdLiquidationReserve.add (applyFee ⟨rate⟩ ⟨usdd⟩)⟩) :
    Stored t s' account ∧
      SortedTroves.insert (getNominalICR s'.troveManager) s.sortedTroves account
        t.nominalCollateralRatio.bigNumber upperHint lowerHint = .ok s'.sortedTroves := by
  obtain ⟨s₁, fee, tm, list, s₃, s₄, hnew, h₁, -, -, htm, hlist, h₃, h₄, h⟩ := openTrove_eq_ok h
  have hfee := chargeBorrowingFee_rate hrate rfl h₁
  obtain ⟨_, _, -, -, hb⟩ := chargeBorrowingFee_book h₁ 0 0 0
  have htm₁ : s₁.troveManager = s.troveManager := congrArg Book.troveManager hb
  have hlist₁ : s₁.sortedTroves = s.sortedTroves := congrArg Book.sortedTroves hb
  obtain ⟨htm₃, hlist₃⟩ := activePoolAddColl_trove h₃
  obtain ⟨htm₄, hlist₄⟩ := withdrawUSDD_trove h₄
  obtain ⟨htm', hlist'⟩ := withdrawUSDD_trove h
  have htm' : s'.troveManager = tm.addTroveOwnerToArray account := (htm'.trans htm₄).trans htm₃
  have hlist' : s'.sortedTroves = list := (hlist'.trans hlist₄).trans hlist₃
  have hdebt : getCompositeDebt (usdd + fee) =
      (lusdLiquidationReserve.add (applyFee ⟨rate⟩ ⟨usdd⟩)).bigNumber := by
    rw [applyFee_eq, hfee]
    exact Nat.add_comm _ _
  have ht' : t = ⟨⟨coll⟩, ⟨getCompositeDebt (usdd + fee)⟩⟩ := by rw [ht, hdebt]
  have hview : getNominalICR s'.troveManager = getNominalICR tm := by
    rw [htm']
    exact funext (getNominalICR_addTroveOwnerToArray tm account)
  rw [htm₁] at htm
  rw [hlist₁] at hlist
  obtain ⟨hd, hc, hstake, -⟩ := hreg.inactive account hnew
  obtain ⟨stake, -, hentered⟩ := opened_eq_ok hd hc hstake htm
  rw [hview, hlist', ht', nominalCollateralRatio_eq]
  refine ⟨?_, hlist⟩
  unfold Stored
  rw [htm', hentered, entered_self]
  exact ⟨rfl, rfl⟩

theorem adjustTrove_predicted {p : TroveAdjustmentParams} {maxFee : ℕ}
    {upperHint lowerHint : Address} (hin : RewardsInStep s.troveManager account)
    (hrate : borrowingRateInForce D m s = .ok rate)
    (h : adjustTrove D m s account (p.arguments maxFee upperHint lowerHint) = .ok s') {t : Trove}
    (ht : t =
      ⟨⟨s.troveManager.currentColl account + (p.depositCollateral.getD Decimal.zero).bigNumber -
          (p.withdrawCollateral.getD Decimal.zero).bigNumber⟩,
        ⟨s.troveManager.currentDebt account +
          ((p.borrowLUSD.map (applyFee ⟨rate⟩)).getD Decimal.zero).bigNumber -
          (p.repayLUSD.getD Decimal.zero).bigNumber⟩⟩) :
    Stored t s' account ∧
      SortedTroves.reInsert (getNominalICR s'.troveManager) s.sortedTroves account
        t.nominalCollateralRatio.bigNumber upperHint lowerHint = .ok s'.sortedTroves := by
  obtain ⟨s₁, s₂, fee, _, coll, debt, tm, list, s₃, hvalid, h₁, h₂, -, -, -, hcoll, hdebt, hstake,
    hlist, h₃, h⟩ := adjustTrove_eq_ok h
  obtain ⟨-, hactive⟩ := requireValidAdjustment_eq_ok hvalid
  obtain ⟨hcoll₁, hdebt₁⟩ := applyPendingRewards_amounts hin hactive h₁
  obtain ⟨_, _, -, -, hb⟩ := chargeBorrowingFee_book h₂ 0 0 0
  have htm₂ : s₂.troveManager = s₁.troveManager := congrArg Book.troveManager hb
  have hlist₂ : s₂.sortedTroves = s.sortedTroves :=
    (congrArg Book.sortedTroves hb).trans (applyPendingRewards_sortedTroves hactive h₁)
  have hborrow : p.borrowLUSD.isSome = true → fee = calcBorrowingFee rate
      ((p.borrowLUSD <|> p.repayLUSD).getD Decimal.zero).bigNumber := by
    intro hsome
    have hflag : (p.arguments maxFee upperHint lowerHint).isDebtIncrease = true := hsome
    rw [hflag, Bool.true_and] at h₂
    exact chargeBorrowingFee_rate hrate (applyPendingRewards_fees _ h₁) h₂
  have hrepay : p.borrowLUSD.isSome = false → fee = 0 := by
    intro hnone
    have hnet := adjustTrove_netDebtChange h₂ hnone
    omega
  rw [htm₂, hcoll₁] at hcoll
  rw [htm₂, hdebt₁] at hdebt
  have hcoll' := applyChange_collateral p hcoll
  have hdebt' := applyChange_debt p hborrow hrepay hdebt
  have ht' : t = ⟨⟨coll⟩, ⟨debt⟩⟩ := by rw [ht, hcoll', hdebt']
  obtain ⟨htm₃, hlist₃⟩ := moveUSDDFromAdjustment_trove h₃
  obtain ⟨htm', hlist'⟩ := moveCollFromAdjustment_trove h
  have htm' : s'.troveManager = tm := htm'.trans htm₃
  have hlist' : s'.sortedTroves = list := hlist'.trans hlist₃
  obtain ⟨stake, -, -, hrestaked⟩ := amended_eq_ok hstake
  rw [hlist₂] at hlist
  rw [htm', hlist', ht', nominalCollateralRatio_eq]
  refine ⟨?_, hlist⟩
  unfold Stored
  rw [htm', hrestaked, restaked_self]
  exact ⟨rfl, rfl⟩

/-- What the client predicts of a transaction at the rate in force is what the contract stores, and
the ratio of the prediction is the one given to the list. -/
theorem client_troves_agree (hw : D.Wired) (hrate : borrowingRateInForce D m s = .ok rate) :
    (∀ params p maxFee upperHint lowerHint s', Reachable D s →
      normalizeTroveCreation params = .ok p →
      openTrove D m s account maxFee p.depositCollateral.bigNumber p.borrowLUSD.bigNumber upperHint
        lowerHint = .ok s' →
      ∃ t, Trove.create params ⟨rate⟩ = .ok t ∧ Stored t s' account ∧
        SortedTroves.insert (getNominalICR s'.troveManager) s.sortedTroves account
          t.nominalCollateralRatio.bigNumber upperHint lowerHint = .ok s'.sortedTroves) ∧
    (∀ params p maxFee upperHint lowerHint s', RewardsInStep s.troveManager account →
      normalizeTroveAdjustment params = .ok p →
      adjustTrove D m s account (p.arguments maxFee upperHint lowerHint) = .ok s' →
      ∃ user t, getTrove s.troveManager account = .ok user ∧
        user.toTrove.adjust params ⟨rate⟩ = .ok t ∧ Stored t s' account ∧
        SortedTroves.reInsert (getNominalICR s'.troveManager) s.sortedTroves account
          t.nominalCollateralRatio.bigNumber upperHint lowerHint = .ok s'.sortedTroves) := by
  constructor
  · intro params p maxFee upperHint lowerHint s' hreach hp h
    have hreg : Registry s.troveManager s.sortedTroves := (hreach.consistent hw).registry
    exact ⟨_, Trove.create_eq hp ⟨rate⟩, openTrove_predicted hreg hrate h rfl⟩
  · intro params p maxFee upperHint lowerHint s' hin hp h
    obtain ⟨_, _, _, _, _, _, _, _, _, hvalid, -⟩ := adjustTrove_eq_ok h
    obtain ⟨user, huser, htrove⟩ := getTrove_of_active (requireValidAdjustment_eq_ok hvalid).2
    have hadjust := user.toTrove.adjust_eq hp ⟨rate⟩
    rw [htrove] at hadjust
    refine ⟨user, _, huser, ?_, adjustTrove_predicted hin hrate h rfl⟩
    rw [htrove]
    exact hadjust

/-- Draws debt from a trove that has received a redistribution. -/
def sampleParams : List (String × Option Decimalish) :=
  [("depositCollateral", some (.string "0.25".toList)), ("withdrawCollateral", none),
    ("borrowLUSD", some (.decimal ⟨100 * Decimal.digits⟩))]

theorem client_troves_agree_of_sample : ∃ s s' rate user t, sampleRun sampleLiquidation = .ok s ∧
    borrowingRateInForce sampleDeployment ⟨1, 200 * decimalPrecision, 2⟩ s = .ok rate ∧
    getTrove s.troveManager 1 = .ok user ∧ user.toTrove.adjust sampleParams ⟨rate⟩ = .ok t ∧
    Stored t s' 1 := by
  obtain ⟨s, hs, hin, rate, hrate, p, hp, s', hs', -⟩ : ∃ s, sampleRun sampleLiquidation = .ok s ∧
      RewardsInStep s.troveManager 1 ∧
      ∃ rate, borrowingRateInForce sampleDeployment ⟨1, 200 * decimalPrecision, 2⟩ s = .ok rate ∧
      ∃ p, normalizeTroveAdjustment sampleParams = .ok p ∧
      ∃ s', adjustTrove sampleDeployment ⟨1, 200 * decimalPrecision, 2⟩ s 1
        (p.arguments decimalPrecision 0 0) = .ok s' ∧ True := by
    decide +kernel
  obtain ⟨user, t, huser, ht, hstored, -⟩ :=
    (client_troves_agree sampleDeployment_wired hrate).2 _ p _ _ _ s' hin hp hs'
  exact ⟨s, s', rate, user, t, hs, hrate, huser, ht, hstored⟩

end Predictions

end Usdd.LibBase

import Usdd.BorrowerRequires
import Usdd.DevFrontend.ValidateTroveChange
import Usdd.LibBase.TrovePredictions
import Usdd.ProtocolPaths

/-!
# What the validation of the front end guarantees

The validation reads the state of the contracts, and a change that it returns is sent to
BorrowerOperations. An opening passes all requirements. An adjustment or a closure that the
validation returns can still be refused, and `PermittedByContract` says when it is not.
-/

open Transaction

namespace Usdd.DevFrontend

open LibBase (Decimal TroveChange TroveAdjustmentParams unapplyFee applyFee
  lusdLiquidationReserve borrowingRateInForce)
open TroveManager BorrowerOperations

section Acceptance

/-- The checks that a change has passed. -/
structure Accepted (original afterFee newTotal : LibBase.Trove) (change : TroveChange)
    (context : TroveChangeValidationContext) : Prop where
  valid : ¬isInvalidCreation change
  debt : ¬isClosure change → ¬afterFee.debt < lusdMinimumDebt
  ratio : isCreation change ∨ takesOut change →
    ¬collateralRatioIsBelowMinimum afterFee context.price
  total : isCreation change ∨ isAdjustment change →
    ¬collateralRatioIsBelowCritical context.total context.price →
    ¬collateralRatioIsBelowCritical newTotal context.price
  repayment : ¬repaymentTooHigh change context.lusdBalance
  openable : isCreation change → collateralRatioIsBelowCritical context.total context.price →
    isOpenableInRecoveryMode afterFee context.price
  closable : isClosure change → ¬collateralRatioIsBelowCritical context.total context.price
  notLast : isClosure change → context.numberOfTroves ≠ 1
  improves : isAdjustment change → collateralRatioIsBelowCritical context.total context.price →
    ¬collateralRatio afterFee context.price < collateralRatio original context.price

variable {original edited afterFee newTotal : LibBase.Trove} {change change' : TroveChange}
  {context : TroveChangeValidationContext} {description : Option Description}

/-- The cases are the checks in their order. -/
theorem checkChange_accepted
    (h : checkChange original edited afterFee newTotal change context =
      (some change', description)) :
    change' = change ∧ Accepted original afterFee newTotal change context := by
  have hrefused : ∀ pieces, refuse pieces ≠ (some change', description) := by
    intro pieces heq
    cases heq
  unfold checkChange at h
  dsimp only at h
  by_cases hdebt : isInvalidCreation change ∨
      (¬isClosure change ∧ afterFee.debt < lusdMinimumDebt)
  · rw [if_pos hdebt] at h
    exact absurd h (hrefused _)
  rw [if_neg hdebt] at h
  by_cases hratio : (isCreation change ∨ takesOut change) ∧
      collateralRatioIsBelowMinimum afterFee context.price
  · rw [if_pos hratio] at h
    exact absurd h (hrefused _)
  rw [if_neg hratio] at h
  by_cases htotal : (isCreation change ∨ isAdjustment change) ∧
      ¬collateralRatioIsBelowCritical context.total context.price ∧
      collateralRatioIsBelowCritical newTotal context.price
  · rw [if_pos htotal] at h
    exact absurd h (hrefused _)
  rw [if_neg htotal] at h
  by_cases hrepay : repaymentTooHigh change context.lusdBalance
  · rw [if_pos hrepay] at h
    exact absurd h (hrefused _)
  rw [if_neg hrepay] at h
  by_cases hopen : isCreation change ∧
      collateralRatioIsBelowCritical context.total context.price ∧
      ¬isOpenableInRecoveryMode afterFee context.price
  · rw [if_pos hopen] at h
    exact absurd h (hrefused _)
  rw [if_neg hopen] at h
  by_cases hclose : isClosure change ∧
      collateralRatioIsBelowCritical context.total context.price
  · rw [if_pos hclose] at h
    exact absurd h (hrefused _)
  rw [if_neg hclose] at h
  by_cases hlast : isClosure change ∧ context.numberOfTroves = 1
  · rw [if_pos hlast] at h
    exact absurd h (hrefused _)
  rw [if_neg hlast] at h
  by_cases himproves : isAdjustment change ∧
      collateralRatioIsBelowCritical context.total context.price ∧
      collateralRatio afterFee context.price < collateralRatio original context.price
  · rw [if_pos himproves] at h
    exact absurd h (hrefused _)
  rw [if_neg himproves] at h
  refine ⟨(Option.some.inj (congrArg Prod.fst h)).symm, ?_⟩
  exact {
    valid := fun hinvalid => hdebt (Or.inl hinvalid)
    debt := fun hclosure hlow => hdebt (Or.inr ⟨hclosure, hlow⟩)
    ratio := fun hkind hlow => hratio ⟨hkind, hlow⟩
    total := fun hkind hmode hlow => htotal ⟨hkind, hmode, hlow⟩
    repayment := hrepay
    openable := fun hkind hmode => not_not.1 (fun hnot => hopen ⟨hkind, hmode, hnot⟩)
    closable := fun hkind hmode => hclose ⟨hkind, hmode⟩
    notLast := fun hkind hone => hlast ⟨hkind, hone⟩
    improves := fun hkind hmode hlow => himproves ⟨hkind, hmode, hlow⟩ }

/-- A change that the validation returns is one from the original to the edited trove. -/
theorem validateTroveChange_accepted {r : Decimal}
    (h : validateTroveChange original edited r context = .ok (some change, description)) :
    ∃ afterFee others, Describes original edited r change ∧
      original.apply r (some change) = .ok afterFee ∧
      context.total.subtract original = .ok others ∧
      Accepted original afterFee (others.add afterFee) change context := by
  obtain ⟨found, hfound, h⟩ := bind_eq_ok.1 h
  obtain ⟨afterFee, hafter, h⟩ := bind_eq_ok.1 h
  cases found with
  | none => cases pure_eq_ok.1 h
  | some found =>
    obtain ⟨others, hothers, h⟩ := bind_eq_ok.1 h
    obtain ⟨rfl, haccepted⟩ := checkChange_accepted (pure_eq_ok.1 h)
    exact ⟨afterFee, others, whatChanged_describes hfound, hafter, hothers, haccepted⟩

end Acceptance

section Ratios

variable {t : LibBase.Trove} {price : ℕ}

theorem collateralRatio_eq (t : LibBase.Trove) (price : ℕ) :
    (collateralRatio t ⟨price⟩).bigNumber =
      LiquityMath.computeCR t.collateral.bigNumber t.debt.bigNumber price := by
  unfold collateralRatio LibBase.Decimal.mulDiv LiquityMath.computeCR
  by_cases h : t.debt = LibBase.Decimal.zero
  · have hzero : t.debt.bigNumber = 0 := congrArg LibBase.Decimal.bigNumber h
    rw [if_pos h, hzero]
    rfl
  · have hpos : t.debt.bigNumber > 0 :=
      Nat.pos_of_ne_zero (fun hzero => h (LibBase.Decimal.ext hzero))
    rw [if_neg h, if_pos hpos]

theorem collateralRatioIsBelowCritical_iff :
    collateralRatioIsBelowCritical t ⟨price⟩ ↔
      LiquityMath.computeCR t.collateral.bigNumber t.debt.bigNumber price < CCR := by
  rw [← collateralRatio_eq]
  exact Iff.rfl

theorem collateralRatioIsBelowMinimum_iff :
    collateralRatioIsBelowMinimum t ⟨price⟩ ↔
      LiquityMath.computeCR t.collateral.bigNumber t.debt.bigNumber price < MCR := by
  rw [← collateralRatio_eq]
  exact Iff.rfl

end Ratios

section Contract

variable (D : Deployment) (m : Message)

def storedTrove (tm : TroveManager) (account : Address) : LibBase.Trove :=
  ⟨⟨(tm.troves account).coll⟩, ⟨(tm.troves account).debt⟩⟩

/-- What the validation reads for the account that sends the call. -/
def contextOf (s : State) : TroveChangeValidationContext where
  price := ⟨m.price⟩
  total := ⟨⟨getEntireSystemColl D s⟩, ⟨getEntireSystemDebt s⟩⟩
  lusdBalance := ⟨s.usddToken.balances m.sender⟩
  numberOfTroves := s.troveManager.troveOwners.length

/-- The transaction for a change. An invalid creation is never sent. -/
def send (s : State) (change : TroveChange) (maxFeePercentage : ℕ)
    (upperHint lowerHint : Address) : Tx State :=
  match change with
  | .invalidCreation _ _ => pure s
  | .creation params =>
      openTrove D m s m.sender maxFeePercentage params.depositCollateral.bigNumber
        params.borrowLUSD.bigNumber upperHint lowerHint
  | .closure _ => closeTrove D m s m.sender
  | .adjustment params _ =>
      adjustTrove D m s m.sender (params.arguments maxFeePercentage upperHint lowerHint)

/-- The rules of the contract that the validation leaves out. A closure must not take the ratio of
the system below the critical one. In Recovery Mode no collateral may be withdrawn and a borrowing
must leave the trove at the critical ratio, and in Normal Mode also an adjustment that takes nothing
out must leave it at the minimum ratio. -/
def PermittedByContract (original edited : LibBase.Trove)
    (context : TroveChangeValidationContext) : Prop :=
  if original.isEmpty then True
  else if edited.isEmpty then
    ¬collateralRatioIsBelowCritical
      ⟨⟨context.total.collateral.bigNumber - original.collateral.bigNumber⟩,
        ⟨context.total.debt.bigNumber - original.debt.bigNumber⟩⟩ context.price
  else if collateralRatioIsBelowCritical context.total context.price then
    ¬edited.collateral < original.collateral ∧
      (original.debt < edited.debt → ¬collateralRatioIsBelowCritical edited context.price)
  else
    ¬edited.collateral < original.collateral → ¬original.debt < edited.debt →
      ¬collateralRatioIsBelowMinimum edited context.price

instance (original edited : LibBase.Trove) (context : TroveChangeValidationContext) :
    Decidable (PermittedByContract original edited context) :=
  inferInstanceAs (Decidable (ite _ _ _))

end Contract

section Amounts

variable {a b : LibBase.Trove} {params : TroveAdjustmentParams} {rate fee : ℕ}

theorem Adjusts.collDeposited (h : Adjusts a b ⟨rate⟩ params) :
    (params.depositCollateral.getD Decimal.zero).bigNumber =
      b.collateral.bigNumber - a.collateral.bigNumber := by
  rw [h.deposit]
  by_cases hlt : a.collateral < b.collateral
  · rw [if_pos hlt]
    rfl
  · rw [if_neg hlt, Nat.sub_eq_zero_of_le (Nat.le_of_not_lt hlt)]
    rfl

theorem Adjusts.collWithdrawal (h : Adjusts a b ⟨rate⟩ params) :
    (params.withdrawCollateral.getD Decimal.zero).bigNumber =
      a.collateral.bigNumber - b.collateral.bigNumber := by
  rw [h.withdraw]
  by_cases hlt : b.collateral < a.collateral
  · rw [if_pos hlt]
    rfl
  · rw [if_neg hlt, Nat.sub_eq_zero_of_le (Nat.le_of_not_lt hlt)]
    rfl

theorem Adjusts.isDebtIncrease (h : Adjusts a b ⟨rate⟩ params) :
    params.borrowLUSD.isSome = decide (a.debt < b.debt) := by
  rw [h.borrow]
  by_cases hlt : a.debt < b.debt
  · rw [if_pos hlt, decide_eq_true hlt]
    rfl
  · rw [if_neg hlt, decide_eq_false hlt]
    rfl

theorem Adjusts.borrowed (h : Adjusts a b ⟨rate⟩ params) (hlt : a.debt < b.debt) :
    ((params.borrowLUSD <|> params.repayLUSD).getD Decimal.zero) =
      unapplyFee ⟨rate⟩ ⟨b.debt.bigNumber - a.debt.bigNumber⟩ := by
  rw [h.borrow, if_pos hlt]
  rfl

theorem Adjusts.repaid (h : Adjusts a b ⟨rate⟩ params) (hlt : ¬a.debt < b.debt) :
    ((params.borrowLUSD <|> params.repayLUSD).getD Decimal.zero).bigNumber =
      a.debt.bigNumber - b.debt.bigNumber := by
  rw [h.borrow, if_neg hlt, h.repay]
  by_cases hgt : b.debt < a.debt
  · rw [if_pos hgt]
    rfl
  · rw [if_neg hgt, Nat.sub_eq_zero_of_le (Nat.le_of_not_lt hgt)]
    rfl

/-- The parameters lead to the edited trove. -/
theorem Adjusts.leads (h : Adjusts a b ⟨rate⟩ params) : a.Leads b ⟨rate⟩ params where
  collateral := by
    rw [h.collDeposited, h.collWithdrawal]
    omega
  debt := by
    rw [h.borrow, h.repay]
    by_cases hlt : a.debt < b.debt
    · have hle : a.debt.bigNumber < b.debt.bigNumber := hlt
      have hgt : ¬b.debt < a.debt := Nat.lt_asymm hlt
      rw [if_pos hlt, if_neg hgt, Option.map_some, Option.getD_some,
        LibBase.Trove.applyFee_unapplyFee]
      change _ - 0 = _
      dsimp only
      omega
    · have hle : b.debt.bigNumber ≤ a.debt.bigNumber := Nat.le_of_not_lt hlt
      rw [if_neg hlt, Nat.sub_eq_zero_of_le hle, Ratio.overshoot_zero_right]
      by_cases hgt : b.debt < a.debt
      · rw [if_pos hgt]
        change a.debt.bigNumber + 0 - (a.debt.bigNumber - b.debt.bigNumber) = _
        omega
      · have heq : a.debt.bigNumber = b.debt.bigNumber :=
          Nat.le_antisymm (Nat.le_of_not_lt hgt) hle
        rw [if_neg hgt]
        exact heq

theorem Adjusts.applyChange_coll (h : Adjusts a b ⟨rate⟩ params) :
    applyChange a.collateral.bigNumber
      (getCollChange (params.depositCollateral.getD Decimal.zero).bigNumber
        (params.withdrawCollateral.getD Decimal.zero).bigNumber).1
      (getCollChange (params.depositCollateral.getD Decimal.zero).bigNumber
        (params.withdrawCollateral.getD Decimal.zero).bigNumber).2 =
      .ok b.collateral.bigNumber := by
  rw [h.collDeposited, h.collWithdrawal]
  unfold getCollChange
  by_cases hzero : b.collateral.bigNumber - a.collateral.bigNumber = 0
  · rw [if_neg (not_not.2 hzero)]
    exact applyChange_eq_ok.2 (Or.inr ⟨rfl, by omega, by omega⟩)
  · rw [if_pos hzero]
    exact applyChange_eq_ok.2 (Or.inl ⟨rfl, by omega⟩)

/-- With the fee at the given rate on a borrowed amount. -/
theorem Adjusts.applyChange_debt (h : Adjusts a b ⟨rate⟩ params)
    (hborrow : a.debt < b.debt → fee = calcBorrowingFee rate
      ((params.borrowLUSD <|> params.repayLUSD).getD Decimal.zero).bigNumber)
    (hrepay : ¬a.debt < b.debt → fee = 0) :
    applyChange a.debt.bigNumber
      (((params.borrowLUSD <|> params.repayLUSD).getD Decimal.zero).bigNumber + fee)
      params.borrowLUSD.isSome =
      .ok (b.debt.bigNumber + Ratio.overshoot Decimal.digits rate
        (b.debt.bigNumber - a.debt.bigNumber)) := by
  rw [h.isDebtIncrease]
  by_cases hlt : a.debt < b.debt
  · have hle : a.debt.bigNumber < b.debt.bigNumber := hlt
    have hfee := LibBase.applyFee_eq rate
      (unapplyFee ⟨rate⟩ ⟨b.debt.bigNumber - a.debt.bigNumber⟩).bigNumber
    have hround := LibBase.Trove.applyFee_unapplyFee ⟨rate⟩
      ⟨b.debt.bigNumber - a.debt.bigNumber⟩
    have hsum := (congrArg Decimal.bigNumber hfee).symm.trans (congrArg Decimal.bigNumber hround)
    dsimp only at hsum
    rw [hborrow hlt, h.borrowed hlt, decide_eq_true hlt, hsum]
    exact applyChange_eq_ok.2 (Or.inl ⟨rfl, by omega⟩)
  · have hle : b.debt.bigNumber ≤ a.debt.bigNumber := Nat.le_of_not_lt hlt
    rw [hrepay hlt, h.repaid hlt, decide_eq_false hlt, Nat.sub_eq_zero_of_le hle,
      Ratio.overshoot_zero_right]
    exact applyChange_eq_ok.2 (Or.inr ⟨rfl, by omega, by omega⟩)

end Amounts

variable {D : Deployment} {m : Message} {s s₁ s₂ s' : State} {account upperHint lowerHint : Address}
  {rate fee maxFee newTCR : ℕ} {change : TroveChange} {edited afterFee others : LibBase.Trove}
  {params : TroveAdjustmentParams} {description : Option Description}

section Applied

theorem applyPendingRewards_usddToken :
    Ensures (fun s' => s'.usddToken = s.usddToken) (applyPendingRewards D s account) := by
  simp [applyPendingRewards, movePendingTroveRewardsToActivePool, DefaultPool.decreaseUSDDDebt,
    ActivePool.increaseUSDDDebt, DefaultPool.sendToActivePool, ActivePool.receiveColl,
    Token.transfer, requireTroveIsActive, DefaultPool.requireCallerIsTroveManager,
    DefaultPool.requireCallerIsTroveManagerOf, getPendingCollReward, getPendingUSDDDebtReward]

/-- The state in which the rewards of a trove have been applied. -/
structure Applied (D : Deployment) (s s₁ : State) (account : Address) : Prop where
  registry : Registry s₁.troveManager s₁.sortedTroves
  active : s₁.troveManager.Active account ↔ s.troveManager.Active account
  owners : s₁.troveManager.troveOwners = s.troveManager.troveOwners
  totals : totals D s₁ = totals D s
  collLe : (s₁.troveManager.troves account).coll ≤ (BorrowerOperations.totals D s).1
  debtLe : (s₁.troveManager.troves account).debt ≤ (BorrowerOperations.totals D s).2

theorem amounts_le (h : (s.book D 0 0 0).Consistent D) (account : Address) :
    (s.troveManager.troves account).coll ≤ (BorrowerOperations.totals D s).1 ∧
      (s.troveManager.troves account).debt ≤ (BorrowerOperations.totals D s).2 := by
  have hcoll := h.accounts.coll
  have hdebt := h.accounts.debt
  have hcollLe := Finset.single_le_sum (fun a _ => Nat.zero_le (s.troveManager.troves a).coll)
    (Finset.mem_univ account)
  have hdebtLe := Finset.single_le_sum (fun a _ => Nat.zero_le (s.troveManager.troves a).debt)
    (Finset.mem_univ account)
  unfold BorrowerOperations.totals getEntireSystemColl getEntireSystemDebt
  dsimp only [State.book] at *
  constructor <;> omega

theorem applied (hw : D.Wired) (h : Reachable D s)
    (happly : applyPendingRewards D s account = .ok s₁) : Applied D s s₁ account := by
  have hreached := h.reached hw
  by_cases ha : s.troveManager.Active account
  · have hc := (hreached.trans (applyPendingRewards_path ha happly 0 0 0)).consistent
    have hactive := applyPendingRewards_active ha happly
    have htotals := applyPendingRewards_totals ha happly
    have howners : s₁.troveManager.troveOwners = s.troveManager.troveOwners := by
      rcases applyPendingRewards_book ha happly with ⟨rfl, -⟩ | ⟨coll, debt, -, -, hb⟩
      · rfl
      · have htm : s₁.troveManager = s.troveManager.realised account coll debt :=
          congrArg Book.troveManager (hb 0 0 0).2.2
        rw [htm, realised_eq]
    obtain ⟨hcoll, hdebt⟩ := amounts_le hc account
    rw [htotals] at hcoll hdebt
    exact ⟨hc.registry, iff_of_true hactive ha, howners, htotals, hcoll, hdebt⟩
  · have hstatus : (s.troveManager.troves account).status ≠ .active := ha
    have hsame : s₁ = s := by
      unfold applyPendingRewards hasPendingRewards at happly
      rw [if_pos hstatus] at happly
      exact (pure_eq_ok.1 happly).symm
    subst hsame
    obtain ⟨hcoll, hdebt⟩ := amounts_le hreached.consistent account
    exact ⟨hreached.consistent.registry, Iff.rfl, rfl, rfl, hcoll, hdebt⟩

theorem Applied.not_isEmpty_iff (h : Applied D s s₁ account) :
    ¬(storedTrove s₁.troveManager account).isEmpty ↔ s.troveManager.Active account := by
  rw [← h.active]
  constructor
  · intro hne
    by_contra hinactive
    obtain ⟨hdebt, hcoll, -⟩ := h.registry.inactive account hinactive
    exact hne ⟨Decimal.ext hcoll, Decimal.ext hdebt⟩
  · intro hactive hempty
    have hpos := (h.registry.active account hactive).2
    have hzero : (s₁.troveManager.troves account).coll = 0 :=
      congrArg Decimal.bigNumber hempty.1
    omega

end Applied

section Totals

theorem recovery_iff :
    collateralRatioIsBelowCritical (contextOf D m s).total (contextOf D m s).price ↔
      checkRecoveryMode D s m.price = true := by
  unfold checkRecoveryMode getTCR
  rw [decide_eq_true_iff]
  exact collateralRatioIsBelowCritical_iff

/-- The ratio that an adjustment predicts for the system. -/
theorem Adjusts.getNewTCR {t : LibBase.Trove} {usddChange : ℕ}
    (h : Adjusts (storedTrove s₁.troveManager account) edited ⟨rate⟩ params)
    (happlied : Applied D s s₁ account) (htotals : totals D s₂ = totals D s)
    (hcoll : edited.collateral = t.collateral)
    (hdebt : applyChange (storedTrove s₁.troveManager account).debt.bigNumber usddChange
      params.borrowLUSD.isSome = .ok t.debt.bigNumber) :
    getNewTCRFromTroveChange D s₂
      (getCollChange (params.depositCollateral.getD Decimal.zero).bigNumber
        (params.withdrawCollateral.getD Decimal.zero).bigNumber).1
      (getCollChange (params.depositCollateral.getD Decimal.zero).bigNumber
        (params.withdrawCollateral.getD Decimal.zero).bigNumber).2
      usddChange params.borrowLUSD.isSome m.price =
    .ok (LiquityMath.computeCR
      ((totals D s).1 - (storedTrove s₁.troveManager account).collateral.bigNumber +
        t.collateral.bigNumber)
      ((totals D s).2 - (storedTrove s₁.troveManager account).debt.bigNumber +
        t.debt.bigNumber) m.price) := by
  have hcollLe := happlied.collLe
  have hdebtLe := happlied.debtLe
  have hcoll' := applyChange_add_right
    ((totals D s).1 - (s₁.troveManager.troves account).coll) h.applyChange_coll
  have hdebt' := applyChange_add_right
    ((totals D s).2 - (s₁.troveManager.troves account).debt) hdebt
  have hc : (storedTrove s₁.troveManager account).collateral.bigNumber +
      ((totals D s).1 - (s₁.troveManager.troves account).coll) = (totals D s).1 :=
    Nat.add_sub_cancel' hcollLe
  have hd : (storedTrove s₁.troveManager account).debt.bigNumber +
      ((totals D s).2 - (s₁.troveManager.troves account).debt) = (totals D s).2 :=
    Nat.add_sub_cancel' hdebtLe
  rw [hc, hcoll] at hcoll'
  rw [hd] at hdebt'
  rw [getNewTCRFromTroveChange_congr htotals]
  refine bind_eq_ok.2 ⟨_, hcoll', bind_eq_ok.2 ⟨_, hdebt', ?_⟩⟩
  rw [pure_eq_ok, Nat.add_comm, Nat.add_comm t.debt.bigNumber]
  rfl

theorem subtract_eq (x y : LibBase.Trove) :
    x.subtract y = .ok ⟨⟨x.collateral.bigNumber - y.collateral.bigNumber⟩,
      ⟨x.debt.bigNumber - y.debt.bigNumber⟩⟩ :=
  bind_eq_ok.2 ⟨_, LibBase.Trove.subtractAmount_eq _ _,
    bind_eq_ok.2 ⟨_, LibBase.Trove.subtractAmount_eq _ _, rfl⟩⟩

theorem lusdMinimumDebt_eq : lusdMinimumDebt.bigNumber = minNetDebt + usddGasCompensation := by
  decide

end Totals

section Creation

/-- An opening that the validation returns passes. -/
theorem creation_passes (hrate : borrowingRateInForce D m s = .ok rate)
    (happlied : Applied D s s₁ m.sender) {coll usdd : ℕ}
    (hempty : (storedTrove s₁.troveManager m.sender).isEmpty)
    (hafter : afterFee = ⟨⟨coll⟩, lusdLiquidationReserve.add (applyFee ⟨rate⟩ ⟨usdd⟩)⟩)
    (haccepted : Accepted (storedTrove s₁.troveManager m.sender) afterFee
      (LibBase.Trove.add ⟨⟨(totals D s).1⟩, ⟨(totals D s).2⟩⟩ afterFee)
      (.creation ⟨⟨coll⟩, ⟨usdd⟩⟩) (contextOf D m s)) :
    Avoids BorrowerRequire (openTrove D m s m.sender maxFee coll usdd upperHint lowerHint) := by
  have hnew : ¬s.troveManager.Active m.sender :=
    fun hactive => happlied.not_isEmpty_iff.2 hactive hempty
  refine openTrove_passes hnew ?_
  intro s₂ fee hcharge
  have hfee := LibBase.chargeBorrowingFee_rate hrate rfl hcharge
  have hdebt : getCompositeDebt (usdd + fee) =
      (lusdLiquidationReserve.add (applyFee ⟨rate⟩ ⟨usdd⟩)).bigNumber := by
    rw [LibBase.applyFee_eq, hfee]
    exact Nat.add_comm _ _
  have hafter' : afterFee = ⟨⟨coll⟩, ⟨getCompositeDebt (usdd + fee)⟩⟩ := by rw [hafter, hdebt]
  rw [hafter'] at haccepted
  have hlow : ¬(⟨getCompositeDebt (usdd + fee)⟩ : Decimal) < lusdMinimumDebt :=
    haccepted.debt Bool.false_ne_true
  have hmin : lusdMinimumDebt.bigNumber ≤ getCompositeDebt (usdd + fee) := Nat.le_of_not_lt hlow
  rw [lusdMinimumDebt_eq] at hmin
  have htotal : getNewTCRFromTroveChange D s₂ coll true (getCompositeDebt (usdd + fee)) true
      m.price = .ok (LiquityMath.computeCR ((totals D s).1 + coll)
        ((totals D s).2 + getCompositeDebt (usdd + fee)) m.price) := by
    rw [getNewTCRFromTroveChange_congr (chargeBorrowingFee_frame hcharge).1]
    rfl
  have hnet : minNetDebt ≤ usdd + fee := Nat.le_of_add_le_add_right hmin
  refine ⟨hnet, ?_⟩
  unfold requireValidOpening
  dsimp only
  cases hmode : checkRecoveryMode D s m.price with
  | true =>
    have hopen : ¬collateralRatioIsBelowCritical ⟨⟨coll⟩, ⟨getCompositeDebt (usdd + fee)⟩⟩
        ⟨m.price⟩ := haccepted.openable rfl (recovery_iff.2 hmode)
    rw [collateralRatioIsBelowCritical_iff, Nat.not_lt] at hopen
    have hratio : requireICRisAboveCCR
        (LiquityMath.computeCR coll (getCompositeDebt (usdd + fee)) m.price) = .ok () :=
      require_eq_ok.2 hopen
    rw [if_pos rfl, hratio]
    exact avoids_ok ()
  | false =>
    have hnormal : ¬collateralRatioIsBelowCritical (contextOf D m s).total
        (contextOf D m s).price := by
      rw [recovery_iff, hmode]
      exact Bool.false_ne_true
    have hmcr : ¬collateralRatioIsBelowMinimum ⟨⟨coll⟩, ⟨getCompositeDebt (usdd + fee)⟩⟩
        ⟨m.price⟩ := haccepted.ratio (Or.inl rfl)
    have hccr : ¬collateralRatioIsBelowCritical
        ⟨⟨(totals D s).1 + coll⟩, ⟨(totals D s).2 + getCompositeDebt (usdd + fee)⟩⟩
        ⟨m.price⟩ := haccepted.total (Or.inl rfl) hnormal
    rw [collateralRatioIsBelowMinimum_iff, Nat.not_lt] at hmcr
    rw [collateralRatioIsBelowCritical_iff, Nat.not_lt] at hccr
    rw [htotal, ok_bind]
    have hratio : requireICRisAboveMCR
        (LiquityMath.computeCR coll (getCompositeDebt (usdd + fee)) m.price) = .ok () :=
      require_eq_ok.2 hmcr
    have htcr : requireNewTCRisAboveCCR (LiquityMath.computeCR ((totals D s).1 + coll)
        ((totals D s).2 + getCompositeDebt (usdd + fee)) m.price) = .ok () :=
      require_eq_ok.2 hccr
    rw [if_neg Bool.false_ne_true, hratio, ok_bind, htcr]
    exact avoids_ok ()

end Creation

section Closure

/-- A closure passes exactly if the ratio of the system stays at the critical one. -/
theorem closure_passes_iff (happlied : Applied D s s₁ m.sender)
    (happly : applyPendingRewards D s m.sender = .ok s₁)
    (hopen : ¬(storedTrove s₁.troveManager m.sender).isEmpty)
    (hnormal : checkRecoveryMode D s m.price = false)
    (hreserve : usddGasCompensation ≤ (s₁.troveManager.troves m.sender).debt)
    (hbalance : (s₁.troveManager.troves m.sender).debt - usddGasCompensation ≤
      s.usddToken.balances m.sender)
    (hlast : s.troveManager.troveOwners.length ≠ 1) :
    Avoids BorrowerRequire (closeTrove D m s m.sender) ↔
      ¬collateralRatioIsBelowCritical
        ⟨⟨(totals D s).1 - (storedTrove s₁.troveManager m.sender).collateral.bigNumber⟩,
          ⟨(totals D s).2 - (storedTrove s₁.troveManager m.sender).debt.bigNumber⟩⟩
        ⟨m.price⟩ := by
  have hactive := happlied.not_isEmpty_iff.1 hopen
  have hmem := (happlied.registry.mem_owners m.sender).2 (happlied.active.2 hactive)
  have hpos := List.length_pos_of_mem hmem
  have hsize := happlied.registry.size_eq
  have howners := congrArg List.length happlied.owners
  have htcr : getNewTCRFromTroveChange D s₁ (s₁.troveManager.troves m.sender).coll false
      (s₁.troveManager.troves m.sender).debt false m.price = .ok (LiquityMath.computeCR
        ((totals D s).1 - (s₁.troveManager.troves m.sender).coll)
        ((totals D s).2 - (s₁.troveManager.troves m.sender).debt) m.price) := by
    rw [getNewTCRFromTroveChange_congr happlied.totals]
    exact bind_eq_ok.2 ⟨_, sub_eq_ok.2 ⟨happlied.collLe, rfl⟩,
      bind_eq_ok.2 ⟨_, sub_eq_ok.2 ⟨happlied.debtLe, rfl⟩, rfl⟩⟩
  rw [← applyPendingRewards_usddToken _ happly] at hbalance
  rw [closeTrove_passes_iff hactive hnormal happly hreserve hbalance htcr ⟨by omega, by omega⟩,
    collateralRatioIsBelowCritical_iff]
  exact Nat.not_lt.symm

end Closure

section Adjustment

/-- The checks of the current mode, once the new ratio of the system is known. -/
theorem currentMode_passes_iff {recovery isDebtIncrease isCollIncrease : Bool}
    {collWithdrawal oldICR newICR collChange netDebtChange : ℕ}
    (htcr : getNewTCRFromTroveChange D s collChange isCollIncrease netDebtChange isDebtIncrease
      m.price = .ok newTCR) :
    Avoids BorrowerRequire (requireValidAdjustmentInCurrentMode D m s recovery collWithdrawal
      isDebtIncrease oldICR newICR collChange isCollIncrease netDebtChange) ↔
      if recovery then
        collWithdrawal = 0 ∧ (isDebtIncrease = true → CCR ≤ newICR ∧ oldICR ≤ newICR)
      else MCR ≤ newICR ∧ CCR ≤ newTCR := by
  cases recovery with
  | true =>
    simp [requireValidAdjustmentInCurrentMode, requireNoCollWithdrawal, requireICRisAboveCCR,
      requireNewICRisAboveOldICR]
    tauto
  | false =>
    unfold requireValidAdjustmentInCurrentMode
    rw [htcr]
    simp [requireICRisAboveMCR, requireNewTCRisAboveCCR, ok_bind]
    tauto

/-- The checks of a repayment that leaves the minimum. -/
theorem validRepayment_passes {adj : Adjustment} {debt : ℕ}
    (hmin : adj.isDebtIncrease = false →
      minNetDebt + usddGasCompensation + adj.usddChange ≤ debt ∧
      adj.usddChange ≤ s.usddToken.balances account)
    (hfee : adj.isDebtIncrease = false → fee = 0) :
    requireValidRepayment s account adj debt (adj.usddChange + fee) = .ok () := by
  unfold requireValidRepayment
  by_cases hrepay : adj.isDebtIncrease = false ∧ adj.usddChange > 0
  · obtain ⟨hle, hbalance⟩ := hmin hrepay.1
    rw [if_pos hrepay, hfee hrepay.1, Nat.add_zero]
    unfold getNetDebt requireAtLeastMinNetDebt requireValidUSDDRepayment
      requireSufficientUSDDBalance
    refine bind_eq_ok.2 ⟨_, sub_eq_ok.2 ⟨by omega, rfl⟩, bind_eq_ok.2
      ⟨_, sub_eq_ok.2 ⟨by omega, rfl⟩, bind_eq_ok.2 ⟨(), require_eq_ok.2 (by omega), ?_⟩⟩⟩
    refine bind_eq_ok.2 ⟨(), bind_eq_ok.2 ⟨_, sub_eq_ok.2 ⟨by omega, rfl⟩,
      require_eq_ok.2 (by omega)⟩, require_eq_ok.2 hbalance⟩
  · rw [if_neg hrepay]
    rfl

theorem unapplyFee_pos {amount : ℕ} (hpos : 0 < amount) :
    0 < (unapplyFee ⟨rate⟩ ⟨amount⟩).bigNumber := by
  have hround := LibBase.Trove.applyFee_unapplyFee ⟨rate⟩ ⟨amount⟩
  by_contra hzero
  have hzero : (unapplyFee ⟨rate⟩ ⟨amount⟩) = ⟨0⟩ := Decimal.ext (Nat.eq_zero_of_not_pos hzero)
  rw [hzero, LibBase.applyFee_eq] at hround
  have hsum := congrArg Decimal.bigNumber hround
  unfold calcBorrowingFee at hsum
  rw [Nat.mul_zero, Nat.zero_div] at hsum
  dsimp only at hsum
  omega

/-- The arguments of an adjustment that the validation returns are accepted. -/
theorem Adjusts.valid {a : LibBase.Trove} (h : Adjusts a edited ⟨rate⟩ params)
    (hdiff : ¬(a.collateral = edited.collateral ∧ a.debt = edited.debt))
    (hsender : m.sender ∉ D.contracts) (hactive : s.troveManager.Active m.sender)
    (hfee : requireValidMaxFeePercentage maxFee (checkRecoveryMode D s m.price) = .ok ()) :
    requireValidAdjustment D m s m.sender (params.arguments maxFee upperHint lowerHint)
      (checkRecoveryMode D s m.price) = .ok () := by
  have hpool : m.sender ≠ D.stabilityPool := by
    intro heq
    exact hsender (by simp [heq, Deployment.contracts])
  have hdeposit := h.collDeposited
  have hwithdrawal := h.collWithdrawal
  have hincrease := h.isDebtIncrease
  unfold requireValidAdjustment requireCallerIsBorrowerOrGwOrSP assertCollTransferOfSP
    requireValidDebtIncrease requireSingularCollChange requireNonZeroAdjustment
    requireTroveisActive requireNonZeroDebtChange LibBase.TroveAdjustmentParams.arguments
  dsimp only
  rw [if_neg hpool, hdeposit, hwithdrawal, hincrease, hfee]
  refine bind_eq_ok.2 ⟨(), require_eq_ok.2 (Or.inl rfl), bind_eq_ok.2 ⟨(), rfl, ?_⟩⟩
  have hchange : a.debt ≠ edited.debt →
      0 < ((params.borrowLUSD <|> params.repayLUSD).getD Decimal.zero).bigNumber := by
    intro hne
    by_cases hlt : a.debt < edited.debt
    · have hlt' : a.debt.bigNumber < edited.debt.bigNumber := hlt
      rw [h.borrowed hlt]
      exact unapplyFee_pos (Nat.sub_pos_of_lt hlt')
    · have hle : edited.debt.bigNumber ≤ a.debt.bigNumber := Nat.le_of_not_lt hlt
      have hne' : a.debt.bigNumber ≠ edited.debt.bigNumber := fun heq => hne (Decimal.ext heq)
      rw [h.repaid hlt]
      omega
  refine bind_eq_ok.2 ⟨(), ?_, bind_eq_ok.2 ⟨(), require_eq_ok.2 (by omega), bind_eq_ok.2
    ⟨(), require_eq_ok.2 ?_, require_eq_ok.2 hactive⟩⟩⟩
  · by_cases hlt : a.debt < edited.debt
    · have hne : a.debt ≠ edited.debt := fun heq => (not_lt_of_eq heq).1 hlt
      rw [decide_eq_true hlt, if_pos rfl, ok_bind]
      exact require_eq_ok.2 (hchange hne)
    · rw [decide_eq_false hlt, if_neg Bool.false_ne_true]
      rfl
  · by_cases hcoll : a.collateral = edited.collateral
    · have hpos := hchange (fun heq => hdiff ⟨hcoll, heq⟩)
      omega
    · have hne : a.collateral.bigNumber ≠ edited.collateral.bigNumber :=
        fun heq => hcoll (Decimal.ext heq)
      omega

/-- What the fee leaves in place, and its amount. -/
theorem Adjusts.charged {a : LibBase.Trove} (h : Adjusts a edited ⟨rate⟩ params)
    (hrate : borrowingRateInForce D m s = .ok rate) (hfees : s₁.fees = s.fees)
    (hcharge : chargeBorrowingFee D m s₁
      (params.borrowLUSD.isSome && !checkRecoveryMode D s m.price)
      ((params.borrowLUSD <|> params.repayLUSD).getD Decimal.zero).bigNumber maxFee =
      .ok (s₂, fee)) :
    (a.debt < edited.debt → fee = calcBorrowingFee rate
      ((params.borrowLUSD <|> params.repayLUSD).getD Decimal.zero).bigNumber) ∧
    (¬a.debt < edited.debt → s₂ = s₁ ∧ fee = 0) := by
  rw [h.isDebtIncrease] at hcharge
  constructor
  · intro hlt
    rw [decide_eq_true hlt, Bool.true_and] at hcharge
    exact LibBase.chargeBorrowingFee_rate hrate hfees hcharge
  · intro hlt
    rw [decide_eq_false hlt, Bool.false_and] at hcharge
    cases pure_eq_ok.1 hcharge
    exact ⟨rfl, rfl⟩

/-- What the validation has checked of the repayment. -/
theorem Accepted.repayment_le {a newTotal : LibBase.Trove} {setToZero : Option LibBase.ZeroedField}
    (haccepted : Accepted a afterFee newTotal (.adjustment params setToZero) (contextOf D m s))
    (h : Adjusts a edited ⟨rate⟩ params) :
    a.debt.bigNumber - edited.debt.bigNumber ≤ s.usddToken.balances m.sender := by
  by_cases hgt : edited.debt < a.debt
  · have hrepay : changeRepays (.adjustment params setToZero) =
        some ⟨a.debt.bigNumber - edited.debt.bigNumber⟩ := by
      change params.repayLUSD = _
      rw [h.repay, if_pos hgt]
    have hle := haccepted.repayment
    unfold repaymentTooHigh at hle
    rw [hrepay] at hle
    exact Nat.le_of_not_lt (fun hlow => hle (decide_eq_true hlow))
  · have hle : a.debt.bigNumber ≤ edited.debt.bigNumber := Nat.le_of_not_lt hgt
    rw [Nat.sub_eq_zero_of_le hle]
    exact Nat.zero_le _

theorem Accepted.ratio_of_takesOut {a newTotal : LibBase.Trove}
    {setToZero : Option LibBase.ZeroedField} {context : TroveChangeValidationContext}
    (haccepted : Accepted a afterFee newTotal (.adjustment params setToZero) context)
    (h : Adjusts a edited ⟨rate⟩ params)
    (hkind : edited.collateral < a.collateral ∨ a.debt < edited.debt) :
    ¬collateralRatioIsBelowMinimum afterFee context.price := by
  refine haccepted.ratio (Or.inr ?_)
  unfold takesOut
  rcases hkind with hwithdraw | hborrow
  · dsimp only
    rw [h.withdraw, if_pos hwithdraw]
    rfl
  · dsimp only
    rw [h.isDebtIncrease, decide_eq_true hborrow, Bool.or_true]

/-- The checks on the result of an adjustment that the validation returns. Only those of the mode
can still fail. -/
theorem adjustment_checks_iff {setToZero : Option LibBase.ZeroedField} {adj : Adjustment}
    {newICR : ℕ} (hadj : adj = params.arguments maxFee upperHint lowerHint)
    (hrate : borrowingRateInForce D m s = .ok rate) (happlied : Applied D s s₁ m.sender)
    (happly : applyPendingRewards D s m.sender = .ok s₁)
    (h : Adjusts (storedTrove s₁.troveManager m.sender) edited ⟨rate⟩ params)
    (hcoll : edited.collateral = afterFee.collateral)
    (hdebt : afterFee.debt.bigNumber = edited.debt.bigNumber + Ratio.overshoot Decimal.digits rate
      (edited.debt.bigNumber - (storedTrove s₁.troveManager m.sender).debt.bigNumber))
    (haccepted : Accepted (storedTrove s₁.troveManager m.sender) afterFee
      (LibBase.Trove.add
        ⟨⟨(totals D s).1 - (storedTrove s₁.troveManager m.sender).collateral.bigNumber⟩,
          ⟨(totals D s).2 - (storedTrove s₁.troveManager m.sender).debt.bigNumber⟩⟩ afterFee)
      (.adjustment params setToZero) (contextOf D m s))
    (hcharge : chargeBorrowingFee D m s₁
      (adj.isDebtIncrease && !checkRecoveryMode D s m.price) adj.usddChange
      adj.maxFeePercentage = .ok (s₂, fee))
    (hicr : getNewICRFromTroveChange (s₂.troveManager.troves m.sender).coll
      (s₂.troveManager.troves m.sender).debt
      (getCollChange adj.collDeposited adj.collWithdrawal).1
      (getCollChange adj.collDeposited adj.collWithdrawal).2 (adj.usddChange + fee)
      adj.isDebtIncrease m.price = .ok newICR) :
    Avoids BorrowerRequire (do
      requireValidAdjustmentInCurrentMode D m s₂ (checkRecoveryMode D s m.price)
        adj.collWithdrawal adj.isDebtIncrease
        (LiquityMath.computeCR (s₂.troveManager.troves m.sender).coll
          (s₂.troveManager.troves m.sender).debt m.price) newICR
        (getCollChange adj.collDeposited adj.collWithdrawal).1
        (getCollChange adj.collDeposited adj.collWithdrawal).2 (adj.usddChange + fee)
      requireValidRepayment s₂ m.sender adj (s₂.troveManager.troves m.sender).debt
        (adj.usddChange + fee)) ↔
    if checkRecoveryMode D s m.price then
      ¬edited.collateral < (storedTrove s₁.troveManager m.sender).collateral ∧
        ((storedTrove s₁.troveManager m.sender).debt < edited.debt →
          ¬collateralRatioIsBelowCritical afterFee ⟨m.price⟩)
    else ¬collateralRatioIsBelowMinimum afterFee ⟨m.price⟩ := by
  subst hadj
  unfold LibBase.TroveAdjustmentParams.arguments at *
  dsimp only at *
  obtain ⟨hborrow, hrepay⟩ := h.charged hrate (applyPendingRewards_fees _ happly) hcharge
  obtain ⟨htotals, htm⟩ := chargeBorrowingFee_frame hcharge
  have htotals' : totals D s₂ = totals D s := htotals.trans happlied.totals
  have hchange := h.applyChange_debt hborrow (fun hlt => (hrepay hlt).2)
  rw [← hdebt] at hchange
  have hcollChange := h.applyChange_coll
  rw [hcoll] at hcollChange
  have htcr := h.getNewTCR (m := m) happlied htotals' hcoll hchange
  rw [htm] at hicr ⊢
  have hnewICR : newICR = LiquityMath.computeCR afterFee.collateral.bigNumber
      afterFee.debt.bigNumber m.price :=
    getNewICRFromTroveChange_eq_ok hicr hcollChange hchange
  have hrepayment : requireValidRepayment s₂ m.sender
      (params.arguments maxFee upperHint lowerHint) (s₁.troveManager.troves m.sender).debt
      ((params.arguments maxFee upperHint lowerHint).usddChange + fee) = .ok () := by
    have hnot : (params.arguments maxFee upperHint lowerHint).isDebtIncrease = false →
        ¬(storedTrove s₁.troveManager m.sender).debt < edited.debt := by
      intro hfalse hlt
      have hsome : params.borrowLUSD.isSome = true := by
        rw [h.isDebtIncrease, decide_eq_true hlt]
      exact Bool.false_ne_true (hfalse.symm.trans hsome)
    refine validRepayment_passes (fun hfalse => ?_) (fun hfalse => (hrepay (hnot hfalse)).2)
    have hle : edited.debt.bigNumber ≤ (storedTrove s₁.troveManager m.sender).debt.bigNumber :=
      Nat.le_of_not_lt (hnot hfalse)
    have hrepaid := h.repaid (hnot hfalse)
    have hbalance := haccepted.repayment_le h
    have hlow : ¬afterFee.debt < lusdMinimumDebt := haccepted.debt Bool.false_ne_true
    have hmin : lusdMinimumDebt.bigNumber ≤ afterFee.debt.bigNumber := Nat.le_of_not_lt hlow
    rw [lusdMinimumDebt_eq, hdebt, Nat.sub_eq_zero_of_le hle, Ratio.overshoot_zero_right] at hmin
    rw [(hrepay (hnot hfalse)).1, applyPendingRewards_usddToken _ happly]
    unfold LibBase.TroveAdjustmentParams.arguments
    dsimp only
    rw [hrepaid]
    refine ⟨?_, hbalance⟩
    change _ ≤ (storedTrove s₁.troveManager m.sender).debt.bigNumber
    omega
  have hrest : ∀ u : Unit, Avoids BorrowerRequire (requireValidRepayment s₂ m.sender
      (params.arguments maxFee upperHint lowerHint) (s₁.troveManager.troves m.sender).debt
      ((params.arguments maxFee upperHint lowerHint).usddChange + fee)) := by
    intro _
    rw [hrepayment]
    exact avoids_ok ()
  refine (avoids_bind_iff.trans (and_iff_left (fun u _ => hrest u))).trans
    ((currentMode_passes_iff htcr).trans ?_)
  have hold : LiquityMath.computeCR (s₁.troveManager.troves m.sender).coll
      (s₁.troveManager.troves m.sender).debt m.price =
      (collateralRatio (storedTrove s₁.troveManager m.sender) ⟨m.price⟩).bigNumber :=
    (collateralRatio_eq (storedTrove s₁.troveManager m.sender) m.price).symm
  have hwithdrawal := h.collWithdrawal
  rw [h.isDebtIncrease, hwithdrawal, collateralRatioIsBelowCritical_iff,
    collateralRatioIsBelowMinimum_iff, hnewICR, hold]
  cases hmode : checkRecoveryMode D s m.price with
  | true =>
    have himproves : ¬collateralRatio afterFee ⟨m.price⟩ <
        collateralRatio (storedTrove s₁.troveManager m.sender) ⟨m.price⟩ :=
      haccepted.improves rfl (recovery_iff.2 hmode)
    have hle : (collateralRatio (storedTrove s₁.troveManager m.sender) ⟨m.price⟩).bigNumber ≤
        LiquityMath.computeCR afterFee.collateral.bigNumber afterFee.debt.bigNumber m.price := by
      rw [← collateralRatio_eq]
      exact Nat.le_of_not_lt himproves
    rw [if_pos rfl, if_pos rfl, decide_eq_true_iff, Nat.sub_eq_zero_iff_le, Nat.not_lt]
    have hcollLe : (storedTrove s₁.troveManager m.sender).collateral.bigNumber ≤
        edited.collateral.bigNumber ↔
        ¬edited.collateral < (storedTrove s₁.troveManager m.sender).collateral := Nat.not_lt.symm
    rw [hcollLe]
    exact and_congr_right (fun _ => imp_congr_right (fun _ => and_iff_left hle))
  | false =>
    have hnormal : ¬collateralRatioIsBelowCritical (contextOf D m s).total
        (contextOf D m s).price := by
      rw [recovery_iff, hmode]
      exact Bool.false_ne_true
    have hccr := haccepted.total (Or.inr rfl) hnormal
    have hccr := (not_congr collateralRatioIsBelowCritical_iff).1 hccr
    rw [if_neg Bool.false_ne_true, if_neg Bool.false_ne_true, Nat.not_lt]
    exact and_iff_left (Nat.le_of_not_lt hccr)

/-- Without a fee the resulting trove is the edited one. -/
theorem Adjusts.uncharged {a : LibBase.Trove} (h : Adjusts a edited ⟨rate⟩ params)
    (hrate : borrowingRateInForce D m s = .ok rate)
    (hcoll : edited.collateral = afterFee.collateral)
    (hdebt : afterFee.debt.bigNumber = edited.debt.bigNumber +
      Ratio.overshoot Decimal.digits rate (edited.debt.bigNumber - a.debt.bigNumber))
    (hquiet : checkRecoveryMode D s m.price = true ∨ ¬a.debt < edited.debt) :
    afterFee = edited ∧ (params.borrowLUSD.isSome && !checkRecoveryMode D s m.price) = false := by
  have hzero : Ratio.overshoot Decimal.digits rate
      (edited.debt.bigNumber - a.debt.bigNumber) = 0 := by
    rcases hquiet with hmode | hlt
    · unfold borrowingRateInForce at hrate
      rw [if_pos hmode] at hrate
      cases pure_eq_ok.1 hrate
      exact Ratio.overshoot_zero_left _ _
    · rw [Nat.sub_eq_zero_of_le (Nat.le_of_not_lt hlt)]
      exact Ratio.overshoot_zero_right _ _
  rw [hzero, Nat.add_zero] at hdebt
  refine ⟨LibBase.Trove.ext hcoll.symm (Decimal.ext hdebt), ?_⟩
  rcases hquiet with hmode | hlt
  · rw [hmode, Bool.not_true, Bool.and_false]
  · rw [h.isDebtIncrease, decide_eq_false hlt, Bool.false_and]

theorem getNewICRFromTroveChange_of_applyChange
    {coll debt collChange debtChange coll' debt' : ℕ} {isCollIncrease isDebtIncrease : Bool}
    (hcoll : applyChange coll collChange isCollIncrease = .ok coll')
    (hdebt : applyChange debt debtChange isDebtIncrease = .ok debt') :
    getNewICRFromTroveChange coll debt collChange isCollIncrease debtChange isDebtIncrease
      m.price = .ok (LiquityMath.computeCR coll' debt' m.price) :=
  bind_eq_ok.2 ⟨(coll', debt'), bind_eq_ok.2 ⟨_, hcoll, bind_eq_ok.2 ⟨_, hdebt, rfl⟩⟩, rfl⟩

/-- The cases are those in which the contract asks for more than the validation. -/
theorem adjustment_passes_iff {setToZero : Option LibBase.ZeroedField}
    (hsender : m.sender ∉ D.contracts)
    (hfee : requireValidMaxFeePercentage maxFee (checkRecoveryMode D s m.price) = .ok ())
    (hrate : borrowingRateInForce D m s = .ok rate) (happlied : Applied D s s₁ m.sender)
    (happly : applyPendingRewards D s m.sender = .ok s₁)
    (hopen : ¬(storedTrove s₁.troveManager m.sender).isEmpty)
    (h : Adjusts (storedTrove s₁.troveManager m.sender) edited ⟨rate⟩ params)
    (hdiff : ¬((storedTrove s₁.troveManager m.sender).collateral = edited.collateral ∧
      (storedTrove s₁.troveManager m.sender).debt = edited.debt))
    (hcoll : edited.collateral = afterFee.collateral)
    (hdebt : afterFee.debt.bigNumber = edited.debt.bigNumber + Ratio.overshoot Decimal.digits rate
      (edited.debt.bigNumber - (storedTrove s₁.troveManager m.sender).debt.bigNumber))
    (haccepted : Accepted (storedTrove s₁.troveManager m.sender) afterFee
      (LibBase.Trove.add
        ⟨⟨(totals D s).1 - (storedTrove s₁.troveManager m.sender).collateral.bigNumber⟩,
          ⟨(totals D s).2 - (storedTrove s₁.troveManager m.sender).debt.bigNumber⟩⟩ afterFee)
      (.adjustment params setToZero) (contextOf D m s)) :
    Avoids BorrowerRequire
      (adjustTrove D m s m.sender (params.arguments maxFee upperHint lowerHint)) ↔
    if checkRecoveryMode D s m.price then
      ¬edited.collateral < (storedTrove s₁.troveManager m.sender).collateral ∧
        ((storedTrove s₁.troveManager m.sender).debt < edited.debt →
          ¬collateralRatioIsBelowCritical edited ⟨m.price⟩)
    else
      ¬edited.collateral < (storedTrove s₁.troveManager m.sender).collateral →
        ¬(storedTrove s₁.troveManager m.sender).debt < edited.debt →
          ¬collateralRatioIsBelowMinimum edited ⟨m.price⟩ := by
  have hactive := happlied.not_isEmpty_iff.1 hopen
  have hvalid : requireValidAdjustment D m s m.sender
      (params.arguments maxFee upperHint lowerHint) (checkRecoveryMode D s m.price) = .ok () :=
    h.valid hdiff hsender hactive hfee
  have hquiet := h.uncharged hrate hcoll hdebt
  have hfees := applyPendingRewards_fees _ happly
  -- What the checks ask for when nothing is charged.
  have hchecks : (checkRecoveryMode D s m.price = true ∨
      ¬(storedTrove s₁.troveManager m.sender).debt < edited.debt) →
      Avoids BorrowerRequire
        (adjustTrove D m s m.sender (params.arguments maxFee upperHint lowerHint)) →
      if checkRecoveryMode D s m.price then
        ¬edited.collateral < (storedTrove s₁.troveManager m.sender).collateral ∧
          ((storedTrove s₁.troveManager m.sender).debt < edited.debt →
            ¬collateralRatioIsBelowCritical edited ⟨m.price⟩)
      else ¬collateralRatioIsBelowMinimum edited ⟨m.price⟩ := by
    intro hkind hall
    obtain ⟨hsame, hflag⟩ := hquiet hkind
    have hcharge : chargeBorrowingFee D m s₁
        (params.borrowLUSD.isSome && !checkRecoveryMode D s m.price)
        ((params.borrowLUSD <|> params.repayLUSD).getD Decimal.zero).bigNumber maxFee =
        .ok (s₁, 0) := by
      rw [hflag]
      rfl
    obtain ⟨hborrow, hrepay⟩ := h.charged hrate hfees hcharge
    have hchange := h.applyChange_debt hborrow (fun hlt => (hrepay hlt).2)
    have hle : (params.withdrawCollateral.getD Decimal.zero).bigNumber ≤
        (s₁.troveManager.troves m.sender).coll := by
      rw [h.collWithdrawal]
      exact Nat.sub_le _ _
    have hicr := getNewICRFromTroveChange_of_applyChange (m := m) h.applyChange_coll hchange
    have hpasses := (adjustTrove_passes_iff hvalid happly).1 hall s₁ 0 hcharge _ hicr hle
    have hresult := (adjustment_checks_iff rfl hrate happlied happly h hcoll hdebt haccepted
      hcharge hicr).1 hpasses
    rw [hsame] at hresult
    exact hresult
  constructor
  · intro hall
    cases hmode : checkRecoveryMode D s m.price with
    | true =>
      have hresult := hchecks (Or.inl hmode) hall
      rw [hmode] at hresult
      exact hresult
    | false =>
      rw [if_neg Bool.false_ne_true]
      intro _ hborrow
      have hresult := hchecks (Or.inr hborrow) hall
      rw [hmode, if_neg Bool.false_ne_true] at hresult
      exact hresult
  · intro hpermitted
    refine (adjustTrove_passes_iff hvalid happly).2 (fun s₂ fee hcharge newICR hicr _ => ?_)
    refine (adjustment_checks_iff rfl hrate happlied happly h hcoll hdebt haccepted hcharge
      hicr).2 ?_
    cases hmode : checkRecoveryMode D s m.price with
    | true =>
      rw [hmode] at hpermitted
      rw [(hquiet (Or.inl hmode)).1]
      exact hpermitted
    | false =>
      rw [hmode, if_neg Bool.false_ne_true] at hpermitted
      rw [if_neg Bool.false_ne_true]
      by_cases hkind : edited.collateral < (storedTrove s₁.troveManager m.sender).collateral ∨
          (storedTrove s₁.troveManager m.sender).debt < edited.debt
      · exact haccepted.ratio_of_takesOut h hkind
      · obtain ⟨hwithdraw, hborrow⟩ := not_or.1 hkind
        rw [(hquiet (Or.inr hborrow)).1]
        exact hpermitted hwithdraw hborrow

end Adjustment

section Soundness

theorem Accepted.closure_repayment_le {a newTotal : LibBase.Trove} {coll : Decimal}
    {repayLUSD : Option Decimal}
    (haccepted : Accepted a afterFee newTotal (.closure ⟨coll, repayLUSD⟩) (contextOf D m s)) :
    (repayLUSD.getD Decimal.zero).bigNumber ≤ s.usddToken.balances m.sender := by
  have hle := haccepted.repayment
  unfold repaymentTooHigh changeRepays at hle
  cases repayLUSD with
  | none => exact Nat.zero_le _
  | some amount => exact Nat.le_of_not_lt (fun hlow => hle (decide_eq_true hlow))

/-- A change that the validation returns passes all requirements of BorrowerOperations exactly if it
respects the rules that the validation leaves out. -/
theorem validateTroveChange_sound_iff (hw : D.Wired) (hreach : Reachable D s)
    (hsender : m.sender ∉ D.contracts) (happly : applyPendingRewards D s m.sender = .ok s₁)
    (hrate : borrowingRateInForce D m s = .ok rate)
    (hfee : requireValidMaxFeePercentage maxFee (checkRecoveryMode D s m.price) = .ok ())
    (h : validateTroveChange (storedTrove s₁.troveManager m.sender) edited ⟨rate⟩
      (contextOf D m s) = .ok (some change, description)) :
    Avoids BorrowerRequire (send D m s change maxFee upperHint lowerHint) ↔
      PermittedByContract (storedTrove s₁.troveManager m.sender) edited (contextOf D m s) := by
  obtain ⟨afterFee, others, hdescribes, hafter, hothers, haccepted⟩ :=
    validateTroveChange_accepted h
  have happlied := applied hw hreach happly
  rw [subtract_eq] at hothers
  cases hothers
  unfold PermittedByContract
  cases hdescribes with
  | invalidCreation error => exact absurd rfl haccepted.valid
  | creation hempty hreserve =>
    rw [if_pos hempty]
    refine iff_of_true ?_ trivial
    have hcoll : (storedTrove s₁.troveManager m.sender).collateral.bigNumber = 0 :=
      congrArg Decimal.bigNumber hempty.1
    have hdebt : (storedTrove s₁.troveManager m.sender).debt.bigNumber = 0 :=
      congrArg Decimal.bigNumber hempty.2
    rw [hcoll, hdebt] at haccepted
    have hcreated : (storedTrove s₁.troveManager m.sender).apply ⟨rate⟩
        (some (.creation ⟨edited.collateral, unapplyFee ⟨rate⟩
          ⟨edited.debt.bigNumber - lusdLiquidationReserve.bigNumber⟩⟩)) =
        .ok ⟨edited.collateral, lusdLiquidationReserve.add (applyFee ⟨rate⟩ (unapplyFee ⟨rate⟩
          ⟨edited.debt.bigNumber - lusdLiquidationReserve.bigNumber⟩))⟩ := if_pos hempty
    exact creation_passes hrate happlied hempty (Except.ok.inj (hafter.symm.trans hcreated))
      haccepted
  | closure hne hempty hreserve hrepay =>
    rw [if_neg hne, if_pos hempty]
    have hnormal : checkRecoveryMode D s m.price = false := by
      have hclosable := haccepted.closable rfl
      rw [recovery_iff] at hclosable
      exact Bool.eq_false_iff.2 hclosable
    have hbalance := haccepted.closure_repayment_le
    rw [hrepay] at hbalance
    exact closure_passes_iff happlied happly hne hnormal hreserve hbalance
      (haccepted.notLast rfl)
  | adjustment hne hopen hdiff hparams hcollateral hdebt =>
    rw [if_neg hne, if_neg hopen]
    obtain ⟨t, ht, hreached, hreachedDebt⟩ := hparams.leads.applyAdjustment hcollateral hdebt
    have hsame : afterFee = t := Except.ok.inj (hafter.symm.trans ht)
    subst hsame
    have hmode : collateralRatioIsBelowCritical (contextOf D m s).total (contextOf D m s).price ↔
        checkRecoveryMode D s m.price = true := recovery_iff
    refine (adjustment_passes_iff hsender hfee hrate happlied happly hne hparams hdiff
      hreached.symm hreachedDebt haccepted).trans ?_
    by_cases hrecovery : checkRecoveryMode D s m.price = true
    · rw [if_pos hrecovery, if_pos (hmode.2 hrecovery)]
      rfl
    · rw [if_neg hrecovery, if_neg (fun hlow => hrecovery (hmode.1 hlow))]
      rfl

def sampleTroves : List Transact :=
  [sampleOpen 1 (100 * decimalPrecision) (1800 * decimalPrecision) (200 * decimalPrecision),
    sampleOpen 2 (15 * decimalPrecision) (1800 * decimalPrecision) (200 * decimalPrecision)]

/-- The price has halved. -/
def sampleOwner : Message := ⟨2, 100 * decimalPrecision, 3⟩

/-- The second trove of `sampleTroves` with more collateral. -/
def toppedUp (coll : ℕ) : LibBase.Trove := ⟨⟨coll * decimalPrecision⟩, ⟨2009 * decimalPrecision⟩⟩

theorem validateTroveChange_sound_of_topUp : ∃ s s₁ rate change description,
    sampleRun sampleTroves = .ok s ∧ applyPendingRewards sampleDeployment s 2 = .ok s₁ ∧
    validateTroveChange (storedTrove s₁.troveManager 2) (toppedUp 25) ⟨rate⟩
      (contextOf sampleDeployment sampleOwner s) = .ok (some change, description) ∧
    Avoids BorrowerRequire (send sampleDeployment sampleOwner s change decimalPrecision 0 0) := by
  obtain ⟨s, hs, s₁, hs₁, rate, hrate, ⟨_, hfee, -⟩, ⟨change, description⟩,
      hvalid, hsome, hrich⟩ : ∃ s,
      sampleRun sampleTroves = .ok s ∧
      ∃ s₁, applyPendingRewards sampleDeployment s 2 = .ok s₁ ∧
      ∃ rate, borrowingRateInForce sampleDeployment sampleOwner s = .ok rate ∧
      (∃ u : Unit, requireValidMaxFeePercentage decimalPrecision
        (checkRecoveryMode sampleDeployment s sampleOwner.price) = .ok u ∧ True) ∧
      ∃ r, validateTroveChange (storedTrove s₁.troveManager 2) (toppedUp 25) ⟨rate⟩
        (contextOf sampleDeployment sampleOwner s) = .ok r ∧ r.1.isSome = true ∧
      PermittedByContract (storedTrove s₁.troveManager 2) (toppedUp 25)
        (contextOf sampleDeployment sampleOwner s) := by
    decide +kernel
  obtain ⟨change, rfl⟩ := Option.isSome_iff_exists.1 hsome
  exact ⟨s, s₁, rate, change, description, hs, hs₁, hvalid,
    (validateTroveChange_sound_iff sampleDeployment_wired (reachable_sampleRun hs)
      (by decide +kernel) hs₁ hrate hfee hvalid).2 hrich⟩

/-- A deposit that leaves the trove below the minimum ratio is returned and refused. -/
theorem validateTroveChange_unsound : ∃ s s₁ rate change description,
    Reachable sampleDeployment s ∧ applyPendingRewards sampleDeployment s 2 = .ok s₁ ∧
    borrowingRateInForce sampleDeployment sampleOwner s = .ok rate ∧
    requireValidMaxFeePercentage decimalPrecision
      (checkRecoveryMode sampleDeployment s sampleOwner.price) = .ok () ∧
    validateTroveChange (storedTrove s₁.troveManager 2) (toppedUp 16) ⟨rate⟩
      (contextOf sampleDeployment sampleOwner s) = .ok (some change, description) ∧
    send sampleDeployment sampleOwner s change decimalPrecision 0 0 = .error (.message
      "BorrowerOps: An operation that would result in ICR < MCR is not permitted") := by
  obtain ⟨s, hs, s₁, hs₁, rate, hrate, ⟨_, hfee, -⟩, ⟨change, description⟩,
      hvalid, hrefused⟩ : ∃ s,
      sampleRun sampleTroves = .ok s ∧
      ∃ s₁, applyPendingRewards sampleDeployment s 2 = .ok s₁ ∧
      ∃ rate, borrowingRateInForce sampleDeployment sampleOwner s = .ok rate ∧
      (∃ u : Unit, requireValidMaxFeePercentage decimalPrecision
        (checkRecoveryMode sampleDeployment s sampleOwner.price) = .ok u ∧ True) ∧
      ∃ r, validateTroveChange (storedTrove s₁.troveManager 2) (toppedUp 16) ⟨rate⟩
        (contextOf sampleDeployment sampleOwner s) = .ok r ∧
      r.1.any (fun change => decide (send sampleDeployment sampleOwner s change decimalPrecision 0 0
        = .error (.message
          "BorrowerOps: An operation that would result in ICR < MCR is not permitted"))) =
        true := by
    decide +kernel
  obtain ⟨change, rfl, hrefused⟩ := Option.any_eq_true _ _ |>.1 hrefused
  exact ⟨s, s₁, rate, change, description, reachable_sampleRun hs, hs₁, hrate, hfee, hvalid,
    of_decide_eq_true hrefused⟩

end Soundness

end Usdd.DevFrontend
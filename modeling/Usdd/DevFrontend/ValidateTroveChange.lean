import Usdd.LibBase.TroveParams

/-!
# Validation of a trove change in the front end

An edited trove is compared with the original one, and the change is refused with a description or
returned with one. The description of an error is a sequence of texts, ratios and amounts.
-/

open Transaction

namespace Usdd.DevFrontend

open LibBase

section Descriptions

inductive Piece
  | text (text : String)
  | percent (ratio : Decimal)
  | amount (value : Decimal)

inductive Description
  | error (pieces : List Piece)
  | adjustment (change : TroveChange)

end Descriptions

structure TroveChangeValidationContext where
  price : Decimal
  total : LibBase.Trove
  lusdBalance : Decimal
  numberOfTroves : ℕ

section Ratios

def minimumCollateralRatio : Decimal := ⟨1100000000000000000⟩

def criticalCollateralRatio : Decimal := ⟨1500000000000000000⟩

def lusdMinimumDebt : Decimal := lusdLiquidationReserve.add ⟨1800 * Decimal.digits⟩

variable (t : LibBase.Trove) (price : Decimal)

def collateralRatio : Decimal := t.collateral.mulDiv price t.debt

def collateralRatioIsBelowMinimum : Prop := collateralRatio t price < minimumCollateralRatio

def collateralRatioIsBelowCritical : Prop := collateralRatio t price < criticalCollateralRatio

def isOpenableInRecoveryMode : Prop := ¬collateralRatio t price < criticalCollateralRatio

instance : Decidable (collateralRatioIsBelowMinimum t price) := inferInstanceAs (Decidable (_ < _))

instance : Decidable (collateralRatioIsBelowCritical t price) := inferInstanceAs (Decidable (_ < _))

instance : Decidable (isOpenableInRecoveryMode t price) := inferInstanceAs (Decidable (¬_))

end Ratios

section Changes

def isCreation : TroveChange → Bool
  | .creation _ => true
  | _ => false

def isInvalidCreation : TroveChange → Bool
  | .invalidCreation _ _ => true
  | _ => false

def isClosure : TroveChange → Bool
  | .closure _ => true
  | _ => false

def isAdjustment : TroveChange → Bool
  | .adjustment _ _ => true
  | _ => false

def changeRepays : TroveChange → Option Decimal
  | .closure params => params.repayLUSD
  | .adjustment params _ => params.repayLUSD
  | _ => none

/-- An adjustment that takes collateral or USDD out. -/
def takesOut : TroveChange → Bool
  | .adjustment params _ => params.withdrawCollateral.isSome || params.borrowLUSD.isSome
  | _ => false

end Changes

section Validation

def refuse (pieces : List Piece) : Option TroveChange × Option Description :=
  (none, some (.error pieces))

def repaymentTooHigh (change : TroveChange) (lusdBalance : Decimal) : Bool :=
  match changeRepays change with
  | some repayLUSD => lusdBalance < repayLUSD
  | none => false

def describeRepayment (edited : LibBase.Trove) (change : TroveChange) (lusdBalance : Decimal) :
    List Piece :=
  let missing : Decimal :=
    ⟨((changeRepays change).getD Decimal.zero).bigNumber - lusdBalance.bigNumber⟩
  if edited.isEmpty then
    [.text "You need ", .amount missing, .text " more to close your Trove."]
  else [.text "The amount you're trying to repay exceeds your balance by ", .amount missing,
    .text "."]

/-- The checks in their order. `newTotal` is the total of the system after the change. -/
def checkChange (original edited afterFee newTotal : LibBase.Trove) (change : TroveChange)
    (context : TroveChangeValidationContext) : Option TroveChange × Option Description :=
  let price := context.price
  let recoveryMode := collateralRatioIsBelowCritical context.total price
  if isInvalidCreation change ∨ (¬isClosure change ∧ afterFee.debt < lusdMinimumDebt) then
    refuse [.text "Debt must be be at least ", .amount lusdMinimumDebt, .text "."]
  else if (isCreation change ∨ takesOut change) ∧
      collateralRatioIsBelowMinimum afterFee price then
    refuse [.text "Collateral ratio must be at least ", .percent minimumCollateralRatio,
      .text "."]
  else if (isCreation change ∨ isAdjustment change) ∧ ¬recoveryMode ∧
      collateralRatioIsBelowCritical newTotal price then
    refuse (if isCreation change then
      [.text ("You're not allowed to open a Trove that would cause the total collateral ratio " ++
        "to fall below "), .percent criticalCollateralRatio,
        .text ". Please increase your collateral ratio."]
    else
      [.text ("The adjustment you're trying to make would cause the total collateral ratio " ++
        "to fall below "), .percent criticalCollateralRatio,
        .text ". Please increase your collateral ratio."])
  else if repaymentTooHigh change context.lusdBalance then
    refuse (describeRepayment edited change context.lusdBalance)
  else if isCreation change ∧ recoveryMode ∧ ¬isOpenableInRecoveryMode afterFee price then
    refuse [.text "You're not allowed to open a Trove with less than ",
      .percent criticalCollateralRatio,
      .text (" collateral ratio during recovery mode. Please increase your collateral " ++
        "ratio.")]
  else if isClosure change ∧ recoveryMode then
    refuse [.text "You're not allowed to close your Trove during recovery mode."]
  else if isClosure change ∧ context.numberOfTroves = 1 then
    refuse [.text ("You're not allowed to close your Trove when there are no other Troves in " ++
      "the system.")]
  else if isAdjustment change ∧ recoveryMode ∧
      collateralRatio afterFee price < collateralRatio original price then
    refuse [.text "You're not allowed to decrease your collateral ratio during recovery mode."]
  else (some change, some (.adjustment change))

def validateTroveChange (original edited : LibBase.Trove) (borrowingRate : Decimal)
    (context : TroveChangeValidationContext) : Tx (Option TroveChange × Option Description) := do
  let change ← original.whatChanged edited borrowingRate
  let afterFee ← original.apply borrowingRate change
  match change with
  | none => pure (none, none)
  | some change =>
      let others ← context.total.subtract original
      pure (checkChange original edited afterFee (others.add afterFee) change context)

end Validation

section Changes

variable {a b : LibBase.Trove} {r : Decimal} {change : TroveChange}

/-- The parameters of an adjustment from `a` to `b`. -/
structure Adjusts (a b : LibBase.Trove) (r : Decimal) (params : TroveAdjustmentParams) : Prop where
  deposit : params.depositCollateral =
    if a.collateral < b.collateral then
      some ⟨b.collateral.bigNumber - a.collateral.bigNumber⟩ else none
  withdraw : params.withdrawCollateral =
    if b.collateral < a.collateral then
      some ⟨a.collateral.bigNumber - b.collateral.bigNumber⟩ else none
  borrow : params.borrowLUSD =
    if a.debt < b.debt then
      some (unapplyFee r ⟨b.debt.bigNumber - a.debt.bigNumber⟩) else none
  repay : params.repayLUSD =
    if b.debt < a.debt then some ⟨a.debt.bigNumber - b.debt.bigNumber⟩ else none

theorem collateralChange_eq_ok {c : CollateralChange} (h : a.collateralChange b = .ok c)
    (hne : a.collateral ≠ b.collateral) :
    (a.collateral < b.collateral ∧
      c = .depositCollateral ⟨b.collateral.bigNumber - a.collateral.bigNumber⟩) ∨
    (b.collateral < a.collateral ∧
      c = .withdrawCollateral ⟨a.collateral.bigNumber - b.collateral.bigNumber⟩) := by
  unfold LibBase.Trove.collateralChange Decimal.sub at h
  by_cases hlt : a.collateral < b.collateral
  · have hle : a.collateral.bigNumber ≤ b.collateral.bigNumber := Nat.le_of_lt hlt
    rw [if_pos hlt, if_pos hle] at h
    exact Or.inl ⟨hlt, (Except.ok.inj h).symm⟩
  · have hle : b.collateral.bigNumber ≤ a.collateral.bigNumber := Nat.le_of_not_lt hlt
    rw [if_neg hlt, if_pos hle] at h
    have hlt' : b.collateral.bigNumber < a.collateral.bigNumber :=
      lt_of_le_of_ne hle (fun heq => hne (Decimal.ext heq.symm))
    exact Or.inr ⟨hlt', (Except.ok.inj h).symm⟩

theorem debtChange_eq_ok {c : DebtChange} (h : a.debtChange b r = .ok c)
    (hne : a.debt ≠ b.debt) :
    (a.debt < b.debt ∧
      c = .borrowLUSD (unapplyFee r ⟨b.debt.bigNumber - a.debt.bigNumber⟩)) ∨
    (b.debt < a.debt ∧ c = .repayLUSD ⟨a.debt.bigNumber - b.debt.bigNumber⟩) := by
  unfold LibBase.Trove.debtChange Decimal.sub at h
  by_cases hlt : a.debt < b.debt
  · have hle : a.debt.bigNumber ≤ b.debt.bigNumber := Nat.le_of_lt hlt
    rw [if_pos hlt, if_pos hle] at h
    exact Or.inl ⟨hlt, (Except.ok.inj h).symm⟩
  · have hle : b.debt.bigNumber ≤ a.debt.bigNumber := Nat.le_of_not_lt hlt
    rw [if_neg hlt, if_pos hle] at h
    have hlt' : b.debt.bigNumber < a.debt.bigNumber :=
      lt_of_le_of_ne hle (fun heq => hne (Decimal.ext heq.symm))
    exact Or.inr ⟨hlt', (Except.ok.inj h).symm⟩

/-- The changes that there can be from `a` to `b`. -/
inductive Describes (a b : LibBase.Trove) (r : Decimal) : TroveChange → Prop
  | invalidCreation (error : TroveCreationError) : Describes a b r (.invalidCreation b error)
  | creation (hempty : a.isEmpty)
      (hreserve : lusdLiquidationReserve.bigNumber ≤ b.debt.bigNumber) :
      Describes a b r (.creation ⟨b.collateral,
        unapplyFee r ⟨b.debt.bigNumber - lusdLiquidationReserve.bigNumber⟩⟩)
  | closure {repayLUSD : Option Decimal} (hne : ¬a.isEmpty) (hempty : b.isEmpty)
      (hreserve : lusdLiquidationReserve.bigNumber ≤ a.debt.bigNumber)
      (hrepay : (repayLUSD.getD Decimal.zero).bigNumber =
        a.debt.bigNumber - lusdLiquidationReserve.bigNumber) :
      Describes a b r (.closure ⟨a.collateral, repayLUSD⟩)
  | adjustment {params : TroveAdjustmentParams} {setToZero : Option ZeroedField}
      (hne : ¬a.isEmpty) (hopen : ¬b.isEmpty) (hdiff : ¬(a.collateral = b.collateral ∧ a.debt = b.debt))
      (hparams : Adjusts a b r params)
      (hcollateral : setToZero = some .collateral → b.collateral = Decimal.zero)
      (hdebt : setToZero = some .debt → b.debt = Decimal.zero) :
      Describes a b r (.adjustment params setToZero)

theorem not_lt_of_eq {x y : Decimal} (h : x = y) : ¬x < y ∧ ¬y < x := by
  subst h
  exact ⟨Nat.lt_irrefl _, Nat.lt_irrefl _⟩

theorem adjusts_debt {c : DebtChange} (h : a.debtChange b r = .ok c)
    (hne : a.debt ≠ b.debt) (heq : a.collateral = b.collateral) : Adjusts a b r (.debt c) := by
  obtain ⟨hlt, hgt⟩ := not_lt_of_eq heq
  rcases debtChange_eq_ok h hne with ⟨hd, rfl⟩ | ⟨hd, rfl⟩
  · have hd' : ¬b.debt < a.debt := Nat.lt_asymm hd
    exact ⟨(if_neg hlt).symm, (if_neg hgt).symm, (if_pos hd).symm, (if_neg hd').symm⟩
  · have hd' : ¬a.debt < b.debt := Nat.lt_asymm hd
    exact ⟨(if_neg hlt).symm, (if_neg hgt).symm, (if_neg hd').symm, (if_pos hd).symm⟩

theorem adjusts_collateral {c : CollateralChange} (h : a.collateralChange b = .ok c)
    (hne : a.collateral ≠ b.collateral) (heq : a.debt = b.debt) :
    Adjusts a b r (.collateral c) := by
  obtain ⟨hlt, hgt⟩ := not_lt_of_eq heq
  rcases collateralChange_eq_ok h hne with ⟨hc, rfl⟩ | ⟨hc, rfl⟩
  · have hc' : ¬b.collateral < a.collateral := Nat.lt_asymm hc
    exact ⟨(if_pos hc).symm, (if_neg hc').symm, (if_neg hlt).symm, (if_neg hgt).symm⟩
  · have hc' : ¬a.collateral < b.collateral := Nat.lt_asymm hc
    exact ⟨(if_neg hc').symm, (if_pos hc).symm, (if_neg hlt).symm, (if_neg hgt).symm⟩

theorem adjusts_both {c : CollateralChange} {c' : DebtChange} (h : a.collateralChange b = .ok c)
    (h' : a.debtChange b r = .ok c') (hne : a.collateral ≠ b.collateral)
    (hne' : a.debt ≠ b.debt) : Adjusts a b r (.both c' c) := by
  rcases collateralChange_eq_ok h hne with ⟨hc, rfl⟩ | ⟨hc, rfl⟩ <;>
    rcases debtChange_eq_ok h' hne' with ⟨hd, rfl⟩ | ⟨hd, rfl⟩ <;>
    constructor <;>
    first
    | exact (if_pos ‹_›).symm
    | exact (if_neg (Nat.lt_asymm ‹_›)).symm

/-- The cases are those of `whatChanged`. -/
theorem whatChanged_describes (h : a.whatChanged b r = .ok (some change)) :
    Describes a b r change := by
  unfold LibBase.Trove.whatChanged at h
  by_cases hsame : a.collateral = b.collateral ∧ a.debt = b.debt
  · rw [if_pos hsame] at h
    cases h
  rw [if_neg hsame] at h
  by_cases hempty : a.isEmpty
  · rw [if_pos hempty] at h
    by_cases hreserve : b.debt < lusdLiquidationReserve
    · rw [if_pos hreserve] at h
      cases h
      exact .invalidCreation _
    · obtain ⟨hle, hnet⟩ := LibBase.Trove.netDebt_eq hreserve
      rw [if_neg hreserve, hnet] at h
      cases h
      exact .creation hempty hle
  rw [if_neg hempty] at h
  by_cases hclosed : b.isEmpty
  · rw [if_pos hclosed] at h
    obtain ⟨netDebt, hnet, h⟩ := bind_eq_ok.1 h
    cases h
    have hreserve : ¬a.debt < lusdLiquidationReserve := by
      intro hlt
      unfold LibBase.Trove.netDebt at hnet
      rw [if_pos hlt] at hnet
      cases hnet
    obtain ⟨hle, hnet'⟩ := LibBase.Trove.netDebt_eq hreserve
    rw [hnet'] at hnet
    have hnet := Except.ok.inj hnet
    subst hnet
    refine .closure hempty hclosed hle ?_
    split_ifs with hzero
    · exact (congrArg Decimal.bigNumber hzero).symm
    · rfl
  rw [if_neg hclosed] at h
  by_cases hcollateral : a.collateral = b.collateral
  · rw [if_pos hcollateral] at h
    obtain ⟨c, hc, h⟩ := bind_eq_ok.1 h
    cases h
    have hdebt : a.debt ≠ b.debt := fun heq => hsame ⟨hcollateral, heq⟩
    refine .adjustment hempty hclosed hsame (adjusts_debt hc hdebt hcollateral) ?_ ?_
    · exact fun hz => absurd (LibBase.Trove.zeroedDebt_eq_some hz).1 (by decide)
    · exact fun hz => (LibBase.Trove.zeroedDebt_eq_some hz).2
  rw [if_neg hcollateral] at h
  by_cases hdebt : a.debt = b.debt
  · rw [if_pos hdebt] at h
    obtain ⟨c, hc, h⟩ := bind_eq_ok.1 h
    cases h
    refine .adjustment hempty hclosed hsame (adjusts_collateral hc hcollateral hdebt) ?_ ?_
    · exact fun hz => (LibBase.Trove.zeroedCollateral_eq_some hz).2
    · exact fun hz => absurd (LibBase.Trove.zeroedCollateral_eq_some hz).1 (by decide)
  · rw [if_neg hdebt] at h
    obtain ⟨c', hc', h⟩ := bind_eq_ok.1 h
    obtain ⟨c, hc, h⟩ := bind_eq_ok.1 h
    cases h
    refine .adjustment hempty hclosed hsame (adjusts_both hc hc' hcollateral hdebt) ?_ ?_
    · intro hz
      rcases LibBase.Trove.zeroed_eq_some hz with ⟨hfield, -⟩ | ⟨-, hzero⟩
      · exact absurd hfield (by decide)
      · exact hzero
    · intro hz
      rcases LibBase.Trove.zeroed_eq_some hz with ⟨-, hzero⟩ | ⟨hfield, -⟩
      · exact hzero
      · exact absurd hfield (by decide)

end Changes

end Usdd.DevFrontend

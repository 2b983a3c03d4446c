import Usdd.LibBase.DecimalString
import Usdd.LibBase.Trove

/-!
# Parameters of trove transactions

The parameters of a transaction are the entries of an object: names with values, which may be
undefined. Normalising them checks the names and makes decimals of the values. `create` and `adjust`
predict the trove that a transaction with given parameters leads to.
-/

open Transaction

namespace Usdd.LibBase

inductive Decimalish
  | decimal (value : Decimal)
  | string (value : List Char)

def Decimal.fromDecimalish : Decimalish → Tx Decimal
  | .decimal value => pure value
  | .string value => Decimal.fromString value

section Entries

def definedEntries (params : List (String × Option Decimalish)) : List (String × Decimalish) :=
  params.filterMap (fun entry => entry.2.map (entry.1, ·))

def quoted (keys : List String) : String :=
  String.intercalate ", " (keys.map (fun k => "'" ++ k ++ "'"))

/-- `params` names the type of the parameters in the error. -/
def checkAllowedKeys (params : String) (allowed : List String)
    (entries : List (String × Decimalish)) : Tx Unit :=
  let badKeys := (entries.map Prod.fst).filter (· ∉ allowed)
  if badKeys.length > 0 then
    .error (.message (params ++ ": property " ++ quoted badKeys ++ " not allowed"))
  else .ok ()

def decimalize (entry : String × Decimalish) : Tx (String × Decimal) := do
  let value ← Decimal.fromDecimalish entry.2
  pure (entry.1, value)

def nonZero (entry : String × Decimal) : Bool := entry.2 ≠ Decimal.zero

/-- The last entry with a name counts. -/
def fromEntries (entries : List (String × Decimal)) (k : String) : Option Decimal :=
  entries.reverse.lookup k

end Entries

section Creation

def allowedTroveCreationKeys : List String := ["depositCollateral", "borrowLUSD"]

def checkAllowedTroveCreationKeys : List (String × Decimalish) → Tx Unit :=
  checkAllowedKeys "TroveCreationParams" allowedTroveCreationKeys

def troveCreationParamsFromEntries (entries : List (String × Decimal)) : Tx TroveCreationParams :=
  let params := fromEntries entries
  let missingKeys := allowedTroveCreationKeys.filter (fun k => (params k).isNone)
  match params "depositCollateral", params "borrowLUSD" with
  | some depositCollateral, some borrowLUSD => .ok ⟨depositCollateral, borrowLUSD⟩
  | _, _ =>
      .error (.message ("TroveCreationParams: property " ++ quoted missingKeys ++ " missing"))

def normalizeTroveCreation (params : List (String × Option Decimalish)) :
    Tx TroveCreationParams := do
  let definedEntries := definedEntries params
  checkAllowedTroveCreationKeys definedEntries
  let nonZeroEntries ← definedEntries.mapM decimalize
  troveCreationParamsFromEntries nonZeroEntries

end Creation

section Adjustment

def allowedTroveAdjustmentKeys : List String :=
  ["depositCollateral", "withdrawCollateral", "borrowLUSD", "repayLUSD"]

def checkAllowedTroveAdjustmentKeys : List (String × Decimalish) → Tx Unit :=
  checkAllowedKeys "TroveAdjustmentParams" allowedTroveAdjustmentKeys

def collateralChangeFrom (params : String → Option Decimal) : Tx (Option CollateralChange) :=
  match params "depositCollateral", params "withdrawCollateral" with
  | some _, some _ =>
      .error (.message ("TroveAdjustmentParams: 'depositCollateral' and 'withdrawCollateral' " ++
        "can't be present at the same time"))
  | some depositCollateral, none => .ok (some (.depositCollateral depositCollateral))
  | none, some withdrawCollateral => .ok (some (.withdrawCollateral withdrawCollateral))
  | none, none => .ok none

def debtChangeFrom (params : String → Option Decimal) : Tx (Option DebtChange) :=
  match params "borrowLUSD", params "repayLUSD" with
  | some _, some _ =>
      .error (.message ("TroveAdjustmentParams: 'borrowLUSD' and 'repayLUSD' " ++
        "can't be present at the same time"))
  | some borrowLUSD, none => .ok (some (.borrowLUSD borrowLUSD))
  | none, some repayLUSD => .ok (some (.repayLUSD repayLUSD))
  | none, none => .ok none

def troveAdjustmentParamsFromEntries (entries : List (String × Decimal)) :
    Tx TroveAdjustmentParams := do
  let params := fromEntries entries
  let collateralChange ← collateralChangeFrom params
  let debtChange ← debtChangeFrom params
  match collateralChange, debtChange with
  | some collateralChange, some debtChange => .ok (.both debtChange collateralChange)
  | some collateralChange, none => .ok (.collateral collateralChange)
  | none, some debtChange => .ok (.debt debtChange)
  | none, none =>
      .error (.message "TroveAdjustmentParams: must include at least one non-zero parameter")

def normalizeTroveAdjustment (params : List (String × Option Decimalish)) :
    Tx TroveAdjustmentParams := do
  let definedEntries := definedEntries params
  checkAllowedTroveAdjustmentKeys definedEntries
  let decimals ← definedEntries.mapM decimalize
  troveAdjustmentParamsFromEntries (decimals.filter nonZero)

end Adjustment

namespace Trove

variable (a : Trove)

def nominalCollateralRatioPrecision : Decimal := ⟨100 * Decimal.digits⟩

def nominalCollateralRatio : Decimal :=
  a.collateral.mulDiv nominalCollateralRatioPrecision a.debt

def multiply (multiplier : Decimal) : Trove :=
  ⟨a.collateral.mul multiplier, a.debt.mul multiplier⟩

def create (params : List (String × Option Decimalish)) (borrowingRate : Decimal) : Tx Trove := do
  let params ← normalizeTroveCreation params
  emptyTrove.apply borrowingRate (some (.creation params))

def adjust (params : List (String × Option Decimalish)) (borrowingRate : Decimal) : Tx Trove := do
  let params ← normalizeTroveAdjustment params
  a.apply borrowingRate (some (.adjustment params none))

theorem create_eq {params : List (String × Option Decimalish)} {p : TroveCreationParams}
    (h : normalizeTroveCreation params = .ok p) (r : Decimal) :
    create params r =
      .ok ⟨p.depositCollateral, lusdLiquidationReserve.add (applyFee r p.borrowLUSD)⟩ := by
  unfold create
  rw [h, ok_bind]
  have hempty : emptyTrove.isEmpty := ⟨rfl, rfl⟩
  rw [apply, if_pos hempty]
  rfl

/-- An adjustment adds and subtracts amounts, but never below zero. -/
theorem adjust_eq {params : List (String × Option Decimalish)} {p : TroveAdjustmentParams}
    (h : normalizeTroveAdjustment params = .ok p) (r : Decimal) :
    a.adjust params r = .ok
      ⟨⟨a.collateral.bigNumber + (p.depositCollateral.getD Decimal.zero).bigNumber -
          (p.withdrawCollateral.getD Decimal.zero).bigNumber⟩,
        ⟨a.debt.bigNumber + ((p.borrowLUSD.map (applyFee r)).getD Decimal.zero).bigNumber -
          (p.repayLUSD.getD Decimal.zero).bigNumber⟩⟩ := by
  unfold adjust
  rw [h, ok_bind]
  exact bind_eq_ok.2 ⟨_, subtractAmount_eq _ _, bind_eq_ok.2 ⟨_, subtractAmount_eq _ _, rfl⟩⟩

end Trove

section Users

inductive UserTroveStatus
  | nonExistent
  | open
  | closedByOwner
  | closedByLiquidation
  | closedByRedemption
  deriving DecidableEq

structure UserTrove extends Trove where
  ownerAddress : Address
  status : UserTroveStatus

structure TroveWithPendingRedistribution extends UserTrove where
  stake : Decimal
  snapshotOfTotalRedistributed : Trove

def TroveWithPendingRedistribution.applyRedistribution (t : TroveWithPendingRedistribution)
    (totalRedistributed : Trove) : Tx UserTrove := do
  let redistributed ← totalRedistributed.subtract t.snapshotOfTotalRedistributed
  let afterRedistribution := t.add (redistributed.multiply t.stake)
  pure ⟨afterRedistribution, t.ownerAddress, t.status⟩

end Users

end Usdd.LibBase

import Usdd.Lib.Ratio
import Usdd.LibBase.Decimal

/-!
# Troves of the client library

`whatChanged` describes the change from one trove to another with the parameters of the transaction
that makes it, and `apply` predicts what the transaction does. A borrowed amount leaves the fee out,
rounded up, and `apply` adds the fee again, rounded down.
-/

open Transaction

namespace Usdd.LibBase

@[ext] structure Trove where
  collateral : Decimal
  debt : Decimal
  deriving DecidableEq, Repr

inductive TroveCreationError
  | missingLiquidationReserve
  deriving DecidableEq, Repr

structure TroveCreationParams where
  depositCollateral : Decimal
  borrowLUSD : Decimal
  deriving DecidableEq, Repr

structure TroveClosureParams where
  withdrawCollateral : Decimal
  repayLUSD : Option Decimal
  deriving DecidableEq, Repr

inductive CollateralChange
  | depositCollateral (amount : Decimal)
  | withdrawCollateral (amount : Decimal)
  deriving DecidableEq, Repr

inductive DebtChange
  | borrowLUSD (amount : Decimal)
  | repayLUSD (amount : Decimal)
  deriving DecidableEq, Repr

/-- At least one of the two changes. -/
inductive TroveAdjustmentParams
  | collateral (change : CollateralChange)
  | debt (change : DebtChange)
  | both (debtChange : DebtChange) (collateralChange : CollateralChange)
  deriving DecidableEq, Repr

namespace TroveAdjustmentParams

def collateralChange : TroveAdjustmentParams → Option CollateralChange
  | collateral change => some change
  | debt _ => none
  | both _ change => some change

def debtChange : TroveAdjustmentParams → Option DebtChange
  | collateral _ => none
  | debt change => some change
  | both change _ => some change

variable (params : TroveAdjustmentParams)

def depositCollateral : Option Decimal :=
  match params.collateralChange with
  | some (.depositCollateral amount) => some amount
  | _ => none

def withdrawCollateral : Option Decimal :=
  match params.collateralChange with
  | some (.withdrawCollateral amount) => some amount
  | _ => none

def borrowLUSD : Option Decimal :=
  match params.debtChange with
  | some (.borrowLUSD amount) => some amount
  | _ => none

def repayLUSD : Option Decimal :=
  match params.debtChange with
  | some (.repayLUSD amount) => some amount
  | _ => none

end TroveAdjustmentParams

inductive ZeroedField
  | collateral
  | debt
  deriving DecidableEq, Repr

inductive TroveChange
  | invalidCreation (invalidTrove : Trove) (error : TroveCreationError)
  | creation (params : TroveCreationParams)
  | closure (params : TroveClosureParams)
  | adjustment (params : TroveAdjustmentParams) (setToZero : Option ZeroedField)
  deriving DecidableEq, Repr

/-- Troves that are equal have no change between them. -/
def validChange : Option TroveChange → Bool
  | some (.invalidCreation _ _) => false
  | _ => true

def applyFee (borrowingRate debtIncrease : Decimal) : Decimal :=
  debtIncrease.mul (Decimal.one.add borrowingRate)

def unapplyFee (borrowingRate debtIncrease : Decimal) : Decimal :=
  debtIncrease.divCeil (Decimal.one.add borrowingRate)

def emptyTrove : Trove := ⟨Decimal.zero, Decimal.zero⟩

namespace Trove

variable (a b : Trove) (borrowingRate : Decimal)

def isEmpty : Prop := a.collateral = Decimal.zero ∧ a.debt = Decimal.zero

instance : Decidable a.isEmpty := inferInstanceAs (Decidable (_ ∧ _))

def netDebt : Tx Decimal :=
  if a.debt < lusdLiquidationReserve then
    .error (.message "netDebt should not be used when debt < 200")
  else a.debt.sub lusdLiquidationReserve

def add : Trove := ⟨a.collateral.add b.collateral, a.debt.add b.debt⟩

def addCollateral (collateral : Decimal) : Trove := ⟨a.collateral.add collateral, a.debt⟩

def addDebt (debt : Decimal) : Trove := ⟨a.collateral, a.debt.add debt⟩

/-- The difference of two amounts, or zero. -/
def subtractAmount (x y : Decimal) : Tx Decimal := if y < x then x.sub y else pure Decimal.zero

def subtract : Tx Trove := do
  let collateral ← subtractAmount a.collateral b.collateral
  let debt ← subtractAmount a.debt b.debt
  pure ⟨collateral, debt⟩

def subtractCollateral (collateral : Decimal) : Tx Trove := do
  let collateral ← subtractAmount a.collateral collateral
  pure ⟨collateral, a.debt⟩

def subtractDebt (debt : Decimal) : Tx Trove := do
  let debt ← subtractAmount a.debt debt
  pure ⟨a.collateral, debt⟩

def setCollateral (collateral : Decimal) : Trove := ⟨collateral, a.debt⟩

def setDebt (debt : Decimal) : Trove := ⟨a.collateral, debt⟩

section Changes

def debtChange : Tx DebtChange :=
  if a.debt < b.debt then do
    let debtIncrease ← b.debt.sub a.debt
    pure (.borrowLUSD (unapplyFee borrowingRate debtIncrease))
  else do
    let debtDecrease ← a.debt.sub b.debt
    pure (.repayLUSD debtDecrease)

def collateralChange : Tx CollateralChange :=
  if a.collateral < b.collateral then do
    let collateralIncrease ← b.collateral.sub a.collateral
    pure (.depositCollateral collateralIncrease)
  else do
    let collateralDecrease ← a.collateral.sub b.collateral
    pure (.withdrawCollateral collateralDecrease)

def zeroedDebt : Option ZeroedField := if b.debt = Decimal.zero then some .debt else none

def zeroedCollateral : Option ZeroedField :=
  if b.collateral = Decimal.zero then some .collateral else none

def whatChanged : Tx (Option TroveChange) :=
  if a.collateral = b.collateral ∧ a.debt = b.debt then pure none
  else if a.isEmpty then
    if b.debt < lusdLiquidationReserve then
      pure (some (.invalidCreation b .missingLiquidationReserve))
    else do
      let netDebt ← b.netDebt
      pure (some (.creation ⟨b.collateral, unapplyFee borrowingRate netDebt⟩))
  else if b.isEmpty then do
    let netDebt ← a.netDebt
    pure (some (.closure
      ⟨a.collateral, if netDebt = Decimal.zero then none else some netDebt⟩))
  else if a.collateral = b.collateral then do
    let debtChange ← a.debtChange b borrowingRate
    pure (some (.adjustment (.debt debtChange) b.zeroedDebt))
  else if a.debt = b.debt then do
    let collateralChange ← a.collateralChange b
    pure (some (.adjustment (.collateral collateralChange) b.zeroedCollateral))
  else do
    let debtChange ← a.debtChange b borrowingRate
    let collateralChange ← a.collateralChange b
    pure (some (.adjustment (.both debtChange collateralChange)
      (b.zeroedDebt <|> b.zeroedCollateral)))

def applyAdjustment (params : TroveAdjustmentParams) (setToZero : Option ZeroedField) :
    Tx Trove :=
  let collateralDecrease := params.withdrawCollateral.getD Decimal.zero
  let collateralIncrease := params.depositCollateral.getD Decimal.zero
  let debtDecrease := params.repayLUSD.getD Decimal.zero
  let debtIncrease := (params.borrowLUSD.map (applyFee borrowingRate)).getD Decimal.zero
  match setToZero with
  | some .collateral =>
      ((a.setCollateral Decimal.zero).addDebt debtIncrease).subtractDebt debtDecrease
  | some .debt =>
      ((a.setDebt Decimal.zero).addCollateral collateralIncrease).subtractCollateral
        collateralDecrease
  | none => (a.add ⟨collateralIncrease, debtIncrease⟩).subtract ⟨collateralDecrease, debtDecrease⟩

def apply : Option TroveChange → Tx Trove
  | none => pure a
  | some (.invalidCreation invalidTrove _) =>
      if a.isEmpty then pure invalidTrove
      else .error (.message "Can't create onto existing Trove")
  | some (.creation params) =>
      if a.isEmpty then
        pure ⟨params.depositCollateral,
          lusdLiquidationReserve.add (applyFee borrowingRate params.borrowLUSD)⟩
      else .error (.message "Can't create onto existing Trove")
  | some (.closure _) =>
      if a.isEmpty then .error (.message "Can't close empty Trove")
      else pure emptyTrove
  | some (.adjustment params setToZero) => a.applyAdjustment borrowingRate params setToZero

end Changes

section Amounts

variable {r : Decimal}

theorem subtractAmount_eq (x y : Decimal) :
    subtractAmount x y = .ok ⟨x.bigNumber - y.bigNumber⟩ := by
  unfold subtractAmount Decimal.sub
  by_cases h : y < x
  · have hle : y.bigNumber ≤ x.bigNumber := Nat.le_of_lt h
    rw [if_pos h, if_pos hle]
  · have hle : x.bigNumber ≤ y.bigNumber := Nat.le_of_not_lt h
    rw [if_neg h, Nat.sub_eq_zero_of_le hle]
    rfl

theorem applyFee_unapplyFee (r x : Decimal) :
    applyFee r (unapplyFee r x) =
      ⟨x.bigNumber + Ratio.overshoot Decimal.digits r.bigNumber x.bigNumber⟩ := by
  have hpos : 0 < Decimal.digits := by decide
  have hne : Decimal.one.add r ≠ Decimal.zero := by
    intro hzero
    have hzero : Decimal.digits + r.bigNumber = 0 := congrArg Decimal.bigNumber hzero
    omega
  unfold applyFee unapplyFee Decimal.divCeil
  rw [if_neg hne]
  exact congrArg Decimal.mk (Ratio.ceil_mul_div hpos)

/-- The parameters lead from `a` to `b`, up to the rounding of the fee. -/
structure Leads (a b : Trove) (r : Decimal) (params : TroveAdjustmentParams) : Prop where
  collateral : a.collateral.bigNumber + (params.depositCollateral.getD Decimal.zero).bigNumber -
    (params.withdrawCollateral.getD Decimal.zero).bigNumber = b.collateral.bigNumber
  debt : a.debt.bigNumber +
    ((params.borrowLUSD.map (applyFee r)).getD Decimal.zero).bigNumber -
    (params.repayLUSD.getD Decimal.zero).bigNumber = b.debt.bigNumber +
      Ratio.overshoot Decimal.digits r.bigNumber (b.debt.bigNumber - a.debt.bigNumber)

variable {a b} {params : TroveAdjustmentParams} {setToZero : Option ZeroedField}

/-- A field that is set to zero is zero in `b` too. -/
theorem Leads.applyAdjustment (h : a.Leads b r params)
    (hcollateral : setToZero = some .collateral → b.collateral = Decimal.zero)
    (hdebt : setToZero = some .debt → b.debt = Decimal.zero) :
    ∃ t, a.applyAdjustment r params setToZero = .ok t ∧ t.collateral = b.collateral ∧
      t.debt.bigNumber = b.debt.bigNumber +
        Ratio.overshoot Decimal.digits r.bigNumber (b.debt.bigNumber - a.debt.bigNumber) := by
  rcases setToZero with _ | _ | _
  · refine ⟨_, bind_eq_ok.2 ⟨_, subtractAmount_eq _ _, bind_eq_ok.2
      ⟨_, subtractAmount_eq _ _, rfl⟩⟩, ?_, ?_⟩
    · exact Decimal.ext h.collateral
    · exact h.debt
  · refine ⟨_, bind_eq_ok.2 ⟨_, subtractAmount_eq _ _, rfl⟩, ?_, ?_⟩
    · exact (hcollateral rfl).symm
    · exact h.debt
  · have hzero : b.debt.bigNumber = 0 := congrArg Decimal.bigNumber (hdebt rfl)
    rw [hzero, Nat.zero_sub, Ratio.overshoot_zero_right]
    refine ⟨_, bind_eq_ok.2 ⟨_, subtractAmount_eq _ _, rfl⟩, ?_, rfl⟩
    exact Decimal.ext h.collateral

theorem debtChange_leads (a b : Trove) (r : Decimal) :
    ∃ change, a.debtChange b r = .ok change ∧ ∀ params : TroveAdjustmentParams,
      params.debtChange = some change → a.debt.bigNumber +
        ((params.borrowLUSD.map (applyFee r)).getD Decimal.zero).bigNumber -
        (params.repayLUSD.getD Decimal.zero).bigNumber = b.debt.bigNumber +
          Ratio.overshoot Decimal.digits r.bigNumber (b.debt.bigNumber - a.debt.bigNumber) := by
  unfold Trove.debtChange Decimal.sub TroveAdjustmentParams.borrowLUSD
    TroveAdjustmentParams.repayLUSD
  by_cases h : a.debt < b.debt
  · have hlt : a.debt.bigNumber < b.debt.bigNumber := h
    rw [if_pos h, if_pos hlt.le]
    refine ⟨_, rfl, fun params hparams => ?_⟩
    rw [hparams]
    show a.debt.bigNumber + (applyFee r (unapplyFee r _)).bigNumber - 0 = _
    rw [applyFee_unapplyFee]
    dsimp only
    omega
  · have hle : b.debt.bigNumber ≤ a.debt.bigNumber := Nat.le_of_not_lt h
    rw [if_neg h, if_pos hle]
    refine ⟨_, rfl, fun params hparams => ?_⟩
    rw [hparams, Nat.sub_eq_zero_of_le hle, Ratio.overshoot_zero_right]
    show a.debt.bigNumber + 0 - (a.debt.bigNumber - b.debt.bigNumber) = _
    omega

theorem collateralChange_leads (a b : Trove) :
    ∃ change, a.collateralChange b = .ok change ∧ ∀ params : TroveAdjustmentParams,
      params.collateralChange = some change → a.collateral.bigNumber +
        (params.depositCollateral.getD Decimal.zero).bigNumber -
        (params.withdrawCollateral.getD Decimal.zero).bigNumber = b.collateral.bigNumber := by
  unfold Trove.collateralChange Decimal.sub TroveAdjustmentParams.depositCollateral
    TroveAdjustmentParams.withdrawCollateral
  by_cases h : a.collateral < b.collateral
  · have hlt : a.collateral.bigNumber < b.collateral.bigNumber := h
    rw [if_pos h, if_pos hlt.le]
    refine ⟨_, rfl, fun params hparams => ?_⟩
    rw [hparams]
    show a.collateral.bigNumber + (b.collateral.bigNumber - a.collateral.bigNumber) - 0 = _
    omega
  · have hle : b.collateral.bigNumber ≤ a.collateral.bigNumber := Nat.le_of_not_lt h
    rw [if_neg h, if_pos hle]
    refine ⟨_, rfl, fun params hparams => ?_⟩
    rw [hparams]
    show a.collateral.bigNumber + 0 - (a.collateral.bigNumber - b.collateral.bigNumber) = _
    omega

end Amounts

section RoundTrip

variable {a b : Trove} {r : Decimal}

/-- The debt that is borrowed with a fee on the way from `a` to `b`. The liquidation reserve of a
new trove is free of the fee. -/
def debtIncrease (a b : Trove) : ℕ :=
  if a.isEmpty then b.debt.bigNumber - lusdLiquidationReserve.bigNumber
  else b.debt.bigNumber - a.debt.bigNumber

/-- What `apply` makes of the change to `b`. -/
structure Reaches (a b : Trove) (r : Decimal) (t : Trove) : Prop where
  collateral : t.collateral = b.collateral
  debt : t.debt.bigNumber = b.debt.bigNumber +
    Ratio.overshoot Decimal.digits r.bigNumber (a.debtIncrease b)

theorem debtIncrease_of_le (h : b.debt.bigNumber ≤ a.debt.bigNumber) : a.debtIncrease b = 0 := by
  unfold debtIncrease
  split_ifs with hempty
  · have hzero : a.debt.bigNumber = 0 := congrArg Decimal.bigNumber hempty.2
    omega
  · omega

theorem reaches_of_le (h : b.debt.bigNumber ≤ a.debt.bigNumber) : a.Reaches b r b where
  collateral := rfl
  debt := by rw [debtIncrease_of_le h, Ratio.overshoot_zero_right, Nat.add_zero]

theorem Reaches.eq_iff {t : Trove} (h : a.Reaches b r t) :
    t = b ↔ Ratio.overshoot Decimal.digits r.bigNumber (a.debtIncrease b) = 0 := by
  have hdebt := h.debt
  constructor
  · rintro rfl
    omega
  · intro hzero
    rw [hzero, Nat.add_zero] at hdebt
    exact Trove.ext h.collateral (Decimal.ext hdebt)

theorem netDebt_eq (h : ¬a.debt < lusdLiquidationReserve) :
    lusdLiquidationReserve.bigNumber ≤ a.debt.bigNumber ∧
      a.netDebt = .ok ⟨a.debt.bigNumber - lusdLiquidationReserve.bigNumber⟩ := by
  have hle : lusdLiquidationReserve.bigNumber ≤ a.debt.bigNumber := Nat.le_of_not_lt h
  unfold netDebt Decimal.sub
  rw [if_neg h, if_pos hle]
  exact ⟨hle, rfl⟩

theorem Leads.apply {params : TroveAdjustmentParams} {setToZero : Option ZeroedField}
    (h : a.Leads b r params) (hempty : ¬a.isEmpty)
    (hcollateral : setToZero = some .collateral → b.collateral = Decimal.zero)
    (hdebt : setToZero = some .debt → b.debt = Decimal.zero) :
    ∃ t, a.apply r (some (.adjustment params setToZero)) = .ok t ∧ a.Reaches b r t := by
  obtain ⟨t, ht, hcoll, hdebt⟩ := h.applyAdjustment hcollateral hdebt
  refine ⟨t, ht, hcoll, ?_⟩
  unfold debtIncrease
  rw [if_neg hempty]
  exact hdebt

theorem apply_creation (hempty : a.isEmpty)
    (hreserve : lusdLiquidationReserve.bigNumber ≤ b.debt.bigNumber) :
    ∃ t, a.apply r (some (.creation ⟨b.collateral,
      unapplyFee r ⟨b.debt.bigNumber - lusdLiquidationReserve.bigNumber⟩⟩)) = .ok t ∧
        a.Reaches b r t := by
  refine ⟨_, if_pos hempty, rfl, ?_⟩
  unfold debtIncrease Decimal.add
  rw [if_pos hempty, applyFee_unapplyFee]
  dsimp only
  omega

theorem zeroedDebt_eq_some {field : ZeroedField} (h : b.zeroedDebt = some field) :
    field = .debt ∧ b.debt = Decimal.zero := by
  unfold zeroedDebt at h
  split_ifs at h with hzero
  exact ⟨(Option.some.inj h).symm, hzero⟩

theorem zeroedCollateral_eq_some {field : ZeroedField} (h : b.zeroedCollateral = some field) :
    field = .collateral ∧ b.collateral = Decimal.zero := by
  unfold zeroedCollateral at h
  split_ifs at h with hzero
  exact ⟨(Option.some.inj h).symm, hzero⟩

theorem zeroed_eq_some {field : ZeroedField}
    (h : (b.zeroedDebt <|> b.zeroedCollateral) = some field) :
    field = .debt ∧ b.debt = Decimal.zero ∨ field = .collateral ∧ b.collateral = Decimal.zero := by
  cases hzeroed : b.zeroedDebt with
  | none =>
      rw [hzeroed] at h
      exact Or.inr (zeroedCollateral_eq_some h)
  | some field' =>
      rw [hzeroed] at h
      cases h
      exact Or.inl (zeroedDebt_eq_some hzeroed)

/-- The change from `a` to `b` exists, and applying it to `a` reaches `b` up to the rounding of the
fee. The cases are those of `whatChanged`. -/
theorem apply_whatChanged (b : Trove) (r : Decimal)
    (ha : a.isEmpty ∨ ¬a.debt < lusdLiquidationReserve) :
    ∃ change, a.whatChanged b r = .ok change ∧
      (validChange change = true → ∃ t, a.apply r change = .ok t ∧ a.Reaches b r t) := by
  unfold whatChanged
  by_cases heq : a.collateral = b.collateral ∧ a.debt = b.debt
  · have hself : a = b := Trove.ext heq.1 heq.2
    rw [if_pos heq]
    refine ⟨_, rfl, fun _ => ⟨a, rfl, ?_⟩⟩
    subst hself
    exact reaches_of_le le_rfl
  rw [if_neg heq]
  by_cases hempty : a.isEmpty
  · rw [if_pos hempty]
    by_cases hreserve : b.debt < lusdLiquidationReserve
    · rw [if_pos hreserve]
      exact ⟨_, rfl, fun hvalid => absurd hvalid Bool.false_ne_true⟩
    · obtain ⟨hle, hnet⟩ := netDebt_eq hreserve
      rw [if_neg hreserve, hnet]
      refine ⟨_, rfl, fun _ => ?_⟩
      exact apply_creation hempty hle
  · have hreserve : ¬a.debt < lusdLiquidationReserve := ha.resolve_left hempty
    rw [if_neg hempty]
    by_cases hclosed : b.isEmpty
    · rw [if_pos hclosed, (netDebt_eq hreserve).2]
      have hzero : b.debt.bigNumber = 0 := congrArg Decimal.bigNumber hclosed.2
      have hb : emptyTrove = b := Trove.ext hclosed.1.symm hclosed.2.symm
      refine ⟨_, rfl, fun _ => ⟨b, ?_, reaches_of_le (by omega)⟩⟩
      rw [← hb]
      exact if_neg hempty
    rw [if_neg hclosed]
    obtain ⟨debtChange, hdebt, hdebtLeads⟩ := debtChange_leads a b r
    obtain ⟨collateralChange, hcollateral, hcollateralLeads⟩ := collateralChange_leads a b
    by_cases hsame : a.collateral = b.collateral
    · rw [if_pos hsame, hdebt]
      refine ⟨_, rfl, fun _ => Leads.apply ⟨?_, hdebtLeads _ rfl⟩ hempty ?_ ?_⟩
      · exact congrArg Decimal.bigNumber hsame
      · exact fun h => absurd (zeroedDebt_eq_some h).1 (by decide)
      · exact fun h => (zeroedDebt_eq_some h).2
    rw [if_neg hsame]
    by_cases hsameDebt : a.debt = b.debt
    · rw [if_pos hsameDebt, hcollateral]
      refine ⟨_, rfl, fun _ => Leads.apply ⟨hcollateralLeads _ rfl, ?_⟩ hempty ?_ ?_⟩
      · rw [hsameDebt, Nat.sub_self, Ratio.overshoot_zero_right]
        rfl
      · exact fun h => (zeroedCollateral_eq_some h).2
      · exact fun h => absurd (zeroedCollateral_eq_some h).1 (by decide)
    · rw [if_neg hsameDebt, hdebt, hcollateral]
      refine ⟨_, rfl, fun _ =>
        Leads.apply ⟨hcollateralLeads _ rfl, hdebtLeads _ rfl⟩ hempty ?_ ?_⟩
      · intro h
        rcases zeroed_eq_some h with ⟨hfield, -⟩ | ⟨-, hzero⟩
        · exact absurd hfield (by decide)
        · exact hzero
      · intro h
        rcases zeroed_eq_some h with ⟨-, hzero⟩ | ⟨hfield, -⟩
        · exact hzero
        · exact absurd hfield (by decide)

/-- The fee on an increase of the debt divides out without overshooting it. -/
def FeeCancels (r : Decimal) (debtIncrease : ℕ) : Prop :=
  debtIncrease * Decimal.digits % (Decimal.digits + r.bigNumber) = 0 ∨
    r.bigNumber < debtIncrease * Decimal.digits % (Decimal.digits + r.bigNumber)

/-- The change from a trove to another one leads back to it, with a debt that is at most one digit
too high. -/
theorem whatChanged_apply (a b : Trove) (r : Decimal)
    (ha : a.isEmpty ∨ ¬a.debt < lusdLiquidationReserve) (hr : r < Decimal.one) :
    ∃ change, a.whatChanged b r = .ok change ∧ (validChange change = true →
      ∃ t, a.apply r change = .ok t ∧ t.collateral = b.collateral ∧
        b.debt.bigNumber ≤ t.debt.bigNumber ∧ t.debt.bigNumber ≤ b.debt.bigNumber + 1 ∧
        (r = Decimal.zero ∨ ¬a.debt < b.debt → t = b) ∧
        (t = b ↔ FeeCancels r (a.debtIncrease b))) := by
  have hpos : 0 < Decimal.digits := by decide
  have hrate : r.bigNumber < Decimal.digits := hr
  have hdigit := Ratio.overshoot_le_one hrate.le (x := a.debtIncrease b)
  obtain ⟨change, hchange, hreached⟩ := apply_whatChanged b r ha
  refine ⟨change, hchange, fun hvalid => ?_⟩
  obtain ⟨t, ht, hreaches⟩ := hreached hvalid
  refine ⟨t, ht, hreaches.collateral, ?_, ?_, ?_, ?_⟩
  · rw [hreaches.debt]
    exact Nat.le_add_right _ _
  · rw [hreaches.debt]
    exact Nat.add_le_add_left hdigit _
  · rw [hreaches.eq_iff]
    rintro (hzero | hle)
    · have hzero : r.bigNumber = 0 := congrArg Decimal.bigNumber hzero
      rw [hzero, Ratio.overshoot_zero_left]
    · rw [debtIncrease_of_le (Nat.le_of_not_lt hle), Ratio.overshoot_zero_right]
  · rw [hreaches.eq_iff]
    exact Ratio.overshoot_eq_zero_iff hpos

def sampleTrove (debt : ℕ) : Trove := ⟨Decimal.one, ⟨debt * Decimal.digits⟩⟩

theorem whatChanged_apply_of_sample :
    ∃ change t, (sampleTrove 2000).whatChanged (sampleTrove 2300) minimumBorrowingRate =
        .ok change ∧
      (sampleTrove 2000).apply minimumBorrowingRate change = .ok t ∧
      t.debt.bigNumber ≤ (sampleTrove 2300).debt.bigNumber + 1 := by
  obtain ⟨change, hchange, happly⟩ := whatChanged_apply (sampleTrove 2000) (sampleTrove 2300)
    minimumBorrowingRate (by decide) (by decide)
  obtain ⟨change', hchange', hvalid⟩ : ∃ change, (sampleTrove 2000).whatChanged
      (sampleTrove 2300) minimumBorrowingRate = .ok change ∧ validChange change = true := by
    decide +kernel
  rw [hchange] at hchange'
  cases hchange'
  obtain ⟨t, ht, -, -, hle, -⟩ := happly hvalid
  exact ⟨change, t, hchange, ht, hle⟩

/-- With a fee of 0.5%, an increase by 201 is a borrowing of 200. -/
theorem whatChanged_apply_exact :
    ∃ change, (sampleTrove 2000).whatChanged (sampleTrove 2201) minimumBorrowingRate =
        .ok change ∧
      validChange change = true ∧
      (sampleTrove 2000).apply minimumBorrowingRate change = .ok (sampleTrove 2201) ∧
      minimumBorrowingRate ≠ Decimal.zero ∧
      (sampleTrove 2000).debt < (sampleTrove 2201).debt := by
  decide +kernel

end RoundTrip

end Trove

end Usdd.LibBase

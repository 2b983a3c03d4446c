import Usdd.PoolShares

/-!
# Solvency of the Stability Pool and the range of the product

An offset scales every exact value by the product factor, so that the exact values stay within the
total as long as the loss that they take and what earlier roundings have left over in the pool cover
the debt. The product itself stays between the scale factor and one as long as the factor does not
take more than one change of scale.
-/

open Transaction CompoundingStake

namespace Usdd

open StabilityPool

namespace StabilityPool

def exactTotal (sp : StabilityPool) : ℚ := ∑ d, sp.exactDeposit d

/-- The loss per unit staked of an offset that leaves something in the pool. -/
def partialLoss (sp : StabilityPool) (debt : ℕ) : ℕ :=
  (debt * decimalPrecision - sp.lastUSDDLossErrorOffset) / sp.totalUSDDDeposits + 1

/-- The pool is emptied, or the loss of stakes worth `value` and the surplus of the pool over them
cover the debt. The error of the last offset, which lowers the loss, can exceed the surplus when
deposits have been withdrawn since. -/
def LossCovers (sp : StabilityPool) (value : ℚ) (debt : ℕ) : Prop :=
  debt = sp.totalUSDDDeposits ∨
    (debt * decimalPrecision : ℚ) ≤
      sp.partialLoss debt * value + decimalPrecision * (sp.totalUSDDDeposits - value)

def LossCoversDebt (sp : StabilityPool) (debt : ℕ) : Prop := sp.LossCovers sp.exactTotal debt

/-- The pool is emptied, or the product needs at most one change of scale. -/
def OneScaleSuffices (sp : StabilityPool) (debt : ℕ) : Prop :=
  debt = sp.totalUSDDDeposits ∨
    sp.lastUSDDLossErrorOffset ≤ debt * decimalPrecision ∧
      (decimalPrecision - sp.partialLoss debt = 0 ∨
        decimalPrecision ≤ sp.P * (decimalPrecision - sp.partialLoss debt))

def Solvent (sp : StabilityPool) : Prop := sp.exactTotal ≤ sp.totalUSDDDeposits

def ProductInRange (sp : StabilityPool) : Prop := scaleFactor ≤ sp.P ∧ sp.P ≤ decimalPrecision

end StabilityPool

def JournalEntry.LossCoversDebt : JournalEntry → Prop
  | .offset sp debt => sp.LossCoversDebt debt
  | _ => True

def JournalEntry.OneScaleSuffices : JournalEntry → Prop
  | .offset sp debt => sp.OneScaleSuffices debt
  | _ => True

instance : DecidablePred JournalEntry.OneScaleSuffices
  | .offset _ _ => inferInstanceAs (Decidable (_ ∨ _ ∧ (_ ∨ _)))
  | .restake _ _ => isTrue trivial
  | .redistribute _ _ _ _ => isTrue trivial
  | .changeDeposit _ _ => isTrue trivial

namespace StabilityPool

variable {sp sp' : StabilityPool} {d : Address} {v debt coll : ℕ}

section Loss

theorem usddLossPerUnitStaked_eq_ok {loss error : ℕ}
    (h : usddLossPerUnitStaked sp debt sp.totalUSDDDeposits = .ok (loss, error)) :
    (debt = sp.totalUSDDDeposits ∧ loss = decimalPrecision) ∨
      (debt ≠ sp.totalUSDDDeposits ∧ sp.lastUSDDLossErrorOffset ≤ debt * decimalPrecision ∧
        sp.totalUSDDDeposits ≠ 0 ∧ loss = sp.partialLoss debt) := by
  unfold usddLossPerUnitStaked at h
  split_ifs at h with heq
  · cases pure_eq_ok.1 h
    exact Or.inl ⟨heq, rfl⟩
  · obtain ⟨n, hn, h⟩ := bind_eq_ok.1 h
    obtain ⟨hle, rfl⟩ := sub_eq_ok.1 hn
    obtain ⟨q, hq, h⟩ := bind_eq_ok.1 h
    obtain ⟨hpos, rfl⟩ := div_eq_ok.1 hq
    obtain ⟨_, -, h⟩ := bind_eq_ok.1 h
    cases pure_eq_ok.1 h
    exact Or.inr ⟨heq, hle, hpos, rfl⟩

/-- A total that covers a value covers what the loss of an offset leaves of it. -/
theorem le_sub_of_lossCovers {value value' : ℚ} {loss error : ℕ}
    (hloss : usddLossPerUnitStaked sp debt sp.totalUSDDDeposits = .ok (loss, error))
    (hle : loss ≤ decimalPrecision)
    (hvalue : value' ≤ (decimalPrecision - loss : ℕ) / (decimalPrecision : ℕ) * value)
    (hcovers : sp.LossCovers value debt) : value' ≤ (sp.totalUSDDDeposits : ℚ) - debt := by
  have hdp : (0 : ℚ) < (decimalPrecision : ℕ) := Nat.cast_pos.2 unit_pos
  have hc : (debt * decimalPrecision : ℚ) ≤
      loss * value + decimalPrecision * (sp.totalUSDDDeposits - value) := by
    rcases usddLossPerUnitStaked_eq_ok hloss with ⟨rfl, hl⟩ | ⟨hne, -, -, hl⟩
    · rw [hl]
      linarith
    · rw [hl]
      exact hcovers.resolve_left hne
  rw [Nat.cast_sub hle] at hvalue
  refine hvalue.trans ?_
  rw [div_mul_eq_mul_div, div_le_iff₀ hdp]
  linarith

end Loss

section Total

theorem exactTotal_congr (hdeposits : ∀ a, (sp'.deposits a).initialValue =
      (sp.deposits a).initialValue) (hsnapshots : sp'.depositSnapshots = sp.depositSnapshots)
    (hclock : sp'.clock = sp.clock) : sp'.exactTotal = sp.exactTotal := by
  refine Finset.sum_congr rfl (fun a _ => ?_)
  unfold exactDeposit exactStake
  rw [hdeposits, hsnapshots, hclock]

theorem exactTotal_charge_le (h : sp.Timely) {factor : ℕ}
    (hdeposits : sp'.deposits = sp.deposits)
    (hsnapshots : sp'.depositSnapshots = sp.depositSnapshots)
    (hclock : sp'.clock = charge decimalPrecision scaleFactor sp.clock factor) :
    sp'.exactTotal ≤ factor / (decimalPrecision : ℕ) * sp.exactTotal := by
  have hproduct : 0 < sp.clock.product := h.product
  have hle := sum_share_charge_le Finset.univ (fun _ => 1) (fun d => (sp.depositSnapshots d).clock)
    (fun d => (sp.deposits d).initialValue) hproduct unit_pos base_pos (fun _ _ => zero_le_one)
    (fun d _ hd => (h.deposits d hd).clock) factor
  simp only [one_mul] at hle
  unfold exactTotal exactDeposit exactStake
  rw [hdeposits, hsnapshots, hclock]
  exact hle

theorem exactTotal_changeDeposit (hP : 0 < sp.P) (depositor frontEnd : Address)
    (deposit stake total coll : ℕ) :
    exactTotal
      { updateDepositAndSnapshots (updateFrontEndStakeAndSnapshots sp frontEnd stake) depositor
          deposit with
        totalUSDDDeposits := total
        coll := coll } + sp.exactDeposit depositor = sp.exactTotal + deposit := by
  have hself := exactDeposit_changeDeposit hP depositor frontEnd deposit stake total coll depositor
  rw [if_pos rfl] at hself
  have hsum := UpdateSum.sum_change depositor
    (f := exactDeposit { updateDepositAndSnapshots (updateFrontEndStakeAndSnapshots sp frontEnd
      stake) depositor deposit with
        totalUSDDDeposits := total
        coll := coll }) (g := sp.exactDeposit)
    (fun a ha => by rw [exactDeposit_changeDeposit hP, if_neg ha])
  rw [hself] at hsum
  exact hsum

end Total

section Product

theorem updateProduct_productInRange_iff (h : sp.ProductInRange) {factor : ℕ}
    (hf : factor ≤ decimalPrecision) :
    (updateProduct sp factor).ProductInRange ↔
      factor = 0 ∨ decimalPrecision ≤ sp.P * factor := by
  have hdp : 0 < decimalPrecision := by decide
  have hsf : 0 < scaleFactor := by decide
  have hsq : scaleFactor * scaleFactor = decimalPrecision := by decide
  unfold updateProduct ProductInRange
  split_ifs with h₀ hs
  · simp only [h₀, true_or, iff_true]
    exact ⟨by decide, le_rfl⟩
  · have hupper : sp.P * factor * scaleFactor / decimalPrecision ≤ decimalPrecision := by
      rw [Nat.div_lt_iff_lt_mul hdp] at hs
      refine Nat.div_le_of_le_mul ?_
      calc
        sp.P * factor * scaleFactor ≤ scaleFactor * decimalPrecision * scaleFactor :=
          Nat.mul_le_mul_right _ hs.le
        _ = scaleFactor * scaleFactor * decimalPrecision := by ring
        _ = decimalPrecision * decimalPrecision := by rw [hsq]
    simp only [h₀, false_or, hupper, and_true]
    rw [Nat.le_div_iff_mul_le hdp, Nat.mul_comm scaleFactor]
    exact Nat.mul_le_mul_right_iff hsf
  · have hupper : sp.P * factor / decimalPrecision ≤ decimalPrecision :=
      (Nat.div_le_of_le_mul (by rw [Nat.mul_comm]; exact Nat.mul_le_mul_right _ hf)).trans h.2
    have hlower : scaleFactor ≤ sp.P * factor / decimalPrecision := not_lt.1 hs
    have hge : decimalPrecision ≤ sp.P * factor := by
      rw [Nat.le_div_iff_mul_le hdp] at hlower
      exact (Nat.le_mul_of_pos_left _ hsf).trans hlower
    simp only [hupper, hlower, hge, or_true, and_self]

theorem partialLoss_le (hle : debt ≤ sp.totalUSDDDeposits) (hne : debt ≠ sp.totalUSDDDeposits) :
    sp.partialLoss debt ≤ decimalPrecision := by
  have hlt : debt < sp.totalUSDDDeposits := lt_of_le_of_ne hle hne
  unfold partialLoss
  rw [Nat.succ_le_iff, Nat.div_lt_iff_lt_mul (by omega)]
  calc
    debt * decimalPrecision - sp.lastUSDDLossErrorOffset ≤ debt * decimalPrecision :=
      Nat.sub_le _ _
    _ < sp.totalUSDDDeposits * decimalPrecision := Nat.mul_lt_mul_of_pos_right hlt (by decide)
    _ = decimalPrecision * sp.totalUSDDDeposits := Nat.mul_comm _ _

theorem computeRewardsPerUnitStaked_of_loss (coll : ℕ) (hpos : 0 < debt) (hle : debt ≤ sp.totalUSDDDeposits)
    (he : debt = sp.totalUSDDDeposits ∨
      sp.lastUSDDLossErrorOffset ≤ debt * decimalPrecision) :
    ∃ r, computeRewardsPerUnitStaked sp coll debt sp.totalUSDDDeposits = .ok r ∧
      r.usddLossPerUnitStaked = if debt = sp.totalUSDDDeposits then decimalPrecision
        else sp.partialLoss debt := by
  have hT : sp.totalUSDDDeposits ≠ 0 := by omega
  obtain ⟨error, hloss⟩ : ∃ error, usddLossPerUnitStaked sp debt sp.totalUSDDDeposits =
      .ok (if debt = sp.totalUSDDDeposits then decimalPrecision else sp.partialLoss debt,
        error) := by
    unfold usddLossPerUnitStaked
    split_ifs with heq
    · exact ⟨0, rfl⟩
    · have hn := he.resolve_left heq
      have hle : debt * decimalPrecision - sp.lastUSDDLossErrorOffset ≤
          sp.partialLoss debt * sp.totalUSDDDeposits := by
        rw [Nat.mul_comm (sp.partialLoss debt)]
        exact (Nat.lt_mul_div_succ _ (Nat.pos_of_ne_zero hT)).le
      exact ⟨_, bind_eq_ok.2 ⟨_, sub_eq_ok.2 ⟨hn, rfl⟩, bind_eq_ok.2 ⟨_, div_eq_ok.2 ⟨hT, rfl⟩,
        bind_eq_ok.2 ⟨_, sub_eq_ok.2 ⟨hle, rfl⟩, rfl⟩⟩⟩⟩
  let collNumerator := coll * decimalPrecision + sp.lastCollErrorOffset
  let collGain := collNumerator / sp.totalUSDDDeposits
  let pool := { sp with
    lastUSDDLossErrorOffset := error
    lastCollErrorOffset := collNumerator - collGain * sp.totalUSDDDeposits }
  refine ⟨⟨pool, collGain, _⟩, bind_eq_ok.2 ⟨(), assert_eq_ok.2 hle, bind_eq_ok.2 ⟨_, hloss, ?_⟩⟩,
    rfl⟩
  exact bind_eq_ok.2 ⟨_, div_eq_ok.2 ⟨hT, rfl⟩,
    bind_eq_ok.2 ⟨_, sub_eq_ok.2 ⟨Nat.div_mul_le_self _ _, rfl⟩, rfl⟩⟩

/-- An offset goes through with the product in range exactly if one change of scale suffices. -/
theorem offset_productInRange_iff (h : sp.ProductInRange) (coll : ℕ) (hpos : 0 < debt)
    (hle : debt ≤ sp.totalUSDDDeposits) :
    (∃ r sp', computeRewardsPerUnitStaked sp coll debt sp.totalUSDDDeposits = .ok r ∧
      updateRewardSumAndProduct r.pool r.collGainPerUnitStaked r.usddLossPerUnitStaked = .ok sp' ∧
      sp'.ProductInRange) ↔ sp.OneScaleSuffices debt := by
  constructor
  · rintro ⟨r, sp', hr, hp, hrange⟩
    obtain ⟨-, lossError, collError, hloss, -, hpool⟩ := computeRewardsPerUnitStaked_eq_ok hr
    obtain ⟨hl, -, rfl⟩ := updateRewardSumAndProduct_eq_ok hp
    rcases usddLossPerUnitStaked_eq_ok hloss with ⟨heq, -⟩ | ⟨hne, he, -, hl'⟩
    · exact Or.inl heq
    · have hsame : ProductInRange { r.pool with
          epochToScaleToSum := addToSum r.pool.epochToScaleToSum r.pool.currentEpoch
            r.pool.currentScale (r.collGainPerUnitStaked * r.pool.P) } := by
        rw [hpool]
        exact h
      rw [updateProduct_productInRange_iff hsame (Nat.sub_le _ _), hl', hpool] at hrange
      exact Or.inr ⟨he, hrange⟩
  · intro hone
    obtain ⟨r, hr, hloss⟩ := computeRewardsPerUnitStaked_of_loss coll hpos hle
      (hone.imp_right And.left)
    obtain ⟨-, lossError, collError, -, -, hpool⟩ := computeRewardsPerUnitStaked_eq_ok hr
    have hl : r.usddLossPerUnitStaked ≤ decimalPrecision := by
      rw [hloss]
      split_ifs with heq
      · exact le_rfl
      · exact partialLoss_le hle heq
    have hsame (sums : ℕ → ℕ → ℕ) :
        ProductInRange { r.pool with epochToScaleToSum := sums } := by
      rw [hpool]
      exact h
    have hrange (sums : ℕ → ℕ → ℕ) :
        (updateProduct { r.pool with epochToScaleToSum := sums }
          (decimalPrecision - r.usddLossPerUnitStaked)).ProductInRange := by
      rw [updateProduct_productInRange_iff (hsame sums) (Nat.sub_le _ _), hloss, hpool]
      split_ifs with heq
      · exact Or.inl (Nat.sub_self _)
      · exact (hone.resolve_left heq).2
    refine ⟨r, _, hr, bind_eq_ok.2 ⟨(), assert_eq_ok.2 hl, bind_eq_ok.2 ⟨_, sub_eq_ok.2 ⟨hl, rfl⟩,
      bind_eq_ok.2 ⟨(), assert_eq_ok.2 ?_, rfl⟩⟩⟩, hrange _⟩
    exact lt_of_lt_of_le (by decide) (hrange _).1

end Product

end StabilityPool

variable {D : Deployment} {b b' : Book}

theorem StabilityPool.Solvent.event (ht : b.pool.Timely) (h : b.pool.Solvent)
    (hj : ∀ e ∈ b'.journal, e.LossCoversDebt) (he : Event D b b') : b'.pool.Solvent := by
  have hexact : b.pool.exactTotal ≤ b.pool.totalUSDDDeposits := h
  cases he with
  | @offsets debt coll rewards pool hpos hrewards hpool hdebt hcoll hsupply hdeposits husdd =>
      have hcovers : b.pool.LossCoversDebt debt := hj _ (List.mem_cons_self ..)
      obtain ⟨hle, -, lossError, collError, clock, hclock, hloss, -, rfl⟩ :=
        offset_eq_ok hrewards hpool
      refine (le_sub_of_lossCovers hloss hle ?_ hcovers).trans_eq (Nat.cast_sub hdeposits).symm
      exact exactTotal_charge_le ht rfl rfl hclock
  | issues hpool =>
      obtain ⟨rate, lastDEFTError, rfl, -⟩ := updateG_eq_ok hpool
      exact h
  | @tags depositor frontEndTag htag =>
      obtain ⟨deposits, heq, hsame⟩ := setTagOfNewDeposit_eq b.pool depositor frontEndTag
      have htotal : exactTotal { b.pool with deposits := deposits } = b.pool.exactTotal :=
        exactTotal_congr hsame rfl rfl
      show (setTagOfNewDeposit b.pool depositor frontEndTag).Solvent
      rw [heq]
      show exactTotal { b.pool with deposits := deposits } ≤ b.pool.totalUSDDDeposits
      rw [htotal]
      exact h
  | @changesDeposit depositor deposit frontEndStake gain provided withdrawn depositorDEFTGain
      frontEndDEFTGain hdeposit hstake hgain hwithdrawn hwithdrawn' hgain' hdepositorDEFT
      hfrontEndDEFT hdeft hdeposits husdd =>
      have hsum := exactTotal_changeDeposit ht.product depositor
        (b.pool.deposits depositor).frontEndTag (deposit + provided - withdrawn)
        (frontEndStake + provided - withdrawn) (b.pool.totalUSDDDeposits + provided - withdrawn)
        (b.pool.coll - gain)
      have hle := getCompoundedUSDDDeposit_le hdeposit
      have hdep : ((deposit + provided - withdrawn : ℕ) : ℚ) = deposit + provided - withdrawn := by
        rw [Nat.cast_sub (hwithdrawn.trans (Nat.le_add_right _ _)), Nat.cast_add]
      have htot : ((b.pool.totalUSDDDeposits + provided - withdrawn : ℕ) : ℚ) =
          b.pool.totalUSDDDeposits + provided - withdrawn := by
        rw [Nat.cast_sub (hdeposits.trans (Nat.le_add_right _ _)), Nat.cast_add]
      rw [hdep] at hsum
      show exactTotal _ ≤ ((b.pool.totalUSDDDeposits + provided - withdrawn : ℕ) : ℚ)
      rw [htot]
      linarith
  | registers => exact hexact
  | _ => exact h

theorem StabilityPool.ProductInRange.event (h : b.pool.ProductInRange)
    (hj : ∀ e ∈ b'.journal, e.OneScaleSuffices) (he : Event D b b') : b'.pool.ProductInRange := by
  cases he with
  | @offsets debt coll rewards pool hpos hrewards hpool hdebt hcoll hsupply hdeposits husdd =>
      obtain ⟨r, sp', hr, hp, hrange⟩ := (offset_productInRange_iff h coll
        (Nat.pos_of_ne_zero hpos.2) hdeposits).2 (hj _ (List.mem_cons_self ..))
      rw [hrewards] at hr
      cases hr
      rw [hpool] at hp
      cases hp
      exact hrange
  | issues hpool =>
      obtain ⟨rate, lastDEFTError, rfl, -⟩ := updateG_eq_ok hpool
      exact h
  | @tags depositor frontEndTag =>
      obtain ⟨deposits, heq, -⟩ := setTagOfNewDeposit_eq b.pool depositor frontEndTag
      show (setTagOfNewDeposit b.pool depositor frontEndTag).ProductInRange
      rw [heq]
      exact h
  | changesDeposit =>
      show ProductInRange { updateDepositAndSnapshots _ _ _ with
        totalUSDDDeposits := _
        coll := _ }
      rw [changeDeposit_eq]
      exact h
  | _ => exact h

end Usdd

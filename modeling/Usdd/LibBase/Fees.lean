import Usdd.FeeRuns
import Usdd.LibBase.Decimal

/-!
# Fees of the client library

The client decays the base rate over milliseconds and without a cap on the minutes, and takes the
redeemed fraction from the amount instead of the collateral that it draws. Its rates are those of the
contract, or higher where the contract rounds what a redemption draws.
-/

open Transaction

namespace Usdd.LibBase

/-- A point in time, in milliseconds. -/
structure Date where
  getTime : ℤ

def convertToDate (timestamp : ℕ) : Date := ⟨timestamp * 1000⟩

structure Fees where
  baseRateWithoutDecay : Decimal
  minuteDecayFactor : Decimal
  beta : Decimal
  lastFeeOperation : Date
  timeOfLatestBlock : Date
  recoveryMode : Bool
  minuteDecayFactor_lt : minuteDecayFactor < Decimal.one

namespace Fees

section Rates

variable (fees : Fees) (date : Option Date)

/-- The rate at `date`, or at the time of the latest block. -/
def baseRate : Tx Decimal := do
  let date := date.getD fees.timeOfLatestBlock
  let millisecondsSinceLastFeeOperation :=
    max (date.getTime - fees.lastFeeOperation.getTime) 0
  let minutesSinceLastFeeOperation := millisecondsSinceLastFeeOperation / 60000
  let decay ← fees.minuteDecayFactor.pow minutesSinceLastFeeOperation.toNat
  pure (decay.mul fees.baseRateWithoutDecay)

def borrowingRate : Tx Decimal :=
  if fees.recoveryMode then pure Decimal.zero
  else do
    let baseRate ← fees.baseRate date
    pure (Decimal.min (minimumBorrowingRate.add baseRate) maximumBorrowingRate)

def redemptionRate (redeemedFractionOfSupply : Decimal) : Tx Decimal := do
  let baseRate ← fees.baseRate date
  let baseRate := if redeemedFractionOfSupply = Decimal.zero then baseRate
    else (redeemedFractionOfSupply.div fees.beta).add baseRate
  pure (Decimal.min (minimumRedemptionRate.add baseRate) Decimal.one)

end Rates

def minuteDecayFactorOfClient : Decimal := ⟨999037758833783000⟩

def betaOfClient : Decimal := ⟨2 * Decimal.digits⟩

/-- The fees as they are read from the contract. -/
def createFees (fees : Usdd.Fees) (blockTimestamp : ℕ) (recoveryMode : Bool) : Fees where
  baseRateWithoutDecay := ⟨fees.baseRate⟩
  minuteDecayFactor := minuteDecayFactorOfClient
  beta := betaOfClient
  lastFeeOperation := convertToDate fees.lastFeeOperationTime
  timeOfLatestBlock := convertToDate blockTimestamp
  recoveryMode := recoveryMode
  minuteDecayFactor_lt := by decide

section Decay

/-- The squares of the factor reach zero in the 16th round. -/
theorem minuteDecayFactor_squares (i : ℕ) :
    RoundedPower.squares LiquityMath.decMul TroveManager.minuteDecayFactor i ≤
      RoundedPower.products LiquityMath.decMul decimalPrecision TroveManager.minuteDecayFactor i := by
  apply RoundedPower.squares_le_products (k := 16) rfl (by decide +kernel)
  decide +kernel

/-- The powers are zero by the time the contract stops counting minutes. -/
theorem power_min (n : ℕ) :
    RoundedPower.power LiquityMath.decMul decimalPrecision TroveManager.minuteDecayFactor
        (min n LiquityMath.maxMinutes) =
      RoundedPower.power LiquityMath.decMul decimalPrecision TroveManager.minuteDecayFactor n := by
  rcases le_total n LiquityMath.maxMinutes with hle | hle
  · rw [min_eq_left hle]
  · have hzero : RoundedPower.power LiquityMath.decMul decimalPrecision
        TroveManager.minuteDecayFactor LiquityMath.maxMinutes = 0 := by decide +kernel
    have hantitone := RoundedPower.power_antitone LiquityMath.decMul_mono
      LiquityMath.decMul_decimalPrecision minuteDecayFactor_squares hle
    rw [min_eq_right hle]
    omega

theorem pow_minuteDecayFactor {exponent : ℕ} (h : exponent ≤ 0xffffffff) :
    minuteDecayFactorOfClient.pow exponent =
      .ok ⟨LiquityMath.decPow TroveManager.minuteDecayFactor exponent⟩ := by
  rw [Decimal.pow_eq_power h, LiquityMath.decPow_eq_power, power_min]
  rfl

end Decay

section Agreement

variable {m : Message} {fees : Usdd.Fees} {rate : ℕ} {recoveryMode : Bool}

theorem minutes_eq {last timestamp : ℕ} (h : last ≤ timestamp) :
    (max ((convertToDate timestamp).getTime - (convertToDate last).getTime) 0 / 60000).toNat =
      (timestamp - last) / TroveManager.secondsInOneMinute := by
  unfold convertToDate TroveManager.secondsInOneMinute
  dsimp only
  omega

theorem baseRate_eq_calcDecayedBaseRate (hrate : TroveManager.calcDecayedBaseRate m fees = .ok rate)
    (hminutes : m.timestamp < fees.lastFeeOperationTime + 2 ^ 32 * 60) :
    (createFees fees m.timestamp recoveryMode).baseRate none = .ok ⟨rate⟩ := by
  obtain ⟨hlast, rfl⟩ := TroveManager.calcDecayedBaseRate_eq_ok_iff.1 hrate
  have hexponent : (m.timestamp - fees.lastFeeOperationTime) / TroveManager.secondsInOneMinute ≤
      0xffffffff := by
    unfold TroveManager.secondsInOneMinute
    omega
  refine bind_eq_ok.2 ⟨⟨LiquityMath.decPow TroveManager.minuteDecayFactor
    ((m.timestamp - fees.lastFeeOperationTime) / TroveManager.secondsInOneMinute)⟩, ?_, ?_⟩
  · rw [← pow_minuteDecayFactor hexponent, ← minutes_eq hlast]
    rfl
  · rw [pure_eq_ok]
    unfold Decimal.mul
    rw [Nat.mul_comm]
    rfl

theorem borrowingRate_eq (hrate : TroveManager.calcDecayedBaseRate m fees = .ok rate)
    (hminutes : m.timestamp < fees.lastFeeOperationTime + 2 ^ 32 * 60) :
    (createFees fees m.timestamp false).borrowingRate none =
      .ok ⟨TroveManager.calcBorrowingRate rate⟩ := by
  refine bind_eq_ok.2 ⟨_, baseRate_eq_calcDecayedBaseRate hrate hminutes, pure_eq_ok.2 ?_⟩
  exact Decimal.min_mk _ _

/-- A fraction that is zero adds nothing, so it needs no case of its own. -/
theorem redemptionRate_eq {fraction : ℕ}
    (hrate : TroveManager.calcDecayedBaseRate m fees = .ok rate)
    (hminutes : m.timestamp < fees.lastFeeOperationTime + 2 ^ 32 * 60) :
    (createFees fees m.timestamp recoveryMode).redemptionRate none ⟨fraction⟩ =
      .ok ⟨TroveManager.calcRedemptionRate (rate + fraction / TroveManager.beta)⟩ := by
  have hhalf : (⟨fraction⟩ : Decimal).div betaOfClient = ⟨fraction / TroveManager.beta⟩ := by
    have hbeta : betaOfClient ≠ Decimal.zero := by decide
    unfold Decimal.div
    rw [if_neg hbeta]
    exact congrArg Decimal.mk (Nat.mul_div_mul_right fraction 2 (by decide))
  have hsum : (if (⟨fraction⟩ : Decimal) = Decimal.zero then (⟨rate⟩ : Decimal)
      else ((⟨fraction⟩ : Decimal).div betaOfClient).add ⟨rate⟩) =
      ⟨rate + fraction / TroveManager.beta⟩ := by
    split_ifs with hzero
    · cases hzero
      rfl
    · rw [hhalf, Nat.add_comm rate]
      rfl
  refine bind_eq_ok.2 ⟨_, baseRate_eq_calcDecayedBaseRate hrate hminutes, pure_eq_ok.2 ?_⟩
  exact (congrArg (fun baseRate => Decimal.min (minimumRedemptionRate.add baseRate) Decimal.one)
    hsum).trans (Decimal.min_mk _ _)

end Agreement

section Redemption

variable {D : Deployment} {m : Message} {s s' : State} {depositor : Address} {r : TroveManager.Redemption}
  {price : ℕ}

/-- What a lot draws is worth at most the lot. -/
theorem redeemCollateralFromTrove_worth {borrower : Address} {usdd : ℕ}
    {v : TroveManager.SingleRedemptionValues}
    (h : TroveManager.redeemCollateralFromTrove D s borrower usdd price r = .ok (s', v)) :
    v.collLot * price ≤ v.usddLot * decimalPrecision := by
  obtain ⟨_, -, h⟩ := bind_eq_ok.1 h
  obtain ⟨collLot, hcollLot, h⟩ := bind_eq_ok.1 h
  obtain ⟨-, rfl⟩ := div_eq_ok.1 hcollLot
  obtain ⟨_, -, h⟩ := bind_eq_ok.1 h
  obtain ⟨_, -, h⟩ := bind_eq_ok.1 h
  obtain ⟨result, -, h⟩ := bind_eq_ok.1 h
  cases pure_eq_ok.1 h
  exact Nat.div_mul_le_self _ _

theorem redeemLoop_worth {iterations : ℕ} {borrower : Address} {amount : ℕ}
    {totals : TroveManager.RedemptionTotals}
    (h : TroveManager.redeemLoop D price r iterations borrower ⟨s, amount, 0, 0⟩ = .ok totals) :
    totals.totalETHDrawn * price ≤ amount * decimalPrecision := by
  have hworth : totals.totalETHDrawn * price ≤ totals.totalUSDDToRedeem * decimalPrecision ∧
      totals.totalUSDDToRedeem + totals.remainingUSDD = amount := by
    refine TroveManager.redeemLoop_rule (I := fun t =>
      t.totalETHDrawn * price ≤ t.totalUSDDToRedeem * decimalPrecision ∧
        t.totalUSDDToRedeem + t.remainingUSDD = amount) ?_ ?_ ⟨by simp, by simp⟩ h
    · intro t s₁ borrower s₂ v remaining ht _ h₂ _ hremaining
      obtain ⟨hlot, rfl⟩ := sub_eq_ok.1 hremaining
      have hv := redeemCollateralFromTrove_worth h₂
      constructor
      · dsimp only
        rw [Nat.add_mul, Nat.add_mul]
        exact Nat.add_le_add ht.1 hv
      · dsimp only
        omega
    · intro t s₁ borrower s₂ v ht _ _ _
      exact ht
  calc
    totals.totalETHDrawn * price ≤ totals.totalUSDDToRedeem * decimalPrecision := hworth.1
    _ ≤ amount * decimalPrecision := Nat.mul_le_mul_right _ (by omega)

/-- The fee of a redemption is charged at the rate that it leaves behind. -/
theorem redeemCollateral_rate (h : TroveManager.redeemCollateral D m s depositor r = .ok s') :
    ∃ rate, TroveManager.calcDecayedBaseRate m s.fees = .ok rate ∧
      0 < TroveManager.getEntireSystemDebt s ∧ TroveManager.getRedemptionRate s'.fees ≤
        TroveManager.calcRedemptionRate (rate +
          r.usddAmount * decimalPrecision / TroveManager.getEntireSystemDebt s / TroveManager.beta) := by
  obtain ⟨_, -, h⟩ := bind_eq_ok.1 h
  obtain ⟨borrower, -, h⟩ := bind_eq_ok.1 h
  obtain ⟨totals, htotals, h⟩ := bind_eq_ok.1 h
  have hfees := TroveManager.settleRedemption_fees h
  rw [TroveManager.redeemLoop_fees htotals] at hfees
  obtain ⟨rate, hrate, hfees⟩ := bind_eq_ok.1 hfees
  obtain ⟨fraction, hfraction, hfees⟩ := bind_eq_ok.1 hfees
  obtain ⟨hsupply, rfl⟩ := div_eq_ok.1 hfraction
  obtain ⟨_, -, hfees⟩ := bind_eq_ok.1 hfees
  obtain ⟨-, hfees⟩ := TroveManager.updateLastFeeOpTime_eq_ok_iff.1 hfees
  have hdrawn : totals.totalETHDrawn * m.price / TroveManager.getEntireSystemDebt s / TroveManager.beta ≤
      r.usddAmount * decimalPrecision / TroveManager.getEntireSystemDebt s / TroveManager.beta :=
    Nat.div_le_div_right (Nat.div_le_div_right (redeemLoop_worth htotals))
  refine ⟨rate, hrate, Nat.pos_of_ne_zero hsupply, ?_⟩
  unfold TroveManager.getRedemptionRate TroveManager.calcRedemptionRate
  rw [hfees]
  dsimp only
  apply min_le_min_right
  apply Nat.add_le_add_left
  exact (min_le_left _ _).trans (Nat.add_le_add_left hdrawn rate)

/-- The rates of the client are those of the contract, and the rate that it quotes for a redemption
is at least the one that is charged. -/
theorem client_fees_agree {fees : Usdd.Fees} (hlast : fees.lastFeeOperationTime ≤ m.timestamp)
    (hminutes : m.timestamp < fees.lastFeeOperationTime + 2 ^ 32 * 60) :
    (∀ minutes ≤ 0xffffffff, minuteDecayFactorOfClient.pow minutes =
      .ok ⟨LiquityMath.decPow TroveManager.minuteDecayFactor minutes⟩) ∧
    (∃ rate, TroveManager.getBorrowingRateWithDecay m fees = .ok rate ∧
      (createFees fees m.timestamp false).borrowingRate none = .ok ⟨rate⟩) ∧
    (∃ rate, TroveManager.getRedemptionRateWithDecay m fees = .ok rate ∧
      (createFees fees m.timestamp false).redemptionRate none Decimal.zero = .ok ⟨rate⟩) ∧
    ∀ D s s' depositor r recoveryMode, s.fees = fees →
      TroveManager.redeemCollateral D m s depositor r = .ok s' →
      ∃ rate, (createFees fees m.timestamp recoveryMode).redemptionRate none
          (Decimal.div ⟨r.usddAmount⟩ ⟨TroveManager.getEntireSystemDebt s⟩) = .ok rate ∧
        TroveManager.getRedemptionRate s'.fees ≤ rate.bigNumber := by
  obtain ⟨rate, hrate⟩ : ∃ rate, TroveManager.calcDecayedBaseRate m fees = .ok rate :=
    ⟨_, TroveManager.calcDecayedBaseRate_eq_ok_iff.2 ⟨hlast, rfl⟩⟩
  refine ⟨fun _ => pow_minuteDecayFactor, ⟨_, bind_eq_ok.2 ⟨rate, hrate, rfl⟩, ?_⟩,
    ⟨_, bind_eq_ok.2 ⟨rate, hrate, rfl⟩, ?_⟩, ?_⟩
  · exact borrowingRate_eq hrate hminutes
  · exact redemptionRate_eq hrate hminutes
  · rintro D s s' depositor r recoveryMode rfl hredeem
    obtain ⟨rate', hrate', hsupply, hcharged⟩ := redeemCollateral_rate hredeem
    have hsupply' : (⟨TroveManager.getEntireSystemDebt s⟩ : Decimal) ≠ Decimal.zero := by
      intro hzero
      have hzero : TroveManager.getEntireSystemDebt s = 0 := congrArg Decimal.bigNumber hzero
      omega
    have hfraction : Decimal.div ⟨r.usddAmount⟩ ⟨TroveManager.getEntireSystemDebt s⟩ =
        ⟨r.usddAmount * decimalPrecision / TroveManager.getEntireSystemDebt s⟩ := by
      unfold Decimal.div
      rw [if_neg hsupply']
      rfl
    refine ⟨_, ?_, hcharged⟩
    rw [hfraction]
    exact redemptionRate_eq hrate' hminutes

/-- Redeems 2010 of 5425 from the state before the last step of `sampleFees`. -/
theorem client_fees_agree_of_sample : ∃ s s' rate, sampleRun sampleRedeemable = .ok s ∧
    TroveManager.redeemCollateral sampleDeployment sampleMessage s 1
      ⟨2010 * decimalPrecision, 0, 0, 0, 0, 0, decimalPrecision⟩ = .ok s' ∧
    (createFees s.fees TroveManager.bootstrapPeriod false).redemptionRate none
      (Decimal.div ⟨2010 * decimalPrecision⟩ ⟨TroveManager.getEntireSystemDebt s⟩) = .ok rate ∧
    TroveManager.getRedemptionRate s'.fees ≤ rate.bigNumber := by
  obtain ⟨s, hs, hlast, hminutes, s', hs', -⟩ : ∃ s, sampleRun sampleRedeemable = .ok s ∧
      s.fees.lastFeeOperationTime ≤ TroveManager.bootstrapPeriod ∧
      TroveManager.bootstrapPeriod < s.fees.lastFeeOperationTime + 2 ^ 32 * 60 ∧
      ∃ s', TroveManager.redeemCollateral sampleDeployment sampleMessage s 1
        ⟨2010 * decimalPrecision, 0, 0, 0, 0, 0, decimalPrecision⟩ = .ok s' ∧ True := by
    decide +kernel
  obtain ⟨-, -, -, hcharged⟩ := client_fees_agree (m := sampleMessage) hlast hminutes
  obtain ⟨rate, hrate, hle⟩ := hcharged sampleDeployment s s' 1
    ⟨2010 * decimalPrecision, 0, 0, 0, 0, 0, decimalPrecision⟩ false rfl hs'
  exact ⟨s, s', rate, hs, hs', hrate, hle⟩

end Redemption

end Fees

end Usdd.LibBase

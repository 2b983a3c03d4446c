import Usdd.Protocol

/-!
# The base rate

A fee operation decays the base rate by the whole minutes since the last one that counted and then
moves the time of the last operation to the current second. The seconds that are left over are
dropped, so that operations can slow the decay. A redemption raises the rate by a rounded fraction,
which can be zero.
-/

open Transaction

namespace Usdd.TroveManager

variable {m : Message} {fees fees' : Fees} {rate : ℕ}

section Decay

theorem calcDecayedBaseRate_eq_ok_iff :
    calcDecayedBaseRate m fees = .ok rate ↔ fees.lastFeeOperationTime ≤ m.timestamp ∧
      rate = fees.baseRate * LiquityMath.decPow minuteDecayFactor
        ((m.timestamp - fees.lastFeeOperationTime) / secondsInOneMinute) / decimalPrecision := by
  unfold calcDecayedBaseRate minutesPassedSinceLastFeeOp
  simp only [bind_eq_ok, sub_eq_ok, pure_eq_ok]
  constructor
  · rintro ⟨_, ⟨_, ⟨hle, rfl⟩, rfl⟩, rfl⟩
    exact ⟨hle, rfl⟩
  · rintro ⟨hle, rfl⟩
    exact ⟨_, ⟨_, ⟨hle, rfl⟩, rfl⟩, rfl⟩

/-- The time from which minutes are counted after an operation at time `t`. -/
def countedFrom (last t : ℕ) : ℕ := if t - last ≥ secondsInOneMinute then t else last

theorem updateLastFeeOpTime_eq_ok_iff :
    updateLastFeeOpTime m fees = .ok fees' ↔ fees.lastFeeOperationTime ≤ m.timestamp ∧
      fees' = { fees with
        lastFeeOperationTime := countedFrom fees.lastFeeOperationTime m.timestamp } := by
  unfold updateLastFeeOpTime countedFrom
  simp only [bind_eq_ok, sub_eq_ok]
  constructor
  · rintro ⟨_, ⟨hle, rfl⟩, h⟩
    refine ⟨hle, ?_⟩
    split_ifs at h ⊢ with hminute <;> exact (pure_eq_ok.1 h).symm
  · rintro ⟨hle, rfl⟩
    refine ⟨_, ⟨hle, rfl⟩, ?_⟩
    split_ifs <;> rfl

theorem decayBaseRateFromBorrowing_eq_ok (h : decayBaseRateFromBorrowing m fees = .ok fees') :
    ∃ rate, calcDecayedBaseRate m fees = .ok rate ∧ fees' = { fees with
      baseRate := rate
      lastFeeOperationTime := countedFrom fees.lastFeeOperationTime m.timestamp } := by
  obtain ⟨rate, hrate, h⟩ := bind_eq_ok.1 h
  obtain ⟨_, -, h⟩ := bind_eq_ok.1 h
  exact ⟨rate, hrate, (updateLastFeeOpTime_eq_ok_iff.1 h).2⟩

end Decay

section Rates

def getBorrowingRateWithDecay (m : Message) (fees : Fees) : Tx ℕ := do
  let decayedBaseRate ← calcDecayedBaseRate m fees
  pure (calcBorrowingRate decayedBaseRate)

def getRedemptionRate (fees : Fees) : ℕ := calcRedemptionRate fees.baseRate

def getRedemptionRateWithDecay (m : Message) (fees : Fees) : Tx ℕ := do
  let decayedBaseRate ← calcDecayedBaseRate m fees
  pure (calcRedemptionRate decayedBaseRate)

end Rates

section Borrowing

/-- Borrowing operations one after the other. -/
def decayFromBorrowings (fees : Fees) : List Message → Tx Fees
  | [] => pure fees
  | m :: ms => do
      let fees ← decayBaseRateFromBorrowing m fees
      decayFromBorrowings fees ms

/-- The minutes for which operations at the given times decay the rate. -/
def countedMinutes (last : ℕ) : List ℕ → List ℕ
  | [] => []
  | t :: ts => (t - last) / secondsInOneMinute :: countedMinutes (countedFrom last t) ts

/-- The decay over the counted minutes, up to the time `t`, at a scale of one unit for each of the
operations in between, is at least the decay over all minutes since the last operation. -/
def KeepsPace (last : ℕ) (times : List ℕ) (t : ℕ) : Prop :=
  ((countedMinutes last (times ++ [t])).map (LiquityMath.decPow minuteDecayFactor)).prod ≤
    decimalPrecision ^ times.length *
      LiquityMath.decPow minuteDecayFactor ((t - last) / secondsInOneMinute)

instance (last : ℕ) (times : List ℕ) (t : ℕ) : Decidable (KeepsPace last times t) :=
  inferInstanceAs (Decidable (_ ≤ _))

theorem countedFrom_le {last t t' : ℕ} (h : last ≤ t') (h' : t ≤ t') : countedFrom last t ≤ t' := by
  unfold countedFrom
  split_ifs
  · exact h'
  · exact h

/-- The induction is on the operations. Each of them multiplies the rate by the decay factor of the
minutes that it counts and rounds down. -/
theorem decayFromBorrowings_le {ms : List Message} (hlast : fees.lastFeeOperationTime ≤ m.timestamp)
    (hms : ∀ m' ∈ ms, m'.timestamp ≤ m.timestamp) (h : decayFromBorrowings fees ms = .ok fees') :
    ∃ rate, calcDecayedBaseRate m fees' = .ok rate ∧
      rate * decimalPrecision ^ (ms.length + 1) ≤ fees.baseRate *
        ((countedMinutes fees.lastFeeOperationTime (ms.map Message.timestamp ++ [m.timestamp])).map
          (LiquityMath.decPow minuteDecayFactor)).prod := by
  induction ms generalizing fees with
  | nil =>
      cases pure_eq_ok.1 h
      refine ⟨_, calcDecayedBaseRate_eq_ok_iff.2 ⟨hlast, rfl⟩, ?_⟩
      simp only [List.length_nil, List.map_nil, List.nil_append, countedMinutes, List.map_cons,
        List.prod_cons, List.prod_nil, Nat.zero_add, pow_one, Nat.mul_one]
      exact Nat.div_mul_le_self _ _
  | cons m₁ ms ih =>
      obtain ⟨fees₁, h₁, h⟩ := bind_eq_ok.1 h
      obtain ⟨rate₁, hrate₁, hfees₁⟩ := decayBaseRateFromBorrowing_eq_ok h₁
      obtain ⟨-, hdecayed⟩ := calcDecayedBaseRate_eq_ok_iff.1 hrate₁
      obtain ⟨hm₁, hms⟩ := List.forall_mem_cons.1 hms
      have hlast₁ : fees₁.lastFeeOperationTime ≤ m.timestamp := by
        rw [hfees₁]
        exact countedFrom_le hlast hm₁
      obtain ⟨rate, hrate, hle⟩ := ih hlast₁ hms h
      refine ⟨rate, hrate, ?_⟩
      have hround : rate₁ * decimalPrecision ≤ fees.baseRate *
          LiquityMath.decPow minuteDecayFactor
            ((m₁.timestamp - fees.lastFeeOperationTime) / secondsInOneMinute) := by
        rw [hdecayed]
        exact Nat.div_mul_le_self _ _
      rw [hfees₁] at hle
      dsimp only at hle
      simp only [List.length_cons, List.map_cons, List.cons_append, countedMinutes, List.prod_cons]
      calc
        rate * decimalPrecision ^ (ms.length + 1 + 1)
            = rate * decimalPrecision ^ (ms.length + 1) * decimalPrecision := by
          rw [pow_succ decimalPrecision (ms.length + 1), Nat.mul_assoc]
        _ ≤ rate₁ * _ * decimalPrecision := Nat.mul_le_mul_right _ hle
        _ = rate₁ * decimalPrecision * _ := Nat.mul_right_comm _ _ _
        _ ≤ fees.baseRate * _ * _ := Nat.mul_le_mul_right _ hround
        _ = fees.baseRate * (_ * _) := Nat.mul_assoc _ _ _

end Borrowing

end Usdd.TroveManager

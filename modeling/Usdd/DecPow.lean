import Usdd.IssuanceSchedule

/-!
# The accuracy of decPow

For a base of at most 100%, no product of `decPow` exceeds 256 bits, and the result differs from the
exact power by at most half a unit in the last place for each factor after the first.
-/

open Transaction

namespace Usdd

namespace SafeMath

def mul (a b : ℕ) : Tx ℕ :=
  if a * b < 2 ^ 256 then pure (a * b) else .error (.message "SafeMath: multiplication overflow")

def add (a b : ℕ) : Tx ℕ :=
  if a + b < 2 ^ 256 then pure (a + b) else .error (.message "SafeMath: addition overflow")

end SafeMath

namespace LiquityMath

section Checked

/-- `decMul` on 256-bit words. -/
def decMulChecked (x y : ℕ) : Tx ℕ := do
  let prod_xy ← SafeMath.mul x y
  let sum ← SafeMath.add prod_xy (decimalPrecision / 2)
  SafeMath.div sum decimalPrecision

/-- The loop of `decPow` on 256-bit words. -/
def decPowLoopChecked : ℕ → ℕ → ℕ → ℕ → Tx ℕ
  | 0, y, x, _ => decMulChecked x y
  | fuel + 1, y, x, n =>
      if n > 1 then
        if n % 2 = 0 then do
          let x ← decMulChecked x x
          decPowLoopChecked fuel y x (n / 2)
        else do
          let y ← decMulChecked x y
          let x ← decMulChecked x x
          decPowLoopChecked fuel y x ((n - 1) / 2)
      else decMulChecked x y

def decPowChecked (base minutes : ℕ) : Tx ℕ :=
  let n := if minutes > 525600000 then 525600000 else minutes
  if n = 0 then pure decimalPrecision else decPowLoopChecked n decimalPrecision base n

variable {x y : ℕ}

theorem decMul_le (hx : x ≤ decimalPrecision) (hy : y ≤ decimalPrecision) :
    decMul x y ≤ decimalPrecision := by
  unfold decMul
  rw [← Nat.lt_succ_iff, Nat.div_lt_iff_lt_mul (by decide)]
  have hprod : x * y ≤ decimalPrecision * decimalPrecision := Nat.mul_le_mul hx hy
  have hsum : decimalPrecision * decimalPrecision + decimalPrecision / 2 <
      decimalPrecision.succ * decimalPrecision := by decide
  omega

theorem decMulChecked_of_le (hx : x ≤ decimalPrecision) (hy : y ≤ decimalPrecision) :
    decMulChecked x y = .ok (decMul x y) := by
  have hprod : x * y ≤ decimalPrecision * decimalPrecision := Nat.mul_le_mul hx hy
  have hword : decimalPrecision * decimalPrecision + decimalPrecision / 2 < 2 ^ 256 := by decide
  have hmul : x * y < 2 ^ 256 := by omega
  have hadd : x * y + decimalPrecision / 2 < 2 ^ 256 := by omega
  unfold decMulChecked SafeMath.mul SafeMath.add
  rw [if_pos hmul]
  refine bind_eq_ok.2 ⟨_, rfl, ?_⟩
  rw [if_pos hadd]
  exact bind_eq_ok.2 ⟨_, rfl, div_eq_ok.2 ⟨by decide, rfl⟩⟩

/-- The factors stay at or below one unit in every round. -/
theorem decPowLoopChecked_of_le {fuel n : ℕ} (hy : y ≤ decimalPrecision)
    (hx : x ≤ decimalPrecision) : decPowLoopChecked fuel y x n = .ok (decPowLoop fuel y x n) := by
  induction fuel generalizing y x n with
  | zero => exact decMulChecked_of_le hx hy
  | succ fuel ih =>
    have hsquare := decMul_le hx hx
    unfold decPowLoopChecked decPowLoop
    split_ifs
    · exact bind_eq_ok.2 ⟨_, decMulChecked_of_le hx hx, ih hy hsquare⟩
    · refine bind_eq_ok.2 ⟨_, decMulChecked_of_le hx hy, ?_⟩
      exact bind_eq_ok.2 ⟨_, decMulChecked_of_le hx hx, ih (decMul_le hx hy) hsquare⟩
    · exact decMulChecked_of_le hx hy

theorem decPowChecked_of_le {base minutes : ℕ} (h : base ≤ decimalPrecision) :
    decPowChecked base minutes = .ok (decPow base minutes) := by
  unfold decPowChecked decPow
  dsimp only
  split_ifs
  · rfl
  · exact decPowLoopChecked_of_le le_rfl h
  · rfl
  · exact decPowLoopChecked_of_le le_rfl h

end Checked

section Accuracy

/-- A product is rounded to the nearest. -/
theorem decMul_round (x y : ℕ) :
    2 * |(decMul x y : ℚ) * decimalPrecision - x * y| ≤ decimalPrecision := by
  unfold decMul
  obtain ⟨sum, hsum⟩ : ∃ sum, sum = x * y + decimalPrecision / 2 := ⟨_, rfl⟩
  have hmod : decimalPrecision * (sum / decimalPrecision) + sum % decimalPrecision = sum :=
    Nat.div_add_mod _ _
  have hlt : sum % decimalPrecision < decimalPrecision := Nat.mod_lt _ (by decide)
  have hhalf : 2 * (decimalPrecision / 2) = decimalPrecision := by decide
  rw [← hsum]
  have hmod' : (decimalPrecision : ℚ) * (sum / decimalPrecision : ℕ) + (sum % decimalPrecision : ℕ) =
      x * y + (decimalPrecision / 2 : ℕ) := by exact_mod_cast hmod.trans hsum
  have hlt' : ((sum % decimalPrecision : ℕ) : ℚ) ≤ decimalPrecision := by exact_mod_cast hlt.le
  have hnonneg : (0 : ℚ) ≤ (sum % decimalPrecision : ℕ) := Nat.cast_nonneg _
  have hhalf' : 2 * ((decimalPrecision / 2 : ℕ) : ℚ) = decimalPrecision := by exact_mod_cast hhalf
  rcases abs_cases (((sum / decimalPrecision : ℕ) : ℚ) * decimalPrecision - x * y) with
    ⟨heq, -⟩ | ⟨heq, -⟩ <;> rw [heq] <;> linarith

theorem decPow_accurate {base minutes n : ℕ} (hbase : base ≤ decimalPrecision)
    (hminutes : 1 ≤ minutes) (hn : n = min minutes 525600000) :
    decPowChecked base minutes = .ok (decPow base minutes) ∧
      decPow base minutes ≤ decimalPrecision ∧
      |(decPow base minutes : ℚ) - (base : ℚ) ^ n / 10 ^ (18 * (n - 1))| ≤ ((n : ℚ) - 1) / 2 := by
  have hpos : 0 < n := by omega
  have haccurate := RoundedPower.power_accurate (by decide)
    decMul_decimalPrecision (fun _ _ => decMul_le) decMul_round hbase hpos
  have hpower : decPow base minutes = RoundedPower.power decMul decimalPrecision base n := by
    rw [decPow_eq_power, hn]
    rfl
  have hexact : (decimalPrecision : ℚ) * (base / decimalPrecision) ^ n =
      (base : ℚ) ^ n / 10 ^ (18 * (n - 1)) := by
    obtain ⟨k, rfl⟩ : ∃ k, n = k + 1 := ⟨n - 1, by omega⟩
    have hunit : (decimalPrecision : ℚ) = 10 ^ 18 := by
      unfold decimalPrecision
      norm_num
    rw [hunit, div_pow, Nat.add_sub_cancel, pow_mul, pow_succ ((10 : ℚ) ^ 18) k]
    field_simp
  rw [← hpower, hexact] at haccurate
  have herror := haccurate.error hpos
  exact ⟨decPowChecked_of_le hbase, haccurate.le, by linarith⟩

theorem decPow_accurate_of_minute :
    decPowChecked TroveManager.minuteDecayFactor 3 =
      .ok (decPow TroveManager.minuteDecayFactor 3) ∧
    |(decPow TroveManager.minuteDecayFactor 3 : ℚ) -
      (TroveManager.minuteDecayFactor : ℚ) ^ 3 / 10 ^ 36| ≤ 1 := by
  have hbase : TroveManager.minuteDecayFactor ≤ decimalPrecision := by decide
  have hminutes : 1 ≤ 3 := by decide
  obtain ⟨hchecked, -, herror⟩ := decPow_accurate hbase hminutes rfl
  refine ⟨hchecked, ?_⟩
  norm_num at herror ⊢
  exact herror

end Accuracy

end LiquityMath

end Usdd

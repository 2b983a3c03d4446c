import Usdd.DecPow

/-!
# Decimals

The amounts of the client library have 18 digits after the point, like those of the contracts, but
they are not bounded. An `Error` that is thrown carries its message and a failed assertion its
condition.
-/

open Transaction

namespace Usdd.LibBase

@[ext] structure Decimal where
  bigNumber : ℕ
  deriving DecidableEq, Repr

namespace Decimal

def digits : ℕ := 10 ^ 18

def infinity : Decimal := ⟨2 ^ 256 - 1⟩

def zero : Decimal := ⟨0⟩

def half : Decimal := ⟨digits / 2⟩

def one : Decimal := ⟨digits⟩

instance : LT Decimal := ⟨fun a b => a.bigNumber < b.bigNumber⟩

instance (a b : Decimal) : Decidable (a < b) :=
  inferInstanceAs (Decidable (a.bigNumber < b.bigNumber))

variable (a b : Decimal)

def add : Decimal := ⟨a.bigNumber + b.bigNumber⟩

/-- The constructor does not take negative numbers. -/
def sub : Tx Decimal :=
  if b.bigNumber ≤ a.bigNumber then .ok ⟨a.bigNumber - b.bigNumber⟩
  else .error (.message "negatives not supported by Decimal")

def mul : Decimal := ⟨a.bigNumber * b.bigNumber / digits⟩

def div : Decimal :=
  if b = zero then infinity else ⟨a.bigNumber * digits / b.bigNumber⟩

def divCeil : Decimal :=
  if b = zero then infinity
  else ⟨(a.bigNumber * digits + (b.bigNumber - 1)) / b.bigNumber⟩

def mulDiv (multiplier divider : Decimal) : Decimal :=
  if divider = zero then infinity
  else ⟨a.bigNumber * multiplier.bigNumber / divider.bigNumber⟩

protected def min : Decimal := if a < b then a else b

def roundedMul (x y : ℕ) : ℕ := (x * y + half.bigNumber) / digits

/-- The squaring loop of `pow`. The exponent at least halves in a round, so a round for each unit
of it is more than enough. -/
def powLoop : ℕ → ℕ → ℕ → ℕ → ℕ
  | 0, y, x, _ => roundedMul x y
  | fuel + 1, y, x, exponent =>
      if exponent > 1 then
        powLoop fuel (if exponent &&& 1 ≠ 0 then roundedMul x y else y) (roundedMul x x)
          (exponent >>> 1)
      else roundedMul x y

def pow (exponent : ℕ) : Tx Decimal := do
  assert (exponent ≤ 0xffffffff) "0 <= exponent && exponent <= 0xffffffff"
  if exponent = 0 then pure one
  else if exponent = 1 then pure a
  else pure ⟨powLoop exponent digits a.bigNumber exponent⟩

theorem min_mk (x y : ℕ) : Decimal.min ⟨x⟩ ⟨y⟩ = ⟨min x y⟩ := by
  unfold Decimal.min
  by_cases h : x < y
  · have hlt : (⟨x⟩ : Decimal) < ⟨y⟩ := h
    rw [if_pos hlt, min_eq_left h.le]
  · have hlt : ¬(⟨x⟩ : Decimal) < ⟨y⟩ := h
    rw [if_neg hlt, min_eq_right (Nat.le_of_not_lt h)]

section Pow

variable {a} {exponent : ℕ}

theorem powLoop_eq_loop (fuel y x exponent : ℕ) :
    powLoop fuel y x exponent =
      RoundedPower.loop LiquityMath.decMul fuel y x exponent := by
  induction fuel generalizing y x exponent with
  | zero => rfl
  | succ fuel ih =>
    by_cases hlast : exponent > 1
    · have hhalf : exponent >>> 1 = exponent / 2 := Nat.shiftRight_one exponent
      rw [powLoop, if_pos hlast, ih, Nat.and_one_is_mod, hhalf]
      rcases Nat.mod_two_eq_zero_or_one exponent with heven | hodd
      · rw [RoundedPower.loop_even hlast heven, if_neg (by omega)]
        rfl
      · rw [RoundedPower.loop_odd hlast hodd, if_pos (by omega)]
        rfl
    · rw [powLoop, if_neg hlast, RoundedPower.loop_last (by omega)]
      rfl

/-- An exponent of one needs no case of its own, since a product with one unit is exact. -/
theorem pow_eq_power (h : exponent ≤ 0xffffffff) :
    a.pow exponent = .ok
      ⟨RoundedPower.power LiquityMath.decMul decimalPrecision a.bigNumber exponent⟩ := by
  refine bind_eq_ok.2 ⟨(), assert_eq_ok.2 h, ?_⟩
  unfold RoundedPower.power
  by_cases hzero : exponent = 0
  · rw [if_pos hzero, if_pos hzero]
    rfl
  · rw [if_neg hzero, if_neg hzero]
    by_cases hone : exponent = 1
    · subst hone
      rw [if_pos rfl, RoundedPower.loop_last le_rfl, LiquityMath.decMul_decimalPrecision]
      rfl
    · rw [if_neg hone, powLoop_eq_loop]
      rfl

end Pow

end Decimal

section Constants

def lusdLiquidationReserve : Decimal := ⟨200 * Decimal.digits⟩

def minimumBorrowingRate : Decimal := ⟨5 * 10 ^ 15⟩

def maximumBorrowingRate : Decimal := ⟨5 * 10 ^ 16⟩

def minimumRedemptionRate : Decimal := ⟨5 * 10 ^ 15⟩

end Constants

end Usdd.LibBase

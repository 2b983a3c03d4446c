import Mathlib.Data.Fintype.BigOperators
import Usdd.Lib.Transaction

/-!
# LiquityBase and LiquityMath

Addresses, the global constants and the arithmetic shared by the contracts. Amounts are naturals:
a 256-bit overflow would only make more calls revert.
-/

open Transaction

namespace Usdd

def Address : Type := Fin (2 ^ 160)

instance : DecidableEq Address := inferInstanceAs (DecidableEq (Fin (2 ^ 160)))

instance : Fintype Address := inferInstanceAs (Fintype (Fin (2 ^ 160)))

instance : Zero Address := ⟨Fin.ofNat (2 ^ 160) 0⟩

instance (priority := low) (n : ℕ) : OfNat Address n := ⟨Fin.ofNat (2 ^ 160) n⟩

instance : One Address := ⟨Fin.ofNat (2 ^ 160) 1⟩

def decimalPrecision : ℕ := 10 ^ 18

def MCR : ℕ := 1100000000000000000

def CCR : ℕ := 1500000000000000000

def usddGasCompensation : ℕ := 200 * 10 ^ 18

def minNetDebt : ℕ := 1800 * 10 ^ 18

def percentDivisor : ℕ := 200

def borrowingFeeFloor : ℕ := decimalPrecision / 1000 * 5

namespace LiquityMath

def nicrPrecision : ℕ := 10 ^ 20

def decMul (x y : ℕ) : ℕ := (x * y + decimalPrecision / 2) / decimalPrecision

/-- The squaring loop of `decPow`. The exponent at least halves in a round, so a round for each
unit of it is more than enough. -/
def decPowLoop : ℕ → ℕ → ℕ → ℕ → ℕ
  | 0, y, x, _ => decMul x y
  | fuel + 1, y, x, n =>
      if n > 1 then
        if n % 2 = 0 then decPowLoop fuel y (decMul x x) (n / 2)
        else decPowLoop fuel (decMul x y) (decMul x x) ((n - 1) / 2)
      else decMul x y

def decPow (base minutes : ℕ) : ℕ :=
  let n := if minutes > 525600000 then 525600000 else minutes
  if n = 0 then decimalPrecision else decPowLoop n decimalPrecision base n

def computeNominalCR (coll debt : ℕ) : ℕ :=
  if debt > 0 then coll * nicrPrecision / debt else 2 ^ 256 - 1

def computeCR (coll debt price : ℕ) : ℕ :=
  if debt > 0 then coll * price / debt else 2 ^ 256 - 1

end LiquityMath

def getCompositeDebt (debt : ℕ) : ℕ := debt + usddGasCompensation

def getNetDebt (debt : ℕ) : Tx ℕ := SafeMath.sub debt usddGasCompensation

def getCollGasCompensation (entireColl : ℕ) : ℕ := entireColl / percentDivisor

def requireUserAcceptsFee (fee amount maxFeePercentage : ℕ) : Tx Unit := do
  let feePercentage ← SafeMath.div (fee * decimalPrecision) amount
  require (feePercentage ≤ maxFeePercentage) "Fee exceeded provided maximum"

end Usdd

import Mathlib.Order.Monotone.Basic
import Mathlib.Tactic

/-!
# Powers by squaring with a rounded product

A power is computed by repeated squaring with a product that rounds, so powers of neighbouring
exponents are rounded along different paths. They stay in order when each rounded square is at most
the rounded product of all squares before it.

When a product is rounded to the nearest, the error of a power of exponent `n` is at most `n - 1`
half units: the errors of two factors add up, and their product adds another half unit.
-/

namespace RoundedPower

variable (mul : ℕ → ℕ → ℕ)

/-- The squaring loop: `y` collects the factors of the odd exponents met so far. -/
def loop : ℕ → ℕ → ℕ → ℕ → ℕ
  | 0, y, x, _ => mul x y
  | fuel + 1, y, x, n =>
      if n > 1 then
        if n % 2 = 0 then loop fuel y (mul x x) (n / 2)
        else loop fuel (mul x y) (mul x x) ((n - 1) / 2)
      else mul x y

def power (unit base n : ℕ) : ℕ := if n = 0 then unit else loop mul n unit base n

def squares (base : ℕ) : ℕ → ℕ
  | 0 => base
  | i + 1 => mul (squares base i) (squares base i)

/-- The rounded product of the first squares. -/
def products (unit base : ℕ) : ℕ → ℕ
  | 0 => unit
  | i + 1 => mul (squares mul base i) (products unit base i)

variable {mul} {unit base fuel fuel' x y y' n : ℕ}

theorem loop_even (h : 1 < n) (heven : n % 2 = 0) :
    loop mul (fuel + 1) y x n = loop mul fuel y (mul x x) (n / 2) := by
  rw [loop, if_pos h, if_pos heven]

theorem loop_odd (h : 1 < n) (hodd : n % 2 = 1) :
    loop mul (fuel + 1) y x n = loop mul fuel (mul x y) (mul x x) (n / 2) := by
  have hhalf : (n - 1) / 2 = n / 2 := by omega
  rw [loop, if_pos h, if_neg (by omega), hhalf]

theorem loop_last (h : n ≤ 1) : loop mul fuel y x n = mul x y := by
  cases fuel with
  | zero => rfl
  | succ fuel => rw [loop, if_neg (by omega)]

/-- A round for each unit of the exponent is enough. -/
theorem loop_fuel (h : n ≤ fuel + 1) (h' : n ≤ fuel' + 1) :
    loop mul fuel y x n = loop mul fuel' y x n := by
  induction fuel generalizing fuel' y x n with
  | zero => rw [loop_last h, loop_last h]
  | succ fuel ih =>
    by_cases hn : 1 < n
    · obtain ⟨fuel', rfl⟩ : ∃ k, fuel' = k + 1 := ⟨fuel' - 1, by omega⟩
      rcases Nat.mod_two_eq_zero_or_one n with heven | hodd
      · rw [loop_even hn heven, loop_even hn heven]
        exact ih (by omega) (by omega)
      · rw [loop_odd hn hodd, loop_odd hn hodd]
        exact ih (by omega) (by omega)
    · rw [loop_last (by omega), loop_last (by omega)]

theorem loop_mono (hmul : ∀ x, Monotone (mul x)) (h : y ≤ y') :
    loop mul fuel y x n ≤ loop mul fuel y' x n := by
  induction fuel generalizing y y' x n with
  | zero => exact hmul x h
  | succ fuel ih =>
    by_cases hn : 1 < n
    · rcases Nat.mod_two_eq_zero_or_one n with heven | hodd
      · rw [loop_even hn heven, loop_even hn heven]
        exact ih h
      · rw [loop_odd hn hodd, loop_odd hn hodd]
        exact ih (hmul x h)
    · rw [loop_last (by omega), loop_last (by omega)]
      exact hmul x h

section Order

variable (hmul : ∀ x, Monotone (mul x)) (hunit : ∀ x, mul x unit = x)
  (hsquares : ∀ i, squares mul base i ≤ products mul unit base i)
include hmul hunit hsquares

/-- `n` and `n + 1` differ in the trailing ones of `n` and the zero before them. The induction runs
over the ones: at the zero a square meets the product of the squares before it. -/
theorem loop_succ_le (i : ℕ) (hn : 0 < n) (h : n ≤ fuel + 1) (h' : n + 1 ≤ fuel' + 1) :
    loop mul fuel' unit (squares mul base i) (n + 1) ≤
      loop mul fuel (products mul unit base i) (squares mul base i) n := by
  induction n using Nat.strong_induction_on generalizing i fuel fuel' with
  | h n ih =>
    obtain ⟨fuel', rfl⟩ : ∃ k, fuel' = k + 1 := ⟨fuel' - 1, by omega⟩
    have hsucc : 1 < n + 1 := by omega
    rcases Nat.mod_two_eq_zero_or_one n with heven | hodd
    · obtain ⟨fuel, rfl⟩ : ∃ k, fuel = k + 1 := ⟨fuel - 1, by omega⟩
      have hhalf : (n + 1) / 2 = n / 2 := by omega
      rw [loop_odd hsucc (by omega), loop_even (by omega) heven, hhalf, hunit]
      calc
        loop mul fuel' (squares mul base i) (squares mul base (i + 1)) (n / 2)
            ≤ loop mul fuel' (products mul unit base i) (squares mul base (i + 1)) (n / 2) :=
          loop_mono hmul (hsquares i)
        _ = loop mul fuel (products mul unit base i) (squares mul base (i + 1)) (n / 2) :=
          loop_fuel (by omega) (by omega)
    · rw [loop_even hsucc (by omega)]
      by_cases hone : n = 1
      · subst hone
        rw [loop_last le_rfl, loop_last (by omega), hunit]
        exact hsquares (i + 1)
      · obtain ⟨fuel, rfl⟩ : ∃ k, fuel = k + 1 := ⟨fuel - 1, by omega⟩
        have hhalf : (n + 1) / 2 = n / 2 + 1 := by omega
        rw [loop_odd (by omega) hodd, hhalf]
        exact ih (n / 2) (by omega) (i + 1) (by omega) (by omega) (by omega)

theorem power_antitone : Antitone (power mul unit base) := by
  apply antitone_nat_of_succ_le
  intro n
  unfold power
  rw [if_neg (Nat.succ_ne_zero n)]
  by_cases hn : n = 0
  · subst hn
    rw [if_pos rfl, loop_last le_rfl, hunit]
    exact hsquares 0
  · rw [if_neg hn]
    exact loop_succ_le hmul hunit hsquares 0 (by omega) (by omega) (by omega)

end Order

theorem power_le (hmul : ∀ x, Monotone (mul x)) (hunit : ∀ x, mul x unit = x)
    (hsquares : ∀ i, squares mul base i ≤ products mul unit base i) (n : ℕ) :
    power mul unit base n ≤ unit :=
  power_antitone hmul hunit hsquares (Nat.zero_le n)

/-- The squares stay zero once they have reached it, so finitely many comparisons are enough. -/
theorem squares_le_products {k : ℕ} (hzero : mul 0 0 = 0) (hk : squares mul base k = 0)
    (h : ∀ i < k, squares mul base i ≤ products mul unit base i) (i : ℕ) :
    squares mul base i ≤ products mul unit base i := by
  have hlate (j : ℕ) : squares mul base (k + j) = 0 := by
    induction j with
    | zero => exact hk
    | succ j ih => rw [← Nat.add_assoc, squares, ih, hzero]
  by_cases hi : i < k
  · exact h i hi
  · obtain ⟨j, rfl⟩ := Nat.exists_eq_add_of_le (Nat.not_lt.1 hi)
    rw [hlate j]
    exact Nat.zero_le _

section Accuracy

/-- `x` stands for the exact amount `exact`, with an error of at most `c - 1` half units. The unit
itself is exact at weight zero. -/
structure Accurate (unit c x : ℕ) (exact : ℚ) : Prop where
  le : x ≤ unit
  nonneg : 0 ≤ exact
  exact_le : exact ≤ unit
  error : 0 < c → 2 * |(x : ℚ) - exact| ≤ c - 1
  start : c = 0 → x = unit ∧ exact = unit

theorem accurate_unit (unit : ℕ) : Accurate unit 0 unit unit where
  le := le_rfl
  nonneg := Nat.cast_nonneg unit
  exact_le := le_rfl
  error h := absurd h (lt_irrefl 0)
  start _ := ⟨rfl, rfl⟩

theorem accurate_base (h : base ≤ unit) : Accurate unit 1 base base where
  le := h
  nonneg := Nat.cast_nonneg base
  exact_le := Nat.cast_le.2 h
  error _ := by simp
  start h := absurd h one_ne_zero

variable {a c : ℕ} {p q : ℚ} (hpos : 0 < unit) (hunit : ∀ x, mul x unit = x)
  (hle : ∀ x y, x ≤ unit → y ≤ unit → mul x y ≤ unit)
  (hround : ∀ x y, 2 * |(mul x y : ℚ) * unit - x * y| ≤ unit)

include hpos hround in
/-- The errors of the factors are weighted by amounts of at most one unit. -/
theorem mul_error (hx : Accurate unit c x q) (hy : Accurate unit a y p) (hc : 0 < c) (ha : 0 < a) :
    2 * |(mul x y : ℚ) - q * p / unit| ≤ (c + a : ℕ) - 1 := by
  have hU : (0 : ℚ) < unit := Nat.cast_pos.2 hpos
  have hrounded : 2 * |(mul x y : ℚ) * unit - x * y| ≤ unit := hround x y
  have hx' : (x - q) * y ≤ |(x : ℚ) - q| * unit ∧ -(|(x : ℚ) - q| * unit) ≤ (x - q) * y := by
    have hy' : (y : ℚ) ≤ unit := Nat.cast_le.2 hy.le
    have hmul : |(x - q) * y| ≤ |(x : ℚ) - q| * unit := by
      rw [abs_mul, Nat.abs_cast]
      exact mul_le_mul_of_nonneg_left hy' (abs_nonneg _)
    exact ⟨(le_abs_self _).trans hmul, (neg_le_neg hmul).trans (neg_abs_le _)⟩
  have hy' : q * (y - p) ≤ unit * |(y : ℚ) - p| ∧ -(unit * |(y : ℚ) - p|) ≤ q * (y - p) := by
    have hmul : |q * (y - p)| ≤ unit * |(y : ℚ) - p| := by
      rw [abs_mul, abs_of_nonneg hx.nonneg]
      exact mul_le_mul_of_nonneg_right hx.exact_le (abs_nonneg _)
    exact ⟨(le_abs_self _).trans hmul, (neg_le_neg hmul).trans (neg_abs_le _)⟩
  have hsum : 2 * |(mul x y : ℚ) * unit - q * p| ≤ ((c + a : ℕ) - 1) * unit := by
    have hsplit : (mul x y : ℚ) * unit - q * p =
        (mul x y * unit - x * y) + (x - q) * y + q * (y - p) := by ring
    have hex := mul_le_mul_of_nonneg_right (hx.error hc) hU.le
    have hey := mul_le_mul_of_nonneg_right (hy.error ha) hU.le
    have habs := abs_le.1 (le_refl |(mul x y : ℚ) * unit - x * y|)
    rw [hsplit]
    push_cast
    rcases abs_cases ((mul x y : ℚ) * unit - x * y + (x - q) * y + q * (y - p)) with
      ⟨heq, -⟩ | ⟨heq, -⟩ <;> rw [heq] <;> linarith [hx'.1, hx'.2, hy'.1, hy'.2, habs.1, habs.2]
  have hscale : |(mul x y : ℚ) - q * p / unit| * unit = |(mul x y : ℚ) * unit - q * p| := by
    rw [← abs_of_pos hU, ← abs_mul, abs_of_pos hU, sub_mul, div_mul_cancel₀ _ hU.ne']
  refine le_of_mul_le_mul_right ?_ hU
  rw [mul_assoc, hscale]
  exact hsum

include hpos hunit hle hround

theorem Accurate.product (hx : Accurate unit c x q) (hy : Accurate unit a y p) (hc : 0 < c) :
    Accurate unit (c + a) (mul x y) (q * p / unit) := by
  have hU : (0 : ℚ) < unit := Nat.cast_pos.2 hpos
  rcases Nat.eq_zero_or_pos a with rfl | ha
  · obtain ⟨rfl, rfl⟩ := hy.start rfl
    rw [hunit, mul_div_cancel_right₀ _ hU.ne']
    exact hx
  · have hprod : q * p ≤ unit * unit :=
      mul_le_mul hx.exact_le hy.exact_le hy.nonneg hU.le
    exact {
      le := hle x y hx.le hy.le
      nonneg := div_nonneg (mul_nonneg hx.nonneg hy.nonneg) hU.le
      exact_le := (div_le_iff₀ hU).2 hprod
      error := fun _ => mul_error hpos hround hx hy hc ha
      start := fun h => absurd h (by omega) }

/-- The induction is on the rounds: a round doubles the weight of `x` and halves the exponent. -/
theorem loop_accurate (hx : Accurate unit c x q) (hy : Accurate unit a y p) (hc : 0 < c)
    (hn : 0 < n) (hfuel : n ≤ fuel + 1) :
    Accurate unit (a + c * n) (loop mul fuel y x n) (p * (q / unit) ^ n) := by
  have hU : (unit : ℚ) ≠ 0 := Nat.cast_ne_zero.2 hpos.ne'
  induction fuel generalizing y x n c a p q with
  | zero =>
    have hone : n = 1 := by omega
    subst hone
    have heq : p * (q / unit) ^ 1 = q * p / unit := by ring
    rw [loop_last le_rfl, heq, Nat.mul_one, Nat.add_comm]
    exact hx.product hpos hunit hle hround hy hc
  | succ fuel ih =>
    by_cases hlt : 1 < n
    · have hsquare := hx.product hpos hunit hle hround hx hc
      have hpow (k : ℕ) : (q * q / unit / unit) ^ k = (q / unit) ^ (2 * k) := by
        rw [pow_mul]
        congr 1
        ring
      rcases Nat.mod_two_eq_zero_or_one n with heven | hodd
      · have hhalf : 2 * (n / 2) = n := by omega
        have hweight : a + (c + c) * (n / 2) = a + c * n := by
          rw [← two_mul, Nat.mul_comm 2, Nat.mul_assoc, hhalf]
        have hloop := ih hsquare hy (by omega) (n := n / 2) (by omega) (by omega)
        rw [hpow, hhalf, hweight] at hloop
        rw [loop_even hlt heven]
        exact hloop
      · have hhalf : 2 * (n / 2) + 1 = n := by omega
        have hweight : c + a + (c + c) * (n / 2) = a + c * n := by
          rw [← two_mul, Nat.mul_comm 2, Nat.mul_assoc]
          calc
            c + a + c * (2 * (n / 2)) = a + c * (2 * (n / 2) + 1) := by ring
            _ = a + c * n := by rw [hhalf]
        have hprod : q * p / unit * (q / unit) ^ (2 * (n / 2)) = p * (q / unit) ^ n := by
          calc
            q * p / unit * (q / unit) ^ (2 * (n / 2)) = p * (q / unit) ^ (2 * (n / 2) + 1) := by
              rw [pow_succ]
              ring
            _ = p * (q / unit) ^ n := by rw [hhalf]
        have hloop := ih hsquare (hx.product hpos hunit hle hround hy hc) (by omega) (n := n / 2)
          (by omega) (by omega)
        rw [hpow, hprod, hweight] at hloop
        rw [loop_odd hlt hodd]
        exact hloop
    · have hone : n = 1 := by omega
      subst hone
      have heq : p * (q / unit) ^ 1 = q * p / unit := by ring
      rw [loop_last le_rfl, heq, Nat.mul_one, Nat.add_comm]
      exact hx.product hpos hunit hle hround hy hc

theorem power_accurate (hbase : base ≤ unit) (hn : 0 < n) :
    Accurate unit n (power mul unit base n) (unit * (base / unit : ℚ) ^ n) := by
  unfold power
  rw [if_neg hn.ne']
  have hloop := loop_accurate hpos hunit hle hround (accurate_base hbase) (accurate_unit unit)
    one_pos hn (Nat.le_succ n)
  rw [Nat.zero_add, Nat.one_mul] at hloop
  exact hloop

end Accuracy

end RoundedPower

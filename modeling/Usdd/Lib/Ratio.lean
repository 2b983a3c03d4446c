import Mathlib.Tactic

/-!
# Ratios of naturals

Ratios are compared by cross multiplication. A ratio at a scale `p` is `c * p / d`, rounded down:
it is monotone in the exact ratio, and a strict inequality at any scale decides the exact one.

A quotient that is rounded up gives back at least what it was taken from, and by how much more is
decided by the remainder.
-/

namespace Ratio

def AtLeast (c d c' d' : ℕ) : Prop := 0 < d ∧ 0 < d' ∧ c' * d ≤ c * d'

variable {c d c' d' c'' d'' : ℕ}

theorem AtLeast.trans (h : AtLeast c d c' d') (h' : AtLeast c' d' c'' d'') :
    AtLeast c d c'' d'' := by
  obtain ⟨hd, hd', hle⟩ := h
  obtain ⟨-, hd'', hle'⟩ := h'
  refine ⟨hd, hd'', Nat.le_of_mul_le_mul_right (c := d') ?_ hd'⟩
  calc
    c'' * d * d' = c'' * d' * d := by ring
    _ ≤ c' * d'' * d := Nat.mul_le_mul_right d hle'
    _ = c' * d * d'' := by ring
    _ ≤ c * d' * d'' := Nat.mul_le_mul_right d'' hle
    _ = c * d'' * d' := by ring

theorem AtLeast.div_le (h : AtLeast c d c' d') (p : ℕ) : c' * p / d' ≤ c * p / d := by
  obtain ⟨hd, hd', hle⟩ := h
  rw [Nat.le_div_iff_mul_le hd]
  refine Nat.le_of_mul_le_mul_right (c := d') ?_ hd'
  calc
    c' * p / d' * d * d' = c' * p / d' * d' * d := by ring
    _ ≤ c' * p * d := Nat.mul_le_mul_right d (Nat.div_mul_le_self _ _)
    _ = c' * d * p := by ring
    _ ≤ c * d' * p := Nat.mul_le_mul_right p hle
    _ = c * p * d' := by ring

theorem AtLeast.of_div_lt (hd : 0 < d) (hd' : 0 < d') {p : ℕ} (h : c' * p / d' < c * p / d) :
    AtLeast c d c' d' := by
  refine ⟨hd, hd', ?_⟩
  by_contra hlt
  have hrev : AtLeast c' d' c d := ⟨hd', hd, (not_le.1 hlt).le⟩
  exact absurd (hrev.div_le p) (not_le.2 h)

/-- The rounded ratio does not fall when the denominator grows by `y` and the numerator by `x`. -/
theorem div_le_div_add_iff (hd : 0 < d) (x y : ℕ) :
    c / d ≤ (c + x) / (d + y) ↔ c / d * y ≤ x + c % d := by
  have hc : d * (c / d) + c % d = c := Nat.div_add_mod c d
  have hmul : c / d * (d + y) = d * (c / d) + c / d * y := by ring
  rw [Nat.le_div_iff_mul_le (Nat.add_pos_left hd y), hmul]
  omega

section Overshoot

variable {p r x : ℕ}

/-- By how much `x` is exceeded when it is divided by `(p + r) / p`, rounded up, and multiplied by
it again, rounded down. -/
def overshoot (p r x : ℕ) : ℕ :=
  if x * p % (p + r) = 0 then 0 else (p + r - x * p % (p + r)) / p

theorem ceil_mul_div (hp : 0 < p) :
    (x * p + (p + r - 1)) / (p + r) * (p + r) / p = x + overshoot p r x := by
  obtain ⟨rem, hrem⟩ : ∃ rem, x * p % (p + r) = rem := ⟨_, rfl⟩
  obtain ⟨q, hq⟩ : ∃ q, x * p / (p + r) = q := ⟨_, rfl⟩
  have hdiv : (p + r) * q + rem = x * p := by
    rw [← hq, ← hrem]
    exact Nat.div_add_mod _ _
  have hlt : rem < p + r := by
    rw [← hrem]
    exact Nat.mod_lt _ (Nat.add_pos_left hp r)
  unfold overshoot
  rw [hrem, ← hdiv]
  by_cases hzero : rem = 0
  · subst hzero
    have hceil : ((p + r) * q + 0 + (p + r - 1)) / (p + r) = q := by
      rw [Nat.add_zero, Nat.mul_add_div (Nat.add_pos_left hp r), Nat.div_eq_of_lt (by omega),
        Nat.add_zero]
    have hback : q * (p + r) = x * p := by
      rw [Nat.mul_comm]
      omega
    rw [hceil, hback, if_pos rfl, Nat.mul_div_cancel _ hp]
    rfl
  · have hceil : ((p + r) * q + rem + (p + r - 1)) / (p + r) = q + 1 := by
      have hcarry : (rem + (p + r - 1)) / (p + r) = 1 :=
        Nat.div_eq_of_lt_le (by omega) (by omega)
      rw [Nat.add_assoc, Nat.mul_add_div (Nat.add_pos_left hp r), hcarry]
    have hback : (q + 1) * (p + r) = (p + r - rem) + p * x := by
      have hsplit : (q + 1) * (p + r) = (p + r) * q + (p + r) := by ring
      rw [hsplit, Nat.mul_comm p x]
      omega
    rw [hceil, hback, if_neg hzero, Nat.add_mul_div_left _ _ hp, Nat.add_comm]

theorem overshoot_le_one (hr : r ≤ p) : overshoot p r x ≤ 1 := by
  unfold overshoot
  split_ifs with hzero
  · exact Nat.zero_le 1
  · rcases Nat.eq_zero_or_pos p with rfl | hp
    · rw [Nat.div_zero]
      exact Nat.zero_le 1
    · apply Nat.le_of_lt_succ
      rw [Nat.div_lt_iff_lt_mul hp]
      omega

theorem overshoot_eq_zero_iff (hp : 0 < p) :
    overshoot p r x = 0 ↔ x * p % (p + r) = 0 ∨ r < x * p % (p + r) := by
  unfold overshoot
  split_ifs with hzero
  · exact iff_of_true rfl (Or.inl hzero)
  · rw [Nat.div_eq_zero_iff]
    omega

theorem overshoot_zero_left (p x : ℕ) : overshoot p 0 x = 0 := by
  unfold overshoot
  rw [Nat.add_zero, Nat.mul_mod_left, if_pos rfl]

theorem overshoot_zero_right (p r : ℕ) : overshoot p r 0 = 0 := by
  unfold overshoot
  rw [Nat.zero_mul, Nat.zero_mod, if_pos rfl]

end Overshoot

end Ratio

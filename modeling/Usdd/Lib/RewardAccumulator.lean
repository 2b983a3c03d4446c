import Usdd.Lib.UpdateSum

/-!
# Rewards per unit staked

A reward is spread over all stakes by raising one level, and the remainder of the division is
carried into the next reward. What a staker has earned is its stake times the rise of the level
since the staker's snapshot. `Covers` says that the pot pays for everything that has been earned
and for the carried remainder. Every operation of such a scheme keeps it, whatever the order of
the operations, so that no staker can ever overdraw the pot.
-/

namespace RewardAccumulator

variable {ι : Type*} [Fintype ι]

def earned (stake snapshot : ι → ℕ) (level : ℕ) (i : ι) : ℕ := stake i * (level - snapshot i)

def Covers (unit pot level remainder : ℕ) (stake snapshot : ι → ℕ) : Prop :=
  ∑ i, earned stake snapshot level i + remainder ≤ unit * pot

variable {unit pot level remainder : ℕ} {stake stake' snapshot snapshot' : ι → ℕ}

theorem sum_earned_raise (h : ∀ i, snapshot i ≤ level) (rise : ℕ) :
    ∑ i, earned stake snapshot (level + rise) i =
      ∑ i, earned stake snapshot level i + rise * ∑ i, stake i := by
  rw [Finset.mul_sum, ← Finset.sum_add_distrib]
  apply Finset.sum_congr rfl
  intro i _
  have hi : level + rise - snapshot i = (level - snapshot i) + rise := by
    have := h i
    omega
  simp only [earned, hi, Nat.mul_add, Nat.mul_comm]

/-- The level rises by no more than the pot can pay for. -/
theorem Covers.raise (h : Covers unit pot level remainder stake snapshot)
    (hs : ∀ i, snapshot i ≤ level) {rise amount remainder' : ℕ}
    (hr : rise * ∑ i, stake i + remainder' ≤ unit * amount + remainder) :
    Covers unit (pot + amount) (level + rise) remainder' stake snapshot := by
  unfold Covers at *
  rw [sum_earned_raise hs, Nat.mul_add]
  omega

theorem Covers.distribute (h : Covers unit pot level remainder stake snapshot)
    (hs : ∀ i, snapshot i ≤ level) (amount : ℕ) :
    Covers unit (pot + amount) (level + (amount * unit + remainder) / ∑ i, stake i)
      (amount * unit + remainder - (amount * unit + remainder) / (∑ i, stake i) * ∑ i, stake i)
      stake snapshot := by
  apply h.raise hs
  have hd := Nat.div_mul_le_self (amount * unit + remainder) (∑ i, stake i)
  rw [Nat.mul_comm unit amount]
  omega

/-- The pot pays for all shares and for what has been reserved. -/
theorem Covers.sum_share_add_le {reserved : ℕ}
    (h : Covers unit pot level (unit * reserved + remainder) stake snapshot) (hu : 0 < unit) :
    ∑ i, earned stake snapshot level i / unit + reserved ≤ pot := by
  apply Nat.le_of_mul_le_mul_left _ hu
  calc
    unit * (∑ i, earned stake snapshot level i / unit + reserved) =
        ∑ i, unit * (earned stake snapshot level i / unit) + unit * reserved := by
      rw [Nat.mul_add, Finset.mul_sum]
    _ ≤ ∑ i, earned stake snapshot level i + unit * reserved :=
      Nat.add_le_add_right (Finset.sum_le_sum (fun i _ => Nat.mul_div_le _ _)) _
    _ ≤ ∑ i, earned stake snapshot level i + (unit * reserved + remainder) :=
      Nat.add_le_add_left (Nat.le_add_right _ _) _
    _ ≤ unit * pot := h

theorem Covers.sum_share_le (h : Covers unit pot level remainder stake snapshot)
    (hu : 0 < unit) : ∑ i, earned stake snapshot level i / unit ≤ pot := by
  rw [← Nat.zero_add remainder, ← Nat.mul_zero unit] at h
  exact h.sum_share_add_le hu

theorem Covers.share_le (h : Covers unit pot level remainder stake snapshot) (hu : 0 < unit)
    (i : ι) : earned stake snapshot level i / unit ≤ pot :=
  (UpdateSum.single_le_sum (fun i => earned stake snapshot level i / unit) i).trans
    (h.sum_share_le hu)

/-- One staker's stake and snapshot change, and a part of what it has earned is set aside. -/
theorem Covers.settle [DecidableEq ι] (h : Covers unit pot level remainder stake snapshot) (i : ι)
    (hstake : ∀ j, j ≠ i → stake' j = stake j) (hsnapshot : ∀ j, j ≠ i → snapshot' j = snapshot j)
    {remainder' : ℕ}
    (he : earned stake' snapshot' level i + remainder' ≤ earned stake snapshot level i + remainder) :
    Covers unit pot level remainder' stake' snapshot' := by
  unfold Covers at *
  have hsum := UpdateSum.sum_change i (f := earned stake' snapshot' level)
    (g := earned stake snapshot level)
    (fun j hj => by simp only [earned, hstake j hj, hsnapshot j hj])
  omega

/-- What is set aside leaves the pot. -/
theorem Covers.pay {paid : ℕ}
    (h : Covers unit pot level (unit * paid + remainder) stake snapshot) :
    Covers unit (pot - paid) level remainder stake snapshot := by
  unfold Covers at *
  rw [Nat.mul_sub]
  omega

/-- One staker's stake and snapshot change, and the pot pays `paid`. -/
theorem Covers.change [DecidableEq ι] (h : Covers unit pot level remainder stake snapshot) (i : ι)
    (hstake : ∀ j, j ≠ i → stake' j = stake j) (hsnapshot : ∀ j, j ≠ i → snapshot' j = snapshot j)
    {paid : ℕ} (he : earned stake' snapshot' level i + unit * paid ≤ earned stake snapshot level i) :
    Covers unit (pot - paid) level remainder stake' snapshot' := by
  apply Covers.pay
  apply h.settle i hstake hsnapshot
  omega

end RewardAccumulator

import Mathlib.Tactic

/-!
# Stakes that shrink together

A loss that all stakes bear in proportion is not charged to each of them. It is charged to one
running product, and a stake is worth its recorded value times the product now over the product
when the stake was recorded. The product is a whole number of units. When it gets small it is
multiplied by `base` and the scale goes up by one. When a loss takes everything, a new epoch begins
with a fresh product, and no stake of an earlier epoch is worth anything.

A reward that is spread in proportion to the stakes is added to a sum for the current epoch and
scale, times the product, and what a stake has earned is read off the sums of its own scale and the
next one.

`share` and `gain` are the exact values, without rounding. A charge scales all shares alike, and a
recorded reward adds to a gain no more than the share earns.
-/

namespace CompoundingStake

structure Clock where
  product : ℕ
  scale : ℕ
  epoch : ℕ
  deriving DecidableEq

variable (unit base : ℕ)

/-- The clock after a loss that leaves `factor` of every `unit`. -/
def charge (now : Clock) (factor : ℕ) : Clock :=
  if factor = 0 then ⟨unit, 0, now.epoch + 1⟩
  else if now.product * factor / unit < base then
    ⟨now.product * factor * base / unit, now.scale + 1, now.epoch⟩
  else ⟨now.product * factor / unit, now.scale, now.epoch⟩

def share (now since : Clock) (stake : ℕ) : ℚ :=
  if since.epoch < now.epoch then 0
  else stake * now.product / (since.product * (base : ℚ) ^ (now.scale - since.scale))

def gain (sums : ℕ → ℕ → ℕ) (start : ℕ) (since : Clock) (stake : ℕ) : ℚ :=
  stake * ((sums since.epoch since.scale - start : ℕ) +
    (sums since.epoch (since.scale + 1) : ℚ) / base) / since.product

def record (sums : ℕ → ℕ → ℕ) (epoch scale amount : ℕ) : ℕ → ℕ → ℕ :=
  Function.update sums epoch (Function.update (sums epoch) scale (sums epoch scale + amount))

/-- The clock `since` is one that may have been read before `now`. -/
structure Clock.Precedes (since now : Clock) : Prop where
  product : 0 < since.product
  epoch : since.epoch ≤ now.epoch
  scale : since.epoch = now.epoch → since.scale ≤ now.scale

/-- Nothing has been recorded for a scale that is not reached. -/
def Unreached (sums : ℕ → ℕ → ℕ) (now : Clock) : Prop :=
  ∀ epoch scale, now.epoch < epoch ∨ now.epoch = epoch ∧ now.scale < scale → sums epoch scale = 0

/-- Within an epoch the product has not grown, apart from the changes of scale. -/
def Clock.Shrinks (base : ℕ) (since now : Clock) : Prop :=
  since.epoch = now.epoch → now.product ≤ since.product * base ^ (now.scale - since.scale)

variable {unit base} {now since later : Clock} {sums : ℕ → ℕ → ℕ} {stake start factor rate : ℕ}

theorem Clock.Precedes.refl (h : 0 < now.product) : now.Precedes now :=
  ⟨h, le_rfl, fun _ => le_rfl⟩

theorem Clock.Precedes.trans (h : since.Precedes now) (h' : now.Precedes later) :
    since.Precedes later := by
  refine ⟨h.product, h.epoch.trans h'.epoch, fun he => ?_⟩
  have he' : since.epoch = now.epoch := le_antisymm h.epoch (he ▸ h'.epoch)
  exact (h.scale he').trans (h'.scale (he'.symm.trans he))

section Share

theorem share_nonneg (now since : Clock) (stake : ℕ) : 0 ≤ share base now since stake := by
  unfold share
  split_ifs
  · exact le_rfl
  · positivity

theorem share_zero (now since : Clock) : share base now since 0 = 0 := by
  simp [share]

theorem share_self (h : 0 < now.product) (stake : ℕ) : share base now now stake = stake := by
  have hne : (now.product : ℚ) ≠ 0 := Nat.cast_ne_zero.2 h.ne'
  simp [share, hne]

theorem precedes_charge (h : 0 < now.product) (factor : ℕ) :
    now.Precedes (charge unit base now factor) := by
  unfold charge
  split_ifs
  · exact ⟨h, Nat.le_succ _, fun he => absurd he (Nat.lt_succ_self _).ne⟩
  · exact ⟨h, le_rfl, fun _ => Nat.le_succ _⟩
  · exact ⟨h, le_rfl, fun _ => le_rfl⟩

/-- How a clock that only moves the product and the scale moves the shares. -/
theorem share_of_same_epoch (h : since.Precedes now) (hnow : 0 < now.product) (hbase : 0 < base)
    (hepoch : later.epoch = now.epoch) (hscale : now.scale ≤ later.scale) :
    share base later since stake = later.product /
      (now.product * (base : ℚ) ^ (later.scale - now.scale)) * share base now since stake := by
  unfold share
  rw [hepoch]
  split_ifs with he
  · rw [mul_zero]
  · have hle : since.scale ≤ now.scale := h.scale (le_antisymm h.epoch (not_lt.1 he))
    have hdiff : later.scale - since.scale =
        (later.scale - now.scale) + (now.scale - since.scale) := by omega
    have hn : (now.product : ℚ) ≠ 0 := Nat.cast_ne_zero.2 hnow.ne'
    have hs : (since.product : ℚ) ≠ 0 := Nat.cast_ne_zero.2 h.product.ne'
    have hb : (base : ℚ) ≠ 0 := Nat.cast_ne_zero.2 hbase.ne'
    rw [hdiff, pow_add]
    field_simp

/-- A charge scales every share by the same ratio, and by no more than the factor. -/
theorem share_charge (hnow : 0 < now.product) (hunit : 0 < unit) (hbase : 0 < base)
    (factor : ℕ) : ∃ ratio : ℚ, 0 ≤ ratio ∧ ratio ≤ factor / unit ∧
      ∀ since stake, since.Precedes now →
        share base (charge unit base now factor) since stake = ratio * share base now since stake := by
  have hn : (0 : ℚ) < now.product := Nat.cast_pos.2 hnow
  have hb : (0 : ℚ) < base := Nat.cast_pos.2 hbase
  have hu : (0 : ℚ) < unit := Nat.cast_pos.2 hunit
  unfold charge
  split_ifs with hf hs
  · refine ⟨0, le_rfl, by positivity, fun since stake h => ?_⟩
    have hlt : since.epoch < now.epoch + 1 := Nat.lt_succ_of_le h.epoch
    rw [zero_mul, share, if_pos hlt]
  · refine ⟨_, by positivity, ?_,
      fun since stake h => share_of_same_epoch h hnow hbase rfl (Nat.le_succ _)⟩
    have hle : ((now.product * factor * base / unit : ℕ) : ℚ) ≤
        now.product * factor * base / unit := by
      refine Nat.cast_div_le.trans (le_of_eq ?_)
      push_cast
      rfl
    dsimp only
    rw [Nat.add_sub_cancel_left, pow_one, div_le_iff₀ (mul_pos hn hb)]
    refine hle.trans (le_of_eq ?_)
    ring
  · refine ⟨_, by positivity, ?_,
      fun since stake h => share_of_same_epoch h hnow hbase rfl le_rfl⟩
    have hle : ((now.product * factor / unit : ℕ) : ℚ) ≤ now.product * factor / unit := by
      refine Nat.cast_div_le.trans (le_of_eq ?_)
      push_cast
      rfl
    dsimp only
    rw [Nat.sub_self, pow_zero, mul_one, div_le_iff₀ hn]
    refine hle.trans (le_of_eq ?_)
    ring

theorem Clock.Shrinks.refl (now : Clock) : now.Shrinks base now := by
  intro _
  rw [Nat.sub_self, pow_zero, Nat.mul_one]

theorem Clock.Shrinks.charge (h : since.Shrinks base now) (hp : since.Precedes now)
    (hfactor : factor ≤ unit) : since.Shrinks base (charge unit base now factor) := by
  have hround {x y : ℕ} (hxy : x ≤ unit * y) : x / unit ≤ y := Nat.div_le_of_le_mul hxy
  unfold CompoundingStake.charge
  split_ifs with hf hs
  · intro (he : since.epoch = now.epoch + 1)
    exact absurd hp.epoch (by omega)
  · intro he
    have hscale : since.scale ≤ now.scale := hp.scale he
    have hdiff : now.scale + 1 - since.scale = now.scale - since.scale + 1 := by omega
    dsimp only
    rw [hdiff, pow_succ, ← Nat.mul_assoc]
    refine (hround ?_).trans (Nat.mul_le_mul_right base (h he))
    calc
      now.product * factor * base ≤ now.product * unit * base :=
        Nat.mul_le_mul_right _ (Nat.mul_le_mul_left _ hfactor)
      _ = unit * (now.product * base) := by ring
  · intro he
    refine (hround ?_).trans (h he)
    rw [Nat.mul_comm unit]
    exact Nat.mul_le_mul_left _ hfactor

theorem share_le_stake (h : since.Shrinks base now) (hp : since.Precedes now) (stake : ℕ) :
    share base now since stake ≤ stake := by
  unfold share
  split_ifs with he
  · exact Nat.cast_nonneg _
  · have hle := h (le_antisymm hp.epoch (not_lt.1 he))
    refine div_le_of_le_mul₀ (by positivity) (Nat.cast_nonneg _) ?_
    exact_mod_cast Nat.mul_le_mul_left stake hle

/-- A total that covers weighted shares covers them after a charge that takes the loss from both. -/
theorem sum_share_charge_le {ι : Type*} (s : Finset ι) (weight : ι → ℚ) (clock : ι → Clock)
    (value : ι → ℕ) (hnow : 0 < now.product) (hunit : 0 < unit) (hbase : 0 < base)
    (hweight : ∀ i ∈ s, 0 ≤ weight i) (hclock : ∀ i ∈ s, value i ≠ 0 → (clock i).Precedes now)
    (factor : ℕ) :
    ∑ i ∈ s, weight i * share base (charge unit base now factor) (clock i) (value i) ≤
      factor / unit * ∑ i ∈ s, weight i * share base now (clock i) (value i) := by
  obtain ⟨ratio, hnonneg, hle, hshare⟩ := share_charge hnow hunit hbase factor
  rw [Finset.mul_sum]
  refine Finset.sum_le_sum (fun i hi => ?_)
  have hscaled : share base (charge unit base now factor) (clock i) (value i) =
      ratio * share base now (clock i) (value i) := by
    by_cases hv : value i = 0
    · rw [hv, share_zero, share_zero, mul_zero]
    · exact hshare _ _ (hclock i hi hv)
  rw [hscaled, mul_left_comm]
  exact mul_le_mul_of_nonneg_right hle (mul_nonneg (hweight i hi) (share_nonneg _ _ _))

end Share

section Gain

theorem gain_nonneg (sums : ℕ → ℕ → ℕ) (start : ℕ) (since : Clock) (stake : ℕ) :
    0 ≤ gain base sums start since stake := by
  unfold gain
  positivity

theorem gain_zero (sums : ℕ → ℕ → ℕ) (start : ℕ) (since : Clock) :
    gain base sums start since 0 = 0 := by
  simp [gain]

/-- The rounded gain, in units. -/
theorem floor_gain_le (hunit : 0 < unit) :
    ((stake * (sums since.epoch since.scale - start + sums since.epoch (since.scale + 1) / base) /
      since.product / unit : ℕ) : ℚ) * unit ≤ gain base sums start since stake := by
  have hu : (0 : ℚ) < unit := Nat.cast_pos.2 hunit
  rw [← le_div_iff₀ hu]
  refine Nat.cast_div_le.trans (div_le_div_of_nonneg_right ?_ hu.le)
  refine Nat.cast_div_le.trans ?_
  unfold gain
  rw [Nat.cast_mul, Nat.cast_add]
  have hle : ((sums since.epoch (since.scale + 1) / base : ℕ) : ℚ) ≤
      (sums since.epoch (since.scale + 1) : ℚ) / base := Nat.cast_div_le
  gcongr

theorem le_record (sums : ℕ → ℕ → ℕ) (epoch scale amount e s : ℕ) :
    sums e s ≤ record sums epoch scale amount e s := by
  unfold record
  by_cases he : e = epoch
  · subst he
    rw [Function.update_self]
    by_cases hs : s = scale
    · subst hs
      rw [Function.update_self]
      exact Nat.le_add_right _ _
    · rw [Function.update_of_ne hs]
  · rw [Function.update_of_ne he]

/-- Rewards recorded at `now` raise a gain by no more than the share earns. -/
theorem gain_record_le (h : since.Precedes now) (hbase : 0 < base)
    (hstart : start ≤ sums since.epoch since.scale) :
    gain base (record sums now.epoch now.scale (rate * now.product)) start since stake ≤
      gain base sums start since stake + rate * share base now since stake := by
  have hb : (base : ℚ) ≠ 0 := Nat.cast_ne_zero.2 hbase.ne'
  have hs : (since.product : ℚ) ≠ 0 := Nat.cast_ne_zero.2 h.product.ne'
  have hshare : 0 ≤ (rate : ℚ) * share base now since stake :=
    mul_nonneg (Nat.cast_nonneg _) (share_nonneg _ _ _)
  by_cases he : since.epoch = now.epoch
  · have hle := h.scale he
    have hnlt : ¬ since.epoch < now.epoch := he.not_lt
    rcases Nat.lt_trichotomy now.scale (since.scale + 1) with hlt | heq | hgt
    · have hsame : now.scale = since.scale := by omega
      have hsub : sums now.epoch now.scale + rate * now.product - start =
          sums now.epoch now.scale - start + rate * now.product := by
        rw [he, ← hsame] at hstart
        omega
      apply le_of_eq
      unfold gain share record
      rw [if_neg hnlt, he, hsame, Function.update_self, ← hsame, Function.update_self, hsub,
        Function.update_of_ne (Nat.succ_ne_self _), Nat.sub_self, pow_zero]
      push_cast
      field_simp
      ring
    · have hdiff : now.scale - since.scale = 1 := by omega
      apply le_of_eq
      unfold gain share record
      rw [if_neg hnlt, he, hdiff, Function.update_self, ← heq, Function.update_self,
        Function.update_of_ne (by omega : since.scale ≠ now.scale), pow_one]
      push_cast
      field_simp
      ring
    · have hsame : gain base (record sums now.epoch now.scale (rate * now.product)) start since
          stake = gain base sums start since stake := by
        unfold gain record
        rw [he, Function.update_self, Function.update_of_ne (by omega : since.scale ≠ now.scale),
          Function.update_of_ne (by omega : since.scale + 1 ≠ now.scale)]
      rw [hsame]
      linarith
  · have hsame : gain base (record sums now.epoch now.scale (rate * now.product)) start since
        stake = gain base sums start since stake := by
      unfold gain record
      rw [Function.update_of_ne he]
    rw [hsame]
    linarith

/-- A stake that has just been recorded has earned nothing. -/
theorem gain_self (h : Unreached sums now) (stake : ℕ) :
    gain base sums (sums now.epoch now.scale) now stake = 0 := by
  unfold gain
  rw [h now.epoch (now.scale + 1) (Or.inr ⟨rfl, Nat.lt_succ_self _⟩)]
  simp

theorem Unreached.record (h : Unreached sums now) (amount : ℕ) :
    Unreached (record sums now.epoch now.scale amount) now := by
  intro epoch scale hlt
  unfold CompoundingStake.record
  by_cases he : epoch = now.epoch
  · subst he
    have hs : scale ≠ now.scale := by omega
    rw [Function.update_self, Function.update_of_ne hs]
    exact h _ _ hlt
  · rw [Function.update_of_ne he]
    exact h _ _ hlt

theorem Unreached.mono (h : Unreached sums now) (hl : now.Precedes later) :
    Unreached sums later := by
  intro epoch scale hlt
  apply h
  rcases hlt with hlt | ⟨rfl, hlt⟩
  · exact Or.inl (hl.epoch.trans_lt hlt)
  · rcases hl.epoch.lt_or_eq with hlt' | heq
    · exact Or.inl hlt'
    · exact Or.inr ⟨heq, (hl.scale heq).trans_lt hlt⟩

end Gain

end CompoundingStake

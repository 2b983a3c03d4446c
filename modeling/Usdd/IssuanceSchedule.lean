import Usdd.Lib.RoundedPower
import Usdd.Protocol

/-!
# The issuance schedule

The decay factors of `decPow` never increase with the minutes, so what has been issued only depends
on the time of the last call.
-/

open Transaction

namespace Usdd

namespace LiquityMath

theorem decMul_mono (x : ℕ) : Monotone (decMul x) := by
  intro y y' h
  apply Nat.div_le_div_right
  exact Nat.add_le_add_right (Nat.mul_le_mul_left x h) _

theorem decMul_decimalPrecision (x : ℕ) : decMul x decimalPrecision = x := by
  unfold decMul
  rw [Nat.mul_comm, Nat.mul_add_div (by decide)]
  rfl

theorem decPowLoop_eq_loop (fuel y x n : ℕ) :
    decPowLoop fuel y x n = RoundedPower.loop decMul fuel y x n := by
  induction fuel generalizing y x n with
  | zero => rfl
  | succ fuel ih => simp only [decPowLoop, RoundedPower.loop, ih]

def maxMinutes : ℕ := 525600000

theorem decPow_eq_power (base minutes : ℕ) :
    decPow base minutes =
      RoundedPower.power decMul decimalPrecision base (min minutes maxMinutes) := by
  have hcap : (if minutes > 525600000 then 525600000 else minutes) = min minutes maxMinutes := by
    unfold maxMinutes
    split_ifs <;> omega
  simp only [decPow, RoundedPower.power, hcap, decPowLoop_eq_loop]

theorem decPow_zero (base : ℕ) : decPow base 0 = decimalPrecision := rfl

section Order

variable {base : ℕ} (h : ∀ i, RoundedPower.squares decMul base i ≤
  RoundedPower.products decMul decimalPrecision base i)
include h

theorem decPow_antitone : Antitone (decPow base) := by
  intro m n hmn
  rw [decPow_eq_power, decPow_eq_power]
  exact RoundedPower.power_antitone decMul_mono decMul_decimalPrecision h
    (min_le_min_right maxMinutes hmn)

theorem decPow_le (minutes : ℕ) : decPow base minutes ≤ decimalPrecision :=
  decPow_antitone h (Nat.zero_le minutes)

end Order

end LiquityMath

namespace CommunityIssuance

/-- The squares of the factor reach zero in the 26th round. -/
theorem issuanceFactor_squares (i : ℕ) :
    RoundedPower.squares LiquityMath.decMul issuanceFactor i ≤
      RoundedPower.products LiquityMath.decMul decimalPrecision issuanceFactor i := by
  apply RoundedPower.squares_le_products (k := 26) rfl (by decide +kernel)
  decide +kernel

theorem decPow_issuanceFactor_antitone : Antitone (LiquityMath.decPow issuanceFactor) :=
  LiquityMath.decPow_antitone issuanceFactor_squares

theorem decPow_issuanceFactor_le (minutes : ℕ) :
    LiquityMath.decPow issuanceFactor minutes ≤ decimalPrecision :=
  LiquityMath.decPow_le issuanceFactor_squares minutes

/-- What the schedule has released after some minutes. -/
def released (deftSupplyCap minutes : ℕ) : ℕ :=
  deftSupplyCap * (decimalPrecision - LiquityMath.decPow issuanceFactor minutes) / decimalPrecision

theorem released_mono (deftSupplyCap : ℕ) : Monotone (released deftSupplyCap) := by
  intro m n hmn
  apply Nat.div_le_div_right
  exact Nat.mul_le_mul_left _ (Nat.sub_le_sub_left (decPow_issuanceFactor_antitone hmn) _)

theorem released_le (deftSupplyCap minutes : ℕ) : released deftSupplyCap minutes ≤ deftSupplyCap := by
  apply Nat.div_le_of_le_mul
  rw [Nat.mul_comm]
  exact Nat.mul_le_mul_right _ (Nat.sub_le _ _)

theorem released_zero (deftSupplyCap : ℕ) : released deftSupplyCap 0 = 0 := by
  unfold released
  rw [LiquityMath.decPow_zero, Nat.sub_self, Nat.mul_zero, Nat.zero_div]

variable {D : Deployment} {m : Message} {s s' : State} {last total issuance : ℕ}

theorem getCumulativeIssuanceFraction_of_le {c : CommunityIssuance} (h : c.startTime ≤ m.timestamp) :
    getCumulativeIssuanceFraction m c = .ok (decimalPrecision -
      LiquityMath.decPow issuanceFactor ((m.timestamp - c.startTime) / secondsInOneMinute)) := by
  have hle := decPow_issuanceFactor_le ((m.timestamp - c.startTime) / secondsInOneMinute)
  unfold getCumulativeIssuanceFraction
  simp only [bind_eq_ok, sub_eq_ok, assert_eq_ok, pure_eq_ok]
  exact ⟨_, ⟨h, rfl⟩, _, ⟨hle, rfl⟩, (), Nat.sub_le _ _, rfl⟩

/-- A call succeeds exactly when no more has been issued than the schedule has released. -/
theorem issueDEFT_eq_ok_iff (hstart : 0 < s.communityIssuance.startTime)
    (h : s.communityIssuance.startTime ≤ m.timestamp) {now : ℕ}
    (hnow : now = released s.communityIssuance.deftSupplyCap
      ((m.timestamp - s.communityIssuance.startTime) / secondsInOneMinute)) :
    issueDEFT D m D.stabilityPool s = .ok (s', issuance) ↔
      s.communityIssuance.totalDEFTIssued ≤ now ∧
        issuance = now - s.communityIssuance.totalDEFTIssued ∧
        s' = { s with communityIssuance.totalDEFTIssued := now } := by
  subst hnow
  unfold issueDEFT requireCallerIsStabilityPool
  rw [getCumulativeIssuanceFraction_of_le h]
  simp only [bind_eq_ok, sub_eq_ok, require_eq_ok, pure_eq_ok, Except.ok.injEq, Prod.mk.injEq]
  constructor
  · rintro ⟨_, -, _, -, _, rfl, _, ⟨hle, rfl⟩, rfl, rfl⟩
    exact ⟨hle, rfl, rfl⟩
  · rintro ⟨hle, rfl, rfl⟩
    exact ⟨(), hstart, (), trivial, _, rfl, _, ⟨hle, rfl⟩, rfl, rfl⟩

/-- The states between calls of `issueDEFT`, with the time of the last call and the sum of all
issuances. Whatever else happens leaves the issuance alone. -/
inductive Issued (D : Deployment) : ℕ → ℕ → State → Prop
  | start {s : State} (hstart : 0 < s.communityIssuance.startTime)
      (hissued : s.communityIssuance.totalDEFTIssued = 0) :
      Issued D s.communityIssuance.startTime 0 s
  | call {last total issuance : ℕ} {m : Message} {s s' : State} (h : Issued D last total s)
      (hm : last ≤ m.timestamp) (hs : issueDEFT D m D.stabilityPool s = .ok (s', issuance)) :
      Issued D m.timestamp (total + issuance) s'
  | other {last total : ℕ} {s s' : State} (h : Issued D last total s)
      (hs : s'.communityIssuance = s.communityIssuance) : Issued D last total s'

/-- What has been issued is what the schedule had released at the last call. -/
structure OnSchedule (last total : ℕ) (c : CommunityIssuance) : Prop where
  started : 0 < c.startTime
  since : c.startTime ≤ last
  issued : c.totalDEFTIssued = total
  released : total = released c.deftSupplyCap ((last - c.startTime) / secondsInOneMinute)

theorem OnSchedule.le_released (h : OnSchedule last total s.communityIssuance)
    (hm : last ≤ m.timestamp) :
    total ≤ CommunityIssuance.released s.communityIssuance.deftSupplyCap
      ((m.timestamp - s.communityIssuance.startTime) / secondsInOneMinute) := by
  rw [h.released]
  apply released_mono
  exact Nat.div_le_div_right (Nat.sub_le_sub_right hm _)

theorem Issued.onSchedule (h : Issued D last total s) :
    OnSchedule last total s.communityIssuance := by
  induction h with
  | start hstart hissued =>
    refine ⟨hstart, le_rfl, hissued, ?_⟩
    rw [Nat.sub_self, Nat.zero_div, released_zero]
  | call h hm hs ih =>
    obtain ⟨hle, rfl, rfl⟩ := (issueDEFT_eq_ok_iff ih.started (ih.since.trans hm) rfl).1 hs
    rw [ih.issued] at hle ⊢
    exact ⟨ih.started, ih.since.trans hm, (Nat.add_sub_cancel' hle).symm, Nat.add_sub_cancel' hle⟩
  | other h hs ih =>
    rw [hs]
    exact ih

/-- The next call goes through and issues what has been released since the last one. -/
theorem Issued.next (h : Issued D last total s) (hm : last ≤ m.timestamp) :
    ∃ s' issuance, issueDEFT D m D.stabilityPool s = .ok (s', issuance) ∧
      s.communityIssuance.totalDEFTIssued ≤ s'.communityIssuance.totalDEFTIssued := by
  have hs := h.onSchedule
  have hle := hs.le_released hm
  rw [← hs.issued] at hle
  refine ⟨_, _, (issueDEFT_eq_ok_iff hs.started (hs.since.trans hm) rfl).2 ⟨hle, rfl, rfl⟩, hle⟩

end CommunityIssuance

section Results

open CommunityIssuance

theorem issuance_on_schedule {D : Deployment} {s : State} {last total : ℕ}
    (h : Issued D last total s) :
    Antitone (LiquityMath.decPow issuanceFactor) ∧
      s.communityIssuance.totalDEFTIssued = total ∧
      total = s.communityIssuance.deftSupplyCap *
        (decimalPrecision - LiquityMath.decPow issuanceFactor
          ((last - s.communityIssuance.startTime) / secondsInOneMinute)) / decimalPrecision ∧
      total ≤ s.communityIssuance.deftSupplyCap ∧
      ∀ m : Message, last ≤ m.timestamp → ∃ s' issuance,
        issueDEFT D m D.stabilityPool s = .ok (s', issuance) ∧
          s.communityIssuance.totalDEFTIssued ≤ s'.communityIssuance.totalDEFTIssued := by
  have hs := h.onSchedule
  refine ⟨decPow_issuanceFactor_antitone, hs.issued, hs.released, ?_, fun m hm => h.next hm⟩
  rw [hs.released]
  exact released_le _ _

/-- Two calls, a year apart. -/
theorem issuance_on_schedule_after_a_year : ∃ (s : State) (total : ℕ),
    0 < total ∧ s.communityIssuance.totalDEFTIssued = total ∧
      total ≤ s.communityIssuance.deftSupplyCap := by
  have hstart : Issued sampleDeployment 1 0 (initial sampleGenesis) :=
    Issued.start (s := initial sampleGenesis) (by decide) rfl
  obtain ⟨⟨s₁, first⟩, h₁, hlast⟩ : ∃ r, issueDEFT sampleDeployment ⟨4, 1, 61⟩
      sampleDeployment.stabilityPool (initial sampleGenesis) = .ok r ∧
      ∃ r', issueDEFT sampleDeployment ⟨4, 1, 31536061⟩ sampleDeployment.stabilityPool r.1 = .ok r' ∧
        0 < r.2 + r'.2 := by decide +kernel
  obtain ⟨⟨s₂, second⟩, h₂, hpos⟩ := hlast
  have h := (hstart.call (by decide) h₁).call (by decide) h₂
  rw [Nat.zero_add] at h
  obtain ⟨-, hissued, -, hle, -⟩ := issuance_on_schedule h
  exact ⟨s₂, _, hpos, hissued, hle⟩

end Results

end Usdd

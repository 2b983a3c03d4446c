import Usdd.Unipool

/-!
# Runs of Unipool

The reward time that remains, `periodFinish - lastUpdateTime`, and the time for which there has been
a supply always add up to the duration. Every update credits the stakers with no more than the
reward rate times the time that it consumes, so that what is paid and what can be claimed stay
within the reward.
-/

open Transaction RewardAccumulator

namespace Usdd.Unipool

/-- What every call keeps, for a program that was started with these parameters. -/
structure Sound (reward duration : ℕ) (o : Observed) : Prop where
  duration : o.data.duration = duration
  started : 0 < o.data.periodFinish
  totalSupply : o.data.totalSupply = ∑ u, o.data.balances u
  paid_le : ∀ u, o.data.userRewardPerTokenPaid u ≤ o.data.rewardPerTokenStored
  updated : o.data.lastUpdateTime = min o.clock o.data.periodFinish
  time : min o.data.duration o.activeTime + (o.data.periodFinish - o.data.lastUpdateTime) =
    o.data.duration
  rate : o.data.rewardRate * o.data.duration ≤ reward
  covers : Covers decimalPrecision (o.data.rewardRate * min o.data.duration o.activeTime)
    o.data.rewardPerTokenStored (decimalPrecision * (o.paid + ∑ u, o.data.rewards u))
    o.data.balances o.data.userRewardPerTokenPaid

variable {o : Observed} {s s₁ s' : Data} {reward duration now v amount : ℕ} {unipool sender account : Address}

section Views

/-- The level of the accumulator at a time `now`. -/
def levelAt (s : Data) (now : ℕ) : ℕ :=
  if s.totalSupply = 0 then s.rewardPerTokenStored
  else s.rewardPerTokenStored +
    (lastTimeRewardApplicable s now - s.lastUpdateTime) * s.rewardRate * decimalPrecision /
      s.totalSupply

theorem rewardPerToken_eq (h : s.lastUpdateTime ≤ lastTimeRewardApplicable s now) :
    rewardPerToken s now = .ok (levelAt s now) := by
  unfold rewardPerToken levelAt
  split_ifs with hsupply
  · rfl
  · exact bind_eq_ok.2 ⟨_, sub_eq_ok.2 ⟨h, rfl⟩, bind_eq_ok.2 ⟨_, div_eq_ok.2 ⟨hsupply, rfl⟩, rfl⟩⟩

theorem stored_le_levelAt (s : Data) (now : ℕ) : s.rewardPerTokenStored ≤ levelAt s now := by
  unfold levelAt
  split_ifs
  · exact le_rfl
  · exact Nat.le_add_right _ _

/-- What the account has earned at a time `now`. -/
def earnedAt (s : Data) (now : ℕ) (account : Address) : ℕ :=
  RewardAccumulator.earned s.balances s.userRewardPerTokenPaid (levelAt s now) account /
    decimalPrecision + s.rewards account

theorem earned_eq (hstarted : 0 < s.periodFinish)
    (h : s.lastUpdateTime ≤ lastTimeRewardApplicable s now)
    (hpaid : s.userRewardPerTokenPaid account ≤ s.rewardPerTokenStored) :
    earned s now account = .ok (earnedAt s now account) := by
  unfold earned
  rw [if_neg hstarted.ne']
  exact bind_eq_ok.2 ⟨_, rewardPerToken_eq h,
    bind_eq_ok.2 ⟨_, sub_eq_ok.2 ⟨hpaid.trans (stored_le_levelAt s now), rfl⟩, rfl⟩⟩

/-- Right after an update the stored level is the current one. -/
theorem levelAt_of_updated (h : s.lastUpdateTime = lastTimeRewardApplicable s now) :
    levelAt s now = s.rewardPerTokenStored := by
  unfold levelAt
  split_ifs
  · rfl
  · rw [h, Nat.sub_self, Nat.zero_mul, Nat.zero_mul, Nat.zero_div, Nat.add_zero]

end Views

section Time

theorem Sound.lastUpdateTime_le (h : Sound reward duration o) (hnow : o.clock ≤ now) :
    o.data.lastUpdateTime ≤ now ∧
      o.data.lastUpdateTime ≤ lastTimeRewardApplicable o.data now := by
  rw [h.updated]
  unfold lastTimeRewardApplicable
  omega

/-- The state at a time `now`, with the end of the period moved and the level raised. -/
def advanced (s : Data) (now : ℕ) : Data :=
  let s := if s.totalSupply = 0 then
    { s with periodFinish := s.periodFinish + (now - s.lastUpdateTime) } else s
  { s with
    rewardPerTokenStored := levelAt s now
    lastUpdateTime := lastTimeRewardApplicable s now }

theorem Sound.updatePeriodFinish (h : Sound reward duration o) (hnow : o.clock ≤ now) :
    ∃ s₁, Unipool.updatePeriodFinish o.data now = .ok s₁ ∧
      updateReward s₁ now = .ok (advanced o.data now) := by
  obtain ⟨hle, happlicable⟩ := h.lastUpdateTime_le hnow
  unfold Unipool.updatePeriodFinish advanced
  split_ifs with hsupply
  · refine ⟨_, bind_eq_ok.2 ⟨(), assert_eq_ok.2 h.started,
      bind_eq_ok.2 ⟨_, sub_eq_ok.2 ⟨hle, rfl⟩, rfl⟩⟩, ?_⟩
    refine bind_eq_ok.2 ⟨_, rewardPerToken_eq ?_, rfl⟩
    unfold lastTimeRewardApplicable at *
    dsimp only
    omega
  · exact ⟨_, rfl, bind_eq_ok.2 ⟨_, rewardPerToken_eq happlicable, rfl⟩⟩

theorem updatePeriodFinish_of_supply (h : s.totalSupply ≠ 0) :
    Unipool.updatePeriodFinish s now = .ok s := by
  unfold Unipool.updatePeriodFinish
  rw [if_neg h]
  rfl

/-- An idle pool keeps its reward time, and an active one consumes what passes of it. -/
theorem Sound.advance (h : Sound reward duration o) (hnow : o.clock ≤ now) :
    Sound reward duration
      { data := advanced o.data now
        clock := now
        activeTime := o.activeTimeAt now
        paid := o.paid } := by
  obtain ⟨hle, happlicable⟩ := h.lastUpdateTime_le hnow
  have htime := h.time
  have hupdated := h.updated
  by_cases hsupply : o.data.totalSupply = 0
  · have hdata : advanced o.data now = { o.data with
        periodFinish := o.data.periodFinish + (now - o.data.lastUpdateTime)
        lastUpdateTime := now } := by
      have hlevel : levelAt { o.data with
          periodFinish := o.data.periodFinish + (now - o.data.lastUpdateTime) } now =
          o.data.rewardPerTokenStored := if_pos hsupply
      have hlast : lastTimeRewardApplicable { o.data with
          periodFinish := o.data.periodFinish + (now - o.data.lastUpdateTime) } now = now := by
        unfold lastTimeRewardApplicable
        dsimp only
        omega
      unfold advanced
      rw [if_pos hsupply]
      dsimp only
      rw [hlevel, hlast]
    have hactive : o.activeTimeAt now = o.activeTime := by
      rw [Observed.activeTimeAt, if_pos hsupply, Nat.add_zero]
    rw [hdata, hactive]
    constructor
    · exact h.duration
    · exact h.started.trans_le (Nat.le_add_right _ _)
    · exact h.totalSupply
    · exact h.paid_le
    · dsimp only
      omega
    · dsimp only
      omega
    · exact h.rate
    · exact h.covers
  · have hdata : advanced o.data now = { o.data with
        rewardPerTokenStored := levelAt o.data now
        lastUpdateTime := lastTimeRewardApplicable o.data now } := by
      unfold advanced
      rw [if_neg hsupply]
    have hactive : o.activeTimeAt now = o.activeTime + (now - o.clock) := by
      rw [Observed.activeTimeAt, if_neg hsupply]
    have hconsumed : min o.data.duration (o.activeTime + (now - o.clock)) =
        min o.data.duration o.activeTime +
          (lastTimeRewardApplicable o.data now - o.data.lastUpdateTime) := by
      unfold lastTimeRewardApplicable
      omega
    rw [hdata, hactive]
    constructor
    · exact h.duration
    · exact h.started
    · exact h.totalSupply
    · exact fun u => (h.paid_le u).trans (stored_le_levelAt o.data now)
    · rfl
    · dsimp only
      unfold lastTimeRewardApplicable at *
      omega
    · exact h.rate
    · dsimp only
      rw [hconsumed, Nat.mul_add, levelAt, if_neg hsupply]
      apply h.covers.raise h.paid_le
      rw [← h.totalSupply]
      have hdiv := Nat.div_mul_le_self
        ((lastTimeRewardApplicable o.data now - o.data.lastUpdateTime) * o.data.rewardRate *
          decimalPrecision) o.data.totalSupply
      have hcomm : decimalPrecision * (o.data.rewardRate *
          (lastTimeRewardApplicable o.data now - o.data.lastUpdateTime)) =
          (lastTimeRewardApplicable o.data now - o.data.lastUpdateTime) * o.data.rewardRate *
            decimalPrecision := by ring
      omega

end Time

section Accounts

/-- What the account has earned becomes its reward. -/
def credited (s : Data) (account : Address) : Data :=
  { s with
    rewards := Function.update s.rewards account
      (RewardAccumulator.earned s.balances s.userRewardPerTokenPaid s.rewardPerTokenStored account /
        decimalPrecision + s.rewards account)
    userRewardPerTokenPaid :=
      Function.update s.userRewardPerTokenPaid account s.rewardPerTokenStored }

theorem Sound.earned (h : Sound reward duration o) (account : Address) :
    Unipool.earned o.data o.clock account =
      .ok (RewardAccumulator.earned o.data.balances o.data.userRewardPerTokenPaid
        o.data.rewardPerTokenStored account / decimalPrecision + o.data.rewards account) := by
  rw [earned_eq h.started h.updated.le (h.paid_le account), earnedAt, levelAt_of_updated h.updated]

theorem Sound.credit (h : Sound reward duration o) (account : Address) :
    Sound reward duration { o with data := credited o.data account } where
  duration := h.duration
  started := h.started
  totalSupply := h.totalSupply
  paid_le u := by
    dsimp only [credited]
    by_cases hu : u = account
    · rw [hu, Function.update_self]
    · rw [Function.update_of_ne hu]
      exact h.paid_le u
  updated := h.updated
  time := h.time
  rate := h.rate
  covers := by
    apply h.covers.settle account
    · exact fun _ _ => rfl
    · exact fun u hu => Function.update_of_ne hu _ _
    · dsimp only [credited]
      have hsum := UpdateSum.sum_update_nat o.data.rewards account
        (RewardAccumulator.earned o.data.balances o.data.userRewardPerTokenPaid
          o.data.rewardPerTokenStored account / decimalPrecision + o.data.rewards account)
      have hdiv := Nat.mul_div_le (RewardAccumulator.earned o.data.balances
        o.data.userRewardPerTokenPaid o.data.rewardPerTokenStored account) decimalPrecision
      have hzero : RewardAccumulator.earned o.data.balances
          (Function.update o.data.userRewardPerTokenPaid account o.data.rewardPerTokenStored)
          o.data.rewardPerTokenStored account = 0 := by
        rw [RewardAccumulator.earned, Function.update_self, Nat.sub_self, Nat.mul_zero]
      rw [hzero, Nat.zero_add, show o.paid + ∑ u, Function.update o.data.rewards account _ u =
        RewardAccumulator.earned o.data.balances o.data.userRewardPerTokenPaid
          o.data.rewardPerTokenStored account / decimalPrecision +
          (o.paid + ∑ u, o.data.rewards u) by omega, Nat.mul_add]
      exact Nat.add_le_add_right hdiv _

/-- A stake changes once its rewards are credited. -/
theorem Sound.changeStake (h : Sound reward duration o) {balance totalSupply : ℕ} (uni : Address → ℕ)
    (hcredited : o.data.userRewardPerTokenPaid account = o.data.rewardPerTokenStored)
    (hsupply : totalSupply + o.data.balances account = o.data.totalSupply + balance) :
    Sound reward duration { o with
      data := { o.data with
        totalSupply := totalSupply
        balances := Function.update o.data.balances account balance
        uni := uni } } where
  duration := h.duration
  started := h.started
  totalSupply := by
    have hsum := UpdateSum.sum_update_nat o.data.balances account balance
    have hbefore := h.totalSupply
    dsimp only
    omega
  paid_le := h.paid_le
  updated := h.updated
  time := h.time
  rate := h.rate
  covers := by
    apply h.covers.settle account
    · exact fun u hu => Function.update_of_ne hu _ _
    · exact fun _ _ => rfl
    · dsimp only
      rw [RewardAccumulator.earned, hcredited, Nat.sub_self, Nat.mul_zero, Nat.zero_add]
      exact Nat.le_add_left _ _

theorem Sound.payReward (h : Sound reward duration o) (account : Address) (deft : Address → ℕ) :
    Sound reward duration { o with
      data := { o.data with rewards := Function.update o.data.rewards account 0, deft := deft }
      paid := o.paid + o.data.rewards account } where
  duration := h.duration
  started := h.started
  totalSupply := h.totalSupply
  paid_le := h.paid_le
  updated := h.updated
  time := h.time
  rate := h.rate
  covers := by
    have hsum := UpdateSum.sum_update_nat o.data.rewards account 0
    have hsame : o.paid + o.data.rewards account +
        ∑ u, Function.update o.data.rewards account 0 u = o.paid + ∑ u, o.data.rewards u := by
      omega
    dsimp only
    rw [hsame]
    exact h.covers

end Accounts

section Calls

/-- The state from which a call at a time `now` goes on, once it has updated the accounts of its
caller. -/
def Observed.touched (o : Observed) (now : ℕ) (account : Address) : Observed where
  data := credited (advanced o.data now) account
  clock := now
  activeTime := o.activeTimeAt now
  paid := o.paid

theorem Sound.touch (h : Sound reward duration o) (hnow : o.clock ≤ now) (account : Address) :
    Sound reward duration (o.touched now account) := (h.advance hnow).credit account

theorem Sound.updateAccountReward (h : Sound reward duration o) (hnow : o.clock ≤ now)
    (h₁ : Unipool.updatePeriodFinish o.data now = .ok s₁) :
    updateAccountReward s₁ now account = .ok s' ↔
      account ≠ 0 ∧ s' = (o.touched now account).data := by
  obtain ⟨_, h₁', h₂⟩ := h.updatePeriodFinish hnow
  rw [h₁] at h₁'
  cases h₁'
  unfold Unipool.updateAccountReward
  rw [h₂, ok_bind]
  have hearned := (h.advance hnow).earned account
  dsimp only at hearned
  simp only [bind_eq_ok, assert_eq_ok, pure_eq_ok, hearned]
  constructor
  · rintro ⟨_, hne, _, he, rfl⟩
    cases he
    exact ⟨hne, rfl⟩
  · rintro ⟨hne, rfl⟩
    exact ⟨(), hne, _, rfl, rfl⟩

theorem touched_paid (o : Observed) (now : ℕ) (account : Address) :
    (o.touched now account).data.userRewardPerTokenPaid account =
      (o.touched now account).data.rewardPerTokenStored :=
  Function.update_self ..

theorem stake_sound (h : Sound reward duration o) (hnow : o.clock ≤ now)
    (hs : stake unipool now o.data sender amount = .ok s') :
    Sound reward duration ⟨s', now, o.activeTimeAt now, o.paid⟩ := by
  obtain ⟨_, -, hs⟩ := bind_eq_ok.1 hs
  obtain ⟨_, -, hs⟩ := bind_eq_ok.1 hs
  obtain ⟨_, -, hs⟩ := bind_eq_ok.1 hs
  obtain ⟨s₁, h₁, hs⟩ := bind_eq_ok.1 hs
  obtain ⟨s₂, h₂, hs⟩ := bind_eq_ok.1 hs
  obtain ⟨uni, -, hs⟩ := bind_eq_ok.1 hs
  rw [← pure_eq_ok.1 hs, ((h.updateAccountReward hnow h₁).1 h₂).2]
  apply (h.touch hnow sender).changeStake uni (touched_paid o now sender)
  dsimp only
  omega

/-- Nobody withdraws from an empty pool. -/
theorem withdraw_sound (h : Sound reward duration o) (hnow : o.clock ≤ now)
    (hw : withdraw unipool now o.data sender amount = .ok s') :
    Sound reward duration ⟨s', now, o.activeTimeAt now, o.paid⟩ := by
  obtain ⟨_, -, hw⟩ := bind_eq_ok.1 hw
  obtain ⟨_, hpos, hw⟩ := bind_eq_ok.1 hw
  obtain ⟨_, -, hw⟩ := bind_eq_ok.1 hw
  obtain ⟨s₁, h₁, hw⟩ := bind_eq_ok.1 hw
  obtain ⟨total, htotal, hw⟩ := bind_eq_ok.1 hw
  obtain ⟨balance, hbalance, hw⟩ := bind_eq_ok.1 hw
  obtain ⟨uni, -, hw⟩ := bind_eq_ok.1 hw
  obtain ⟨hle, rfl⟩ := sub_eq_ok.1 htotal
  obtain ⟨hle', rfl⟩ := sub_eq_ok.1 hbalance
  have hsame : s₁.totalSupply = o.data.totalSupply := by
    have hframe : Ensures (fun s₁ => s₁.totalSupply = o.data.totalSupply)
        (updateAccountReward o.data now sender) := by
      simp [Unipool.updateAccountReward, updateReward, rewardPerToken, Unipool.earned]
    exact hframe s₁ h₁
  have hsupply : o.data.totalSupply ≠ 0 := by
    have hpos := require_eq_ok.1 hpos
    omega
  rw [← pure_eq_ok.1 hw,
    ((h.updateAccountReward hnow (updatePeriodFinish_of_supply hsupply)).1 h₁).2] at *
  apply (h.touch hnow sender).changeStake uni (touched_paid o now sender)
  dsimp only
  omega

theorem claimReward_sound (h : Sound reward duration o) (hnow : o.clock ≤ now)
    (hc : claimReward unipool now o.data sender = .ok (s', v)) :
    Sound reward duration ⟨s', now, o.activeTimeAt now, o.paid + v⟩ := by
  obtain ⟨_, -, hc⟩ := bind_eq_ok.1 hc
  obtain ⟨_, -, hc⟩ := bind_eq_ok.1 hc
  obtain ⟨s₁, h₁, hc⟩ := bind_eq_ok.1 hc
  obtain ⟨s₂, h₂, hc⟩ := bind_eq_ok.1 hc
  obtain ⟨claim, hclaim, hc⟩ := bind_eq_ok.1 hc
  obtain ⟨_, -, hc⟩ := bind_eq_ok.1 hc
  obtain ⟨deft, -, hc⟩ := bind_eq_ok.1 hc
  have htouched := h.touch hnow sender
  obtain ⟨-, rfl⟩ := (h.updateAccountReward hnow h₁).1 h₂
  have hreward : claim = (o.touched now sender).data.rewards sender := by
    have hearned := htouched.earned sender
    rw [RewardAccumulator.earned, touched_paid, Nat.sub_self, Nat.mul_zero, Nat.zero_div,
      Nat.zero_add] at hearned
    exact Except.ok.inj (hclaim.symm.trans hearned)
  cases pure_eq_ok.1 hc
  rw [hreward]
  exact htouched.payReward sender deft

theorem perform_sound {c : Call} (h : Sound reward duration o) (hc : o.clock ≤ c.timestamp)
    (hp : perform unipool o.data c = .ok (s', v)) :
    Sound reward duration ⟨s', c.timestamp, o.activeTimeAt c.timestamp, o.paid + v⟩ := by
  obtain ⟨sender, now, action, _, _⟩ := c
  cases action with
  | stake =>
      obtain ⟨s₁, h₁, hp⟩ := bind_eq_ok.1 hp
      cases pure_eq_ok.1 hp
      exact stake_sound h hc h₁
  | withdraw =>
      obtain ⟨s₁, h₁, hp⟩ := bind_eq_ok.1 hp
      cases pure_eq_ok.1 hp
      exact withdraw_sound h hc h₁
  | withdrawAndClaim =>
      obtain ⟨_, -, hp⟩ := bind_eq_ok.1 hp
      obtain ⟨s₁, h₁, hp⟩ := bind_eq_ok.1 hp
      have hwithdrawn := withdraw_sound h hc h₁
      have hclaimed := claimReward_sound hwithdrawn le_rfl hp
      have hactive : Observed.activeTimeAt ⟨s₁, now, o.activeTimeAt now, o.paid⟩ now =
          o.activeTimeAt now := by
        rw [Observed.activeTimeAt, Nat.sub_self, ite_self, Nat.add_zero]
      rwa [hactive] at hclaimed
  | claimReward => exact claimReward_sound h hc hp

theorem step_sound {c : Call} {o' : Observed} (h : Sound reward duration o) (hc : Timely o c)
    (hs : step unipool o c = .ok o') : Sound reward duration o' := by
  obtain ⟨⟨s', v⟩, hp, hs⟩ := bind_eq_ok.1 hs
  rw [← pure_eq_ok.1 hs]
  have hbefore : Sound reward duration { o with data := { o.data with uni := c.uni, deft := c.deft } } :=
    ⟨h.duration, h.started, h.totalSupply, h.paid_le, h.updated, h.time, h.rate, h.covers⟩
  exact perform_sound (o := { o with data := { o.data with uni := c.uni, deft := c.deft } }) hbefore
    hc hp

end Calls

section Results

/-- The program starts with all of its reward time, and nothing earned. -/
theorem start_sound {owner uniToken : Address} {uni deft : Address → ℕ}
    (h : start unipool now (initial owner uniToken uni deft) sender reward duration = .ok s') :
    Sound reward duration ⟨s', now, 0, 0⟩ := by
  obtain ⟨_, -, h⟩ := bind_eq_ok.1 h
  obtain ⟨_, -, h⟩ := bind_eq_ok.1 h
  obtain ⟨_, -, h⟩ := bind_eq_ok.1 h
  obtain ⟨_, -, h⟩ := bind_eq_ok.1 h
  obtain ⟨s₁, h₁, h⟩ := bind_eq_ok.1 h
  obtain ⟨rate, hrate, h⟩ := bind_eq_ok.1 h
  cases pure_eq_ok.1 h₁
  obtain ⟨hne, rfl⟩ := div_eq_ok.1 hrate
  have hpos := Nat.pos_of_ne_zero hne
  rw [← pure_eq_ok.1 h]
  constructor
  · rfl
  · exact hpos.trans_le (Nat.le_add_left _ _)
  · simp [initial]
  · exact fun _ => le_rfl
  · exact (Nat.min_eq_left (Nat.le_add_right _ _)).symm
  · dsimp only
    omega
  · exact Nat.div_mul_le_self _ _
  · simp [Covers, RewardAccumulator.earned, initial]

theorem advanced_level (s : Data) (now : ℕ) :
    (advanced s now).rewardPerTokenStored = levelAt s now := by
  unfold advanced levelAt
  split_ifs <;> simp_all

theorem advanced_frame (s : Data) (now : ℕ) : (advanced s now).balances = s.balances ∧
    (advanced s now).userRewardPerTokenPaid = s.userRewardPerTokenPaid ∧
    (advanced s now).rewards = s.rewards ∧ (advanced s now).duration = s.duration ∧
    (advanced s now).rewardRate = s.rewardRate := by
  unfold advanced
  split_ifs <;> exact ⟨rfl, rfl, rfl, rfl, rfl⟩

/-- What can be claimed at a time `now` after the last call. -/
theorem Sound.pays (h : Sound reward duration o) (hnow : o.clock ≤ now) :
    ∃ claims : Address → ℕ, (∀ u, Unipool.earned o.data now u = .ok (claims u)) ∧
      o.paid + ∑ u, claims u ≤ o.data.rewardRate * o.consumed now ∧
      o.data.rewardRate * o.consumed now ≤ reward := by
  refine ⟨earnedAt o.data now,
    fun u => earned_eq h.started (h.lastUpdateTime_le hnow).2 (h.paid_le u), ?_, ?_⟩
  · obtain ⟨hbalances, hpaid, hrewards, hduration, hrate⟩ := advanced_frame o.data now
    have hcovers := (h.advance hnow).covers
    dsimp only at hcovers
    rw [advanced_level, hbalances, hpaid, hrewards, hduration, hrate,
      ← Nat.add_zero (decimalPrecision * _)] at hcovers
    have hshares : ∑ u, RewardAccumulator.earned o.data.balances o.data.userRewardPerTokenPaid
        (levelAt o.data now) u / decimalPrecision + (o.paid + ∑ u, o.data.rewards u) ≤
          o.data.rewardRate * o.consumed now :=
      hcovers.sum_share_add_le (by decide)
    have hsum : ∑ u, earnedAt o.data now u =
        ∑ u, RewardAccumulator.earned o.data.balances o.data.userRewardPerTokenPaid
          (levelAt o.data now) u / decimalPrecision + ∑ u, o.data.rewards u :=
      Finset.sum_add_distrib
    omega
  · exact (Nat.mul_le_mul_left _ (Nat.min_le_left _ _)).trans h.rate

/-- A run of calls whose times do not go back. -/
theorem run_sound {calls : List Call} {o' : Observed} (h : Sound reward duration o)
    (hr : run (checked (step unipool) Timely) o calls = .ok o') : Sound reward duration o' := by
  refine run_invariant ?_ h hr
  intro o₁ c o₂ h₁ hs
  obtain ⟨_, hc, hs⟩ := bind_eq_ok.1 hs
  exact step_sound h₁ (require_eq_ok.1 hc) hs

/-- Payments and claims stay within what the reward rate yields for the time with a supply, idle
time leaves the remaining time as it is, and no difference of times underflows. -/
theorem unipool_pays_within_reward {owner uniToken : Address} {uni deft : Address → ℕ}
    {startTime : ℕ} {calls : List Call}
    (hstart : start unipool startTime (initial owner uniToken uni deft) sender reward duration =
      .ok s)
    (hrun : run (checked (step unipool) Timely) ⟨s, startTime, 0, 0⟩ calls = .ok o) :
    o.consumed o.clock + (o.data.periodFinish - o.data.lastUpdateTime) = duration ∧
      ∀ now, o.clock ≤ now →
        (∃ claims : Address → ℕ, (∀ u, earned o.data now u = .ok (claims u)) ∧
          o.paid + ∑ u, claims u ≤ o.data.rewardRate * o.consumed now ∧
          o.data.rewardRate * o.consumed now ≤ reward) ∧
        o.data.lastUpdateTime ≤ now ∧
        o.data.lastUpdateTime ≤ lastTimeRewardApplicable o.data now ∧
        ∀ account, account ≠ 0 → ∃ s₁ s₂ v, updatePeriodFinish o.data now = .ok s₁ ∧
          updateAccountReward s₁ now account = .ok s₂ ∧ earned s₂ now account = .ok v ∧
          s₂.periodFinish - s₂.lastUpdateTime + o.consumed now = duration := by
  have ho := run_sound (start_sound hstart) hrun
  have hclock : o.consumed o.clock = min o.data.duration o.activeTime := by
    rw [Observed.consumed, Observed.activeTimeAt, Nat.sub_self, ite_self, Nat.add_zero]
  refine ⟨?_, fun now hnow => ⟨ho.pays hnow, (ho.lastUpdateTime_le hnow).1,
    (ho.lastUpdateTime_le hnow).2, fun account haccount => ?_⟩⟩
  · rw [hclock, ho.time, ho.duration]
  · obtain ⟨s₁, h₁, -⟩ := ho.updatePeriodFinish hnow
    have htouched := ho.touch hnow account
    have htime := htouched.time
    refine ⟨s₁, _, _, h₁, (ho.updateAccountReward hnow h₁).2 ⟨haccount, rfl⟩,
      htouched.earned account, ?_⟩
    rw [htouched.duration] at htime
    rw [Observed.consumed, ho.duration, Nat.add_comm]
    exact htime

/-- The pool is empty for a while before and after the end of its period. -/
def sampleCalls : List Call :=
  [⟨2, 15, .stake 40, fun _ => 10 ^ 6, fun _ => 10 ^ 6⟩,
    ⟨3, 20, .stake 60, fun _ => 10 ^ 6, fun _ => 10 ^ 6⟩,
    ⟨2, 50, .withdrawAndClaim, fun _ => 10 ^ 6, fun _ => 10 ^ 6⟩,
    ⟨3, 60, .withdraw 60, fun _ => 10 ^ 6, fun _ => 10 ^ 6⟩,
    ⟨3, 200, .claimReward, fun _ => 10 ^ 6, fun _ => 10 ^ 6⟩]

theorem unipool_pays_within_reward_of_sample : ∃ s o,
    start 100 10 (initial 1 99 (fun _ => 10 ^ 6) (fun _ => 10 ^ 6)) 1 1000 100 = .ok s ∧
      run (checked (step 100) Timely) ⟨s, 10, 0, 0⟩ sampleCalls = .ok o ∧ o.paid = 449 ∧
      o.consumed o.clock + (o.data.periodFinish - o.data.lastUpdateTime) = 100 := by
  obtain ⟨s, hs, o, ho, hpaid⟩ : ∃ s,
      start 100 10 (initial 1 99 (fun _ => 10 ^ 6) (fun _ => 10 ^ 6)) 1 1000 100 = .ok s ∧
      ∃ o, run (checked (step 100) Timely) ⟨s, 10, 0, 0⟩ sampleCalls = .ok o ∧ o.paid = 449 := by
    decide +kernel
  exact ⟨s, o, hs, ho, hpaid, (unipool_pays_within_reward hs ho).1⟩

end Results

end Usdd.Unipool

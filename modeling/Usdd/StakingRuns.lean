import Usdd.Staking

/-!
# Runs of DEFTStaking

Collateral and USDD fees are kept alike: each token has a level and every staker a snapshot of it.
A touched stake settles, which pays what the staker has earned in every token and takes all its
snapshots. The fees reported so far, less those that have arrived, are all that the balance of the
contract can lack.
-/

open Transaction RewardAccumulator

namespace Usdd.Staking

section Levels

variable (W : Wiring) (s : Data)

/-- The fees per unit staked, of a collateral token or of USDD. -/
def level (token : Address) : ℕ :=
  if token = W.usddToken then s.staking.fUSDD else s.staking.fColls token

def snapshot (token user : Address) : ℕ :=
  if token = W.usddToken then s.fUSDDSnapshots user else s.fCollSnapshots user token

def gain (token user : Address) : ℕ :=
  earned s.stakes (snapshot W s token) (level W s token) user / decimalPrecision

def held (token : Address) : ℕ := s.tokens token W.deftStaking

def feeTokens : List Address := W.usddToken :: W.collTokens

/-- What a list of payments amounts to in one token. -/
def paid (token : Address) : List (Address × ℕ) → ℕ
  | [] => 0
  | (t, amount) :: gains => (if t = token then amount else 0) + paid token gains

end Levels

variable {W : Wiring} {s s₁ s' : Data} {sender staker user token recipient : Address}
  {amount newStake : ℕ}

theorem gain_of_ne (h : token ≠ W.usddToken) : gain W s token user =
    s.stakes user * (s.staking.fColls token - s.fCollSnapshots user token) / decimalPrecision := by
  simp [gain, earned, level, snapshot, h]

theorem gain_usddToken : gain W s W.usddToken user =
    s.stakes user * (s.staking.fUSDD - s.fUSDDSnapshots user) / decimalPrecision := by
  simp [gain, earned, level, snapshot]

section Transfers

theorem transfer_eq_ok (h : transfer s token sender recipient amount = .ok s') :
    amount ≤ s.tokens token sender ∧ s' = { s with tokens := s'.tokens } := by
  obtain ⟨_, hsub, h⟩ := bind_eq_ok.1 h
  rw [← pure_eq_ok.1 h]
  exact ⟨(sub_eq_ok.1 hsub).1, rfl⟩

theorem transfer_of_le (recipient : Address) (h : amount ≤ s.tokens token sender) :
    ∃ s', transfer s token sender recipient amount = .ok s' :=
  ⟨_, bind_eq_ok.2 ⟨_, sub_eq_ok.2 ⟨h, rfl⟩, rfl⟩⟩

/-- What the contract holds after it has paid. -/
theorem transfer_held (hrecipient : recipient ≠ W.deftStaking)
    (h : transfer s token W.deftStaking recipient amount = .ok s') (t : Address) :
    held W s' t + (if token = t then amount else 0) = held W s t := by
  obtain ⟨_, hsub, h⟩ := bind_eq_ok.1 h
  obtain ⟨hle, rfl⟩ := sub_eq_ok.1 hsub
  rw [← pure_eq_ok.1 h]
  simp only [held]
  by_cases ht : token = t
  · subst ht
    rw [if_pos rfl, Function.update_self, Function.update_of_ne hrecipient.symm,
      Function.update_self]
    omega
  · rw [if_neg ht, Function.update_of_ne (Ne.symm ht), Nat.add_zero]

/-- What the contract holds after someone else has transferred a token. -/
theorem transfer_held_of_ne (hsender : sender ≠ W.deftStaking)
    (h : transfer s token sender recipient amount = .ok s') (t : Address) :
    held W s' t = held W s t + if token = t ∧ recipient = W.deftStaking then amount else 0 := by
  obtain ⟨_, -, h⟩ := bind_eq_ok.1 h
  rw [← pure_eq_ok.1 h]
  simp only [held]
  by_cases ht : token = t
  · subst ht
    rw [Function.update_self]
    by_cases hr : recipient = W.deftStaking
    · rw [hr, if_pos ⟨rfl, rfl⟩, Function.update_self, Function.update_of_ne hsender.symm]
    · rw [if_neg (fun h => hr h.2), Function.update_of_ne (Ne.symm hr),
        Function.update_of_ne hsender.symm, Nat.add_zero]
  · rw [if_neg (fun h => ht h.1), Function.update_of_ne (Ne.symm ht), Nat.add_zero]

theorem sendCollGains_eq_ok {gains : List (Address × ℕ)} (huser : user ≠ W.deftStaking)
    (h : sendCollGains W user gains s = .ok s') :
    s' = { s with tokens := s'.tokens } ∧
      ∀ t, held W s' t + paid t gains = held W s t := by
  induction gains generalizing s with
  | nil =>
      cases pure_eq_ok.1 h
      exact ⟨rfl, fun _ => rfl⟩
  | cons g gains ih =>
      obtain ⟨s₁, h₁, h⟩ := bind_eq_ok.1 h
      obtain ⟨hframe, hheld⟩ := ih h
      have hframe₁ := (transfer_eq_ok h₁).2
      constructor
      · rw [hframe, hframe₁]
      · intro t
        rw [← transfer_held huser h₁ t, ← hheld t, paid]
        omega

theorem sendCollGains_of_le {gains : List (Address × ℕ)} (huser : user ≠ W.deftStaking)
    (h : ∀ t, paid t gains ≤ held W s t) : ∃ s', sendCollGains W user gains s = .ok s' := by
  induction gains generalizing s with
  | nil => exact ⟨s, rfl⟩
  | cons g gains ih =>
      have hfirst : g.2 ≤ held W s g.1 := by
        have := h g.1
        rw [paid, if_pos rfl] at this
        omega
      obtain ⟨s₁, h₁⟩ := transfer_of_le user hfirst
      have hrest (t : Address) : paid t gains ≤ held W s₁ t := by
        have hheld := transfer_held huser h₁ t
        have ht := h t
        rw [paid] at ht
        omega
      obtain ⟨s', h'⟩ := ih hrest
      exact ⟨s', bind_eq_ok.2 ⟨s₁, h₁, h'⟩⟩

end Transfers

section Gains

theorem getPendingCollGain_eq_ok {g : ℕ} : getPendingCollGain s user token = .ok g ↔
    s.fCollSnapshots user token ≤ s.staking.fColls token ∧
      g = s.stakes user * (s.staking.fColls token - s.fCollSnapshots user token) /
        decimalPrecision := by
  unfold getPendingCollGain
  simp only [bind_eq_ok, sub_eq_ok, pure_eq_ok]
  constructor
  · rintro ⟨_, ⟨hle, rfl⟩, rfl⟩
    exact ⟨hle, rfl⟩
  · rintro ⟨hle, rfl⟩
    exact ⟨_, ⟨hle, rfl⟩, rfl⟩

theorem getPendingUSDDGain_eq_ok {g : ℕ} : getPendingUSDDGain s user = .ok g ↔
    s.fUSDDSnapshots user ≤ s.staking.fUSDD ∧
      g = s.stakes user * (s.staking.fUSDD - s.fUSDDSnapshots user) / decimalPrecision := by
  unfold getPendingUSDDGain
  simp only [bind_eq_ok, sub_eq_ok, pure_eq_ok]
  constructor
  · rintro ⟨_, ⟨hle, rfl⟩, rfl⟩
    exact ⟨hle, rfl⟩
  · rintro ⟨hle, rfl⟩
    exact ⟨_, ⟨hle, rfl⟩, rfl⟩

/-- The state in which the snapshots of `staker` are taken for the tokens of a list. -/
def snapshotsTaken (s : Data) (staker : Address) (collTokens : List Address) : Data :=
  { s with
    fCollSnapshots := Function.update s.fCollSnapshots staker
      (fun t => if t ∈ collTokens then s.staking.fColls t else s.fCollSnapshots staker t)
    fUSDDSnapshots :=
      if collTokens = [] then s.fUSDDSnapshots
      else Function.update s.fUSDDSnapshots staker s.staking.fUSDD }

theorem snapshotsTaken_cons (s : Data) (staker collToken : Address) (collTokens : List Address) :
    snapshotsTaken (updateUserSnapshots s staker collToken) staker collTokens =
      snapshotsTaken s staker (collToken :: collTokens) := by
  have hcoll : (fun t => if t ∈ collTokens then s.staking.fColls t else
      Function.update (s.fCollSnapshots staker) collToken (s.staking.fColls collToken) t) =
      fun t => if t ∈ collToken :: collTokens then s.staking.fColls t else
        s.fCollSnapshots staker t := by
    funext t
    by_cases ht : t = collToken
    · subst ht
      simp
    · simp [ht]
  simp [snapshotsTaken, updateUserSnapshots, hcoll]

/-- In every token of the list the staker's gain is counted once, however often the token
occurs. -/
theorem takeCollGains_eq_ok {collTokens : List Address} {r : Data × List ℕ}
    (h : takeCollGains staker collTokens s = .ok r) :
    r.1 = snapshotsTaken s staker collTokens ∧
      ∀ t, paid t (collTokens.zip r.2) = if t ∈ collTokens then
        s.stakes staker * (s.staking.fColls t - s.fCollSnapshots staker t) / decimalPrecision
        else 0 := by
  induction collTokens generalizing s r with
  | nil =>
      cases pure_eq_ok.1 h
      simp [snapshotsTaken, paid]
  | cons collToken collTokens ih =>
      obtain ⟨g, hg, h⟩ := bind_eq_ok.1 h
      obtain ⟨rest, hrest, h⟩ := bind_eq_ok.1 h
      obtain ⟨hle, rfl⟩ := getPendingCollGain_eq_ok.1 hg
      obtain ⟨hstate, hpaid⟩ := ih hrest
      rw [← pure_eq_ok.1 h]
      constructor
      · rw [hstate, snapshotsTaken_cons]
      · intro t
        rw [List.zip_cons_cons, paid, hpaid]
        by_cases ht : collToken = t
        · subst ht
          simp [updateUserSnapshots]
        · simp [updateUserSnapshots, ht, Ne.symm ht]

theorem takeCollGains_of_le {collTokens : List Address}
    (hle : ∀ t ∈ collTokens, s.fCollSnapshots staker t ≤ s.staking.fColls t) :
    ∃ r, takeCollGains staker collTokens s = .ok r := by
  induction collTokens generalizing s with
  | nil => exact ⟨_, rfl⟩
  | cons collToken collTokens ih =>
      have hrest (t : Address) (hmem : t ∈ collTokens) :
          (updateUserSnapshots s staker collToken).fCollSnapshots staker t ≤
            (updateUserSnapshots s staker collToken).staking.fColls t := by
        by_cases ht : t = collToken
        · subst ht
          simp [updateUserSnapshots]
        · simpa [updateUserSnapshots, ht] using hle t (List.mem_cons_of_mem _ hmem)
      obtain ⟨r, hr⟩ := ih hrest
      have hfirst := hle collToken (List.mem_cons_self ..)
      exact ⟨_, bind_eq_ok.2 ⟨_, getPendingCollGain_eq_ok.2 ⟨hfirst, rfl⟩,
        bind_eq_ok.2 ⟨r, hr, rfl⟩⟩⟩

end Gains

section Settling

/-- A stake becomes `newStake`, the DEFT moves with it, and what the staker has earned in the fee
tokens is paid. -/
structure Settles (W : Wiring) (s s' : Data) (staker : Address) (newStake : ℕ) : Prop where
  fColls : s'.staking.fColls = s.staking.fColls
  fUSDD : s'.staking.fUSDD = s.staking.fUSDD
  stakes : s'.stakes = Function.update s.stakes staker newStake
  total : s'.staking.totalDEFTStaked + s.stakes staker = s.staking.totalDEFTStaked + newStake
  deft : held W s' W.deftToken + s.stakes staker = held W s W.deftToken + newStake
  snapshot_of_ne : ∀ token user, user ≠ staker → snapshot W s' token user = snapshot W s token user
  snapshot_self : ∀ token, snapshot W s' token staker =
    if token ∈ feeTokens W then level W s token else snapshot W s token staker
  held : ∀ token, token ≠ W.deftToken →
    held W s' token + (if token ∈ feeTokens W then gain W s token staker else 0) = held W s token

theorem snapshot_snapshotsTaken_of_ne {collTokens : List Address} (hu : user ≠ staker) :
    snapshot W (snapshotsTaken s staker collTokens) token user = snapshot W s token user := by
  unfold snapshot snapshotsTaken
  dsimp only
  rw [Function.update_of_ne hu]
  split_ifs
  · rfl
  · exact Function.update_of_ne hu _ _
  · rfl

theorem snapshot_snapshotsTaken_self (hW : W.Valid) :
    snapshot W (snapshotsTaken s staker W.collTokens) token staker =
      if token ∈ feeTokens W then level W s token else snapshot W s token staker := by
  unfold snapshot snapshotsTaken level feeTokens
  dsimp only
  rw [if_neg hW.nonempty, Function.update_self, Function.update_self]
  by_cases ht : token = W.usddToken
  · simp [ht]
  · simp [ht]

/-- The two payments of gains at the end of `stake` and `unstake`. -/
theorem payGains_held (hW : W.Valid) (hsender : sender ≠ W.deftStaking)
    (hstaker : staker ≠ W.deftStaking) {r : Data × List ℕ} {usddGain : ℕ} {s₂ : Data}
    (hr : takeCollGains staker W.collTokens s = .ok r)
    (hg : getPendingUSDDGain s staker = .ok usddGain)
    (h₁ : transferUSDD W s₁ staker usddGain = .ok s₂)
    (h₂ : sendCollGains W sender (W.collTokens.zip r.2) s₂ = .ok s') :
    s' = { s₁ with tokens := s'.tokens } ∧ ∀ t, held W s' t +
      (if t ∈ feeTokens W then gain W s t staker else 0) = held W s₁ t := by
  obtain ⟨_, -, h₁⟩ := bind_eq_ok.1 h₁
  obtain ⟨hframe, hheld⟩ := sendCollGains_eq_ok hsender h₂
  obtain ⟨-, hframe₁⟩ := transfer_eq_ok h₁
  constructor
  · rw [hframe, hframe₁]
  · intro t
    rw [← transfer_held hstaker h₁ t, ← hheld t, (takeCollGains_eq_ok hr).2 t,
      (getPendingUSDDGain_eq_ok.1 hg).2]
    unfold feeTokens
    by_cases ht : t = W.usddToken
    · subst ht
      simp [hW.usdd_notMem, gain_usddToken]
    · simp [ht, Ne.symm ht, gain_of_ne ht]

theorem stake_settles (hW : W.Valid) (hsender : sender ≠ W.deftStaking)
    (hstaker : staker ≠ W.deftStaking) (h : stake W s sender staker amount = .ok s') :
    Settles W s s' staker (s.stakes staker + amount) := by
  obtain ⟨_, -, h⟩ := bind_eq_ok.1 h
  obtain ⟨_, -, h⟩ := bind_eq_ok.1 h
  obtain ⟨usddGain, hg, h⟩ := bind_eq_ok.1 h
  obtain ⟨r, hr, h⟩ := bind_eq_ok.1 h
  obtain ⟨s₁, h₁, h⟩ := bind_eq_ok.1 h
  obtain ⟨s₂, h₂, h⟩ := bind_eq_ok.1 h
  obtain ⟨s₀, h₀, h₁⟩ := bind_eq_ok.1 h₁
  obtain ⟨allowance, -, h₁⟩ := bind_eq_ok.1 h₁
  obtain ⟨hframe, hpaid⟩ := payGains_held hW hsender hstaker hr hg h₂ h
  have hheld₀ := transfer_held_of_ne (W := W) hstaker h₀
  rw [(transfer_eq_ok h₀).2] at h₁
  rw [← pure_eq_ok.1 h₁] at hframe hpaid
  rw [(takeCollGains_eq_ok hr).1] at hframe hheld₀
  dsimp only at hframe
  have hheld (t : Address) : held W s' t + (if t ∈ feeTokens W then gain W s t staker else 0) =
      held W s t + if W.deftToken = t then amount else 0 := by
    rw [hpaid t]
    refine (hheld₀ t).trans ?_
    simp [held, snapshotsTaken]
  constructor
  · rw [hframe]
    rfl
  · rw [hframe]
    rfl
  · rw [hframe]
    rfl
  · rw [hframe]
    show s.staking.totalDEFTStaked + amount + _ = _
    omega
  · have hdeft := hheld W.deftToken
    rw [if_pos rfl, if_neg (by simp [feeTokens, hW.deft_ne, hW.deft_notMem])] at hdeft
    omega
  · intro t u hu
    rw [hframe]
    exact snapshot_snapshotsTaken_of_ne hu
  · intro t
    rw [hframe]
    exact snapshot_snapshotsTaken_self hW
  · intro t ht
    rw [hheld t, if_neg (Ne.symm ht), Nat.add_zero]

theorem withdrawDEFT_eq_ok (hstaker : staker ≠ W.deftStaking)
    (h : withdrawDEFT W s staker (s.stakes staker) amount = .ok s') :
    ∃ total, total + min amount (s.stakes staker) = s.staking.totalDEFTStaked ∧
      s' = { s with
        stakes := Function.update s.stakes staker (s.stakes staker - min amount (s.stakes staker))
        staking := { s.staking with totalDEFTStaked := total }
        tokens := s'.tokens } ∧
      ∀ t, held W s' t + (if W.deftToken = t then min amount (s.stakes staker) else 0) =
        held W s t := by
  unfold withdrawDEFT at h
  split_ifs at h with hpos
  · obtain ⟨newStake, hnew, h⟩ := bind_eq_ok.1 h
    obtain ⟨total, htotal, h⟩ := bind_eq_ok.1 h
    obtain ⟨-, rfl⟩ := sub_eq_ok.1 hnew
    obtain ⟨hle, rfl⟩ := sub_eq_ok.1 htotal
    have hheld := transfer_held hstaker h
    exact ⟨_, Nat.sub_add_cancel hle, (transfer_eq_ok h).2, hheld⟩
  · cases pure_eq_ok.1 h
    have hzero : amount = 0 := by omega
    refine ⟨s.staking.totalDEFTStaked, ?_, ?_, ?_⟩
    · rw [hzero, Nat.zero_min, Nat.add_zero]
    · simp [hzero]
    · intro t
      simp [hzero]

theorem unstake_settles (hW : W.Valid) (hsender : sender ≠ W.deftStaking)
    (hstaker : staker ≠ W.deftStaking) (h : unstake W s sender staker amount = .ok s') :
    Settles W s s' staker (s.stakes staker - min amount (s.stakes staker)) := by
  obtain ⟨_, -, h⟩ := bind_eq_ok.1 h
  obtain ⟨_, -, h⟩ := bind_eq_ok.1 h
  obtain ⟨usddGain, hg, h⟩ := bind_eq_ok.1 h
  obtain ⟨r, hr, h⟩ := bind_eq_ok.1 h
  obtain ⟨s₁, h₁, h⟩ := bind_eq_ok.1 h
  obtain ⟨s₂, h₂, h⟩ := bind_eq_ok.1 h
  have hr₁ := (takeCollGains_eq_ok hr).1
  have hstakes : r.1.stakes staker = s.stakes staker := by
    rw [hr₁]
    rfl
  rw [← hstakes] at h₁
  obtain ⟨total, htotal, hframe₁, hheld₁⟩ := withdrawDEFT_eq_ok hstaker h₁
  obtain ⟨hframe, hpaid⟩ := payGains_held hW hsender hstaker hr hg h₂ h
  rw [hframe₁] at hframe
  rw [hstakes, hr₁] at htotal hframe hheld₁
  have htotal : total + min amount (s.stakes staker) = s.staking.totalDEFTStaked := htotal
  have hheld (t : Address) : held W s' t + (if t ∈ feeTokens W then gain W s t staker else 0) +
      (if W.deftToken = t then min amount (s.stakes staker) else 0) = held W s t := by
    rw [hpaid t]
    exact hheld₁ t
  have hmin := Nat.min_le_right amount (s.stakes staker)
  constructor
  · rw [hframe]
    rfl
  · rw [hframe]
    rfl
  · rw [hframe]
    rfl
  · rw [hframe]
    show total + _ = _
    omega
  · have hdeft := hheld W.deftToken
    rw [if_pos rfl, if_neg (by simp [feeTokens, hW.deft_ne, hW.deft_notMem])] at hdeft
    omega
  · intro t u hu
    rw [hframe]
    exact snapshot_snapshotsTaken_of_ne hu
  · intro t
    rw [hframe]
    exact snapshot_snapshotsTaken_self hW
  · intro t ht
    rw [← hheld t, if_neg (Ne.symm ht), Nat.add_zero]

end Settling

section Solvency

/-- The balance of the contract, with the fees that have been reported and less those that have
arrived, covers what the stakers have earned. -/
structure Solvent (W : Wiring) (s : Data) (reported received : Address → ℕ) : Prop where
  total : s.staking.totalDEFTStaked = ∑ u, s.stakes u
  deft : s.staking.totalDEFTStaked ≤ held W s W.deftToken
  snapshot_le : ∀ token user, snapshot W s token user ≤ level W s token
  unreported : ∀ token, token ∉ feeTokens W → level W s token = 0
  covers : ∀ token, token ≠ W.deftToken →
    Covers decimalPrecision (held W s token + reported token) (level W s token)
      (decimalPrecision * received token) s.stakes (snapshot W s token)

variable {rep rec : Address → ℕ}

theorem Settles.level (h : Settles W s s' staker newStake) (token : Address) :
    level W s' token = level W s token := by
  unfold Staking.level
  rw [h.fColls, h.fUSDD]

theorem Solvent.settle (h : Solvent W s rep rec) (hs : Settles W s s' staker newStake) :
    Solvent W s' rep rec where
  total := by
    have htotal := h.total
    have hsettled := hs.total
    have hsum := UpdateSum.sum_update_nat s.stakes staker newStake
    rw [hs.stakes]
    omega
  deft := by
    have hdeft := h.deft
    have hsettled := hs.total
    have hheld := hs.deft
    omega
  snapshot_le token user := by
    rw [hs.level]
    by_cases hu : user = staker
    · rw [hu, hs.snapshot_self]
      split_ifs
      · exact le_rfl
      · exact h.snapshot_le token staker
    · rw [hs.snapshot_of_ne token user hu]
      exact h.snapshot_le token user
  unreported token ht := by
    rw [hs.level]
    exact h.unreported token ht
  covers token ht := by
    have hheld := hs.held token ht
    have hpot : held W s' token + rep token = held W s token + rep token -
        if token ∈ feeTokens W then gain W s token staker else 0 := by omega
    have hearned : earned s'.stakes (snapshot W s' token) (Staking.level W s token) staker = 0 := by
      rw [earned, hs.snapshot_self]
      split_ifs with hfee
      · rw [Nat.sub_self, Nat.mul_zero]
      · rw [h.unreported token hfee, Nat.zero_sub, Nat.mul_zero]
    rw [hs.level, hpot]
    apply (h.covers token ht).change staker
    · intro u hu
      rw [hs.stakes, Function.update_of_ne hu]
    · exact hs.snapshot_of_ne token
    · rw [hearned, Nat.zero_add]
      split_ifs
      · exact Nat.mul_div_le _ _
      · exact Nat.zero_le _

/-- Tokens that others bring change nothing else. -/
theorem Solvent.receive {arrived : Address → ℕ} (h : Solvent W s rep rec)
    (hframe : s' = { s with tokens := s'.tokens, deftAllowances := s'.deftAllowances })
    (hheld : ∀ t, held W s' t = held W s t + arrived t) :
    Solvent W s' rep (fun t => rec t + arrived t) := by
  have hlevel : level W s' = level W s := by
    rw [hframe]
    rfl
  have hsnapshot : snapshot W s' = snapshot W s := by
    rw [hframe]
    rfl
  have hstakes : s'.stakes = s.stakes := by rw [hframe]
  have htotal : s'.staking.totalDEFTStaked = s.staking.totalDEFTStaked := by rw [hframe]
  constructor
  · rw [htotal, hstakes]
    exact h.total
  · rw [htotal, hheld]
    exact h.deft.trans (Nat.le_add_right _ _)
  · rw [hlevel, hsnapshot]
    exact h.snapshot_le
  · rw [hlevel]
    exact h.unreported
  · intro token ht
    have hpot : held W s' token + rep token = held W s token + rep token + arrived token := by
      rw [hheld]
      omega
    rw [hlevel, hsnapshot, hstakes, hpot]
    show Covers decimalPrecision _ (level W s token + 0) _ _ _
    apply (h.covers token ht).raise (h.snapshot_le token)
    rw [Nat.zero_mul, Nat.mul_add]
    omega

/-- A reported fee raises the level of one token by what it yields for a unit of stake. -/
theorem Solvent.report {token : Address} {fee : ℕ} (h : Solvent W s rep rec)
    (htoken : token ∈ feeTokens W)
    (hframe : s' = { s with
      staking := { s'.staking with totalDEFTStaked := s.staking.totalDEFTStaked } })
    (hlevel : ∀ t, level W s' t =
      level W s t + if token = t then DEFTStaking.feePerDEFTStaked s.staking fee else 0) :
    Solvent W s' (fun t => rep t + if token = t then fee else 0) rec := by
  have hsnapshot : snapshot W s' = snapshot W s := by
    rw [hframe]
    rfl
  have hheld : held W s' = held W s := by
    rw [hframe]
    rfl
  have hstakes : s'.stakes = s.stakes := by rw [hframe]
  have htotal : s'.staking.totalDEFTStaked = s.staking.totalDEFTStaked := by rw [hframe]
  constructor
  · rw [htotal, hstakes]
    exact h.total
  · rw [htotal, hheld]
    exact h.deft
  · intro t u
    rw [hlevel, hsnapshot]
    exact (h.snapshot_le t u).trans (Nat.le_add_right _ _)
  · intro t ht
    have hne : token ≠ t := fun he => ht (he ▸ htoken)
    rw [hlevel, h.unreported t ht, if_neg hne]
  · intro t ht
    rw [hlevel, hsnapshot, hheld, hstakes, ← Nat.add_assoc]
    apply (h.covers t ht).raise (h.snapshot_le t)
    split_ifs
    · rw [← h.total]
      unfold DEFTStaking.feePerDEFTStaked
      split_ifs
      · rw [Nat.mul_comm decimalPrecision fee]
        exact Nat.add_le_add_right (Nat.div_mul_le_self _ _) _
      · rw [Nat.zero_mul]
        omega
    · rw [Nat.zero_mul, Nat.mul_zero]

theorem increaseFColl_solvent {collToken : Address} {fee : ℕ} (hW : W.Valid)
    (hs : Solvent W s rep rec) (h : increaseFColl W s sender collToken fee = .ok s') :
    Solvent W s' (fun t => rep t + if collToken = t then fee else 0) rec := by
  obtain ⟨_, hcaller, h⟩ := bind_eq_ok.1 h
  obtain ⟨_, hauthorized, htoken⟩ := bind_eq_ok.1 hcaller
  have hmem : collToken ∈ W.collTokens := by
    rw [← require_eq_ok.1 htoken]
    exact hW.collTokenOf_mem sender (require_eq_ok.1 hauthorized)
  have hne : collToken ≠ W.usddToken := fun he => hW.usdd_notMem (he ▸ hmem)
  rw [← pure_eq_ok.1 h]
  refine hs.report (List.mem_cons_of_mem _ hmem) rfl (fun t => ?_)
  unfold level
  dsimp only
  by_cases ht : t = W.usddToken
  · rw [if_pos ht, if_pos ht, if_neg (fun he => hne (he.trans ht)), Nat.add_zero]
  · rw [if_neg ht, if_neg ht]
    by_cases hc : collToken = t
    · rw [← hc, Function.update_self, if_pos rfl]
    · rw [if_neg hc, Function.update_of_ne (Ne.symm hc), Nat.add_zero]

theorem increaseFUSDD_solvent {fee : ℕ} (hs : Solvent W s rep rec)
    (h : increaseFUSDD W s sender fee = .ok s') :
    Solvent W s' (fun t => rep t + if W.usddToken = t then fee else 0) rec := by
  obtain ⟨_, -, h⟩ := bind_eq_ok.1 h
  rw [← pure_eq_ok.1 h]
  refine hs.report (List.mem_cons_self ..) rfl (fun t => ?_)
  unfold level
  dsimp only
  by_cases ht : t = W.usddToken
  · rw [if_pos ht, if_pos ht, if_pos ht.symm]
  · rw [if_neg ht, if_neg ht, if_neg (Ne.symm ht), Nat.add_zero]

theorem mint_held (s : Data) (token account t : Address) (amount : ℕ) :
    held W (mint s token account amount) t =
      held W s t + if token = t ∧ account = W.deftStaking then amount else 0 := by
  simp only [held, mint]
  by_cases ht : token = t
  · subst ht
    rw [Function.update_self]
    by_cases ha : account = W.deftStaking
    · rw [ha, if_pos ⟨rfl, rfl⟩, Function.update_self]
    · rw [if_neg (fun h => ha h.2), Function.update_of_ne (Ne.symm ha), Nat.add_zero]
  · rw [if_neg (fun h => ht h.1), Function.update_of_ne (Ne.symm ht), Nat.add_zero]

theorem step_solvent {c : Call} (hW : W.Valid) (hs : Solvent W s rep rec) (ha : Allowed W c)
    (h : step W s c = .ok s') :
    Solvent W s' (fun t => rep t + c.reported W t) (fun t => rec t + c.received W t) := by
  obtain ⟨sender, action⟩ := c
  obtain ⟨hsender, hstaker⟩ := ha
  cases action with
  | stake => exact hs.settle (stake_settles hW hsender hstaker h)
  | unstake => exact hs.settle (unstake_settles hW hsender hstaker h)
  | increaseFColl => exact increaseFColl_solvent hW hs h
  | increaseFUSDD => exact increaseFUSDD_solvent hs h
  | transfer =>
      refine hs.receive ?_ (transfer_held_of_ne hsender h)
      rw [(transfer_eq_ok h).2]
  | mint =>
      rw [← pure_eq_ok.1 h]
      exact hs.receive rfl (fun t => mint_held s _ _ t _)
  | approve =>
      rw [← pure_eq_ok.1 h]
      exact hs.receive rfl (fun _ => rfl)

/-- What a run keeps, whatever the order of its calls. -/
theorem run_solvent {calls : List Call} (hW : W.Valid) (hs : Solvent W s rep rec)
    (ha : ∀ c ∈ calls, Allowed W c) (h : run (step W) s calls = .ok s') :
    Solvent W s' (fun t => rep t + reported W t calls) (fun t => rec t + received W t calls) := by
  induction calls generalizing s rep rec with
  | nil =>
      cases h
      exact hs
  | cons c calls ih =>
      obtain ⟨s₁, h₁, h⟩ := bind_eq_ok.1 h
      have hs₁ := step_solvent hW hs (ha c (List.mem_cons_self ..)) h₁
      have hs' := ih hs₁ (fun c hc => ha c (List.mem_cons_of_mem _ hc)) h
      simpa only [reported, received, List.map_cons, List.sum_cons, Nat.add_assoc] using hs'

theorem initial_solvent (W : Wiring) (tokens : Address → Address → ℕ) (deftAllowances : Address → ℕ) :
    Solvent W (initial tokens deftAllowances) (fun _ => 0) (fun _ => 0) where
  total := by simp [initial]
  deft := Nat.zero_le _
  snapshot_le _ _ := by simp [snapshot, level, initial]
  unreported _ _ := by simp [level, initial]
  covers _ _ := by simp [Covers, earned, initial]

end Solvency

section Payments

variable {rep rec : Address → ℕ}

/-- Once the reported fees have arrived, the balance alone covers the gains. -/
theorem Solvent.settled (h : Solvent W s rep rec) (ht : token ≠ W.deftToken)
    (hsettled : rep token ≤ rec token) :
    Covers decimalPrecision (held W s token) (level W s token) 0 s.stakes
      (snapshot W s token) := by
  have hcovers := h.covers token ht
  have hmul := Nat.mul_le_mul_left decimalPrecision hsettled
  unfold Covers at *
  rw [Nat.mul_add] at hcovers
  omega

theorem Solvent.getPendingCollGain (h : Solvent W s rep rec) (ht : token ≠ W.usddToken)
    (user : Address) : Staking.getPendingCollGain s user token = .ok (gain W s token user) := by
  have hle := h.snapshot_le token user
  unfold snapshot level at hle
  rw [if_neg ht, if_neg ht] at hle
  exact getPendingCollGain_eq_ok.2 ⟨hle, gain_of_ne ht⟩

theorem Solvent.getPendingUSDDGain (h : Solvent W s rep rec) (user : Address) :
    Staking.getPendingUSDDGain s user = .ok (gain W s W.usddToken user) := by
  have hle := h.snapshot_le W.usddToken user
  unfold snapshot level at hle
  rw [if_pos rfl, if_pos rfl] at hle
  exact getPendingUSDDGain_eq_ok.2 ⟨hle, gain_usddToken⟩

theorem Solvent.takeCollGains (h : Solvent W s rep rec) (hW : W.Valid) (staker : Address) :
    ∃ r, Staking.takeCollGains staker W.collTokens s = .ok r := by
  have hle (t : Address) (ht : t ∈ W.collTokens) :
      s.fCollSnapshots staker t ≤ s.staking.fColls t := by
    have hne : t ≠ W.usddToken := fun he => hW.usdd_notMem (he ▸ ht)
    exact (getPendingCollGain_eq_ok.1 (h.getPendingCollGain hne staker)).1
  exact takeCollGains_of_le hle

theorem payGains_of_le (hW : W.Valid) (hsender : sender ≠ W.deftStaking)
    (hstaker : staker ≠ W.deftStaking) {r : Data × List ℕ} {usddGain : ℕ}
    (hr : Staking.takeCollGains staker W.collTokens s = .ok r)
    (hg : Staking.getPendingUSDDGain s staker = .ok usddGain)
    (hvalid : USDDToken.requireValidRecipient W.market staker = .ok ())
    (hle : ∀ t ∈ feeTokens W, gain W s t staker ≤ held W s₁ t) :
    ∃ s₂ s', transferUSDD W s₁ staker usddGain = .ok s₂ ∧
      sendCollGains W sender (W.collTokens.zip r.2) s₂ = .ok s' := by
  have husdd : usddGain = gain W s W.usddToken staker := by
    rw [(getPendingUSDDGain_eq_ok.1 hg).2, gain_usddToken]
  obtain ⟨s₂, h₂⟩ := transfer_of_le staker
    (husdd ▸ hle W.usddToken (List.mem_cons_self ..))
  have hrest (t : Address) : paid t (W.collTokens.zip r.2) ≤ held W s₂ t := by
    rw [(takeCollGains_eq_ok hr).2 t]
    split_ifs with ht
    · have hne : W.usddToken ≠ t := fun he => hW.usdd_notMem (he ▸ ht)
      have hheld := transfer_held hstaker h₂ t
      rw [if_neg hne, Nat.add_zero] at hheld
      rw [hheld, ← gain_of_ne hne.symm]
      exact hle t (List.mem_cons_of_mem _ ht)
    · exact Nat.zero_le _
  obtain ⟨s', h'⟩ := sendCollGains_of_le hsender hrest
  exact ⟨s₂, s', bind_eq_ok.2 ⟨(), hvalid, h₂⟩, h'⟩

theorem transferDEFTFrom_eq_ok
    (h : transferDEFTFrom W s staker amount = .ok s') :
    amount ≤ s.tokens W.deftToken staker ∧ amount ≤ s.deftAllowances staker := by
  obtain ⟨s₁, h₁, h⟩ := bind_eq_ok.1 h
  obtain ⟨_, hsub, -⟩ := bind_eq_ok.1 h
  obtain ⟨hle, hframe⟩ := transfer_eq_ok h₁
  have hallowance := (sub_eq_ok.1 hsub).1
  rw [hframe] at hallowance
  exact ⟨hle, hallowance⟩

theorem transferDEFTFrom_of_le (hstaker : staker ≠ W.deftStaking)
    (hle : amount ≤ s.tokens W.deftToken staker) (hallowance : amount ≤ s.deftAllowances staker) :
    ∃ s', transferDEFTFrom W s staker amount = .ok s' ∧
      ∀ t, held W s t ≤ held W s' t := by
  obtain ⟨s₁, h₁⟩ := transfer_of_le W.deftStaking hle
  have hframe := (transfer_eq_ok h₁).2
  have hallowance₁ : amount ≤ s₁.deftAllowances staker := by
    rw [hframe]
    exact hallowance
  refine ⟨_, bind_eq_ok.2 ⟨s₁, h₁, bind_eq_ok.2 ⟨_, sub_eq_ok.2 ⟨hallowance₁, rfl⟩, rfl⟩⟩, ?_⟩
  intro t
  have hheld := transfer_held_of_ne (W := W) hstaker h₁ t
  exact (Nat.le_add_right _ _).trans hheld.ge

/-- Once the reported fees have arrived, only the caller's own arguments and balance decide whether
`stake` succeeds. -/
theorem Solvent.stake_iff (h : Solvent W s rep rec) (hW : W.Valid)
    (hsettled : ∀ t ∈ feeTokens W, rep t ≤ rec t) (hsender : sender ≠ W.deftStaking)
    (hstaker : staker ≠ W.deftStaking) (amount : ℕ) :
    (∃ s', stake W s sender staker amount = .ok s') ↔
      (sender = staker ∨ sender = W.market.wETHGateway) ∧ 0 < amount ∧
        amount ≤ s.tokens W.deftToken staker ∧ amount ≤ s.deftAllowances staker ∧
        USDDToken.requireValidRecipient W.market staker = .ok () := by
  constructor
  · rintro ⟨s', h⟩
    obtain ⟨_, hcaller, h⟩ := bind_eq_ok.1 h
    obtain ⟨_, hpos, h⟩ := bind_eq_ok.1 h
    obtain ⟨usddGain, -, h⟩ := bind_eq_ok.1 h
    obtain ⟨r, hr, h⟩ := bind_eq_ok.1 h
    obtain ⟨s₁, h₁, h⟩ := bind_eq_ok.1 h
    obtain ⟨s₂, h₂, h⟩ := bind_eq_ok.1 h
    obtain ⟨_, hvalid, -⟩ := bind_eq_ok.1 h₂
    have hdeft := transferDEFTFrom_eq_ok h₁
    rw [(takeCollGains_eq_ok hr).1] at hdeft
    exact ⟨require_eq_ok.1 hcaller, require_eq_ok.1 hpos, hdeft.1, hdeft.2, hvalid⟩
  · rintro ⟨hcaller, hpos, hdeft, hallowance, hvalid⟩
    obtain ⟨r, hr⟩ := h.takeCollGains hW staker
    have hstate := (takeCollGains_eq_ok hr).1
    have hg := h.getPendingUSDDGain staker
    have hdeft : amount ≤ r.1.tokens W.deftToken staker := by
      rw [hstate]
      exact hdeft
    have hallowance : amount ≤ r.1.deftAllowances staker := by
      rw [hstate]
      exact hallowance
    obtain ⟨s₁, h₁, hheld⟩ := transferDEFTFrom_of_le (s := { r.1 with
        stakes := Function.update r.1.stakes staker (s.stakes staker + amount)
        staking.totalDEFTStaked := r.1.staking.totalDEFTStaked + amount })
      hstaker hdeft hallowance
    have hgains (t : Address) (ht : t ∈ feeTokens W) : gain W s t staker ≤ held W s₁ t := by
      have hne : t ≠ W.deftToken := by
        rintro rfl
        rcases List.mem_cons.1 ht with he | he
        · exact hW.deft_ne he
        · exact hW.deft_notMem he
      refine ((h.settled hne (hsettled t ht)).share_le (by decide) staker).trans
        (le_trans ?_ (hheld t))
      rw [hstate]
      exact le_rfl
    obtain ⟨s₂, s', h₂, h₃⟩ := payGains_of_le hW hsender hstaker hr hg hvalid hgains
    exact ⟨s', bind_eq_ok.2 ⟨(), require_eq_ok.2 hcaller, bind_eq_ok.2 ⟨(), require_eq_ok.2 hpos,
      bind_eq_ok.2 ⟨_, hg, bind_eq_ok.2 ⟨r, hr, bind_eq_ok.2 ⟨s₁, h₁,
        bind_eq_ok.2 ⟨s₂, h₂, h₃⟩⟩⟩⟩⟩⟩⟩

theorem withdrawDEFT_of_le (htotal : s.stakes staker ≤ s.staking.totalDEFTStaked)
    (hdeft : s.staking.totalDEFTStaked ≤ held W s W.deftToken) (amount : ℕ) :
    ∃ s', withdrawDEFT W s staker (s.stakes staker) amount = .ok s' := by
  unfold withdrawDEFT
  split_ifs
  · have hmin := Nat.min_le_right amount (s.stakes staker)
    have hle : min amount (s.stakes staker) ≤ held W s W.deftToken := by omega
    obtain ⟨s', h'⟩ := transfer_of_le (s := { s with
        stakes := Function.update s.stakes staker (s.stakes staker - min amount (s.stakes staker))
        staking.totalDEFTStaked :=
          s.staking.totalDEFTStaked - min amount (s.stakes staker) }) staker hle
    exact ⟨s', bind_eq_ok.2 ⟨_, sub_eq_ok.2 ⟨hmin, rfl⟩,
      bind_eq_ok.2 ⟨_, sub_eq_ok.2 ⟨hmin.trans htotal, rfl⟩, h'⟩⟩⟩
  · exact ⟨s, rfl⟩

theorem Solvent.stakes_le (h : Solvent W s rep rec) (user : Address) :
    s.stakes user ≤ s.staking.totalDEFTStaked := by
  rw [h.total]
  exact UpdateSum.single_le_sum s.stakes user

/-- In particular `unstake` never lacks a balance of the contract. -/
theorem Solvent.unstake_iff (h : Solvent W s rep rec) (hW : W.Valid)
    (hsettled : ∀ t ∈ feeTokens W, rep t ≤ rec t) (hsender : sender ≠ W.deftStaking)
    (hstaker : staker ≠ W.deftStaking) (amount : ℕ) :
    (∃ s', unstake W s sender staker amount = .ok s') ↔
      (sender = staker ∨ sender = W.market.wETHGateway) ∧ 0 < s.stakes staker ∧
        USDDToken.requireValidRecipient W.market staker = .ok () := by
  constructor
  · rintro ⟨s', h⟩
    obtain ⟨_, hcaller, h⟩ := bind_eq_ok.1 h
    obtain ⟨_, hpos, h⟩ := bind_eq_ok.1 h
    obtain ⟨usddGain, -, h⟩ := bind_eq_ok.1 h
    obtain ⟨r, -, h⟩ := bind_eq_ok.1 h
    obtain ⟨s₁, -, h⟩ := bind_eq_ok.1 h
    obtain ⟨s₂, h₂, h⟩ := bind_eq_ok.1 h
    obtain ⟨_, hvalid, -⟩ := bind_eq_ok.1 h₂
    exact ⟨require_eq_ok.1 hcaller, require_eq_ok.1 hpos, hvalid⟩
  · rintro ⟨hcaller, hpos, hvalid⟩
    obtain ⟨r, hr⟩ := h.takeCollGains hW staker
    have hstate := (takeCollGains_eq_ok hr).1
    have hg := h.getPendingUSDDGain staker
    have hstakes : r.1.stakes staker = s.stakes staker := by
      rw [hstate]
      rfl
    have htotal : r.1.stakes staker ≤ r.1.staking.totalDEFTStaked := by
      rw [hstate]
      exact h.stakes_le staker
    have hdeft : r.1.staking.totalDEFTStaked ≤ held W r.1 W.deftToken := by
      rw [hstate]
      exact h.deft
    obtain ⟨s₁, h₁⟩ := withdrawDEFT_of_le htotal hdeft amount
    obtain ⟨_, -, -, hheld⟩ := withdrawDEFT_eq_ok hstaker h₁
    rw [hstakes] at h₁
    have hgains (t : Address) (ht : t ∈ feeTokens W) : gain W s t staker ≤ held W s₁ t := by
      have hne : t ≠ W.deftToken := by
        rintro rfl
        rcases List.mem_cons.1 ht with he | he
        · exact hW.deft_ne he
        · exact hW.deft_notMem he
      have hsame := hheld t
      rw [if_neg hne.symm, Nat.add_zero, hstate] at hsame
      rw [hsame]
      exact (h.settled hne (hsettled t ht)).share_le (by decide) staker
    obtain ⟨s₂, s', h₂, h₃⟩ := payGains_of_le hW hsender hstaker hr hg hvalid hgains
    exact ⟨s', bind_eq_ok.2 ⟨(), require_eq_ok.2 hcaller, bind_eq_ok.2 ⟨(), require_eq_ok.2 hpos,
      bind_eq_ok.2 ⟨_, hg, bind_eq_ok.2 ⟨r, hr, bind_eq_ok.2 ⟨s₁, h₁,
        bind_eq_ok.2 ⟨s₂, h₂, h₃⟩⟩⟩⟩⟩⟩⟩

/-- Nobody is paid from what another staker has earned. -/
theorem Settles.gain_of_ne (h : Settles W s s' staker newStake) (hu : user ≠ staker)
    (token : Address) : gain W s' token user = gain W s token user := by
  unfold gain earned
  rw [h.stakes, Function.update_of_ne hu, h.level, h.snapshot_of_ne token user hu]

end Payments

section Results

theorem reachable_solvent {tokens : Address → Address → ℕ} {deftAllowances : Address → ℕ}
    {calls : List Call} (hW : W.Valid) (ha : ∀ c ∈ calls, Allowed W c)
    (h : run (step W) (initial tokens deftAllowances) calls = .ok s) :
    Solvent W s (fun t => reported W t calls) (fun t => received W t calls) := by
  have hs := run_solvent hW (initial_solvent W tokens deftAllowances) ha h
  simpa only [Nat.zero_add] using hs

/-- Wherever the fees reported so far have arrived, the contract can pay all its stakers. -/
theorem deftStaking_pays {tokens : Address → Address → ℕ} {deftAllowances : Address → ℕ}
    {calls : List Call} (hW : W.Valid) (ha : ∀ c ∈ calls, Allowed W c)
    (h : run (step W) (initial tokens deftAllowances) calls = .ok s)
    (hsettled : ∀ t ∈ feeTokens W, reported W t calls ≤ received W t calls) :
    s.staking.totalDEFTStaked = ∑ u, s.stakes u ∧
      s.staking.totalDEFTStaked ≤ s.tokens W.deftToken W.deftStaking ∧
      (∀ t ∈ W.collTokens, ∃ gains : Address → ℕ,
        (∀ u, getPendingCollGain s u t = .ok (gains u)) ∧
          ∑ u, gains u ≤ s.tokens t W.deftStaking) ∧
      (∃ gains : Address → ℕ, (∀ u, getPendingUSDDGain s u = .ok (gains u)) ∧
        ∑ u, gains u ≤ s.tokens W.usddToken W.deftStaking) ∧
      ∀ sender staker amount, sender ≠ W.deftStaking → staker ≠ W.deftStaking →
        ((∃ s', stake W s sender staker amount = .ok s') ↔
          (sender = staker ∨ sender = W.market.wETHGateway) ∧ 0 < amount ∧
            amount ≤ s.tokens W.deftToken staker ∧ amount ≤ s.deftAllowances staker ∧
            USDDToken.requireValidRecipient W.market staker = .ok ()) ∧
        ((∃ s', unstake W s sender staker amount = .ok s') ↔
          (sender = staker ∨ sender = W.market.wETHGateway) ∧ 0 < s.stakes staker ∧
            USDDToken.requireValidRecipient W.market staker = .ok ()) ∧
        ∀ s', stake W s sender staker amount = .ok s' ∨ unstake W s sender staker amount = .ok s' →
          ∀ u, u ≠ staker → getPendingUSDDGain s' u = getPendingUSDDGain s u ∧
            ∀ t ∈ W.collTokens, getPendingCollGain s' u t = getPendingCollGain s u t := by
  have hs := reachable_solvent hW ha h
  have hne (t : Address) (ht : t ∈ W.collTokens) : t ≠ W.usddToken ∧ t ≠ W.deftToken :=
    ⟨fun he => hW.usdd_notMem (he ▸ ht), fun he => hW.deft_notMem (he ▸ ht)⟩
  refine ⟨hs.total, hs.deft, fun t ht => ?_, ?_, fun sender staker amount hsender hstaker => ?_⟩
  · obtain ⟨husdd, hdeft⟩ := hne t ht
    have hcovers := hs.settled hdeft (hsettled t (List.mem_cons_of_mem _ ht))
    exact ⟨_, hs.getPendingCollGain husdd, hcovers.sum_share_le (by decide)⟩
  · have hcovers := hs.settled hW.deft_ne.symm (hsettled W.usddToken (List.mem_cons_self ..))
    exact ⟨_, hs.getPendingUSDDGain, hcovers.sum_share_le (by decide)⟩
  · refine ⟨hs.stake_iff hW hsettled hsender hstaker amount,
      hs.unstake_iff hW hsettled hsender hstaker amount, fun s' h' u hu => ?_⟩
    obtain ⟨newStake, hsettles⟩ : ∃ newStake, Settles W s s' staker newStake := by
      rcases h' with h' | h'
      · exact ⟨_, stake_settles hW hsender hstaker h'⟩
      · exact ⟨_, unstake_settles hW hsender hstaker h'⟩
    have hs' := hs.settle hsettles
    constructor
    · rw [hs'.getPendingUSDDGain, hs.getPendingUSDDGain, hsettles.gain_of_ne hu]
    · intro t ht
      obtain ⟨husdd, -⟩ := hne t ht
      rw [hs'.getPendingCollGain husdd, hs.getPendingCollGain husdd, hsettles.gain_of_ne hu]

/-- One TroveManager, at address 102, whose collateral token is entered twice. -/
def sampleWiring : Wiring where
  market := ⟨101, 102, 103, 104, 105, 106, 107, 108, 109, 110, 111, 112⟩
  deftToken := 113
  collTokens := [112, 112]
  authorizedTroveManagers tm := tm = 102
  authorizedBorrowerOperations bo := bo = 101
  collTokenOf _ := 112

theorem sampleWiring_valid : sampleWiring.Valid where
  nonempty := by decide
  deft_notMem := by decide +kernel
  usdd_notMem := by decide +kernel
  deft_ne := by decide +kernel
  collTokenOf_mem _ _ := List.mem_cons_self ..

/-- Two stakers, a collateral fee that arrives before and a USDD fee that arrives after it is
reported. -/
def sampleCalls : List Call :=
  [⟨1, .stake 1 30⟩, ⟨2, .stake 2 70⟩, ⟨104, .transfer 112 109 1000⟩,
    ⟨102, .increaseFColl 112 1000⟩, ⟨101, .increaseFUSDD 50⟩, ⟨101, .mint 108 109 50⟩,
    ⟨1, .unstake 1 10⟩]

theorem deftStaking_pays_of_sample : ∃ s,
    run (step sampleWiring) (initial (fun _ _ => 10 ^ 6) (fun _ => 10 ^ 6)) sampleCalls = .ok s ∧
      s.tokens 112 1 = 10 ^ 6 + 300 ∧ s.staking.totalDEFTStaked = ∑ u, s.stakes u ∧
      ∃ gains : Address → ℕ, (∀ u, getPendingCollGain s u 112 = .ok (gains u)) ∧
        ∑ u, gains u ≤ s.tokens 112 sampleWiring.deftStaking := by
  obtain ⟨s, hs, htokens⟩ : ∃ s, run (step sampleWiring)
      (initial (fun _ _ => 10 ^ 6) (fun _ => 10 ^ 6)) sampleCalls = .ok s ∧
      s.tokens 112 1 = 10 ^ 6 + 300 := by decide +kernel
  have hsettled : ∀ t ∈ feeTokens sampleWiring,
      reported sampleWiring t sampleCalls ≤ received sampleWiring t sampleCalls := by
    unfold feeTokens sampleWiring
    simp only [List.forall_mem_cons]
    exact ⟨by decide +kernel, by decide +kernel, by decide +kernel, List.forall_mem_nil _⟩
  obtain ⟨htotal, -, hcoll, -⟩ := deftStaking_pays sampleWiring_valid (by decide +kernel) hs
    hsettled
  exact ⟨s, hs, htokens, htotal, hcoll 112 (List.mem_cons_self ..)⟩

end Results

end Usdd.Staking

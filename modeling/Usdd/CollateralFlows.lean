import Usdd.StabilityPoolWrites

/-!
# Flows of collateral

What a contract holds of a token beyond what it records is its excess. A step that moves collateral
changes the excess of accounts by a flow, and the claims on the surplus pool beyond what the pool
records by an amount. The flows of steps in a row add up, and what the pools record always moves
together with the token.
-/

open Transaction

namespace Usdd

/-- What the state holds and records of the tokens. -/
structure Vault where
  tokens : Address → Address → ℕ
  activePool : Address → ℕ
  defaultPool : Address → ℕ
  collSurplusPool : CollSurplusPool
  stabilityPool : ℕ

def State.vault (s : State) : Vault where
  tokens := s.tokens
  activePool := s.activePool.balances
  defaultPool := s.defaultPool.balances
  collSurplusPool := s.collSurplusPool
  stabilityPool := s.stabilityPool.coll

namespace Vault

variable (D : Deployment) (v : Vault) (token : Address)

def recorded (a : Address) : ℕ :=
  (if a = D.activePool then v.activePool token else 0) +
    (if a = D.defaultPool then v.defaultPool token else 0) +
    (if a = D.collSurplusPool then v.collSurplusPool.colls token else 0) +
    if a = D.stabilityPool ∧ token = D.collToken then v.stabilityPool else 0

def excess (a : Address) : ℤ := v.tokens token a - v.recorded D token a

def unclaimed : ℤ :=
  (∑ a, v.collSurplusPool.balances a token : ℕ) - v.collSurplusPool.colls token

end Vault

/-- From `v` to `v'`, the collateral that accounts hold in excess changes by `flow`, and the claims in
excess by `surplus`. -/
structure Flows (D : Deployment) (v v' : Vault) (flow : Address → ℤ) (surplus : ℤ) : Prop where
  excess : ∀ token a, v'.excess D token a =
    v.excess D token a + if token = D.collToken then flow a else 0
  unclaimed : ∀ token, v'.unclaimed token =
    v.unclaimed token + if token = D.collToken then surplus else 0

namespace Flows

variable {D : Deployment} {v v₁ v' : Vault} {flow flow' : Address → ℤ} {surplus surplus' : ℤ}

theorem refl (D : Deployment) (v : Vault) : Flows D v v 0 0 := by
  refine ⟨fun token a => ?_, fun token => ?_⟩
  · rw [Pi.zero_apply, ite_self, add_zero]
  · rw [ite_self, add_zero]

theorem of_vault (h : v' = v) : Flows D v v' 0 0 := h ▸ refl D v

theorem trans (h : Flows D v v₁ flow surplus) (h' : Flows D v₁ v' flow' surplus') :
    Flows D v v' (flow + flow') (surplus + surplus') := by
  refine ⟨fun token a => ?_, fun token => ?_⟩
  · rw [h'.excess, h.excess, Pi.add_apply]
    split_ifs <;> omega
  · rw [h'.unclaimed, h.unclaimed]
    split_ifs <;> omega

theorem of_eq (h : Flows D v v' flow surplus) (hflow : flow = flow') (hsurplus : surplus = surplus') :
    Flows D v v' flow' surplus' := hflow ▸ hsurplus ▸ h

end Flows

variable {D : Deployment}

section Records

variable {v : Vault}

theorem flows_tokens (balances : Address → ℕ) :
    Flows D v { v with tokens := Function.update v.tokens D.collToken balances }
      (fun a => balances a - v.tokens D.collToken a) 0 := by
  refine ⟨fun token a => ?_, fun token => ?_⟩
  · have hrecorded : Vault.recorded D
        { v with tokens := Function.update v.tokens D.collToken balances } token a =
        v.recorded D token a := rfl
    simp only [Vault.excess, hrecorded]
    by_cases htoken : token = D.collToken
    · subst htoken
      rw [Function.update_self, if_pos rfl]
      ring
    · rw [Function.update_of_ne htoken, if_neg htoken, add_zero]
  · rw [ite_self, add_zero]
    rfl

/-- A pool that records less has more in excess. -/
theorem flows_activePool (n : ℕ) :
    Flows D v { v with activePool := Function.update v.activePool D.collToken n }
      (Pi.single D.activePool (v.activePool D.collToken - n)) 0 := by
  refine ⟨fun token a => ?_, fun token => ?_⟩
  · simp only [Vault.excess, Vault.recorded]
    by_cases htoken : token = D.collToken
    · subst htoken
      rw [Function.update_self, if_pos rfl]
      by_cases ha : a = D.activePool
      · subst ha
        simp only [Pi.single_eq_same, if_true]
        push_cast
        ring
      · simp only [Pi.single_eq_of_ne ha, if_neg ha, add_zero]
    · rw [Function.update_of_ne htoken, if_neg htoken, add_zero]
  · rw [ite_self, add_zero]
    rfl

theorem flows_defaultPool (n : ℕ) :
    Flows D v { v with defaultPool := Function.update v.defaultPool D.collToken n }
      (Pi.single D.defaultPool (v.defaultPool D.collToken - n)) 0 := by
  refine ⟨fun token a => ?_, fun token => ?_⟩
  · simp only [Vault.excess, Vault.recorded]
    by_cases htoken : token = D.collToken
    · subst htoken
      rw [Function.update_self, if_pos rfl]
      by_cases ha : a = D.defaultPool
      · subst ha
        simp only [Pi.single_eq_same, if_true]
        push_cast
        ring
      · simp only [Pi.single_eq_of_ne ha, if_neg ha, add_zero]
    · rw [Function.update_of_ne htoken, if_neg htoken, add_zero]
  · rw [ite_self, add_zero]
    rfl

theorem flows_stabilityPool (n : ℕ) :
    Flows D v { v with stabilityPool := n }
      (Pi.single D.stabilityPool (v.stabilityPool - n)) 0 := by
  refine ⟨fun token a => ?_, fun token => ?_⟩
  · simp only [Vault.excess, Vault.recorded]
    by_cases htoken : token = D.collToken
    · subst htoken
      by_cases ha : a = D.stabilityPool
      · subst ha
        simp only [Pi.single_eq_same, and_true, if_true]
        push_cast
        ring
      · simp only [Pi.single_eq_of_ne ha, ha, and_true, if_false, add_zero, if_true]
    · simp only [htoken, and_false, if_false, add_zero]
  · rw [ite_self, add_zero]
    rfl

theorem flows_colls (n : ℕ) :
    Flows D v { v with
      collSurplusPool.colls := Function.update v.collSurplusPool.colls D.collToken n }
      (Pi.single D.collSurplusPool (v.collSurplusPool.colls D.collToken - n))
      (v.collSurplusPool.colls D.collToken - n) := by
  refine ⟨fun token a => ?_, fun token => ?_⟩
  · simp only [Vault.excess, Vault.recorded]
    by_cases htoken : token = D.collToken
    · subst htoken
      rw [Function.update_self, if_pos rfl]
      by_cases ha : a = D.collSurplusPool
      · subst ha
        simp only [Pi.single_eq_same, if_true]
        push_cast
        ring
      · simp only [Pi.single_eq_of_ne ha, if_neg ha, add_zero]
    · rw [Function.update_of_ne htoken, if_neg htoken, add_zero]
  · simp only [Vault.unclaimed, Function.update_apply]
    split_ifs with h
    · rw [h]
      omega
    · omega

/-- The claim of one account is set to `n`. -/
theorem flows_claim (account : Address) (n : ℕ) :
    Flows D v { v with
      collSurplusPool.balances := Function.update v.collSurplusPool.balances account
        (Function.update (v.collSurplusPool.balances account) D.collToken n) }
      0 (n - v.collSurplusPool.balances account D.collToken) := by
  refine ⟨fun token a => ?_, fun token => ?_⟩
  · rw [Pi.zero_apply, ite_self, add_zero]
    rfl
  · have hrest (a : Address) (ha : a ≠ account) :
        Function.update v.collSurplusPool.balances account
          (Function.update (v.collSurplusPool.balances account) D.collToken n) a token =
          v.collSurplusPool.balances a token := by
      rw [Function.update_of_ne ha]
    have hsum := UpdateSum.sum_change account hrest
    rw [Function.update_self] at hsum
    simp only [Vault.unclaimed]
    by_cases h : token = D.collToken
    · subst h
      rw [Function.update_self] at hsum
      rw [if_pos rfl]
      omega
    · rw [Function.update_of_ne h] at hsum
      rw [if_neg h]
      omega

end Records

variable {s s' : State} {sender recipient account token : Address} {amount : ℕ}

section Pools

theorem Token.transfer_flows (h : Token.transfer s D.collToken sender recipient amount = .ok s') :
    Flows D s.vault s'.vault (Pi.single recipient (amount : ℤ) - Pi.single sender (amount : ℤ)) 0 := by
  obtain ⟨balance, hb, h⟩ := bind_eq_ok.1 h
  obtain ⟨hle, rfl⟩ := sub_eq_ok.1 hb
  rw [← pure_eq_ok.1 h]
  refine (flows_tokens _).of_eq (funext fun a => ?_) rfl
  dsimp only [State.vault, Pi.sub_apply]
  by_cases hsender : a = sender
  · subst hsender
    by_cases hrecipient : a = recipient
    · subst hrecipient
      simp only [Function.update_self, Pi.single_eq_same]
      omega
    · simp only [Function.update_of_ne hrecipient, Function.update_self, Pi.single_eq_same,
        Pi.single_eq_of_ne hrecipient]
      omega
  · by_cases hrecipient : a = recipient
    · subst hrecipient
      simp only [Function.update_self, Function.update_of_ne hsender, Pi.single_eq_same,
        Pi.single_eq_of_ne hsender]
      omega
    · simp only [Function.update_of_ne hrecipient, Function.update_of_ne hsender,
        Pi.single_eq_of_ne hrecipient, Pi.single_eq_of_ne hsender, sub_self]

theorem ActivePool.sendColl_flows
    (h : ActivePool.sendColl D sender s account D.collToken amount = .ok s') :
    Flows D s.vault s'.vault (Pi.single account (amount : ℤ)) 0 := by
  obtain ⟨_, -, h⟩ := bind_eq_ok.1 h
  obtain ⟨balance, hb, h⟩ := bind_eq_ok.1 h
  obtain ⟨hle, rfl⟩ := sub_eq_ok.1 hb
  refine ((flows_activePool _).trans (Token.transfer_flows h)).of_eq ?_ (add_zero _)
  dsimp only [State.vault]
  rw [Nat.cast_sub hle, sub_sub_cancel, add_sub_cancel]

theorem ActivePool.receiveColl_flows
    (h : ActivePool.receiveColl D sender s D.collToken amount = .ok s') :
    Flows D s.vault s'.vault (-Pi.single sender (amount : ℤ)) 0 := by
  obtain ⟨_, -, h⟩ := bind_eq_ok.1 h
  obtain ⟨s₁, h₁, h⟩ := bind_eq_ok.1 h
  rw [← pure_eq_ok.1 h]
  refine ((Token.transfer_flows h₁).trans (flows_activePool _)).of_eq ?_ (add_zero _)
  dsimp only [State.vault]
  rw [Nat.cast_add, sub_add_cancel_left, Pi.single_neg]
  abel

theorem DefaultPool.sendToActivePool_flows
    (h : DefaultPool.sendToActivePool D sender s D.collToken amount = .ok s') :
    Flows D s.vault s'.vault 0 0 := by
  obtain ⟨_, -, h⟩ := bind_eq_ok.1 h
  obtain ⟨balance, hb, h⟩ := bind_eq_ok.1 h
  obtain ⟨hle, rfl⟩ := sub_eq_ok.1 hb
  refine ((flows_defaultPool _).trans (ActivePool.receiveColl_flows h)).of_eq ?_ (add_zero _)
  dsimp only [State.vault]
  rw [Nat.cast_sub hle, sub_sub_cancel, add_neg_cancel]

theorem DefaultPool.receiveColl_flows
    (h : DefaultPool.receiveColl D sender s D.collToken amount = .ok s') :
    Flows D s.vault s'.vault (-Pi.single sender (amount : ℤ)) 0 := by
  obtain ⟨_, -, h⟩ := bind_eq_ok.1 h
  obtain ⟨s₁, h₁, h⟩ := bind_eq_ok.1 h
  rw [← pure_eq_ok.1 h]
  refine ((Token.transfer_flows h₁).trans (flows_defaultPool _)).of_eq ?_ (add_zero _)
  dsimp only [State.vault]
  rw [Nat.cast_add, sub_add_cancel_left, Pi.single_neg]
  abel

theorem CollSurplusPool.accountSurplus_flows
    (h : CollSurplusPool.accountSurplus D sender s account D.collToken amount = .ok s') :
    Flows D s.vault s'.vault 0 amount := by
  obtain ⟨_, -, h⟩ := bind_eq_ok.1 h
  obtain ⟨_, -, h⟩ := bind_eq_ok.1 h
  rw [← pure_eq_ok.1 h]
  refine (flows_claim account _).of_eq rfl ?_
  dsimp only [State.vault]
  rw [Nat.cast_add, add_sub_cancel_left]

theorem CollSurplusPool.receiveColl_flows
    (h : CollSurplusPool.receiveColl D sender s D.collToken amount = .ok s') :
    Flows D s.vault s'.vault (-Pi.single sender (amount : ℤ)) (-amount) := by
  obtain ⟨_, -, h⟩ := bind_eq_ok.1 h
  obtain ⟨_, -, h⟩ := bind_eq_ok.1 h
  obtain ⟨s₁, h₁, h⟩ := bind_eq_ok.1 h
  rw [← pure_eq_ok.1 h]
  refine ((Token.transfer_flows h₁).trans (flows_colls _)).of_eq ?_ ?_
  · dsimp only [State.vault]
    rw [Nat.cast_add, sub_add_cancel_left, Pi.single_neg]
    abel
  · dsimp only [State.vault]
    rw [Nat.cast_add, sub_add_cancel_left, zero_add]

/-- A claim pays the receiver what the pool records for the account. -/
theorem CollSurplusPool.claimColl_flows {receiver : Address}
    (h : CollSurplusPool.claimColl D sender s account receiver D.collToken = .ok s') :
    Flows D s.vault s'.vault (Pi.single receiver (s.collSurplusPool.balances account D.collToken : ℤ)) 0 := by
  obtain ⟨_, -, h⟩ := bind_eq_ok.1 h
  obtain ⟨_, -, h⟩ := bind_eq_ok.1 h
  obtain ⟨_, -, h⟩ := bind_eq_ok.1 h
  obtain ⟨balance, hb, h⟩ := bind_eq_ok.1 h
  obtain ⟨hle, rfl⟩ := sub_eq_ok.1 hb
  refine (((flows_colls _).trans (flows_claim account 0)).trans (Token.transfer_flows h)).of_eq ?_ ?_
  · dsimp only [State.vault]
    rw [Nat.cast_sub hle, sub_sub_cancel, add_zero, add_sub_cancel]
  · dsimp only [State.vault]
    omega

end Pools

namespace TroveManager

variable {borrower : Address} {debt coll : ℕ} {entire : EntireDebtAndColl} {status : Status}

theorem movePendingTroveRewardsToActivePool_flows
    (h : movePendingTroveRewardsToActivePool D s debt coll = .ok s') : Flows D s.vault s'.vault 0 0 := by
  obtain ⟨s₁, h₁, h⟩ := bind_eq_ok.1 h
  obtain ⟨s₂, h₂, h⟩ := bind_eq_ok.1 h
  have hdebt : Ensures (fun s₁ => s₁.vault = s.vault)
      (DefaultPool.decreaseUSDDDebt D D.troveManager s debt) := by
    simp [DefaultPool.decreaseUSDDDebt, DefaultPool.requireCallerIsTroveManager, State.vault]
  have hdebt' : Ensures (fun s₂ => s₂.vault = s₁.vault)
      (ActivePool.increaseUSDDDebt D D.troveManager s₁ debt) := by
    simp [ActivePool.increaseUSDDDebt, State.vault]
  exact (Flows.of_vault ((hdebt' s₂ h₂).trans (hdebt s₁ h₁))).trans
    (DefaultPool.sendToActivePool_flows h)

theorem applyPendingRewards_flows (h : applyPendingRewards D s borrower = .ok s') :
    Flows D s.vault s'.vault 0 0 := by
  rcases ite_eq_ok.1 h with ⟨-, h⟩ | ⟨-, h⟩
  · obtain ⟨_, -, h⟩ := bind_eq_ok.1 h
    obtain ⟨_, -, h⟩ := bind_eq_ok.1 h
    obtain ⟨_, -, h⟩ := bind_eq_ok.1 h
    exact (movePendingTroveRewardsToActivePool_flows h :)
  · rw [← pure_eq_ok.1 h]
    exact Flows.refl D _

theorem restake_vault : Ensures (fun s' => s'.vault = s.vault) (restake s borrower) := by
  simp [restake, State.vault]

theorem closeTrove_vault : Ensures (fun s' => s'.vault = s.vault) (closeTrove s borrower status) := by
  simp [closeTrove, requireMoreThanOneTroveInSystem, State.vault]

theorem redistributeDebtAndColl_flows (h : redistributeDebtAndColl D s debt coll = .ok s') :
    Flows D s.vault s'.vault 0 0 := by
  rcases ite_eq_ok.1 h with ⟨-, h⟩ | ⟨-, h⟩
  · rw [← pure_eq_ok.1 h]
    exact Flows.refl D _
  · obtain ⟨tm, -, h⟩ := bind_eq_ok.1 h
    obtain ⟨s₁, h₁, h⟩ := bind_eq_ok.1 h
    obtain ⟨s₂, h₂, h⟩ := bind_eq_ok.1 h
    obtain ⟨s₃, h₃, h⟩ := bind_eq_ok.1 h
    have hdebt : Ensures (fun s₁ => s₁.vault = s.vault) (ActivePool.decreaseUSDDDebt D D.troveManager
        { s with
          troveManager := tm
          journal := .redistribute s.troveManager s.sortedTroves debt coll :: s.journal } debt) := by
      simp [ActivePool.decreaseUSDDDebt, State.vault]
    have hdebt' : Ensures (fun s₂ => s₂.vault = s₁.vault)
        (DefaultPool.increaseUSDDDebt D D.troveManager s₁ debt) := by
      simp [DefaultPool.increaseUSDDDebt, DefaultPool.requireCallerIsTroveManager, State.vault]
    exact ((Flows.of_vault ((hdebt' s₂ h₂).trans (hdebt s₁ h₁))).trans
      ((ActivePool.sendColl_flows h₃).trans (DefaultPool.receiveColl_flows h))).of_eq
        (by abel) (by abel)

end TroveManager

namespace StabilityPool

variable {m : Message} {debt coll : ℕ} {depositor frontEnd : Address}

theorem triggerDEFTIssuance_vault :
    Ensures (fun s' => s'.vault = s.vault) (triggerDEFTIssuance D m s) := by
  intro s' h
  obtain ⟨⟨s₁, issuance⟩, h₁, h⟩ := bind_eq_ok.1 h
  obtain ⟨sp, hsp, h⟩ := bind_eq_ok.1 h
  obtain ⟨_, -, h₁⟩ := bind_eq_ok.1 h₁
  obtain ⟨_, -, h₁⟩ := bind_eq_ok.1 h₁
  obtain ⟨_, -, h₁⟩ := bind_eq_ok.1 h₁
  obtain ⟨_, -, h₁⟩ := bind_eq_ok.1 h₁
  cases pure_eq_ok.1 h₁
  obtain ⟨rate, error, rfl, -⟩ := updateG_eq_ok hsp
  rw [← pure_eq_ok.1 h]
  rfl

theorem payOutDEFTGains_vault :
    Ensures (fun s' => s'.vault = s.vault) (payOutDEFTGains D s depositor frontEnd) := by
  simp [payOutDEFTGains, payOutFrontEndGain, CommunityIssuance.sendDEFT,
    CommunityIssuance.requireCallerIsStabilityPool, State.vault]

theorem moveOffsetCollAndDebt_flows (h : moveOffsetCollAndDebt D s coll debt = .ok s') :
    Flows D s.vault s'.vault 0 0 := by
  obtain ⟨s₁, h₁, h⟩ := bind_eq_ok.1 h
  obtain ⟨s₂, h₂, h⟩ := bind_eq_ok.1 h
  obtain ⟨s₃, h₃, h⟩ := bind_eq_ok.1 h
  obtain ⟨s₄, h₄, h⟩ := bind_eq_ok.1 h
  have hdebt : Ensures (fun s₁ => s₁.vault = s.vault)
      (ActivePool.decreaseUSDDDebt D D.stabilityPool s debt) := by
    simp [ActivePool.decreaseUSDDDebt, State.vault]
  have htotal : Ensures (fun s₂ => s₂.vault = s₁.vault) (decreaseUSDD s₁ debt) := by
    simp [decreaseUSDD, State.vault]
  have hburn : Ensures (fun s₃ => s₃.vault = s₂.vault)
      (USDDToken.burn D D.stabilityPool s₂ D.stabilityPool debt) := by
    simp [USDDToken.burn, State.vault]
  rw [← pure_eq_ok.1 h]
  refine ((Flows.of_vault ((hburn s₃ h₃).trans ((htotal s₂ h₂).trans (hdebt s₁ h₁)))).trans
    ((ActivePool.sendColl_flows h₄).trans (flows_stabilityPool _))).of_eq ?_ (by abel)
  dsimp only [State.vault]
  rw [Nat.cast_add, sub_add_cancel_left, Pi.single_neg]
  abel

theorem offset_flows (h : offset D m sender s debt coll = .ok s') : Flows D s.vault s'.vault 0 0 := by
  obtain ⟨_, -, h⟩ := bind_eq_ok.1 h
  dsimp only at h
  rcases ite_eq_ok.1 h with ⟨-, h⟩ | ⟨-, h⟩
  · rw [← pure_eq_ok.1 h]
    exact Flows.refl D _
  · obtain ⟨s₁, h₁, h⟩ := bind_eq_ok.1 h
    obtain ⟨r, hr, h⟩ := bind_eq_ok.1 h
    obtain ⟨sp, hsp, h⟩ := bind_eq_ok.1 h
    have hcoll : sp.coll = s₁.stabilityPool.coll := by
      obtain ⟨-, lossError, collError, -, -, hpool⟩ := computeRewardsPerUnitStaked_eq_ok hr
      obtain ⟨-, -, hsp'⟩ := updateRewardSumAndProduct_eq_ok hsp
      rw [hsp', (updateProduct_totals _ _).2, hpool]
    have hvault : State.vault { s₁ with
        stabilityPool := sp
        journal := .offset s₁.stabilityPool debt :: s₁.journal } = s.vault := by
      rw [← triggerDEFTIssuance_vault s₁ h₁]
      simp only [State.vault, hcoll]
    rw [← hvault]
    exact moveOffsetCollAndDebt_flows h

end StabilityPool

end Usdd

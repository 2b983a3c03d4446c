import Usdd.LoopRules
import Usdd.MarketRuns

/-!
# Custody of USDD

The core contracts are the Stability Pool, BorrowerOperations and the TroveManager. What they hold of
USDD beyond the deposits stays the same in every call that mints, burns and transfers for accounts
outside the core, so nothing can be stranded there, unless a trove is opened for one of them.
-/

open Transaction

namespace Usdd

/-- The contracts to which USDD cannot be transferred. -/
def Deployment.core (D : Deployment) : List Address :=
  [D.stabilityPool, D.borrowerOperations, D.troveManager]

/-- What an account holds of USDD, less the deposits in the case of the Stability Pool. -/
def State.stranded (D : Deployment) (s : State) (a : Address) : ℤ :=
  s.usddToken.balances a - if a = D.stabilityPool then s.stabilityPool.totalUSDDDeposits else 0

def KeepsCustody (D : Deployment) (s s' : State) : Prop :=
  ∀ a ∈ D.core, s'.stranded D a = s.stranded D a

def State.usddBook (s : State) : USDDToken × ℕ := (s.usddToken, s.stabilityPool.totalUSDDDeposits)

variable {D : Deployment} {m : Message} {s s₁ s' : State}
  {a account borrower sender pool receiver recipient : Address} {amount price : ℕ}

namespace KeepsCustody

theorem refl (D : Deployment) (s : State) : KeepsCustody D s s := fun _ _ => rfl

theorem trans (h : KeepsCustody D s s₁) (h' : KeepsCustody D s₁ s') : KeepsCustody D s s' :=
  fun a ha => (h' a ha).trans (h a ha)

theorem of_usddBook (h : s'.usddBook = s.usddBook) : KeepsCustody D s s' := by
  obtain ⟨htoken, hdeposits⟩ := Prod.mk.inj h
  intro a _
  unfold State.stranded
  rw [htoken, hdeposits]

/-- The USDD of the core moves only together with the deposits. -/
theorem of_balances
    (hcore : ∀ a ∈ D.core, a ≠ D.stabilityPool →
      s'.usddToken.balances a = s.usddToken.balances a)
    (hpool : s'.usddToken.balances D.stabilityPool + s.stabilityPool.totalUSDDDeposits =
      s.usddToken.balances D.stabilityPool + s'.stabilityPool.totalUSDDDeposits) :
    KeepsCustody D s s' := by
  intro a ha
  unfold State.stranded
  by_cases hap : a = D.stabilityPool
  · subst hap
    rw [if_pos rfl, if_pos rfl]
    omega
  · rw [if_neg hap, if_neg hap, hcore a ha hap]

/-- The token changes the balance of nobody in the core. -/
theorem of_token {t : USDDToken} (h : ∀ a ∈ D.core, t.balances a = s.usddToken.balances a) :
    KeepsCustody D s { s with usddToken := t } := by
  refine of_balances (fun a ha _ => h a ha) ?_
  show t.balances D.stabilityPool + _ = _
  rw [h D.stabilityPool (by simp [Deployment.core])]

end KeepsCustody

section Token

open USDDToken

theorem ne_of_core (ha : a ∈ D.core) (haccount : account ∉ D.core) : a ≠ account := by
  rintro rfl
  exact haccount ha

theorem USDDToken.mint_keeps (haccount : account ∉ D.core)
    (h : mint D sender s account amount = .ok s') : KeepsCustody D s s' := by
  obtain ⟨_, -, h⟩ := bind_eq_ok.1 h
  obtain ⟨t, ht, h⟩ := bind_eq_ok.1 h
  rw [← pure_eq_ok.1 h, (mintTo_eq_ok ht).2]
  exact .of_token (fun a ha => Function.update_of_ne (ne_of_core ha haccount) _ _)

theorem USDDToken.burn_keeps (haccount : account ∉ D.core ∨ amount = 0)
    (h : burn D sender s account amount = .ok s') : KeepsCustody D s s' := by
  obtain ⟨_, -, h⟩ := bind_eq_ok.1 h
  obtain ⟨t, ht, h⟩ := bind_eq_ok.1 h
  obtain ⟨hle, rfl⟩ := burnFrom_eq_ok ht
  rw [← pure_eq_ok.1 h]
  refine .of_token (fun a ha => ?_)
  rcases haccount with haccount | rfl
  · exact Function.update_of_ne (ne_of_core ha haccount) _ _
  · exact congrFun (Function.update_eq_self account _) a

theorem USDDToken.move_balances {t t' : USDDToken} (hsender : a ≠ sender ∨ amount = 0)
    (hrecipient : a ≠ recipient) (h : t.move sender recipient amount = .ok t') :
    t'.balances a = t.balances a := by
  obtain ⟨hle, rfl⟩ := move_eq_ok h
  simp only [credit, debit]
  rw [Function.update_of_ne hrecipient]
  rcases hsender with hsender | rfl
  · exact Function.update_of_ne hsender _ _
  · exact congrFun (Function.update_eq_self sender _) a

theorem USDDToken.returnFromPool_keeps (hpool : pool ∉ D.core) (hreceiver : receiver ∉ D.core)
    (h : returnFromPool D sender s pool receiver amount = .ok s') : KeepsCustody D s s' := by
  obtain ⟨_, -, h⟩ := bind_eq_ok.1 h
  obtain ⟨t, ht, h⟩ := bind_eq_ok.1 h
  rw [← pure_eq_ok.1 h]
  exact .of_token (fun a ha =>
    move_balances (Or.inl (ne_of_core ha hpool)) (ne_of_core ha hreceiver) ht)

theorem USDDToken.requireValidRecipient_eq_ok {u : Unit}
    (h : requireValidRecipient D recipient = .ok u) : recipient ∉ D.core := by
  obtain ⟨_, -, h⟩ := bind_eq_ok.1 h
  obtain ⟨hpool, htm, hbo⟩ := require_eq_ok.1 h
  simp [Deployment.core, hpool, htm, hbo]

theorem USDDToken.transfer_keeps (hsender : m.sender ∉ D.core)
    (h : transfer D m s recipient amount = .ok s') : KeepsCustody D s s' := by
  obtain ⟨_, hvalid, h⟩ := bind_eq_ok.1 h
  obtain ⟨t, ht, h⟩ := bind_eq_ok.1 h
  have hrecipient := requireValidRecipient_eq_ok hvalid
  rw [← pure_eq_ok.1 h]
  exact .of_token (fun a ha =>
    move_balances (Or.inl (ne_of_core ha hsender)) (ne_of_core ha hrecipient) ht)

/-- Nobody in the core has approved a spender. -/
theorem USDDToken.transferFrom_keeps
    (hallowances : ∀ owner ∈ D.core, s.usddToken.allowances owner m.sender = 0)
    (h : transferFrom D m s sender recipient amount = .ok s') : KeepsCustody D s s' := by
  obtain ⟨_, hvalid, h⟩ := bind_eq_ok.1 h
  obtain ⟨t, ht, h⟩ := bind_eq_ok.1 h
  obtain ⟨allowance, hallowance, h⟩ := bind_eq_ok.1 h
  obtain ⟨t', ht', h⟩ := bind_eq_ok.1 h
  obtain ⟨hle, -⟩ := sub_eq_ok.1 hallowance
  have hrecipient := requireValidRecipient_eq_ok hvalid
  rw [← pure_eq_ok.1 h, setAllowance_eq_ok ht']
  refine .of_token (fun a ha => ?_)
  show t.balances a = s.usddToken.balances a
  refine move_balances ?_ (ne_of_core ha hrecipient) ht
  by_cases hs : a = sender
  · subst hs
    right
    rw [move_allowances ht, hallowances a ha] at hle
    exact Nat.le_zero.1 hle
  · exact Or.inl hs

theorem USDDToken.setAllowance_keeps {t t' : USDDToken} {owner spender : Address}
    (hbalances : t.balances = s.usddToken.balances)
    (h : t.setAllowance owner spender amount = .ok t') :
    KeepsCustody D s { s with usddToken := t' } := by
  rw [setAllowance_eq_ok h]
  exact .of_token (fun a _ => congrFun hbalances a)

end Token

section Frames

open TroveManager BorrowerOperations

theorem TroveManager.applyPendingRewards_usddBook :
    Ensures (fun s' => s'.usddBook = s.usddBook) (applyPendingRewards D s borrower) := by
  simp [applyPendingRewards, movePendingTroveRewardsToActivePool, DefaultPool.decreaseUSDDDebt,
    ActivePool.increaseUSDDDebt, DefaultPool.sendToActivePool, ActivePool.receiveColl,
    Token.transfer, requireTroveIsActive, DefaultPool.requireCallerIsTroveManager,
    DefaultPool.requireCallerIsTroveManagerOf, getPendingCollReward, getPendingUSDDDebtReward,
    State.usddBook]

theorem TroveManager.restake_usddBook :
    Ensures (fun s' => s'.usddBook = s.usddBook) (restake s borrower) := by
  simp [restake, State.usddBook]

theorem TroveManager.closeTrove_usddBook {status : Status} :
    Ensures (fun s' => s'.usddBook = s.usddBook) (TroveManager.closeTrove s borrower status) := by
  simp [TroveManager.closeTrove, requireMoreThanOneTroveInSystem, State.usddBook]

theorem TroveManager.redistributeDebtAndColl_usddBook {debt coll : ℕ} :
    Ensures (fun s' => s'.usddBook = s.usddBook) (redistributeDebtAndColl D s debt coll) := by
  simp [redistributeDebtAndColl, ActivePool.decreaseUSDDDebt, DefaultPool.increaseUSDDDebt,
    ActivePool.sendColl, DefaultPool.receiveColl, Token.transfer,
    DefaultPool.requireCallerIsTroveManager, DefaultPool.requireCallerIsTroveManagerOf,
    State.usddBook]

theorem TroveManager.sendCollSurplus_usddBook :
    Ensures (fun s' => s'.usddBook = s.usddBook) (sendCollSurplus D s amount) := by
  simp [sendCollSurplus, ActivePool.sendColl, CollSurplusPool.receiveColl, Token.transfer,
    State.usddBook]

theorem ActivePool.sendColl_usddBook {token : Address} :
    Ensures (fun s' => s'.usddBook = s.usddBook)
      (ActivePool.sendColl D sender s account token amount) := by
  simp [ActivePool.sendColl, Token.transfer, State.usddBook]

theorem ActivePool.increaseUSDDDebt_usddBook :
    Ensures (fun s' => s'.usddBook = s.usddBook)
      (ActivePool.increaseUSDDDebt D sender s amount) := by
  simp [ActivePool.increaseUSDDDebt, State.usddBook]

theorem ActivePool.decreaseUSDDDebt_usddBook :
    Ensures (fun s' => s'.usddBook = s.usddBook)
      (ActivePool.decreaseUSDDDebt D sender s amount) := by
  simp [ActivePool.decreaseUSDDDebt, State.usddBook]

theorem TroveManager.updateSystemSnapshotsExcludeCollRemainder_usddBook :
    Ensures (fun s' => s'.usddBook = s.usddBook)
      (updateSystemSnapshotsExcludeCollRemainder D s amount) := by
  simp [updateSystemSnapshotsExcludeCollRemainder, State.usddBook]

theorem TroveManager.sendCollGasCompensation_usddBook :
    Ensures (fun s' => s'.usddBook = s.usddBook) (sendCollGasCompensation D s account amount) := by
  simp [sendCollGasCompensation, ActivePool.sendColl, Token.transfer, State.usddBook]

theorem BorrowerOperations.activePoolAddColl_usddBook :
    Ensures (fun s' => s'.usddBook = s.usddBook) (activePoolAddColl D m s amount) := by
  simp [activePoolAddColl, ActivePool.receiveColl, Token.transfer, State.usddBook]

theorem BorrowerOperations.claimCollateral_usddBook :
    Ensures (fun s' => s'.usddBook = s.usddBook) (claimCollateral D m s account) := by
  simp [claimCollateral, requireCallerIsBorrowerOrGw, CollSurplusPool.claimColl, Token.transfer,
    State.usddBook]

theorem StabilityPool.triggerDEFTIssuance_usddBook :
    Ensures (fun s' => s'.usddBook = s.usddBook) (triggerDEFTIssuance D m s) := by
  intro s' h
  obtain ⟨⟨s₁, issuance⟩, h₁, h⟩ := bind_eq_ok.1 h
  obtain ⟨sp, hsp, h⟩ := bind_eq_ok.1 h
  obtain ⟨_, -, h₁⟩ := bind_eq_ok.1 h₁
  obtain ⟨_, -, h₁⟩ := bind_eq_ok.1 h₁
  obtain ⟨_, -, h₁⟩ := bind_eq_ok.1 h₁
  obtain ⟨_, -, h₁⟩ := bind_eq_ok.1 h₁
  cases pure_eq_ok.1 h₁
  rw [← pure_eq_ok.1 h]
  exact Prod.mk.injEq _ _ _ _ ▸ ⟨rfl, updateG_totalUSDDDeposits hsp⟩

theorem StabilityPool.payOutDEFTGains_usddBook {depositor frontEnd : Address} :
    Ensures (fun s' => s'.usddBook = s.usddBook) (payOutDEFTGains D s depositor frontEnd) := by
  simp [payOutDEFTGains, payOutFrontEndGain, CommunityIssuance.sendDEFT,
    CommunityIssuance.requireCallerIsStabilityPool, State.usddBook]

theorem StabilityPool.sendCollGainToDepositor_usddBook :
    Ensures (fun s' => s'.usddBook = s.usddBook) (sendCollGainToDepositor D m s amount) := by
  simp [sendCollGainToDepositor, Token.transfer, State.usddBook]

end Frames

section Borrowing

namespace BorrowerOperations

theorem chargeBorrowingFee_keeps {charged : Bool} {maxFeePercentage : ℕ} {r : State × ℕ}
    (hstaking : D.deftStaking ∉ D.core)
    (h : chargeBorrowingFee D m s charged amount maxFeePercentage = .ok r) :
    KeepsCustody D s r.1 := by
  unfold chargeBorrowingFee at h
  split_ifs at h
  · obtain ⟨fees, -, h⟩ := bind_eq_ok.1 h
    obtain ⟨_, -, h⟩ := bind_eq_ok.1 h
    obtain ⟨s₁, h₁, h⟩ := bind_eq_ok.1 h
    obtain ⟨s₂, h₂, h⟩ := bind_eq_ok.1 h
    rw [← pure_eq_ok.1 h]
    have hfee : Ensures (fun s₁ => s₁.usddBook = s.usddBook)
        (DEFTStaking.increaseFUSDD D D.borrowerOperations { s with fees := fees }
          (TroveManager.getBorrowingFee fees amount)) := by
      simp [DEFTStaking.increaseFUSDD, State.usddBook]
    exact (KeepsCustody.of_usddBook (hfee s₁ h₁)).trans (USDDToken.mint_keeps hstaking h₂)
  · rw [← pure_eq_ok.1 h]
    exact .refl D s

theorem withdrawUSDD_keeps {netDebt : ℕ} (haccount : account ∉ D.core)
    (h : withdrawUSDD D s account amount netDebt = .ok s') : KeepsCustody D s s' := by
  obtain ⟨s₁, h₁, h⟩ := bind_eq_ok.1 h
  exact (KeepsCustody.of_usddBook (ActivePool.increaseUSDDDebt_usddBook s₁ h₁)).trans
    (USDDToken.mint_keeps haccount h)

theorem repayUSDD_keeps (haccount : account ∉ D.core ∨ amount = 0)
    (h : repayUSDD D s account amount = .ok s') : KeepsCustody D s s' := by
  obtain ⟨s₁, h₁, h⟩ := bind_eq_ok.1 h
  exact (KeepsCustody.of_usddBook (ActivePool.decreaseUSDDDebt_usddBook s₁ h₁)).trans
    (USDDToken.burn_keeps haccount h)

theorem openTrove_keeps {onBehalfOf upperHint lowerHint : Address}
    {maxFeePercentage collAmount usddAmount : ℕ} (hstaking : D.deftStaking ∉ D.core)
    (hgas : D.gasPool ∉ D.core) (honBehalfOf : onBehalfOf ∉ D.core)
    (h : openTrove D m s onBehalfOf maxFeePercentage collAmount usddAmount upperHint lowerHint =
      .ok s') : KeepsCustody D s s' := by
  obtain ⟨s₁, fee, tm, list, s₃, s₄, -, h₁, -, -, -, -, h₃, h₄, h⟩ := openTrove_eq_ok h
  have hcharged := chargeBorrowingFee_keeps hstaking h₁
  have hcoll : KeepsCustody D _ s₃ := .of_usddBook (activePoolAddColl_usddBook s₃ h₃)
  have hminted := withdrawUSDD_keeps honBehalfOf h₄
  exact ((hcharged.trans hcoll).trans hminted).trans (withdrawUSDD_keeps hgas h)

/-- The Stability Pool is a caller only with no change of the debt. -/
theorem moveUSDDFromAdjustment_keeps {isDebtIncrease : Bool} {netDebtChange : ℕ}
    (haccount : account ∉ D.core ∨ amount = 0 ∧ isDebtIncrease = false)
    (h : moveUSDDFromAdjustment D s account amount isDebtIncrease netDebtChange = .ok s') :
    KeepsCustody D s s' := by
  unfold moveUSDDFromAdjustment at h
  split_ifs at h with hincrease
  · rcases haccount with haccount | ⟨-, hdecrease⟩
    · exact withdrawUSDD_keeps haccount h
    · rw [hincrease] at hdecrease
      cases hdecrease
  · exact repayUSDD_keeps (haccount.imp_right And.left) h

theorem moveCollFromAdjustment_usddBook {isCollIncrease : Bool} :
    Ensures (fun s' => s'.usddBook = s.usddBook)
      (moveCollFromAdjustment D m s account amount isCollIncrease) := by
  simp [moveCollFromAdjustment, activePoolAddColl, ActivePool.receiveColl, ActivePool.sendColl,
    Token.transfer, State.usddBook]

theorem adjustTrove_keeps {onBehalfOf : Address} {adj : Adjustment}
    (hstaking : D.deftStaking ∉ D.core)
    (hsender : m.sender ∉ D.core ∨ adj.usddChange = 0 ∧ adj.isDebtIncrease = false)
    (h : adjustTrove D m s onBehalfOf adj = .ok s') : KeepsCustody D s s' := by
  obtain ⟨s₁, s₂, fee, _, coll, debt, tm, list, s₃, -, h₁, h₂, -, -, -, -, -, -, -, h₃, h⟩ :=
    adjustTrove_eq_ok h
  have hpending : KeepsCustody D s s₁ :=
    .of_usddBook (TroveManager.applyPendingRewards_usddBook s₁ h₁)
  have hcharged := chargeBorrowingFee_keeps hstaking h₂
  have husdd := moveUSDDFromAdjustment_keeps hsender h₃
  exact ((hpending.trans hcharged).trans husdd).trans
    (.of_usddBook (moveCollFromAdjustment_usddBook s' h))

theorem closeTrove_keeps {onBehalfOf : Address} (hgas : D.gasPool ∉ D.core)
    (hsender : m.sender ∉ D.core) (h : closeTrove D m s onBehalfOf = .ok s') :
    KeepsCustody D s s' := by
  obtain ⟨s₁, repayment, _, tm, s₂, s₃, s₄, -, -, h₁, -, -, -, -, h₂, h₃, h₄, h⟩ := closeTrove_eq_ok h
  have hpending : s₁.usddBook = s.usddBook := TroveManager.applyPendingRewards_usddBook s₁ h₁
  have hclosed : s₂.usddBook = _ := TroveManager.closeTrove_usddBook s₂ h₂
  have hrepaid : KeepsCustody D s₂ s₄ :=
    (repayUSDD_keeps (Or.inl hsender) h₃).trans (repayUSDD_keeps (Or.inl hgas) h₄)
  exact ((KeepsCustody.of_usddBook (hclosed.trans hpending)).trans hrepaid).trans
    (.of_usddBook (ActivePool.sendColl_usddBook s' h))

end BorrowerOperations

end Borrowing

section Pool

namespace StabilityPool

variable {depositor frontEndTag upperHint lowerHint : Address} {debt coll : ℕ}

theorem decreaseUSDD_eq_ok (h : decreaseUSDD s amount = .ok s') :
    amount ≤ s.stabilityPool.totalUSDDDeposits ∧ s' = { s with
      stabilityPool.totalUSDDDeposits := s.stabilityPool.totalUSDDDeposits - amount } := by
  obtain ⟨_, hsub, h⟩ := bind_eq_ok.1 h
  obtain ⟨hle, rfl⟩ := sub_eq_ok.1 hsub
  exact ⟨hle, (pure_eq_ok.1 h).symm⟩

theorem sendUSDDtoStabilityPool_keeps (haccount : account ∉ D.core)
    (h : sendUSDDtoStabilityPool D s account amount = .ok s') : KeepsCustody D s s' := by
  obtain ⟨s₁, h₁, h⟩ := bind_eq_ok.1 h
  obtain ⟨_, -, h₁⟩ := bind_eq_ok.1 h₁
  obtain ⟨t, ht, h₁⟩ := bind_eq_ok.1 h₁
  rw [← pure_eq_ok.1 h, ← pure_eq_ok.1 h₁]
  refine .of_balances (fun a ha hne => ?_) ?_
  · exact USDDToken.move_balances (Or.inl (ne_of_core ha haccount)) hne ht
  · obtain ⟨hle, rfl⟩ := USDDToken.move_eq_ok ht
    have hpool : D.stabilityPool ≠ account := ne_of_core (by simp [Deployment.core]) haccount
    simp only [USDDToken.credit, USDDToken.debit, Function.update_self]
    rw [Function.update_of_ne hpool]
    omega

theorem sendUSDDToDepositor_keeps (haccount : account ∉ D.core)
    (h : sendUSDDToDepositor D s account amount = .ok s') : KeepsCustody D s s' := by
  rcases ite_eq_ok.1 h with ⟨-, h⟩ | ⟨-, h⟩
  · rw [← pure_eq_ok.1 h]
    exact .refl D s
  · obtain ⟨s₁, h₁, h⟩ := bind_eq_ok.1 h
    obtain ⟨_, -, h₁⟩ := bind_eq_ok.1 h₁
    obtain ⟨t, ht, h₁⟩ := bind_eq_ok.1 h₁
    rw [← pure_eq_ok.1 h₁] at h
    obtain ⟨hle, rfl⟩ := decreaseUSDD_eq_ok h
    refine .of_balances (fun a ha hne => ?_) ?_
    · exact USDDToken.move_balances (Or.inl hne) (ne_of_core ha haccount) ht
    · obtain ⟨hle', rfl⟩ := USDDToken.move_eq_ok ht
      have hpool : D.stabilityPool ≠ account := ne_of_core (by simp [Deployment.core]) haccount
      simp only [USDDToken.credit, USDDToken.debit]
      rw [Function.update_of_ne hpool, Function.update_self]
      dsimp only at hle
      omega

/-- An offset burns what it takes from the deposits. -/
theorem burnFromPool_keeps (h : decreaseUSDD s debt = .ok s₁)
    (h₁ : USDDToken.burn D sender s₁ D.stabilityPool debt = .ok s') : KeepsCustody D s s' := by
  obtain ⟨hle, rfl⟩ := decreaseUSDD_eq_ok h
  obtain ⟨_, -, h₁⟩ := bind_eq_ok.1 h₁
  obtain ⟨t, ht, h₁⟩ := bind_eq_ok.1 h₁
  obtain ⟨hle', rfl⟩ := USDDToken.burnFrom_eq_ok ht
  rw [← pure_eq_ok.1 h₁]
  refine .of_balances (fun a ha hne => Function.update_of_ne hne _ _) ?_
  simp only [USDDToken.debit, Function.update_self]
  dsimp only at hle'
  omega

theorem moveOffsetCollAndDebt_keeps (h : moveOffsetCollAndDebt D s coll debt = .ok s') :
    KeepsCustody D s s' := by
  obtain ⟨s₁, h₁, h⟩ := bind_eq_ok.1 h
  obtain ⟨s₂, h₂, h⟩ := bind_eq_ok.1 h
  obtain ⟨s₃, h₃, h⟩ := bind_eq_ok.1 h
  obtain ⟨s₄, h₄, h⟩ := bind_eq_ok.1 h
  have hdebt : KeepsCustody D s s₁ := .of_usddBook (ActivePool.decreaseUSDDDebt_usddBook s₁ h₁)
  have hsent : KeepsCustody D s₃ s₄ := .of_usddBook (ActivePool.sendColl_usddBook s₄ h₄)
  have hcoll : KeepsCustody D s₄ s' := by
    rw [← pure_eq_ok.1 h]
    exact .of_usddBook rfl
  exact ((hdebt.trans (burnFromPool_keeps h₂ h₃)).trans hsent).trans hcoll

theorem offset_keeps (h : offset D m sender s debt coll = .ok s') : KeepsCustody D s s' := by
  obtain ⟨_, -, h⟩ := bind_eq_ok.1 h
  rcases ite_eq_ok.1 h with ⟨-, h⟩ | ⟨-, h⟩
  · rw [← pure_eq_ok.1 h]
    exact .refl D s
  · obtain ⟨s₁, h₁, h⟩ := bind_eq_ok.1 h
    obtain ⟨r, hr, h⟩ := bind_eq_ok.1 h
    obtain ⟨sp, hsp, h⟩ := bind_eq_ok.1 h
    obtain ⟨-, lossError, collError, -, -, hpool⟩ := computeRewardsPerUnitStaked_eq_ok hr
    obtain ⟨-, -, hsp'⟩ := updateRewardSumAndProduct_eq_ok hsp
    have hdeposits : sp.totalUSDDDeposits = s₁.stabilityPool.totalUSDDDeposits := by
      rw [hsp', (updateProduct_totals _ _).1, hpool]
    have hbook : KeepsCustody D s₁ { s₁ with
        stabilityPool := sp
        journal := .offset s₁.stabilityPool debt :: s₁.journal } := by
      refine .of_usddBook ?_
      simp only [State.usddBook, hdeposits]
    exact ((KeepsCustody.of_usddBook (triggerDEFTIssuance_usddBook s₁ h₁)).trans hbook).trans
      (moveOffsetCollAndDebt_keeps h)

theorem KeepsCustody.of_pool {sp : StabilityPool} {journal : List JournalEntry}
    (h : sp.totalUSDDDeposits = s.stabilityPool.totalUSDDDeposits) :
    KeepsCustody D s { s with stabilityPool := sp, journal := journal } :=
  .of_usddBook (Prod.ext rfl h)

theorem provideToSP_keeps (hdepositor : depositor ∉ D.core)
    (h : provideToSP D m s depositor amount frontEndTag = .ok s') : KeepsCustody D s s' := by
  obtain ⟨_, -, h⟩ := bind_eq_ok.1 h
  obtain ⟨_, -, h⟩ := bind_eq_ok.1 h
  obtain ⟨_, -, h⟩ := bind_eq_ok.1 h
  obtain ⟨_, -, h⟩ := bind_eq_ok.1 h
  obtain ⟨s₁, h₁, h⟩ := bind_eq_ok.1 h
  obtain ⟨gain, -, h⟩ := bind_eq_ok.1 h
  obtain ⟨deposit, -, h⟩ := bind_eq_ok.1 h
  obtain ⟨_, -, h⟩ := bind_eq_ok.1 h
  obtain ⟨s₂, h₂, h⟩ := bind_eq_ok.1 h
  obtain ⟨stake, -, h⟩ := bind_eq_ok.1 h
  obtain ⟨s₃, h₃, h⟩ := bind_eq_ok.1 h
  have hissued : KeepsCustody D s s₁ := .of_usddBook (triggerDEFTIssuance_usddBook s₁ h₁)
  have hpaid : KeepsCustody D s₁ s₂ :=
    (KeepsCustody.of_pool (setTagOfNewDeposit_totalUSDDDeposits _ _ _)).trans
      (.of_usddBook (payOutDEFTGains_usddBook s₂ h₂))
  have hsent : KeepsCustody D s₂ s₃ :=
    (KeepsCustody.of_pool (updateFrontEndStakeAndSnapshots_totals _ _ _).1).trans
      (sendUSDDtoStabilityPool_keeps hdepositor h₃)
  have hgain : KeepsCustody D s₃ s' :=
    (KeepsCustody.of_pool (updateDepositAndSnapshots_totals _ _ _).1).trans
      (.of_usddBook (sendCollGainToDepositor_usddBook s' h))
  exact ((hissued.trans hpaid).trans hsent).trans hgain

theorem withdrawFromSP_keeps (hdepositor : depositor ∉ D.core)
    (h : withdrawFromSP D m s depositor amount = .ok s') : KeepsCustody D s s' := by
  obtain ⟨_, -, h⟩ := bind_eq_ok.1 h
  obtain ⟨_, -, h⟩ := bind_eq_ok.1 h
  obtain ⟨_, -, h⟩ := bind_eq_ok.1 h
  obtain ⟨s₁, h₁, h⟩ := bind_eq_ok.1 h
  obtain ⟨gain, -, h⟩ := bind_eq_ok.1 h
  obtain ⟨deposit, -, h⟩ := bind_eq_ok.1 h
  obtain ⟨_, -, h⟩ := bind_eq_ok.1 h
  obtain ⟨s₂, h₂, h⟩ := bind_eq_ok.1 h
  obtain ⟨stake, -, h⟩ := bind_eq_ok.1 h
  obtain ⟨newStake, -, h⟩ := bind_eq_ok.1 h
  obtain ⟨s₃, h₃, h⟩ := bind_eq_ok.1 h
  obtain ⟨newDeposit, -, h⟩ := bind_eq_ok.1 h
  have hissued : KeepsCustody D s s₁ := .of_usddBook (triggerDEFTIssuance_usddBook s₁ h₁)
  have hpaid : KeepsCustody D s₁ s₂ := .of_usddBook (payOutDEFTGains_usddBook s₂ h₂)
  have hsent : KeepsCustody D s₂ s₃ :=
    (KeepsCustody.of_pool (updateFrontEndStakeAndSnapshots_totals _ _ _).1).trans
      (sendUSDDToDepositor_keeps hdepositor h₃)
  have hgain : KeepsCustody D s₃ s' :=
    (KeepsCustody.of_pool (updateDepositAndSnapshots_totals _ _ _).1).trans
      (.of_usddBook (sendCollGainToDepositor_usddBook s' h))
  exact ((hissued.trans hpaid).trans hsent).trans hgain

theorem withdrawCollGainToTrove_keeps (hstaking : D.deftStaking ∉ D.core)
    (h : withdrawCollGainToTrove D m s upperHint lowerHint = .ok s') : KeepsCustody D s s' := by
  obtain ⟨_, -, h⟩ := bind_eq_ok.1 h
  obtain ⟨_, -, h⟩ := bind_eq_ok.1 h
  obtain ⟨_, -, h⟩ := bind_eq_ok.1 h
  obtain ⟨s₁, h₁, h⟩ := bind_eq_ok.1 h
  obtain ⟨gain, -, h⟩ := bind_eq_ok.1 h
  obtain ⟨deposit, -, h⟩ := bind_eq_ok.1 h
  obtain ⟨_, -, h⟩ := bind_eq_ok.1 h
  obtain ⟨s₂, h₂, h⟩ := bind_eq_ok.1 h
  obtain ⟨stake, -, h⟩ := bind_eq_ok.1 h
  obtain ⟨coll, -, h⟩ := bind_eq_ok.1 h
  obtain ⟨_, -, h⟩ := bind_eq_ok.1 h
  have hissued : KeepsCustody D s s₁ := .of_usddBook (triggerDEFTIssuance_usddBook s₁ h₁)
  have hpaid : KeepsCustody D s₁ s₂ := .of_usddBook (payOutDEFTGains_usddBook s₂ h₂)
  have hmoved : KeepsCustody D s₂ s' := by
    refine (KeepsCustody.of_pool ?_).trans
      (BorrowerOperations.adjustTrove_keeps hstaking (Or.inr ⟨rfl, rfl⟩) h)
    exact (updateDepositAndSnapshots_totals _ _ _).1.trans
      (updateFrontEndStakeAndSnapshots_totals _ _ _).1
  exact (hissued.trans hpaid).trans hmoved

end StabilityPool

end Pool

end Usdd

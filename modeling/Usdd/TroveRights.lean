import Usdd.HintHelpers

/-!
# Who can change a trove

A call that is neither a liquidation nor a redemption concerns one trove: the trove of its caller, or
one that it opens. All other troves keep their records, their rewards and their order in the list.
So whoever makes no call keeps an active trove as it is.
-/

open Transaction

namespace Usdd

open SortedTroves (WellFormed)
open TroveManager

/-- From `s` to `s'` only the trove of `id` changes, and the others keep their order. -/
structure Concerns (s s' : State) (id : Address) : Prop where
  frame : Frame s.troveManager s'.troveManager id
  order : s'.sortedTroves.forward.filter (· ≠ id) = s.sortedTroves.forward.filter (· ≠ id)

/-- The part of the state that knows the troves. -/
def State.register (s : State) : TroveManager × SortedTroves.Data :=
  (s.troveManager, s.sortedTroves)

def Book.register (b : Book) : TroveManager × SortedTroves.Data := (b.troveManager, b.sortedTroves)

namespace Concerns

variable {s s₁ s' : State} {id : Address}

theorem of_register (h : s'.register = s.register) (id : Address) : Concerns s s' id := by
  obtain ⟨htm, hlist⟩ := Prod.mk.inj h
  refine ⟨?_, ?_⟩
  · rw [htm]
    exact Frame.refl _ _
  · rw [hlist]

theorem trans (h : Concerns s s₁ id) (h' : Concerns s₁ s' id) : Concerns s s' id :=
  ⟨h.frame.trans h'.frame, h'.order.trans h.order⟩

end Concerns

section List

variable {d d' : SortedTroves.Data} {l : List Address} {id p n : Address} {nicr : ℕ}
  {view : Address → Tx ℕ}

theorem filter_insert (pre post : List Address) (id : Address) :
    (pre ++ id :: post).filter (· ≠ id) = (pre ++ post).filter (· ≠ id) := by
  simp [List.filter_append]

theorem insert_order (h : WellFormed d l) (hr : SortedTroves.insert view d id nicr p n = .ok d') :
    d'.forward.filter (· ≠ id) = d.forward.filter (· ≠ id) := by
  obtain ⟨pre, post, rfl, -, h', -⟩ := SortedTroves.insert_eq_ok h hr
  rw [h.forward_eq, h'.forward_eq, filter_insert]

theorem remove_order (h : WellFormed d l) (hr : SortedTroves.remove d id = .ok d') :
    d'.forward.filter (· ≠ id) = d.forward.filter (· ≠ id) := by
  obtain ⟨pre, post, rfl, h'⟩ := SortedTroves.remove_eq_ok h hr
  rw [h.forward_eq, h'.forward_eq, filter_insert]

theorem reInsert_order (h : WellFormed d l)
    (hr : SortedTroves.reInsert view d id nicr p n = .ok d') :
    d'.forward.filter (· ≠ id) = d.forward.filter (· ≠ id) := by
  obtain ⟨pre, post, pre', post', rfl, hl, h', -⟩ := SortedTroves.reInsert_eq_ok h hr
  rw [h.forward_eq, h'.forward_eq, filter_insert, filter_insert, hl]

end List

variable {D : Deployment} {m : Message} {s s₁ s' : State} {account : Address} {amount : ℕ}

namespace BorrowerOperations

variable {a : Adjustment}

theorem openTrove_concerns {owner upperHint lowerHint : Address} {maxFee coll usdd : ℕ}
    (hreg : Registry s.troveManager s.sortedTroves)
    (h : openTrove D m s owner maxFee coll usdd upperHint lowerHint = .ok s') :
    ¬ s.troveManager.Active owner ∧ Concerns s s' owner := by
  obtain ⟨_, _, stake, -, -, -, htm, -⟩ := openTrove_amounts hreg h
  obtain ⟨s₁, fee, tm, list, s₃, s₄, hnew, h₁, -, -, -, hlist, h₃, h₄, h⟩ := openTrove_eq_ok h
  obtain ⟨_, _, -, -, b₁⟩ := chargeBorrowingFee_book h₁ 0 0 0
  have b₃ := activePoolAddColl_book h₃ 0 0 0
  obtain ⟨_, _, -, -, -, b₄⟩ := withdrawUSDD_book h₄ 0 0 0
  obtain ⟨_, _, -, -, -, b₅⟩ := withdrawUSDD_book h 0 0 0
  have hlist₁ : s₁.sortedTroves = s.sortedTroves := congrArg Book.sortedTroves b₁
  have hlist' : s'.sortedTroves = list := by
    rw [b₃] at b₄
    rw [b₄] at b₅
    exact congrArg Book.sortedTroves b₅
  refine ⟨hnew, ?_, ?_⟩
  · rw [htm]
    exact entered_frame
  · rw [hlist₁] at hlist
    rw [hlist']
    exact insert_order hreg.list hlist

theorem adjustTrove_concerns (hreg : Registry s.troveManager s.sortedTroves)
    (hgas : m.sender ≠ D.gasPool) (h : adjustTrove D m s account a = .ok s') :
    Concerns s s' account := by
  obtain ⟨s₁, _, _, _, coll, debt, stake, hvalid, h₁, -, -, -, -, -, -, -, -, -, htm, -⟩ :=
    adjustTrove_amounts hgas h
  obtain ⟨hsp, hactive⟩ := requireValidAdjustment_eq_ok hvalid
  obtain ⟨hf, hlist₁⟩ := applyPendingRewards_frame hactive h₁
  obtain ⟨s₁', s₂, fee, newICR, coll', debt', tm, list, s₃, -, h₁', h₂, -, -, -, -, -, -, hlist, h₃,
    h⟩ := adjustTrove_eq_ok h
  rw [h₁] at h₁'
  cases h₁'
  obtain ⟨_, _, -, -, b₂⟩ := chargeBorrowingFee_book h₂ 0 0 0
  obtain ⟨_, _, _, _, -, -, -, -, b₃⟩ :=
    moveUSDDFromAdjustment_book h₃ (adjustTrove_netDebtChange h₂) hgas hsp 0 0 0
  obtain ⟨_, -, b'⟩ := moveCollFromAdjustment_book h 0 0 0
  have hlist₂ : s₂.sortedTroves = s₁.sortedTroves := congrArg Book.sortedTroves b₂
  have hlist' : s'.sortedTroves = list := by
    rw [b₃] at b'
    exact congrArg Book.sortedTroves b'
  refine ⟨?_, ?_⟩
  · rw [htm]
    exact hf.trans restaked_frame
  · rw [hlist₂, hlist₁] at hlist
    rw [hlist']
    exact reInsert_order hreg.list hlist

/-- The borrower, or the Stability Pool for it. -/
theorem adjustTrove_account (hsender : m.sender ≠ 0)
    (h : adjustTrove D m s account a = .ok s') :
    m.sender = account ∨ m.sender = D.stabilityPool := by
  obtain ⟨_, hvalid, -⟩ := bind_eq_ok.1 h
  obtain ⟨_, hcaller, -⟩ := bind_eq_ok.1 hvalid
  rcases require_eq_ok.1 hcaller with hborrower | hgateway | hpool
  · exact Or.inl hborrower
  · exact absurd hgateway hsender
  · exact Or.inr hpool

theorem repayUSDD_register {usdd : ℕ} (h : repayUSDD D s account usdd = .ok s') :
    s'.register = s.register := by
  obtain ⟨-, -, -, hb⟩ := repayUSDD_book h 0 0 0
  exact congrArg Book.register hb

theorem closeTrove_concerns (hreg : Registry s.troveManager s.sortedTroves)
    (h : closeTrove D m s account = .ok s') : Concerns s s' m.sender := by
  obtain ⟨s₁, repayment, _, tm, s₂, s₃, s₄, hactive, -, h₁, -, -, -, htm, h₂, h₃, h₄, h⟩ :=
    closeTrove_eq_ok h
  obtain ⟨hf, hlist₁⟩ := applyPendingRewards_frame hactive h₁
  obtain ⟨-, -, tm', list, howner, hlist, rfl⟩ := TroveManager.closeTrove_book h₂
  have howners : tm.troveOwners = s₁.troveManager.troveOwners := by
    obtain ⟨-, rfl⟩ := removeStake_eq_ok htm
    rfl
  rw [howners] at howner
  obtain ⟨-, -, rfl⟩ := departed_eq_ok htm howner
  obtain ⟨-, b'⟩ := ActivePool.sendColl_book h 0 0 0
  have hsent : s'.register = s₄.register := congrArg Book.register b'
  obtain ⟨htm', hlist'⟩ :=
    Prod.mk.inj (hsent.trans ((repayUSDD_register h₄).trans (repayUSDD_register h₃)))
  refine ⟨?_, ?_⟩
  · rw [htm']
    exact hf.trans departed_frame
  · rw [hlist₁] at hlist
    rw [hlist']
    exact remove_order hreg.list hlist

end BorrowerOperations

namespace StabilityPool

variable {depositor frontEnd frontEndTag : Address} {gain : ℕ}

theorem triggerDEFTIssuance_register (h : triggerDEFTIssuance D m s = .ok s') :
    s'.register = s.register := by
  obtain ⟨_, _, -, -, hb⟩ := triggerDEFTIssuance_book h
  exact congrArg Book.register (hb 0 0 0)

theorem sendDEFT_register {sender : Address}
    (h : CommunityIssuance.sendDEFT D sender s account amount = .ok s') :
    s'.register = s.register := by
  obtain ⟨_, -, h⟩ := bind_eq_ok.1 h
  obtain ⟨_, -, h⟩ := bind_eq_ok.1 h
  obtain ⟨_, -, h⟩ := bind_eq_ok.1 h
  rw [← pure_eq_ok.1 h]
  rfl

theorem payOutDEFTGains_register (h : payOutDEFTGains D s depositor frontEnd = .ok s') :
    s'.register = s.register := by
  obtain ⟨s₁, h₁, h⟩ := bind_eq_ok.1 h
  obtain ⟨_, -, h⟩ := bind_eq_ok.1 h
  have hfrontEnd : s₁.register = s.register := by
    rcases ite_eq_ok.1 h₁ with ⟨-, h₁⟩ | ⟨-, h₁⟩
    · obtain ⟨_, -, h₁⟩ := bind_eq_ok.1 h₁
      exact sendDEFT_register h₁
    · rw [pure_eq_ok.1 h₁]
  exact (sendDEFT_register h).trans hfrontEnd

theorem sendUSDDtoStabilityPool_register
    (h : sendUSDDtoStabilityPool D s account amount = .ok s') : s'.register = s.register := by
  obtain ⟨s₁, h₁, h⟩ := bind_eq_ok.1 h
  obtain ⟨_, -, h₁⟩ := bind_eq_ok.1 h₁
  obtain ⟨_, -, h₁⟩ := bind_eq_ok.1 h₁
  rw [← pure_eq_ok.1 h, ← pure_eq_ok.1 h₁]
  rfl

theorem sendUSDDToDepositor_register (h : sendUSDDToDepositor D s depositor amount = .ok s') :
    s'.register = s.register := by
  rcases ite_eq_ok.1 h with ⟨-, h⟩ | ⟨-, h⟩
  · rw [pure_eq_ok.1 h]
  · obtain ⟨s₁, h₁, h⟩ := bind_eq_ok.1 h
    obtain ⟨_, -, h₁⟩ := bind_eq_ok.1 h₁
    obtain ⟨_, -, h₁⟩ := bind_eq_ok.1 h₁
    obtain ⟨_, -, h⟩ := bind_eq_ok.1 h
    rw [← pure_eq_ok.1 h, ← pure_eq_ok.1 h₁]
    rfl

theorem sendCollGainToDepositor_register (h : sendCollGainToDepositor D m s gain = .ok s') :
    s'.register = s.register := by
  obtain ⟨-, hb⟩ := sendCollGainToDepositor_book h 0 0 0
  exact congrArg Book.register hb

theorem provideToSP_register (h : provideToSP D m s depositor amount frontEndTag = .ok s') :
    s'.register = s.register := by
  obtain ⟨_, -, h⟩ := bind_eq_ok.1 h
  obtain ⟨_, -, h⟩ := bind_eq_ok.1 h
  obtain ⟨_, -, h⟩ := bind_eq_ok.1 h
  obtain ⟨_, -, h⟩ := bind_eq_ok.1 h
  obtain ⟨s₁, h₁, h⟩ := bind_eq_ok.1 h
  obtain ⟨_, -, h⟩ := bind_eq_ok.1 h
  obtain ⟨_, -, h⟩ := bind_eq_ok.1 h
  obtain ⟨_, -, h⟩ := bind_eq_ok.1 h
  obtain ⟨s₂, h₂, h⟩ := bind_eq_ok.1 h
  obtain ⟨_, -, h⟩ := bind_eq_ok.1 h
  obtain ⟨s₃, h₃, h⟩ := bind_eq_ok.1 h
  calc
    s'.register = s₃.register := (sendCollGainToDepositor_register h :)
    _ = s₂.register := (sendUSDDtoStabilityPool_register h₃ :)
    _ = s₁.register := (payOutDEFTGains_register h₂ :)
    _ = s.register := triggerDEFTIssuance_register h₁

theorem withdrawFromSP_register (h : withdrawFromSP D m s depositor amount = .ok s') :
    s'.register = s.register := by
  obtain ⟨_, -, h⟩ := bind_eq_ok.1 h
  obtain ⟨_, -, h⟩ := bind_eq_ok.1 h
  obtain ⟨_, -, h⟩ := bind_eq_ok.1 h
  obtain ⟨s₁, h₁, h⟩ := bind_eq_ok.1 h
  obtain ⟨_, -, h⟩ := bind_eq_ok.1 h
  obtain ⟨_, -, h⟩ := bind_eq_ok.1 h
  obtain ⟨_, -, h⟩ := bind_eq_ok.1 h
  obtain ⟨s₂, h₂, h⟩ := bind_eq_ok.1 h
  obtain ⟨_, -, h⟩ := bind_eq_ok.1 h
  obtain ⟨_, -, h⟩ := bind_eq_ok.1 h
  obtain ⟨s₃, h₃, h⟩ := bind_eq_ok.1 h
  obtain ⟨_, -, h⟩ := bind_eq_ok.1 h
  calc
    s'.register = s₃.register := (sendCollGainToDepositor_register h :)
    _ = s₂.register := (sendUSDDToDepositor_register h₃ :)
    _ = s₁.register := (payOutDEFTGains_register h₂ :)
    _ = s.register := triggerDEFTIssuance_register h₁

/-- The collateral gain goes to the caller's own trove. -/
theorem withdrawCollGainToTrove_concerns {upperHint lowerHint : Address}
    (hreg : Registry s.troveManager s.sortedTroves) (hne : D.gasPool ≠ D.stabilityPool)
    (h : withdrawCollGainToTrove D m s upperHint lowerHint = .ok s') : Concerns s s' m.sender := by
  obtain ⟨_, -, h⟩ := bind_eq_ok.1 h
  obtain ⟨_, -, h⟩ := bind_eq_ok.1 h
  obtain ⟨_, -, h⟩ := bind_eq_ok.1 h
  obtain ⟨s₁, h₁, h⟩ := bind_eq_ok.1 h
  obtain ⟨_, -, h⟩ := bind_eq_ok.1 h
  obtain ⟨_, -, h⟩ := bind_eq_ok.1 h
  obtain ⟨_, -, h⟩ := bind_eq_ok.1 h
  obtain ⟨s₂, h₂, h⟩ := bind_eq_ok.1 h
  obtain ⟨stake, -, h⟩ := bind_eq_ok.1 h
  obtain ⟨coll, -, h⟩ := bind_eq_ok.1 h
  obtain ⟨_, -, h⟩ := bind_eq_ok.1 h
  have hregister : s₂.register = s.register :=
    (payOutDEFTGains_register h₂).trans (triggerDEFTIssuance_register h₁)
  obtain ⟨htm, hlist⟩ := Prod.mk.inj hregister
  rw [← htm, ← hlist] at hreg
  have hc := BorrowerOperations.adjustTrove_concerns (by exact hreg) hne.symm h
  exact (Concerns.of_register hregister m.sender).trans ⟨hc.frame, hc.order⟩

end StabilityPool

section Calls

def Call.liquidates : Call → Bool
  | .liquidate _ _ | .liquidateTroves _ _ | .batchLiquidateTroves _ _ => true
  | _ => false

def Call.redeems : Call → Bool
  | .redeemCollateral _ _ => true
  | _ => false

def Call.takesTroves (call : Call) : Bool := call.liquidates || call.redeems

def Call.minor : Call → Bool
  | .registerFrontEnd _ | .transfer _ _ | .transferFrom _ _ _ | .approve _ _
  | .increaseAllowance _ _ | .decreaseAllowance _ _ | .permit _ _ _ _ _ => true
  | _ => false

/-- A minor call changes at most the USDD token and the registered front ends. -/
theorem perform_minor {call : Call} (hcall : call.minor = true)
    (h : perform D m s call = .ok s') :
    ∃ token frontEnds,
      s' = { s with usddToken := token, stabilityPool.frontEnds := frontEnds } := by
  cases call with
  | registerFrontEnd =>
      obtain ⟨_, -, h⟩ := bind_eq_ok.1 h
      obtain ⟨_, -, h⟩ := bind_eq_ok.1 h
      obtain ⟨_, -, h⟩ := bind_eq_ok.1 h
      exact ⟨_, _, (pure_eq_ok.1 h).symm⟩
  | transfer | decreaseAllowance =>
      obtain ⟨_, -, h⟩ := bind_eq_ok.1 h
      obtain ⟨_, -, h⟩ := bind_eq_ok.1 h
      exact ⟨_, _, (pure_eq_ok.1 h).symm⟩
  | transferFrom =>
      obtain ⟨_, -, h⟩ := bind_eq_ok.1 h
      obtain ⟨_, -, h⟩ := bind_eq_ok.1 h
      obtain ⟨_, -, h⟩ := bind_eq_ok.1 h
      obtain ⟨_, -, h⟩ := bind_eq_ok.1 h
      exact ⟨_, _, (pure_eq_ok.1 h).symm⟩
  | approve | increaseAllowance =>
      obtain ⟨_, -, h⟩ := bind_eq_ok.1 h
      exact ⟨_, _, (pure_eq_ok.1 h).symm⟩
  | permit =>
      obtain ⟨_, -, h⟩ := bind_eq_ok.1 h
      obtain ⟨_, -, h⟩ := bind_eq_ok.1 h
      obtain ⟨_, -, h⟩ := bind_eq_ok.1 h
      exact ⟨_, _, (pure_eq_ok.1 h).symm⟩
  | _ => exact Bool.noConfusion hcall

/-- The call opens a trove for the owner. -/
def Call.Opens (call : Call) (owner : Address) : Prop :=
  ∃ maxFeePercentage collAmount usddAmount upperHint lowerHint,
    call = .openTrove owner maxFeePercentage collAmount usddAmount upperHint lowerHint

/-- A call that takes no troves concerns the trove of the caller or a trove that it opens. -/
theorem perform_concerns {call : Call} (hw : D.Wired)
    (hreg : Registry s.troveManager s.sortedTroves) (hsender : m.sender ≠ 0 ∧ m.sender ∉ D.contracts)
    (hcall : call.takesTroves = false) (h : perform D m s call = .ok s') :
    ∃ id, (id = m.sender ∨ call.Opens id ∧ ¬ s.troveManager.Active id) ∧ Concerns s s' id := by
  have hgas : m.sender ≠ D.gasPool := fun heq => hsender.2 (heq ▸ D.gasPool_mem)
  have hpool : m.sender ≠ D.stabilityPool := fun heq => hsender.2 (heq ▸ D.stabilityPool_mem)
  have hself (hr : s'.register = s.register) :
      ∃ id, (id = m.sender ∨ call.Opens id ∧ ¬ s.troveManager.Active id) ∧ Concerns s s' id :=
    ⟨m.sender, Or.inl rfl, Concerns.of_register hr _⟩
  cases call with
  | openTrove onBehalfOf =>
      obtain ⟨hnew, hc⟩ := BorrowerOperations.openTrove_concerns hreg h
      exact ⟨onBehalfOf, Or.inr ⟨⟨_, _, _, _, _, rfl⟩, hnew⟩, hc⟩
  | addColl | withdrawColl | withdrawUSDD | repayUSDD =>
      exact ⟨m.sender, Or.inl rfl, BorrowerOperations.adjustTrove_concerns hreg hgas h⟩
  | adjustTrove onBehalfOf =>
      have hself : m.sender = onBehalfOf :=
        (BorrowerOperations.adjustTrove_account hsender.1 h).resolve_right hpool
      exact ⟨onBehalfOf, Or.inl hself.symm, BorrowerOperations.adjustTrove_concerns hreg hgas h⟩
  | closeTrove =>
      exact ⟨m.sender, Or.inl rfl, BorrowerOperations.closeTrove_concerns hreg h⟩
  | claimCollateral =>
      exact hself (congrArg Book.register (BorrowerOperations.claimCollateral_book h 0 0 0))
  | liquidate | liquidateTroves | batchLiquidateTroves | redeemCollateral =>
      exact Bool.noConfusion hcall
  | provideToSP => exact hself (StabilityPool.provideToSP_register h)
  | withdrawFromSP => exact hself (StabilityPool.withdrawFromSP_register h)
  | withdrawCollGainToTrove =>
      exact ⟨m.sender, Or.inl rfl,
        StabilityPool.withdrawCollGainToTrove_concerns hreg hw.gasPool_ne h⟩
  | transferCollateral =>
      obtain ⟨_, -, h⟩ := bind_eq_ok.1 h
      rw [← pure_eq_ok.1 h] at hself ⊢
      exact hself rfl
  | registerFrontEnd | transfer | transferFrom | approve | increaseAllowance | decreaseAllowance
  | permit =>
      obtain ⟨_, _, rfl⟩ := perform_minor rfl h
      exact hself rfl

end Calls

section Runs

/-- The record of a trove is the same in both states. -/
structure KeepsRecord (s s' : State) (a : Address) : Prop where
  status : (s'.troveManager.troves a).status = (s.troveManager.troves a).status
  debt : (s'.troveManager.troves a).debt = (s.troveManager.troves a).debt
  coll : (s'.troveManager.troves a).coll = (s.troveManager.troves a).coll
  stake : (s'.troveManager.troves a).stake = (s.troveManager.troves a).stake
  snapshot : s'.troveManager.rewardSnapshots a = s.troveManager.rewardSnapshots a

namespace KeepsRecord

variable {a id : Address}

theorem refl (s : State) (a : Address) : KeepsRecord s s a := ⟨rfl, rfl, rfl, rfl, rfl⟩

theorem trans (h : KeepsRecord s s₁ a) (h' : KeepsRecord s₁ s' a) : KeepsRecord s s' a where
  status := h'.status.trans h.status
  debt := h'.debt.trans h.debt
  coll := h'.coll.trans h.coll
  stake := h'.stake.trans h.stake
  snapshot := h'.snapshot.trans h.snapshot

theorem of_frame (h : Frame s.troveManager s'.troveManager id) (ha : a ≠ id) :
    KeepsRecord s s' a :=
  ⟨h.status a ha, h.debt a ha, h.coll a ha, h.stake a ha, h.snapshot a ha⟩

theorem active_iff (h : KeepsRecord s s' a) : s'.troveManager.Active a ↔ s.troveManager.Active a := by
  unfold TroveManager.Active
  rw [h.status]

theorem getCurrentICR (h : KeepsRecord s s' a) (hcoll : s'.troveManager.lColl = s.troveManager.lColl)
    (hdebt : s'.troveManager.lUSDDDebt = s.troveManager.lUSDDDebt) (price : ℕ) :
    getCurrentICR s'.troveManager a price = getCurrentICR s.troveManager a price := by
  unfold TroveManager.getCurrentICR getCurrentTroveAmounts getPendingCollReward
    getPendingUSDDDebtReward
  rw [h.snapshot, hcoll, hdebt, h.status, h.stake, h.debt, h.coll]

end KeepsRecord

/-- The trove keeps its record and its ratio at every price. -/
structure Untouched (s s' : State) (a : Address) : Prop extends KeepsRecord s s' a where
  icr : ∀ price, getCurrentICR s'.troveManager a price = getCurrentICR s.troveManager a price

namespace Untouched

variable {a id : Address}

theorem refl (s : State) (a : Address) : Untouched s s a := ⟨KeepsRecord.refl s a, fun _ => rfl⟩

theorem trans (h : Untouched s s₁ a) (h' : Untouched s₁ s' a) : Untouched s s' a :=
  ⟨h.toKeepsRecord.trans h'.toKeepsRecord, fun price => (h'.icr price).trans (h.icr price)⟩

theorem of_concerns (h : Concerns s s' id) (ha : a ≠ id) : Untouched s s' a :=
  ⟨KeepsRecord.of_frame h.frame ha,
    (KeepsRecord.of_frame h.frame ha).getCurrentICR h.frame.lColl h.frame.lUSDDDebt⟩

end Untouched

theorem Reachable.step_concerns {t : Transact} (hw : D.Wired) (h : Reachable D s)
    (ha : Allowed D s t) (hcall : t.call.takesTroves = false) (hs : step D s t = .ok s') :
    ∃ id, (id = t.message.sender ∨ t.call.Opens id ∧ ¬ s.troveManager.Active id) ∧
      Concerns s s' id := by
  obtain ⟨s₁, h₁, hs⟩ := bind_eq_ok.1 hs
  obtain ⟨id, hid, hc⟩ := perform_concerns hw (h.consistent hw).registry ha.sender hcall h₁
  rw [← pure_eq_ok.1 hs]
  exact ⟨id, hid, hc.frame, hc.order⟩

/-- The accounts of `quiet` have active troves and make no call. As long as nobody liquidates or
redeems, their troves stay as they are, and in the same order. -/
theorem quiet_troves_untouched (hw : D.Wired) (h : Reachable D s) (quiet : Address → Bool)
    (hactive : ∀ a, quiet a = true → s.troveManager.Active a) {calls : List Transact}
    (hcalls : ∀ t ∈ calls, quiet t.message.sender = false ∧ t.call.takesTroves = false)
    (hrun : run (checked (step D) (Allowed D)) s calls = .ok s') :
    (∀ a, quiet a = true → Untouched s s' a) ∧
      s'.sortedTroves.forward.filter quiet = s.sortedTroves.forward.filter quiet := by
  induction calls generalizing s with
  | nil =>
      cases hrun
      exact ⟨fun a _ => Untouched.refl _ a, rfl⟩
  | cons t calls ih =>
      obtain ⟨s₁, hs, hrun⟩ := bind_eq_ok.1 hrun
      obtain ⟨_, ha, hs⟩ := bind_eq_ok.1 hs
      have ha := require_eq_ok.1 ha
      obtain ⟨hsender, htakes⟩ := hcalls t List.mem_cons_self
      obtain ⟨id, hid, hc⟩ := h.step_concerns hw ha htakes hs
      have hloud : quiet id = false := by
        rw [Bool.eq_false_iff]
        intro hquiet
        rcases hid with rfl | ⟨-, hnew⟩
        · rw [hsender] at hquiet
          exact Bool.noConfusion hquiet
        · exact hnew (hactive id hquiet)
      have hne {a : Address} (hquiet : quiet a = true) : a ≠ id := by
        rintro rfl
        rw [hloud] at hquiet
        exact Bool.noConfusion hquiet
      have hstep {a : Address} (hquiet : quiet a = true) : Untouched s s₁ a :=
        Untouched.of_concerns hc (hne hquiet)
      have hfilter (l : List Address) : (l.filter (· ≠ id)).filter quiet = l.filter quiet := by
        rw [List.filter_filter]
        apply List.filter_congr
        intro a _
        cases hquiet : quiet a with
        | false => rfl
        | true => simp [hne hquiet]
      obtain ⟨huntouched, horder⟩ := ih (h.next ha hs)
        (fun a hquiet => (hstep hquiet).status.trans (hactive a hquiet))
        (fun t ht => hcalls t (List.mem_cons_of_mem _ ht)) hrun
      refine ⟨fun a hquiet => (hstep hquiet).trans (huntouched a hquiet), ?_⟩
      rw [horder, ← hfilter, hc.order, hfilter]

/-- While the first account is quiet, another one opens a trove and repays a part. -/
theorem quiet_troves_untouched_of_sample : ∃ s s', sampleRun
      [sampleOpen 1 (100 * decimalPrecision) (3000 * decimalPrecision) (200 * decimalPrecision)] =
      .ok s ∧
    run (checked (step sampleDeployment) (Allowed sampleDeployment)) s
      [sampleOpen 2 (50 * decimalPrecision) (2000 * decimalPrecision) (200 * decimalPrecision),
        (Call.repayUSDD (100 * decimalPrecision) 0 0).sent 2 (200 * decimalPrecision)] = .ok s' ∧
    Untouched s s' 1 := by
  obtain ⟨s, hs, hactive, s', hrun, -⟩ : ∃ s, sampleRun
      [sampleOpen 1 (100 * decimalPrecision) (3000 * decimalPrecision) (200 * decimalPrecision)] =
      .ok s ∧ s.troveManager.Active 1 ∧
      ∃ s', run (checked (step sampleDeployment) (Allowed sampleDeployment)) s
        [sampleOpen 2 (50 * decimalPrecision) (2000 * decimalPrecision) (200 * decimalPrecision),
          (Call.repayUSDD (100 * decimalPrecision) 0 0).sent 2 (200 * decimalPrecision)] = .ok s' ∧
        True := by decide +kernel
  refine ⟨s, s', hs, hrun, (quiet_troves_untouched sampleDeployment_wired (reachable_sampleRun hs)
    (fun a => decide (a = 1)) ?_ ?_ hrun).1 1 rfl⟩
  · intro a ha
    rw [of_decide_eq_true ha]
    exact hactive
  · decide

end Runs

end Usdd

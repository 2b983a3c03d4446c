import Usdd.Book

/-!
# Front ends

A deposit is tagged with a registered front end or not at all, only registered front ends have a
stake, and no contract of the market is one.
-/

open Transaction

namespace Usdd

open StabilityPool

structure StabilityPool.FrontEndsRegistered (D : Deployment) (sp : StabilityPool) : Prop where
  outside : ∀ f, (sp.frontEnds f).registered = true → f ∉ D.contracts
  rate : ∀ f, (sp.frontEnds f).kickbackRate ≤ decimalPrecision
  tag : ∀ d, (sp.frontEnds (sp.deposits d).frontEndTag).registered = true ∨
    (sp.deposits d).frontEndTag = 0
  stake : ∀ f, sp.frontEndStakes f ≠ 0 → (sp.frontEnds f).registered = true ∨ f = 0

variable {D : Deployment} {b b' : Book}

theorem Deployment.communityIssuance_mem (D : Deployment) : D.communityIssuance ∈ D.contracts := by
  simp [Deployment.contracts]

theorem StabilityPool.FrontEndsRegistered.tag_notMem {sp : StabilityPool}
    (h : sp.FrontEndsRegistered D) (d : Address) (hd : (sp.deposits d).frontEndTag ≠ 0) :
    (sp.deposits d).frontEndTag ∉ D.contracts :=
  h.outside _ ((h.tag d).resolve_right hd)

theorem StabilityPool.FrontEndsRegistered.setTagOfNewDeposit {sp : StabilityPool}
    (h : sp.FrontEndsRegistered D) {depositor frontEndTag : Address}
    (htag : (sp.frontEnds frontEndTag).registered = true ∨ frontEndTag = 0) :
    (setTagOfNewDeposit sp depositor frontEndTag).FrontEndsRegistered D := by
  unfold StabilityPool.setTagOfNewDeposit
  split_ifs
  · refine ⟨h.outside, h.rate, fun d => ?_, h.stake⟩
    unfold setFrontEndTag
    dsimp only
    by_cases hd : d = depositor
    · rw [hd, Function.update_self]
      exact htag
    · rw [Function.update_of_ne hd]
      exact h.tag d
  · exact h

theorem StabilityPool.FrontEndsRegistered.event (h : b.pool.FrontEndsRegistered D)
    (he : Event D b b') : b'.pool.FrontEndsRegistered D := by
  cases he with
  | offsets hpos hrewards hpool hdebt hcoll hsupply hdeposits husdd =>
      obtain ⟨-, -, lossError, collError, clock, -, -, -, rfl⟩ := offset_eq_ok hrewards hpool
      exact ⟨h.outside, h.rate, h.tag, h.stake⟩
  | issues hpool =>
      obtain ⟨rate, lastDEFTError, rfl, -⟩ := updateG_eq_ok hpool
      exact ⟨h.outside, h.rate, h.tag, h.stake⟩
  | tags htag => exact h.setTagOfNewDeposit htag
  | @changesDeposit depositor deposit frontEndStake gain provided withdrawn =>
      show FrontEndsRegistered D { updateDepositAndSnapshots _ _ _ with
        totalUSDDDeposits := _
        coll := _ }
      rw [changeDeposit_eq]
      refine ⟨h.outside, h.rate, fun d => ?_, fun f hf => ?_⟩
      · dsimp only
        by_cases hd : d = depositor
        · rw [hd, Function.update_self]
          dsimp only
          split_ifs
          · exact Or.inr rfl
          · exact h.tag depositor
        · rw [Function.update_of_ne hd]
          exact h.tag d
      · dsimp only at hf ⊢
        by_cases hfd : f = (b.pool.deposits depositor).frontEndTag
        · rw [hfd]
          exact h.tag depositor
        · rw [Function.update_of_ne hfd] at hf
          exact h.stake f hf
  | @registers frontEnd kickbackRate hfrontEnd hnew hrate =>
      have hmono {f : Address} (hf : (b.pool.frontEnds f).registered = true) :
          (Function.update b.pool.frontEnds frontEnd ⟨kickbackRate, true⟩ f).registered = true := by
        by_cases hff : f = frontEnd
        · rw [hff, Function.update_self]
        · rw [Function.update_of_ne hff]
          exact hf
      refine ⟨fun f hf => ?_, fun f => ?_, fun d => (h.tag d).imp_left hmono,
        fun f hf => (h.stake f hf).imp_left hmono⟩
      · dsimp only at hf
        by_cases hff : f = frontEnd
        · rw [hff]
          exact hfrontEnd
        · rw [Function.update_of_ne hff] at hf
          exact h.outside f hf
      · dsimp only
        by_cases hff : f = frontEnd
        · rw [hff, Function.update_self]
          exact hrate
        · rw [Function.update_of_ne hff]
          exact h.rate f
  | _ => exact h

theorem StabilityPool.FrontEndsRegistered.path (h : b.pool.FrontEndsRegistered D)
    (hp : Path D b b') : b'.pool.FrontEndsRegistered D :=
  Path.invariant (I := fun b => b.pool.FrontEndsRegistered D) (fun _ _ he hi => hi.event he) hp h

end Usdd

import Usdd.FirstRedemption
import Usdd.ModeGuards

/-!
# HintHelpers

`getRedemptionHints` walks the list like a redemption does, without changing it, and truncates the
amount so that the last trove keeps the minimum debt. A redemption of the truncated amount with these
hints takes the same walk: what it has not reached yet is as it was.
-/

open Transaction
open LinkedList (first last)

namespace Usdd

open TroveManager

namespace HintHelpers

structure RedemptionHints where
  firstRedemptionHint : Address
  partialRedemptionHintNICR : ℕ
  truncatedUSDDamount : ℕ

section Views

variable (s : State) (price : ℕ)

/-- The walk of `getRedemptionHints`, with the number of rounds left as its first argument. Returns
the nominal ratio of the trove that is partially redeemed and the amount that remains. -/
def redemptionHintsLoop : ℕ → Address → ℕ → Tx (ℕ × ℕ)
  | 0, _, remainingUSDD => pure (0, remainingUSDD)
  | iterations + 1, currentTroveuser, remainingUSDD =>
      if currentTroveuser = 0 ∨ remainingUSDD = 0 then pure (0, remainingUSDD)
      else do
        let netDebt ← getNetDebt (s.troveManager.troves currentTroveuser).debt
        let pendingUSDDDebtReward ← getPendingUSDDDebtReward s.troveManager currentTroveuser
        let netUSDDDebt := netDebt + pendingUSDDDebtReward
        if netUSDDDebt > remainingUSDD then
          if netUSDDDebt > minNetDebt then do
            let redeemable ← SafeMath.sub netUSDDDebt minNetDebt
            let maxRedeemableUSDD := min remainingUSDD redeemable
            let pendingCollReward ← getPendingCollReward s.troveManager currentTroveuser
            let eth := (s.troveManager.troves currentTroveuser).coll + pendingCollReward
            let collLot ← SafeMath.div (maxRedeemableUSDD * decimalPrecision) price
            let newColl ← SafeMath.sub eth collLot
            let newDebt ← SafeMath.sub netUSDDDebt maxRedeemableUSDD
            let compositeDebt := getCompositeDebt newDebt
            let remainingUSDD ← SafeMath.sub remainingUSDD maxRedeemableUSDD
            pure (LiquityMath.computeNominalCR newColl compositeDebt, remainingUSDD)
          else pure (0, remainingUSDD)
        else do
          let remainingUSDD ← SafeMath.sub remainingUSDD netUSDDDebt
          redemptionHintsLoop iterations (s.sortedTroves.nodes currentTroveuser).prevId
            remainingUSDD

def getRedemptionHints (usddAmount maxIterations : ℕ) : Tx RedemptionHints := do
  let firstRedemptionHint ←
    firstTroveAboveMCR price s (s.sortedTroves.size + 1) s.sortedTroves.tail
  let iterations := if maxIterations = 0 then 2 ^ 256 - 1 else maxIterations
  let result ← redemptionHintsLoop s price iterations firstRedemptionHint usddAmount
  let truncatedUSDDamount ← SafeMath.sub usddAmount result.2
  pure ⟨firstRedemptionHint, result.1, truncatedUSDDamount⟩

end Views

/-- A round of the redemption loop cancels a partial redemption. -/
def CancelsPartial (D : Deployment) (price : ℕ) (r : Redemption) :
    ℕ → Address → RedemptionTotals → Prop
  | 0, _, _ => False
  | iterations + 1, currentBorrower, totals =>
      ¬(currentBorrower = 0 ∨ totals.remainingUSDD = 0) ∧ ∃ s result,
        applyPendingRewards D totals.state currentBorrower = .ok s ∧
        redeemCollateralFromTrove D s currentBorrower totals.remainingUSDD price r = .ok result ∧
        (result.2.cancelledPartial = true ∨ ∃ remainingUSDD,
          SafeMath.sub totals.remainingUSDD result.2.usddLot = .ok remainingUSDD ∧
          CancelsPartial D price r iterations
            (totals.state.sortedTroves.nodes currentBorrower).prevId
            { state := result.1
              remainingUSDD := remainingUSDD
              totalUSDDToRedeem := totals.totalUSDDToRedeem + result.2.usddLot
              totalETHDrawn := totals.totalETHDrawn + result.2.collLot })

end HintHelpers

open HintHelpers

namespace TroveManager

variable {D : Deployment} {s s₁ s' : State} {price remaining : ℕ} {borrower : Address}
  {r : Redemption} {v : SingleRedemptionValues} {usdd coll : ℕ} {tm tm₁ tm₂ : TroveManager}

section Rounds

theorem Frame.refl (tm : TroveManager) (id : Address) : Frame tm tm id :=
  ⟨fun _ _ => rfl, fun _ _ => rfl, fun _ _ => rfl, fun _ _ => rfl, fun _ _ => rfl, rfl, rfl, rfl,
    rfl, rfl, rfl⟩

theorem Frame.trans {id : Address} (h : Frame tm tm₁ id) (h' : Frame tm₁ tm₂ id) :
    Frame tm tm₂ id where
  status a ha := (h'.status a ha).trans (h.status a ha)
  debt a ha := (h'.debt a ha).trans (h.debt a ha)
  coll a ha := (h'.coll a ha).trans (h.coll a ha)
  stake a ha := (h'.stake a ha).trans (h.stake a ha)
  snapshot a ha := (h'.snapshot a ha).trans (h.snapshot a ha)
  lColl := h'.lColl.trans h.lColl
  lUSDDDebt := h'.lUSDDDebt.trans h.lUSDDDebt
  collError := h'.collError.trans h.collError
  debtError := h'.debtError.trans h.debtError
  totalStakesSnapshot := h'.totalStakesSnapshot.trans h.totalStakesSnapshot
  totalCollateralSnapshot := h'.totalCollateralSnapshot.trans h.totalCollateralSnapshot

theorem applyPendingRewards_frame (ha : s.troveManager.Active borrower)
    (h : applyPendingRewards D s borrower = .ok s') :
    Frame s.troveManager s'.troveManager borrower ∧ s'.sortedTroves = s.sortedTroves := by
  rcases applyPendingRewards_book ha h with ⟨rfl, -⟩ | ⟨coll, debt, -, -, hb⟩
  · exact ⟨Frame.refl _ _, rfl⟩
  · have htm : s'.troveManager = s.troveManager.realised borrower coll debt :=
      congrArg Book.troveManager (hb 0 0 0).2.2
    exact ⟨htm ▸ realised_frame, congrArg Book.sortedTroves (hb 0 0 0).2.2⟩

theorem redeemCloseTrove_frame (h : redeemCloseTrove D s borrower usdd coll = .ok s') :
    s'.troveManager = s.troveManager ∧ s'.sortedTroves = s.sortedTroves := by
  obtain ⟨s₁, h₁, h⟩ := bind_eq_ok.1 h
  obtain ⟨s₂, h₂, h⟩ := bind_eq_ok.1 h
  obtain ⟨s₃, h₃, h⟩ := bind_eq_ok.1 h
  obtain ⟨s₄, h₄, h⟩ := bind_eq_ok.1 h
  obtain ⟨-, -, b₁⟩ := USDDToken.burn_book h₁ 0 0 0
  obtain ⟨-, b₂⟩ := ActivePool.decreaseUSDDDebt_book h₂ 0 0 0
  have b₃ := CollSurplusPool.accountSurplus_book h₃ 0 0 0
  obtain ⟨-, b₄⟩ := ActivePool.sendColl_book h₄ 0 0 0
  have b₅ := CollSurplusPool.receiveColl_book h 0 0 0
  rw [b₁] at b₂
  rw [b₃, b₂] at b₄
  rw [b₄] at b₅
  exact ⟨congrArg Book.troveManager b₅, congrArg Book.sortedTroves b₅⟩

/-- A trove that is redeemed in full is closed. -/
theorem redeemCollateralFromTrove_full
    (hdebt : usddGasCompensation ≤ (s.troveManager.troves borrower).debt)
    (hle : (s.troveManager.troves borrower).debt - usddGasCompensation ≤ remaining)
    (h : redeemCollateralFromTrove D s borrower remaining price r = .ok (s', v)) :
    v.cancelledPartial = false ∧
      v.usddLot = (s.troveManager.troves borrower).debt - usddGasCompensation ∧
      Frame s.troveManager s'.troveManager borrower ∧
      SortedTroves.remove s.sortedTroves borrower = .ok s'.sortedTroves := by
  obtain ⟨netDebt, hnet, h⟩ := bind_eq_ok.1 h
  obtain ⟨collLot, -, h⟩ := bind_eq_ok.1 h
  obtain ⟨newDebt, hnew, h⟩ := bind_eq_ok.1 h
  obtain ⟨newColl, -, h⟩ := bind_eq_ok.1 h
  obtain ⟨⟨s₁, cancelled⟩, h₁, h⟩ := bind_eq_ok.1 h
  obtain ⟨-, hnet⟩ := sub_eq_ok.1 hnet
  obtain ⟨-, hnew⟩ := sub_eq_ok.1 hnew
  have hmin : min remaining netDebt = netDebt := by omega
  cases pure_eq_ok.1 h
  rw [hmin] at hnew
  have hclosed : newDebt = usddGasCompensation := by omega
  rw [redeemFromTrove, if_pos hclosed] at h₁
  obtain ⟨tm, htm, h₁⟩ := bind_eq_ok.1 h₁
  obtain ⟨s₂, h₂, h₁⟩ := bind_eq_ok.1 h₁
  obtain ⟨s₃, h₃, h₁⟩ := bind_eq_ok.1 h₁
  cases pure_eq_ok.1 h₁
  obtain ⟨-, -, tm', list, howner, hlist, rfl⟩ := closeTrove_book h₂
  obtain ⟨htm', hlist'⟩ := redeemCloseTrove_frame h₃
  have howners : tm.troveOwners = s.troveManager.troveOwners := by
    obtain ⟨-, rfl⟩ := removeStake_eq_ok htm
    rfl
  rw [howners] at howner
  obtain ⟨-, -, rfl⟩ := departed_eq_ok htm howner
  refine ⟨rfl, ?_, ?_, ?_⟩
  · dsimp only
    omega
  · rw [htm']
    exact departed_frame
  · rw [hlist']
    exact hlist

/-- A trove that is redeemed down to no less than the minimum debt, with the hint for what is left,
is not cancelled. -/
theorem redeemCollateralFromTrove_partial
    (hle : remaining + minNetDebt + usddGasCompensation ≤ (s.troveManager.troves borrower).debt)
    (hhint : r.partialRedemptionHintNICR = LiquityMath.computeNominalCR
      ((s.troveManager.troves borrower).coll - remaining * decimalPrecision / price)
      ((s.troveManager.troves borrower).debt - remaining))
    (h : redeemCollateralFromTrove D s borrower remaining price r = .ok (s', v)) :
    v.cancelledPartial = false ∧ v.usddLot = remaining := by
  obtain ⟨netDebt, hnet, h⟩ := bind_eq_ok.1 h
  obtain ⟨collLot, hlot, h⟩ := bind_eq_ok.1 h
  obtain ⟨newDebt, hnew, h⟩ := bind_eq_ok.1 h
  obtain ⟨newColl, hcoll, h⟩ := bind_eq_ok.1 h
  obtain ⟨⟨s₁, cancelled⟩, h₁, h⟩ := bind_eq_ok.1 h
  obtain ⟨-, hnet⟩ := sub_eq_ok.1 hnet
  obtain ⟨-, hlot⟩ := div_eq_ok.1 hlot
  obtain ⟨-, hnew⟩ := sub_eq_ok.1 hnew
  obtain ⟨-, hcoll⟩ := sub_eq_ok.1 hcoll
  have hmin : min remaining netDebt = remaining := by omega
  cases pure_eq_ok.1 h
  rw [hmin] at hnew hlot
  rw [← hlot] at hcoll
  rw [hcoll, hnew] at hhint
  have hpos : 0 < minNetDebt := by decide
  have hopen : newDebt ≠ usddGasCompensation := by omega
  rw [redeemFromTrove, if_neg hopen] at h₁
  obtain ⟨newNetDebt, hnetDebt, h₁⟩ := bind_eq_ok.1 h₁
  obtain ⟨-, hnetDebt⟩ := sub_eq_ok.1 hnetDebt
  have hkept : ¬(LiquityMath.computeNominalCR newColl newDebt ≠ r.partialRedemptionHintNICR ∨
      newNetDebt < minNetDebt) := by
    rw [hhint]
    omega
  dsimp only at h₁
  rw [if_neg hkept] at h₁
  obtain ⟨_, -, h₁⟩ := bind_eq_ok.1 h₁
  obtain ⟨_, -, h₁⟩ := bind_eq_ok.1 h₁
  cases pure_eq_ok.1 h₁
  exact ⟨rfl, hmin⟩

end Rounds

end TroveManager

namespace HintHelpers

variable {D : Deployment} {s sₖ s₁ s₂ : State} {price iterations amount remaining rest nicr : ℕ}
  {user : Address} {pre post : List Address} {r : Redemption} {totals totals' : RedemptionTotals}

section Walk

theorem redemptionHintsLoop_le
    (h : redemptionHintsLoop s price iterations user remaining = .ok (nicr, rest)) :
    rest ≤ remaining := by
  induction iterations generalizing user remaining with
  | zero =>
      cases pure_eq_ok.1 h
      exact le_rfl
  | succ iterations ih =>
      rcases ite_eq_ok.1 h with ⟨-, h⟩ | ⟨-, h⟩
      · cases pure_eq_ok.1 h
        exact le_rfl
      obtain ⟨netDebt, -, h⟩ := bind_eq_ok.1 h
      obtain ⟨pending, -, h⟩ := bind_eq_ok.1 h
      dsimp only at h
      split_ifs at h
      · obtain ⟨_, -, h⟩ := bind_eq_ok.1 h
        obtain ⟨_, -, h⟩ := bind_eq_ok.1 h
        obtain ⟨_, -, h⟩ := bind_eq_ok.1 h
        obtain ⟨_, -, h⟩ := bind_eq_ok.1 h
        obtain ⟨_, -, h⟩ := bind_eq_ok.1 h
        obtain ⟨left, hleft, h⟩ := bind_eq_ok.1 h
        obtain ⟨-, hleft⟩ := sub_eq_ok.1 hleft
        cases pure_eq_ok.1 h
        omega
      · cases pure_eq_ok.1 h
        exact le_rfl
      · obtain ⟨left, hleft, h⟩ := bind_eq_ok.1 h
        obtain ⟨-, hleft⟩ := sub_eq_ok.1 hleft
        have hle := ih h
        omega

/-- A round of the walk at an active trove: the walk goes on past it, ends in it, or stops before
it. -/
theorem redemptionHintsLoop_succ (hactive : s.troveManager.Active user) (hne : user ≠ 0)
    (hpos : remaining ≠ 0)
    (h : redemptionHintsLoop s price (iterations + 1) user remaining = .ok (nicr, rest)) :
    ∃ netDebt, netDebt + usddGasCompensation = s.troveManager.currentDebt user ∧
      ((netDebt ≤ remaining ∧ redemptionHintsLoop s price iterations
          (s.sortedTroves.nodes user).prevId (remaining - netDebt) = .ok (nicr, rest)) ∨
        (∃ lot, remaining = rest + lot ∧ lot ≠ 0 ∧ lot + minNetDebt ≤ netDebt ∧
          nicr = LiquityMath.computeNominalCR
            (s.troveManager.currentColl user - lot * decimalPrecision / price)
            (s.troveManager.currentDebt user - lot)) ∨
        rest = remaining) := by
  have hstop : ¬(user = 0 ∨ remaining = 0) := not_or.2 ⟨hne, hpos⟩
  rw [redemptionHintsLoop, if_neg hstop] at h
  obtain ⟨netDebt, hnet, h⟩ := bind_eq_ok.1 h
  obtain ⟨pendingDebt, hdebt, h⟩ := bind_eq_ok.1 h
  obtain ⟨hle, rfl⟩ := sub_eq_ok.1 hnet
  obtain ⟨-, rfl⟩ := (getPendingUSDDDebtReward_eq_ok_iff hactive).1 hdebt
  dsimp only at h
  have hcurrent : (s.troveManager.troves user).debt - usddGasCompensation +
      s.troveManager.pendingDebt user + usddGasCompensation = s.troveManager.currentDebt user := by
    unfold currentDebt
    omega
  refine ⟨_, hcurrent, ?_⟩
  split_ifs at h with hgt hmin
  · obtain ⟨redeemable, hredeemable, h⟩ := bind_eq_ok.1 h
    obtain ⟨pendingColl, hcoll, h⟩ := bind_eq_ok.1 h
    obtain ⟨collLot, hlot, h⟩ := bind_eq_ok.1 h
    obtain ⟨newColl, hnewColl, h⟩ := bind_eq_ok.1 h
    obtain ⟨newDebt, hnewDebt, h⟩ := bind_eq_ok.1 h
    obtain ⟨left, hleft, h⟩ := bind_eq_ok.1 h
    obtain ⟨-, hredeemable⟩ := sub_eq_ok.1 hredeemable
    obtain ⟨-, hcoll⟩ := (getPendingCollReward_eq_ok_iff hactive).1 hcoll
    obtain ⟨-, hlot⟩ := div_eq_ok.1 hlot
    obtain ⟨-, hnewColl⟩ := sub_eq_ok.1 hnewColl
    obtain ⟨-, hnewDebt⟩ := sub_eq_ok.1 hnewDebt
    obtain ⟨-, hleft⟩ := sub_eq_ok.1 hleft
    cases pure_eq_ok.1 h
    right
    left
    refine ⟨min remaining redeemable, by omega, by omega, by omega, ?_⟩
    have hcomposite : getCompositeDebt newDebt =
        s.troveManager.currentDebt user - min remaining redeemable := by
      unfold getCompositeDebt
      omega
    rw [hcomposite, ← hnewColl, ← hlot, hcoll]
    rfl
  · cases pure_eq_ok.1 h
    exact Or.inr (Or.inr rfl)
  · obtain ⟨left, hleft, h⟩ := bind_eq_ok.1 h
    obtain ⟨-, hleft⟩ := sub_eq_ok.1 hleft
    rw [← hleft] at h
    exact Or.inl ⟨by omega, h⟩

end Walk

section RoundTrip

/-- What the redemption has not reached is as the walk finds it. -/
structure Ahead (s sₖ : State) (pre : List Address) : Prop where
  registry : Registry sₖ.troveManager sₖ.sortedTroves
  inStep : sₖ.troveManager.InStep
  list : ∃ post, sₖ.sortedTroves.forward = pre ++ post
  coll : ∀ a ∈ pre, sₖ.troveManager.currentColl a = s.troveManager.currentColl a
  debt : ∀ a ∈ pre, sₖ.troveManager.currentDebt a = s.troveManager.currentDebt a

/-- A trove that is redeemed in full leaves the list, and the ones above it stay as they are. -/
theorem Ahead.next (h : Ahead s sₖ (pre ++ [user]))
    (hreg : Registry s₂.troveManager s₂.sortedTroves)
    (hf : Frame sₖ.troveManager s₂.troveManager user)
    (hlist : SortedTroves.remove sₖ.sortedTroves user = .ok s₂.sortedTroves) :
    Ahead s s₂ pre := by
  obtain ⟨post, hl⟩ := h.list
  obtain ⟨pre', post', hl', hlist'⟩ := SortedTroves.remove_eq_ok h.registry.list hlist
  have hnodup := h.registry.list.nodes.nodup
  rw [hl, List.append_assoc, List.singleton_append] at hl' hnodup
  rw [List.nodup_middle, List.nodup_cons, List.mem_append, not_or] at hnodup
  obtain ⟨⟨hpre, hpost⟩, -⟩ := hnodup
  obtain ⟨rfl, -, rfl⟩ := (List.append_cons_inj_of_notMem hpre hpost).1 hl'
  have hne {a : Address} (ha : a ∈ pre) : a ≠ user := by
    rintro rfl
    exact hpre ha
  have hmem {a : Address} (ha : a ∈ pre) : a ∈ pre ++ [user] := List.mem_append_left _ ha
  have hclosed : ¬s₂.troveManager.Active user := by
    rw [← hreg.mem_list, hlist'.forward_eq, List.mem_append]
    exact not_or.2 ⟨hpre, hpost⟩
  exact
    { registry := hreg
      inStep := h.inStep.write hf (fun ha => absurd ha hclosed)
      list := ⟨post, hlist'.forward_eq⟩
      coll := fun a ha => (hf.currentColl (hne ha)).trans (h.coll a (hmem ha))
      debt := fun a ha => (hf.currentDebt (hne ha)).trans (h.debt a (hmem ha)) }

/-- The trove that the walk stands at, once its rewards are applied. -/
theorem Ahead.apply (h : Ahead s sₖ (pre ++ [user]))
    (hs₁ : applyPendingRewards D sₖ user = .ok s₁) :
    sₖ.troveManager.Active user ∧ Frame sₖ.troveManager s₁.troveManager user ∧
      s₁.sortedTroves = sₖ.sortedTroves ∧
      (s₁.troveManager.troves user).coll = s.troveManager.currentColl user ∧
      (s₁.troveManager.troves user).debt = s.troveManager.currentDebt user := by
  obtain ⟨post, hl⟩ := h.list
  have hmem : user ∈ pre ++ [user] := List.mem_append_right _ (List.mem_singleton_self _)
  have hactive : sₖ.troveManager.Active user := by
    rw [← h.registry.mem_list, hl]
    exact List.mem_append_left _ hmem
  obtain ⟨hf, hlist⟩ := applyPendingRewards_frame hactive hs₁
  obtain ⟨-, -, hcoll, hdebt⟩ :=
    BorrowerOperations.applyPendingRewards_current h.registry (h.inStep user hactive) hactive hs₁
  exact ⟨hactive, hf, hlist, hcoll.trans (h.coll user hmem), hdebt.trans (h.debt user hmem)⟩

theorem Ahead.prevId (h : Ahead s sₖ (pre ++ [user])) :
    (sₖ.sortedTroves.nodes user).prevId = last pre := by
  obtain ⟨post, hl⟩ := h.list
  have hnodes := h.registry.list.nodes
  rw [hl, List.append_assoc, List.singleton_append] at hnodes
  exact hnodes.prevId_eq

theorem not_cancelsPartial_of_zero (h : totals.remainingUSDD = 0) (iterations : ℕ)
    (user : Address) : ¬CancelsPartial D price r iterations user totals := by
  cases iterations with
  | zero => exact id
  | succ iterations => exact fun hc => hc.1 (Or.inr h)

theorem redeemLoop_of_zero (h : totals.remainingUSDD = 0) (iterations : ℕ) (user : Address) :
    redeemLoop D price r iterations user totals = .ok totals := by
  cases iterations with
  | zero => rfl
  | succ iterations =>
      rw [redeemLoop, if_pos (Or.inr h)]
      rfl

/-- A round of the redemption that does not cancel. -/
theorem redeemLoop_succ (hne : user ≠ 0) (hpos : totals.remainingUSDD ≠ 0)
    (hkept : ∀ s₁ result, applyPendingRewards D totals.state user = .ok s₁ →
      redeemCollateralFromTrove D s₁ user totals.remainingUSDD price r = .ok result →
      result.2.cancelledPartial = false)
    (h : redeemLoop D price r (iterations + 1) user totals = .ok totals') :
    ∃ s₁ result remainingUSDD, applyPendingRewards D totals.state user = .ok s₁ ∧
      redeemCollateralFromTrove D s₁ user totals.remainingUSDD price r = .ok result ∧
      SafeMath.sub totals.remainingUSDD result.2.usddLot = .ok remainingUSDD ∧
      redeemLoop D price r iterations (totals.state.sortedTroves.nodes user).prevId
        { state := result.1
          remainingUSDD := remainingUSDD
          totalUSDDToRedeem := totals.totalUSDDToRedeem + result.2.usddLot
          totalETHDrawn := totals.totalETHDrawn + result.2.collLot } = .ok totals' := by
  rw [redeemLoop, if_neg (not_or.2 ⟨hne, hpos⟩)] at h
  obtain ⟨s₁, h₁, h⟩ := bind_eq_ok.1 h
  obtain ⟨result, h₂, h⟩ := bind_eq_ok.1 h
  rw [hkept s₁ result h₁ h₂, if_neg Bool.false_ne_true] at h
  obtain ⟨remainingUSDD, h₃, h⟩ := bind_eq_ok.1 h
  exact ⟨s₁, result, remainingUSDD, h₁, h₂, h₃, h⟩

/-- By induction on the rounds: the redemption has left what the walk has redeemed so far. -/
theorem round_trip (hgas : D.gasPool ≠ D.stabilityPool)
    (hreg : Registry s.troveManager s.sortedTroves)
    (hl : s.sortedTroves.forward = pre ++ post) (ha : Ahead s totals.state pre)
    (hhint : redemptionHintsLoop s price iterations (last pre) amount = .ok (nicr, rest))
    (hnicr : r.partialRedemptionHintNICR = nicr)
    (hremaining : totals.remainingUSDD = amount - rest) :
    ¬CancelsPartial D price r iterations (last pre) totals ∧
      ∀ totals', redeemLoop D price r iterations (last pre) totals = .ok totals' →
        totals'.remainingUSDD = 0 ∧
          totals'.totalUSDDToRedeem = totals.totalUSDDToRedeem + (amount - rest) := by
  induction iterations generalizing pre post amount totals with
  | zero =>
      cases pure_eq_ok.1 hhint
      refine ⟨id, fun totals' hloop => ?_⟩
      rw [← pure_eq_ok.1 hloop]
      omega
  | succ iterations ih =>
      -- Nothing is left to redeem once the walk stops.
      have hdone (hz : last pre = 0 ∨ totals.remainingUSDD = 0) (hrest : rest = amount) :
          ¬CancelsPartial D price r (iterations + 1) (last pre) totals ∧
            ∀ totals', redeemLoop D price r (iterations + 1) (last pre) totals = .ok totals' →
              totals'.remainingUSDD = 0 ∧
                totals'.totalUSDDToRedeem = totals.totalUSDDToRedeem + (amount - rest) := by
        refine ⟨fun hc => hc.1 hz, fun totals' hloop => ?_⟩
        rw [redeemLoop, if_pos hz] at hloop
        rw [← pure_eq_ok.1 hloop]
        omega
      by_cases hstop : last pre = 0 ∨ amount = 0
      · rw [redemptionHintsLoop, if_pos hstop] at hhint
        cases pure_eq_ok.1 hhint
        exact hdone (Or.inr (by omega)) rfl
      obtain ⟨hne, hpos⟩ := not_or.1 hstop
      obtain ⟨pre, user, rfl⟩ : ∃ pre' user, pre = pre' ++ [user] := by
        rcases List.eq_nil_or_concat pre with rfl | ⟨pre', user, rfl⟩
        · exact absurd rfl hne
        · exact ⟨pre', user, by simp⟩
      rw [LinkedList.last_append_cons, LinkedList.last_singleton] at hne hhint hdone ⊢
      have hactive : s.troveManager.Active user := by
        rw [← hreg.mem_list, hl]
        simp
      have hprev : (s.sortedTroves.nodes user).prevId = last pre := by
        have hnodes := hreg.list.nodes
        rw [hl, List.append_assoc, List.singleton_append] at hnodes
        exact hnodes.prevId_eq
      obtain ⟨netDebt, hnet, hcases⟩ := redemptionHintsLoop_succ hactive hne hpos hhint
      rcases hcases with ⟨hle, hhint'⟩ | ⟨lot, hlot, hlot₀, hmin, hpartial⟩ | hrest
      · have hrest := redemptionHintsLoop_le hhint'
        have hround (s₁ : State) (result : State × SingleRedemptionValues)
            (h₁ : applyPendingRewards D totals.state user = .ok s₁)
            (h₂ : redeemCollateralFromTrove D s₁ user totals.remainingUSDD price r = .ok result) :
            result.2.cancelledPartial = false ∧ result.2.usddLot = netDebt ∧
              Ahead s result.1 pre := by
          obtain ⟨hactiveₖ, hf₁, hlist₁, -, hdebt⟩ := ha.apply h₁
          obtain ⟨hkept, hlot, hf₂, hremove⟩ := redeemCollateralFromTrove_full (by omega)
            (by omega) h₂
          have hp₁ := applyPendingRewards_path hactiveₖ h₁
          rcases redeemCollateralFromTrove_path hgas (applyPendingRewards_active hactiveₖ h₁)
            (applyPendingRewards_snapshot hactiveₖ h₁) h₂ with ⟨hc, -⟩ | ⟨-, hp₂⟩
          · rw [hkept] at hc
            cases hc
          rw [hlist₁] at hremove
          exact ⟨hkept, by omega, ha.next (((hp₁ 0 0 0).trans (hp₂ 0 0 0)).registry ha.registry)
            (hf₁.trans hf₂) hremove⟩
        have hminDebt : minNetDebt + usddGasCompensation ≤ s.troveManager.currentDebt user :=
          (hreg.active user hactive).1.trans (Nat.le_add_right _ _)
        have hminPos : 0 < minNetDebt := by decide
        have hl' : s.sortedTroves.forward = pre ++ user :: post := by
          rw [hl, List.append_assoc, List.singleton_append]
        rw [hprev] at hhint'
        constructor
        · rintro ⟨-, s₁, result, h₁, h₂, hc | ⟨left, hleft, hc⟩⟩
          · rw [(hround s₁ result h₁ h₂).1] at hc
            cases hc
          · obtain ⟨-, hlot, ha'⟩ := hround s₁ result h₁ h₂
            obtain ⟨-, hleft⟩ := sub_eq_ok.1 hleft
            rw [ha.prevId] at hc
            exact (ih hl' ha' hhint' (by dsimp only; omega)).1 hc
        · intro totals' hloop
          obtain ⟨s₁, result, left, h₁, h₂, hleft, hloop⟩ := redeemLoop_succ hne (by omega)
            (fun s₁ result h₁ h₂ => (hround s₁ result h₁ h₂).1) hloop
          obtain ⟨-, hlot, ha'⟩ := hround s₁ result h₁ h₂
          obtain ⟨-, hleft⟩ := sub_eq_ok.1 hleft
          rw [ha.prevId] at hloop
          obtain ⟨hzero, htotal⟩ := (ih hl' ha' hhint' (by dsimp only; omega)).2 totals' hloop
          dsimp only at htotal
          omega
      · have hlot' : totals.remainingUSDD = lot := by omega
        have hround (s₁ : State) (result : State × SingleRedemptionValues)
            (h₁ : applyPendingRewards D totals.state user = .ok s₁)
            (h₂ : redeemCollateralFromTrove D s₁ user totals.remainingUSDD price r = .ok result) :
            result.2.cancelledPartial = false ∧ result.2.usddLot = lot := by
          obtain ⟨-, -, -, hcoll, hdebt⟩ := ha.apply h₁
          rw [hlot'] at h₂
          refine redeemCollateralFromTrove_partial (by omega) ?_ h₂
          rw [hcoll, hdebt, hnicr, hpartial]
        constructor
        · rintro ⟨-, s₁, result, h₁, h₂, hc | ⟨left, hleft, hc⟩⟩
          · rw [(hround s₁ result h₁ h₂).1] at hc
            cases hc
          · obtain ⟨-, hleft⟩ := sub_eq_ok.1 hleft
            have hzero := (hround s₁ result h₁ h₂).2
            exact not_cancelsPartial_of_zero (by dsimp only; omega) _ _ hc
        · intro totals' hloop
          obtain ⟨s₁, result, left, h₁, h₂, hleft, hloop⟩ := redeemLoop_succ hne (by omega)
            (fun s₁ result h₁ h₂ => (hround s₁ result h₁ h₂).1) hloop
          obtain ⟨-, hleft⟩ := sub_eq_ok.1 hleft
          have hredeemed := (hround s₁ result h₁ h₂).2
          rw [redeemLoop_of_zero (by dsimp only; omega)] at hloop
          cases hloop
          dsimp only
          omega
      · exact hdone (Or.inr (by omega)) hrest

end RoundTrip

end HintHelpers

section Runs

variable {D : Deployment} {s : State} {amount price maxIterations : ℕ} {hints : RedemptionHints}

/-- A redemption of the truncated amount with the hints starts at the first hint, cancels nothing,
and redeems the truncated amount, so that every trove it leaves open keeps the minimum debt. -/
theorem redemption_hints_round_trip (hw : D.Wired) (h : Reachable D s)
    (hj : ∀ e ∈ s.journal, e.RaisesCollWithDebt)
    (hhints : getRedemptionHints s price amount maxIterations = .ok hints)
    (hpos : 0 < hints.truncatedUSDDamount) {r : Redemption}
    (hamount : r.usddAmount = hints.truncatedUSDDamount)
    (hfirst : r.firstRedemptionHint = hints.firstRedemptionHint)
    (hnicr : r.partialRedemptionHintNICR = hints.partialRedemptionHintNICR)
    (hiterations : r.maxIterations = maxIterations) :
    isValidFirstRedemptionHint price s r.firstRedemptionHint = .ok true ∧
      ¬CancelsPartial D price r (if r.maxIterations = 0 then 2 ^ 256 - 1 else r.maxIterations)
        r.firstRedemptionHint ⟨s, r.usddAmount, 0, 0⟩ ∧
      ∀ m depositor s', m.price = price → redeemCollateral D m s depositor r = .ok s' →
        ∃ totals, redeemLoop D price r
            (if r.maxIterations = 0 then 2 ^ 256 - 1 else r.maxIterations) r.firstRedemptionHint
            ⟨s, r.usddAmount, 0, 0⟩ = .ok totals ∧
          totals.totalUSDDToRedeem = hints.truncatedUSDDamount ∧
          settleRedemption D m totals.state depositor r hints.truncatedUSDDamount
            totals.totalETHDrawn (getEntireSystemDebt s) = .ok s' ∧
          ∀ a, totals.state.troveManager.Active a →
            ∃ netDebt, getNetDebt (totals.state.troveManager.troves a).debt = .ok netDebt ∧
              minNetDebt ≤ netDebt := by
  have hreached := h.reached hw
  have hreg : Registry s.troveManager s.sortedTroves := hreached.consistent.registry
  have hrealised : (s.book D 0 0 0).DebtRealised :=
    hreached.conditional (initial_debtRealised D)
      (fun _ _ hc hi hj he => hi.event hc.registry hj he) hj
  obtain ⟨first, hscan, hhints⟩ := bind_eq_ok.1 hhints
  obtain ⟨⟨nicr, rest⟩, hwalk, hhints⟩ := bind_eq_ok.1 hhints
  obtain ⟨truncated, htruncated, hhints⟩ := bind_eq_ok.1 hhints
  obtain ⟨hle, htruncated⟩ := sub_eq_ok.1 htruncated
  cases pure_eq_ok.1 hhints
  dsimp only at hpos hamount hfirst hnicr hwalk htruncated ⊢
  have hne : first ≠ 0 := by
    rintro rfl
    have hstop : rest = amount := by
      cases hn : (if maxIterations = 0 then 2 ^ 256 - 1 else maxIterations) with
      | zero =>
          rw [hn] at hwalk
          cases pure_eq_ok.1 hwalk
          rfl
      | succ n =>
          rw [hn, redemptionHintsLoop, if_pos (Or.inl rfl)] at hwalk
          cases pure_eq_ok.1 hwalk
          rfl
    omega
  obtain ⟨pre, post, hl, hicr, hbelow⟩ := firstTroveAboveMCR_ne_zero hreg hscan hne
  have hl' : s.sortedTroves.forward = (pre ++ [first]) ++ post := by
    rw [hl, List.append_assoc, List.singleton_append]
  have hlast : LinkedList.last (pre ++ [first]) = first := by
    rw [LinkedList.last_append_cons, LinkedList.last_singleton]
  have hvalid := isValidFirstRedemptionHint_of hreg hl hicr hbelow
  have hahead : Ahead s s (pre ++ [first]) :=
    ⟨hreg, hrealised.inStep, ⟨post, hl'⟩, fun _ _ => rfl, fun _ _ => rfl⟩
  rw [← hlast] at hwalk
  have hstart : (⟨s, truncated, 0, 0⟩ : RedemptionTotals).remainingUSDD = amount - rest :=
    htruncated.symm
  obtain ⟨hkept, hloop⟩ := round_trip hw.gasPool_ne hreg hl' hahead hwalk hnicr hstart
  rw [hlast] at hkept hloop
  rw [hfirst, hamount, hiterations]
  refine ⟨hvalid, hkept, fun m depositor s' hprice hs' => ?_⟩
  obtain ⟨_, -, hs'⟩ := bind_eq_ok.1 hs'
  obtain ⟨current, hcurrent, hs'⟩ := bind_eq_ok.1 hs'
  obtain ⟨totals, htotals, hsettle⟩ := bind_eq_ok.1 hs'
  rw [hprice, hfirst, firstBorrower, hvalid, ok_bind, if_pos rfl] at hcurrent
  cases pure_eq_ok.1 hcurrent
  rw [hprice, hamount, hiterations] at htotals
  obtain ⟨-, htotal⟩ := hloop totals htotals
  have htotal : totals.totalUSDDToRedeem = truncated := by
    dsimp only at htotal
    omega
  rw [htotal] at hsettle
  have hstart : RedemptionTotals.Follows D s ⟨s, truncated, 0, 0⟩ := by
    intro d c g
    simp only [Nat.cast_zero, add_zero]
    exact Path.refl _
  have hreg' : Registry totals.state.troveManager totals.state.sortedTroves :=
    ((hstart.redeemLoop hw.gasPool_ne hreg htotals) 0 0 0).registry hreg
  refine ⟨totals, htotals, htotal, hsettle, fun a ha => ?_⟩
  have hmin := (hreg'.active a ha).1
  exact ⟨_, sub_eq_ok.2 ⟨by omega, rfl⟩, by omega⟩

/-- Two troves, of which the hints redeem the second one in full and a part of the first. -/
theorem redemption_hints_round_trip_of_sample : ∃ s hints, sampleRun
      [sampleOpen 1 (100 * decimalPrecision) (3000 * decimalPrecision) (200 * decimalPrecision),
        sampleOpen 2 (50 * decimalPrecision) (2000 * decimalPrecision) (200 * decimalPrecision)] =
      .ok s ∧
    getRedemptionHints s (200 * decimalPrecision) (4000 * decimalPrecision) 5 = .ok hints ∧
    hints.truncatedUSDDamount < 4000 * decimalPrecision ∧
    isValidFirstRedemptionHint (200 * decimalPrecision) s hints.firstRedemptionHint = .ok true ∧
    ¬CancelsPartial sampleDeployment (200 * decimalPrecision)
      ⟨hints.truncatedUSDDamount, hints.firstRedemptionHint, 0, 0, hints.partialRedemptionHintNICR,
        5, decimalPrecision⟩ 5 hints.firstRedemptionHint
      ⟨s, hints.truncatedUSDDamount, 0, 0⟩ := by
  obtain ⟨s, hs, hj, hints, hhints, hpos, htruncated⟩ : ∃ s, sampleRun
      [sampleOpen 1 (100 * decimalPrecision) (3000 * decimalPrecision) (200 * decimalPrecision),
        sampleOpen 2 (50 * decimalPrecision) (2000 * decimalPrecision) (200 * decimalPrecision)] =
        .ok s ∧ (∀ e ∈ s.journal, e.RaisesCollWithDebt) ∧
      ∃ hints, getRedemptionHints s (200 * decimalPrecision) (4000 * decimalPrecision) 5 =
          .ok hints ∧ 0 < hints.truncatedUSDDamount ∧
        hints.truncatedUSDDamount < 4000 * decimalPrecision := by decide +kernel
  obtain ⟨hvalid, hkept, -⟩ := redemption_hints_round_trip sampleDeployment_wired
    (reachable_sampleRun hs) hj hhints hpos
    (r := ⟨hints.truncatedUSDDamount, hints.firstRedemptionHint, 0, 0,
      hints.partialRedemptionHintNICR, 5, decimalPrecision⟩) rfl rfl rfl rfl
  exact ⟨s, hints, hs, hhints, htruncated, hvalid, hkept⟩

end Runs

end Usdd

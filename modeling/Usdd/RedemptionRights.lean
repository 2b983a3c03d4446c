import Usdd.LiquidationRights

/-!
# What a redemption takes from whom

A redemption pays a lot of the debt of each trove that it reaches and draws collateral of the same value
at the price. A trove stays open or is closed against its reserve, with the rest of its collateral
left to claim. The redeemer pays the lots and receives what is drawn less the fee, and every other
account keeps what it holds.
-/

open Transaction

namespace Usdd

open TroveManager HintHelpers

/-- What an account holds of USDD and of each collateral. -/
def State.wallet (s : State) (a : Address) : ℕ × (Address → ℕ) :=
  (s.usddToken.balances a, fun token => s.tokens token a)

/-- A redemption pays `lot` of the debt of the trove. -/
structure Redeemed (D : Deployment) (price : ℕ) (s s' : State) (a : Address) (lot : ℕ) : Prop where
  active : s.troveManager.Active a
  outcome :
    s'.troveManager.Active a ∧ s'.surplus D a = s.surplus D a ∧
      s'.troveManager.currentDebt a + lot = s.troveManager.currentDebt a ∧
      s'.troveManager.currentColl a + lot * decimalPrecision / price = s.troveManager.currentColl a ∨
    (s'.troveManager.troves a).status = .closedByRedemption ∧
      usddGasCompensation + lot = s.troveManager.currentDebt a ∧
      s'.surplus D a + lot * decimalPrecision / price =
        s.surplus D a + s.troveManager.currentColl a

variable {D : Deployment} {m : Message} {s s₁ s' : State} {a borrower : Address}
  {price lot : ℕ}

/-- What is spared afterwards stays as the redemption left it. -/
theorem Redeemed.spared (h : Redeemed D price s s₁ a lot) (h' : Spared D s₁ s' a)
    (hcoll : s'.troveManager.lColl = s₁.troveManager.lColl)
    (hdebt : s'.troveManager.lUSDDDebt = s₁.troveManager.lUSDDDebt) :
    Redeemed D price s s' a lot := by
  refine ⟨h.active, ?_⟩
  rw [h'.surplus, h'.status, h'.active_iff, h'.currentDebt hdebt, h'.currentColl hcoll]
  exact h.outcome

namespace TroveManager

variable {r : Redemption} {remaining newDebt newColl usdd coll : ℕ} {cancelled : Bool}
  {v : SingleRedemptionValues}

section Wallets

theorem Token.transfer_wallet {token sender recipient : Address} {amount : ℕ} (hsender : a ≠ sender)
    (hrecipient : a ≠ recipient) (h : Token.transfer s token sender recipient amount = .ok s') :
    s'.wallet a = s.wallet a := by
  obtain ⟨balance, -, h⟩ := bind_eq_ok.1 h
  rw [← pure_eq_ok.1 h]
  refine Prod.ext rfl (funext fun token' => ?_)
  by_cases htoken : token' = token
  · subst htoken
    simp [State.wallet, hsender, hrecipient]
  · simp [State.wallet, htoken]

theorem ActivePool.sendColl_wallet {sender account token : Address} {amount : ℕ}
    (hpool : a ≠ D.activePool) (haccount : a ≠ account)
    (h : ActivePool.sendColl D sender s account token amount = .ok s') :
    s'.wallet a = s.wallet a := by
  obtain ⟨_, -, h⟩ := bind_eq_ok.1 h
  obtain ⟨_, -, h⟩ := bind_eq_ok.1 h
  exact (Token.transfer_wallet hpool haccount h :)

theorem applyPendingRewards_wallet (ha : a ∉ D.contracts)
    (h : applyPendingRewards D s borrower = .ok s') : s'.wallet a = s.wallet a := by
  rcases ite_eq_ok.1 h with ⟨-, h⟩ | ⟨-, h⟩
  · obtain ⟨_, -, h⟩ := bind_eq_ok.1 h
    obtain ⟨_, -, h⟩ := bind_eq_ok.1 h
    obtain ⟨_, -, h⟩ := bind_eq_ok.1 h
    obtain ⟨s₁, h₁, h⟩ := bind_eq_ok.1 h
    obtain ⟨s₂, h₂, h⟩ := bind_eq_ok.1 h
    obtain ⟨_, -, h₁⟩ := bind_eq_ok.1 h₁
    obtain ⟨_, -, h₁⟩ := bind_eq_ok.1 h₁
    obtain ⟨_, -, h₂⟩ := bind_eq_ok.1 h₂
    obtain ⟨_, -, h⟩ := bind_eq_ok.1 h
    obtain ⟨_, -, h⟩ := bind_eq_ok.1 h
    obtain ⟨_, -, h⟩ := bind_eq_ok.1 h
    obtain ⟨s₃, h₃, h⟩ := bind_eq_ok.1 h
    rw [← pure_eq_ok.1 h₁] at h₂
    rw [← pure_eq_ok.1 h₂] at h₃
    rw [← pure_eq_ok.1 h]
    simp only [Deployment.contracts, List.mem_cons, not_or] at ha
    exact (Token.transfer_wallet ha.2.2.2.2.1 ha.2.2.2.1 h₃ :)
  · rw [pure_eq_ok.1 h]

theorem redeemCloseTrove_wallet (ha : a ∉ D.contracts)
    (h : redeemCloseTrove D s borrower usdd coll = .ok s') : s'.wallet a = s.wallet a := by
  simp only [Deployment.contracts, List.mem_cons, not_or] at ha
  obtain ⟨s₁, h₁, h⟩ := bind_eq_ok.1 h
  obtain ⟨s₂, h₂, h⟩ := bind_eq_ok.1 h
  obtain ⟨s₃, h₃, h⟩ := bind_eq_ok.1 h
  obtain ⟨s₄, h₄, h⟩ := bind_eq_ok.1 h
  obtain ⟨_, -, h₁⟩ := bind_eq_ok.1 h₁
  obtain ⟨t, ht, h₁⟩ := bind_eq_ok.1 h₁
  obtain ⟨_, rfl⟩ := USDDToken.burnFrom_eq_ok ht
  obtain ⟨_, -, h₂⟩ := bind_eq_ok.1 h₂
  obtain ⟨_, -, h₂⟩ := bind_eq_ok.1 h₂
  obtain ⟨_, -, h₃⟩ := bind_eq_ok.1 h₃
  obtain ⟨_, -, h₃⟩ := bind_eq_ok.1 h₃
  obtain ⟨_, -, h⟩ := bind_eq_ok.1 h
  obtain ⟨_, -, h⟩ := bind_eq_ok.1 h
  obtain ⟨s₅, h₅, h⟩ := bind_eq_ok.1 h
  have hburned : s₃.wallet a = s.wallet a := by
    rw [← pure_eq_ok.1 h₃, ← pure_eq_ok.1 h₂, ← pure_eq_ok.1 h₁]
    exact Prod.ext (Function.update_of_ne ha.2.2.2.2.2.1 _ _) rfl
  have hlast : s'.wallet a = s₅.wallet a := by
    rw [← pure_eq_ok.1 h]
    rfl
  calc
    s'.wallet a = s₅.wallet a := hlast
    _ = s₄.wallet a := Token.transfer_wallet ha.2.1 ha.2.2.2.2.2.2.1 h₅
    _ = s₃.wallet a := ActivePool.sendColl_wallet ha.2.2.2.1 ha.2.1 h₄
    _ = s.wallet a := hburned

end Wallets

section Single

theorem redeemCloseTrove_surplus (h : redeemCloseTrove D s borrower usdd coll = .ok s') :
    ∀ a, s'.surplus D a = s.surplus D a + if a = borrower then coll else 0 := by
  obtain ⟨s₁, h₁, h⟩ := bind_eq_ok.1 h
  obtain ⟨s₂, h₂, h⟩ := bind_eq_ok.1 h
  obtain ⟨s₃, h₃, h⟩ := bind_eq_ok.1 h
  have hburned : Ensures (fun s₁ => s₁.records = s.records)
      (USDDToken.burn D D.troveManager s D.gasPool usdd) := by
    simp [USDDToken.burn, State.records]
  have hpaid : Ensures (fun s₂ => s₂.records = s₁.records)
      (ActivePool.decreaseUSDDDebt D D.troveManager s₁ usdd) := by
    simp [ActivePool.decreaseUSDDDebt, State.records]
  have hsent : Ensures (fun s' => s'.records = s₃.records) (do
      let s ← ActivePool.sendColl D D.troveManager s₃ D.troveManager D.collToken coll
      CollSurplusPool.receiveColl D D.troveManager s D.collToken coll) := by
    simp [ActivePool.sendColl, CollSurplusPool.receiveColl, Token.transfer, State.records]
  have hclaim : ∀ a, s₃.surplus D a = s₂.surplus D a + if a = borrower then coll else 0 := by
    obtain ⟨_, -, h₃⟩ := bind_eq_ok.1 h₃
    obtain ⟨_, -, h₃⟩ := bind_eq_ok.1 h₃
    rw [← pure_eq_ok.1 h₃]
    intro a
    by_cases ha : a = borrower
    · subst ha
      simp [State.surplus]
    · simp [State.surplus, ha]
  intro a
  rw [(Spared.of_records D (hsent s' h) a).surplus, hclaim,
    (Spared.of_records D (hpaid s₂ h₂) a).surplus, (Spared.of_records D (hburned s₁ h₁) a).surplus]

/-- A trove with nothing but the reserve left to pay is closed. -/
theorem redeemFromTrove_closes (hdebt : newDebt = usddGasCompensation)
    (h : redeemFromTrove D s borrower newDebt newColl r = .ok (s', cancelled)) :
    cancelled = false ∧ Frame s.troveManager s'.troveManager borrower ∧
      (s'.troveManager.troves borrower).status = .closedByRedemption ∧
      (∀ a, s'.surplus D a = s.surplus D a + if a = borrower then newColl else 0) ∧
      ∀ a, a ∉ D.contracts → s'.wallet a = s.wallet a := by
  rw [redeemFromTrove, if_pos hdebt] at h
  obtain ⟨tm, htm, h⟩ := bind_eq_ok.1 h
  obtain ⟨s₁, h₁, h⟩ := bind_eq_ok.1 h
  obtain ⟨s₂, h₂, h⟩ := bind_eq_ok.1 h
  cases pure_eq_ok.1 h
  obtain ⟨-, -, tm', list, howner, -, rfl⟩ := closeTrove_book h₁
  obtain ⟨htm', -⟩ := redeemCloseTrove_frame h₂
  have howners : tm.troveOwners = s.troveManager.troveOwners := by
    obtain ⟨-, rfl⟩ := removeStake_eq_ok htm
    rfl
  rw [howners] at howner
  obtain ⟨-, -, rfl⟩ := departed_eq_ok htm howner
  refine ⟨rfl, ?_, ?_, (redeemCloseTrove_surplus h₂ :),
    fun a ha => (redeemCloseTrove_wallet ha h₂ :)⟩
  · rw [htm']
    exact departed_frame
  · rw [htm', departed_troves, if_pos rfl]

/-- Any other trove keeps its debt when the partial redemption is cancelled, and stays open with the
rest of it otherwise. -/
theorem redeemFromTrove_stays (hdebt : newDebt ≠ usddGasCompensation)
    (hactive : s.troveManager.Active borrower)
    (h : redeemFromTrove D s borrower newDebt newColl r = .ok (s', cancelled)) :
    s'.collSurplusPool = s.collSurplusPool ∧ s'.wallet = s.wallet ∧
      (cancelled = true ∧ s' = s ∨
        cancelled = false ∧ Frame s.troveManager s'.troveManager borrower ∧
          s'.troveManager.Active borrower ∧
          (s'.troveManager.troves borrower).debt = newDebt ∧
          (s'.troveManager.troves borrower).coll = newColl ∧
          s'.troveManager.rewardSnapshots borrower = s.troveManager.rewardSnapshots borrower) := by
  rw [redeemFromTrove, if_neg hdebt] at h
  obtain ⟨newNetDebt, -, h⟩ := bind_eq_ok.1 h
  rcases ite_eq_ok.1 h with ⟨-, h⟩ | ⟨-, h⟩
  · cases pure_eq_ok.1 h
    exact ⟨rfl, rfl, Or.inl ⟨rfl, rfl⟩⟩
  · obtain ⟨list, -, h⟩ := bind_eq_ok.1 h
    obtain ⟨s₁, h₁, h⟩ := bind_eq_ok.1 h
    cases pure_eq_ok.1 h
    obtain ⟨tm, htm, rfl⟩ := restake_eq_ok h₁
    obtain ⟨stake, -, -, rfl⟩ := amended_eq_ok htm
    refine ⟨rfl, rfl, Or.inr ⟨rfl, restaked_frame, ?_, ?_, ?_, ?_⟩⟩ <;>
      simp [restaked, TroveManager.Active]
    exact hactive

/-- Once its rewards are applied, a trove pays a lot with collateral at the price. -/
theorem redeemCollateralFromTrove_eq_ok
    (h : redeemCollateralFromTrove D s borrower remaining price r = .ok (s', v)) :
    v.usddLot ≤ remaining ∧ v.collLot = v.usddLot * decimalPrecision / price ∧
      usddGasCompensation + v.usddLot ≤ (s.troveManager.troves borrower).debt ∧
      v.collLot ≤ (s.troveManager.troves borrower).coll ∧
      (v.usddLot < remaining →
        usddGasCompensation + v.usddLot = (s.troveManager.troves borrower).debt) ∧
      redeemFromTrove D s borrower ((s.troveManager.troves borrower).debt - v.usddLot)
        ((s.troveManager.troves borrower).coll - v.collLot) r = .ok (s', v.cancelledPartial) := by
  obtain ⟨netDebt, hnet, h⟩ := bind_eq_ok.1 h
  obtain ⟨collLot, hlot, h⟩ := bind_eq_ok.1 h
  obtain ⟨newDebt, hdebt, h⟩ := bind_eq_ok.1 h
  obtain ⟨newColl, hcoll, h⟩ := bind_eq_ok.1 h
  obtain ⟨⟨s₁, cancelled⟩, h₁, h⟩ := bind_eq_ok.1 h
  cases pure_eq_ok.1 h
  obtain ⟨hgas, hnet⟩ := sub_eq_ok.1 hnet
  obtain ⟨-, hlot⟩ := div_eq_ok.1 hlot
  obtain ⟨-, rfl⟩ := sub_eq_ok.1 hdebt
  obtain ⟨hle, rfl⟩ := sub_eq_ok.1 hcoll
  refine ⟨min_le_left _ _, hlot.symm, ?_, hle, ?_, h₁⟩
  · have := min_le_right remaining netDebt
    dsimp only
    omega
  · dsimp only
    omega

end Single

section Loop

variable {amount : ℕ} {totals totals' : RedemptionTotals} {lots : Address → ℕ} {iterations : ℕ}
  {currentBorrower : Address}

/-- The loop has redeemed `lots` of the troves. Only the last one can be left open, and nothing is left
to redeem after it. -/
structure RedemptionTotals.Rightful (D : Deployment) (price amount : ℕ) (s : State)
    (totals : RedemptionTotals) (lots : Address → ℕ) : Prop where
  follows : totals.Follows D s
  lColl : totals.state.troveManager.lColl = s.troveManager.lColl
  lUSDDDebt : totals.state.troveManager.lUSDDDebt = s.troveManager.lUSDDDebt
  inStep : totals.state.troveManager.InStep
  troves : ∀ a, lots a = 0 ∧ Spared D s totals.state a ∨ Redeemed D price s totals.state a (lots a)
  exhausted : ∀ a, totals.state.troveManager.Active a → lots a ≠ 0 → totals.remainingUSDD = 0
  redeemed : totals.totalUSDDToRedeem = ∑ a, lots a
  drawn : totals.totalETHDrawn = ∑ a, lots a * decimalPrecision / price
  amount : totals.remainingUSDD + totals.totalUSDDToRedeem = amount
  wallets : ∀ a, a ∉ D.contracts → totals.state.wallet a = s.wallet a

theorem RedemptionTotals.rightful_start (hstep : s.troveManager.InStep) (D : Deployment)
    (price amount : ℕ) :
    (⟨s, amount, 0, 0⟩ : RedemptionTotals).Rightful D price amount s (fun _ => 0) where
  follows := by
    intro d c g
    simp only [Nat.cast_zero, add_zero]
    exact Path.refl _
  lColl := rfl
  lUSDDDebt := rfl
  inStep := hstep
  troves a := Or.inl ⟨rfl, Spared.refl D s a⟩
  exhausted a _ hlot := absurd rfl hlot
  redeemed := by simp
  drawn := by simp
  amount := rfl
  wallets _ _ := rfl

/-- A trove that is open and has not paid is as it was at the start. -/
theorem RedemptionTotals.Rightful.current (h : totals.Rightful D price amount s lots)
    (ha : totals.state.troveManager.Active a) (hlot : lots a = 0) :
    s.troveManager.Active a ∧ totals.state.surplus D a = s.surplus D a ∧
      totals.state.troveManager.currentDebt a = s.troveManager.currentDebt a ∧
      totals.state.troveManager.currentColl a = s.troveManager.currentColl a := by
  rcases h.troves a with ⟨-, hspared⟩ | ⟨hactive, ⟨-, hsurplus, hdebt, hcoll⟩ | ⟨hclosed, -⟩⟩
  · exact ⟨hspared.active_iff.1 ha, hspared.surplus, hspared.currentDebt h.lUSDDDebt,
      hspared.currentColl h.lColl⟩
  · rw [hlot, Nat.add_zero] at hdebt
    rw [hlot, Nat.zero_mul, Nat.zero_div, Nat.add_zero] at hcoll
    exact ⟨hactive, hsurplus, hdebt, hcoll⟩
  · unfold TroveManager.Active at ha
    rw [hclosed] at ha
    cases ha

theorem applyPendingRewards_surplus (h : applyPendingRewards D s borrower = .ok s') :
    s'.collSurplusPool = s.collSurplusPool := by
  rcases ite_eq_ok.1 h with ⟨-, h⟩ | ⟨-, h⟩
  · obtain ⟨_, -, h⟩ := bind_eq_ok.1 h
    obtain ⟨_, -, h⟩ := bind_eq_ok.1 h
    obtain ⟨_, -, h⟩ := bind_eq_ok.1 h
    exact (movePendingTroveRewardsToActivePool_surplus h :)
  · rw [pure_eq_ok.1 h]

/-- What the application of the rewards leaves of the trove that is visited and of the others. -/
theorem RedemptionTotals.Rightful.apply (h : totals.Rightful D price amount s lots)
    (hreg : Registry s.troveManager s.sortedTroves)
    (hactive : totals.state.troveManager.Active borrower)
    (h₁ : applyPendingRewards D totals.state borrower = .ok s₁) :
    Frame totals.state.troveManager s₁.troveManager borrower ∧ s₁.troveManager.Active borrower ∧
      s₁.troveManager.InStep ∧ (∀ a, s₁.surplus D a = totals.state.surplus D a) ∧
      s₁.troveManager.collSnapshots borrower = s₁.troveManager.lColl ∧
      s₁.troveManager.debtSnapshots borrower = s₁.troveManager.lUSDDDebt ∧
      (s₁.troveManager.troves borrower).coll = totals.state.troveManager.currentColl borrower ∧
      (s₁.troveManager.troves borrower).debt = totals.state.troveManager.currentDebt borrower := by
  have hreg := (h.follows 0 0 0).registry hreg
  obtain ⟨hf, -⟩ := applyPendingRewards_frame hactive h₁
  obtain ⟨hcoll, hdebt, hc, hd⟩ :=
    BorrowerOperations.applyPendingRewards_current hreg (h.inStep borrower hactive) hactive h₁
  have hpool := applyPendingRewards_surplus h₁
  refine ⟨hf, applyPendingRewards_active hactive h₁, h.inStep.write hf (fun _ _ => ?_),
    fun a => ?_, hcoll, hdebt, hc, hd⟩
  · rw [hdebt, hf.lUSDDDebt]
  · rw [State.surplus, hpool]
    rfl

/-- The amounts of a trove that has no pending rewards. -/
theorem current_of_realised {tm : TroveManager} (hcoll : tm.collSnapshots a = tm.lColl)
    (hdebt : tm.debtSnapshots a = tm.lUSDDDebt) :
    tm.currentColl a = (tm.troves a).coll ∧ tm.currentDebt a = (tm.troves a).debt := by
  rw [currentColl, currentDebt, pendingColl_of_le hcoll.ge, pendingDebt_of_le hdebt.ge]
  exact ⟨rfl, rfl⟩

/-- The troves other than the one that is visited. -/
theorem RedemptionTotals.Rightful.others {s₂ : State} (h : totals.Rightful D price amount s lots)
    (hf : Frame totals.state.troveManager s₂.troveManager borrower)
    (hsurplus : ∀ a, a ≠ borrower → s₂.surplus D a = totals.state.surplus D a)
    (ha : a ≠ borrower) :
    lots a = 0 ∧ Spared D s s₂ a ∨ Redeemed D price s s₂ a (lots a) := by
  have hnext : Spared D totals.state s₂ a := ⟨KeepsRecord.of_frame hf ha, hsurplus a ha⟩
  rcases h.troves a with ⟨hlot, hspared⟩ | hredeemed
  · exact Or.inl ⟨hlot, hspared.trans hnext⟩
  · exact Or.inr (hredeemed.spared hnext hf.lColl hf.lUSDDDebt)

/-- What a round does to the trove that it visits. -/
theorem RedemptionTotals.Rightful.visit {s₂ : State} (h : totals.Rightful D price amount s lots)
    (hreg : Registry s.troveManager s.sortedTroves) (hpos : totals.remainingUSDD ≠ 0)
    (hactive : totals.state.troveManager.Active borrower)
    (h₁ : applyPendingRewards D totals.state borrower = .ok s₁)
    (h₂ : redeemCollateralFromTrove D s₁ borrower totals.remainingUSDD price r = .ok (s₂, v))
    (hc : v.cancelledPartial = false) :
    lots borrower = 0 ∧ Frame totals.state.troveManager s₂.troveManager borrower ∧
      s₂.troveManager.InStep ∧ Redeemed D price s s₂ borrower v.usddLot ∧
      (∀ a, a ≠ borrower → s₂.surplus D a = totals.state.surplus D a) ∧
      (∀ a, a ∉ D.contracts → s₂.wallet a = totals.state.wallet a) ∧
      (s₂.troveManager.Active borrower → v.usddLot = totals.remainingUSDD) := by
  have hlot : lots borrower = 0 := by
    by_contra hne
    exact hpos (h.exhausted borrower hactive hne)
  obtain ⟨hs, hsurplus, hdebt, hcoll⟩ := h.current hactive hlot
  obtain ⟨hf₁, hactive₁, hstep₁, hsurplus₁, hsnapshot, hsnapshot', hcoll₁, hdebt₁⟩ :=
    h.apply hreg hactive h₁
  obtain ⟨hle, hcollLot, hgas, hcollLe, hfull, hfrom⟩ := redeemCollateralFromTrove_eq_ok h₂
  have hwallet₁ {a : Address} (ha : a ∉ D.contracts) : s₁.wallet a = totals.state.wallet a :=
    applyPendingRewards_wallet ha h₁
  rw [hc] at hfrom
  by_cases hclosed : (s₁.troveManager.troves borrower).debt - v.usddLot = usddGasCompensation
  · obtain ⟨-, hf₂, hstatus, hsurplus₂, hwallet₂⟩ := redeemFromTrove_closes hclosed hfrom
    have hna : ¬s₂.troveManager.Active borrower := by
      unfold TroveManager.Active
      rw [hstatus]
      exact nofun
    refine ⟨hlot, hf₁.trans hf₂, hstep₁.write hf₂ (fun ha => absurd ha hna), ⟨hs, Or.inr ⟨hstatus,
      ?_, ?_⟩⟩, fun a ha => ?_, fun a ha => (hwallet₂ a ha).trans (hwallet₁ ha),
      fun ha => absurd ha hna⟩
    · omega
    · rw [hsurplus₂, if_pos rfl, hsurplus₁, ← hcollLot]
      omega
    · rw [hsurplus₂, if_neg ha, Nat.add_zero, hsurplus₁]
  · obtain ⟨hpool, hwallet₂, ⟨hc', -⟩ | ⟨-, hf₂, hactive₂, hdebt₂, hcoll₂, hrewards⟩⟩ :=
      redeemFromTrove_stays hclosed hactive₁ hfrom
    · cases hc'
    have hsnapshot₂ : s₂.troveManager.collSnapshots borrower = s₂.troveManager.lColl := by
      rw [hf₂.lColl, ← hsnapshot, collSnapshots, hrewards]
      rfl
    have hsnapshot₂' : s₂.troveManager.debtSnapshots borrower = s₂.troveManager.lUSDDDebt := by
      rw [hf₂.lUSDDDebt, ← hsnapshot', debtSnapshots, hrewards]
      rfl
    obtain ⟨hcurrentColl, hcurrentDebt⟩ := current_of_realised hsnapshot₂ hsnapshot₂'
    have hsurplus₂ (a : Address) : s₂.surplus D a = totals.state.surplus D a := by
      rw [State.surplus, hpool]
      exact hsurplus₁ a
    refine ⟨hlot, hf₁.trans hf₂, hstep₁.write hf₂ (fun _ _ => ?_), ⟨hs, Or.inl ⟨hactive₂, ?_, ?_,
      ?_⟩⟩, fun a _ => hsurplus₂ a, fun a ha => ?_, fun _ => ?_⟩
    · rw [hsnapshot₂', hf₂.lUSDDDebt]
    · exact (hsurplus₂ borrower).trans hsurplus
    · omega
    · omega
    · rw [hwallet₂]
      exact hwallet₁ ha
    · by_contra hne
      have := hfull (lt_of_le_of_ne hle hne)
      omega

theorem sum_drawn {lots : Address → ℕ} (hlot : lots borrower = 0) :
    ∑ a, Function.update lots borrower lot a * decimalPrecision / price =
      ∑ a, lots a * decimalPrecision / price + lot * decimalPrecision / price := by
  have hrest (a : Address) (ha : a ≠ borrower) :
      Function.update lots borrower lot a * decimalPrecision / price =
        lots a * decimalPrecision / price := by
    rw [Function.update_of_ne ha]
  have hsum := UpdateSum.sum_change borrower hrest
  rw [Function.update_self, hlot, Nat.zero_mul, Nat.zero_div, Nat.add_zero] at hsum
  exact hsum

theorem RedemptionTotals.Rightful.round {s₂ : State} {left : ℕ}
    (h : totals.Rightful D price amount s lots)
    (hreg : Registry s.troveManager s.sortedTroves) (hne : D.gasPool ≠ D.stabilityPool)
    (hpos : totals.remainingUSDD ≠ 0)
    (h₁ : applyPendingRewards D totals.state borrower = .ok s₁)
    (h₂ : redeemCollateralFromTrove D s₁ borrower totals.remainingUSDD price r = .ok (s₂, v))
    (hc : v.cancelledPartial = false)
    (hleft : SafeMath.sub totals.remainingUSDD v.usddLot = .ok left) :
    RedemptionTotals.Rightful D price amount s
      { state := s₂
        remainingUSDD := left
        totalUSDDToRedeem := totals.totalUSDDToRedeem + v.usddLot
        totalETHDrawn := totals.totalETHDrawn + v.collLot }
      (Function.update lots borrower v.usddLot) := by
  have hactive := redeemCollateralFromTrove_active ((h.follows 0 0 0).registry hreg) h₁ h₂
  obtain ⟨hlot, hf, hstep, hredeemed, hsurplus, hwallet, hlast⟩ :=
    h.visit hreg hpos hactive h₁ h₂ hc
  obtain ⟨-, hcollLot, -⟩ := redeemCollateralFromTrove_eq_ok h₂
  obtain ⟨hle, rfl⟩ := sub_eq_ok.1 hleft
  refine ⟨fun d c g => ?_, hf.lColl.trans h.lColl, hf.lUSDDDebt.trans h.lUSDDDebt, hstep, fun a => ?_,
    fun a ha hpaid => ?_, ?_, ?_, ?_, fun a ha => (hwallet a ha).trans (h.wallets a ha)⟩
  · have hp₁ := applyPendingRewards_path hactive h₁
    rcases redeemCollateralFromTrove_path hne (applyPendingRewards_active hactive h₁)
      (applyPendingRewards_snapshot hactive h₁) h₂ with ⟨hc', -⟩ | ⟨-, hp⟩
    · rw [hc] at hc'
      cases hc'
    · have hpath := (h.follows d c g).trans ((hp₁ _ _ _).trans (hp _ _ _))
      dsimp only
      push_cast
      rw [← add_assoc, ← add_assoc]
      exact hpath
  · by_cases hab : a = borrower
    · subst hab
      rw [Function.update_self]
      exact Or.inr hredeemed
    · rw [Function.update_of_ne hab]
      exact h.others hf hsurplus hab
  · by_cases hab : a = borrower
    · subst hab
      have hall := hlast ha
      dsimp only
      omega
    · rw [Function.update_of_ne hab] at hpaid
      exact absurd (h.exhausted a ((hf.active_iff hab).1 ha) hpaid) hpos
  · have hsum := UpdateSum.sum_update_nat lots borrower v.usddLot
    rw [hlot, Nat.add_zero] at hsum
    rw [hsum, ← h.redeemed]
  · dsimp only
    rw [sum_drawn hlot, ← h.drawn, hcollLot]
  · have := h.amount
    dsimp only
    omega

/-- A cancelled partial redemption leaves the trove with its current amounts. -/
theorem RedemptionTotals.Rightful.cancel {s₂ : State} (h : totals.Rightful D price amount s lots)
    (hreg : Registry s.troveManager s.sortedTroves) (hpos : totals.remainingUSDD ≠ 0)
    (h₁ : applyPendingRewards D totals.state borrower = .ok s₁)
    (h₂ : redeemCollateralFromTrove D s₁ borrower totals.remainingUSDD price r = .ok (s₂, v))
    (hc : v.cancelledPartial = true) :
    RedemptionTotals.Rightful D price amount s { totals with state := s₂ } lots := by
  have hactive := redeemCollateralFromTrove_active ((h.follows 0 0 0).registry hreg) h₁ h₂
  have hlot : lots borrower = 0 := by
    by_contra hne
    exact hpos (h.exhausted borrower hactive hne)
  obtain ⟨hs, hsurplus, hdebt, hcoll⟩ := h.current hactive hlot
  obtain ⟨hf, hactive₁, hstep, hsurplus₁, hsnapshot, hsnapshot', hcoll₁, hdebt₁⟩ :=
    h.apply hreg hactive h₁
  obtain ⟨hcurrentColl, hcurrentDebt⟩ := current_of_realised hsnapshot hsnapshot'
  obtain ⟨-, -, -, -, -, hfrom⟩ := redeemCollateralFromTrove_eq_ok h₂
  rw [hc] at hfrom
  have hsame : s₂ = s₁ := by
    by_cases hclosed : (s₁.troveManager.troves borrower).debt - v.usddLot = usddGasCompensation
    · cases (redeemFromTrove_closes hclosed hfrom).1
    · obtain ⟨-, -, ⟨-, hsame⟩ | ⟨hc', -⟩⟩ := redeemFromTrove_stays hclosed hactive₁ hfrom
      · exact hsame
      · cases hc'
  rw [hsame]
  refine ⟨fun d c g => (h.follows d c g).trans (applyPendingRewards_path hactive h₁ _ _ _),
    hf.lColl.trans h.lColl, hf.lUSDDDebt.trans h.lUSDDDebt, hstep, fun a => ?_, fun a ha hpaid => ?_,
    h.redeemed, h.drawn, h.amount,
    fun a ha => (applyPendingRewards_wallet ha h₁).trans (h.wallets a ha)⟩
  · by_cases hab : a = borrower
    · subst hab
      refine Or.inr ⟨hs, Or.inl ⟨hactive₁, (hsurplus₁ a).trans hsurplus, ?_, ?_⟩⟩
      · dsimp only
        omega
      · rw [hlot, Nat.zero_mul, Nat.zero_div]
        dsimp only
        omega
    · exact h.others hf (fun a _ => hsurplus₁ a) hab
  · by_cases hab : a = borrower
    · subst hab
      exact h.exhausted a hactive hpaid
    · exact h.exhausted a ((hf.active_iff hab).1 ha) hpaid

theorem redeemLoop_rightful (hreg : Registry s.troveManager s.sortedTroves)
    (hne : D.gasPool ≠ D.stabilityPool) (hstep : s.troveManager.InStep)
    (hl : redeemLoop D price r iterations currentBorrower ⟨s, amount, 0, 0⟩ = .ok totals) :
    ∃ lots, totals.Rightful D price amount s lots := by
  refine redeemLoop_guarded (I := fun totals => ∃ lots, totals.Rightful D price amount s lots) ?_ ?_
    ⟨_, RedemptionTotals.rightful_start hstep D price amount⟩ hl
  · rintro totals s₁ borrower s₂ v left ⟨lots, h⟩ hpos h₁ h₂ hc hleft
    exact ⟨_, h.round hreg hne hpos h₁ h₂ hc hleft⟩
  · rintro totals s₁ borrower s₂ v ⟨lots, h⟩ hpos h₁ h₂ hc
    exact ⟨lots, h.cancel hreg hpos h₁ h₂ hc⟩

end Loop

section Settlement

variable {depositor : Address} {supply : ℕ}

theorem settleRedemption_register :
    Ensures (fun s' => s'.troveManager = s.troveManager ∧ s'.collSurplusPool = s.collSurplusPool)
      (settleRedemption D m s depositor r usdd coll supply) := by
  simp [settleRedemption, ActivePool.sendColl, DEFTStaking.increaseFColl, USDDToken.burn,
    ActivePool.decreaseUSDDDebt, Token.transfer]

theorem Token.transfer_tokens {token sender recipient : Address} {amount : ℕ} (ha : a ≠ sender)
    (h : Token.transfer s token sender recipient amount = .ok s') :
    s'.tokens token a = s.tokens token a + if a = recipient then amount else 0 := by
  obtain ⟨balance, -, h⟩ := bind_eq_ok.1 h
  rw [← pure_eq_ok.1 h]
  dsimp only
  rw [Function.update_self]
  by_cases hrecipient : a = recipient
  · subst hrecipient
    rw [Function.update_self, Function.update_of_ne ha, if_pos rfl]
  · rw [Function.update_of_ne hrecipient, Function.update_of_ne ha, if_neg hrecipient, Nat.add_zero]

theorem ActivePool.sendColl_tokens {sender account token : Address} {amount : ℕ}
    (ha : a ≠ D.activePool) (h : ActivePool.sendColl D sender s account token amount = .ok s') :
    s'.tokens token a = s.tokens token a + if a = account then amount else 0 := by
  obtain ⟨_, -, h⟩ := bind_eq_ok.1 h
  obtain ⟨_, -, h⟩ := bind_eq_ok.1 h
  exact (Token.transfer_tokens ha h :)

theorem ActivePool.sendColl_usddToken {sender account token : Address} {amount : ℕ}
    (h : ActivePool.sendColl D sender s account token amount = .ok s') :
    s'.usddToken = s.usddToken := by
  obtain ⟨_, -, h⟩ := bind_eq_ok.1 h
  obtain ⟨_, -, h⟩ := bind_eq_ok.1 h
  obtain ⟨_, -, h⟩ := bind_eq_ok.1 h
  rw [← pure_eq_ok.1 h]

/-- The redeemer pays for what is drawn, and shares it with the staking contract. -/
theorem settleRedemption_wallets
    (h : settleRedemption D m s depositor r usdd coll supply = .ok s') :
    ∃ fee, fee ≤ coll ∧ fee * decimalPrecision / coll ≤ r.maxFeePercentage ∧
      (∀ a, s'.usddToken.balances a + (if a = depositor then usdd else 0) =
        s.usddToken.balances a) ∧
      ∀ a, a ≠ D.activePool → s'.tokens D.collToken a = s.tokens D.collToken a +
        (if a = D.deftStaking then fee else 0) + if a = m.sender then coll - fee else 0 := by
  obtain ⟨_, -, h⟩ := bind_eq_ok.1 h
  obtain ⟨fees, -, h⟩ := bind_eq_ok.1 h
  obtain ⟨fee, -, h⟩ := bind_eq_ok.1 h
  obtain ⟨_, haccepted, h⟩ := bind_eq_ok.1 h
  obtain ⟨s₁, h₁, h⟩ := bind_eq_ok.1 h
  obtain ⟨s₂, h₂, h⟩ := bind_eq_ok.1 h
  obtain ⟨rest, hrest, h⟩ := bind_eq_ok.1 h
  obtain ⟨s₃, h₃, h⟩ := bind_eq_ok.1 h
  obtain ⟨s₄, h₄, h⟩ := bind_eq_ok.1 h
  obtain ⟨hle, rfl⟩ := sub_eq_ok.1 hrest
  obtain ⟨percentage, hdiv, haccepted⟩ := bind_eq_ok.1 haccepted
  obtain ⟨-, rfl⟩ := div_eq_ok.1 hdiv
  obtain ⟨_, -, h₂⟩ := bind_eq_ok.1 h₂
  obtain ⟨_, -, h₂⟩ := bind_eq_ok.1 h₂
  obtain ⟨_, -, h₃⟩ := bind_eq_ok.1 h₃
  obtain ⟨t, ht, h₃⟩ := bind_eq_ok.1 h₃
  obtain ⟨hpaid, ht⟩ := USDDToken.burnFrom_eq_ok ht
  obtain ⟨_, -, h₄⟩ := bind_eq_ok.1 h₄
  obtain ⟨_, -, h₄⟩ := bind_eq_ok.1 h₄
  refine ⟨fee, hle, require_eq_ok.1 haccepted, fun a => ?_, fun a ha => ?_⟩
  · have hburned : s'.usddToken = t := by
      rw [ActivePool.sendColl_usddToken h, ← pure_eq_ok.1 h₄, ← pure_eq_ok.1 h₃]
    have hkept : s₂.usddToken = s.usddToken := by
      rw [← pure_eq_ok.1 h₂]
      exact (ActivePool.sendColl_usddToken h₁ :)
    rw [hburned, ht]
    simp only [USDDToken.debit, hkept]
    rw [hkept] at hpaid
    by_cases ha : a = depositor
    · subst ha
      rw [Function.update_self, if_pos rfl]
      omega
    · rw [Function.update_of_ne ha, if_neg ha, Nat.add_zero]
  · rw [ActivePool.sendColl_tokens ha h, ← pure_eq_ok.1 h₄, ← pure_eq_ok.1 h₃, ← pure_eq_ok.1 h₂]
    dsimp only
    rw [(ActivePool.sendColl_tokens ha h₁ :)]

end Settlement

end TroveManager

section Runs

/-- The troves pay `lots` of their debt, and the redeemer pays for them. -/
structure Settled (D : Deployment) (m : Message) (depositor : Address) (r : Redemption)
    (s s' : State) (lots : Address → ℕ) (drawn fee : ℕ) : Prop where
  troves : ∀ a, lots a = 0 ∧ Spared D s s' a ∨ Redeemed D m.price s s' a (lots a)
  rewards : s'.troveManager.lColl = s.troveManager.lColl ∧
    s'.troveManager.lUSDDDebt = s.troveManager.lUSDDDebt
  amount : ∑ a, lots a ≤ r.usddAmount
  value : drawn = ∑ a, lots a * decimalPrecision / m.price
  accepted : fee ≤ drawn ∧ fee * decimalPrecision / drawn ≤ r.maxFeePercentage
  usdd : ∀ a, a ∉ D.contracts →
    s'.usddToken.balances a + (if a = depositor then ∑ a, lots a else 0) = s.usddToken.balances a
  coll : ∀ a, a ∉ D.contracts → s'.tokens D.collToken a = s.tokens D.collToken a +
    (if a = D.deftStaking then fee else 0) + if a = m.sender then drawn - fee else 0

theorem Reachable.inStep (hw : D.Wired) (h : Reachable D s)
    (hj : ∀ e ∈ s.journal, e.RaisesCollWithDebt) : s.troveManager.InStep := by
  have hrealised : (s.book D 0 0 0).DebtRealised :=
    (h.reached hw).conditional (initial_debtRealised D)
      (fun _ _ hc hi hj he => hi.event hc.registry hj he) hj
  exact hrealised.inStep

theorem redeemCollateral_settled {depositor : Address} {r : Redemption}
    (hreg : Registry s.troveManager s.sortedTroves) (hne : D.gasPool ≠ D.stabilityPool)
    (hstep : s.troveManager.InStep) (h : redeemCollateral D m s depositor r = .ok s')
    (timestamp : ℕ) : ∃ lots drawn fee,
      Settled D m depositor r s { s' with timestamp := timestamp } lots drawn fee := by
  obtain ⟨_, -, h⟩ := bind_eq_ok.1 h
  obtain ⟨currentBorrower, -, h⟩ := bind_eq_ok.1 h
  obtain ⟨totals, htotals, h⟩ := bind_eq_ok.1 h
  obtain ⟨lots, hr⟩ := redeemLoop_rightful hreg hne hstep htotals
  obtain ⟨htm, hpool⟩ := settleRedemption_register s' h
  obtain ⟨fee, hfee, haccepted, husdd, hcoll⟩ := settleRedemption_wallets h
  have hspared (a : Address) : Spared D totals.state
      { s' with timestamp := timestamp } a := by
    refine Spared.of_records D ?_ a
    simp only [State.records]
    rw [htm, hpool]
  refine ⟨lots, totals.totalETHDrawn, fee, fun a => ?_, ⟨?_, ?_⟩, ?_, hr.drawn,
    ⟨hfee, haccepted⟩, fun a ha => ?_, fun a ha => ?_⟩
  · rcases hr.troves a with ⟨hlot, htrove⟩ | hredeemed
    · exact Or.inl ⟨hlot, htrove.trans (hspared a)⟩
    · exact Or.inr (hredeemed.spared (hspared a) (congrArg TroveManager.lColl htm)
        (congrArg TroveManager.lUSDDDebt htm))
  · exact (congrArg TroveManager.lColl htm).trans hr.lColl
  · exact (congrArg TroveManager.lUSDDDebt htm).trans hr.lUSDDDebt
  · rw [← hr.redeemed, ← hr.amount]
    exact Nat.le_add_left _ _
  · have hwallet := congrArg Prod.fst (hr.wallets a ha)
    rw [← hr.redeemed]
    exact (husdd a).trans hwallet
  · have hwallet := congrFun (congrArg Prod.snd (hr.wallets a ha)) D.collToken
    have hne : a ≠ D.activePool := by
      rintro rfl
      exact ha (by simp [Deployment.contracts])
    refine (hcoll a hne).trans ?_
    simp only [State.wallet] at hwallet
    rw [hwallet]

/-- What a redemption takes from whom. -/
theorem redemption_takes_only (hw : D.Wired) (h : Reachable D s)
    (hj : ∀ e ∈ s.journal, e.RaisesCollWithDebt) {depositor : Address} {r : Redemption}
    (hs : step D s ⟨m, .redeemCollateral depositor r⟩ = .ok s') :
    ∃ lots drawn fee, Settled D m depositor r s s' lots drawn fee := by
  obtain ⟨s₁, h₁, hs⟩ := bind_eq_ok.1 hs
  cases pure_eq_ok.1 hs
  exact redeemCollateral_settled (h.consistent hw).registry hw.gasPool_ne (h.inStep hw hj) h₁ _

/-- The first account redeems from both troves, of which the second one is closed. -/
theorem sampleFullRedemption : ∃ s, sampleRun
      [sampleOpen 1 (100 * decimalPrecision) (3000 * decimalPrecision) (200 * decimalPrecision),
        sampleOpen 2 (50 * decimalPrecision) (2000 * decimalPrecision) (200 * decimalPrecision)] =
      .ok s ∧ (∀ e ∈ s.journal, e.RaisesCollWithDebt) ∧ s.troveManager.Active 2 ∧
    ∃ hints, getRedemptionHints s (200 * decimalPrecision) (2500 * decimalPrecision) 5 = .ok hints ∧
      Allowed sampleDeployment s ⟨⟨1, 200 * decimalPrecision, 10 ^ 7⟩, .redeemCollateral 1
        ⟨hints.truncatedUSDDamount, hints.firstRedemptionHint, 0, 0, hints.partialRedemptionHintNICR,
          5, decimalPrecision⟩⟩ ∧
      ∃ s', step sampleDeployment s ⟨⟨1, 200 * decimalPrecision, 10 ^ 7⟩, .redeemCollateral 1
          ⟨hints.truncatedUSDDamount, hints.firstRedemptionHint, 0, 0,
            hints.partialRedemptionHintNICR, 5, decimalPrecision⟩⟩ = .ok s' ∧
        (s'.troveManager.troves 2).status = .closedByRedemption ∧
        s'.troveManager.Active 1 ∧ (∀ e ∈ s'.journal, e.RaisesCollWithDebt) ∧
        0 < s'.surplus sampleDeployment 2 := by
  decide +kernel

theorem redemption_takes_only_of_sample : ∃ s m r s' lots drawn fee,
    Reachable sampleDeployment s ∧
    step sampleDeployment s ⟨m, .redeemCollateral 1 r⟩ = .ok s' ∧
    Settled sampleDeployment m 1 r s s' lots drawn fee ∧
    Redeemed sampleDeployment m.price s s' 2 (lots 2) := by
  obtain ⟨s, hs, hj, hactive, hints, -, -, s', hs', hclosed, -⟩ := sampleFullRedemption
  have hreach := reachable_sampleRun hs
  obtain ⟨lots, drawn, fee, hsettled⟩ :=
    redemption_takes_only sampleDeployment_wired hreach hj hs'
  refine ⟨s, _, _, s', lots, drawn, fee, hreach, hs', hsettled, ?_⟩
  rcases hsettled.troves 2 with ⟨-, hspared⟩ | hredeemed
  · have hstatus : (s.troveManager.troves 2).status = .active := hactive
    rw [hspared.status, hstatus] at hclosed
    cases hclosed
  · exact hredeemed

end Runs

end Usdd

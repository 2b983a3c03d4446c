import Usdd.FeeRuns
import Usdd.RecoveryGuards
import Usdd.RedemptionRights

/-!
# Recycled gains

The scripts of BorrowerWrappersScript, run by a proxy: claimed collateral goes into the trove of the
proxy, the USDD that it pays for is drawn and deposited, and claimed DEFT is staked. The drawn USDD
is rounded down at every division, so that its debt and its fee cost the trove no ratio.
-/

open Transaction

namespace Usdd

open TroveManager BorrowerOperations

/-- The calls of DEFTStaking that the scripts make for the sender of the message. -/
structure StakingCalls where
  stake : Message → State → ℕ → Tx State
  unstake : Message → State → ℕ → Tx State

/-- Staking moves tokens and leaves the troves alone. -/
structure StakingCalls.LeavesTroves (calls : StakingCalls) : Prop where
  stake : ∀ m s amount, Ensures (fun s' => s'.register = s.register) (calls.stake m s amount)
  unstake : ∀ m s amount, Ensures (fun s' => s'.register = s.register) (calls.unstake m s amount)

namespace BorrowerWrappers

section Scripts

variable (D : Deployment) (calls : StakingCalls) (m : Message)

def requireUserHasTrove (s : State) (depositor : Address) : Tx Unit :=
  require ((s.troveManager.troves depositor).status = .active)
    "BorrowerWrappersScript: caller must have an active trove"

def getNetUSDDAmount (s : State) (collateral : ℕ) : Tx ℕ := do
  let icr ← getCurrentICR s.troveManager m.sender m.price
  let usddAmount ← SafeMath.div (collateral * m.price) icr
  let borrowingRate ← getBorrowingRateWithDecay m s.fees
  SafeMath.div (usddAmount * decimalPrecision) (decimalPrecision + borrowingRate)

/-- The part that both recycling scripts share: tops up the trove and returns the USDD it draws. -/
def recycleCollateral (s : State) (collateral maxFee : ℕ) (upperHint lowerHint : Address) :
    Tx (State × ℕ) :=
  if collateral > 0 then do
    requireUserHasTrove s m.sender
    let usddAmount ← getNetUSDDAmount m s collateral
    let s ← adjustTrove D m s m.sender
      ⟨collateral, 0, usddAmount, true, upperHint, lowerHint, maxFee⟩
    pure (s, usddAmount)
  else pure (s, 0)

def stakeClaimedDEFT (s : State) (deftBefore deftAfter : ℕ) : Tx State := do
  let claimedDEFT ← SafeMath.sub deftAfter deftBefore
  if claimedDEFT > 0 then calls.stake m s claimedDEFT else pure s

def provideRecycled (s : State) (usddAmount : ℕ) : Tx State :=
  if usddAmount > 0 then StabilityPool.provideToSP D m s m.sender usddAmount 0 else pure s

def claimSPRewardsAndRecycle (s : State) (maxFee : ℕ) (upperHint lowerHint : Address) :
    Tx State := do
  let claimed ← StabilityPool.withdrawFromSP D m s m.sender 0
  let claimedCollateral ←
    SafeMath.sub (claimed.tokens D.collToken m.sender) (s.tokens D.collToken m.sender)
  let recycled ← recycleCollateral D m claimed claimedCollateral maxFee upperHint lowerHint
  let provided ← provideRecycled D m recycled.1 recycled.2
  stakeClaimedDEFT calls m provided (s.deft m.sender) (claimed.deft m.sender)

/-- Providing to the Stability Pool pays DEFT too, which is staked. -/
def claimStakingGainsAndRecycle (s : State) (maxFee : ℕ) (upperHint lowerHint : Address) :
    Tx State := do
  let claimed ← calls.unstake m s 0
  let gainedCollateral ←
    SafeMath.sub (claimed.tokens D.collToken m.sender) (s.tokens D.collToken m.sender)
  let gainedUSDD ←
    SafeMath.sub (claimed.usddToken.balances m.sender) (s.usddToken.balances m.sender)
  let recycled ← recycleCollateral D m claimed gainedCollateral maxFee upperHint lowerHint
  let totalUSDD := gainedUSDD + recycled.2
  if totalUSDD > 0 then do
    let provided ← StabilityPool.provideToSP D m recycled.1 m.sender totalUSDD 0
    stakeClaimedDEFT calls m provided (s.deft m.sender) (provided.deft m.sender)
  else pure recycled.1

end Scripts

section Ratio

variable {coll debt price claimed icr drawn rate fee : ℕ}

/-- The debt that recycled collateral pays for, the fee included. -/
theorem net_add_fee_le (drawn rate : ℕ) :
    drawn * decimalPrecision / (decimalPrecision + rate) +
      calcBorrowingFee rate (drawn * decimalPrecision / (decimalPrecision + rate)) ≤ drawn := by
  have hunit : 0 < decimalPrecision := by decide
  have hnet := Nat.div_mul_le_self (drawn * decimalPrecision) (decimalPrecision + rate)
  generalize drawn * decimalPrecision / (decimalPrecision + rate) = net at *
  unfold calcBorrowingFee
  calc
    net + rate * net / decimalPrecision = (rate * net + net * decimalPrecision) / decimalPrecision := by
      rw [Nat.add_mul_div_right _ _ hunit, Nat.add_comm]
    _ ≤ drawn * decimalPrecision / decimalPrecision := by
      apply Nat.div_le_div_right
      calc
        rate * net + net * decimalPrecision = net * (decimalPrecision + rate) := by ring
        _ ≤ drawn * decimalPrecision := hnet
    _ = drawn := Nat.mul_div_cancel _ hunit

/-- Debt within what the added collateral pays for at the ratio of the trove leaves that ratio. -/
theorem computeCR_le_of_paid (hd : 0 < debt)
    (hle : drawn ≤ claimed * price / LiquityMath.computeCR coll debt price) :
    LiquityMath.computeCR coll debt price ≤
      LiquityMath.computeCR (coll + claimed) (debt + drawn) price := by
  rw [computeCR_add_iff hd]
  calc
    LiquityMath.computeCR coll debt price * drawn
      ≤ LiquityMath.computeCR coll debt price *
          (claimed * price / LiquityMath.computeCR coll debt price) := Nat.mul_le_mul_left _ hle
    _ ≤ claimed * price := Nat.mul_div_le _ _
    _ ≤ claimed * price + coll * price % debt := Nat.le_add_right _ _

end Ratio

section Recycle

variable {D : Deployment} {calls : StakingCalls} {m : Message} {s s₁ s' : State}
  {collateral maxFee usddAmount price fee rate : ℕ} {account upperHint lowerHint : Address}

/-- The ratio of the trove at `price` is at least what it was. -/
def KeepsRatio (price : ℕ) (account : Address) (s s' : State) : Prop :=
  ∀ icr, getCurrentICR s.troveManager account price = .ok icr →
    ∃ icr', getCurrentICR s'.troveManager account price = .ok icr' ∧ icr ≤ icr'

theorem KeepsRatio.of_register (h : s'.register = s.register) (price : ℕ) (account : Address) :
    KeepsRatio price account s s' := by
  intro icr hicr
  have htm : s'.troveManager = s.troveManager := congrArg Prod.fst h
  rw [← htm] at hicr
  exact ⟨icr, hicr, le_rfl⟩

theorem KeepsRatio.trans (h : KeepsRatio price account s s₁) (h' : KeepsRatio price account s₁ s') :
    KeepsRatio price account s s' := by
  intro icr hicr
  obtain ⟨icr₁, hicr₁, hle⟩ := h icr hicr
  obtain ⟨icr', hicr', hle'⟩ := h' icr₁ hicr₁
  exact ⟨icr', hicr', hle.trans hle'⟩

/-- The contract charges the rate that the script expects, or none in Recovery Mode. -/
theorem chargeBorrowingFee_le {charged : Bool}
    (hrate : getBorrowingRateWithDecay m s.fees = .ok rate)
    (h : chargeBorrowingFee D m s charged usddAmount maxFee = .ok (s', fee)) :
    fee ≤ calcBorrowingFee rate usddAmount := by
  cases charged with
  | false =>
      cases pure_eq_ok.1 h
      exact Nat.zero_le _
  | true =>
      obtain ⟨fees, hfees, h⟩ := bind_eq_ok.1 h
      obtain ⟨_, -, h⟩ := bind_eq_ok.1 h
      obtain ⟨_, -, h⟩ := bind_eq_ok.1 h
      obtain ⟨_, -, h⟩ := bind_eq_ok.1 h
      obtain ⟨decayed, hdecayed, rfl⟩ := decayBaseRateFromBorrowing_eq_ok hfees
      obtain ⟨decayed', hdecayed', hrate⟩ := bind_eq_ok.1 hrate
      rw [hdecayed] at hdecayed'
      cases hdecayed'
      cases pure_eq_ok.1 hrate
      cases pure_eq_ok.1 h
      exact le_rfl

theorem recycleCollateral_keepsRatio (hgas : m.sender ≠ D.gasPool)
    (hreg : Registry s.troveManager s.sortedTroves) (hin : s.troveManager.InStep)
    (h : recycleCollateral D m s collateral maxFee upperHint lowerHint = .ok (s', usddAmount)) :
    KeepsRatio m.price m.sender s s' := by
  rcases ite_eq_ok.1 h with ⟨hpos, h⟩ | ⟨-, h⟩
  · obtain ⟨_, hactive, h⟩ := bind_eq_ok.1 h
    obtain ⟨net, hnet, h⟩ := bind_eq_ok.1 h
    obtain ⟨s₁, hadjust, h⟩ := bind_eq_ok.1 h
    cases pure_eq_ok.1 h
    have hactive : s.troveManager.Active m.sender := require_eq_ok.1 hactive
    obtain ⟨icr, hicr, hnet⟩ := bind_eq_ok.1 hnet
    obtain ⟨drawn, hdrawn, hnet⟩ := bind_eq_ok.1 hnet
    obtain ⟨rate, hrate, hnet⟩ := bind_eq_ok.1 hnet
    obtain ⟨-, rfl⟩ := div_eq_ok.1 hdrawn
    obtain ⟨-, rfl⟩ := div_eq_ok.1 hnet
    have hicr' := getCurrentICR_of_mem hreg ((hreg.mem_list _).2 hactive) m.price
    rw [hicr] at hicr'
    cases hicr'
    obtain ⟨s₂, s₃, fee, newICR, h₂, h₃, -, hnew, hleft⟩ := adjustTrove_predicts hgas hreg hin hadjust
    obtain ⟨-, -, hcoll, hdebt⟩ := applyPendingRewards_current hreg (hin _ hactive) hactive h₂
    have hfee : fee ≤ calcBorrowingFee rate _ :=
      chargeBorrowingFee_le ((applyPendingRewards_fees s₂ h₂).symm ▸ hrate) h₃
    have htm := (chargeBorrowingFee_frame h₃).2
    have hchange : getCollChange collateral 0 = (collateral, true) := if_pos hpos.ne'
    dsimp only at hnew
    rw [hchange, htm, hcoll, hdebt] at hnew
    have hratio := getNewICRFromTroveChange_eq_ok hnew rfl rfl
    intro icr hicr'
    rw [hicr] at hicr'
    cases hicr'
    refine ⟨newICR, hleft, ?_⟩
    rw [hratio]
    apply computeCR_le_of_paid (hreg.currentDebt_pos hactive)
    exact (Nat.add_le_add_left hfee _).trans (net_add_fee_le _ _)
  · cases pure_eq_ok.1 h
    exact KeepsRatio.of_register rfl _ _

theorem stakeClaimedDEFT_register {deftBefore deftAfter : ℕ} (hcalls : calls.LeavesTroves)
    (h : stakeClaimedDEFT calls m s deftBefore deftAfter = .ok s') : s'.register = s.register := by
  obtain ⟨_, -, h⟩ := bind_eq_ok.1 h
  rcases ite_eq_ok.1 h with ⟨-, h⟩ | ⟨-, h⟩
  · exact hcalls.stake _ _ _ s' h
  · rw [← pure_eq_ok.1 h]

theorem provideRecycled_register (h : provideRecycled D m s usddAmount = .ok s') :
    s'.register = s.register := by
  rcases ite_eq_ok.1 h with ⟨-, h⟩ | ⟨-, h⟩
  · exact StabilityPool.provideToSP_register h
  · rw [← pure_eq_ok.1 h]

/-- The part of a script between the claim and the stake. -/
theorem recycle_keepsRatio (hgas : m.sender ≠ D.gasPool)
    (hreg : Registry s.troveManager s.sortedTroves) (hin : s.troveManager.InStep)
    (hclaim : s₁.register = s.register)
    (h : recycleCollateral D m s₁ collateral maxFee upperHint lowerHint = .ok (s', usddAmount)) :
    KeepsRatio m.price m.sender s s' := by
  obtain ⟨htm, hlist⟩ := Prod.mk.inj hclaim
  apply (KeepsRatio.of_register hclaim _ _).trans
  apply recycleCollateral_keepsRatio hgas _ _ h
  · rw [htm, hlist]
    exact hreg
  · rw [htm]
    exact hin

/-- Recycled gains never lower the ratio of the proxy's trove. -/
theorem recycling_keeps_ratio (hw : D.Wired) (h : Reachable D s)
    (hj : ∀ e ∈ s.journal, e.RaisesCollWithDebt) (hsender : m.sender ∉ D.contracts)
    (hcalls : calls.LeavesTroves)
    (hs : claimSPRewardsAndRecycle D calls m s maxFee upperHint lowerHint = .ok s' ∨
      claimStakingGainsAndRecycle D calls m s maxFee upperHint lowerHint = .ok s') :
    KeepsRatio m.price m.sender s s' := by
  have hreg := (h.consistent hw).registry
  have hin := h.inStep hw hj
  have hgas : m.sender ≠ D.gasPool := by
    rintro heq
    apply hsender
    simp [heq, Deployment.contracts]
  rcases hs with hs | hs
  · obtain ⟨s₁, hclaim, hs⟩ := bind_eq_ok.1 hs
    obtain ⟨_, -, hs⟩ := bind_eq_ok.1 hs
    obtain ⟨⟨s₂, usddAmount⟩, hrecycle, hs⟩ := bind_eq_ok.1 hs
    obtain ⟨s₃, hprovide, hs⟩ := bind_eq_ok.1 hs
    have hrest := (stakeClaimedDEFT_register hcalls hs).trans (provideRecycled_register hprovide)
    exact (recycle_keepsRatio hgas hreg hin (StabilityPool.withdrawFromSP_register hclaim)
      hrecycle).trans (KeepsRatio.of_register hrest _ _)
  · obtain ⟨s₁, hclaim, hs⟩ := bind_eq_ok.1 hs
    obtain ⟨_, -, hs⟩ := bind_eq_ok.1 hs
    obtain ⟨_, -, hs⟩ := bind_eq_ok.1 hs
    obtain ⟨⟨s₂, usddAmount⟩, hrecycle, hs⟩ := bind_eq_ok.1 hs
    have hkeeps := recycle_keepsRatio hgas hreg hin (hcalls.unstake _ _ _ s₁ hclaim) hrecycle
    rcases ite_eq_ok.1 hs with ⟨-, hs⟩ | ⟨-, hs⟩
    · obtain ⟨s₃, hprovide, hs⟩ := bind_eq_ok.1 hs
      have hrest := (stakeClaimedDEFT_register hcalls hs).trans
        (StabilityPool.provideToSP_register hprovide)
      exact hkeeps.trans (KeepsRatio.of_register hrest _ _)
    · rw [← pure_eq_ok.1 hs]
      exact hkeeps

/-- The calls of a first staker, which has no gains, and of an account without a stake. -/
def sampleStaking : StakingCalls where
  stake m s amount := pure { s with
    deft := Function.update (Function.update s.deft m.sender (s.deft m.sender - amount))
      sampleDeployment.deftStaking (s.deft sampleDeployment.deftStaking + amount)
    deftStaking.totalDEFTStaked := s.deftStaking.totalDEFTStaked + amount }
  unstake _ _ _ := throw (.message "DEFTStaking: User must have a non-zero stake")

end Recycle

end BorrowerWrappers

end Usdd

import Usdd.Lib.Runs
import Usdd.Redemption

/-!
# The protocol as a transition system

`Call` lists what an account outside the protocol can call in one market, `step` performs a call,
and `initial` is the state right after deployment and wiring. Functions that only a contract of the
market may call are reached through these.
-/

open Transaction

namespace Usdd

inductive Call
  | openTrove (onBehalfOf : Address) (maxFeePercentage collAmount usddAmount : ℕ)
      (upperHint lowerHint : Address)
  | addColl (collAmount : ℕ) (upperHint lowerHint : Address)
  | withdrawColl (collWithdrawal : ℕ) (upperHint lowerHint : Address)
  | withdrawUSDD (maxFeePercentage usddAmount : ℕ) (upperHint lowerHint : Address)
  | repayUSDD (usddAmount : ℕ) (upperHint lowerHint : Address)
  | adjustTrove (onBehalfOf : Address) (adjustment : BorrowerOperations.Adjustment)
  | closeTrove (onBehalfOf : Address)
  | claimCollateral (onBehalfOf : Address)
  | liquidate (liquidator borrower : Address)
  | liquidateTroves (liquidator : Address) (n : ℕ)
  | batchLiquidateTroves (liquidator : Address) (troveArray : List Address)
  | redeemCollateral (depositor : Address) (redemption : TroveManager.Redemption)
  | provideToSP (depositor : Address) (amount : ℕ) (frontEndTag : Address)
  | withdrawFromSP (depositor : Address) (amount : ℕ)
  | withdrawCollGainToTrove (upperHint lowerHint : Address)
  | registerFrontEnd (kickbackRate : ℕ)
  | transfer (recipient : Address) (amount : ℕ)
  | transferFrom (sender recipient : Address) (amount : ℕ)
  | approve (spender : Address) (amount : ℕ)
  | increaseAllowance (spender : Address) (addedValue : ℕ)
  | decreaseAllowance (spender : Address) (subtractedValue : ℕ)
  | permit (signer owner spender : Address) (amount deadline : ℕ)
  | transferCollateral (token recipient : Address) (amount : ℕ)

/-- The account for which the caller acts. -/
def Call.account (sender : Address) : Call → Address
  | .adjustTrove onBehalfOf _ => onBehalfOf
  | .closeTrove onBehalfOf => onBehalfOf
  | .claimCollateral onBehalfOf => onBehalfOf
  | .liquidate liquidator _ => liquidator
  | .liquidateTroves liquidator _ => liquidator
  | .batchLiquidateTroves liquidator _ => liquidator
  | .redeemCollateral depositor _ => depositor
  | .provideToSP depositor _ _ => depositor
  | .withdrawFromSP depositor _ => depositor
  | .permit signer _ _ _ _ => signer
  | _ => sender

section Steps

variable (D : Deployment)

def perform (m : Message) (s : State) : Call → Tx State
  | .openTrove onBehalfOf maxFeePercentage collAmount usddAmount upperHint lowerHint =>
      BorrowerOperations.openTrove D m s onBehalfOf maxFeePercentage collAmount usddAmount
        upperHint lowerHint
  | .addColl collAmount upperHint lowerHint =>
      BorrowerOperations.addColl D m s collAmount upperHint lowerHint
  | .withdrawColl collWithdrawal upperHint lowerHint =>
      BorrowerOperations.withdrawColl D m s collWithdrawal upperHint lowerHint
  | .withdrawUSDD maxFeePercentage usddAmount upperHint lowerHint =>
      BorrowerOperations.withdrawUSDDFromTrove D m s maxFeePercentage usddAmount upperHint
        lowerHint
  | .repayUSDD usddAmount upperHint lowerHint =>
      BorrowerOperations.repayUSDDToTrove D m s usddAmount upperHint lowerHint
  | .adjustTrove onBehalfOf adjustment => BorrowerOperations.adjustTrove D m s onBehalfOf adjustment
  | .closeTrove onBehalfOf => BorrowerOperations.closeTrove D m s onBehalfOf
  | .claimCollateral onBehalfOf => BorrowerOperations.claimCollateral D m s onBehalfOf
  | .liquidate liquidator borrower => TroveManager.liquidate D m s liquidator borrower
  | .liquidateTroves liquidator n => TroveManager.liquidateTroves D m s liquidator n
  | .batchLiquidateTroves liquidator troveArray =>
      TroveManager.batchLiquidateTroves D m s liquidator troveArray
  | .redeemCollateral depositor redemption =>
      TroveManager.redeemCollateral D m s depositor redemption
  | .provideToSP depositor amount frontEndTag =>
      StabilityPool.provideToSP D m s depositor amount frontEndTag
  | .withdrawFromSP depositor amount => StabilityPool.withdrawFromSP D m s depositor amount
  | .withdrawCollGainToTrove upperHint lowerHint =>
      StabilityPool.withdrawCollGainToTrove D m s upperHint lowerHint
  | .registerFrontEnd kickbackRate => StabilityPool.registerFrontEnd m s kickbackRate
  | .transfer recipient amount => USDDToken.transfer D m s recipient amount
  | .transferFrom sender recipient amount => USDDToken.transferFrom D m s sender recipient amount
  | .approve spender amount => USDDToken.approve m s spender amount
  | .increaseAllowance spender addedValue => USDDToken.increaseAllowance m s spender addedValue
  | .decreaseAllowance spender subtractedValue =>
      USDDToken.decreaseAllowance m s spender subtractedValue
  | .permit signer owner spender amount deadline =>
      USDDToken.permit m s signer owner spender amount deadline
  | .transferCollateral token recipient amount =>
      Token.transfer s token m.sender recipient amount

structure Transact where
  message : Message
  call : Call

def step (s : State) (t : Transact) : Tx State := do
  let s ← perform D t.message s t.call
  pure { s with timestamp := t.message.timestamp }

/-- The calls that can occur. The caller is not null and not one of the fund-holding contracts, and
neither is the account for which it acts or which signs. The price is positive and time does not
go back. -/
structure Allowed (s : State) (t : Transact) : Prop where
  sender : t.message.sender ≠ 0 ∧ t.message.sender ∉ D.contracts
  account : t.call.account t.message.sender ≠ 0 ∧ t.call.account t.message.sender ∉ D.contracts
  price : 0 < t.message.price
  timestamp : s.timestamp ≤ t.message.timestamp

instance : DecidableRel (Allowed D) := fun s t =>
  decidable_of_iff ((t.message.sender ≠ 0 ∧ t.message.sender ∉ D.contracts) ∧
      (t.call.account t.message.sender ≠ 0 ∧ t.call.account t.message.sender ∉ D.contracts) ∧
      0 < t.message.price ∧ s.timestamp ≤ t.message.timestamp)
    ⟨fun ⟨h₁, h₂, h₃, h₄⟩ => ⟨h₁, h₂, h₃, h₄⟩, fun ⟨h₁, h₂, h₃, h₄⟩ => ⟨h₁, h₂, h₃, h₄⟩⟩

end Steps

/-- What is free at deployment: the collateral and the DEFT that accounts hold, the issuance cap
and the times at which the issuance started and the TroveManager was deployed. -/
structure Genesis where
  tokens : Address → Address → ℕ
  deft : Address → ℕ
  deftSupplyCap : ℕ
  startTime : ℕ
  deploymentStartTime : ℕ
  timestamp : ℕ

def initial (g : Genesis) : State where
  troveManager :=
    { troves := fun _ => ⟨0, 0, 0, .nonExistent, 0⟩
      totalStakes := 0
      totalStakesSnapshot := 0
      totalCollateralSnapshot := 0
      lColl := 0
      lUSDDDebt := 0
      rewardSnapshots := fun _ => ⟨0, 0⟩
      troveOwners := []
      lastETHErrorRedistribution := 0
      lastUSDDDebtErrorRedistribution := 0 }
  fees := ⟨0, 0, g.deploymentStartTime⟩
  sortedTroves := .initial (2 ^ 256 - 1)
  activePool := ⟨fun _ => 0, 0⟩
  defaultPool := ⟨fun _ => 0, 0⟩
  collSurplusPool := ⟨fun _ => 0, fun _ _ => 0⟩
  stabilityPool :=
    { coll := 0
      totalUSDDDeposits := 0
      deposits := fun _ => ⟨0, 0⟩
      depositSnapshots := fun _ => ⟨0, 0, 0, 0, 0⟩
      frontEnds := fun _ => ⟨0, false⟩
      frontEndStakes := fun _ => 0
      frontEndSnapshots := fun _ => ⟨0, 0, 0, 0, 0⟩
      P := decimalPrecision
      currentScale := 0
      currentEpoch := 0
      epochToScaleToSum := fun _ _ => 0
      epochToScaleToG := fun _ _ => 0
      lastDEFTError := 0
      lastCollErrorOffset := 0
      lastUSDDLossErrorOffset := 0 }
  communityIssuance := ⟨g.deftSupplyCap, 0, g.startTime⟩
  deftStaking := ⟨0, fun _ => 0, 0⟩
  usddToken := ⟨0, fun _ => 0, fun _ _ => 0, fun _ => 0, by simp⟩
  tokens := g.tokens
  deft := g.deft
  timestamp := g.timestamp
  journal := []

def Initial (s : State) : Prop := ∃ g, s = initial g

/-- The states in which a run of allowed calls can end. -/
def Reachable (D : Deployment) : State → Prop :=
  Transaction.Reachable (step D) Initial (Allowed D)

section Sample

/-- The contracts at addresses 101 to 112. -/
def sampleDeployment : Deployment :=
  ⟨101, 102, 103, 104, 105, 106, 107, 108, 109, 110, 111, 112⟩

theorem sampleDeployment_wired : sampleDeployment.Wired :=
  ⟨by decide +kernel, by decide +kernel⟩

/-- Everyone has enough collateral and DEFT. -/
def sampleGenesis : Genesis := ⟨fun _ _ => 10 ^ 60, fun _ => 10 ^ 30, 10 ^ 25, 1, 0, 1⟩

def Call.sent (call : Call) (sender : Address) (price : ℕ) : Transact := ⟨⟨sender, price, 2⟩, call⟩

/-- Opens a trove without hints. -/
def sampleOpen (borrower : Address) (coll usdd price : ℕ) : Transact :=
  (Call.openTrove borrower decimalPrecision coll usdd 0 0).sent borrower price

def sampleRun (calls : List Transact) : Tx State :=
  run (checked (step sampleDeployment) (Allowed sampleDeployment)) (initial sampleGenesis) calls

theorem reachable_sampleRun {calls : List Transact} {s : State}
    (h : sampleRun calls = .ok s) : Reachable sampleDeployment s :=
  Transaction.Reachable.run_checked (.start ⟨sampleGenesis, rfl⟩) h

end Sample

end Usdd

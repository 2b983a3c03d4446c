import Usdd.Lib.RewardAccumulator
import Usdd.Lib.Runs
import Usdd.USDDToken
import Usdd.Pools

/-!
# Staking of DEFT

The whole of DEFTStaking, with the balances of the tokens that it holds. A staker earns a part of
every collateral fee and of every borrowing fee. The gains are read and the snapshots taken for all
configured tokens whenever a stake is touched, and paid at the end.
-/

open Transaction

namespace Usdd.Staking

/-- What `setAddresses` configures, the contracts of the market that the USDD token knows, and the
collateral token of each TroveManager. -/
structure Wiring where
  market : Deployment
  deftToken : Address
  collTokens : List Address
  authorizedTroveManagers : Address → Bool
  authorizedBorrowerOperations : Address → Bool
  collTokenOf : Address → Address

abbrev Wiring.deftStaking (W : Wiring) : Address := W.market.deftStaking

abbrev Wiring.usddToken (W : Wiring) : Address := W.market.usddToken

/-- The balances of every token belong to the state. Of the allowances for DEFT only those matter
that the stakers give the contract. -/
structure Data where
  staking : DEFTStaking
  stakes : Address → ℕ
  fCollSnapshots : Address → Address → ℕ
  fUSDDSnapshots : Address → ℕ
  tokens : Address → Address → ℕ
  deftAllowances : Address → ℕ

section Tokens

variable (W : Wiring)

def transfer (s : Data) (token sender recipient : Address) (amount : ℕ) : Tx Data := do
  let balance ← SafeMath.sub (s.tokens token sender) amount
    "ERC20: transfer amount exceeds balance"
  let balances := Function.update (s.tokens token) sender balance
  pure { s with
    tokens := Function.update s.tokens token
      (Function.update balances recipient (balances recipient + amount)) }

def mint (s : Data) (token account : Address) (amount : ℕ) : Data :=
  { s with
    tokens := Function.update s.tokens token
      (Function.update (s.tokens token) account (s.tokens token account + amount)) }

/-- `transferFrom` of the DEFT token, called by the contract for itself. -/
def transferDEFTFrom (s : Data) (staker : Address) (amount : ℕ) : Tx Data := do
  let s ← transfer s W.deftToken staker W.deftStaking amount
  let allowance ← SafeMath.sub (s.deftAllowances staker) amount
    "ERC20: transfer amount exceeds allowance"
  pure { s with deftAllowances := Function.update s.deftAllowances staker allowance }

def transferUSDD (s : Data) (recipient : Address) (amount : ℕ) : Tx Data := do
  USDDToken.requireValidRecipient W.market recipient
  transfer s W.usddToken W.deftStaking recipient amount

end Tokens

section Gains

variable (W : Wiring)

def getPendingCollGain (s : Data) (user collToken : Address) : Tx ℕ := do
  let rise ← SafeMath.sub (s.staking.fColls collToken) (s.fCollSnapshots user collToken)
  pure (s.stakes user * rise / decimalPrecision)

def getPendingUSDDGain (s : Data) (user : Address) : Tx ℕ := do
  let rise ← SafeMath.sub s.staking.fUSDD (s.fUSDDSnapshots user)
  pure (s.stakes user * rise / decimalPrecision)

def updateUserSnapshots (s : Data) (user collToken : Address) : Data :=
  { s with
    fCollSnapshots := Function.update s.fCollSnapshots user
      (Function.update (s.fCollSnapshots user) collToken (s.staking.fColls collToken))
    fUSDDSnapshots := Function.update s.fUSDDSnapshots user s.staking.fUSDD }

/-- The first loop of `stake` and `unstake`. Returns the gains in the order of the tokens. -/
def takeCollGains (staker : Address) : List Address → Data → Tx (Data × List ℕ)
  | [], s => pure (s, [])
  | collToken :: collTokens, s => do
      let gain ← getPendingCollGain s staker collToken
      let rest ← takeCollGains staker collTokens (updateUserSnapshots s staker collToken)
      pure (rest.1, gain :: rest.2)

/-- The last loop of both functions, over the tokens and their gains. -/
def sendCollGains (user : Address) : List (Address × ℕ) → Data → Tx Data
  | [], s => pure s
  | (collToken, collGain) :: gains, s => do
      let s ← transfer s collToken W.deftStaking user collGain
      sendCollGains user gains s

end Gains

section Functions

variable (W : Wiring)

def requireCallerIsStakerOrGw (sender staker : Address) : Tx Unit :=
  require (sender = staker ∨ sender = W.market.wETHGateway)
    "DEFTStaking: Caller must be the staker or gateway"

def requireCallerIsTroveManager (sender collToken : Address) : Tx Unit := do
  require (W.authorizedTroveManagers sender = true) "DEFTStaking: caller is not TroveM"
  require (W.collTokenOf sender = collToken) "DEFTStaking: TroveM coll token mismatch"

def requireCallerIsBorrowerOperations (sender : Address) : Tx Unit :=
  require (W.authorizedBorrowerOperations sender = true) "DEFTStaking: caller is not BorrowerOps"

def requireUserHasStake (currentStake : ℕ) : Tx Unit :=
  require (currentStake > 0) "DEFTStaking: User must have a non-zero stake"

def requireNonZeroAmount (amount : ℕ) : Tx Unit :=
  require (amount > 0) "DEFTStaking: Amount must be non-zero"

def stake (s : Data) (sender staker : Address) (deftAmount : ℕ) : Tx Data := do
  requireCallerIsStakerOrGw W sender staker
  requireNonZeroAmount deftAmount
  let currentStake := s.stakes staker
  let usddGain ← getPendingUSDDGain s staker
  let gains ← takeCollGains staker W.collTokens s
  let s := gains.1
  let s := { s with
    stakes := Function.update s.stakes staker (currentStake + deftAmount)
    staking.totalDEFTStaked := s.staking.totalDEFTStaked + deftAmount }
  let s ← transferDEFTFrom W s staker deftAmount
  let s ← transferUSDD W s staker usddGain
  sendCollGains W sender (W.collTokens.zip gains.2) s

/-- The part of `unstake` that takes DEFT out of the stake. -/
def withdrawDEFT (s : Data) (staker : Address) (currentStake deftAmount : ℕ) : Tx Data :=
  if deftAmount > 0 then do
    let deftToWithdraw := min deftAmount currentStake
    let newStake ← SafeMath.sub currentStake deftToWithdraw
    let totalDEFTStaked ← SafeMath.sub s.staking.totalDEFTStaked deftToWithdraw
    let s := { s with
      stakes := Function.update s.stakes staker newStake
      staking.totalDEFTStaked := totalDEFTStaked }
    transfer s W.deftToken W.deftStaking staker deftToWithdraw
  else pure s

def unstake (s : Data) (sender staker : Address) (deftAmount : ℕ) : Tx Data := do
  requireCallerIsStakerOrGw W sender staker
  let currentStake := s.stakes staker
  requireUserHasStake currentStake
  let usddGain ← getPendingUSDDGain s staker
  let gains ← takeCollGains staker W.collTokens s
  let s ← withdrawDEFT W gains.1 staker currentStake deftAmount
  let s ← transferUSDD W s staker usddGain
  sendCollGains W sender (W.collTokens.zip gains.2) s

def increaseFColl (s : Data) (sender collToken : Address) (collFee : ℕ) : Tx Data := do
  requireCallerIsTroveManager W sender collToken
  pure { s with
    staking.fColls := Function.update s.staking.fColls collToken
      (s.staking.fColls collToken + DEFTStaking.feePerDEFTStaked s.staking collFee) }

def increaseFUSDD (s : Data) (sender : Address) (usddFee : ℕ) : Tx Data := do
  requireCallerIsBorrowerOperations W sender
  pure { s with
    staking.fUSDD := s.staking.fUSDD + DEFTStaking.feePerDEFTStaked s.staking usddFee }

end Functions

section System

inductive Action
  | stake (staker : Address) (deftAmount : ℕ)
  | unstake (staker : Address) (deftAmount : ℕ)
  | increaseFColl (collToken : Address) (collFee : ℕ)
  | increaseFUSDD (usddFee : ℕ)
  | transfer (token recipient : Address) (amount : ℕ)
  | mint (token account : Address) (amount : ℕ)
  | approve (amount : ℕ)

structure Call where
  sender : Address
  action : Action

variable (W : Wiring)

def step (s : Data) (c : Call) : Tx Data :=
  match c.action with
  | .stake staker deftAmount => stake W s c.sender staker deftAmount
  | .unstake staker deftAmount => unstake W s c.sender staker deftAmount
  | .increaseFColl collToken collFee => increaseFColl W s c.sender collToken collFee
  | .increaseFUSDD usddFee => increaseFUSDD W s c.sender usddFee
  | .transfer token recipient amount => transfer s token c.sender recipient amount
  | .mint token account amount => pure (mint s token account amount)
  | .approve amount =>
      pure { s with deftAllowances := Function.update s.deftAllowances c.sender amount }

/-- The contract calls nothing here itself and is nobody's staker. -/
def Allowed (c : Call) : Prop :=
  c.sender ≠ W.deftStaking ∧
    match c.action with
    | .stake staker _ => staker ≠ W.deftStaking
    | .unstake staker _ => staker ≠ W.deftStaking
    | _ => True

instance (c : Call) : Decidable (Allowed W c) := by
  unfold Allowed
  rcases c.action <;> infer_instance

/-- Right after deployment nobody has a stake. The tokens may have any holders. -/
def initial (tokens : Address → Address → ℕ) (deftAllowances : Address → ℕ) : Data where
  staking := ⟨0, fun _ => 0, 0⟩
  stakes := fun _ => 0
  fCollSnapshots := fun _ _ => 0
  fUSDDSnapshots := fun _ => 0
  tokens := tokens
  deftAllowances := deftAllowances

/-- The configured collateral tokens include those of all TroveManagers, and none of them is DEFT
or USDD. -/
structure Wiring.Valid : Prop where
  nonempty : W.collTokens ≠ []
  deft_notMem : W.deftToken ∉ W.collTokens
  usdd_notMem : W.usddToken ∉ W.collTokens
  deft_ne : W.deftToken ≠ W.usddToken
  collTokenOf_mem : ∀ tm, W.authorizedTroveManagers tm = true → W.collTokenOf tm ∈ W.collTokens

/-- What a call reports as a fee in `token`. -/
def Call.reported (token : Address) (c : Call) : ℕ :=
  match c.action with
  | .increaseFColl collToken collFee => if collToken = token then collFee else 0
  | .increaseFUSDD usddFee => if W.usddToken = token then usddFee else 0
  | _ => 0

/-- What a call brings to the contract in `token`, other than as a stake. -/
def Call.received (token : Address) (c : Call) : ℕ :=
  match c.action with
  | .transfer t recipient amount => if t = token ∧ recipient = W.deftStaking then amount else 0
  | .mint t account amount => if t = token ∧ account = W.deftStaking then amount else 0
  | _ => 0

def reported (token : Address) (calls : List Call) : ℕ := (calls.map (Call.reported W token)).sum

def received (token : Address) (calls : List Call) : ℕ := (calls.map (Call.received W token)).sum

end System

end Usdd.Staking

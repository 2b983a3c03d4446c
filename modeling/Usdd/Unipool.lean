import Usdd.Lib.RewardAccumulator
import Usdd.Lib.Runs
import Usdd.LiquityBase

/-!
# Unipool

Liquidity providers stake LP tokens and earn DEFT at a constant rate for the duration of the
program. The clock of the program stops while nothing is staked: the end of the period is moved by
the idle time when the next stake or claim is processed.
-/

open Transaction

namespace Usdd.Unipool

/-- The storage of Unipool and its token wrapper, and what accounts hold of the two tokens. -/
structure Data where
  owner : Address
  uniToken : Address
  totalSupply : ℕ
  balances : Address → ℕ
  duration : ℕ
  periodFinish : ℕ
  rewardRate : ℕ
  lastUpdateTime : ℕ
  rewardPerTokenStored : ℕ
  userRewardPerTokenPaid : Address → ℕ
  rewards : Address → ℕ
  uni : Address → ℕ
  deft : Address → ℕ

section Tokens

def move (balances : Address → ℕ) (sender recipient : Address) (amount : ℕ) :
    Tx (Address → ℕ) := do
  let balance ← SafeMath.sub (balances sender) amount "ERC20: transfer amount exceeds balance"
  let balances := Function.update balances sender balance
  pure (Function.update balances recipient (balances recipient + amount))

end Tokens

section Views

variable (s : Data) (now : ℕ)

def lastTimeRewardApplicable : ℕ := min now s.periodFinish

def rewardPerToken : Tx ℕ :=
  if s.totalSupply = 0 then pure s.rewardPerTokenStored
  else do
    let elapsed ← SafeMath.sub (lastTimeRewardApplicable s now) s.lastUpdateTime
    let rise ← SafeMath.div (elapsed * s.rewardRate * decimalPrecision) s.totalSupply
    pure (s.rewardPerTokenStored + rise)

def earned (account : Address) : Tx ℕ :=
  if s.periodFinish = 0 then pure 0
  else do
    let level ← rewardPerToken s now
    let rise ← SafeMath.sub level (s.userRewardPerTokenPaid account)
    pure (s.balances account * rise / decimalPrecision + s.rewards account)

end Views

section Updates

variable (s : Data) (now : ℕ)

def updatePeriodFinish : Tx Data :=
  if s.totalSupply = 0 then do
    assert (s.periodFinish > 0) "periodFinish > 0"
    let idle ← SafeMath.sub now s.lastUpdateTime
    pure { s with periodFinish := s.periodFinish + idle }
  else pure s

def updateReward : Tx Data := do
  let rewardPerTokenStored ← rewardPerToken s now
  pure { s with
    rewardPerTokenStored := rewardPerTokenStored
    lastUpdateTime := lastTimeRewardApplicable s now }

def updateAccountReward (account : Address) : Tx Data := do
  let s ← updateReward s now
  assert (account ≠ 0) "account != address(0)"
  let reward ← earned s now account
  pure { s with
    rewards := Function.update s.rewards account reward
    userRewardPerTokenPaid :=
      Function.update s.userRewardPerTokenPaid account s.rewardPerTokenStored }

end Updates

section Functions

-- The address of the contract, and the time of the block.
variable (unipool : Address) (now : ℕ)

def start (s : Data) (sender : Address) (reward duration : ℕ) : Tx Data := do
  require (sender = s.owner) "Ownable: caller is not the owner"
  assert (reward > 0) "_reward > 0"
  assert (reward ≤ s.deft unipool) "_reward <= deftToken.balanceOf(address(this))"
  assert (s.periodFinish = 0) "periodFinish == 0"
  let s ← updateReward { s with duration := duration } now
  let rewardRate ← SafeMath.div reward duration
  pure { s with
    rewardRate := rewardRate
    lastUpdateTime := now
    periodFinish := now + duration
    owner := 0 }

def shouldStarted (s : Data) : Tx Unit := require (s.periodFinish > 0) "Issuance not started"

def requireTokenSet (s : Data) : Tx Unit :=
  require (s.uniToken ≠ 0) "Liquidity Pool Token has not been set yet"

/-- `stake` of the token wrapper. -/
def wrapperStake (s : Data) (sender : Address) (amount : ℕ) : Tx Data := do
  let s := { s with
    totalSupply := s.totalSupply + amount
    balances := Function.update s.balances sender (s.balances sender + amount) }
  let uni ← move s.uni sender unipool amount
  pure { s with uni := uni }

/-- `withdraw` of the token wrapper. -/
def wrapperWithdraw (s : Data) (sender : Address) (amount : ℕ) : Tx Data := do
  let totalSupply ← SafeMath.sub s.totalSupply amount
  let balance ← SafeMath.sub (s.balances sender) amount
  let s := { s with
    totalSupply := totalSupply
    balances := Function.update s.balances sender balance }
  let uni ← move s.uni unipool sender amount
  pure { s with uni := uni }

def stake (s : Data) (sender : Address) (amount : ℕ) : Tx Data := do
  shouldStarted s
  require (amount > 0) "Cannot stake 0"
  requireTokenSet s
  let s ← updatePeriodFinish s now
  let s ← updateAccountReward s now sender
  wrapperStake unipool s sender amount

def withdraw (s : Data) (sender : Address) (amount : ℕ) : Tx Data := do
  shouldStarted s
  require (amount > 0) "Cannot withdraw 0"
  requireTokenSet s
  let s ← updateAccountReward s now sender
  wrapperWithdraw unipool s sender amount

/-- Returns the reward that is paid along with the state. -/
def claimReward (s : Data) (sender : Address) : Tx (Data × ℕ) := do
  shouldStarted s
  requireTokenSet s
  let s ← updatePeriodFinish s now
  let s ← updateAccountReward s now sender
  let reward ← earned s now sender
  require (reward > 0) "Nothing to claim"
  let s := { s with rewards := Function.update s.rewards sender 0 }
  let deft ← move s.deft unipool sender reward
  pure ({ s with deft := deft }, reward)

def withdrawAndClaim (s : Data) (sender : Address) : Tx (Data × ℕ) := do
  shouldStarted s
  let s ← withdraw unipool now s sender (s.balances sender)
  claimReward unipool now s sender

end Functions

section System

inductive Action
  | stake (amount : ℕ)
  | withdraw (amount : ℕ)
  | withdrawAndClaim
  | claimReward

/-- A call with what accounts hold of the two tokens when it is made, since tokens may have moved
after the last call. -/
structure Call where
  sender : Address
  timestamp : ℕ
  action : Action
  uni : Address → ℕ
  deft : Address → ℕ

variable (unipool : Address)

/-- A call, and the reward that it pays. -/
def perform (s : Data) (c : Call) : Tx (Data × ℕ) :=
  match c.action with
  | .stake amount => do
      let s ← stake unipool c.timestamp s c.sender amount
      pure (s, 0)
  | .withdraw amount => do
      let s ← withdraw unipool c.timestamp s c.sender amount
      pure (s, 0)
  | .withdrawAndClaim => withdrawAndClaim unipool c.timestamp s c.sender
  | .claimReward => claimReward unipool c.timestamp s c.sender

/-- What an observer of a run notes down: the time of the last call, for how long there has been a
supply since the start, and how much has been paid. -/
structure Observed where
  data : Data
  clock : ℕ
  activeTime : ℕ
  paid : ℕ

/-- For how long there has been a supply at a time `now` with no call after the last one. -/
def Observed.activeTimeAt (o : Observed) (now : ℕ) : ℕ :=
  o.activeTime + if o.data.totalSupply = 0 then 0 else now - o.clock

/-- The part of the reward time that has been consumed while there was a supply. -/
def Observed.consumed (o : Observed) (now : ℕ) : ℕ := min o.data.duration (o.activeTimeAt now)

def step (o : Observed) (c : Call) : Tx Observed := do
  let r ← perform unipool { o.data with uni := c.uni, deft := c.deft } c
  pure
    { data := r.1
      clock := c.timestamp
      activeTime := o.activeTimeAt c.timestamp
      paid := o.paid + r.2 }

/-- Time does not go back. -/
def Timely (o : Observed) (c : Call) : Prop := o.clock ≤ c.timestamp

instance : DecidableRel Timely := fun o c => inferInstanceAs (Decidable (o.clock ≤ c.timestamp))

/-- After deployment and `setAddresses`. -/
def initial (owner uniToken : Address) (uni deft : Address → ℕ) : Data where
  owner := owner
  uniToken := uniToken
  totalSupply := 0
  balances := fun _ => 0
  duration := 0
  periodFinish := 0
  rewardRate := 0
  lastUpdateTime := 0
  rewardPerTokenStored := 0
  userRewardPerTokenPaid := fun _ => 0
  rewards := fun _ => 0
  uni := uni
  deft := deft

end System

end Usdd.Unipool

import Usdd.Storage

/-!
# Collateral tokens and the pools

ActivePool, DefaultPool and CollSurplusPool, the fee accounting of DEFTStaking, and the standard
token behind them: a transfer needs the balance, and every allowance that the contracts give each
other is unlimited.
-/

open Transaction

namespace Usdd

namespace Token

def transfer (s : State) (token sender recipient : Address) (amount : ℕ) : Tx State := do
  let balance ← SafeMath.sub (s.tokens token sender) amount
    "collateral: transfer amount exceeds balance"
  let balances := Function.update (s.tokens token) sender balance
  pure { s with
    tokens := Function.update s.tokens token
      (Function.update balances recipient (balances recipient + amount)) }

end Token

section Pools

variable (D : Deployment)

namespace ActivePool

def sendColl (sender : Address) (s : State) (account token : Address) (amount : ℕ) :
    Tx State := do
  require ((sender = D.borrowerOperations ∧ D.collToken = token) ∨
      (sender = D.troveManager ∧ D.collToken = token) ∨ sender = D.stabilityPool)
    "ActivePool: Caller is neither BorrowerOperations nor TroveManager nor StabilityPool"
  let balance ← SafeMath.sub (s.activePool.balances token) amount
  let s := { s with activePool.balances := Function.update s.activePool.balances token balance }
  Token.transfer s token D.activePool account amount

def receiveColl (sender : Address) (s : State) (token : Address) (amount : ℕ) : Tx State := do
  require ((sender = D.borrowerOperations ∧ D.collToken = token) ∨ sender = D.defaultPool)
    "ActivePool: Caller is neither BO nor Default Pool"
  let s ← Token.transfer s token sender D.activePool amount
  pure { s with
    activePool.balances :=
      Function.update s.activePool.balances token (s.activePool.balances token + amount) }

def increaseUSDDDebt (sender : Address) (s : State) (amount : ℕ) : Tx State := do
  require (sender = D.borrowerOperations ∨ sender = D.troveManager)
    "ActivePool: Caller is neither BorrowerOperations nor TroveManager"
  pure { s with activePool.usddDebt := s.activePool.usddDebt + amount }

def decreaseUSDDDebt (sender : Address) (s : State) (amount : ℕ) : Tx State := do
  require (sender = D.borrowerOperations ∨ sender = D.troveManager ∨ sender = D.stabilityPool)
    "ActivePool: Caller is neither BorrowerOperations nor TroveManager nor StabilityPool"
  let debt ← SafeMath.sub s.activePool.usddDebt amount
  pure { s with activePool.usddDebt := debt }

end ActivePool

namespace DefaultPool

def requireCallerIsTroveManager (sender : Address) : Tx Unit :=
  require (sender = D.troveManager) "DefaultPool: Caller is not the TroveManager"

def requireCallerIsTroveManagerOf (sender token : Address) : Tx Unit :=
  require (sender = D.troveManager ∧ D.collToken = token)
    "DefaultPool: Caller is not the TroveManager"

def sendToActivePool (sender : Address) (s : State) (token : Address) (amount : ℕ) :
    Tx State := do
  requireCallerIsTroveManagerOf D sender token
  let balance ← SafeMath.sub (s.defaultPool.balances token) amount
  let s := { s with defaultPool.balances := Function.update s.defaultPool.balances token balance }
  ActivePool.receiveColl D D.defaultPool s token amount

def receiveColl (sender : Address) (s : State) (token : Address) (amount : ℕ) : Tx State := do
  requireCallerIsTroveManagerOf D sender token
  let s ← Token.transfer s token sender D.defaultPool amount
  pure { s with
    defaultPool.balances :=
      Function.update s.defaultPool.balances token (s.defaultPool.balances token + amount) }

def increaseUSDDDebt (sender : Address) (s : State) (amount : ℕ) : Tx State := do
  requireCallerIsTroveManager D sender
  pure { s with defaultPool.usddDebt := s.defaultPool.usddDebt + amount }

def decreaseUSDDDebt (sender : Address) (s : State) (amount : ℕ) : Tx State := do
  requireCallerIsTroveManager D sender
  let debt ← SafeMath.sub s.defaultPool.usddDebt amount
  pure { s with defaultPool.usddDebt := debt }

end DefaultPool

namespace CollSurplusPool

def accountSurplus (sender : Address) (s : State) (account token : Address) (amount : ℕ) :
    Tx State := do
  require (sender = D.troveManager) "CollSurplusPool: Caller is not TroveManager"
  require (D.collToken = token) "CollSurplusPool: Caller coll token mismatch"
  let surplus := Function.update (s.collSurplusPool.balances account) token
    (s.collSurplusPool.balances account token + amount)
  pure { s with
    collSurplusPool.balances := Function.update s.collSurplusPool.balances account surplus }

def claimColl (sender : Address) (s : State) (account receiver token : Address) : Tx State := do
  require (sender = D.borrowerOperations) "CollSurplusPool: Caller is not Borrower Operations"
  require (D.collToken = token) "CollSurplusPool: Caller coll token mismatch"
  let claimableColl := s.collSurplusPool.balances account token
  require (claimableColl > 0) "CollSurplusPool: No collateral available to claim"
  let balance ← SafeMath.sub (s.collSurplusPool.colls token) claimableColl
  let surplus := Function.update (s.collSurplusPool.balances account) token 0
  let s := { s with
    collSurplusPool :=
      { colls := Function.update s.collSurplusPool.colls token balance
        balances := Function.update s.collSurplusPool.balances account surplus } }
  Token.transfer s token D.collSurplusPool receiver claimableColl

def receiveColl (sender : Address) (s : State) (token : Address) (amount : ℕ) : Tx State := do
  require (sender = D.troveManager) "CollSurplusPool: Caller is not TroveManager"
  require (D.collToken = token) "CollSurplusPool: Caller coll token mismatch"
  let s ← Token.transfer s token sender D.collSurplusPool amount
  pure { s with
    collSurplusPool.colls :=
      Function.update s.collSurplusPool.colls token (s.collSurplusPool.colls token + amount) }

end CollSurplusPool

namespace DEFTStaking

/-- The fee earned by one unit of staked DEFT. -/
def feePerDEFTStaked (staking : DEFTStaking) (fee : ℕ) : ℕ :=
  if staking.totalDEFTStaked > 0 then fee * decimalPrecision / staking.totalDEFTStaked else 0

def increaseFColl (sender : Address) (s : State) (token : Address) (fee : ℕ) : Tx State := do
  require (sender = D.troveManager) "DEFTStaking: caller is not TroveM"
  require (D.collToken = token) "DEFTStaking: TroveM coll token mismatch"
  pure { s with
    deftStaking.fColls := Function.update s.deftStaking.fColls token
      (s.deftStaking.fColls token + feePerDEFTStaked s.deftStaking fee) }

def increaseFUSDD (sender : Address) (s : State) (fee : ℕ) : Tx State := do
  require (sender = D.borrowerOperations) "DEFTStaking: caller is not BorrowerOps"
  pure { s with deftStaking.fUSDD := s.deftStaking.fUSDD + feePerDEFTStaked s.deftStaking fee }

end DEFTStaking

end Pools

end Usdd

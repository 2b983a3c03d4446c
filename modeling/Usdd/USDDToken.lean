import Usdd.Storage

/-!
# USDDToken
-/

open Transaction

namespace Usdd.USDDToken

def credit (t : USDDToken) (account : Address) (amount : ℕ) : USDDToken where
  totalSupply := t.totalSupply + amount
  balances := Function.update t.balances account (t.balances account + amount)
  allowances := t.allowances
  nonces := t.nonces
  sum_balances := by
    have h := UpdateSum.sum_update_nat t.balances account (t.balances account + amount)
    have hs := t.sum_balances
    omega

def debit (t : USDDToken) (account : Address) (amount : ℕ) (h : amount ≤ t.balances account) :
    USDDToken where
  totalSupply := t.totalSupply - amount
  balances := Function.update t.balances account (t.balances account - amount)
  allowances := t.allowances
  nonces := t.nonces
  sum_balances := by
    have hu := UpdateSum.sum_update_nat t.balances account (t.balances account - amount)
    have hs := t.sum_balances
    omega

def mintTo (t : USDDToken) (account : Address) (amount : ℕ) : Tx USDDToken := do
  assert (account ≠ 0) "account != address(0)"
  pure (t.credit account amount)

def burnFrom (t : USDDToken) (account : Address) (amount : ℕ) : Tx USDDToken := do
  assert (account ≠ 0) "account != address(0)"
  if h : amount ≤ t.balances account then pure (t.debit account amount h)
  else .error (.message "ERC20: burn amount exceeds balance")

/-- A transfer debits the sender before it credits the recipient. The supply is the same again
afterwards. -/
def move (t : USDDToken) (sender recipient : Address) (amount : ℕ) : Tx USDDToken := do
  assert (sender ≠ 0) "sender != address(0)"
  assert (recipient ≠ 0) "recipient != address(0)"
  if h : amount ≤ t.balances sender then pure ((t.debit sender amount h).credit recipient amount)
  else .error (.message "ERC20: transfer amount exceeds balance")

def setAllowance (t : USDDToken) (owner spender : Address) (amount : ℕ) : Tx USDDToken := do
  assert (owner ≠ 0) "owner != address(0)"
  assert (spender ≠ 0) "spender != address(0)"
  pure { t with
    allowances :=
      Function.update t.allowances owner (Function.update (t.allowances owner) spender amount) }

section Lemmas

variable {t t' : USDDToken} {account sender recipient : Address} {amount : ℕ}

theorem mintTo_eq_ok (h : t.mintTo account amount = .ok t') :
    account ≠ 0 ∧ t' = t.credit account amount := by
  obtain ⟨_, h₀, h⟩ := bind_eq_ok.1 h
  exact ⟨assert_eq_ok.1 h₀, (pure_eq_ok.1 h).symm⟩

theorem burnFrom_eq_ok (h : t.burnFrom account amount = .ok t') :
    ∃ hle : amount ≤ t.balances account, t' = t.debit account amount hle := by
  obtain ⟨_, -, h⟩ := bind_eq_ok.1 h
  split_ifs at h with hle
  exact ⟨hle, (pure_eq_ok.1 h).symm⟩

theorem move_eq_ok (h : t.move sender recipient amount = .ok t') :
    ∃ hle : amount ≤ t.balances sender,
      t' = (t.debit sender amount hle).credit recipient amount := by
  obtain ⟨_, -, h⟩ := bind_eq_ok.1 h
  obtain ⟨_, -, h⟩ := bind_eq_ok.1 h
  split_ifs at h with hle
  exact ⟨hle, (pure_eq_ok.1 h).symm⟩

theorem balance_le_totalSupply (t : USDDToken) (a : Address) : t.balances a ≤ t.totalSupply := by
  rw [← t.sum_balances]
  exact UpdateSum.single_le_sum t.balances a

theorem move_totalSupply (h : t.move sender recipient amount = .ok t') :
    t'.totalSupply = t.totalSupply := by
  obtain ⟨hle, rfl⟩ := move_eq_ok h
  have hs := t.balance_le_totalSupply sender
  simp only [credit, debit]
  omega

theorem move_balances_of_ne (h : t.move sender recipient amount = .ok t') {a : Address}
    (ha : a ≠ sender) : t.balances a ≤ t'.balances a := by
  obtain ⟨hle, rfl⟩ := move_eq_ok h
  simp only [credit, debit, Function.update_apply]
  split_ifs with h₁ <;> simp_all

theorem move_balances_le (h : t.move sender recipient amount = .ok t') (a : Address) :
    t.balances a ≤ t'.balances a + amount := by
  by_cases ha : a = sender
  · obtain ⟨hle, rfl⟩ := move_eq_ok h
    subst ha
    simp only [credit, debit]
    by_cases hr : a = recipient
    · rw [← hr, Function.update_self, Function.update_self]
      omega
    · rw [Function.update_of_ne hr, Function.update_self]
      omega
  · exact (move_balances_of_ne h ha).trans (Nat.le_add_right _ _)

end Lemmas

section Entries

variable (D : Deployment)

def mint (sender : Address) (s : State) (account : Address) (amount : ℕ) : Tx State := do
  require (sender = D.borrowerOperations) "USDDToken: Caller is not BorrowerOperations"
  let t ← s.usddToken.mintTo account amount
  pure { s with usddToken := t }

def burn (sender : Address) (s : State) (account : Address) (amount : ℕ) : Tx State := do
  require (sender = D.borrowerOperations ∨ sender = D.troveManager ∨ sender = D.stabilityPool)
    "USDD: Caller is neither BorrowerOperations nor TroveManager nor StabilityPool"
  let t ← s.usddToken.burnFrom account amount
  pure { s with usddToken := t }

def sendToPool (sender : Address) (s : State) (account pool : Address) (amount : ℕ) :
    Tx State := do
  require (sender = D.stabilityPool) "USDD: Caller is not the StabilityPool"
  let t ← s.usddToken.move account pool amount
  pure { s with usddToken := t }

def returnFromPool (sender : Address) (s : State) (pool receiver : Address) (amount : ℕ) :
    Tx State := do
  require (sender = D.troveManager ∨ sender = D.stabilityPool)
    "USDD: Caller is neither TroveManager nor StabilityPool"
  let t ← s.usddToken.move pool receiver amount
  pure { s with usddToken := t }

def requireValidRecipient (recipient : Address) : Tx Unit := do
  require (recipient ≠ 0 ∧ recipient ≠ D.usddToken)
    "USDD: Cannot transfer tokens directly to the USDD token contract or the zero address"
  require (recipient ≠ D.stabilityPool ∧ recipient ≠ D.troveManager ∧
      recipient ≠ D.borrowerOperations)
    "USDD: Cannot transfer tokens directly to the StabilityPool, TroveManager or BorrowerOps"

def transfer (m : Message) (s : State) (recipient : Address) (amount : ℕ) : Tx State := do
  requireValidRecipient D recipient
  let t ← s.usddToken.move m.sender recipient amount
  pure { s with usddToken := t }

def transferFrom (m : Message) (s : State) (sender recipient : Address) (amount : ℕ) :
    Tx State := do
  requireValidRecipient D recipient
  let t ← s.usddToken.move sender recipient amount
  let allowance ← SafeMath.sub (t.allowances sender m.sender) amount
    "ERC20: transfer amount exceeds allowance"
  let t ← t.setAllowance sender m.sender allowance
  pure { s with usddToken := t }

def approve (m : Message) (s : State) (spender : Address) (amount : ℕ) : Tx State := do
  let t ← s.usddToken.setAllowance m.sender spender amount
  pure { s with usddToken := t }

def increaseAllowance (m : Message) (s : State) (spender : Address) (addedValue : ℕ) :
    Tx State := do
  let t ← s.usddToken.setAllowance m.sender spender
    (s.usddToken.allowances m.sender spender + addedValue)
  pure { s with usddToken := t }

def decreaseAllowance (m : Message) (s : State) (spender : Address) (subtractedValue : ℕ) :
    Tx State := do
  let allowance ← SafeMath.sub (s.usddToken.allowances m.sender spender) subtractedValue
    "ERC20: decreased allowance below zero"
  let t ← s.usddToken.setAllowance m.sender spender allowance
  pure { s with usddToken := t }

/-- `recovered` stands for the account that signed the permit. -/
def permit (m : Message) (s : State) (recovered owner spender : Address) (amount deadline : ℕ) :
    Tx State := do
  require (deadline ≥ m.timestamp) "USDD: expired deadline"
  let t := { s.usddToken with
    nonces := Function.update s.usddToken.nonces owner (s.usddToken.nonces owner + 1) }
  require (recovered = owner) "USDD: invalid signature"
  let t ← t.setAllowance owner spender amount
  pure { s with usddToken := t }

end Entries

end Usdd.USDDToken

import Usdd.RedemptionCalls

/-!
# The calls of the USDD token as events

A transfer cannot take from the gas pool or the Stability Pool, and an approval is given only by an
account that is not one of the contracts.
-/

open Transaction

namespace Usdd.USDDToken

variable {D : Deployment} {m : Message} {s s' : State} {t t' : USDDToken}
  {owner spender sender recipient : Address} {amount : ℕ}

theorem setAllowance_eq_ok (h : t.setAllowance owner spender amount = .ok t') :
    t' = { t with
      allowances := Function.update t.allowances owner
        (Function.update (t.allowances owner) spender amount) } := by
  obtain ⟨_, -, h⟩ := bind_eq_ok.1 h
  obtain ⟨_, -, h⟩ := bind_eq_ok.1 h
  exact (pure_eq_ok.1 h).symm

theorem move_allowances (h : t.move sender recipient amount = .ok t') :
    t'.allowances = t.allowances := by
  obtain ⟨hle, rfl⟩ := move_eq_ok h
  rfl

theorem setAllowance_path (h : s.usddToken.setAllowance owner spender amount = .ok t)
    (howner : owner ∉ D.contracts ∨ amount = 0) (d c g : ℤ) :
    Path D (s.book D d c g) (({ s with usddToken := t } : State).book D d c g) := by
  rw [setAllowance_eq_ok h]
  exact Path.single (Event.approves howner)

theorem move_path (h : s.usddToken.move sender recipient amount = .ok t)
    (hgas : s.usddToken.balances D.gasPool ≤ t.balances D.gasPool)
    (hpool : s.usddToken.balances D.stabilityPool ≤ t.balances D.stabilityPool) (d c g : ℤ) :
    Path D (s.book D d c g) (({ s with usddToken := t } : State).book D d c g) := by
  have hpath : Path D (s.book D d c g) { s.book D d c g with
      gas := t.balances D.gasPool
      poolUSDD := t.balances D.stabilityPool
      gasOwed := g - (0 : ℕ) } := by
    refine Path.single (Event.paysGas ?_ hpool)
    rw [Nat.zero_mul, Nat.add_zero]
    exact hgas
  rw [Nat.cast_zero, sub_zero] at hpath
  rw [move_book h]
  exact hpath

theorem transfer_path (hgas : m.sender ≠ D.gasPool) (hpool : m.sender ≠ D.stabilityPool)
    (h : transfer D m s recipient amount = .ok s') (d c g : ℤ) :
    Path D (s.book D d c g) (s'.book D d c g) := by
  obtain ⟨_, -, h⟩ := bind_eq_ok.1 h
  obtain ⟨t, ht, h⟩ := bind_eq_ok.1 h
  rw [← pure_eq_ok.1 h]
  exact move_path ht (move_balances_of_ne ht hgas.symm) (move_balances_of_ne ht hpool.symm) d c g

/-- Nothing can be transferred from a contract, since no contract has approved a spender. -/
theorem transferFrom_path
    (hallowances : sender ∈ D.contracts → s.usddToken.allowances sender m.sender = 0)
    (hgas : D.gasPool ∈ D.contracts) (hpool : D.stabilityPool ∈ D.contracts)
    (h : transferFrom D m s sender recipient amount = .ok s') (d c g : ℤ) :
    Path D (s.book D d c g) (s'.book D d c g) := by
  obtain ⟨_, -, h⟩ := bind_eq_ok.1 h
  obtain ⟨t, ht, h⟩ := bind_eq_ok.1 h
  obtain ⟨allowance, hallowance, h⟩ := bind_eq_ok.1 h
  obtain ⟨t', ht', h⟩ := bind_eq_ok.1 h
  obtain ⟨hle, hallowance⟩ := sub_eq_ok.1 hallowance
  rw [← hallowance, move_allowances ht] at ht'
  rw [move_allowances ht] at hle
  have hzero (hs : sender ∈ D.contracts) : amount = 0 := by
    rw [hallowances hs] at hle
    omega
  have hbalance (a : Address) (ha : a ∈ D.contracts) :
      s.usddToken.balances a ≤ t.balances a := by
    by_cases hs : a = sender
    · have hle := move_balances_le ht a
      rwa [hzero (hs ▸ ha), Nat.add_zero] at hle
    · exact move_balances_of_ne ht hs
  have howner : sender ∉ D.contracts ∨ s.usddToken.allowances sender m.sender - amount = 0 := by
    by_cases hs : sender ∈ D.contracts
    · right
      rw [hallowances hs, Nat.zero_sub]
    · exact Or.inl hs
  rw [← pure_eq_ok.1 h]
  exact (move_path ht (hbalance _ hgas) (hbalance _ hpool) d c g).trans
    (setAllowance_path (s := { s with usddToken := t }) ht' howner d c g)

theorem approve_path (howner : m.sender ∉ D.contracts) (h : approve m s spender amount = .ok s')
    (d c g : ℤ) : Path D (s.book D d c g) (s'.book D d c g) := by
  obtain ⟨t, ht, h⟩ := bind_eq_ok.1 h
  rw [← pure_eq_ok.1 h]
  exact setAllowance_path ht (Or.inl howner) d c g

theorem decreaseAllowance_path (howner : m.sender ∉ D.contracts)
    (h : decreaseAllowance m s spender amount = .ok s') (d c g : ℤ) :
    Path D (s.book D d c g) (s'.book D d c g) := by
  obtain ⟨_, -, h⟩ := bind_eq_ok.1 h
  obtain ⟨t, ht, h⟩ := bind_eq_ok.1 h
  rw [← pure_eq_ok.1 h]
  exact setAllowance_path ht (Or.inl howner) d c g

theorem permit_path {recovered : Address} {deadline : ℕ} (hrecovered : recovered ∉ D.contracts)
    (h : permit m s recovered owner spender amount deadline = .ok s') (d c g : ℤ) :
    Path D (s.book D d c g) (s'.book D d c g) := by
  obtain ⟨_, -, h⟩ := bind_eq_ok.1 h
  obtain ⟨_, howner, h⟩ := bind_eq_ok.1 h
  obtain ⟨t, ht, h⟩ := bind_eq_ok.1 h
  have howner : recovered = owner := require_eq_ok.1 howner
  rw [← pure_eq_ok.1 h, setAllowance_eq_ok ht]
  exact Path.single (Event.approves (Or.inl (howner ▸ hrecovered)))

end Usdd.USDDToken

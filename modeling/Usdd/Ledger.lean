import Usdd.Accounts

/-!
# Calls on the pools and the token as changes of the book

Each lemma takes a successful call apart and says which entries of the book it changes. A call that
only moves collateral tokens, or only touches a contract that the book leaves out, changes none.
-/

open Transaction

namespace Usdd

variable {D : Deployment} {s s' : State} {account sender recipient token : Address} {amount : ℕ}

theorem Token.transfer_book (h : Token.transfer s token sender recipient amount = .ok s')
    (d c g : ℤ) : s'.book D d c g = s.book D d c g := by
  obtain ⟨_, -, h⟩ := bind_eq_ok.1 h
  rw [← pure_eq_ok.1 h]
  rfl

section Collateral

theorem ActivePool.sendColl_book
    (h : ActivePool.sendColl D sender s account D.collToken amount = .ok s') (d c g : ℤ) :
    amount ≤ (s.book D d c g).activeColl ∧ s'.book D d c g =
      { s.book D d c g with activeColl := (s.book D d c g).activeColl - amount } := by
  obtain ⟨_, -, h⟩ := bind_eq_ok.1 h
  obtain ⟨_, hb, h⟩ := bind_eq_ok.1 h
  obtain ⟨hle, rfl⟩ := sub_eq_ok.1 hb
  refine ⟨hle, ?_⟩
  rw [Token.transfer_book h]
  simp [State.book]

theorem ActivePool.receiveColl_book
    (h : ActivePool.receiveColl D sender s D.collToken amount = .ok s') (d c g : ℤ) :
    s'.book D d c g =
      { s.book D d c g with activeColl := (s.book D d c g).activeColl + amount } := by
  obtain ⟨_, -, h⟩ := bind_eq_ok.1 h
  obtain ⟨s₁, ht, h⟩ := bind_eq_ok.1 h
  rw [← Token.transfer_book ht, ← pure_eq_ok.1 h]
  simp [State.book]

theorem DefaultPool.sendToActivePool_book
    (h : DefaultPool.sendToActivePool D sender s D.collToken amount = .ok s') (d c g : ℤ) :
    amount ≤ (s.book D d c g).defaultColl ∧ s'.book D d c g =
      { s.book D d c g with
        defaultColl := (s.book D d c g).defaultColl - amount
        activeColl := (s.book D d c g).activeColl + amount } := by
  obtain ⟨_, -, h⟩ := bind_eq_ok.1 h
  obtain ⟨_, hb, h⟩ := bind_eq_ok.1 h
  obtain ⟨hle, rfl⟩ := sub_eq_ok.1 hb
  refine ⟨hle, ?_⟩
  rw [ActivePool.receiveColl_book h]
  simp [State.book]

theorem DefaultPool.receiveColl_book
    (h : DefaultPool.receiveColl D sender s D.collToken amount = .ok s') (d c g : ℤ) :
    s'.book D d c g =
      { s.book D d c g with defaultColl := (s.book D d c g).defaultColl + amount } := by
  obtain ⟨_, -, h⟩ := bind_eq_ok.1 h
  obtain ⟨s₁, ht, h⟩ := bind_eq_ok.1 h
  rw [← Token.transfer_book ht, ← pure_eq_ok.1 h]
  simp [State.book]

theorem CollSurplusPool.accountSurplus_book
    (h : CollSurplusPool.accountSurplus D sender s account token amount = .ok s') (d c g : ℤ) :
    s'.book D d c g = s.book D d c g := by
  obtain ⟨_, -, h⟩ := bind_eq_ok.1 h
  obtain ⟨_, -, h⟩ := bind_eq_ok.1 h
  rw [← pure_eq_ok.1 h]
  rfl

theorem CollSurplusPool.claimColl_book
    (h : CollSurplusPool.claimColl D sender s account recipient token = .ok s') (d c g : ℤ) :
    s'.book D d c g = s.book D d c g := by
  obtain ⟨_, -, h⟩ := bind_eq_ok.1 h
  obtain ⟨_, -, h⟩ := bind_eq_ok.1 h
  obtain ⟨_, -, h⟩ := bind_eq_ok.1 h
  obtain ⟨_, -, h⟩ := bind_eq_ok.1 h
  rw [Token.transfer_book h]
  rfl

theorem CollSurplusPool.receiveColl_book
    (h : CollSurplusPool.receiveColl D sender s token amount = .ok s') (d c g : ℤ) :
    s'.book D d c g = s.book D d c g := by
  obtain ⟨_, -, h⟩ := bind_eq_ok.1 h
  obtain ⟨_, -, h⟩ := bind_eq_ok.1 h
  obtain ⟨s₁, ht, h⟩ := bind_eq_ok.1 h
  rw [← pure_eq_ok.1 h, ← Token.transfer_book ht]
  rfl

theorem DEFTStaking.increaseFColl_book
    (h : DEFTStaking.increaseFColl D sender s token amount = .ok s') (d c g : ℤ) :
    s'.book D d c g = s.book D d c g := by
  obtain ⟨_, -, h⟩ := bind_eq_ok.1 h
  obtain ⟨_, -, h⟩ := bind_eq_ok.1 h
  rw [← pure_eq_ok.1 h]
  rfl

theorem DEFTStaking.increaseFUSDD_book (h : DEFTStaking.increaseFUSDD D sender s amount = .ok s')
    (d c g : ℤ) : s'.book D d c g = s.book D d c g := by
  obtain ⟨_, -, h⟩ := bind_eq_ok.1 h
  rw [← pure_eq_ok.1 h]
  rfl

end Collateral

section Debt

theorem ActivePool.increaseUSDDDebt_book
    (h : ActivePool.increaseUSDDDebt D sender s amount = .ok s') (d c g : ℤ) :
    s'.book D d c g =
      { s.book D d c g with activeDebt := (s.book D d c g).activeDebt + amount } := by
  obtain ⟨_, -, h⟩ := bind_eq_ok.1 h
  rw [← pure_eq_ok.1 h]
  rfl

theorem ActivePool.decreaseUSDDDebt_book
    (h : ActivePool.decreaseUSDDDebt D sender s amount = .ok s') (d c g : ℤ) :
    amount ≤ (s.book D d c g).activeDebt ∧ s'.book D d c g =
      { s.book D d c g with activeDebt := (s.book D d c g).activeDebt - amount } := by
  obtain ⟨_, -, h⟩ := bind_eq_ok.1 h
  obtain ⟨_, hd, h⟩ := bind_eq_ok.1 h
  obtain ⟨hle, rfl⟩ := sub_eq_ok.1 hd
  rw [← pure_eq_ok.1 h]
  exact ⟨hle, rfl⟩

theorem DefaultPool.increaseUSDDDebt_book
    (h : DefaultPool.increaseUSDDDebt D sender s amount = .ok s') (d c g : ℤ) :
    s'.book D d c g =
      { s.book D d c g with defaultDebt := (s.book D d c g).defaultDebt + amount } := by
  obtain ⟨_, -, h⟩ := bind_eq_ok.1 h
  rw [← pure_eq_ok.1 h]
  rfl

theorem DefaultPool.decreaseUSDDDebt_book
    (h : DefaultPool.decreaseUSDDDebt D sender s amount = .ok s') (d c g : ℤ) :
    amount ≤ (s.book D d c g).defaultDebt ∧ s'.book D d c g =
      { s.book D d c g with defaultDebt := (s.book D d c g).defaultDebt - amount } := by
  obtain ⟨_, -, h⟩ := bind_eq_ok.1 h
  obtain ⟨_, hd, h⟩ := bind_eq_ok.1 h
  obtain ⟨hle, rfl⟩ := sub_eq_ok.1 hd
  rw [← pure_eq_ok.1 h]
  exact ⟨hle, rfl⟩

end Debt

section Token

theorem USDDToken.mint_book (h : USDDToken.mint D sender s account amount = .ok s') (d c g : ℤ) :
    ∃ gas poolUSDD, (s.book D d c g).gas ≤ gas ∧
      (account = D.gasPool → gas = (s.book D d c g).gas + amount) ∧
      (s.book D d c g).poolUSDD ≤ poolUSDD ∧
      s'.book D d c g = { s.book D d c g with
        supply := (s.book D d c g).supply + amount
        gas := gas
        poolUSDD := poolUSDD } := by
  obtain ⟨_, -, h⟩ := bind_eq_ok.1 h
  obtain ⟨t, ht, h⟩ := bind_eq_ok.1 h
  obtain ⟨-, rfl⟩ := USDDToken.mintTo_eq_ok ht
  have hle (a : Address) :
      s.usddToken.balances a ≤ (s.usddToken.credit account amount).balances a := by
    simp only [USDDToken.credit, Function.update_apply]
    split_ifs with ha
    · rw [ha]
      exact Nat.le_add_right _ _
    · exact le_rfl
  refine ⟨_, _, hle D.gasPool, fun ha => ?_, hle D.stabilityPool, ?_⟩
  · rw [← ha]
    simp [USDDToken.credit, State.book, ha]
  · rw [← pure_eq_ok.1 h]
    rfl

theorem USDDToken.burn_book (h : USDDToken.burn D sender s account amount = .ok s') (d c g : ℤ) :
    amount ≤ s.usddToken.balances account ∧ amount ≤ (s.book D d c g).supply ∧
      s'.book D d c g = { s.book D d c g with
        supply := (s.book D d c g).supply - amount
        gas := (s.book D d c g).gas - if D.gasPool = account then amount else 0
        poolUSDD :=
          (s.book D d c g).poolUSDD - if D.stabilityPool = account then amount else 0 } := by
  obtain ⟨_, -, h⟩ := bind_eq_ok.1 h
  obtain ⟨t, ht, h⟩ := bind_eq_ok.1 h
  obtain ⟨hle, rfl⟩ := USDDToken.burnFrom_eq_ok ht
  have hbal (a : Address) : (s.usddToken.debit account amount hle).balances a =
      s.usddToken.balances a - if a = account then amount else 0 := by
    simp only [USDDToken.debit, Function.update_apply]
    split_ifs with ha
    · rw [ha]
    · rfl
  refine ⟨hle, hle.trans (s.usddToken.balance_le_totalSupply account), ?_⟩
  rw [← pure_eq_ok.1 h]
  show _ = { s.book D d c g with
    supply := s.usddToken.totalSupply - amount
    gas := s.usddToken.balances D.gasPool - if D.gasPool = account then amount else 0
    poolUSDD := s.usddToken.balances D.stabilityPool -
      if D.stabilityPool = account then amount else 0 }
  rw [← hbal, ← hbal]
  rfl

theorem USDDToken.move_book {t : USDDToken}
    (h : s.usddToken.move sender recipient amount = .ok t) (d c g : ℤ) :
    ({ s with usddToken := t } : State).book D d c g = { s.book D d c g with
      gas := t.balances D.gasPool
      poolUSDD := t.balances D.stabilityPool } := by
  have hs := USDDToken.move_totalSupply h
  obtain ⟨hle, rfl⟩ := USDDToken.move_eq_ok h
  unfold State.book
  rw [← hs]
  rfl

end Token

end Usdd

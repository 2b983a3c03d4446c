import Usdd.BorrowerCalls
import Usdd.FrontEnds

/-!
# The calls of the StabilityPool as events

Every call issues DEFT first. A deposit is then tagged and changed, the gain of a deposit goes to
its owner or into the owner's trove, and an offset burns the deposits against the debt.
-/

open Transaction

namespace Usdd.StabilityPool

variable {D : Deployment} {m : Message} {s s' : State} {depositor frontEnd : Address}
  {amount debt coll : ℕ}

section Parts

theorem getCumulativeIssuanceFraction_le {issuance : CommunityIssuance} {fraction : ℕ}
    (h : CommunityIssuance.getCumulativeIssuanceFraction m issuance = .ok fraction) :
    fraction ≤ decimalPrecision := by
  obtain ⟨_, -, h⟩ := bind_eq_ok.1 h
  obtain ⟨_, -, h⟩ := bind_eq_ok.1 h
  obtain ⟨_, hle, h⟩ := bind_eq_ok.1 h
  rw [← pure_eq_ok.1 h]
  exact assert_eq_ok.1 hle

theorem triggerDEFTIssuance_book (h : triggerDEFTIssuance D m s = .ok s') :
    ∃ issuance pool, updateG s.stabilityPool issuance = .ok pool ∧
      s.communityIssuance.totalDEFTIssued + issuance ≤ s.communityIssuance.deftSupplyCap ∧
      ∀ d c g, s'.book D d c g = { s.book D d c g with
        pool := pool
        totalDEFTIssued := (s.book D d c g).totalDEFTIssued + issuance } := by
  obtain ⟨⟨s₁, issuance⟩, h₁, h⟩ := bind_eq_ok.1 h
  obtain ⟨pool, hpool, h⟩ := bind_eq_ok.1 h
  obtain ⟨_, -, h₁⟩ := bind_eq_ok.1 h₁
  obtain ⟨_, -, h₁⟩ := bind_eq_ok.1 h₁
  obtain ⟨fraction, hfraction, h₁⟩ := bind_eq_ok.1 h₁
  obtain ⟨_, hissuance, h₁⟩ := bind_eq_ok.1 h₁
  obtain ⟨hle, rfl⟩ := sub_eq_ok.1 hissuance
  cases pure_eq_ok.1 h₁
  cases pure_eq_ok.1 h
  have hlatest : s.communityIssuance.totalDEFTIssued +
      (s.communityIssuance.deftSupplyCap * fraction / decimalPrecision -
        s.communityIssuance.totalDEFTIssued) =
      s.communityIssuance.deftSupplyCap * fraction / decimalPrecision := Nat.add_sub_cancel' hle
  refine ⟨_, pool, hpool, ?_, fun d c g => ?_⟩
  · rw [hlatest]
    refine Nat.div_le_of_le_mul ?_
    rw [Nat.mul_comm]
    exact Nat.mul_le_mul_right _ (getCumulativeIssuanceFraction_le hfraction)
  · dsimp only [State.book]
    rw [hlatest]

theorem triggerDEFTIssuance_path (h : triggerDEFTIssuance D m s = .ok s') (d c g : ℤ) :
    Path D (s.book D d c g) (s'.book D d c g) := by
  obtain ⟨issuance, pool, hpool, hcap, hb⟩ := triggerDEFTIssuance_book h
  rw [hb]
  exact Path.single (Event.issues hpool hcap)

theorem sendDEFT_book {sender account : Address} (haccount : account ≠ D.communityIssuance)
    (h : CommunityIssuance.sendDEFT D sender s account amount = .ok s') (d c g : ℤ) :
    amount ≤ (s.book D d c g).deft ∧ s'.book D d c g =
      { s.book D d c g with deft := (s.book D d c g).deft - amount } := by
  obtain ⟨_, -, h⟩ := bind_eq_ok.1 h
  obtain ⟨_, -, h⟩ := bind_eq_ok.1 h
  obtain ⟨_, hbalance, h⟩ := bind_eq_ok.1 h
  obtain ⟨hle, rfl⟩ := sub_eq_ok.1 hbalance
  rw [← pure_eq_ok.1 h]
  refine ⟨hle, ?_⟩
  simp [State.book, haccount.symm]

/-- The DEFT that a change of a deposit pays to the depositor and to its front end. -/
theorem payOutDEFTGains_book (hdepositor : depositor ≠ D.communityIssuance)
    (hfrontEnd : frontEnd ≠ 0 → frontEnd ≠ D.communityIssuance)
    (h : payOutDEFTGains D s depositor frontEnd = .ok s') :
    ∃ depositorDEFTGain frontEndDEFTGain,
      getDepositorDEFTGain s.stabilityPool depositor = .ok depositorDEFTGain ∧
      owedToFrontEnd s.stabilityPool frontEnd = .ok frontEndDEFTGain ∧
      frontEndDEFTGain + depositorDEFTGain ≤ s.deft D.communityIssuance ∧
      ∀ d c g, s'.book D d c g = { s.book D d c g with
        deft := (s.book D d c g).deft - (frontEndDEFTGain + depositorDEFTGain) } := by
  obtain ⟨s₁, h₁, h⟩ := bind_eq_ok.1 h
  obtain ⟨depositorDEFTGain, hgain, h⟩ := bind_eq_ok.1 h
  obtain ⟨frontEndDEFTGain, howed, hle₁, hb₁⟩ : ∃ frontEndDEFTGain,
      owedToFrontEnd s.stabilityPool frontEnd = .ok frontEndDEFTGain ∧
      frontEndDEFTGain ≤ s.deft D.communityIssuance ∧
      ∀ d c g, s₁.book D d c g = { s.book D d c g with
        deft := (s.book D d c g).deft - frontEndDEFTGain } := by
    unfold owedToFrontEnd
    unfold payOutFrontEndGain at h₁
    split_ifs at h₁ ⊢ with hz
    · obtain ⟨gain, howed, h₁⟩ := bind_eq_ok.1 h₁
      exact ⟨gain, howed, (sendDEFT_book (hfrontEnd hz) h₁ 0 0 0).1,
        fun d c g => (sendDEFT_book (hfrontEnd hz) h₁ d c g).2⟩
    · refine ⟨0, rfl, Nat.zero_le _, fun d c g => ?_⟩
      rw [← pure_eq_ok.1 h₁]
      rfl
  have hpool : s₁.stabilityPool = s.stabilityPool := congrArg Book.pool (hb₁ 0 0 0)
  have hdeft : s₁.deft D.communityIssuance = s.deft D.communityIssuance - frontEndDEFTGain :=
    congrArg Book.deft (hb₁ 0 0 0)
  rw [hpool] at hgain
  have hle₂ : depositorDEFTGain ≤ s₁.deft D.communityIssuance :=
    (sendDEFT_book hdepositor h 0 0 0).1
  refine ⟨depositorDEFTGain, frontEndDEFTGain, hgain, howed, by omega, fun d c g => ?_⟩
  rw [(sendDEFT_book hdepositor h d c g).2, hb₁, ← Nat.sub_sub]

theorem sendUSDDtoStabilityPool_book
    (h : sendUSDDtoStabilityPool D s depositor amount = .ok s') (hgas : depositor ≠ D.gasPool)
    (hpool : depositor ≠ D.stabilityPool) (hne : D.gasPool ≠ D.stabilityPool) (d c g : ℤ) :
    s'.book D d c g = { s.book D d c g with
      pool := { s.stabilityPool with
        totalUSDDDeposits := s.stabilityPool.totalUSDDDeposits + amount }
      poolUSDD := (s.book D d c g).poolUSDD + amount } := by
  obtain ⟨s₁, h₁, h⟩ := bind_eq_ok.1 h
  obtain ⟨_, -, h₁⟩ := bind_eq_ok.1 h₁
  obtain ⟨t, ht, h₁⟩ := bind_eq_ok.1 h₁
  have hb := USDDToken.move_book (D := D) ht d c g
  obtain ⟨hle, heq⟩ := USDDToken.move_eq_ok ht
  have hg : t.balances D.gasPool = s.usddToken.balances D.gasPool := by
    rw [heq]
    simp [USDDToken.credit, USDDToken.debit, hgas.symm, hne]
  have hp : t.balances D.stabilityPool = s.usddToken.balances D.stabilityPool + amount := by
    rw [heq]
    simp [USDDToken.credit, USDDToken.debit, hpool.symm]
  rw [hg, hp] at hb
  cases pure_eq_ok.1 h₁
  cases pure_eq_ok.1 h
  exact congrArg (fun b : Book => { b with
    pool := { s.stabilityPool with
      totalUSDDDeposits := s.stabilityPool.totalUSDDDeposits + amount } }) hb

theorem sendUSDDToDepositor_book (h : sendUSDDToDepositor D s depositor amount = .ok s')
    (hgas : depositor ≠ D.gasPool) (hpool : depositor ≠ D.stabilityPool)
    (hne : D.gasPool ≠ D.stabilityPool) (d c g : ℤ) :
    amount ≤ s.stabilityPool.totalUSDDDeposits ∧ amount ≤ (s.book D d c g).poolUSDD ∧
      s'.book D d c g = { s.book D d c g with
        pool := { s.stabilityPool with
          totalUSDDDeposits := s.stabilityPool.totalUSDDDeposits - amount }
        poolUSDD := (s.book D d c g).poolUSDD - amount } := by
  unfold sendUSDDToDepositor at h
  split_ifs at h with hz
  · cases pure_eq_ok.1 h
    rw [hz]
    exact ⟨Nat.zero_le _, Nat.zero_le _, rfl⟩
  · obtain ⟨s₁, h₁, h⟩ := bind_eq_ok.1 h
    obtain ⟨_, -, h₁⟩ := bind_eq_ok.1 h₁
    obtain ⟨t, ht, h₁⟩ := bind_eq_ok.1 h₁
    have hb := USDDToken.move_book (D := D) ht d c g
    obtain ⟨hle, heq⟩ := USDDToken.move_eq_ok ht
    have hg : t.balances D.gasPool = s.usddToken.balances D.gasPool := by
      rw [heq]
      simp [USDDToken.credit, USDDToken.debit, hgas.symm, hne]
    have hp : t.balances D.stabilityPool = s.usddToken.balances D.stabilityPool - amount := by
      rw [heq]
      simp [USDDToken.credit, USDDToken.debit, hpool.symm]
    rw [hg, hp] at hb
    cases pure_eq_ok.1 h₁
    obtain ⟨total, htotal, h⟩ := bind_eq_ok.1 h
    obtain ⟨hle', rfl⟩ := sub_eq_ok.1 htotal
    cases pure_eq_ok.1 h
    exact ⟨hle', hle, congrArg (fun b : Book => { b with
      pool := { s.stabilityPool with
        totalUSDDDeposits := s.stabilityPool.totalUSDDDeposits - amount } }) hb⟩

theorem sendCollGainToDepositor_book (h : sendCollGainToDepositor D m s amount = .ok s')
    (d c g : ℤ) :
    amount ≤ s.stabilityPool.coll ∧ s'.book D d c g =
      { s.book D d c g with
        pool := { s.stabilityPool with coll := s.stabilityPool.coll - amount } } := by
  unfold sendCollGainToDepositor at h
  split_ifs at h with hz
  · cases pure_eq_ok.1 h
    rw [hz]
    exact ⟨Nat.zero_le _, rfl⟩
  · obtain ⟨newColl, hcoll, h⟩ := bind_eq_ok.1 h
    obtain ⟨hle, rfl⟩ := sub_eq_ok.1 hcoll
    refine ⟨hle, ?_⟩
    rw [Token.transfer_book h]
    rfl

end Parts

section Deposits

variable {deposit stake gain depositorDEFTGain frontEndDEFTGain : ℕ} {frontEndTag : Address}

/-- The common end of the calls that move USDD: `s₁` is the state after DEFT has been paid out, the
front end's stake has been updated and the USDD has been moved. -/
theorem changeDeposit_path {s₁ : State} {sp : StabilityPool} (provided withdrawn : ℕ)
    (hdeposit : getCompoundedUSDDDeposit s.stabilityPool depositor = .ok deposit)
    (hstake : getCompoundedFrontEndStake s.stabilityPool
      (s.stabilityPool.deposits depositor).frontEndTag = .ok stake)
    (hgain : getDepositorCollGain s.stabilityPool depositor = .ok gain)
    (hdepositorDEFT : getDepositorDEFTGain s.stabilityPool depositor = .ok depositorDEFTGain)
    (hfrontEndDEFT : owedToFrontEnd s.stabilityPool
      (s.stabilityPool.deposits depositor).frontEndTag = .ok frontEndDEFTGain)
    (hdeft : frontEndDEFTGain + depositorDEFTGain ≤ s.deft D.communityIssuance)
    (hw : withdrawn ≤ deposit) (hw' : withdrawn ≤ stake)
    (htotal : withdrawn ≤ s.stabilityPool.totalUSDDDeposits)
    {d c g : ℤ} (husdd : withdrawn ≤ (s.book D d c g).poolUSDD)
    (hsp : sp = updateFrontEndStakeAndSnapshots s.stabilityPool
      (s.stabilityPool.deposits depositor).frontEndTag (stake + provided - withdrawn))
    (hb : s₁.book D d c g = { s.book D d c g with
      pool := { sp with totalUSDDDeposits := sp.totalUSDDDeposits + provided - withdrawn }
      poolUSDD := (s.book D d c g).poolUSDD + provided - withdrawn
      deft := (s.book D d c g).deft - (frontEndDEFTGain + depositorDEFTGain)
      journal := .changeDeposit s.stabilityPool depositor :: s.journal })
    (h : sendCollGainToDepositor D m { s₁ with
      stabilityPool := updateDepositAndSnapshots s₁.stabilityPool depositor
        (deposit + provided - withdrawn) } gain = .ok s') :
    Path D (s.book D d c g) (s'.book D d c g) := by
  have hpool : s₁.stabilityPool =
      { sp with totalUSDDDeposits := sp.totalUSDDDeposits + provided - withdrawn } :=
    congrArg Book.pool hb
  obtain ⟨hle, hb'⟩ := sendCollGainToDepositor_book h d c g
  obtain ⟨ht, hc⟩ := updateFrontEndStakeAndSnapshots_totals s.stabilityPool
    (s.stabilityPool.deposits depositor).frontEndTag (stake + provided - withdrawn)
  rw [← hsp] at ht hc
  have hle : gain ≤ (updateDepositAndSnapshots s₁.stabilityPool depositor
    (deposit + provided - withdrawn)).coll := hle
  have hb' : s'.book D d c g = { s₁.book D d c g with
      pool := { updateDepositAndSnapshots s₁.stabilityPool depositor
          (deposit + provided - withdrawn) with
        coll := (updateDepositAndSnapshots s₁.stabilityPool depositor
          (deposit + provided - withdrawn)).coll - gain } } := hb'
  rw [hpool, (updateDepositAndSnapshots_totals _ _ _).2] at hle hb'
  rw [updateDepositAndSnapshots_totalUSDDDeposits, ht, hc, hb, hsp] at hb'
  rw [hb']
  exact Path.single (Event.changesDeposit hdeposit hstake hgain hw hw' (hle.trans_eq hc)
    hdepositorDEFT hfrontEndDEFT hdeft htotal husdd)

theorem provideToSP_path (hgas : depositor ≠ D.gasPool) (hpool : depositor ≠ D.stabilityPool)
    (hissuance : depositor ≠ D.communityIssuance) (hne : D.gasPool ≠ D.stabilityPool)
    (hfrontEnds : s.stabilityPool.FrontEndsRegistered D)
    (h : provideToSP D m s depositor amount frontEndTag = .ok s') (d c g : ℤ) :
    Path D (s.book D d c g) (s'.book D d c g) := by
  obtain ⟨_, -, h⟩ := bind_eq_ok.1 h
  obtain ⟨_, htag, h⟩ := bind_eq_ok.1 h
  obtain ⟨_, -, h⟩ := bind_eq_ok.1 h
  obtain ⟨_, -, h⟩ := bind_eq_ok.1 h
  obtain ⟨s₁, h₁, h⟩ := bind_eq_ok.1 h
  obtain ⟨gain, hgain, h⟩ := bind_eq_ok.1 h
  obtain ⟨deposit, hdeposit, h⟩ := bind_eq_ok.1 h
  obtain ⟨_, -, h⟩ := bind_eq_ok.1 h
  obtain ⟨s₂, h₂, h⟩ := bind_eq_ok.1 h
  obtain ⟨stake, hstake, h⟩ := bind_eq_ok.1 h
  obtain ⟨s₃, h₃, h⟩ := bind_eq_ok.1 h
  dsimp only at hgain hdeposit hstake h₃ h
  have hissues := triggerDEFTIssuance_path h₁ d c g
  obtain ⟨issuance, pool, hissue, -, b₁⟩ := triggerDEFTIssuance_book h₁
  have hpool₁ : s₁.stabilityPool = pool := congrArg Book.pool (b₁ d c g)
  have htag₁ : (s₁.stabilityPool.frontEnds frontEndTag).registered = true ∨ frontEndTag = 0 := by
    obtain ⟨_, _, heq, -⟩ := updateG_eq_ok hissue
    rw [hpool₁, heq]
    exact require_eq_ok.1 htag
  obtain ⟨t, ht⟩ : ∃ t : State, t = { s₁ with
      stabilityPool := setTagOfNewDeposit s₁.stabilityPool depositor frontEndTag } := ⟨_, rfl⟩
  have htags : Path D (s.book D d c g) (t.book D d c g) := by
    rw [ht]
    exact hissues.tail (Event.tags (b := s₁.book D d c g) htag₁)
  have hfront : t.stabilityPool.FrontEndsRegistered D := FrontEndsRegistered.path hfrontEnds htags
  rw [← ht] at h₂
  have hpool₂ : setTagOfNewDeposit s₁.stabilityPool depositor frontEndTag = t.stabilityPool := by
    rw [ht]
  rw [hpool₂] at hgain hdeposit
  obtain ⟨depositorDEFTGain, frontEndDEFTGain, hdepositorDEFT, hfrontEndDEFT, hdeft, b₂⟩ :=
    payOutDEFTGains_book hissuance
      (fun hz he => hfront.tag_notMem depositor hz (he ▸ D.communityIssuance_mem)) h₂
  have hsame : s₂.stabilityPool = t.stabilityPool := congrArg Book.pool (b₂ d c g)
  have hjournal : s₂.journal = t.journal := congrArg Book.journal (b₂ d c g)
  rw [hsame, hpool₂] at hstake
  rw [hsame, hpool₂, hjournal] at h₃
  refine htags.trans (changeDeposit_path amount 0 hdeposit hstake hgain hdepositorDEFT
    hfrontEndDEFT hdeft (Nat.zero_le _) (Nat.zero_le _) (Nat.zero_le _) (Nat.zero_le _) rfl ?_ h)
  refine (sendUSDDtoStabilityPool_book h₃ hgas hpool hne d c g).trans ?_
  obtain ⟨sp, hsp⟩ : ∃ sp, sp = updateFrontEndStakeAndSnapshots t.stabilityPool
      (t.stabilityPool.deposits depositor).frontEndTag (stake + amount) := ⟨_, rfl⟩
  rw [Nat.sub_zero, ← hsp]
  exact congrArg (fun b : Book => { b with
    pool := { sp with totalUSDDDeposits := sp.totalUSDDDeposits + amount }
    poolUSDD := b.poolUSDD + amount
    journal := .changeDeposit t.stabilityPool depositor :: t.journal }) (b₂ d c g)

theorem withdrawFromSP_path (hgas : depositor ≠ D.gasPool) (hpool : depositor ≠ D.stabilityPool)
    (hissuance : depositor ≠ D.communityIssuance) (hne : D.gasPool ≠ D.stabilityPool)
    (hfrontEnds : s.stabilityPool.FrontEndsRegistered D)
    (h : withdrawFromSP D m s depositor amount = .ok s') (d c g : ℤ) :
    Path D (s.book D d c g) (s'.book D d c g) := by
  obtain ⟨_, -, h⟩ := bind_eq_ok.1 h
  obtain ⟨_, -, h⟩ := bind_eq_ok.1 h
  obtain ⟨_, -, h⟩ := bind_eq_ok.1 h
  obtain ⟨s₁, h₁, h⟩ := bind_eq_ok.1 h
  obtain ⟨gain, hgain, h⟩ := bind_eq_ok.1 h
  obtain ⟨deposit, hdeposit, h⟩ := bind_eq_ok.1 h
  obtain ⟨_, -, h⟩ := bind_eq_ok.1 h
  obtain ⟨s₂, h₂, h⟩ := bind_eq_ok.1 h
  obtain ⟨stake, hstake, h⟩ := bind_eq_ok.1 h
  obtain ⟨newStake, hnewStake, h⟩ := bind_eq_ok.1 h
  obtain ⟨s₃, h₃, h⟩ := bind_eq_ok.1 h
  obtain ⟨newDeposit, hnewDeposit, h⟩ := bind_eq_ok.1 h
  dsimp only at hgain hdeposit hstake h₃ h
  obtain ⟨hw', hstake'⟩ := sub_eq_ok.1 hnewStake
  obtain ⟨hw, hdeposit'⟩ := sub_eq_ok.1 hnewDeposit
  have hissues := triggerDEFTIssuance_path h₁ d c g
  have hfront : s₁.stabilityPool.FrontEndsRegistered D :=
    FrontEndsRegistered.path hfrontEnds hissues
  obtain ⟨depositorDEFTGain, frontEndDEFTGain, hdepositorDEFT, hfrontEndDEFT, hdeft, b₂⟩ :=
    payOutDEFTGains_book hissuance
      (fun hz he => hfront.tag_notMem depositor hz (he ▸ D.communityIssuance_mem)) h₂
  have hsame : s₂.stabilityPool = s₁.stabilityPool := congrArg Book.pool (b₂ d c g)
  have hjournal : s₂.journal = s₁.journal := congrArg Book.journal (b₂ d c g)
  rw [hsame] at hstake
  rw [hsame, hjournal] at h₃
  obtain ⟨htotal, husdd, b₃⟩ := sendUSDDToDepositor_book h₃ hgas hpool hne d c g
  rw [(updateFrontEndStakeAndSnapshots_totals _ _ _).1] at htotal
  rw [← hdeposit'] at h
  have husdd : min amount deposit ≤ (s₁.book D d c g).poolUSDD := by
    have husdd : min amount deposit ≤ (s₂.book D d c g).poolUSDD := husdd
    rwa [b₂] at husdd
  have hnew : newStake = stake + 0 - min amount deposit := by rw [← hstake', Nat.add_zero]
  obtain ⟨sp, hsp⟩ : ∃ sp, sp = updateFrontEndStakeAndSnapshots s₁.stabilityPool
      (s₁.stabilityPool.deposits depositor).frontEndTag (stake + 0 - min amount deposit) := ⟨_, rfl⟩
  rw [hnew, ← hsp] at b₃
  refine hissues.trans (changeDeposit_path 0 (min amount deposit) hdeposit hstake hgain
    hdepositorDEFT hfrontEndDEFT hdeft hw hw' htotal husdd hsp ?_ h)
  refine b₃.trans ?_
  exact congrArg (fun b : Book => { b with
    pool := { sp with totalUSDDDeposits := sp.totalUSDDDeposits - min amount deposit }
    poolUSDD := b.poolUSDD - min amount deposit
    journal := .changeDeposit s₁.stabilityPool depositor :: s₁.journal }) (b₂ d c g)

theorem withdrawCollGainToTrove_path {upperHint lowerHint : Address}
    (hissuance : m.sender ≠ D.communityIssuance) (hne : D.gasPool ≠ D.stabilityPool)
    (hfrontEnds : s.stabilityPool.FrontEndsRegistered D)
    (h : withdrawCollGainToTrove D m s upperHint lowerHint = .ok s') (d c g : ℤ) :
    Path D (s.book D d c g) (s'.book D d c g) := by
  obtain ⟨_, -, h⟩ := bind_eq_ok.1 h
  obtain ⟨_, -, h⟩ := bind_eq_ok.1 h
  obtain ⟨_, -, h⟩ := bind_eq_ok.1 h
  obtain ⟨s₁, h₁, h⟩ := bind_eq_ok.1 h
  obtain ⟨gain, hgain, h⟩ := bind_eq_ok.1 h
  obtain ⟨deposit, hdeposit, h⟩ := bind_eq_ok.1 h
  obtain ⟨_, -, h⟩ := bind_eq_ok.1 h
  obtain ⟨s₂, h₂, h⟩ := bind_eq_ok.1 h
  obtain ⟨stake, hstake, h⟩ := bind_eq_ok.1 h
  obtain ⟨coll, hcoll, h⟩ := bind_eq_ok.1 h
  obtain ⟨_, -, h⟩ := bind_eq_ok.1 h
  obtain ⟨hle, hcoll'⟩ := sub_eq_ok.1 hcoll
  have hissues := triggerDEFTIssuance_path h₁ d c g
  have hfront : s₁.stabilityPool.FrontEndsRegistered D :=
    FrontEndsRegistered.path hfrontEnds hissues
  obtain ⟨depositorDEFTGain, frontEndDEFTGain, hdepositorDEFT, hfrontEndDEFT, hdeft, b₂⟩ :=
    payOutDEFTGains_book hissuance
      (fun hz he => hfront.tag_notMem m.sender hz (he ▸ D.communityIssuance_mem)) h₂
  have hsame : s₂.stabilityPool = s₁.stabilityPool := congrArg Book.pool (b₂ d c g)
  have hjournal : s₂.journal = s₁.journal := congrArg Book.journal (b₂ d c g)
  rw [hsame] at hstake hle hcoll'
  rw [hsame, hjournal] at h
  rw [(updateDepositAndSnapshots_totals _ _ _).2,
    (updateFrontEndStakeAndSnapshots_totals _ _ _).2] at hle hcoll'
  refine (hissues.trans ?_).trans (BorrowerOperations.adjustTrove_path hne.symm h d c g)
  rw [← hcoll']
  obtain ⟨sp, hsp⟩ : ∃ sp, sp = updateDepositAndSnapshots
      (updateFrontEndStakeAndSnapshots s₁.stabilityPool
        (s₁.stabilityPool.deposits m.sender).frontEndTag (stake + 0 - 0)) m.sender
      (deposit + 0 - 0) := ⟨_, rfl⟩
  have htotal : sp.totalUSDDDeposits = s₁.stabilityPool.totalUSDDDeposits := by
    rw [hsp, (updateDepositAndSnapshots_totals _ _ _).1,
      (updateFrontEndStakeAndSnapshots_totals _ _ _).1]
  have hb : { s₂.book D d c g with
      pool := { sp with coll := s₁.stabilityPool.coll - gain }
      journal := .changeDeposit s₁.stabilityPool m.sender :: s₁.journal } =
      { s₁.book D d c g with
        pool := { sp with
          totalUSDDDeposits := s₁.stabilityPool.totalUSDDDeposits + 0 - 0
          coll := s₁.stabilityPool.coll - gain }
        poolUSDD := (s₁.book D d c g).poolUSDD + 0 - 0
        deft := (s₁.book D d c g).deft - (frontEndDEFTGain + depositorDEFTGain)
        journal := .changeDeposit s₁.stabilityPool m.sender :: s₁.journal } := by
    rw [b₂, Nat.add_zero, Nat.sub_zero, Nat.add_zero, Nat.sub_zero, ← htotal]
  have hevent : Path D (s₁.book D d c g) { s₂.book D d c g with
      pool := { sp with coll := s₁.stabilityPool.coll - gain }
      journal := .changeDeposit s₁.stabilityPool m.sender :: s₁.journal } := by
    rw [hb, hsp]
    exact Path.single (Event.changesDeposit hdeposit hstake hgain (Nat.zero_le _) (Nat.zero_le _)
      hle hdepositorDEFT hfrontEndDEFT hdeft (Nat.zero_le _) (Nat.zero_le _))
  rw [hsp] at hevent
  exact hevent

theorem registerFrontEnd_path {kickbackRate : ℕ} (hsender : m.sender ∉ D.contracts)
    (h : registerFrontEnd m s kickbackRate = .ok s') (d c g : ℤ) :
    Path D (s.book D d c g) (s'.book D d c g) := by
  obtain ⟨_, hnew, h⟩ := bind_eq_ok.1 h
  obtain ⟨_, -, h⟩ := bind_eq_ok.1 h
  obtain ⟨_, hrate, h⟩ := bind_eq_ok.1 h
  rw [← pure_eq_ok.1 h]
  exact Path.single (Event.registers hsender (require_eq_ok.1 hnew) (require_eq_ok.1 hrate))

end Deposits

section Offset

theorem moveOffsetCollAndDebt_book (h : moveOffsetCollAndDebt D s coll debt = .ok s')
    (hne : D.gasPool ≠ D.stabilityPool) (d c g : ℤ) :
    debt ≤ (s.book D d c g).activeDebt ∧ coll ≤ (s.book D d c g).activeColl ∧
      debt ≤ (s.book D d c g).supply ∧ debt ≤ s.stabilityPool.totalUSDDDeposits ∧
      debt ≤ (s.book D d c g).poolUSDD ∧
      s'.book D d c g = { s.book D d c g with
        activeDebt := (s.book D d c g).activeDebt - debt
        activeColl := (s.book D d c g).activeColl - coll
        supply := (s.book D d c g).supply - debt
        pool := { s.stabilityPool with
          totalUSDDDeposits := s.stabilityPool.totalUSDDDeposits - debt
          coll := s.stabilityPool.coll + coll }
        poolUSDD := (s.book D d c g).poolUSDD - debt } := by
  obtain ⟨s₁, h₁, h⟩ := bind_eq_ok.1 h
  obtain ⟨s₂, h₂, h⟩ := bind_eq_ok.1 h
  obtain ⟨s₃, h₃, h⟩ := bind_eq_ok.1 h
  obtain ⟨s₄, h₄, h⟩ := bind_eq_ok.1 h
  obtain ⟨total, htotal, h₂⟩ := bind_eq_ok.1 h₂
  obtain ⟨hdeposits, rfl⟩ := sub_eq_ok.1 htotal
  rw [← pure_eq_ok.1 h₂] at h₃
  obtain ⟨hdebt, b₁⟩ := ActivePool.decreaseUSDDDebt_book h₁ d c g
  have b₂ : State.book D { s₁ with
      stabilityPool.totalUSDDDeposits := s₁.stabilityPool.totalUSDDDeposits - debt } d c g =
      { s₁.book D d c g with
        pool := { s₁.stabilityPool with
          totalUSDDDeposits := s₁.stabilityPool.totalUSDDDeposits - debt } } := rfl
  obtain ⟨husdd, hsupply, b₃⟩ := USDDToken.burn_book h₃ d c g
  obtain ⟨hcoll, b₄⟩ := ActivePool.sendColl_book h₄ d c g
  have husdd : debt ≤ (s₁.book D d c g).poolUSDD := husdd
  have hpool : s₁.stabilityPool = s.stabilityPool := congrArg Book.pool b₁
  rw [if_neg hne, if_pos rfl, Nat.sub_zero] at b₃
  rw [hpool] at b₂ b₃ hsupply hdeposits
  rw [b₂, b₁] at hsupply b₃
  rw [b₁] at husdd
  rw [b₃] at hcoll b₄
  have hpool₄ : s₄.stabilityPool = { s.stabilityPool with
    totalUSDDDeposits := s.stabilityPool.totalUSDDDeposits - debt } := congrArg Book.pool b₄
  refine ⟨hdebt, hcoll, hsupply, hdeposits, husdd, ?_⟩
  cases pure_eq_ok.1 h
  show { s₄.book D d c g with
    pool := { s₄.stabilityPool with coll := s₄.stabilityPool.coll + coll } } = _
  rw [hpool₄, b₄]

/-- An offset that is not skipped. -/
theorem offset_path {sender : Address} (hne : D.gasPool ≠ D.stabilityPool)
    (h : offset D m sender s debt coll = .ok s') (d c g : ℤ) :
    ((s.stabilityPool.totalUSDDDeposits = 0 ∨ debt = 0) ∧ s' = s) ∨
      Path D (s.book D d c g) (s'.book D (d - debt) (c - coll) g) := by
  obtain ⟨_, -, h⟩ := bind_eq_ok.1 h
  dsimp only at h
  split_ifs at h with hz
  · exact Or.inl ⟨hz, (pure_eq_ok.1 h).symm⟩
  · obtain ⟨s₁, h₁, h⟩ := bind_eq_ok.1 h
    obtain ⟨r, hr, h⟩ := bind_eq_ok.1 h
    obtain ⟨sp, hsp, h⟩ := bind_eq_ok.1 h
    obtain ⟨issuance, pool, hissue, -, b₁⟩ := triggerDEFTIssuance_book h₁
    have hpool : s₁.stabilityPool = pool := congrArg Book.pool (b₁ d c g)
    have hdeposits : s.stabilityPool.totalUSDDDeposits = s₁.stabilityPool.totalUSDDDeposits := by
      rw [hpool, updateG_totalUSDDDeposits hissue]
    rw [hdeposits] at hz hr
    obtain ⟨hdebt, hcoll, hsupply, hle, husdd, b₂⟩ :=
      moveOffsetCollAndDebt_book h hne (d - debt) (c - coll) g
    obtain ⟨-, lossError, collError, -, -, hrpool⟩ := computeRewardsPerUnitStaked_eq_ok hr
    obtain ⟨-, -, hsp'⟩ := updateRewardSumAndProduct_eq_ok hsp
    have hsptotal : sp.totalUSDDDeposits = s₁.stabilityPool.totalUSDDDeposits := by
      rw [hsp', (updateProduct_totals _ _).1, hrpool]
    have hspcoll : sp.coll = s₁.stabilityPool.coll := by
      rw [hsp', (updateProduct_totals _ _).2, hrpool]
    right
    refine (triggerDEFTIssuance_path h₁ d c g).trans ?_
    dsimp only at hle b₂
    rw [hsptotal] at hle b₂
    rw [hspcoll] at b₂
    rw [b₂]
    exact Path.single (Event.offsets (b := s₁.book D d c g) (not_or.1 hz) hr hsp hdebt hcoll hsupply
      hle husdd)

end Offset

end Usdd.StabilityPool

import Mathlib.Logic.Relation
import Usdd.Protocol
import Usdd.StabilityPoolWrites
import Usdd.TroveWrites

/-!
# The book of a market

The book is what the accounting of a market is about: the troves and their list, the debt and the
collateral of the two pools, the supply of USDD, the reserve in the gas pool, the Stability Pool,
and the issuance of DEFT. Inside a transaction a trove may be closed before its debt, its
collateral and its reserve have left the active pool and the gas pool; the three `Owed` fields are
the amounts still to leave. A negative amount left too early.

`Event` lists the changes of the book. Every call of the protocol is a sequence of events, and
every invariant of the accounting needs a proof for each event only.
-/

open Transaction

namespace Usdd

structure Book where
  troveManager : TroveManager
  sortedTroves : SortedTroves.Data
  activeDebt : ℕ
  activeColl : ℕ
  defaultDebt : ℕ
  defaultColl : ℕ
  supply : ℕ
  gas : ℕ
  pool : StabilityPool
  poolUSDD : ℕ
  allowances : Address → Address → ℕ
  deftSupplyCap : ℕ
  totalDEFTIssued : ℕ
  deft : ℕ
  journal : List JournalEntry
  debtOwed : ℤ
  collOwed : ℤ
  gasOwed : ℤ

def State.book (D : Deployment) (s : State) (debtOwed collOwed gasOwed : ℤ) : Book where
  troveManager := s.troveManager
  sortedTroves := s.sortedTroves
  activeDebt := s.activePool.usddDebt
  activeColl := s.activePool.balances D.collToken
  defaultDebt := s.defaultPool.usddDebt
  defaultColl := s.defaultPool.balances D.collToken
  supply := s.usddToken.totalSupply
  gas := s.usddToken.balances D.gasPool
  pool := s.stabilityPool
  poolUSDD := s.usddToken.balances D.stabilityPool
  allowances := s.usddToken.allowances
  deftSupplyCap := s.communityIssuance.deftSupplyCap
  totalDEFTIssued := s.communityIssuance.totalDEFTIssued
  deft := s.deft D.communityIssuance
  journal := s.journal
  debtOwed := debtOwed
  collOwed := collOwed
  gasOwed := gasOwed

open TroveManager in
inductive Event (D : Deployment) (b : Book) : Book → Prop
  | opens {id upperHint lowerHint : Address} {coll debt gas poolUSDD : ℕ} {tm : TroveManager}
      {list : SortedTroves.Data}
      (hnew : (b.troveManager.troves id).status ≠ .active)
      (hdebt : minNetDebt + usddGasCompensation ≤ debt)
      (hstake : updateStakeAndTotalStakes (b.troveManager.opened id coll debt) id = .ok tm)
      (hlist : SortedTroves.insert (getNominalICR tm) b.sortedTroves id
        (LiquityMath.computeNominalCR coll debt) upperHint lowerHint = .ok list)
      (hgas : b.gas + usddGasCompensation ≤ gas) (hpool : b.poolUSDD ≤ poolUSDD) :
      Event D b { b with
        troveManager := tm.addTroveOwnerToArray id
        sortedTroves := list
        activeDebt := b.activeDebt + debt
        activeColl := b.activeColl + coll
        supply := b.supply + debt
        gas := gas
        poolUSDD := poolUSDD
        journal := .restake (b.troveManager.opened id coll debt) id :: b.journal }
  | realises {id : Address} {coll debt : ℕ}
      (hactive : (b.troveManager.troves id).status = .active)
      (hcoll : getPendingCollReward b.troveManager id = .ok coll)
      (hdebt : getPendingUSDDDebtReward b.troveManager id = .ok debt)
      (hdefaultColl : coll ≤ b.defaultColl) (hdefaultDebt : debt ≤ b.defaultDebt) :
      Event D b { b with
        troveManager := b.troveManager.realised id coll debt
        activeDebt := b.activeDebt + debt
        activeColl := b.activeColl + coll
        defaultDebt := b.defaultDebt - debt
        defaultColl := b.defaultColl - coll }
  | amends {id upperHint lowerHint : Address} {coll debt activeDebt activeColl supply gas : ℕ}
      {debtOwed collOwed : ℤ} {poolUSDD : ℕ} {view : Address → Tx ℕ} {tm : TroveManager}
      {list : SortedTroves.Data}
      (hactive : (b.troveManager.troves id).status = .active)
      (hsnapshot : b.troveManager.lColl ≤ (b.troveManager.rewardSnapshots id).coll)
      (hdebt : (b.troveManager.troves id).debt ≤ debt ∨ minNetDebt + usddGasCompensation ≤ debt)
      (hstake : updateStakeAndTotalStakes (b.troveManager.amended id coll debt) id = .ok tm)
      (hview : ∀ a, a ≠ id → view a = getNominalICR tm a)
      (hlist : SortedTroves.reInsert view b.sortedTroves id (LiquityMath.computeNominalCR coll debt)
        upperHint lowerHint = .ok list)
      (hactiveDebt : (activeDebt : ℤ) + (b.troveManager.troves id).debt + b.debtOwed =
        b.activeDebt + debt + debtOwed)
      (hactiveColl : (activeColl : ℤ) + (b.troveManager.troves id).coll + b.collOwed =
        b.activeColl + coll + collOwed)
      (hsupply : supply + b.activeDebt = b.supply + activeDebt)
      (hgas : b.gas ≤ gas) (hpool : b.poolUSDD ≤ poolUSDD) :
      Event D b { b with
        troveManager := tm
        sortedTroves := list
        activeDebt := activeDebt
        activeColl := activeColl
        supply := supply
        gas := gas
        poolUSDD := poolUSDD
        journal := .restake (b.troveManager.amended id coll debt) id :: b.journal
        debtOwed := debtOwed
        collOwed := collOwed }
  | closes {id : Address} {status : Status} {tm₁ tm : TroveManager} {list : SortedTroves.Data}
      (hstatus : status ≠ .nonExistent ∧ status ≠ .active)
      (hmore : 1 < b.troveManager.troveOwners.length ∧ 1 < b.sortedTroves.size)
      (hstake : removeStake b.troveManager id = .ok tm₁)
      (howner : removeTroveOwner (tm₁.cleared id status) id b.troveManager.troveOwners.length =
        .ok tm)
      (hlist : SortedTroves.remove b.sortedTroves id = .ok list) :
      Event D b { b with
        troveManager := tm
        sortedTroves := list
        debtOwed := b.debtOwed + (b.troveManager.troves id).debt
        collOwed := b.collOwed + (b.troveManager.troves id).coll
        gasOwed := b.gasOwed + 1 }
  | burnsDebt {debt : ℕ} (hdebt : debt ≤ b.activeDebt) (hsupply : debt ≤ b.supply) :
      Event D b { b with
        activeDebt := b.activeDebt - debt
        supply := b.supply - debt
        debtOwed := b.debtOwed - debt }
  | sendsColl {coll : ℕ} (hcoll : coll ≤ b.activeColl) :
      Event D b { b with
        activeColl := b.activeColl - coll
        collOwed := b.collOwed - coll }
  | paysGas {troves gas poolUSDD : ℕ} (hgas : b.gas ≤ gas + troves * usddGasCompensation)
      (hpool : b.poolUSDD ≤ poolUSDD) :
      Event D b { b with
        gas := gas
        poolUSDD := poolUSDD
        gasOwed := b.gasOwed - troves }
  | redistributes {debt coll : ℕ} {tm : TroveManager} (hpos : debt ≠ 0)
      (hterms : addRewardTerms b.troveManager debt coll = .ok tm)
      (hdebt : debt ≤ b.activeDebt) (hcoll : coll ≤ b.activeColl) :
      Event D b { b with
        troveManager := tm
        activeDebt := b.activeDebt - debt
        activeColl := b.activeColl - coll
        defaultDebt := b.defaultDebt + debt
        defaultColl := b.defaultColl + coll
        journal := .redistribute b.troveManager b.sortedTroves debt coll :: b.journal
        debtOwed := b.debtOwed - debt
        collOwed := b.collOwed - coll }
  | snapshots {collSnapshot : ℕ} (howners : b.troveManager.troveOwners ≠ []) :
      Event D b { b with
        troveManager := { b.troveManager with
          totalStakesSnapshot := b.troveManager.totalStakes
          totalCollateralSnapshot := collSnapshot } }
  | approves {owner spender : Address} {amount : ℕ}
      (howner : owner ∉ D.contracts ∨ amount = 0) :
      Event D b { b with
        allowances :=
          Function.update b.allowances owner (Function.update (b.allowances owner) spender amount) }
  | offsets {debt coll : ℕ} {rewards : StabilityPool.RewardsPerUnitStaked} {pool : StabilityPool}
      (hpos : b.pool.totalUSDDDeposits ≠ 0 ∧ debt ≠ 0)
      (hrewards : StabilityPool.computeRewardsPerUnitStaked b.pool coll debt
        b.pool.totalUSDDDeposits = .ok rewards)
      (hpool : StabilityPool.updateRewardSumAndProduct rewards.pool rewards.collGainPerUnitStaked
        rewards.usddLossPerUnitStaked = .ok pool)
      (hdebt : debt ≤ b.activeDebt) (hcoll : coll ≤ b.activeColl) (hsupply : debt ≤ b.supply)
      (hdeposits : debt ≤ b.pool.totalUSDDDeposits) (husdd : debt ≤ b.poolUSDD) :
      Event D b { b with
        activeDebt := b.activeDebt - debt
        activeColl := b.activeColl - coll
        supply := b.supply - debt
        pool := { pool with
          totalUSDDDeposits := b.pool.totalUSDDDeposits - debt
          coll := b.pool.coll + coll }
        poolUSDD := b.poolUSDD - debt
        journal := .offset b.pool debt :: b.journal
        debtOwed := b.debtOwed - debt
        collOwed := b.collOwed - coll }
  | issues {issuance : ℕ} {pool : StabilityPool}
      (hpool : StabilityPool.updateG b.pool issuance = .ok pool)
      (hcap : b.totalDEFTIssued + issuance ≤ b.deftSupplyCap) :
      Event D b { b with
        pool := pool
        totalDEFTIssued := b.totalDEFTIssued + issuance }
  | tags {depositor frontEndTag : Address}
      (htag : (b.pool.frontEnds frontEndTag).registered = true ∨ frontEndTag = 0) :
      Event D b { b with
        pool := StabilityPool.setTagOfNewDeposit b.pool depositor frontEndTag }
  | changesDeposit {depositor : Address} {deposit frontEndStake gain provided withdrawn : ℕ}
      {depositorDEFTGain frontEndDEFTGain : ℕ}
      (hdeposit : StabilityPool.getCompoundedUSDDDeposit b.pool depositor = .ok deposit)
      (hstake : StabilityPool.getCompoundedFrontEndStake b.pool
        (b.pool.deposits depositor).frontEndTag = .ok frontEndStake)
      (hgain : StabilityPool.getDepositorCollGain b.pool depositor = .ok gain)
      (hwithdrawn : withdrawn ≤ deposit) (hwithdrawn' : withdrawn ≤ frontEndStake)
      (hgain' : gain ≤ b.pool.coll)
      (hdepositorDEFT : StabilityPool.getDepositorDEFTGain b.pool depositor =
        .ok depositorDEFTGain)
      (hfrontEndDEFT : StabilityPool.owedToFrontEnd b.pool
        (b.pool.deposits depositor).frontEndTag = .ok frontEndDEFTGain)
      (hdeft : frontEndDEFTGain + depositorDEFTGain ≤ b.deft)
      (hdeposits : withdrawn ≤ b.pool.totalUSDDDeposits) (husdd : withdrawn ≤ b.poolUSDD) :
      Event D b { b with
        pool :=
          { StabilityPool.updateDepositAndSnapshots
              (StabilityPool.updateFrontEndStakeAndSnapshots b.pool
                (b.pool.deposits depositor).frontEndTag (frontEndStake + provided - withdrawn))
              depositor (deposit + provided - withdrawn) with
            totalUSDDDeposits := b.pool.totalUSDDDeposits + provided - withdrawn
            coll := b.pool.coll - gain }
        poolUSDD := b.poolUSDD + provided - withdrawn
        deft := b.deft - (frontEndDEFTGain + depositorDEFTGain)
        journal := .changeDeposit b.pool depositor :: b.journal }
  | registers {frontEnd : Address} {kickbackRate : ℕ} (hfrontEnd : frontEnd ∉ D.contracts)
      (hnew : (b.pool.frontEnds frontEnd).registered = false)
      (hrate : kickbackRate ≤ decimalPrecision) :
      Event D b { b with
        pool := { b.pool with
          frontEnds := Function.update b.pool.frontEnds frontEnd ⟨kickbackRate, true⟩ } }

theorem Event.journal_subset {D : Deployment} {b b' : Book} (he : Event D b b') :
    b.journal ⊆ b'.journal := by
  cases he with
  | opens | amends | redistributes | offsets | changesDeposit => exact List.subset_cons_self _ _
  | _ => exact List.Subset.refl _

def Path (D : Deployment) : Book → Book → Prop := Relation.ReflTransGen (Event D)

theorem Path.invariant {D : Deployment} {I : Book → Prop}
    (h : ∀ b b', Event D b b' → I b → I b') {b b' : Book} (hp : Path D b b') (hb : I b) : I b' := by
  induction hp with
  | refl => exact hb
  | tail _ he ih => exact h _ _ he ih

end Usdd

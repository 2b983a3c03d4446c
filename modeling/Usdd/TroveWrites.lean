import Usdd.Lib.IndexedList
import Usdd.TroveViews

/-!
# The writes to a trove

A trove is entered, has its rewards realised, is restaked with new amounts, or departs, and a
redistribution raises the accumulators. Each of these is a short sequence of writes in the source;
here is what each sequence amounts to.
-/

open Transaction

namespace Usdd.TroveManager

/-- The storage in which `openTrove` computes the first stake of `owner`. -/
def opened (tm : TroveManager) (owner : Address) (coll debt : ℕ) : TroveManager :=
  (((tm.setTroveStatus owner .active).increaseTroveColl owner coll).increaseTroveDebt owner
    debt).updateTroveRewardSnapshots owner

def realised (tm : TroveManager) (borrower : Address) (coll debt : ℕ) : TroveManager :=
  ((tm.increaseTroveColl borrower coll).increaseTroveDebt borrower
    debt).updateTroveRewardSnapshots borrower

def amended (tm : TroveManager) (borrower : Address) (coll debt : ℕ) : TroveManager :=
  tm.setTrove borrower { tm.troves borrower with coll := coll, debt := debt }

/-- The storage from which `closeTrove` removes the owner. -/
def cleared (tm : TroveManager) (borrower : Address) (status : Status) : TroveManager :=
  let tm := tm.setTrove borrower
    { tm.troves borrower with status := status, coll := 0, debt := 0 }
  { tm with rewardSnapshots := Function.update tm.rewardSnapshots borrower ⟨0, 0⟩ }

def entered (tm : TroveManager) (owner : Address) (coll debt stake : ℕ) : TroveManager :=
  { tm with
    troves := Function.update tm.troves owner ⟨debt, coll, stake, .active, tm.troveOwners.length⟩
    totalStakes := tm.totalStakes + stake
    rewardSnapshots := Function.update tm.rewardSnapshots owner ⟨tm.lColl, tm.lUSDDDebt⟩
    troveOwners := tm.troveOwners ++ [owner] }

def restaked (tm : TroveManager) (borrower : Address) (coll debt stake : ℕ) : TroveManager :=
  { tm with
    troves := Function.update tm.troves borrower
      { tm.troves borrower with coll := coll, debt := debt, stake := stake }
    totalStakes := tm.totalStakes - (tm.troves borrower).stake + stake }

/-- `moved` takes the place of the borrower in the array of owners. -/
def departed (tm : TroveManager) (borrower moved : Address) (status : Status) : TroveManager :=
  let index := (tm.troves borrower).arrayIndex
  let troves := Function.update tm.troves borrower ⟨0, 0, 0, status, index⟩
  { tm with
    troves := Function.update troves moved { troves moved with arrayIndex := index }
    totalStakes := tm.totalStakes - (tm.troves borrower).stake
    rewardSnapshots := Function.update tm.rewardSnapshots borrower ⟨0, 0⟩
    troveOwners := IndexedList.swapPop tm.troveOwners index moved }

def raised (tm : TroveManager) (collRise debtRise collError debtError : ℕ) : TroveManager :=
  { tm with
    lColl := tm.lColl + collRise
    lUSDDDebt := tm.lUSDDDebt + debtRise
    lastETHErrorRedistribution := collError
    lastUSDDDebtErrorRedistribution := debtError }

variable {tm tm₁ tm' : TroveManager} {id moved : Address} {coll debt stake : ℕ} {status : Status}

theorem opened_eq (tm : TroveManager) (id : Address) (coll debt : ℕ) :
    tm.opened id coll debt = { tm with
      troves := Function.update tm.troves id
        { tm.troves id with
          status := .active
          coll := (tm.troves id).coll + coll
          debt := (tm.troves id).debt + debt }
      rewardSnapshots := Function.update tm.rewardSnapshots id ⟨tm.lColl, tm.lUSDDDebt⟩ } := by
  simp [opened, setTroveStatus, increaseTroveColl, increaseTroveDebt, updateTroveRewardSnapshots,
    setTrove]

theorem realised_eq (tm : TroveManager) (id : Address) (coll debt : ℕ) :
    tm.realised id coll debt = { tm with
      troves := Function.update tm.troves id
        { tm.troves id with
          coll := (tm.troves id).coll + coll
          debt := (tm.troves id).debt + debt }
      rewardSnapshots := Function.update tm.rewardSnapshots id ⟨tm.lColl, tm.lUSDDDebt⟩ } := by
  simp [realised, increaseTroveColl, increaseTroveDebt, updateTroveRewardSnapshots, setTrove]

theorem updateStakeAndTotalStakes_eq_ok (h : updateStakeAndTotalStakes tm id = .ok tm') :
    ∃ stake, computeNewStake tm (tm.troves id).coll = .ok stake ∧
      (tm.troves id).stake ≤ tm.totalStakes ∧
      tm' = tm.restaked id (tm.troves id).coll (tm.troves id).debt stake := by
  obtain ⟨stake, hstake, h⟩ := bind_eq_ok.1 h
  obtain ⟨total, htotal, h⟩ := bind_eq_ok.1 h
  obtain ⟨hle, rfl⟩ := sub_eq_ok.1 htotal
  exact ⟨stake, hstake, hle, (pure_eq_ok.1 h).symm⟩

theorem opened_eq_ok (hdebt : (tm.troves id).debt = 0) (hcoll : (tm.troves id).coll = 0)
    (hstake : (tm.troves id).stake = 0)
    (h : updateStakeAndTotalStakes (tm.opened id coll debt) id = .ok tm') :
    ∃ stake, computeNewStake tm coll = .ok stake ∧
      tm'.addTroveOwnerToArray id = tm.entered id coll debt stake := by
  obtain ⟨stake, hnew, -, rfl⟩ := updateStakeAndTotalStakes_eq_ok h
  have htrove : (tm.opened id coll debt).troves id =
      ⟨debt, coll, 0, .active, (tm.troves id).arrayIndex⟩ := by
    simp [opened_eq, hdebt, hcoll, hstake]
  rw [htrove] at hnew ⊢
  refine ⟨stake, hnew, ?_⟩
  simp [addTroveOwnerToArray, restaked, entered, opened_eq, setTrove, hstake]

theorem amended_eq_ok (h : updateStakeAndTotalStakes (tm.amended id coll debt) id = .ok tm') :
    ∃ stake, computeNewStake tm coll = .ok stake ∧ (tm.troves id).stake ≤ tm.totalStakes ∧
      tm' = tm.restaked id coll debt stake := by
  obtain ⟨stake, hnew, hle, rfl⟩ := updateStakeAndTotalStakes_eq_ok h
  have htrove : (tm.amended id coll debt).troves id =
      { tm.troves id with coll := coll, debt := debt } := by
    simp [amended, setTrove]
  rw [htrove] at hnew hle ⊢
  refine ⟨stake, hnew, hle, ?_⟩
  simp [restaked, amended, setTrove]

theorem departed_eq_ok (hstake : removeStake tm id = .ok tm₁)
    (h : removeTroveOwner (tm₁.cleared id status) id tm.troveOwners.length = .ok tm') :
    (tm.troves id).stake ≤ tm.totalStakes ∧ 0 < tm.troveOwners.length ∧
      tm' = tm.departed id (tm.troveOwners.getD (tm.troveOwners.length - 1) 0) status := by
  obtain ⟨total, htotal, hstake⟩ := bind_eq_ok.1 hstake
  obtain ⟨hle, rfl⟩ := sub_eq_ok.1 htotal
  cases pure_eq_ok.1 hstake
  obtain ⟨_, -, h⟩ := bind_eq_ok.1 h
  obtain ⟨last, hlast, h⟩ := bind_eq_ok.1 h
  obtain ⟨hpos, rfl⟩ := sub_eq_ok.1 hlast
  obtain ⟨_, -, h⟩ := bind_eq_ok.1 h
  refine ⟨hle, hpos, ?_⟩
  rw [← pure_eq_ok.1 h]
  simp [departed, cleared, setTrove, IndexedList.swapPop]

theorem entered_self (tm : TroveManager) (id : Address) (coll debt stake : ℕ) :
    (tm.entered id coll debt stake).troves id =
      ⟨debt, coll, stake, .active, tm.troveOwners.length⟩ := by
  simp [entered]

theorem entered_snapshot (tm : TroveManager) (id : Address) (coll debt stake : ℕ) :
    (tm.entered id coll debt stake).rewardSnapshots id = ⟨tm.lColl, tm.lUSDDDebt⟩ := by
  simp [entered]

theorem restaked_self (tm : TroveManager) (id : Address) (coll debt stake : ℕ) :
    (tm.restaked id coll debt stake).troves id =
      { tm.troves id with coll := coll, debt := debt, stake := stake } := by
  simp [restaked]

theorem entered_frame : Frame tm (tm.entered id coll debt stake) id where
  status a ha := by simp [entered, ha]
  debt a ha := by simp [entered, ha]
  coll a ha := by simp [entered, ha]
  stake a ha := by simp [entered, ha]
  snapshot a ha := by simp [entered, ha]
  lColl := rfl
  lUSDDDebt := rfl
  collError := rfl
  debtError := rfl
  totalStakesSnapshot := rfl
  totalCollateralSnapshot := rfl

theorem opened_frame : Frame tm (tm.opened id coll debt) id where
  status a ha := by simp [opened_eq, ha]
  debt a ha := by simp [opened_eq, ha]
  coll a ha := by simp [opened_eq, ha]
  stake a ha := by simp [opened_eq, ha]
  snapshot a ha := by simp [opened_eq, ha]
  lColl := rfl
  lUSDDDebt := rfl
  collError := rfl
  debtError := rfl
  totalStakesSnapshot := rfl
  totalCollateralSnapshot := rfl

theorem amended_frame : Frame tm (tm.amended id coll debt) id where
  status a ha := by simp [amended, setTrove, ha]
  debt a ha := by simp [amended, setTrove, ha]
  coll a ha := by simp [amended, setTrove, ha]
  stake a ha := by simp [amended, setTrove, ha]
  snapshot a ha := rfl
  lColl := rfl
  lUSDDDebt := rfl
  collError := rfl
  debtError := rfl
  totalStakesSnapshot := rfl
  totalCollateralSnapshot := rfl

theorem realised_frame : Frame tm (tm.realised id coll debt) id where
  status a ha := by simp [realised_eq, ha]
  debt a ha := by simp [realised_eq, ha]
  coll a ha := by simp [realised_eq, ha]
  stake a ha := by simp [realised_eq, ha]
  snapshot a ha := by simp [realised_eq, ha]
  lColl := rfl
  lUSDDDebt := rfl
  collError := rfl
  debtError := rfl
  totalStakesSnapshot := rfl
  totalCollateralSnapshot := rfl

theorem restaked_frame : Frame tm (tm.restaked id coll debt stake) id where
  status a ha := by simp [restaked, ha]
  debt a ha := by simp [restaked, ha]
  coll a ha := by simp [restaked, ha]
  stake a ha := by simp [restaked, ha]
  snapshot a ha := rfl
  lColl := rfl
  lUSDDDebt := rfl
  collError := rfl
  debtError := rfl
  totalStakesSnapshot := rfl
  totalCollateralSnapshot := rfl

theorem departed_troves (tm : TroveManager) (id moved : Address) (status : Status) (a : Address) :
    (tm.departed id moved status).troves a =
      { (if a = id then ⟨0, 0, 0, status, (tm.troves id).arrayIndex⟩ else tm.troves a : Trove) with
        arrayIndex := if a = moved then (tm.troves id).arrayIndex else (tm.troves a).arrayIndex } := by
  by_cases ha : a = id <;> by_cases hm : a = moved <;>
    simp_all [departed, Function.update_apply]

theorem departed_frame : Frame tm (tm.departed id moved status) id where
  status a ha := by rw [departed_troves, if_neg ha]
  debt a ha := by rw [departed_troves, if_neg ha]
  coll a ha := by rw [departed_troves, if_neg ha]
  stake a ha := by rw [departed_troves, if_neg ha]
  snapshot a ha := by simp [departed, ha]
  lColl := rfl
  lUSDDDebt := rfl
  collError := rfl
  debtError := rfl
  totalStakesSnapshot := rfl
  totalCollateralSnapshot := rfl

theorem realised_self (tm : TroveManager) (id : Address) (coll debt : ℕ) :
    (tm.realised id coll debt).troves id =
      { tm.troves id with
        coll := (tm.troves id).coll + coll
        debt := (tm.troves id).debt + debt } := by
  simp [realised_eq]

theorem realised_snapshot (tm : TroveManager) (id : Address) (coll debt : ℕ) :
    (tm.realised id coll debt).rewardSnapshots id = ⟨tm.lColl, tm.lUSDDDebt⟩ := by
  simp [realised_eq]

theorem realised_currentColl (tm : TroveManager) (id : Address) (debt : ℕ) (a : Address) :
    (tm.realised id (tm.pendingColl id) debt).currentColl a = tm.currentColl a := by
  by_cases ha : a = id
  · subst ha
    have hzero : (tm.realised a (tm.pendingColl a) debt).pendingColl a = 0 := by
      apply pendingColl_of_le
      rw [collSnapshots, realised_snapshot]
      exact le_rfl
    rw [currentColl, hzero, realised_self, currentColl, Nat.add_zero]
  · exact realised_frame.currentColl ha

theorem realised_currentDebt (tm : TroveManager) (id : Address) (coll : ℕ) (a : Address) :
    (tm.realised id coll (tm.pendingDebt id)).currentDebt a = tm.currentDebt a := by
  by_cases ha : a = id
  · subst ha
    have hzero : (tm.realised a coll (tm.pendingDebt a)).pendingDebt a = 0 := by
      apply pendingDebt_of_le
      rw [debtSnapshots, realised_snapshot]
      exact le_rfl
    rw [currentDebt, hzero, realised_self, currentDebt, Nat.add_zero]
  · exact realised_frame.currentDebt ha

theorem addRewardTerms_eq_ok (h : addRewardTerms tm debt coll = .ok tm') :
    tm.totalStakes ≠ 0 ∧ ∃ collRise debtRise collError debtError,
      collRise = (coll * decimalPrecision + tm.lastETHErrorRedistribution) / tm.totalStakes ∧
      debtRise = (debt * decimalPrecision + tm.lastUSDDDebtErrorRedistribution) / tm.totalStakes ∧
      collError =
        coll * decimalPrecision + tm.lastETHErrorRedistribution - collRise * tm.totalStakes ∧
      debtError =
        debt * decimalPrecision + tm.lastUSDDDebtErrorRedistribution - debtRise * tm.totalStakes ∧
      tm' = tm.raised collRise debtRise collError debtError := by
  obtain ⟨q, hq, h⟩ := bind_eq_ok.1 h
  obtain ⟨r, hr, h⟩ := bind_eq_ok.1 h
  obtain ⟨e, he, h⟩ := bind_eq_ok.1 h
  obtain ⟨f, hf, h⟩ := bind_eq_ok.1 h
  obtain ⟨hpos, hq⟩ := div_eq_ok.1 hq
  obtain ⟨-, hr⟩ := div_eq_ok.1 hr
  obtain ⟨-, he⟩ := sub_eq_ok.1 he
  obtain ⟨-, hf⟩ := sub_eq_ok.1 hf
  exact ⟨hpos, q, r, e, f, hq.symm, hr.symm, he.symm, hf.symm, (pure_eq_ok.1 h).symm⟩

end Usdd.TroveManager

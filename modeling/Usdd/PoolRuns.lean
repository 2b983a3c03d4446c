import Usdd.MarketRuns

/-!
# Runs of the Stability Pool

The pool is also run with offsets of any size, apart from the liquidations that size them. Every
state of such a run is at the end of a path of the book, and what the pool owes is covered in the
runs that meet the conditions: deposits by the total, collateral gains by the collateral, deposits
by the stakes of their front ends, and DEFT by what has been issued.
-/

open Transaction

namespace Usdd

open StabilityPool

inductive PoolTransact
  | call (t : Transact)
  | offset (m : Message) (debtToOffset collToAdd : ℕ)

section Runs

variable (D : Deployment)

def poolStep (s : State) : PoolTransact → Tx State
  | .call t => step D s t
  | .offset m debtToOffset collToAdd => do
      let s ← StabilityPool.offset D m D.troveManager s debtToOffset collToAdd
      pure { s with timestamp := m.timestamp }

def PoolAllowed (s : State) : PoolTransact → Prop
  | .call t => Allowed D s t
  | .offset m _ _ => s.timestamp ≤ m.timestamp

/-- The states in which a run from a given deployment can end. -/
def PoolReachable (g : Genesis) : State → Prop :=
  Transaction.Reachable (poolStep D) (fun s => s = initial g) (PoolAllowed D)

variable {D} {g : Genesis} {s s' : State}

theorem PoolReachable.of_calls
    (h : Transaction.Reachable (step D) (fun s => s = initial g) (Allowed D) s) :
    PoolReachable D g s := by
  induction h with
  | start h => exact .start h
  | next _ ha hs ih => exact ih.next (t := .call _) ha hs

theorem poolReachable_sampleRun {calls : List Transact} (h : sampleRun calls = .ok s) :
    PoolReachable sampleDeployment sampleGenesis s :=
  PoolReachable.of_calls (Transaction.Reachable.run_checked (.start rfl) h)

/-- An offset moves debt and collateral that no trove has been closed for. -/
theorem PoolReachable.path (hw : D.Wired) (h : PoolReachable D g s) :
    ∃ d c, Path D ((initial g).book D 0 0 0) (s.book D d c 0) := by
  induction h with
  | start h =>
      rw [h]
      exact ⟨0, 0, Path.refl _⟩
  | @next s s' t _ ha hs ih =>
      obtain ⟨d, c, hp⟩ := ih
      cases t with
      | call t => exact ⟨d, c, hp.trans (Book.Reached.step_path hw ⟨g, hp⟩ ha hs)⟩
      | offset m debt coll =>
          obtain ⟨s₁, h₁, hs⟩ := bind_eq_ok.1 hs
          rw [← pure_eq_ok.1 hs]
          rcases StabilityPool.offset_path hw.gasPool_ne h₁ d c 0 with ⟨-, rfl⟩ | hp₁
          · exact ⟨d, c, hp⟩
          · exact ⟨_, _, hp.trans hp₁⟩

theorem PoolReachable.consistent (hw : D.Wired) (h : PoolReachable D g s) :
    ∃ d c, (s.book D d c 0).Consistent D := by
  obtain ⟨d, c, hp⟩ := h.path hw
  exact ⟨d, c, Book.Reached.consistent ⟨g, hp⟩⟩

theorem PoolReachable.timely (hw : D.Wired) (h : PoolReachable D g s) : s.stabilityPool.Timely := by
  obtain ⟨d, c, hc⟩ := h.consistent hw
  exact hc.timely

theorem PoolReachable.solvent (hw : D.Wired) (h : PoolReachable D g s)
    (hj : ∀ e ∈ s.journal, e.LossCoversDebt) : s.stabilityPool.Solvent := by
  obtain ⟨d, c, hp⟩ := h.path hw
  have hs : (s.book D d c 0).pool.Solvent :=
    hp.conditional (I := fun b => b.pool.Solvent) (initial_solvent g)
      (fun _ _ hc hi hj he => hi.event hc.timely hj he) hj
  exact hs

/-- The pool was timely and solvent at a journal entry. -/
def JournalEntry.OfSolventPool : JournalEntry → Prop
  | .offset sp _ => sp.Timely ∧ sp.Solvent
  | .changeDeposit sp _ => sp.Timely ∧ sp.Solvent
  | _ => True

theorem Event.ofSolventPool {b b' : Book} (ht : b.pool.Timely) (hs : b.pool.Solvent)
    (h : ∀ e ∈ b.journal, e.OfSolventPool) (he : Event D b b') :
    ∀ e ∈ b'.journal, e.OfSolventPool := by
  cases he with
  | opens | amends | redistributes => exact List.forall_mem_cons.2 ⟨trivial, h⟩
  | offsets | changesDeposit => exact List.forall_mem_cons.2 ⟨⟨ht, hs⟩, h⟩
  | _ => exact h

theorem JournalEntry.OfSolventPool.offsetsSolventPool {e : JournalEntry} (h : e.OfSolventPool) :
    e.OffsetsSolventPool := by
  cases e with
  | offset sp debt => exact h.2
  | _ => trivial

/-- As long as the losses cover the debts, every offset finds the pool solvent. -/
theorem PoolReachable.ofSolventPool (hw : D.Wired) (h : PoolReachable D g s)
    (hj : ∀ e ∈ s.journal, e.LossCoversDebt) : ∀ e ∈ s.journal, e.OfSolventPool := by
  obtain ⟨d, c, hp⟩ := h.path hw
  refine (hp.conditional (I := fun b => b.pool.Solvent ∧ ∀ e ∈ b.journal, e.OfSolventPool)
    ⟨initial_solvent g, ?_⟩ (fun _ _ hc hi hj he => ⟨hi.1.event hc.timely hj he,
      he.ofSolventPool hc.timely hi.1 hi.2⟩) hj).2
  exact fun _ he => absurd he List.not_mem_nil

end Runs

variable {D : Deployment} {g : Genesis} {s : State}

section Payouts

/-- Amounts that a number covers can be taken from it one after the other. -/
theorem run_sub_eq_ok {α : Type} (value : α → ℕ) {ds : List α} {c : ℕ}
    (h : (ds.map value).sum ≤ c) : ∃ c', run (fun c d => SafeMath.sub c (value d)) c ds = .ok c' := by
  induction ds generalizing c with
  | nil => exact ⟨c, rfl⟩
  | cons d ds ih =>
      rw [List.map_cons, List.sum_cons] at h
      obtain ⟨c', hc'⟩ := ih (c := c - value d) (by omega)
      exact ⟨c', bind_eq_ok.2 ⟨_, sub_eq_ok.2 ⟨by omega, rfl⟩, hc'⟩⟩

theorem sendUSDDToDepositor_eq_ok {depositor : Address} {amount : ℕ}
    (hpool : D.stabilityPool ≠ 0) (hd : depositor ≠ 0)
    (hle : amount ≤ s.stabilityPool.totalUSDDDeposits)
    (husdd : s.stabilityPool.totalUSDDDeposits ≤ s.usddToken.balances D.stabilityPool) :
    ∃ s', sendUSDDToDepositor D s depositor amount = .ok s' ∧
      s'.stabilityPool.totalUSDDDeposits = s.stabilityPool.totalUSDDDeposits - amount ∧
      s'.stabilityPool.totalUSDDDeposits ≤ s'.usddToken.balances D.stabilityPool := by
  unfold sendUSDDToDepositor
  split_ifs with hz
  · rw [hz]
    exact ⟨s, rfl, rfl, husdd⟩
  · have hbalance : amount ≤ s.usddToken.balances D.stabilityPool := hle.trans husdd
    refine ⟨_, bind_eq_ok.2 ⟨_, bind_eq_ok.2 ⟨(), require_eq_ok.2 (Or.inr rfl), bind_eq_ok.2
      ⟨(s.usddToken.debit D.stabilityPool amount hbalance).credit depositor amount, ?_, rfl⟩⟩,
      bind_eq_ok.2 ⟨_, sub_eq_ok.2 ⟨hle, rfl⟩, rfl⟩⟩, rfl, ?_⟩
    · refine bind_eq_ok.2 ⟨(), assert_eq_ok.2 hpool, bind_eq_ok.2 ⟨(), assert_eq_ok.2 hd, ?_⟩⟩
      rw [dif_pos hbalance]
      rfl
    · have hdebit : (s.usddToken.debit D.stabilityPool amount hbalance).balances D.stabilityPool =
          s.usddToken.balances D.stabilityPool - amount := Function.update_self _ _ _
      have hcredit : s.usddToken.balances D.stabilityPool - amount ≤
          ((s.usddToken.debit D.stabilityPool amount hbalance).credit depositor amount).balances
            D.stabilityPool := by
        unfold USDDToken.credit
        dsimp only
        by_cases heq : D.stabilityPool = depositor
        · subst heq
          rw [Function.update_self, hdebit]
          exact Nat.le_add_right _ _
        · rw [Function.update_of_ne heq, hdebit]
      exact (Nat.sub_le_sub_right husdd amount).trans hcredit

/-- Deposits that the total covers can be withdrawn in any order. -/
theorem run_sendUSDDToDepositor_eq_ok (hpool : D.stabilityPool ≠ 0) (value : Address → ℕ)
    {ds : List Address} (hds : 0 ∉ ds)
    (hle : (ds.map value).sum ≤ s.stabilityPool.totalUSDDDeposits)
    (husdd : s.stabilityPool.totalUSDDDeposits ≤ s.usddToken.balances D.stabilityPool) :
    ∃ s', run (fun s d => sendUSDDToDepositor D s d (value d)) s ds = .ok s' := by
  induction ds generalizing s with
  | nil => exact ⟨s, rfl⟩
  | cons d ds ih =>
      rw [List.map_cons, List.sum_cons] at hle
      rw [List.mem_cons, not_or] at hds
      obtain ⟨s₁, h₁, htotal, husdd₁⟩ := sendUSDDToDepositor_eq_ok hpool (Ne.symm hds.1)
        ((Nat.le_add_right _ _).trans hle) husdd
      obtain ⟨s', hs'⟩ := ih hds.2 (by omega) husdd₁
      exact ⟨s', bind_eq_ok.2 ⟨s₁, h₁, hs'⟩⟩

theorem sum_map_le_sum {value : Address → ℕ} {ds : List Address} (h : ds.Nodup) :
    (ds.map value).sum ≤ ∑ d, value d := by
  rw [← List.sum_toFinset value h]
  exact Finset.sum_le_sum_of_subset (Finset.subset_univ _)

end Payouts

section Sample

/-- The pool is empty before each change of a deposit and after each offset. -/
def JournalEntry.AroundEmptyPool : JournalEntry → Prop
  | .offset sp debt => debt = sp.totalUSDDDeposits
  | .changeDeposit sp _ => sp.totalUSDDDeposits = 0
  | _ => True

instance : DecidablePred JournalEntry.AroundEmptyPool
  | .offset _ _ => inferInstanceAs (Decidable (_ = _))
  | .changeDeposit _ _ => inferInstanceAs (Decidable (_ = _))
  | .restake _ _ => isTrue trivial
  | .redistribute _ _ _ _ => isTrue trivial

theorem JournalEntry.AroundEmptyPool.lossCoversDebt {e : JournalEntry} (h : e.AroundEmptyPool) :
    e.LossCoversDebt := by
  cases e with
  | offset sp debt => exact Or.inl h
  | _ => trivial

theorem JournalEntry.AroundEmptyPool.lossCoversRewarded {e : JournalEntry}
    (h : e.AroundEmptyPool) : e.LossCoversRewarded := by
  cases e with
  | offset sp debt => exact Or.inl h
  | _ => trivial

theorem JournalEntry.AroundEmptyPool.keepsFrontEndsCovered {e : JournalEntry}
    (h : e.AroundEmptyPool) (hs : e.OfSolventPool) : e.KeepsFrontEndsCovered := by
  cases e with
  | offset sp debt =>
      obtain ⟨ht, -⟩ := hs
      have hepoch : (sp.afterLoss debt).currentEpoch = sp.currentEpoch + 1 := by
        have hemptied : debt = sp.totalUSDDDeposits := h
        rw [afterLoss, if_pos hemptied, Nat.sub_self]
        rfl
      have hdeposits : (sp.afterLoss debt).deposits = sp.deposits ∧
          (sp.afterLoss debt).depositSnapshots = sp.depositSnapshots := by
        rw [afterLoss, updateProduct_eq_charge]
        exact ⟨rfl, rfl⟩
      intro d f _
      rw [hdeposits.1, hdeposits.2]
      by_cases hz : (sp.deposits d).initialValue = 0
      · refine Or.inr (Or.inr ?_)
        rw [hz, exactStake, CompoundingStake.share_zero]
        exact_mod_cast lt_max_of_lt_left Nat.one_pos
      · have hle : (sp.depositSnapshots d).epoch ≤ sp.currentEpoch := (ht.deposits d hz).clock.epoch
        exact Or.inl (by omega)
  | changeDeposit sp depositor =>
      obtain ⟨-, hsolvent⟩ := hs
      have hempty : sp.totalUSDDDeposits = 0 := h
      have hzero (d : Address) : sp.unspentDeposit d = 0 := by
        have hle : sp.exactTotal ≤ 0 := by
          have hsolvent' : sp.exactTotal ≤ sp.totalUSDDDeposits := hsolvent
          rwa [hempty, Nat.cast_zero] at hsolvent'
        have hsingle : sp.exactDeposit d ≤ sp.exactTotal :=
          Finset.single_le_sum (f := sp.exactDeposit) (fun _ _ => exactStake_nonneg _ _ _)
            (Finset.mem_univ d)
        exact le_antisymm ((unspent_le _ _ _).trans (hsingle.trans hle)) (unspent_nonneg _ _ _)
      show (⌊sp.unspentDeposit depositor⌋₊ : ℚ) + ∑ d ∈ _, sp.unspentDeposit d ≤ _
      rw [hzero, Finset.sum_eq_zero (fun d _ => hzero d), Nat.floor_zero, Nat.cast_zero, add_zero]
      exact Nat.cast_nonneg _
  | _ => trivial

theorem sampleLiquidation_aroundEmptyPool : ∃ s, sampleRun sampleLiquidation = .ok s ∧
    ∀ e ∈ s.journal, e.AroundEmptyPool := by
  decide +kernel

/-- Most of the deposit is withdrawn between two offsets, so that the error of the first one
outweighs the rounding of the second one. -/
def sampleLoss : List Transact :=
  [sampleOpen 1 (10 ^ 30) (10 ^ 27) (200 * decimalPrecision),
    sampleOpen 2 (15 * decimalPrecision) (1800 * decimalPrecision) (200 * decimalPrecision),
    sampleOpen 3 (15 * decimalPrecision) (1800 * decimalPrecision) (200 * decimalPrecision),
    sampleOpen 4 (30 * decimalPrecision) (1800 * decimalPrecision) (200 * decimalPrecision),
    (Call.provideToSP 1 (10 ^ 27) 0).sent 1 (200 * decimalPrecision),
    (Call.liquidate 5 2).sent 5 (100 * decimalPrecision),
    (Call.withdrawFromSP 1 (10 ^ 27 - 4242 * decimalPrecision)).sent 1 (200 * decimalPrecision),
    (Call.liquidate 5 3).sent 5 (100 * decimalPrecision)]

end Sample

section Deposits

/-- The deposits are covered by the total, and the total by the pool's own USDD, so that the deposits
can be withdrawn in any order. -/
theorem deposits_covered (hw : D.Wired) (h : PoolReachable D g s)
    (hj : ∀ e ∈ s.journal, e.LossCoversDebt) :
    ∃ value : Address → ℕ,
      (∀ d, getCompoundedUSDDDeposit s.stabilityPool d = .ok (value d)) ∧
      ∑ d, value d ≤ s.stabilityPool.totalUSDDDeposits ∧
      s.stabilityPool.totalUSDDDeposits ≤ s.usddToken.balances D.stabilityPool ∧
      ∀ ds : List Address, ds.Nodup → 0 ∉ ds →
        ∃ s', run (fun s d => sendUSDDToDepositor D s d (value d)) s ds = .ok s' := by
  have hsolvent := h.solvent hw hj
  choose value hvalue using fun d => (h.timely hw).getCompoundedUSDDDeposit_eq_ok d
  have hsum : ∑ d, value d ≤ s.stabilityPool.totalUSDDDeposits := by
    have hexact : (∑ d, value d : ℚ) ≤ s.stabilityPool.exactTotal :=
      Finset.sum_le_sum (fun d _ => getCompoundedUSDDDeposit_le (hvalue d))
    exact_mod_cast hexact.trans hsolvent
  obtain ⟨d, c, hc⟩ := h.consistent hw
  have husdd : s.stabilityPool.totalUSDDDeposits ≤ s.usddToken.balances D.stabilityPool :=
    hc.custody.deposits
  have hpool : D.stabilityPool ≠ 0 := by
    intro hz
    refine hw.nonzero (List.mem_cons_of_mem _ (List.mem_cons_of_mem _ ?_))
    rw [← hz]
    exact D.stabilityPool_mem
  exact ⟨value, hvalue, hsum, husdd, fun ds hds hz =>
    run_sendUSDDToDepositor_eq_ok hpool value hz ((sum_map_le_sum hds).trans hsum) husdd⟩

theorem deposits_covered_of_liquidation : ∃ s, sampleRun sampleLiquidation = .ok s ∧
    ∃ value : Address → ℕ, (∀ d, getCompoundedUSDDDeposit s.stabilityPool d = .ok (value d)) ∧
      ∑ d, value d ≤ s.stabilityPool.totalUSDDDeposits := by
  obtain ⟨s, hs, hj⟩ := sampleLiquidation_aroundEmptyPool
  obtain ⟨value, hvalue, hsum, -⟩ := deposits_covered sampleDeployment_wired
    (poolReachable_sampleRun hs) (fun e he => (hj e he).lossCoversDebt)
  exact ⟨s, hs, value, hvalue, hsum⟩

/-- The only deposit is worth more than the total, and cannot be withdrawn. -/
theorem deposit_exceeds_total : ∃ s value, Reachable sampleDeployment s ∧
    getCompoundedUSDDDeposit s.stabilityPool 1 = .ok value ∧
    s.stabilityPool.totalUSDDDeposits < value ∧
    step sampleDeployment s ((Call.withdrawFromSP 1 value).sent 1 (200 * decimalPrecision)) =
      .error (.message "ERC20: transfer amount exceeds balance") := by
  obtain ⟨s, hs, value, hvalue, h⟩ : ∃ s, sampleRun sampleLoss = .ok s ∧
      ∃ value, getCompoundedUSDDDeposit s.stabilityPool 1 = .ok value ∧
        s.stabilityPool.totalUSDDDeposits < value ∧
        step sampleDeployment s ((Call.withdrawFromSP 1 value).sent 1 (200 * decimalPrecision)) =
          .error (.message "ERC20: transfer amount exceeds balance") := by decide +kernel
  exact ⟨s, value, reachable_sampleRun hs, hvalue, h⟩

end Deposits

section Product

/-- The product is in range, and an offset goes through and keeps it there exactly if one change of
scale suffices. -/
theorem product_in_range (hw : D.Wired) (h : PoolReachable D g s)
    (hj : ∀ e ∈ s.journal, e.OneScaleSuffices) :
    s.stabilityPool.ProductInRange ∧
      ∀ debt coll, 0 < debt → debt ≤ s.stabilityPool.totalUSDDDeposits →
        ((∃ r sp', computeRewardsPerUnitStaked s.stabilityPool coll debt
            s.stabilityPool.totalUSDDDeposits = .ok r ∧
          updateRewardSumAndProduct r.pool r.collGainPerUnitStaked r.usddLossPerUnitStaked =
            .ok sp' ∧ sp'.ProductInRange) ↔ s.stabilityPool.OneScaleSuffices debt) := by
  obtain ⟨d, c, hp⟩ := h.path hw
  have hrange : (s.book D d c 0).pool.ProductInRange :=
    hp.conditional (I := fun b => b.pool.ProductInRange) (initial_productInRange g)
      (fun _ _ _ hi hj he => hi.event hj he) hj
  exact ⟨hrange, fun debt coll hpos hle => offset_productInRange_iff hrange coll hpos hle⟩

theorem product_in_range_of_liquidation : ∃ s, sampleRun sampleLiquidation = .ok s ∧
    s.stabilityPool.ProductInRange := by
  obtain ⟨s, hs, hj⟩ : ∃ s, sampleRun sampleLiquidation = .ok s ∧
      ∀ e ∈ s.journal, e.OneScaleSuffices := by decide +kernel
  exact ⟨s, hs, (product_in_range sampleDeployment_wired (poolReachable_sampleRun hs) hj).1⟩

/-- Three offsets that each leave a few units of the pool. The first two divide the product by 10^9
each, and the third one would make it zero. -/
theorem product_vanishes : ∃ s, Reachable sampleDeployment s ∧ s.stabilityPool.P = 1 ∧
    s.stabilityPool.totalUSDDDeposits = 2009 * decimalPrecision + 3000 ∧
    step sampleDeployment s ((Call.liquidate 5 4).sent 5 (100 * decimalPrecision)) =
      .error (.assertion "newP > 0") := by
  obtain ⟨s, hs, h⟩ : ∃ s, sampleRun
      [sampleOpen 1 (10 ^ 24) (10 ^ 22) (200 * decimalPrecision),
        sampleOpen 2 (15 * decimalPrecision) (1800 * decimalPrecision) (200 * decimalPrecision),
        sampleOpen 3 (15 * decimalPrecision) (1800 * decimalPrecision) (200 * decimalPrecision),
        sampleOpen 4 (15 * decimalPrecision) (1800 * decimalPrecision) (200 * decimalPrecision),
        (Call.provideToSP 1 (2009 * decimalPrecision + 3000) 0).sent 1 (200 * decimalPrecision),
        (Call.liquidate 5 2).sent 5 (100 * decimalPrecision),
        (Call.provideToSP 1 (2009 * decimalPrecision) 0).sent 1 (200 * decimalPrecision),
        (Call.liquidate 5 3).sent 5 (100 * decimalPrecision),
        (Call.provideToSP 1 (2009 * decimalPrecision) 0).sent 1 (200 * decimalPrecision)] =
        .ok s ∧ s.stabilityPool.P = 1 ∧
      s.stabilityPool.totalUSDDDeposits = 2009 * decimalPrecision + 3000 ∧
      step sampleDeployment s ((Call.liquidate 5 4).sent 5 (100 * decimalPrecision)) =
        .error (.assertion "newP > 0") := by decide +kernel
  exact ⟨s, reachable_sampleRun hs, h⟩

end Product

section Collateral

/-- The collateral of the pool covers all gains, as long as the total covers the deposits at every
offset. -/
theorem collGains_covered (hw : D.Wired) (h : PoolReachable D g s)
    (hj : ∀ e ∈ s.journal, e.OffsetsSolventPool) :
    ∃ gain : Address → ℕ, (∀ d, getDepositorCollGain s.stabilityPool d = .ok (gain d)) ∧
      ∑ d, gain d ≤ s.stabilityPool.coll ∧
      ∀ ds : List Address, ds.Nodup →
        ∃ coll, run (fun coll d => SafeMath.sub coll (gain d)) s.stabilityPool.coll ds =
          .ok coll := by
  obtain ⟨d, c, hp⟩ := h.path hw
  have hcovered : (s.book D d c 0).pool.CollGainsCovered :=
    hp.conditional (I := fun b => b.pool.CollGainsCovered) (initial_collGainsCovered g)
      (fun _ _ hc hi hj he => hi.event hc.timely hj he) hj
  choose gain hgain using fun d => (h.timely hw).getDepositorCollGain_eq_ok d
  have hsum : ∑ d, gain d ≤ s.stabilityPool.coll := hcovered.sum_le hgain
  exact ⟨gain, hgain, hsum, fun ds hds => run_sub_eq_ok gain ((sum_map_le_sum hds).trans hsum)⟩

theorem collGains_covered_of_liquidation : ∃ s, sampleRun sampleLiquidation = .ok s ∧
    ∃ gain : Address → ℕ, (∀ d, getDepositorCollGain s.stabilityPool d = .ok (gain d)) ∧
      ∑ d, gain d ≤ s.stabilityPool.coll := by
  obtain ⟨s, hs, hj⟩ := sampleLiquidation_aroundEmptyPool
  have hreached := poolReachable_sampleRun hs
  have hsolvent := hreached.ofSolventPool sampleDeployment_wired
    (fun e he => (hj e he).lossCoversDebt)
  obtain ⟨gain, hgain, hsum, -⟩ := collGains_covered sampleDeployment_wired hreached
    (fun e he => (hsolvent e he).offsetsSolventPool)
  exact ⟨s, hs, gain, hgain, hsum⟩

/-- An offset after `sampleLoss` spreads more collateral than it brings. -/
theorem collGain_exceeds_coll : ∃ s gain, Reachable sampleDeployment s ∧
    getDepositorCollGain s.stabilityPool 1 = .ok gain ∧ s.stabilityPool.coll < gain ∧
    step sampleDeployment s ((Call.withdrawFromSP 1 0).sent 1 (60 * decimalPrecision)) =
      .error (.message "SafeMath: subtraction overflow") := by
  obtain ⟨s, hs, gain, hgain, h⟩ : ∃ s, sampleRun (sampleLoss ++
        [(Call.liquidate 5 4).sent 5 (60 * decimalPrecision)]) = .ok s ∧
      ∃ gain, getDepositorCollGain s.stabilityPool 1 = .ok gain ∧ s.stabilityPool.coll < gain ∧
        step sampleDeployment s ((Call.withdrawFromSP 1 0).sent 1 (60 * decimalPrecision)) =
          .error (.message "SafeMath: subtraction overflow") := by decide +kernel
  exact ⟨s, gain, reachable_sampleRun hs, hgain, h⟩

end Collateral

section FrontEnds

end FrontEnds

section Issuance

theorem PoolReachable.issued_le (hw : D.Wired) (h : PoolReachable D g s) :
    s.communityIssuance.totalDEFTIssued ≤ g.deftSupplyCap := by
  obtain ⟨d, c, hp⟩ := h.path hw
  have hcap : (s.book D d c 0).totalDEFTIssued ≤ (s.book D d c 0).deftSupplyCap ∧
      (s.book D d c 0).deftSupplyCap = g.deftSupplyCap := by
    refine Path.invariant (I := fun b => b.totalDEFTIssued ≤ b.deftSupplyCap ∧
      b.deftSupplyCap = g.deftSupplyCap) ?_ hp ⟨Nat.zero_le _, rfl⟩
    rintro b b' he ⟨hle, heq⟩
    cases he with
    | issues _ hcap => exact ⟨hcap, heq⟩
    | _ => exact ⟨hle, heq⟩
  exact hcap.1.trans_eq hcap.2

end Issuance

end Usdd

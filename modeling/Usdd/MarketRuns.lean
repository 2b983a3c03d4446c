import Usdd.ProtocolPaths

/-!
# Runs of a market

What every run keeps: the active pool records the troves, the registries agree, and the default pool
covers the pending rewards. Then what the runs keep that meet a condition: debt rewards are realised,
stakes stay positive, and the list stays in order.
-/

open Transaction

namespace Usdd

open TroveManager

variable {D : Deployment} {s s' : State} {b : Book}

/-- Of the third trove, the deposit offsets a part and the other two troves receive the rest. -/
def sampleLiquidation : List Transact :=
  [sampleOpen 1 (100 * decimalPrecision) (1800 * decimalPrecision) (200 * decimalPrecision),
    sampleOpen 2 (50 * decimalPrecision) (1800 * decimalPrecision) (200 * decimalPrecision),
    sampleOpen 3 (15 * decimalPrecision) (1800 * decimalPrecision) (200 * decimalPrecision),
    (Call.provideToSP 1 (500 * decimalPrecision) 0).sent 1 (200 * decimalPrecision),
    (Call.liquidate 4 3).sent 4 (100 * decimalPrecision)]

theorem sampleLiquidation_succeeds : ∃ s, sampleRun sampleLiquidation = .ok s ∧
    s.troveManager.Active 1 ∧ (∀ e ∈ s.journal, e.RaisesCollWithDebt) ∧
    (∀ e ∈ s.journal, e.KeepsStake) ∧ ∀ e ∈ s.journal, e.KeepsOrder := by
  decide +kernel

section Registries

/-- A sum over the active troves of an amount that only they have. -/
theorem Registry.sum_active {tm : TroveManager} {d : SortedTroves.Data} (h : Registry tm d)
    {f : Trove → ℕ} (hf : ∀ t : Trove, t.debt = 0 → t.coll = 0 → t.stake = 0 → f t = 0) :
    ∑ a with tm.Active a, f (tm.troves a) = ∑ a, f (tm.troves a) := by
  rw [Finset.sum_filter]
  apply Finset.sum_congr rfl
  intro a _
  split_ifs with ha
  · rfl
  · obtain ⟨hdebt, hcoll, hstake, -⟩ := h.inactive a ha
    exact (hf _ hdebt hcoll hstake).symm

theorem activePool_eq_sum_troves (hw : D.Wired) (h : Reachable D s) :
    s.activePool.usddDebt = ∑ a with s.troveManager.Active a, (s.troveManager.troves a).debt ∧
      s.activePool.balances D.collToken =
        ∑ a with s.troveManager.Active a, (s.troveManager.troves a).coll := by
  obtain ⟨hreg, hacc, -⟩ := h.consistent hw
  have hdebt := hreg.sum_active (f := Trove.debt) (fun _ hd _ _ => hd)
  have hcoll := hreg.sum_active (f := Trove.coll) (fun _ _ hc _ => hc)
  have hactiveDebt := hacc.debt
  have hactiveColl := hacc.coll
  rw [← hdebt] at hactiveDebt
  rw [← hcoll] at hactiveColl
  dsimp only [State.book] at hactiveDebt hactiveColl
  rw [add_zero] at hactiveDebt hactiveColl
  exact ⟨Nat.cast_inj.1 hactiveDebt, Nat.cast_inj.1 hactiveColl⟩

theorem activePool_eq_sum_troves_of_liquidation : ∃ s, sampleRun sampleLiquidation = .ok s ∧
    s.activePool.usddDebt = ∑ a with s.troveManager.Active a, (s.troveManager.troves a).debt ∧
      s.activePool.balances sampleDeployment.collToken =
        ∑ a with s.troveManager.Active a, (s.troveManager.troves a).coll := by
  obtain ⟨s, hs, -⟩ := sampleLiquidation_succeeds
  exact ⟨s, hs, activePool_eq_sum_troves sampleDeployment_wired (reachable_sampleRun hs)⟩

theorem registries_agree (hw : D.Wired) (h : Reachable D s) :
    (∀ a, (s.troveManager.troves a).status = .active ↔ a ∈ s.troveManager.troveOwners) ∧
      (∀ a, (s.troveManager.troves a).status = .active ↔ a ∈ s.sortedTroves.forward) ∧
      s.troveManager.troveOwners.Nodup ∧
      (∀ a, (s.troveManager.troves a).status = .active →
        s.troveManager.troveOwners[(s.troveManager.troves a).arrayIndex]? = some a) ∧
      s.sortedTroves.size = s.troveManager.troveOwners.length ∧
      s.troveManager.totalStakes = ∑ a, (s.troveManager.troves a).stake ∧
      (∀ a, (s.troveManager.troves a).status ≠ .active →
        (s.troveManager.troves a).debt = 0 ∧ (s.troveManager.troves a).coll = 0 ∧
          (s.troveManager.troves a).stake = 0 ∧ s.troveManager.rewardSnapshots a = ⟨0, 0⟩) ∧
      ((∃ a, (s.troveManager.troves a).status = .active) →
        ∀ s', Transaction.Reachable (step D) (fun s₀ => s₀ = s) (Allowed D) s' →
          ∃ a, (s'.troveManager.troves a).status = .active) := by
  have hreg := (h.consistent hw).registry
  refine ⟨fun a => (hreg.mem_owners a).symm, fun a => (hreg.mem_list a).symm, hreg.indexed.nodup,
    fun a ha => hreg.indexed.getElem? ((hreg.mem_owners a).2 ha), hreg.size_eq,
    hreg.totalStakes.symm, hreg.inactive, ?_⟩
  rintro ⟨a, ha⟩ s' hs'
  have hinv : (s'.book D 0 0 0).Reached D ∧ s'.troveManager.troveOwners ≠ [] := by
    refine Transaction.Reachable.invariant
      (I := fun s => (s.book D 0 0 0).Reached D ∧ s.troveManager.troveOwners ≠ []) ?_ ?_ hs'
    · rintro s rfl
      exact ⟨h.reached hw, List.ne_nil_of_mem ((hreg.mem_owners a).2 ha)⟩
    · rintro s t s' ⟨hs, howners⟩ hallowed hstep
      exact ⟨hs.step hw hallowed hstep,
        (hs.step_path hw hallowed hstep).troveOwners_ne_nil howners⟩
  obtain ⟨a', ha'⟩ := List.exists_mem_of_ne_nil _ hinv.2
  exact ⟨a', (hinv.1.consistent.registry.mem_owners a').1 ha'⟩

theorem registries_agree_of_liquidation : ∃ s, sampleRun sampleLiquidation = .ok s ∧
    s.sortedTroves.size = s.troveManager.troveOwners.length ∧
      s.troveManager.totalStakes = ∑ a, (s.troveManager.troves a).stake := by
  obtain ⟨s, hs, -⟩ := sampleLiquidation_succeeds
  obtain ⟨-, -, -, -, hsize, hstakes, -⟩ :=
    registries_agree sampleDeployment_wired (reachable_sampleRun hs)
  exact ⟨s, hs, hsize, hstakes⟩

end Registries

section Floors

/-- At every point of every run, an active trove has at least the minimum debt and some collateral.
So the reserve can be subtracted from its debt, and its debt divides. -/
theorem active_troves_floored (hw : D.Wired) (h : Reachable D s)
    (hp : Path D (s.book D 0 0 0) b) {a : Address} (ha : b.troveManager.Active a) :
    minNetDebt + usddGasCompensation ≤ (b.troveManager.troves a).debt ∧
      0 < (b.troveManager.troves a).coll ∧
      (∃ netDebt, getNetDebt (b.troveManager.troves a).debt = .ok netDebt ∧ minNetDebt ≤ netDebt) ∧
      ∀ amount, SafeMath.div amount (b.troveManager.troves a).debt =
          .ok (amount / (b.troveManager.troves a).debt) ∧
        SafeMath.div amount (b.troveManager.currentDebt a) =
          .ok (amount / b.troveManager.currentDebt a) := by
  have hreg := ((h.reached hw).trans hp).consistent.registry
  obtain ⟨hdebt, hcoll⟩ := hreg.active a ha
  have hmin : 0 < minNetDebt := by decide
  have hcurrent : (b.troveManager.troves a).debt ≤ b.troveManager.currentDebt a :=
    Nat.le_add_right _ _
  refine ⟨hdebt, hcoll, ⟨_, sub_eq_ok.2 ⟨by omega, rfl⟩, by omega⟩, fun amount => ?_⟩
  exact ⟨div_eq_ok.2 ⟨by omega, rfl⟩, div_eq_ok.2 ⟨by omega, rfl⟩⟩

theorem active_troves_floored_of_liquidation : ∃ s, sampleRun sampleLiquidation = .ok s ∧
    minNetDebt + usddGasCompensation ≤ (s.troveManager.troves 1).debt ∧
      0 < (s.troveManager.troves 1).coll := by
  obtain ⟨s, hs, ha, -⟩ := sampleLiquidation_succeeds
  obtain ⟨hdebt, hcoll, -⟩ :=
    active_troves_floored sampleDeployment_wired (reachable_sampleRun hs) (Path.refl _) ha
  exact ⟨s, hs, hdebt, hcoll⟩

end Floors

section Rewards

/-- The rewards pending for the active troves, at every point of every run. -/
theorem defaultPool_covers_coll (hw : D.Wired) (h : Reachable D s)
    (hp : Path D (s.book D 0 0 0) b) :
    (∀ a, b.troveManager.Active a →
      getPendingCollReward b.troveManager a = .ok (b.troveManager.pendingColl a)) ∧
      ∑ a with b.troveManager.Active a, b.troveManager.pendingColl a ≤ b.defaultColl ∧
      ∑ a with b.troveManager.Active a, (b.troveManager.troves a).stake *
          (b.troveManager.lColl - (b.troveManager.rewardSnapshots a).coll) +
        b.troveManager.lastETHErrorRedistribution ≤ decimalPrecision * b.defaultColl := by
  obtain ⟨hreg, -, -, hcovered, -⟩ := ((h.reached hw).trans hp).consistent
  refine ⟨fun a ha => ?_, ?_, ?_⟩
  · exact (getPendingCollReward_eq_ok_iff ha).2 ⟨(hreg.snapshot_le a).1, rfl⟩
  · exact (Finset.sum_le_univ_sum_of_nonneg (fun _ => Nat.zero_le _)).trans
      (hcovered.sum_share_le (by decide))
  · exact (Nat.add_le_add_right (Finset.sum_le_univ_sum_of_nonneg (fun _ => Nat.zero_le _)) _).trans
      hcovered

theorem defaultPool_covers_coll_of_liquidation : ∃ s, sampleRun sampleLiquidation = .ok s ∧
    ∑ a with s.troveManager.Active a, s.troveManager.pendingColl a ≤
      s.defaultPool.balances sampleDeployment.collToken := by
  obtain ⟨s, hs, -⟩ := sampleLiquidation_succeeds
  exact ⟨s, hs, (defaultPool_covers_coll sampleDeployment_wired (reachable_sampleRun hs)
    (Path.refl _)).2.1⟩

/-- The debt rewards, as long as no redistribution raises the debt accumulator alone. -/
theorem defaultPool_covers_debt {d c g : ℤ} (hw : D.Wired) (h : Reachable D s)
    (hp : Path D (s.book D 0 0 0) (s'.book D d c g))
    (hj : ∀ e ∈ s'.journal, e.RaisesCollWithDebt) :
    (∀ a, s'.troveManager.Active a →
      getPendingUSDDDebtReward s'.troveManager a = .ok (s'.troveManager.pendingDebt a)) ∧
      ∑ a with s'.troveManager.Active a, s'.troveManager.pendingDebt a ≤
        s'.defaultPool.usddDebt ∧
      (∀ tm a, .restake tm a ∈ s'.journal → tm.pendingDebt a = 0) ∧
      ∀ a s₁, s'.troveManager.Active a → applyPendingRewards D s' a = .ok s₁ →
        getPendingCollReward s₁.troveManager a = .ok 0 ∧
          getPendingUSDDDebtReward s₁.troveManager a = .ok 0 := by
  have hreached := (h.reached hw).trans hp
  have hreg : Registry s'.troveManager s'.sortedTroves := hreached.consistent.registry
  obtain ⟨hcovered, -, hrestakes⟩ : (s'.book D d c g).DebtRealised :=
    hreached.conditional (initial_debtRealised D)
      (fun _ _ hc hi hj he => hi.event hc.registry hj he) hj
  refine ⟨fun a ha => ?_, ?_, fun tm a hm => pendingDebt_of_le (hrestakes tm a hm),
    fun a s₁ ha h₁ => ?_⟩
  · exact (getPendingUSDDDebtReward_eq_ok_iff ha).2 ⟨(hreg.snapshot_le a).2, rfl⟩
  · exact (Finset.sum_le_univ_sum_of_nonneg (fun _ => Nat.zero_le _)).trans
      (hcovered.sum_share_le (by decide))
  · have hactive := applyPendingRewards_active ha h₁
    have hsnapshot := applyPendingRewards_snapshot ha h₁
    have hreg₁ := (applyPendingRewards_path ha h₁ d c g).registry hreg
    have hreached₁ := hreached.trans (applyPendingRewards_path ha h₁ d c g)
    have hjournal : s₁.journal = s'.journal := by
      rcases applyPendingRewards_book ha h₁ with ⟨rfl, -⟩ | ⟨coll, debt, -, -, hb⟩
      · rfl
      · exact congrArg Book.journal (hb 0 0 0).2.2
    have hrealised : (s₁.book D d c g).DebtRealised :=
      hreached₁.conditional (initial_debtRealised D)
        (fun _ _ hc hi hj he => hi.event hc.registry hj he) (fun e he => hj e (hjournal ▸ he))
    constructor
    · exact (getPendingCollReward_eq_ok_iff hactive).2
        ⟨(hreg₁.snapshot_le a).1, (pendingColl_of_le hsnapshot).symm⟩
    · exact (getPendingUSDDDebtReward_eq_ok_iff hactive).2
        ⟨(hreg₁.snapshot_le a).2, (pendingDebt_of_le (hrealised.inStep a hactive hsnapshot)).symm⟩

theorem defaultPool_covers_debt_of_liquidation : ∃ s, sampleRun sampleLiquidation = .ok s ∧
    ∑ a with s.troveManager.Active a, s.troveManager.pendingDebt a ≤ s.defaultPool.usddDebt := by
  obtain ⟨s, hs, -, hj, -⟩ := sampleLiquidation_succeeds
  exact ⟨s, hs, (defaultPool_covers_debt sampleDeployment_wired (reachable_sampleRun hs)
    (Path.refl _) hj).2.1⟩

/-- The deposit offsets all but 100 units of the debt, too little collateral for one unit of the
accumulator. The debt that the first trove owes for it is not realised when the trove is adjusted. -/
def sampleDebtRedistribution : List Transact :=
  [sampleOpen 1 (50 * decimalPrecision) (3000 * decimalPrecision) (2000 * decimalPrecision),
    sampleOpen 2 (2 * decimalPrecision) (1800 * decimalPrecision) (2000 * decimalPrecision),
    (Call.provideToSP 1 (2009 * decimalPrecision - 100) 0).sent 1 (2000 * decimalPrecision),
    (Call.liquidate 3 2).sent 3 (1000 * decimalPrecision)]

theorem defaultPool_short_of_debt :
    (∃ s s₁, Reachable sampleDeployment s ∧ s.troveManager.Active 1 ∧
      applyPendingRewards sampleDeployment s 1 = .ok s₁ ∧
      getPendingUSDDDebtReward s₁.troveManager 1 = .ok 100) ∧
    ∃ s, Reachable sampleDeployment s ∧ s.defaultPool.usddDebt <
      ∑ a with s.troveManager.Active a, s.troveManager.pendingDebt a := by
  constructor
  · obtain ⟨s, hs, ha, s₁, h₁, hdebt⟩ : ∃ s, sampleRun sampleDebtRedistribution = .ok s ∧
        s.troveManager.Active 1 ∧ ∃ s₁, applyPendingRewards sampleDeployment s 1 = .ok s₁ ∧
          ∃ debt, getPendingUSDDDebtReward s₁.troveManager 1 = .ok debt ∧ debt = 100 := by
      decide +kernel
    obtain ⟨debt, hdebt, rfl⟩ := hdebt
    exact ⟨s, s₁, reachable_sampleRun hs, ha, h₁, hdebt⟩
  · obtain ⟨s, hs, ha, hlt⟩ : ∃ s, sampleRun (sampleDebtRedistribution ++
          [(Call.addColl (450 * decimalPrecision) 0 0).sent 1 (1000 * decimalPrecision)]) = .ok s ∧
        s.troveManager.Active 1 ∧ s.defaultPool.usddDebt < s.troveManager.pendingDebt 1 := by
      decide +kernel
    refine ⟨s, reachable_sampleRun hs, hlt.trans_le ?_⟩
    exact Finset.single_le_sum (f := s.troveManager.pendingDebt) (fun _ _ => Nat.zero_le _)
      (Finset.mem_filter.2 ⟨Finset.mem_univ _, ha⟩)

end Rewards

section Stakes

/-- Stakes stay alive as long as no trove is too small for one unit of stake. -/
theorem stakes_live (hw : D.Wired) (h : Reachable D s) (hp : Path D (s.book D 0 0 0) b)
    (hj : ∀ e ∈ b.journal, e.KeepsStake) :
    ((∃ a, b.troveManager.Active a) → 0 < b.troveManager.totalStakes) ∧
      (0 < b.troveManager.totalCollateralSnapshot → 0 < b.troveManager.totalStakesSnapshot) ∧
      (∀ a, b.troveManager.Active a → 0 < (b.troveManager.troves a).stake) ∧
      (∀ coll, ∃ stake, computeNewStake b.troveManager coll = .ok stake) ∧
      ((∃ a, b.troveManager.Active a) →
        ∀ debt coll, ∃ tm, addRewardTerms b.troveManager debt coll = .ok tm) := by
  have hreached := (h.reached hw).trans hp
  have hreg := hreached.consistent.registry
  have hs : b.troveManager.StakesPositive :=
    Book.Reached.conditional (I := fun b => b.troveManager.StakesPositive) initial_stakesPositive
      (fun _ _ hc hi hj he => hi.event hc.registry hj he) hreached hj
  refine ⟨?_, hs.snapshot, hs.stake, hs.computeNewStake_eq_ok, ?_⟩
  · rintro ⟨a, ha⟩
    exact hreg.totalStakes_pos hs ha
  · rintro ⟨a, ha⟩ debt coll
    exact hreg.addRewardTerms_of_active hs ha debt coll

theorem stakes_live_of_liquidation : ∃ s, sampleRun sampleLiquidation = .ok s ∧
    ∀ a, s.troveManager.Active a → 0 < (s.troveManager.troves a).stake := by
  obtain ⟨s, hs, -, -, hj, -⟩ := sampleLiquidation_succeeds
  exact ⟨s, hs, (stakes_live sampleDeployment_wired (reachable_sampleRun hs) (Path.refl _)
    hj).2.2.1⟩

/-- The large trove leaves the first one, and each one opened after that has no stake. When the
first one is liquidated, there is no stake to spread its debt over. -/
theorem stake_vanishes : ∃ s, Reachable sampleDeployment s ∧ s.troveManager.Active 4 ∧
    (s.troveManager.troves 4).stake = 0 ∧
    step sampleDeployment s ((Call.liquidate 3 1).sent 3 (50 * decimalPrecision)) =
      .error (.message "SafeMath: division by zero") := by
  obtain ⟨s, hs, h⟩ : ∃ s, sampleRun
      [sampleOpen 1 (20 * decimalPrecision) (1800 * decimalPrecision) (200 * decimalPrecision),
        sampleOpen 2 (10 ^ 40) (10 ^ 42) (200 * decimalPrecision),
        (Call.liquidate 3 2).sent 3 (100 * decimalPrecision),
        sampleOpen 4 (20 * decimalPrecision) (1800 * decimalPrecision) (1000 * decimalPrecision),
        sampleOpen 5 (20 * decimalPrecision) (1800 * decimalPrecision) (1000 * decimalPrecision)] =
        .ok s ∧ s.troveManager.Active 4 ∧ (s.troveManager.troves 4).stake = 0 ∧
      step sampleDeployment s ((Call.liquidate 3 1).sent 3 (50 * decimalPrecision)) =
        .error (.message "SafeMath: division by zero") := by decide +kernel
  exact ⟨s, reachable_sampleRun hs, h⟩

end Stakes

section Order

/-- The list stays in order at every price, as long as ties of the nominal ratio are exact and no
redistribution rounds more than the margins of its neighbours. -/
theorem list_ordered (hw : D.Wired) (h : Reachable D s) (hp : Path D (s.book D 0 0 0) b)
    (hj : ∀ e ∈ b.journal, e.KeepsOrder) :
    b.sortedTroves.forward.Pairwise (fun x y =>
      (∃ nx ny, getNominalICR b.troveManager x = .ok nx ∧ getNominalICR b.troveManager y = .ok ny ∧
        ny ≤ nx) ∧
      ∀ price, ∃ cx cy, getCurrentICR b.troveManager x price = .ok cx ∧
        getCurrentICR b.troveManager y price = .ok cy ∧ cy ≤ cx) := by
  have hreached := (h.reached hw).trans hp
  have hreg := hreached.consistent.registry
  have hordered : b.Ordered :=
    hreached.conditional (initial_ordered D)
      (fun _ _ hc hi hj he => hi.event hc.registry hj he) hj
  refine List.Pairwise.imp_of_mem ?_ hordered
  intro x y hx hy hxy
  have hax := (hreg.mem_list x).1 hx
  have hay := (hreg.mem_list y).1 hy
  obtain ⟨hcx, hdx⟩ := hreg.snapshot_le x
  obtain ⟨hcy, hdy⟩ := hreg.snapshot_le y
  exact ⟨⟨_, _, getNominalICR_of_active hax hcx hdx, getNominalICR_of_active hay hcy hdy,
    hxy.computeNominalCR_le⟩, fun price => ⟨_, _, getCurrentICR_of_active hax hcx hdx price,
    getCurrentICR_of_active hay hcy hdy price, hxy.computeCR_le price⟩⟩

theorem list_ordered_of_liquidation : ∃ s, sampleRun sampleLiquidation = .ok s ∧
    s.sortedTroves.forward.Pairwise (fun x y => ∀ price, ∃ cx cy,
      getCurrentICR s.troveManager x price = .ok cx ∧
        getCurrentICR s.troveManager y price = .ok cy ∧ cy ≤ cx) := by
  obtain ⟨s, hs, -, -, -, hj⟩ := sampleLiquidation_succeeds
  exact ⟨s, hs, (list_ordered sampleDeployment_wired (reachable_sampleRun hs) (Path.refl _)
    hj).imp (fun h => h.2)⟩

/-- The ratios of the last two troves are equal to 20 digits, and the hint places the better one
last. It hides the other one from the loop that starts at the end of the list. -/
theorem list_out_of_order : ∃ s price, Reachable sampleDeployment s ∧
    (s.sortedTroves.nodes 2).nextId = 3 ∧
    (∃ cx cy, getCurrentICR s.troveManager 2 price = .ok cx ∧
      getCurrentICR s.troveManager 3 price = .ok cy ∧ cx < MCR ∧ MCR ≤ cy) ∧
    step sampleDeployment s ((Call.liquidateTroves 4 10).sent 4 price) =
      .error (.message "TroveManager: nothing to liquidate") ∧
    ∃ s', step sampleDeployment s ((Call.liquidate 4 2).sent 4 price) = .ok s' := by
  let price := 147326666666666666648
  obtain ⟨s, hs, hnext, ⟨cx, hx, cy, hy, hlt⟩, hfails, s', hs', -⟩ : ∃ s, sampleRun
      [sampleOpen 1 (100 * decimalPrecision) (1800 * decimalPrecision) (200 * decimalPrecision),
        sampleOpen 2 (15 * decimalPrecision + 1) (1800 * decimalPrecision) (200 * decimalPrecision),
        (Call.openTrove 3 decimalPrecision (15 * decimalPrecision + 2) (1800 * decimalPrecision) 2
          0).sent 3 (200 * decimalPrecision)] = .ok s ∧
      (s.sortedTroves.nodes 2).nextId = 3 ∧
      (∃ cx, getCurrentICR s.troveManager 2 price = .ok cx ∧
        ∃ cy, getCurrentICR s.troveManager 3 price = .ok cy ∧ cx < MCR ∧ MCR ≤ cy) ∧
      step sampleDeployment s ((Call.liquidateTroves 4 10).sent 4 price) =
        .error (.message "TroveManager: nothing to liquidate") ∧
      ∃ s', step sampleDeployment s ((Call.liquidate 4 2).sent 4 price) = .ok s' ∧ True := by
    decide +kernel
  exact ⟨s, price, reachable_sampleRun hs, hnext, ⟨cx, cy, hx, hy, hlt⟩, hfails, s', hs'⟩

end Order

end Usdd

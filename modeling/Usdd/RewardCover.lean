import Usdd.Registry

/-!
# The default pool covers the pending rewards

Collateral rewards are covered after every event. Debt rewards are covered as long as no
redistribution raises the debt accumulator alone: `hasPendingRewards` looks at the collateral
accumulator only, so that a trove could then be restaked with debt rewards still pending.
-/

open Transaction

namespace Usdd

open TroveManager
open RewardAccumulator (Covers earned)

def Book.CollCovered (b : Book) : Prop :=
  Covers decimalPrecision b.defaultColl b.troveManager.lColl
    b.troveManager.lastETHErrorRedistribution b.troveManager.stakes b.troveManager.collSnapshots

def Book.DebtCovered (b : Book) : Prop :=
  Covers decimalPrecision b.defaultDebt b.troveManager.lUSDDDebt
    b.troveManager.lastUSDDDebtErrorRedistribution b.troveManager.stakes
    b.troveManager.debtSnapshots

/-- A redistribution that raises the debt accumulator raises the collateral accumulator. -/
def JournalEntry.RaisesCollWithDebt : JournalEntry → Prop
  | .redistribute tm _ debt coll =>
      tm.totalStakes ≤ coll * decimalPrecision + tm.lastETHErrorRedistribution ∨
        debt * decimalPrecision + tm.lastUSDDDebtErrorRedistribution < tm.totalStakes
  | _ => True

instance : DecidablePred JournalEntry.RaisesCollWithDebt
  | .redistribute _ _ _ _ => inferInstanceAs (Decidable (_ ∨ _))
  | .restake _ _ => isTrue trivial
  | .offset _ _ => isTrue trivial
  | .changeDeposit _ _ => isTrue trivial

/-- A trove that is up to date in collateral is up to date in debt. -/
def TroveManager.InStep (tm : TroveManager) : Prop :=
  ∀ a, tm.Active a → tm.lColl ≤ tm.collSnapshots a → tm.lUSDDDebt ≤ tm.debtSnapshots a

namespace TroveManager

variable {tm tm' : TroveManager} {id : Address}

/-- A write to one trove that leaves it up to date, or without a stake, keeps a pot covered that
pays no more than the trove has earned. -/
theorem Frame.covers (hf : Frame tm tm' id) {pot level error paid : ℕ}
    {snapshot snapshot' : Address → ℕ}
    (h : Covers decimalPrecision pot level error tm.stakes snapshot)
    (hs : ∀ a, a ≠ id → snapshot' a = snapshot a)
    (hcurrent : level ≤ snapshot' id ∨ tm'.stakes id = 0)
    (hp : paid ≤ earned tm.stakes snapshot level id / decimalPrecision) :
    Covers decimalPrecision (pot - paid) level error tm'.stakes snapshot' := by
  have hpaid : decimalPrecision * paid ≤ earned tm.stakes snapshot level id :=
    (Nat.mul_le_mul_left _ hp).trans (Nat.mul_div_le _ _)
  have hzero : earned tm'.stakes snapshot' level id = 0 := by
    rcases hcurrent with hle | hz
    · rw [earned, Nat.sub_eq_zero_of_le hle, Nat.mul_zero]
    · rw [earned, hz, Nat.zero_mul]
  refine h.change id (fun a ha => hf.stake a ha) hs ?_
  show earned tm'.stakes snapshot' level id + _ ≤ _
  rwa [hzero, Nat.zero_add]

theorem InStep.write (h : tm.InStep) (hf : Frame tm tm' id)
    (hid : tm'.Active id → tm.lColl ≤ tm'.collSnapshots id →
      tm.lUSDDDebt ≤ tm'.debtSnapshots id) : tm'.InStep := by
  intro a ha hle
  rw [hf.lColl] at hle
  rw [hf.lUSDDDebt]
  by_cases haid : a = id
  · subst haid
    exact hid ha hle
  · rw [hf.collSnapshots haid] at hle
    rw [hf.debtSnapshots haid]
    exact h a ((hf.active_iff haid).1 ha) hle

end TroveManager

namespace Registry

variable {tm : TroveManager} {d : SortedTroves.Data} {id : Address}

/-- A redistribution raises both covers by what it moves into the default pool. -/
theorem distribute (h : Registry tm d) {unit pot level error amount rise error' : ℕ}
    {snapshot : Address → ℕ} (hs : ∀ a, snapshot a ≤ level)
    (hc : Covers unit pot level error tm.stakes snapshot)
    (hrise : rise = (amount * unit + error) / tm.totalStakes)
    (herror : error' = amount * unit + error - rise * tm.totalStakes) :
    Covers unit (pot + amount) (level + rise) error' tm.stakes snapshot := by
  have hd := hc.distribute hs amount
  rw [h.totalStakes] at hd
  rw [herror, hrise]
  exact hd

end Registry

variable {D : Deployment} {b b' : Book}

theorem Book.CollCovered.event (hreg : Registry b.troveManager b.sortedTroves)
    (h : b.CollCovered) (he : Event D b b') : b'.CollCovered := by
  cases he with
  | opens hnew hdebt hstake hlist hgas hpool =>
      obtain ⟨hd, hc, hs, -⟩ := hreg.inactive _ hnew
      obtain ⟨stake, -, heq⟩ := opened_eq_ok hd hc hs hstake
      rw [heq]
      refine entered_frame.covers h (fun a => entered_frame.collSnapshots) (Or.inl ?_)
        (Nat.zero_le _)
      rw [collSnapshots, entered_snapshot]
  | realises hactive hcoll hdebt hdefaultColl hdefaultDebt =>
      obtain ⟨-, hpaid⟩ := (getPendingCollReward_eq_ok_iff hactive).1 hcoll
      refine realised_frame.covers h (fun a => realised_frame.collSnapshots) (Or.inl ?_)
        hpaid.le
      rw [collSnapshots, realised_snapshot]
      exact le_rfl
  | amends hactive hsnapshot hdebt hstake =>
      obtain ⟨stake, -, -, rfl⟩ := amended_eq_ok hstake
      exact restaked_frame.covers h (fun a => restaked_frame.collSnapshots) (Or.inl hsnapshot)
        (Nat.zero_le _)
  | closes hstatus hmore hstake howner hlist =>
      obtain ⟨-, -, rfl⟩ := departed_eq_ok hstake howner
      refine departed_frame.covers h (fun a => departed_frame.collSnapshots) (Or.inr ?_)
        (Nat.zero_le _)
      rw [stakes, departed_troves, if_pos rfl]
  | redistributes hpos hterms hdebt hcoll =>
      obtain ⟨-, q, r, e, f, hq, -, he, -, rfl⟩ := addRewardTerms_eq_ok hterms
      exact hreg.distribute (fun a => (hreg.snapshot_le a).1) h hq he
  | snapshots => exact h
  | _ => exact h

theorem Book.DebtCovered.event (hreg : Registry b.troveManager b.sortedTroves)
    (hstep : b.troveManager.InStep) (h : b.DebtCovered) (he : Event D b b') : b'.DebtCovered := by
  cases he with
  | opens hnew hdebt hstake hlist hgas hpool =>
      obtain ⟨hd, hc, hs, -⟩ := hreg.inactive _ hnew
      obtain ⟨stake, -, heq⟩ := opened_eq_ok hd hc hs hstake
      rw [heq]
      refine entered_frame.covers h (fun a => entered_frame.debtSnapshots) (Or.inl ?_)
        (Nat.zero_le _)
      rw [debtSnapshots, entered_snapshot]
  | realises hactive hcoll hdebt hdefaultColl hdefaultDebt =>
      obtain ⟨-, hpaid⟩ := (getPendingUSDDDebtReward_eq_ok_iff hactive).1 hdebt
      refine realised_frame.covers h (fun a => realised_frame.debtSnapshots) (Or.inl ?_)
        hpaid.le
      rw [debtSnapshots, realised_snapshot]
      exact le_rfl
  | amends hactive hsnapshot hdebt hstake =>
      obtain ⟨stake, -, -, rfl⟩ := amended_eq_ok hstake
      exact restaked_frame.covers h (fun a => restaked_frame.debtSnapshots)
        (Or.inl (hstep _ hactive hsnapshot)) (Nat.zero_le _)
  | closes hstatus hmore hstake howner hlist =>
      obtain ⟨-, -, rfl⟩ := departed_eq_ok hstake howner
      refine departed_frame.covers h (fun a => departed_frame.debtSnapshots) (Or.inr ?_)
        (Nat.zero_le _)
      rw [stakes, departed_troves, if_pos rfl]
  | redistributes hpos hterms hdebt hcoll =>
      obtain ⟨-, q, r, e, f, -, hr, -, hf, rfl⟩ := addRewardTerms_eq_ok hterms
      exact hreg.distribute (fun a => (hreg.snapshot_le a).2) h hr hf
  | snapshots => exact h
  | _ => exact h

theorem TroveManager.InStep.event (hreg : Registry b.troveManager b.sortedTroves)
    (h : b.troveManager.InStep) (hj : ∀ e ∈ b'.journal, e.RaisesCollWithDebt)
    (he : Event D b b') : b'.troveManager.InStep := by
  cases he with
  | opens hnew hdebt hstake hlist hgas hpool =>
      obtain ⟨hd, hc, hs, -⟩ := hreg.inactive _ hnew
      obtain ⟨stake, -, heq⟩ := opened_eq_ok hd hc hs hstake
      rw [heq]
      refine h.write entered_frame (fun _ _ => ?_)
      rw [debtSnapshots, entered_snapshot]
  | realises hactive hcoll hdebt hdefaultColl hdefaultDebt =>
      refine h.write realised_frame (fun _ _ => ?_)
      rw [debtSnapshots, realised_snapshot]
  | amends hactive hsnapshot hdebt hstake =>
      obtain ⟨stake, -, -, rfl⟩ := amended_eq_ok hstake
      exact h.write restaked_frame (fun _ hle => h _ hactive hle)
  | closes hstatus hmore hstake howner hlist =>
      obtain ⟨-, -, rfl⟩ := departed_eq_ok hstake howner
      refine h.write departed_frame (fun ha _ => ?_)
      rw [Active, departed_troves, if_pos rfl] at ha
      exact absurd ha hstatus.2
  | redistributes hpos hterms hdebt hcoll =>
      obtain ⟨hstakes, q, r, e, f, hq, hr, -, -, rfl⟩ := addRewardTerms_eq_ok hterms
      have hpos : 0 < b.troveManager.totalStakes := Nat.pos_of_ne_zero hstakes
      intro a ha (hle : b.troveManager.lColl + q ≤ b.troveManager.collSnapshots a)
      have hsnap := (hreg.snapshot_le a).1
      have hq₀ : q = 0 := by omega
      rcases hj _ (List.mem_cons_self ..) with hc | hd
      · have := Nat.div_pos hc hpos
        omega
      · have hr₀ : r = 0 := by rw [hr, Nat.div_eq_of_lt hd]
        show b.troveManager.lUSDDDebt + r ≤ b.troveManager.debtSnapshots a
        rw [hr₀]
        exact h a ha (by omega)
  | snapshots => exact h
  | _ => exact h

structure Book.DebtRealised (b : Book) : Prop where
  covered : b.DebtCovered
  inStep : b.troveManager.InStep
  restakes : ∀ tm a, .restake tm a ∈ b.journal → tm.lUSDDDebt ≤ tm.debtSnapshots a

/-- The debt rewards of a trove are realised before its stake changes. -/
theorem Book.DebtRealised.restakes_event (h : b.DebtRealised) (he : Event D b b') :
    ∀ tm a, .restake tm a ∈ b'.journal → tm.lUSDDDebt ≤ tm.debtSnapshots a := by
  cases he with
  | @opens id _ _ coll debt =>
      intro tm a hm
      rcases List.mem_cons.1 hm with heq | hm
      · cases heq
        simp [debtSnapshots, opened_eq]
      · exact h.restakes tm a hm
  | @amends id _ _ coll debt _ _ _ _ _ _ _ _ _ _ hactive hsnapshot =>
      intro tm a hm
      rcases List.mem_cons.1 hm with heq | hm
      · cases heq
        exact h.inStep id hactive hsnapshot
      · exact h.restakes tm a hm
  | redistributes | offsets | changesDeposit =>
      intro tm a hm
      rcases List.mem_cons.1 hm with heq | hm
      · cases heq
      · exact h.restakes tm a hm
  | _ => exact h.restakes

theorem Book.DebtRealised.event (hreg : Registry b.troveManager b.sortedTroves)
    (h : b.DebtRealised) (hj : ∀ e ∈ b'.journal, e.RaisesCollWithDebt) (he : Event D b b') :
    b'.DebtRealised :=
  ⟨h.covered.event hreg h.inStep he, h.inStep.event hreg hj he, h.restakes_event he⟩

end Usdd

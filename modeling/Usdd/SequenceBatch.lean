import Usdd.Lib.Agreement
import Usdd.LiquidationRights
import Usdd.MarketRuns

/-!
# Sequences and batches

The sequence from the end of the list and the batch of the same troves run the same liquidations: the
sequence stops where the batch skips all that is left. They part ways only at a capped liquidation
with a surplus, which the sequence takes out of the system collateral and the batch does not.
-/

open Transaction

namespace Usdd

variable {D : Deployment} {m : Message} {s s' : State} {price icr : ℕ}

theorem SortedTroves.remove_forward {d d' : Data} {l : List Address} {id : Address}
    (h : WellFormed d l) (hr : remove d id = .ok d') : d'.forward = l.erase id := by
  obtain ⟨pre, post, hl, hd'⟩ := remove_eq_ok h hr
  have hnodup := h.nodes.nodup
  rw [hl] at hnodup ⊢
  have hpre : id ∉ pre := fun hmem =>
    (List.nodup_append.1 hnodup).2.2 id hmem id List.mem_cons_self rfl
  rw [hd'.forward_eq, List.erase_append_right _ hpre, List.erase_cons_head]

namespace TroveManager

variable {q q' : Sequence} {pre rest kept : List Address} {user firstUser a : Address}

theorem liquidateInNormalMode_surplus
    (hreg : Registry q.state.troveManager q.state.sortedTroves)
    (hq : q.liquidateInNormalMode D user = .ok q') (a : Address) :
    q'.state.surplus D a = q.state.surplus D a := by
  obtain ⟨r, hr, hq⟩ := bind_eq_ok.1 hq
  obtain ⟨_, -, hq⟩ := bind_eq_ok.1 hq
  have hpool := (liquidateNormalMode_closes hreg hr).2
  rw [← pure_eq_ok.1 hq, State.surplus, hpool]
  rfl

theorem liquidateRecoveryMode_surplus {v : LiquidationValues} {usddInStabPool tcr : ℕ}
    (hreg : Registry s.troveManager s.sortedTroves)
    (h : liquidateRecoveryMode D s user icr usddInStabPool tcr price = .ok (s', v)) (a : Address) :
    s'.surplus D a = s.surplus D a + if a = user then v.collSurplus else 0 := by
  rcases liquidateRecoveryMode_closes hreg h with ⟨hskip, hzero⟩ | ⟨-, hsurplus, -⟩
  · rw [hskip, hzero, ite_self, Nat.add_zero]
  · exact hsurplus a

theorem liquidateInRecoveryMode_surplus {subtractSurplus : Bool}
    (hreg : Registry q.state.troveManager q.state.sortedTroves)
    (hq : q.liquidateInRecoveryMode D price user icr subtractSurplus = .ok q') (a : Address) :
    q.state.surplus D a ≤ q'.state.surplus D a := by
  obtain ⟨r, hr, hq⟩ := bind_eq_ok.1 hq
  obtain ⟨_, -, hq⟩ := bind_eq_ok.1 hq
  obtain ⟨_, -, hq⟩ := bind_eq_ok.1 hq
  obtain ⟨_, -, hq⟩ := bind_eq_ok.1 hq
  obtain ⟨_, -, hq⟩ := bind_eq_ok.1 hq
  have hsurplus := liquidateRecoveryMode_surplus hreg hr a
  rw [← pure_eq_ok.1 hq]
  dsimp only
  rw [hsurplus]
  exact Nat.le_add_right _ _

/-- A sequence on its way from the end of the list: `rest` is ahead of it, lowest first, and `kept` is
what it has passed and left open. -/
structure Walk (D : Deployment) (price : ℕ) (s : State) (pre rest kept : List Address)
    (q : Sequence) : Prop where
  follows : q.Follows D s
  list : q.state.sortedTroves.forward = pre ++ rest.reverse ++ kept
  ratio : ∀ a ∈ rest, q.state.troveManager.currentICR price a = s.troveManager.currentICR price a
  surplus : ∀ a, s.surplus D a ≤ q.state.surplus D a

namespace Walk

theorem registry (h : Walk D price s pre rest kept q)
    (hreg : Registry s.troveManager s.sortedTroves) :
    Registry q.state.troveManager q.state.sortedTroves := h.follows.registry hreg

theorem list_cons (h : Walk D price s pre (user :: rest) kept q) :
    q.state.sortedTroves.forward = (pre ++ rest.reverse) ++ user :: kept := by
  rw [h.list, List.reverse_cons, List.append_assoc, List.append_assoc, List.append_assoc]
  rfl

theorem getCurrentICR (h : Walk D price s pre rest kept q)
    (hreg : Registry s.troveManager s.sortedTroves) (ha : a ∈ rest) :
    TroveManager.getCurrentICR q.state.troveManager a price =
      .ok (s.troveManager.currentICR price a) := by
  rw [← h.ratio a ha]
  apply getCurrentICR_of_mem (h.registry hreg)
  rw [h.list, List.mem_append, List.mem_append, List.mem_reverse]
  exact Or.inl (Or.inr ha)

theorem active (h : Walk D price s pre rest kept q)
    (hreg : Registry s.troveManager s.sortedTroves) (ha : a ∈ rest) :
    q.state.troveManager.Active a := by
  rw [← (h.registry hreg).mem_list, h.list, List.mem_append, List.mem_append, List.mem_reverse]
  exact Or.inl (Or.inr ha)

/-- The next trove is in nobody else's place. -/
theorem notMem (h : Walk D price s pre (user :: rest) kept q)
    (hreg : Registry s.troveManager s.sortedTroves) :
    user ∉ pre ∧ user ∉ rest ∧ user ∉ kept := by
  have hnodup := (h.registry hreg).list.nodes.nodup
  rw [h.list_cons] at hnodup
  have hnot := (List.nodup_middle.1 hnodup).notMem
  rw [List.mem_append, List.mem_append, List.mem_reverse, not_or, not_or] at hnot
  exact ⟨hnot.1.1, hnot.1.2, hnot.2⟩

theorem passes (h : Walk D price s pre (user :: rest) kept q) (hq : q'.state = q.state)
    (hfollows : q'.Follows D s) : Walk D price s pre rest (user :: kept) q' := by
  refine ⟨hfollows, ?_, fun a ha => ?_, fun a => ?_⟩
  · rw [hq, h.list_cons]
  · rw [hq]
    exact h.ratio a (List.mem_cons_of_mem _ ha)
  · rw [hq]
    exact h.surplus a

theorem closes (h : Walk D price s pre (user :: rest) kept q)
    (hreg : Registry s.troveManager s.sortedTroves) (hc : Closes q.state q'.state user)
    (hsurplus : ∀ a, q.state.surplus D a ≤ q'.state.surplus D a)
    (hfollows : q'.Follows D s) : Walk D price s pre rest kept q' := by
  obtain ⟨hpre, hrest, -⟩ := h.notMem hreg
  refine ⟨hfollows, ?_, fun a ha => ?_, fun a => (h.surplus a).trans (hsurplus a)⟩
  · have hnot : user ∉ pre ++ rest.reverse := by
      rw [List.mem_append, List.mem_reverse, not_or]
      exact ⟨hpre, hrest⟩
    rw [SortedTroves.remove_forward (h.registry hreg).list hc.list, h.list_cons,
      List.erase_append_right _ hnot, List.erase_cons_head]
  · have ha' : a ≠ user := fun heq => hrest (heq ▸ ha)
    rw [← h.ratio a (List.mem_cons_of_mem _ ha)]
    unfold currentICR
    rw [hc.frame.currentColl ha', hc.frame.currentDebt ha']

theorem normalMode (h : Walk D price s pre (user :: rest) kept q)
    (hreg : Registry s.troveManager s.sortedTroves)
    (hq : q.liquidateInNormalMode D user = .ok q') : Walk D price s pre rest kept q' := by
  have hfollows := h.follows.liquidateInNormalMode hreg hq
  have hsurplus := liquidateInNormalMode_surplus (D := D) (h.registry hreg) hq
  obtain ⟨r, hr, hq⟩ := bind_eq_ok.1 hq
  obtain ⟨_, -, hq⟩ := bind_eq_ok.1 hq
  have hc := (liquidateNormalMode_closes (h.registry hreg) hr).1
  cases pure_eq_ok.1 hq
  exact h.closes hreg hc (fun a => (hsurplus a).ge) hfollows

theorem recoveryMode {subtractSurplus : Bool} (h : Walk D price s pre (user :: rest) kept q)
    (hreg : Registry s.troveManager s.sortedTroves)
    (hq : q.liquidateInRecoveryMode D price user icr subtractSurplus = .ok q') :
    ∃ kept', Walk D price s pre rest kept' q' := by
  have hfollows := h.follows.liquidateInRecoveryMode hreg hq
  have hsurplus := liquidateInRecoveryMode_surplus (D := D) (h.registry hreg) hq
  obtain ⟨r, hr, hq⟩ := bind_eq_ok.1 hq
  obtain ⟨_, -, hq⟩ := bind_eq_ok.1 hq
  obtain ⟨_, -, hq⟩ := bind_eq_ok.1 hq
  obtain ⟨_, -, hq⟩ := bind_eq_ok.1 hq
  obtain ⟨_, -, hq⟩ := bind_eq_ok.1 hq
  have hcloses := liquidateRecoveryMode_closes (h.registry hreg) hr
  cases pure_eq_ok.1 hq
  rcases hcloses with ⟨hskip, _⟩ | ⟨hc, -⟩
  · exact ⟨user :: kept, h.passes hskip hfollows⟩
  · exact ⟨kept, h.closes hreg hc hsurplus hfollows⟩

end Walk

section NormalMode

theorem batchLiquidateNormalMode_skips (hreg : Registry s.troveManager s.sortedTroves)
    (h : Walk D price s pre rest kept q)
    (hhigh : ∀ a ∈ rest, MCR ≤ s.troveManager.currentICR price a) :
    batchLiquidateNormalMode D price rest q = .ok q := by
  induction rest generalizing kept with
  | nil => rfl
  | cons user rest ih =>
      have hicr := h.getCurrentICR hreg List.mem_cons_self
      have hle := hhigh user List.mem_cons_self
      simp only [batchLiquidateNormalMode, hicr, ok_bind, if_neg hle.not_gt]
      exact ih (h.passes rfl h.follows) fun a ha => hhigh a (List.mem_cons_of_mem _ ha)

theorem normalMode_agrees (hreg : Registry s.troveManager s.sortedTroves)
    (h : Walk D price s pre rest [] q)
    (hsorted : rest.Pairwise fun x y =>
      s.troveManager.currentICR price x ≤ s.troveManager.currentICR price y) :
    liquidateTrovesSequenceNormalMode D price rest.length q =
      batchLiquidateNormalMode D price rest q := by
  induction rest generalizing q with
  | nil => rfl
  | cons user rest ih =>
      obtain ⟨hlow, hsorted⟩ := List.pairwise_cons.1 hsorted
      have htail : q.state.sortedTroves.tail = user := by
        rw [(h.registry hreg).list.tail, h.list_cons]
        exact LinkedList.last_append_cons _ _ _
      have hicr := h.getCurrentICR hreg List.mem_cons_self
      simp only [List.length_cons, liquidateTrovesSequenceNormalMode, batchLiquidateNormalMode,
        htail, hicr, ok_bind]
      by_cases hmcr : s.troveManager.currentICR price user < MCR
      · simp only [if_pos hmcr]
        apply bind_congr_ok
        intro q₁ hq₁
        exact ih (h.normalMode hreg hq₁) hsorted
      · simp only [if_neg hmcr]
        symm
        apply batchLiquidateNormalMode_skips hreg (h.passes rfl h.follows)
        intro a ha
        have := hlow a ha
        omega

end NormalMode

section RecoveryMode

theorem batchLiquidateRecoveryMode_skips (hreg : Registry s.troveManager s.sortedTroves)
    (h : Walk D price s pre rest kept q)
    (hhigh : ∀ a ∈ rest, MCR ≤ s.troveManager.currentICR price a)
    (hdone : q.backToNormalMode = true ∨ q.remainingUSDDInStabPool = 0) :
    batchLiquidateRecoveryMode D price rest q = .ok q := by
  induction rest generalizing kept with
  | nil => rfl
  | cons user rest ih =>
      have hicr := h.getCurrentICR hreg List.mem_cons_self
      have hactive : (q.state.troveManager.troves user).status = .active :=
        h.active hreg List.mem_cons_self
      have hle := hhigh user List.mem_cons_self
      have hrest := ih (h.passes rfl h.follows) fun a ha => hhigh a (List.mem_cons_of_mem _ ha)
      simp only [batchLiquidateRecoveryMode, hactive, ne_eq, not_true_eq_false, if_false, hicr,
        ok_bind, if_neg hle.not_gt]
      by_cases hback : q.backToNormalMode = false
      · have hempty : q.remainingUSDDInStabPool = 0 := by
          simpa [hback] using hdone
        rw [if_pos hback, if_pos ⟨hle, hempty⟩]
        exact hrest
      · rw [if_neg hback]
        exact hrest

/-- Some account can claim more than in `s`. -/
def Sequence.Books (D : Deployment) (s : State) (q : Sequence) : Prop :=
  q.Follows D s ∧ ∃ a, s.surplus D a < q.state.surplus D a

theorem Sequence.Books.normalMode (hreg : Registry s.troveManager s.sortedTroves)
    (h : q.Books D s) (hq : q.liquidateInNormalMode D user = .ok q') : q'.Books D s := by
  obtain ⟨hfollows, a, hlt⟩ := h
  refine ⟨hfollows.liquidateInNormalMode hreg hq, a, ?_⟩
  rw [liquidateInNormalMode_surplus (hfollows.registry hreg) hq]
  exact hlt

theorem Sequence.Books.recoveryMode {subtractSurplus : Bool}
    (hreg : Registry s.troveManager s.sortedTroves) (h : q.Books D s)
    (hq : q.liquidateInRecoveryMode D price user icr subtractSurplus = .ok q') : q'.Books D s := by
  obtain ⟨hfollows, a, hlt⟩ := h
  exact ⟨hfollows.liquidateInRecoveryMode hreg hq, a,
    hlt.trans_le (liquidateInRecoveryMode_surplus (hfollows.registry hreg) hq a)⟩

/-- One liquidation of the sequence is that of the batch, unless it leaves a surplus. -/
theorem liquidateInRecoveryMode_agrees (hreg : Registry s.troveManager s.sortedTroves)
    (h : Walk D price s pre rest kept q) :
    AgreeUnless (Sequence.Books D s) (q.liquidateInRecoveryMode D price user icr true)
      (q.liquidateInRecoveryMode D price user icr false) := by
  by_cases hzero : ∀ r, liquidateRecoveryMode D q.state user icr q.remainingUSDDInStabPool
      (LiquityMath.computeCR q.entireSystemColl q.entireSystemDebt price) price = .ok r →
      r.2.collSurplus = 0
  · left
    unfold Sequence.liquidateInRecoveryMode
    apply bind_congr_ok
    intro r hr
    simp only [hzero r hr, ite_self]
  · right
    push Not at hzero
    obtain ⟨r, hr, hne⟩ := hzero
    have hbooks (subtractSurplus : Bool) : Ensures (Sequence.Books D s)
        (q.liquidateInRecoveryMode D price user icr subtractSurplus) := by
      intro q' hq
      have hfollows := h.follows.liquidateInRecoveryMode hreg hq
      obtain ⟨r', hr', hq⟩ := bind_eq_ok.1 hq
      cases hr.symm.trans hr'
      obtain ⟨_, -, hq⟩ := bind_eq_ok.1 hq
      obtain ⟨_, -, hq⟩ := bind_eq_ok.1 hq
      obtain ⟨_, -, hq⟩ := bind_eq_ok.1 hq
      obtain ⟨_, -, hq⟩ := bind_eq_ok.1 hq
      have hsurplus := liquidateRecoveryMode_surplus (h.registry hreg) hr user
      have hle := h.surplus user
      rw [if_pos rfl] at hsurplus
      refine ⟨hfollows, user, ?_⟩
      rw [← pure_eq_ok.1 hq]
      dsimp only
      omega
    exact ⟨hbooks true, hbooks false⟩

theorem recoveryMode_agrees (hreg : Registry s.troveManager s.sortedTroves)
    (h : Walk D price s pre rest kept q) (hfirst : firstUser ∈ pre)
    (hsorted : rest.Pairwise fun x y =>
      s.troveManager.currentICR price x ≤ s.troveManager.currentICR price y)
    (huser : user = LinkedList.last (pre ++ rest.reverse)) :
    AgreeUnless (Sequence.Books D s)
      (liquidateTrovesSequenceRecoveryMode D price firstUser rest.length user q)
      (batchLiquidateRecoveryMode D price rest q) := by
  induction rest generalizing q kept user with
  | nil => exact AgreeUnless.of_eq rfl
  | cons low rest ih =>
      obtain ⟨hlow, hrest⟩ := List.pairwise_cons.1 hsorted
      have heq : user = low := by
        rw [huser, List.reverse_cons, ← List.append_assoc]
        exact LinkedList.last_append_cons _ _ _
      subst heq
      have hicr := h.getCurrentICR hreg List.mem_cons_self
      have hactive : (q.state.troveManager.troves user).status = .active :=
        h.active hreg List.mem_cons_self
      have hne : user ≠ firstUser := fun heq => (h.notMem hreg).1 (heq ▸ hfirst)
      have hprev : (q.state.sortedTroves.nodes user).prevId =
          LinkedList.last (pre ++ rest.reverse) := by
        have hnodes := (h.registry hreg).list.nodes
        rw [h.list_cons] at hnodes
        exact hnodes.prevId_eq
      have hskips (hmcr : MCR ≤ s.troveManager.currentICR price user)
          (hdone : q.backToNormalMode = true ∨ q.remainingUSDDInStabPool = 0) :
          batchLiquidateRecoveryMode D price rest q = .ok q :=
        batchLiquidateRecoveryMode_skips hreg (h.passes rfl h.follows)
          (fun a ha => hmcr.trans (hlow a ha)) hdone
      simp only [List.length_cons, liquidateTrovesSequenceRecoveryMode, batchLiquidateRecoveryMode,
        if_neg hne, hactive, ne_eq, not_true_eq_false, if_false, hicr, ok_bind, hprev]
      by_cases hback : q.backToNormalMode = false
      · simp only [if_pos hback]
        by_cases hstop : s.troveManager.currentICR price user ≥ MCR ∧ q.remainingUSDDInStabPool = 0
        · rw [if_pos hstop, if_pos hstop]
          exact AgreeUnless.of_eq (hskips hstop.1 (Or.inr hstop.2)).symm
        · rw [if_neg hstop, if_neg hstop]
          apply (liquidateInRecoveryMode_agrees hreg h).bind_both
          · intro q₁ hq₁
            obtain ⟨kept', hwalk⟩ := h.recoveryMode hreg hq₁
            exact ih hwalk hrest rfl
          · intro q₁ hbooks q' hq'
            exact liquidateTrovesSequenceRecoveryMode_guarded
              (fun _ _ _ _ _ hi _ _ hq => hi.recoveryMode hreg hq)
              (fun _ _ _ _ hi _ _ hq => hi.normalMode hreg hq) hbooks hq'
          · intro q₁ hbooks q' hq'
            exact batchLiquidateRecoveryMode_guarded
              (fun _ _ _ _ _ hi _ _ hq => hi.recoveryMode hreg hq)
              (fun _ _ _ _ hi _ _ hq => hi.normalMode hreg hq) hbooks hq'
      · simp only [if_neg hback]
        by_cases hmcr : s.troveManager.currentICR price user < MCR
        · rw [if_pos hmcr, if_pos hmcr]
          apply AgreeUnless.bind
          intro q₁ hq₁
          exact ih (h.normalMode hreg hq₁) hrest rfl
        · rw [if_neg hmcr, if_neg hmcr]
          exact AgreeUnless.of_eq
            (hskips (not_lt.1 hmcr) (Or.inl (Bool.eq_true_of_not_eq_false hback))).symm

end RecoveryMode

section Calls

variable {n : ℕ} {liquidator : Address}

theorem totals_agree (hreg : Registry s.troveManager s.sortedTroves)
    (hn : n < s.sortedTroves.forward.length)
    (hordered : s.sortedTroves.forward.Pairwise fun x y =>
      s.troveManager.currentICR price y ≤ s.troveManager.currentICR price x) :
    (checkRecoveryMode D s price = false → totalsFromLiquidateTrovesSequence D price s n =
        totalsFromBatchLiquidate D price s (s.sortedTroves.forward.reverse.take n)) ∧
      AgreeUnless (Sequence.Books D s) (totalsFromLiquidateTrovesSequence D price s n)
        (totalsFromBatchLiquidate D price s (s.sortedTroves.forward.reverse.take n)) := by
  generalize hlow : s.sortedTroves.forward.reverse.take n = low
  have hlength : low.length = n := by
    rw [← hlow, List.length_take, List.length_reverse]
    omega
  have hlist : s.sortedTroves.forward =
      (s.sortedTroves.forward.reverse.drop n).reverse ++ low.reverse := by
    rw [← hlow, ← List.reverse_append, List.take_append_drop, List.reverse_reverse]
  generalize hpre : (s.sortedTroves.forward.reverse.drop n).reverse = pre at hlist
  have hne : pre ≠ [] := by
    rw [← hpre, ← List.length_pos_iff, List.length_reverse, List.length_drop, List.length_reverse]
    omega
  have hsorted : low.Pairwise fun x y =>
      s.troveManager.currentICR price x ≤ s.troveManager.currentICR price y := by
    rw [hlist] at hordered
    exact List.pairwise_reverse.1 (List.pairwise_append.1 hordered).2.1
  have hwalk : Walk D price s pre low [] (Sequence.start D s) :=
    ⟨Sequence.start_follows D s, by rw [List.append_nil]; exact hlist, fun _ _ => rfl,
      fun _ => le_rfl⟩
  have hfirst : s.sortedTroves.head ∈ pre := by
    obtain ⟨a, pre', rfl⟩ := List.exists_cons_of_ne_nil hne
    rw [hreg.list.head, hlist]
    exact List.mem_cons_self
  have htail : s.sortedTroves.tail = LinkedList.last (pre ++ low.reverse) := by
    rw [hreg.list.tail, hlist]
  unfold totalsFromLiquidateTrovesSequence totalsFromBatchLiquidate
  subst hlength
  by_cases hmode : checkRecoveryMode D s price = true
  · rw [if_pos hmode, if_pos hmode]
    exact ⟨fun h => absurd (h.symm.trans hmode) (by decide),
      recoveryMode_agrees hreg hwalk hfirst hsorted htail⟩
  · rw [if_neg hmode, if_neg hmode]
    have heq := normalMode_agrees hreg hwalk hsorted
    exact ⟨fun _ => heq, AgreeUnless.of_eq heq⟩

/-- In a list ordered by the ratios, the liquidation of the `n` lowest troves as a sequence and as a
batch is the same in Normal Mode. In Recovery Mode it is the same too, or whichever of the calls
succeeds leaves some account more to claim. -/
theorem sequence_agrees_with_batch (hw : D.Wired) (h : Reachable D s) (hpos : 0 < n)
    (hn : n < s.sortedTroves.forward.length)
    (hordered : s.sortedTroves.forward.Pairwise fun x y =>
      s.troveManager.currentICR m.price y ≤ s.troveManager.currentICR m.price x)
    (liquidator : Address) :
    (checkRecoveryMode D s m.price = false → liquidateTroves D m s liquidator n =
        batchLiquidateTroves D m s liquidator (s.sortedTroves.forward.reverse.take n)) ∧
      AgreeUnless (fun s' => ∃ a, s.surplus D a < s'.surplus D a)
        (liquidateTroves D m s liquidator n)
        (batchLiquidateTroves D m s liquidator (s.sortedTroves.forward.reverse.take n)) := by
  obtain ⟨hnormal, hrecovery⟩ := totals_agree (D := D) (h.consistent hw).registry hn hordered
  have hlength : (s.sortedTroves.forward.reverse.take n).length ≠ 0 := by
    rw [List.length_take, List.length_reverse]
    omega
  have hbatch : batchLiquidateTroves D m s liquidator (s.sortedTroves.forward.reverse.take n) =
      (do
        requireCallerIsLiquidatorOrGw D m liquidator
        let q ← totalsFromBatchLiquidate D m.price s (s.sortedTroves.forward.reverse.take n)
        settleTotals D m q.state liquidator q.totals) := by
    unfold batchLiquidateTroves
    apply bind_congr_ok
    intro _ _
    rw [(require_eq_ok (u := ())).2 hlength]
    rfl
  rw [hbatch]
  constructor
  · intro hmode
    unfold liquidateTroves
    rw [hnormal hmode]
  · apply AgreeUnless.bind
    intro _ _
    apply hrecovery.bind_left
    rintro q ⟨-, a, hlt⟩ s' hs'
    have hsurplus := (Spared.of_records D (settleTotals_records hs') a).surplus
    exact ⟨a, hsurplus ▸ hlt⟩

theorem sequence_agrees_with_batch_of_sample : ∃ s s', Reachable sampleDeployment s ∧
    liquidateTroves sampleDeployment ⟨4, 100 * decimalPrecision, 10 ^ 7⟩ s 4 2 = .ok s' ∧
    batchLiquidateTroves sampleDeployment ⟨4, 100 * decimalPrecision, 10 ^ 7⟩ s 4 [3, 2] = .ok s' ∧
    s'.sortedTroves.forward = [1, 2] := by
  have hsample : ∃ s, sampleRun (sampleLiquidation.take 4) = .ok s ∧
      s.sortedTroves.forward = [1, 2, 3] ∧
      ([1, 2, 3].Pairwise fun x y => s.troveManager.currentICR (100 * decimalPrecision) y ≤
        s.troveManager.currentICR (100 * decimalPrecision) x) ∧
      checkRecoveryMode sampleDeployment s (100 * decimalPrecision) = false ∧
      ∃ s', liquidateTroves sampleDeployment ⟨4, 100 * decimalPrecision, 10 ^ 7⟩ s 4 2 = .ok s' ∧
        s'.sortedTroves.forward = [1, 2] := by
    decide +kernel
  obtain ⟨s, hs, hlist, hordered, hmode, s', hs', hleft⟩ := hsample
  have hreach := reachable_sampleRun hs
  have hagree := (sequence_agrees_with_batch (n := 2)
    (m := ⟨4, 100 * decimalPrecision, 10 ^ 7⟩) sampleDeployment_wired hreach (by decide)
    (by rw [hlist]; decide) (by rw [hlist]; exact hordered) 4).1 hmode
  rw [hs', hlist] at hagree
  exact ⟨s, s', hreach, hs', hagree.symm, hleft⟩

end Calls

end TroveManager

end Usdd

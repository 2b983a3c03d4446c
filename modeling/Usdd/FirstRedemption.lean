import Usdd.MarketRuns

/-!
# The first trove of a redemption

The scan from the end of the list finds the last trove with a sufficient ratio. An accepted hint is
a trove with a sufficient ratio whose lower neighbour has none, and it is the trove that the scan
finds exactly if nothing below it has a sufficient ratio.
-/

open Transaction
open LinkedList (first last)

namespace Usdd

open TroveManager

section Scan

variable {s : State} {price fuel : ℕ} {hint : Address} {pre post : List Address}

namespace TroveManager

def currentICR (tm : TroveManager) (price : ℕ) (a : Address) : ℕ :=
  LiquityMath.computeCR (tm.currentColl a) (tm.currentDebt a) price

theorem getCurrentICR_of_mem (hreg : Registry s.troveManager s.sortedTroves) {a : Address}
    (ha : a ∈ s.sortedTroves.forward) (price : ℕ) :
    getCurrentICR s.troveManager a price = .ok (s.troveManager.currentICR price a) := by
  obtain ⟨hc, hd⟩ := hreg.snapshot_le a
  exact getCurrentICR_of_active ((hreg.mem_list a).1 ha) hc hd price

/-- The scan from the end of a part of the list, by induction on that part from its end. -/
theorem firstTroveAboveMCR_eq (hreg : Registry s.troveManager s.sortedTroves)
    (hl : s.sortedTroves.forward = pre ++ post) (hfuel : pre.length < fuel) :
    firstTroveAboveMCR price s fuel (last pre) =
      .ok ((pre.reverse.find? (fun a => MCR ≤ s.troveManager.currentICR price a)).getD 0) := by
  have hlist := hreg.list
  induction pre using List.reverseRecOn generalizing post fuel with
  | nil =>
      obtain ⟨fuel, rfl⟩ := Nat.exists_eq_succ_of_ne_zero (Nat.pos_iff_ne_zero.1 hfuel)
      rfl
  | append_singleton pre a ih =>
      rw [List.append_assoc, List.singleton_append] at hl
      rw [List.length_append, List.length_singleton] at hfuel
      obtain ⟨fuel, rfl⟩ := Nat.exists_eq_succ_of_ne_zero (n := fuel) (by omega)
      have ha : a ∈ s.sortedTroves.forward := by
        rw [hl]
        simp
      have hne : a ≠ 0 := fun h₀ => hlist.zero_notMem (h₀ ▸ ha)
      have hprev : (s.sortedTroves.nodes a).prevId = last pre := by
        have hnodes := hlist.nodes
        rw [hl] at hnodes
        exact hnodes.prevId_eq
      rw [LinkedList.last_append_cons, LinkedList.last_singleton, firstTroveAboveMCR, if_neg hne,
        getCurrentICR_of_mem hreg ha, ok_bind, List.reverse_append, List.reverse_singleton,
        List.singleton_append]
      by_cases hicr : s.troveManager.currentICR price a < MCR
      · rw [if_pos hicr, hprev, ih hl (by omega), List.find?_cons_of_neg]
        simpa using hicr
      · rw [if_neg hicr, List.find?_cons_of_pos]
        · rfl
        · simpa using hicr

theorem firstTroveAboveMCR_tail (hreg : Registry s.troveManager s.sortedTroves) (price : ℕ) :
    firstTroveAboveMCR price s (s.sortedTroves.size + 1) s.sortedTroves.tail =
      .ok ((s.sortedTroves.forward.reverse.find?
        (fun a => MCR ≤ s.troveManager.currentICR price a)).getD 0) := by
  rw [hreg.list.tail, hreg.list.size]
  exact firstTroveAboveMCR_eq hreg (List.append_nil _).symm (Nat.lt_succ_self _)

/-- What is accepted is in the list and has a sufficient ratio, and its lower neighbour has none. -/
theorem isValidFirstRedemptionHint_eq_ok (hreg : Registry s.troveManager s.sortedTroves)
    (h : isValidFirstRedemptionHint price s hint = .ok true) :
    ∃ pre post, s.sortedTroves.forward = pre ++ hint :: post ∧
      MCR ≤ s.troveManager.currentICR price hint ∧
      (post ≠ [] → s.troveManager.currentICR price (first post) < MCR) := by
  rcases ite_eq_ok.1 h with ⟨-, h⟩ | ⟨hhint, h⟩
  · cases pure_eq_ok.1 h
  obtain ⟨-, hcontains⟩ := not_or.1 hhint
  rw [Bool.not_eq_false] at hcontains
  have hmem := hreg.list.contains_iff.1 hcontains
  obtain ⟨pre, post, hl⟩ := List.append_of_mem hmem
  have hnext : (s.sortedTroves.nodes hint).nextId = first post := by
    have hnodes := hreg.list.nodes
    rw [hl] at hnodes
    exact hnodes.nextId_eq
  rw [getCurrentICR_of_mem hreg hmem, ok_bind] at h
  rcases ite_eq_ok.1 h with ⟨-, h⟩ | ⟨hicr, h⟩
  · cases pure_eq_ok.1 h
  refine ⟨pre, post, hl, not_lt.1 hicr, fun hpost => ?_⟩
  have hfirst : first post ∈ s.sortedTroves.forward := by
    rw [hl]
    simp [LinkedList.first_mem hpost]
  have hne : first post ≠ 0 := fun h₀ => hreg.list.zero_notMem (h₀ ▸ hfirst)
  dsimp only at h
  rw [hnext, if_neg hne, getCurrentICR_of_mem hreg hfirst, ok_bind] at h
  exact of_decide_eq_true (pure_eq_ok.1 h)

theorem isValidFirstRedemptionHint_of (hreg : Registry s.troveManager s.sortedTroves)
    (hl : s.sortedTroves.forward = pre ++ hint :: post)
    (hicr : MCR ≤ s.troveManager.currentICR price hint)
    (hnext : ∀ a ∈ post, s.troveManager.currentICR price a < MCR) :
    isValidFirstRedemptionHint price s hint = .ok true := by
  have hmem : hint ∈ s.sortedTroves.forward := by
    rw [hl]
    simp
  have hne : hint ≠ 0 := fun h₀ => hreg.list.zero_notMem (h₀ ▸ hmem)
  have hcontains := hreg.list.contains_iff.2 hmem
  have hnodes := hreg.list.nodes
  rw [hl] at hnodes
  rw [isValidFirstRedemptionHint, if_neg (by simp [hne, hcontains]),
    getCurrentICR_of_mem hreg hmem, ok_bind, if_neg (not_lt.2 hicr), hnodes.nextId_eq]
  cases post with
  | nil => rfl
  | cons next post =>
      have hmem' : next ∈ s.sortedTroves.forward := by
        rw [hl]
        simp
      have hne' : next ≠ 0 := fun h₀ => hreg.list.zero_notMem (h₀ ▸ hmem')
      have hlt := hnext next (List.mem_cons_self ..)
      dsimp only
      rw [LinkedList.first_cons, if_neg hne', getCurrentICR_of_mem hreg hmem', ok_bind,
        decide_eq_true hlt]
      rfl

/-- The trove that the scan finds, if it finds one. -/
theorem firstTroveAboveMCR_ne_zero (hreg : Registry s.troveManager s.sortedTroves)
    (h : firstTroveAboveMCR price s (s.sortedTroves.size + 1) s.sortedTroves.tail = .ok hint)
    (hne : hint ≠ 0) : ∃ pre post, s.sortedTroves.forward = pre ++ hint :: post ∧
      MCR ≤ s.troveManager.currentICR price hint ∧
      ∀ a ∈ post, s.troveManager.currentICR price a < MCR := by
  rw [firstTroveAboveMCR_tail hreg, Except.ok.injEq] at h
  cases hfind : s.sortedTroves.forward.reverse.find?
      (fun a => MCR ≤ s.troveManager.currentICR price a) with
  | none =>
      rw [hfind] at h
      exact absurd h.symm hne
  | some x =>
      rw [hfind, Option.getD_some] at h
      subst h
      obtain ⟨hicr, below, above, hl, hbelow⟩ := List.find?_eq_some_iff_append.1 hfind
      refine ⟨above.reverse, below.reverse, ?_, by simpa using hicr, fun a ha => ?_⟩
      · rw [← List.reverse_reverse s.sortedTroves.forward, hl]
        simp
      · simpa using hbelow a (List.mem_reverse.1 ha)

theorem firstTroveAboveMCR_eq_hint_iff (hreg : Registry s.troveManager s.sortedTroves)
    (hl : s.sortedTroves.forward = pre ++ hint :: post)
    (hicr : MCR ≤ s.troveManager.currentICR price hint) :
    firstTroveAboveMCR price s (s.sortedTroves.size + 1) s.sortedTroves.tail = .ok hint ↔
      ∀ a ∈ post, s.troveManager.currentICR price a < MCR := by
  have hnodup := hreg.list.nodes.nodup
  rw [hl, List.nodup_middle, List.nodup_cons] at hnodup
  have hhint : hint ∉ post := fun hm => hnodup.1 (List.mem_append_right _ hm)
  rw [firstTroveAboveMCR_tail hreg, hl, List.reverse_append, List.reverse_cons, List.append_assoc,
    List.singleton_append, List.find?_append, List.find?_cons_of_pos (by simpa using hicr),
    Except.ok.injEq]
  constructor
  · intro h a ha
    by_contra hge
    obtain ⟨x, hx⟩ : ∃ x, post.reverse.find?
        (fun a => MCR ≤ s.troveManager.currentICR price a) = some x := by
      rw [← Option.isSome_iff_exists, List.find?_isSome]
      exact ⟨a, List.mem_reverse.2 ha, by simpa using hge⟩
    rw [hx, Option.some_or, Option.getD_some] at h
    exact hhint (h ▸ List.mem_reverse.1 (List.mem_of_find?_eq_some hx))
  · intro h
    have hnone : post.reverse.find?
        (fun a => MCR ≤ s.troveManager.currentICR price a) = none := by
      rw [List.find?_eq_none]
      intro a ha
      simpa using h a (List.mem_reverse.1 ha)
    rw [hnone, Option.none_or, Option.getD_some]

end TroveManager

end Scan

section Runs

variable {D : Deployment} {s : State}

/-- An accepted hint is the trove that the scan finds exactly if no trove below it has a sufficient
ratio, and it is in every run that keeps the list in order. -/
theorem first_hint_agrees_iff (hw : D.Wired) (h : Reachable D s) :
    (∀ price hint, isValidFirstRedemptionHint price s hint = .ok true →
      ∃ pre post, s.sortedTroves.forward = pre ++ hint :: post ∧
        (firstTroveAboveMCR price s (s.sortedTroves.size + 1) s.sortedTroves.tail = .ok hint ↔
          ∀ a ∈ post, ∃ icr, getCurrentICR s.troveManager a price = .ok icr ∧ icr < MCR)) ∧
    ((∀ e ∈ s.journal, e.KeepsOrder) → ∀ price hint,
      isValidFirstRedemptionHint price s hint = .ok true →
        firstTroveAboveMCR price s (s.sortedTroves.size + 1) s.sortedTroves.tail = .ok hint) := by
  have hreached := h.reached hw
  have hreg := (h.consistent hw).registry
  constructor
  · intro price hint hvalid
    obtain ⟨pre, post, hl, hicr, -⟩ := isValidFirstRedemptionHint_eq_ok hreg hvalid
    refine ⟨pre, post, hl, (firstTroveAboveMCR_eq_hint_iff hreg hl hicr).trans ?_⟩
    refine forall₂_congr fun a ha => ?_
    have hmem : a ∈ s.sortedTroves.forward := by
      rw [hl]
      simp [ha]
    rw [getCurrentICR_of_mem hreg hmem]
    simp
  · intro hj price hint hvalid
    obtain ⟨pre, post, hl, hicr, hnext⟩ := isValidFirstRedemptionHint_eq_ok hreg hvalid
    have hordered : (s.book D 0 0 0).Ordered :=
      hreached.conditional (initial_ordered D)
        (fun _ _ hc hi hj he => hi.event hc.registry hj he) hj
    have hpairs : (hint :: post).Pairwise s.troveManager.Above := by
      have hall : s.sortedTroves.forward.Pairwise s.troveManager.Above := hordered
      rw [hl] at hall
      exact (List.pairwise_append.1 hall).2.1
    refine (firstTroveAboveMCR_eq_hint_iff hreg hl hicr).2 fun a ha => ?_
    cases post with
    | nil => exact absurd ha List.not_mem_nil
    | cons next post =>
        have hlt := hnext (List.cons_ne_nil _ _)
        rw [LinkedList.first_cons] at hlt
        rcases List.mem_cons.1 ha with rfl | hm
        · exact hlt
        · have habove := List.rel_of_pairwise_cons (List.Pairwise.of_cons hpairs) hm
          exact (habove.computeCR_le price).trans_lt hlt

theorem first_hint_agrees_iff_of_liquidation : ∃ s, sampleRun sampleLiquidation = .ok s ∧
    isValidFirstRedemptionHint (100 * decimalPrecision) s 2 = .ok true ∧
    firstTroveAboveMCR (100 * decimalPrecision) s (s.sortedTroves.size + 1) s.sortedTroves.tail =
      .ok 2 := by
  obtain ⟨s, hs, hj, hvalid⟩ : ∃ s, sampleRun sampleLiquidation = .ok s ∧
      (∀ e ∈ s.journal, e.KeepsOrder) ∧
      isValidFirstRedemptionHint (100 * decimalPrecision) s 2 = .ok true := by decide +kernel
  exact ⟨s, hs, hvalid, (first_hint_agrees_iff sampleDeployment_wired
    (reachable_sampleRun hs)).2 hj _ _ hvalid⟩

/-- The ratios of the last two troves are equal to 20 digits, and the hint places the better one
last. The first trove is accepted as a hint, and the scan finds the last one. -/
theorem first_hint_skips : ∃ s price, Reachable sampleDeployment s ∧
    isValidFirstRedemptionHint price s 1 = .ok true ∧
    firstTroveAboveMCR price s (s.sortedTroves.size + 1) s.sortedTroves.tail = .ok 3 := by
  let price := 147326666666666666648
  obtain ⟨s, hs, hvalid, hscan⟩ : ∃ s, sampleRun
      [sampleOpen 1 (100 * decimalPrecision) (1800 * decimalPrecision) (200 * decimalPrecision),
        sampleOpen 2 (15 * decimalPrecision + 1) (1800 * decimalPrecision) (200 * decimalPrecision),
        (Call.openTrove 3 decimalPrecision (15 * decimalPrecision + 2) (1800 * decimalPrecision) 2
          0).sent 3 (200 * decimalPrecision)] = .ok s ∧
      isValidFirstRedemptionHint price s 1 = .ok true ∧
      firstTroveAboveMCR price s (s.sortedTroves.size + 1) s.sortedTroves.tail = .ok 3 := by
    decide +kernel
  exact ⟨s, price, reachable_sampleRun hs, hvalid, hscan⟩

end Runs

end Usdd

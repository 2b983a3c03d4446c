import Usdd.Book
import Usdd.SortedTrovesHistory

/-!
# The registries of troves

The status map, the array of owners and the sorted list name the same troves, the total stake is
the sum of the stakes, and a trove that is not active has nothing left in storage.
-/

open Transaction
open IndexedList (Indexed)

namespace Usdd

open TroveManager
open SortedTroves (WellFormed)

structure Registry (tm : TroveManager) (d : SortedTroves.Data) : Prop where
  list : WellFormed d d.forward
  mem_list : ∀ a, a ∈ d.forward ↔ tm.Active a
  indexed : Indexed (fun a => (tm.troves a).arrayIndex) tm.troveOwners
  mem_owners : ∀ a, a ∈ tm.troveOwners ↔ tm.Active a
  totalStakes : ∑ a, tm.stakes a = tm.totalStakes
  snapshot_le : ∀ a, tm.collSnapshots a ≤ tm.lColl ∧ tm.debtSnapshots a ≤ tm.lUSDDDebt
  inactive : ∀ a, ¬ tm.Active a → (tm.troves a).debt = 0 ∧ (tm.troves a).coll = 0 ∧
    (tm.troves a).stake = 0 ∧ tm.rewardSnapshots a = ⟨0, 0⟩
  active : ∀ a, tm.Active a →
    minNetDebt + usddGasCompensation ≤ (tm.troves a).debt ∧ 0 < (tm.troves a).coll

namespace Registry

variable {tm tm' : TroveManager} {d d' : SortedTroves.Data} {id : Address}
  {coll debt stake : ℕ} {view : Address → Tx ℕ} {p n : Address}

theorem size_eq (h : Registry tm d) : d.size = tm.troveOwners.length := by
  rw [h.list.size]
  apply List.Perm.length_eq
  rw [List.perm_ext_iff_of_nodup h.list.nodes.nodup h.indexed.nodup]
  intro a
  rw [h.mem_list, h.mem_owners]

theorem pos_of_computeNominalCR (h : 0 < LiquityMath.computeNominalCR coll debt)
    (hd : 0 < debt) : 0 < coll := by
  rcases Nat.eq_zero_or_pos coll with rfl | hc
  · simp [LiquityMath.computeNominalCR, hd] at h
  · exact hc

theorem insert_nicr_pos {nicr : ℕ} (h : SortedTroves.insert view d id nicr p n = .ok d') :
    0 < nicr := by
  obtain ⟨_, -, h⟩ := bind_eq_ok.1 h
  obtain ⟨_, -, h⟩ := bind_eq_ok.1 h
  obtain ⟨_, -, h⟩ := bind_eq_ok.1 h
  obtain ⟨_, hpos, -⟩ := bind_eq_ok.1 h
  exact require_eq_ok.1 hpos

theorem reInsert_nicr_pos {nicr : ℕ} (h : SortedTroves.reInsert view d id nicr p n = .ok d') :
    0 < nicr := by
  obtain ⟨_, -, h⟩ := bind_eq_ok.1 h
  obtain ⟨_, hpos, -⟩ := bind_eq_ok.1 h
  exact require_eq_ok.1 hpos

theorem minDebt_pos (h : minNetDebt + usddGasCompensation ≤ debt) : 0 < debt :=
  lt_of_lt_of_le (by decide) h

theorem enter (h : Registry tm d) (hnew : ¬ tm.Active id)
    (hdebt : minNetDebt + usddGasCompensation ≤ debt)
    (hlist : SortedTroves.insert view d id (LiquityMath.computeNominalCR coll debt) p n = .ok d') :
    Registry (tm.entered id coll debt stake) d' := by
  have hf : Frame tm (tm.entered id coll debt stake) id := entered_frame
  have hself := entered_self tm id coll debt stake
  have hactive (a : Address) :
      (tm.entered id coll debt stake).Active a ↔ a = id ∨ tm.Active a := by
    by_cases ha : a = id
    · subst ha
      simp [Active, hself]
    · simp [hf.active_iff ha, ha]
  have hcoll : 0 < coll := pos_of_computeNominalCR (insert_nicr_pos hlist) (minDebt_pos hdebt)
  obtain ⟨pre, post, hl, hid, hd', -⟩ := SortedTroves.insert_eq_ok h.list hlist
  have hforward := hd'.forward_eq
  refine ⟨?_, ?_, ?_, ?_, ?_, ?_, ?_, ?_⟩
  · rwa [hforward]
  · intro a
    rw [hforward, hactive, ← h.mem_list, hl]
    simp only [List.mem_append, List.mem_cons]
    tauto
  · have hpush := h.indexed.push (a := id) (fun hm => hnew ((h.mem_owners id).1 hm))
    refine hpush.congr (fun a _ => ?_)
    by_cases ha : a = id
    · subst ha
      simp [entered]
    · simp [entered, ha]
  · intro a
    rw [hactive, ← h.mem_owners]
    simp [entered, or_comm]
  · have hsum := hf.sum_stakes
    have hold : tm.stakes id = 0 := (h.inactive id hnew).2.2.1
    have hstake : (tm.entered id coll debt stake).stakes id = stake := by
      unfold stakes
      rw [hself]
    have htotal : (tm.entered id coll debt stake).totalStakes = tm.totalStakes + stake := rfl
    rw [hold, hstake, h.totalStakes] at hsum
    omega
  · intro a
    by_cases ha : a = id
    · subst ha
      simp [collSnapshots, debtSnapshots, entered]
    · rw [hf.collSnapshots ha, hf.debtSnapshots ha]
      exact h.snapshot_le a
  · intro a ha
    rw [hactive, not_or] at ha
    rw [hf.debt a ha.1, hf.coll a ha.1, hf.stake a ha.1, hf.snapshot a ha.1]
    exact h.inactive a ha.2
  · intro a ha
    by_cases hid : a = id
    · subst hid
      rw [hself]
      exact ⟨hdebt, hcoll⟩
    · rw [hf.debt a hid, hf.coll a hid]
      exact h.active a ((hf.active_iff hid).1 ha)

theorem realise (h : Registry tm d) (ha : tm.Active id) :
    Registry (tm.realised id coll debt) d := by
  have hf : Frame tm (tm.realised id coll debt) id := realised_frame
  have hself := realised_self tm id coll debt
  have hsnap := realised_snapshot tm id coll debt
  have hactive (a : Address) : (tm.realised id coll debt).Active a ↔ tm.Active a := by
    by_cases hid : a = id
    · subst hid
      unfold Active
      rw [hself]
    · exact hf.active_iff hid
  refine ⟨h.list, ?_, ?_, ?_, ?_, ?_, ?_, ?_⟩
  · intro a
    rw [hactive, h.mem_list]
  · refine h.indexed.congr (fun a _ => ?_)
    by_cases hid : a = id
    · subst hid
      rw [hself]
    · simp [realised_eq, hid]
  · intro a
    rw [hactive, ← h.mem_owners]
    rfl
  · have hsum := hf.sum_stakes
    have hstake : (tm.realised id coll debt).stakes id = tm.stakes id := by
      unfold stakes
      rw [hself]
    rw [hstake, h.totalStakes] at hsum
    exact Nat.add_right_cancel hsum
  · intro a
    by_cases hid : a = id
    · subst hid
      unfold collSnapshots debtSnapshots
      rw [hsnap]
      exact ⟨le_rfl, le_rfl⟩
    · rw [hf.collSnapshots hid, hf.debtSnapshots hid]
      exact h.snapshot_le a
  · intro a hna
    rw [hactive] at hna
    have hid : a ≠ id := by
      rintro rfl
      exact hna ha
    rw [hf.debt a hid, hf.coll a hid, hf.stake a hid, hf.snapshot a hid]
    exact h.inactive a hna
  · intro a ha
    rw [hactive] at ha
    obtain ⟨hd, hc⟩ := h.active a ha
    by_cases hid : a = id
    · subst hid
      rw [hself]
      exact ⟨hd.trans (Nat.le_add_right _ _), Nat.add_pos_left hc _⟩
    · rw [hf.debt a hid, hf.coll a hid]
      exact ⟨hd, hc⟩

theorem restake (h : Registry tm d) (ha : tm.Active id)
    (hdebt : minNetDebt + usddGasCompensation ≤ debt)
    (hlist : SortedTroves.reInsert view d id (LiquityMath.computeNominalCR coll debt) p n =
      .ok d') : Registry (tm.restaked id coll debt stake) d' := by
  have hf : Frame tm (tm.restaked id coll debt stake) id := restaked_frame
  have hself := restaked_self tm id coll debt stake
  have hactive (a : Address) : (tm.restaked id coll debt stake).Active a ↔ tm.Active a := by
    by_cases hid : a = id
    · subst hid
      unfold Active
      rw [hself]
    · exact hf.active_iff hid
  have hcoll : 0 < coll := pos_of_computeNominalCR (reInsert_nicr_pos hlist) (minDebt_pos hdebt)
  obtain ⟨pre, post, pre', post', hl, happ, hd', -⟩ := SortedTroves.reInsert_eq_ok h.list hlist
  have hforward := hd'.forward_eq
  refine ⟨?_, ?_, ?_, ?_, ?_, h.snapshot_le, ?_, ?_⟩
  · rwa [hforward]
  · intro a
    have hm : a ∈ pre ++ post ↔ a ∈ pre' ++ post' := by rw [happ]
    rw [hforward, hactive, ← h.mem_list, hl]
    simp only [List.mem_append, List.mem_cons] at hm ⊢
    tauto
  · refine h.indexed.congr (fun a _ => ?_)
    by_cases hid : a = id
    · subst hid
      rw [hself]
    · simp [restaked, hid]
  · intro a
    rw [hactive, ← h.mem_owners]
    rfl
  · have hsum := hf.sum_stakes
    have hle := UpdateSum.single_le_sum tm.stakes id
    have hstake : (tm.restaked id coll debt stake).stakes id = stake := by
      unfold stakes
      rw [hself]
    have htotal : (tm.restaked id coll debt stake).totalStakes =
      tm.totalStakes - tm.stakes id + stake := rfl
    rw [hstake, h.totalStakes] at hsum
    rw [h.totalStakes] at hle
    omega
  · intro a hna
    rw [hactive] at hna
    have hid : a ≠ id := by
      rintro rfl
      exact hna ha
    rw [hf.debt a hid, hf.coll a hid, hf.stake a hid]
    exact h.inactive a hna
  · intro a ha
    rw [hactive] at ha
    by_cases hid : a = id
    · subst hid
      rw [hself]
      exact ⟨hdebt, hcoll⟩
    · rw [hf.debt a hid, hf.coll a hid]
      exact h.active a ha

theorem depart (h : Registry tm d) {status : Status} (hstatus : status ≠ .active)
    (hlist : SortedTroves.remove d id = .ok d') :
    Registry (tm.departed id (tm.troveOwners.getD (tm.troveOwners.length - 1) 0) status) d' := by
  obtain ⟨pre, post, hl, hd'⟩ := SortedTroves.remove_eq_ok h.list hlist
  have hforward := hd'.forward_eq
  have ha : tm.Active id := (h.mem_list id).1 (by rw [hl]; simp)
  have hmem : id ∈ tm.troveOwners := (h.mem_owners id).2 ha
  have hpos : 0 < tm.troveOwners.length := List.length_pos_of_mem hmem
  obtain ⟨moved, hmoved⟩ : ∃ moved,
      tm.troveOwners[tm.troveOwners.length - 1]? = some moved :=
    ⟨_, List.getElem?_eq_getElem (by omega)⟩
  have hat := h.indexed.getElem? hmem
  have hlt := (List.getElem?_eq_some_iff.1 hat).1
  rw [List.getD_eq_getElem?_getD, hmoved, Option.getD_some]
  have hf : Frame tm (tm.departed id moved status) id := departed_frame
  have htrove := departed_troves tm id moved status
  have hactive (a : Address) :
      (tm.departed id moved status).Active a ↔ tm.Active a ∧ a ≠ id := by
    by_cases hid : a = id
    · subst hid
      simp [Active, htrove, hstatus]
    · simp [hf.active_iff hid, hid]
  refine ⟨?_, ?_, ?_, ?_, ?_, ?_, ?_, ?_⟩
  · rwa [hforward]
  · intro a
    have hn := h.list.nodes.nodup
    rw [hl] at hn
    have hid : id ∉ pre ++ post := by
      simp only [List.nodup_append, List.nodup_cons, List.mem_cons] at hn
      simp only [List.mem_append]
      rintro (hm | hm)
      · exact hn.2.2 id hm id (Or.inl rfl) rfl
      · exact hn.2.1.1 hm
    rw [hforward, hactive, ← h.mem_list, hl]
    simp only [List.mem_append, List.mem_cons] at hid ⊢
    constructor
    · intro hm
      refine ⟨by tauto, ?_⟩
      rintro rfl
      exact hid hm
    · rintro ⟨hm, hne⟩
      tauto
  · have hswap := h.indexed.swapPop hlt hmoved
    refine hswap.congr (fun a _ => ?_)
    rw [htrove, Function.update_apply]
  · intro a
    rw [hactive, ← h.mem_owners]
    exact h.indexed.mem_swapPop hat hmoved
  · have hsum := hf.sum_stakes
    have hstake : (tm.departed id moved status).stakes id = 0 := by simp [stakes, htrove]
    have htotal : (tm.departed id moved status).totalStakes = tm.totalStakes - tm.stakes id := rfl
    rw [hstake, h.totalStakes] at hsum
    omega
  · intro a
    by_cases hid : a = id
    · subst hid
      simp [collSnapshots, debtSnapshots, departed]
    · rw [hf.collSnapshots hid, hf.debtSnapshots hid]
      exact h.snapshot_le a
  · intro a hna
    by_cases hid : a = id
    · subst hid
      exact ⟨by simp [htrove], by simp [htrove], by simp [htrove], by simp [departed]⟩
    · rw [hf.debt a hid, hf.coll a hid, hf.stake a hid, hf.snapshot a hid]
      exact h.inactive a (fun hact => hna ((hactive a).2 ⟨hact, hid⟩))
  · intro a hact
    obtain ⟨hact, hid⟩ := (hactive a).1 hact
    rw [hf.debt a hid, hf.coll a hid]
    exact h.active a hact

theorem addRewardTerms (h : Registry tm d) (hterms : addRewardTerms tm debt coll = .ok tm') :
    Registry tm' d := by
  obtain ⟨-, q, r, e, f, -, -, -, -, rfl⟩ := addRewardTerms_eq_ok hterms
  exact ⟨h.list, h.mem_list, h.indexed, h.mem_owners, h.totalStakes,
    fun a => ⟨(h.snapshot_le a).1.trans (Nat.le_add_right _ _),
      (h.snapshot_le a).2.trans (Nat.le_add_right _ _)⟩, h.inactive, h.active⟩

theorem event {D : Deployment} {b b' : Book} (h : Registry b.troveManager b.sortedTroves)
    (he : Event D b b') : Registry b'.troveManager b'.sortedTroves := by
  cases he with
  | opens hnew hdebt hstake hlist hgas hpool =>
      obtain ⟨hd, hc, hs, -⟩ := h.inactive _ hnew
      obtain ⟨stake, -, heq⟩ := opened_eq_ok hd hc hs hstake
      rw [heq]
      exact h.enter hnew hdebt hlist
  | realises hactive hcoll hdebt hdefaultColl hdefaultDebt => exact h.realise hactive
  | amends hactive hsnapshot hdebt hstake hview hlist hactiveDebt hactiveColl hsupply hgas hpool =>
      obtain ⟨stake, -, -, rfl⟩ := amended_eq_ok hstake
      exact h.restake hactive (hdebt.elim (h.active _ hactive).1.trans id) hlist
  | closes hstatus hmore hstake howner hlist =>
      obtain ⟨-, -, rfl⟩ := departed_eq_ok hstake howner
      exact h.depart hstatus.2 hlist
  | redistributes hpos hterms hdebt hcoll => exact h.addRewardTerms hterms
  | snapshots howners =>
      exact ⟨h.list, h.mem_list, h.indexed, h.mem_owners, h.totalStakes, h.snapshot_le,
        h.inactive, h.active⟩
  | _ => exact h

end Registry

/-- The last trove cannot be closed. -/
theorem Event.troveOwners_ne_nil {D : Deployment} {b b' : Book} (he : Event D b b')
    (h : b.troveManager.troveOwners ≠ []) : b'.troveManager.troveOwners ≠ [] := by
  cases he with
  | opens => simp [addTroveOwnerToArray]
  | amends hactive hsnapshot hdebt hstake =>
      obtain ⟨stake, -, -, rfl⟩ := amended_eq_ok hstake
      exact h
  | closes hstatus hmore hstake howner =>
      obtain ⟨-, -, rfl⟩ := departed_eq_ok hstake howner
      intro hnil
      have hzero := congrArg List.length hnil
      dsimp only [departed] at hzero
      rw [IndexedList.swapPop_length, List.length_nil] at hzero
      omega
  | redistributes hpos hterms =>
      obtain ⟨-, q, r, e, f, -, -, -, -, rfl⟩ := addRewardTerms_eq_ok hterms
      exact h
  | _ => exact h

end Usdd

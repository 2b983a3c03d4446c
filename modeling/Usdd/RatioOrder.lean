import Usdd.Lib.Ratio
import Usdd.Registry

/-!
# The list is ordered by collateral ratio

One trove is above another if its exact collateral ratio is at least the other's; then its nominal
ratio and its ratio at every price are at least the other's too. Insertion compares nominal ratios,
which are rounded down, and a redistribution hands out rounded shares, so each can put two troves
with almost the same ratio in the wrong order. `KeepsOrder` is the condition that neither does.
-/

open Transaction
open LinkedList (first last)

namespace Usdd

open TroveManager

namespace TroveManager

def Above (tm : TroveManager) (x y : Address) : Prop :=
  Ratio.AtLeast (tm.currentColl x) (tm.currentDebt x) (tm.currentColl y) (tm.currentDebt y)

/-- By how much the exact ratio of `x` exceeds that of `y`, cross-multiplied. -/
def margin (tm : TroveManager) (x y : Address) : ℤ :=
  tm.currentColl x * tm.currentDebt y - tm.currentColl y * tm.currentDebt x

def collShare (tm : TroveManager) (rise : ℕ) (a : Address) : ℕ :=
  RewardAccumulator.earned tm.stakes tm.collSnapshots (tm.lColl + rise) a / decimalPrecision -
    tm.pendingColl a

def debtShare (tm : TroveManager) (rise : ℕ) (a : Address) : ℕ :=
  RewardAccumulator.earned tm.stakes tm.debtSnapshots (tm.lUSDDDebt + rise) a / decimalPrecision -
    tm.pendingDebt a

/-- What the rounded shares of a redistribution move from `x` to `y`, cross-multiplied. -/
def shift (tm : TroveManager) (collRise debtRise : ℕ) (x y : Address) : ℤ :=
  let c := tm.collShare collRise
  let d := tm.debtShare debtRise
  (tm.currentColl y * d x + c y * (tm.currentDebt x + d x) : ℤ) -
    (tm.currentColl x * d y + c x * (tm.currentDebt y + d y))

/-- The margins between neighbours are at least what the rounded shares take from them. -/
def SharesKeepOrder (tm : TroveManager) (list : List Address) (collRise debtRise : ℕ) : Prop :=
  list.IsChain (fun x y => tm.shift collRise debtRise x y ≤ tm.margin x y)

instance (tm : TroveManager) (list : List Address) (collRise debtRise : ℕ) :
    Decidable (tm.SharesKeepOrder list collRise debtRise) :=
  inferInstanceAs (Decidable (List.IsChain _ _))

/-- The debt rewards of the borrower are realised, and whoever has the same nominal ratio has the
same exact ratio. -/
def PlacedExactly (tm : TroveManager) (borrower : Address) : Prop :=
  tm.lUSDDDebt ≤ tm.debtSnapshots borrower ∧
    ∀ a ∈ tm.troveOwners, a ≠ borrower →
      LiquityMath.computeNominalCR (tm.currentColl a) (tm.currentDebt a) =
        LiquityMath.computeNominalCR (tm.troves borrower).coll (tm.troves borrower).debt →
      tm.currentColl a * (tm.troves borrower).debt =
        (tm.troves borrower).coll * tm.currentDebt a

instance (tm : TroveManager) (borrower : Address) : Decidable (tm.PlacedExactly borrower) :=
  have := List.decidableBAll (fun a => a ≠ borrower →
    LiquityMath.computeNominalCR (tm.currentColl a) (tm.currentDebt a) =
      LiquityMath.computeNominalCR (tm.troves borrower).coll (tm.troves borrower).debt →
    tm.currentColl a * (tm.troves borrower).debt =
      (tm.troves borrower).coll * tm.currentDebt a) tm.troveOwners
  inferInstanceAs (Decidable (_ ∧ _))

end TroveManager

def JournalEntry.KeepsOrder : JournalEntry → Prop
  | .restake tm borrower => tm.PlacedExactly borrower
  | .redistribute tm list debt coll =>
      tm.SharesKeepOrder list.forward
        ((coll * decimalPrecision + tm.lastETHErrorRedistribution) / tm.totalStakes)
        ((debt * decimalPrecision + tm.lastUSDDDebtErrorRedistribution) / tm.totalStakes)
  | _ => True

instance : DecidablePred JournalEntry.KeepsOrder
  | .redistribute _ _ _ _ => inferInstanceAs (Decidable (TroveManager.SharesKeepOrder _ _ _ _))
  | .restake _ _ => inferInstanceAs (Decidable (TroveManager.PlacedExactly _ _))
  | .offset _ _ => isTrue trivial
  | .changeDeposit _ _ => isTrue trivial

def Book.Ordered (b : Book) : Prop := b.sortedTroves.forward.Pairwise b.troveManager.Above

section Above

variable {tm tm' : TroveManager} {x y id : Address}

theorem TroveManager.Above.computeCR_le (h : tm.Above x y) (price : ℕ) :
    LiquityMath.computeCR (tm.currentColl y) (tm.currentDebt y) price ≤
      LiquityMath.computeCR (tm.currentColl x) (tm.currentDebt x) price := by
  rw [LiquityMath.computeCR, LiquityMath.computeCR, if_pos h.1, if_pos h.2.1]
  exact h.div_le price

theorem TroveManager.Above.computeNominalCR_le (h : tm.Above x y) :
    LiquityMath.computeNominalCR (tm.currentColl y) (tm.currentDebt y) ≤
      LiquityMath.computeNominalCR (tm.currentColl x) (tm.currentDebt x) := by
  rw [LiquityMath.computeNominalCR, LiquityMath.computeNominalCR, if_pos h.1, if_pos h.2.1]
  exact h.div_le LiquityMath.nicrPrecision

/-- Nominal ratios decide the exact order of two ratios, but for a tie that is not exact. -/
theorem atLeast_of_computeNominalCR_le {c d c' d' : ℕ} (hd : 0 < d) (hd' : 0 < d')
    (hle : LiquityMath.computeNominalCR c' d' ≤ LiquityMath.computeNominalCR c d)
    (htie : LiquityMath.computeNominalCR c' d' = LiquityMath.computeNominalCR c d →
      c' * d ≤ c * d') : Ratio.AtLeast c d c' d' := by
  rcases hle.lt_or_eq with hlt | heq
  · rw [LiquityMath.computeNominalCR, LiquityMath.computeNominalCR, if_pos hd, if_pos hd'] at hlt
    exact Ratio.AtLeast.of_div_lt hd hd' hlt
  · exact ⟨hd, hd', htie heq⟩

theorem TroveManager.Frame.above (hf : Frame tm tm' id) (hx : x ≠ id) (hy : y ≠ id)
    (h : tm.Above x y) : tm'.Above x y := by
  unfold Above
  rw [hf.currentColl hx, hf.currentColl hy, hf.currentDebt hx, hf.currentDebt hy]
  exact h

theorem pairwise_above_of_frame (hf : Frame tm tm' id) {l : List Address} (hid : id ∉ l)
    (h : l.Pairwise tm.Above) : l.Pairwise tm'.Above := by
  refine h.imp_of_mem (fun hx hy hxy => hf.above ?_ ?_ hxy)
  · rintro rfl
    exact hid hx
  · rintro rfl
    exact hid hy

/-- After a redistribution `x` is above `y` exactly if the margin outweighs the shift. -/
theorem above_raised_iff {q r e f : ℕ} (hx : 0 < (tm.troves x).debt) (hy : 0 < (tm.troves y).debt) :
    (tm.raised q r e f).Above x y ↔ tm.shift q r x y ≤ tm.margin x y := by
  have hmono (stake snapshot : Address → ℕ) (level rise : ℕ) (a : Address) :
      RewardAccumulator.earned stake snapshot level a / decimalPrecision ≤
        RewardAccumulator.earned stake snapshot (level + rise) a / decimalPrecision :=
    Nat.div_le_div_right (Nat.mul_le_mul_left _ (Nat.sub_le_sub_right (Nat.le_add_right _ _) _))
  have hcoll (a : Address) :
      (tm.raised q r e f).currentColl a = tm.currentColl a + tm.collShare q a := by
    have hle := hmono tm.stakes tm.collSnapshots tm.lColl q a
    show (tm.troves a).coll + RewardAccumulator.earned tm.stakes tm.collSnapshots (tm.lColl + q) a /
      decimalPrecision = (tm.troves a).coll + tm.pendingColl a + (_ - tm.pendingColl a)
    unfold pendingColl
    omega
  have hdebt (a : Address) :
      (tm.raised q r e f).currentDebt a = tm.currentDebt a + tm.debtShare r a := by
    have hle := hmono tm.stakes tm.debtSnapshots tm.lUSDDDebt r a
    show (tm.troves a).debt +
      RewardAccumulator.earned tm.stakes tm.debtSnapshots (tm.lUSDDDebt + r) a /
        decimalPrecision = (tm.troves a).debt + tm.pendingDebt a + (_ - tm.pendingDebt a)
    unfold pendingDebt
    omega
  have hpos (a : Address) (ha : 0 < (tm.troves a).debt) :
      0 < tm.currentDebt a + tm.debtShare r a := by
    unfold currentDebt
    omega
  unfold Above Ratio.AtLeast shift margin
  rw [hcoll, hcoll, hdebt, hdebt]
  simp only [hpos x hx, hpos y hy, true_and]
  rw [← Nat.cast_le (α := ℤ)]
  push_cast
  constructor
  · intro h
    nlinarith only [h]
  · intro h
    nlinarith only [h]

end Above

namespace Registry

variable {tm tm' : TroveManager} {d : SortedTroves.Data} {id : Address}

theorem currentDebt_pos (h : Registry tm d) {a : Address} (ha : tm.Active a) :
    0 < tm.currentDebt a :=
  Nat.add_pos_left (minDebt_pos (h.active a ha).1) _

/-- A trove placed by its nominal ratio is placed by its exact ratio, if the nominal ratio ties with
exactly equal ratios only. -/
theorem pairwise_place (h : Registry tm d) (hf : Frame tm tm' id) {pre post : List Address}
    (hactive : ∀ a ∈ pre ++ post, tm.Active a) (hid : id ∉ pre ++ post)
    (hsorted : (pre ++ post).Pairwise tm.Above) {coll debt : ℕ} (hdebt : 0 < debt)
    (hc : tm'.currentColl id = coll) (hd : tm'.currentDebt id = debt) {view : Address → Tx ℕ}
    (hview : ∀ a, a ≠ id → view a = getNominalICR tm' a)
    (hfits : SortedTroves.Fits view (LiquityMath.computeNominalCR coll debt) (last pre)
      (first post))
    (hzero : 0 ∉ pre ++ post)
    (htie : ∀ a ∈ pre ++ post,
      LiquityMath.computeNominalCR (tm.currentColl a) (tm.currentDebt a) =
        LiquityMath.computeNominalCR coll debt →
      tm.currentColl a * debt = coll * tm.currentDebt a) :
    (pre ++ id :: post).Pairwise tm'.Above := by
  have hne {a : Address} (ha : a ∈ pre ++ post) : a ≠ id := by
    rintro rfl
    exact hid ha
  have hnicr {a : Address} (ha : a ∈ pre ++ post) :
      view a = .ok (LiquityMath.computeNominalCR (tm.currentColl a) (tm.currentDebt a)) := by
    have hle := h.snapshot_le a
    rw [hview a (hne ha), getNominalICR_of_active ((hf.active_iff (hne ha)).2 (hactive a ha)),
      hf.currentColl (hne ha), hf.currentDebt (hne ha)]
    · rw [hf.collSnapshots (hne ha), hf.lColl]
      exact hle.1
    · rw [hf.debtSnapshots (hne ha), hf.lUSDDDebt]
      exact hle.2
  have htrans (a b c : Address) (hab : tm'.Above a b) (hbc : tm'.Above b c) : tm'.Above a c :=
    Ratio.AtLeast.trans hab hbc
  refine LinkedList.pairwise_insert htrans (pairwise_above_of_frame hf hid hsorted) ?_ ?_
  · intro hpre
    have hm : last pre ∈ pre ++ post := List.mem_append_left _ (LinkedList.last_mem hpre)
    obtain ⟨v, hv, hle⟩ := hfits.1 (fun h₀ => hzero (h₀ ▸ hm))
    rw [hnicr hm] at hv
    cases hv
    unfold Above
    rw [hc, hd, hf.currentColl (hne hm), hf.currentDebt (hne hm)]
    refine atLeast_of_computeNominalCR_le (h.currentDebt_pos (hactive _ hm)) hdebt hle ?_
    exact fun heq => (htie _ hm heq.symm).ge
  · intro hpost
    have hm : first post ∈ pre ++ post := List.mem_append_right _ (LinkedList.first_mem hpost)
    obtain ⟨v, hv, hle⟩ := hfits.2 (fun h₀ => hzero (h₀ ▸ hm))
    rw [hnicr hm] at hv
    cases hv
    unfold Above
    rw [hc, hd, hf.currentColl (hne hm), hf.currentDebt (hne hm)]
    refine atLeast_of_computeNominalCR_le hdebt (h.currentDebt_pos (hactive _ hm)) hle ?_
    exact fun heq => (htie _ hm heq).le

end Registry

variable {D : Deployment} {b b' : Book}

theorem getNominalICR_addTroveOwnerToArray (tm : TroveManager) (id a : Address) :
    getNominalICR (tm.addTroveOwnerToArray id) a = getNominalICR tm a := by
  have htrove : (tm.addTroveOwnerToArray id).troves a =
      { tm.troves a with
        arrayIndex := ((tm.addTroveOwnerToArray id).troves a).arrayIndex } := by
    by_cases ha : a = id
    · subst ha
      simp [addTroveOwnerToArray, setTrove]
    · simp [addTroveOwnerToArray, setTrove, ha]
  unfold getNominalICR getCurrentTroveAmounts getPendingCollReward getPendingUSDDDebtReward
  rw [htrove]
  rfl

theorem Book.Ordered.event (hreg : Registry b.troveManager b.sortedTroves) (h : b.Ordered)
    (hj : ∀ e ∈ b'.journal, e.KeepsOrder) (he : Event D b b') : b'.Ordered := by
  cases he with
  | @opens id _ _ coll debt _ _ tm₁ _ hnew hdebt hstake hlist hgas hpool =>
      obtain ⟨hd, hc, hs, -⟩ := hreg.inactive _ hnew
      obtain ⟨stake, -, heq⟩ := opened_eq_ok hd hc hs hstake
      obtain ⟨-, htie⟩ : (b.troveManager.opened id coll debt).PlacedExactly id :=
        hj _ (List.mem_cons_self ..)
      have hself : (b.troveManager.opened id coll debt).troves id =
          ⟨debt, coll, 0, .active, (b.troveManager.troves id).arrayIndex⟩ := by
        simp [opened_eq, hd, hc, hs]
      rw [hself] at htie
      obtain ⟨pre, post, hl, hid, hd', hfits⟩ := SortedTroves.insert_eq_ok hreg.list hlist
      have hactive (a : Address) (ha : a ∈ pre ++ post) : b.troveManager.Active a := by
        rwa [← hl, hreg.mem_list] at ha
      have hzero := hreg.list.zero_notMem
      unfold Book.Ordered at h ⊢
      dsimp only
      rw [hl] at hid hzero h
      rw [heq, hd'.forward_eq]
      refine hreg.pairwise_place entered_frame hactive hid h (Registry.minDebt_pos hdebt) ?_ ?_ ?_
        hfits hzero ?_
      · rw [currentColl, pendingColl_of_le, entered_self, Nat.add_zero]
        rw [collSnapshots, entered_snapshot]
        exact le_rfl
      · rw [currentDebt, pendingDebt_of_le, entered_self, Nat.add_zero]
        rw [debtSnapshots, entered_snapshot]
        exact le_rfl
      · intro a _
        rw [← heq, getNominalICR_addTroveOwnerToArray]
      · intro a ha
        have hne : a ≠ id := by
          rintro rfl
          exact hid ha
        have hf : Frame b.troveManager (b.troveManager.opened id coll debt) id := opened_frame
        have := htie a ((hreg.mem_owners a).2 (hactive a ha)) hne
        rwa [hf.currentColl hne, hf.currentDebt hne] at this
  | @realises id coll debt hactive hcoll hdebt =>
      obtain ⟨-, rfl⟩ := (getPendingCollReward_eq_ok_iff hactive).1 hcoll
      obtain ⟨-, rfl⟩ := (getPendingUSDDDebtReward_eq_ok_iff hactive).1 hdebt
      refine h.imp (fun {x y} hxy => ?_)
      unfold Above
      rw [realised_currentColl, realised_currentColl, realised_currentDebt, realised_currentDebt]
      exact hxy
  | @amends id _ _ coll debt _ _ _ _ _ _ _ view _ _ hactive hsnapshot hdebt hstake hview hlist =>
      obtain ⟨stake, -, -, rfl⟩ := amended_eq_ok hstake
      obtain ⟨hrealised, htie⟩ : (b.troveManager.amended id coll debt).PlacedExactly id :=
        hj _ (List.mem_cons_self ..)
      have hself : (b.troveManager.amended id coll debt).troves id =
          { b.troveManager.troves id with coll := coll, debt := debt } := by
        simp [amended, setTrove]
      rw [hself] at htie
      obtain ⟨pre, post, pre', post', hl, happ, hd', hfits⟩ :=
        SortedTroves.reInsert_eq_ok hreg.list hlist
      have hmem (a : Address) (ha : a ∈ pre' ++ post') : a ∈ b.sortedTroves.forward := by
        rw [← happ] at ha
        rw [hl]
        simp only [List.mem_append, List.mem_cons] at ha ⊢
        tauto
      have hid : id ∉ pre' ++ post' := by
        have hn := hreg.list.nodes.nodup
        rw [hl, List.nodup_middle, List.nodup_cons] at hn
        rw [← happ]
        exact hn.1
      have hsorted : (pre' ++ post').Pairwise b.troveManager.Above := by
        rw [← happ]
        unfold Book.Ordered at h
        rw [hl] at h
        exact h.sublist (List.Sublist.append_left (List.sublist_cons_self id post) pre)
      have hmin := hdebt.elim (hreg.active id hactive).1.trans (fun hle => hle)
      unfold Book.Ordered
      dsimp only
      rw [hd'.forward_eq]
      refine hreg.pairwise_place restaked_frame (fun a ha => (hreg.mem_list a).1 (hmem a ha)) hid
        hsorted (Registry.minDebt_pos hmin) ?_ ?_ hview hfits
        (fun h₀ => hreg.list.zero_notMem (hmem 0 h₀)) ?_
      · have hzero : (b.troveManager.restaked id coll debt stake).pendingColl id = 0 :=
          pendingColl_of_le hsnapshot
        rw [currentColl, hzero, restaked_self, Nat.add_zero]
      · have hzero : (b.troveManager.restaked id coll debt stake).pendingDebt id = 0 :=
          pendingDebt_of_le hrealised
        rw [currentDebt, hzero, restaked_self, Nat.add_zero]
      · intro a ha
        have hne : a ≠ id := by
          rintro rfl
          exact hid ha
        have hf : Frame b.troveManager (b.troveManager.amended id coll debt) id := amended_frame
        have hm : a ∈ b.troveManager.troveOwners :=
          (hreg.mem_owners a).2 ((hreg.mem_list a).1 (hmem a ha))
        have := htie a hm hne
        rwa [hf.currentColl hne, hf.currentDebt hne] at this
  | @closes id _ _ _ _ hstatus hmore hstake howner hlist =>
      obtain ⟨-, -, rfl⟩ := departed_eq_ok hstake howner
      obtain ⟨pre, post, hl, hd'⟩ := SortedTroves.remove_eq_ok hreg.list hlist
      have hn := hreg.list.nodes.nodup
      rw [hl, List.nodup_middle, List.nodup_cons] at hn
      unfold Book.Ordered at h ⊢
      dsimp only
      rw [hl] at h
      rw [hd'.forward_eq]
      exact pairwise_above_of_frame departed_frame hn.1
        (h.sublist (List.Sublist.append_left (List.sublist_cons_self id post) pre))
  | redistributes hpos hterms hdebt hcoll =>
      obtain ⟨-, q, r, e, f, hq, hr, -, -, rfl⟩ := addRewardTerms_eq_ok hterms
      have hkeeps : b.troveManager.SharesKeepOrder b.sortedTroves.forward q r := by
        rw [hq, hr]
        exact hj _ (List.mem_cons_self ..)
      have : Trans (b.troveManager.raised q r e f).Above (b.troveManager.raised q r e f).Above
          (b.troveManager.raised q r e f).Above := ⟨Ratio.AtLeast.trans⟩
      refine List.isChain_iff_pairwise.1 (hkeeps.imp_of_mem_imp (fun x y hx hy hxy => ?_))
      refine (above_raised_iff ?_ ?_).2 hxy
      · exact Registry.minDebt_pos (hreg.active x ((hreg.mem_list x).1 hx)).1
      · exact Registry.minDebt_pos (hreg.active y ((hreg.mem_list y).1 hy)).1
  | snapshots => exact h
  | _ => exact h

end Usdd

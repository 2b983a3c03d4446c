import Usdd.SortedTroves

/-!
# The search for an insert position

`WellFormed d l` says that the storage `d` of SortedTroves holds exactly the list `l`. Whatever the
hints, the position found for a ratio lies between a member with at least that ratio and a member
with at most that ratio: the descent keeps a member with a large enough ratio on its left, the
ascent one with a small enough ratio on its right, and the list need not be sorted for this.
-/

open Transaction
open LinkedList (Node Represents first last)

namespace Usdd.SortedTroves

structure WellFormed (d : Data) (l : List Address) : Prop where
  nodes : Represents d.nodes l
  head : d.head = first l
  tail : d.tail = last l
  size : d.size = l.length

theorem initial_wellFormed (maxSize : ℕ) : WellFormed (Data.initial maxSize) [] :=
  ⟨LinkedList.represents_nil, rfl, rfl, rfl⟩

theorem WellFormed.contains_iff {d : Data} {l : List Address} (h : WellFormed d l) {id : Address} :
    contains d id = true ↔ id ∈ l := h.nodes.existing_iff

theorem WellFormed.not_contains_iff {d : Data} {l : List Address} (h : WellFormed d l)
    {id : Address} : contains d id = false ↔ id ∉ l := by
  rw [← h.contains_iff, Bool.not_eq_true]

theorem WellFormed.zero_notMem {d : Data} {l : List Address} (h : WellFormed d l) : 0 ∉ l :=
  h.nodes.nonzero

section Positions

variable {getNominalICR : Address → Tx ℕ} {d : Data} {nicr : ℕ} {l : List Address}

/-- `nicr` fits between the ratios of `p` and `n`, of which either may be null. -/
def Fits (getNominalICR : Address → Tx ℕ) (nicr : ℕ) (p n : Address) : Prop :=
  (p ≠ 0 → ∃ v, getNominalICR p = .ok v ∧ nicr ≤ v) ∧
    (n ≠ 0 → ∃ v, getNominalICR n = .ok v ∧ v ≤ nicr)

theorem validInsertPosition_fits (h : WellFormed d l) {p n : Address}
    (hv : validInsertPosition getNominalICR d nicr p n = .ok true) :
    ∃ pre post, l = pre ++ post ∧ p = last pre ∧ n = first post ∧ Fits getNominalICR nicr p n := by
  unfold validInsertPosition at hv
  split_ifs at hv with h₁ h₂ h₃ h₄ h₅ h₆
  · obtain ⟨rfl, rfl⟩ := h₁
    have hl : l = [] := by
      rw [← List.length_eq_zero_iff, ← h.size]
      simpa [isEmpty] using hv
    exact ⟨[], [], by simp [hl], rfl, rfl, by simp, by simp⟩
  · obtain ⟨v, hn, hle⟩ := bind_eq_ok.1 hv
    refine ⟨[], l, rfl, h₂, by rw [← h₃, h.head], fun hp => absurd h₂ hp, fun _ => ⟨v, hn, ?_⟩⟩
    simpa using hle
  · simp at hv
  · obtain ⟨v, hp, hle⟩ := bind_eq_ok.1 hv
    refine ⟨l, [], by simp, by rw [← h₅, h.tail], h₄, fun _ => ⟨v, hp, ?_⟩, fun hn => absurd h₄ hn⟩
    simpa using hle
  · simp at hv
  · obtain ⟨v, hp, hv⟩ := bind_eq_ok.1 hv
    split_ifs at hv with hpv
    · obtain ⟨w, hn, hle⟩ := bind_eq_ok.1 hv
      obtain ⟨pre, post, rfl⟩ := h.nodes.adjacent h₄ h₆
      refine ⟨pre ++ [p], n :: post, by simp, by simp, rfl, fun _ => ⟨v, hp, hpv⟩,
        fun _ => ⟨w, hn, by simpa using hle⟩⟩
    · simp at hv
  · simp at hv

section Loops

variable {pre post : List Address} {a b : Address}

theorem WellFormed.ne_zero (h : WellFormed d (pre ++ a :: post)) : a ≠ 0 :=
  fun ha => h.zero_notMem (by simp [ha])

theorem validInsertPosition_adjacent (h : WellFormed d (pre ++ a :: b :: post)) :
    validInsertPosition getNominalICR d nicr a b = (do
      let v ← getNominalICR a
      if v ≥ nicr then do
        let w ← getNominalICR b
        pure (decide (nicr ≥ w))
      else pure false) := by
  have ha : a ≠ 0 := h.ne_zero
  have hb : b ≠ 0 := fun hb => h.zero_notMem (by simp [hb])
  have hab : (d.nodes a).nextId = b := h.nodes.nextId_eq
  simp only [validInsertPosition, ha, hb, hab, false_and, if_false, if_true]

theorem validInsertPosition_tail (h : WellFormed d (pre ++ [a])) :
    validInsertPosition getNominalICR d nicr a 0 = (do
      let v ← getNominalICR a
      pure (decide (nicr ≤ v))) := by
  have ha : a ≠ 0 := h.ne_zero
  have ht : d.tail = a := by rw [h.tail, LinkedList.last_append_cons, LinkedList.last_singleton]
  simp only [validInsertPosition, ha, ht, false_and, if_false, if_true]

theorem validInsertPosition_head (h : WellFormed d (a :: post)) :
    validInsertPosition getNominalICR d nicr 0 a = (do
      let v ← getNominalICR a
      pure (decide (nicr ≥ v))) := by
  have ha : a ≠ 0 := by
    rintro rfl
    exact h.zero_notMem (List.mem_cons_self ..)
  have hh : d.head = a := by rw [h.head, LinkedList.first_cons]
  simp only [validInsertPosition, ha, hh, and_false, if_false, if_true]

/-- The descent stops at a valid pair if it starts at a member whose ratio is at least `nicr`. -/
theorem descendLoop_valid (h : WellFormed d (pre ++ a :: post)) {v : ℕ}
    (hv : getNominalICR a = .ok v) (hle : nicr ≤ v) {fuel : ℕ} {p n : Address}
    (hr : descendLoop getNominalICR d nicr fuel a (first post) = .ok (p, n)) :
    validInsertPosition getNominalICR d nicr p n = .ok true := by
  induction fuel generalizing pre a post v with
  | zero => simp [descendLoop] at hr
  | succ fuel ih =>
      rw [descendLoop, if_neg h.ne_zero] at hr
      obtain ⟨valid, hvalid, hr'⟩ := bind_eq_ok.1 hr
      cases valid with
      | true =>
          obtain ⟨rfl, rfl⟩ : a = p ∧ first post = n := by simpa using hr'
          exact hvalid
      | false =>
          cases post with
          | nil =>
              rw [LinkedList.first_nil, validInsertPosition_tail h, hv] at hvalid
              have hlt : ¬ nicr ≤ v := by simpa [bind, Except.bind, pure, Except.pure] using hvalid
              exact absurd hle hlt
          | cons b post =>
              have h' : WellFormed d ((pre ++ [a]) ++ b :: post) := by simpa using h
              rw [LinkedList.first_cons, validInsertPosition_adjacent h, hv] at hvalid
              obtain ⟨v', hv', hvalid⟩ := bind_eq_ok.1 hvalid
              cases hv'
              rw [if_pos hle] at hvalid
              obtain ⟨w, hw, hnw⟩ := bind_eq_ok.1 hvalid
              have hlt : nicr < w := by simpa using hnw
              refine ih h' hw hlt.le ?_
              simpa [h.nodes.nextId_eq, h'.nodes.nextId_eq] using hr'

/-- The ascent stops at a valid pair if it starts at a member whose ratio is at most `nicr`. -/
theorem ascendLoop_valid (h : WellFormed d (pre ++ a :: post)) {v : ℕ}
    (hv : getNominalICR a = .ok v) (hle : v ≤ nicr) {fuel : ℕ} {p n : Address}
    (hr : ascendLoop getNominalICR d nicr fuel (last pre) a = .ok (p, n)) :
    validInsertPosition getNominalICR d nicr p n = .ok true := by
  induction fuel generalizing pre a post v with
  | zero => simp [ascendLoop] at hr
  | succ fuel ih =>
      rw [ascendLoop, if_neg h.ne_zero] at hr
      obtain ⟨valid, hvalid, hr'⟩ := bind_eq_ok.1 hr
      cases valid with
      | true =>
          obtain ⟨rfl, rfl⟩ : last pre = p ∧ a = n := by simpa using hr'
          exact hvalid
      | false =>
          rcases List.eq_nil_or_concat pre with rfl | ⟨pre, b, rfl⟩
          · rw [LinkedList.last_nil, validInsertPosition_head h, hv] at hvalid
            have hlt : ¬ nicr ≥ v := by simpa [bind, Except.bind, pure, Except.pure] using hvalid
            exact absurd hle hlt
          · rw [List.concat_eq_append] at *
            have h' : WellFormed d (pre ++ b :: a :: post) := by simpa using h
            have hba : last (pre ++ [b]) = b := by
              rw [LinkedList.last_append_cons, LinkedList.last_singleton]
            rw [hba, validInsertPosition_adjacent h'] at hvalid
            obtain ⟨w, hw, hvalid⟩ := bind_eq_ok.1 hvalid
            have hlt : w < nicr := by
              by_contra hge
              rw [if_pos (not_lt.1 hge), hv] at hvalid
              have hlt : ¬ nicr ≥ v := by
                simpa [bind, Except.bind, pure, Except.pure] using hvalid
              exact hlt hle
            refine ih h' hw hlt.le ?_
            simpa [h.nodes.prevId_eq, hba, h'.nodes.prevId_eq] using hr'

section Fuel

variable {bad : Revert → Prop}

theorem validInsertPosition_avoids (hn : ∀ a, Avoids bad (getNominalICR a)) (p n : Address) :
    Avoids bad (validInsertPosition getNominalICR d nicr p n) := by
  unfold validInsertPosition
  repeat' first
    | apply avoids_ite <;> intro _
    | exact avoids_pure _
    | (refine avoids_bind (hn _) ?_; intro _ _)

/-- A round of the descent moves one member down, so the list bounds the number of rounds. -/
theorem descendLoop_avoids (hn : ∀ a, Avoids bad (getNominalICR a))
    (h : WellFormed d (pre ++ a :: post)) {fuel : ℕ} (hf : post.length + 2 ≤ fuel) :
    Avoids bad (descendLoop getNominalICR d nicr fuel a (first post)) := by
  induction post generalizing pre a fuel with
  | nil =>
      obtain ⟨fuel, rfl⟩ : ∃ k, fuel = k + 2 := ⟨fuel - 2, by omega⟩
      rw [descendLoop, if_neg h.ne_zero, h.nodes.nextId_eq, LinkedList.first_nil]
      refine avoids_bind (validInsertPosition_avoids hn a 0) (fun valid _ => ?_)
      refine avoids_ite (fun _ => avoids_pure _) (fun _ => ?_)
      rw [descendLoop, if_pos rfl]
      exact avoids_pure _
  | cons b post ih =>
      obtain ⟨fuel, rfl⟩ : ∃ k, fuel = k + 1 := ⟨fuel - 1, by omega⟩
      have h' : WellFormed d ((pre ++ [a]) ++ b :: post) := by simpa using h
      rw [descendLoop, if_neg h.ne_zero, h.nodes.nextId_eq, LinkedList.first_cons,
        h'.nodes.nextId_eq]
      refine avoids_bind (validInsertPosition_avoids hn a b) (fun valid _ => ?_)
      refine avoids_ite (fun _ => avoids_pure _) (fun _ => ih h' ?_)
      simp only [List.length_cons] at hf
      omega

theorem ascendLoop_avoids (hn : ∀ a, Avoids bad (getNominalICR a))
    (h : WellFormed d (pre ++ a :: post)) {fuel : ℕ} (hf : pre.length + 2 ≤ fuel) :
    Avoids bad (ascendLoop getNominalICR d nicr fuel (last pre) a) := by
  induction pre using List.reverseRecOn generalizing a post fuel with
  | nil =>
      obtain ⟨fuel, rfl⟩ : ∃ k, fuel = k + 2 := ⟨fuel - 2, by omega⟩
      rw [ascendLoop, if_neg (WellFormed.ne_zero h), h.nodes.prevId_eq, LinkedList.last_nil]
      refine avoids_bind (validInsertPosition_avoids hn 0 a) (fun valid _ => ?_)
      refine avoids_ite (fun _ => avoids_pure _) (fun _ => ?_)
      rw [ascendLoop, if_pos rfl]
      exact avoids_pure _
  | append_singleton pre b ih =>
      obtain ⟨fuel, rfl⟩ : ∃ k, fuel = k + 1 := ⟨fuel - 1, by omega⟩
      have h' : WellFormed d (pre ++ b :: a :: post) := by simpa using h
      rw [ascendLoop, if_neg h.ne_zero, h.nodes.prevId_eq, LinkedList.last_append_cons,
        LinkedList.last_singleton, h'.nodes.prevId_eq]
      refine avoids_bind (validInsertPosition_avoids hn b a) (fun valid _ => ?_)
      refine avoids_ite (fun _ => avoids_pure _) (fun _ => ih h' ?_)
      simp only [List.length_append, List.length_singleton] at hf
      omega

end Fuel

end Loops

/-- A hint that passes its check is null or a member on the right side of `nicr`. -/
theorem checkPrevHint_eq_ok (h : WellFormed d l) {hint p : Address}
    (hc : checkPrevHint getNominalICR d nicr hint = .ok p) :
    p = 0 ∨ p ∈ l ∧ ∃ v, getNominalICR p = .ok v ∧ nicr ≤ v := by
  unfold checkPrevHint at hc
  split_ifs at hc with h₁ h₂
  · exact Or.inl (pure_eq_ok.1 hc).symm
  · obtain ⟨v, hv, hc⟩ := bind_eq_ok.1 hc
    split_ifs at hc with h₃
    · exact Or.inl (pure_eq_ok.1 hc).symm
    · cases pure_eq_ok.1 hc
      exact Or.inr ⟨h.contains_iff.1 (by simpa using h₂), v, hv, not_lt.1 h₃⟩
  · exact Or.inl (by rw [← pure_eq_ok.1 hc]; simpa using h₁)

theorem checkNextHint_eq_ok (h : WellFormed d l) {hint n : Address}
    (hc : checkNextHint getNominalICR d nicr hint = .ok n) :
    n = 0 ∨ n ∈ l ∧ ∃ v, getNominalICR n = .ok v ∧ v ≤ nicr := by
  unfold checkNextHint at hc
  split_ifs at hc with h₁ h₂
  · exact Or.inl (pure_eq_ok.1 hc).symm
  · obtain ⟨v, hv, hc⟩ := bind_eq_ok.1 hc
    split_ifs at hc with h₃
    · exact Or.inl (pure_eq_ok.1 hc).symm
    · cases pure_eq_ok.1 hc
      exact Or.inr ⟨h.contains_iff.1 (by simpa using h₂), v, hv, not_lt.1 h₃⟩
  · exact Or.inl (by rw [← pure_eq_ok.1 hc]; simpa using h₁)

theorem descendList_head_valid (h : WellFormed d l) {p n : Address}
    (hr : descendList getNominalICR d nicr d.head = .ok (p, n)) :
    validInsertPosition getNominalICR d nicr p n = .ok true := by
  obtain ⟨before, hb, hr⟩ := bind_eq_ok.1 hr
  rw [beforeHead, if_pos rfl] at hb
  obtain ⟨v, hv, hd⟩ := bind_eq_ok.1 hb
  rw [pure_eq_ok] at hd
  cases l with
  | nil =>
      have hempty : validInsertPosition getNominalICR d nicr 0 0 = .ok true := by
        simp [validInsertPosition, isEmpty, h.size, pure, Except.pure]
      rw [h.head, LinkedList.first_nil] at hr
      cases before with
      | true =>
          obtain ⟨rfl, rfl⟩ : 0 = p ∧ 0 = n := by simpa using hr
          exact hempty
      | false =>
          obtain ⟨rfl, rfl⟩ : 0 = p ∧ 0 = n := by
            simpa [descendLoop, h.nodes.zero, Node.empty] using hr
          exact hempty
  | cons a post =>
      rw [h.head, LinkedList.first_cons] at hr hv
      cases before with
      | true =>
          obtain ⟨rfl, rfl⟩ : 0 = p ∧ a = n := by simpa using hr
          rw [validInsertPosition_head h, hv]
          simpa using hd
      | false =>
          have hlt : nicr < v := by simpa using hd
          rw [← List.nil_append (a :: post)] at h
          rw [h.nodes.nextId_eq] at hr
          exact descendLoop_valid h hv hlt.le hr

theorem descendList_hint_valid (h : WellFormed d l) {a p n : Address} (ha : a ∈ l) {v : ℕ}
    (hv : getNominalICR a = .ok v) (hle : nicr ≤ v)
    (hr : descendList getNominalICR d nicr a = .ok (p, n)) :
    validInsertPosition getNominalICR d nicr p n = .ok true := by
  obtain ⟨pre, post, rfl⟩ := List.append_of_mem ha
  obtain ⟨before, hb, hr⟩ := bind_eq_ok.1 hr
  unfold beforeHead at hb
  cases before with
  | true =>
      obtain ⟨rfl, rfl⟩ : 0 = p ∧ a = n := by simpa using hr
      split_ifs at hb with hd
      · rw [hv] at hb
        have ha₀ : a ≠ 0 := h.ne_zero
        simp only [validInsertPosition, ha₀, hd, hv, and_false, if_false, if_true]
        exact hb
      · simp at hb
  | false =>
      rw [h.nodes.nextId_eq] at hr
      exact descendLoop_valid h hv hle hr

theorem ascendList_hint_valid (h : WellFormed d l) {a p n : Address} (ha : a ∈ l) {v : ℕ}
    (hv : getNominalICR a = .ok v) (hle : v ≤ nicr)
    (hr : ascendList getNominalICR d nicr a = .ok (p, n)) :
    validInsertPosition getNominalICR d nicr p n = .ok true := by
  obtain ⟨pre, post, rfl⟩ := List.append_of_mem ha
  obtain ⟨after, hb, hr⟩ := bind_eq_ok.1 hr
  unfold afterTail at hb
  cases after with
  | true =>
      obtain ⟨rfl, rfl⟩ : a = p ∧ 0 = n := by simpa using hr
      split_ifs at hb with hd
      · rw [hv] at hb
        have ha₀ : a ≠ 0 := h.ne_zero
        simp only [validInsertPosition, ha₀, hd, hv, false_and, if_false, if_true]
        exact hb
      · simp at hb
  | false =>
      rw [h.nodes.prevId_eq] at hr
      exact ascendLoop_valid h hv hle hr

theorem findInsertPosition_valid (h : WellFormed d l) {prevHint nextHint p n : Address}
    (hr : findInsertPosition getNominalICR d nicr prevHint nextHint = .ok (p, n)) :
    validInsertPosition getNominalICR d nicr p n = .ok true := by
  obtain ⟨p', hp, hr⟩ := bind_eq_ok.1 hr
  obtain ⟨n', hn, hr⟩ := bind_eq_ok.1 hr
  have descend (hp₀ : p' ≠ 0) (hr : descendList getNominalICR d nicr p' = .ok (p, n)) :
      validInsertPosition getNominalICR d nicr p n = .ok true := by
    obtain ⟨hm, v, hv, hle⟩ := (checkPrevHint_eq_ok h hp).resolve_left hp₀
    exact descendList_hint_valid h hm hv hle hr
  split_ifs at hr with h₁ h₂ h₃
  · exact descendList_head_valid h hr
  · have hn₀ : n' ≠ 0 := fun hn₀ => h₁ ⟨h₂, hn₀⟩
    obtain ⟨hm, v, hv, hle⟩ := (checkNextHint_eq_ok h hn).resolve_left hn₀
    exact ascendList_hint_valid h hm hv hle hr
  · exact descend h₂ hr
  · exact descend h₂ hr

section Fuel

variable {bad : Revert → Prop}

theorem descendList_avoids (hn : ∀ a, Avoids bad (getNominalICR a)) (h : WellFormed d l)
    {a : Address} (ha : a ∈ l ∨ a = 0) : Avoids bad (descendList getNominalICR d nicr a) := by
  unfold descendList
  refine avoids_bind ?_ (fun before _ => avoids_ite (fun _ => avoids_pure _) (fun _ => ?_))
  · exact avoids_ite (fun _ => avoids_bind (hn a) (fun _ _ => avoids_pure _))
      (fun _ => avoids_pure _)
  · rcases ha with ha | rfl
    · obtain ⟨pre, post, rfl⟩ := List.append_of_mem ha
      rw [h.nodes.nextId_eq]
      refine descendLoop_avoids hn h ?_
      simp only [h.size, List.length_append, List.length_cons]
      omega
    · rw [descendLoop, if_pos rfl]
      exact avoids_pure _

theorem ascendList_avoids (hn : ∀ a, Avoids bad (getNominalICR a)) (h : WellFormed d l)
    {a : Address} (ha : a ∈ l) : Avoids bad (ascendList getNominalICR d nicr a) := by
  unfold ascendList
  refine avoids_bind ?_ (fun after _ => avoids_ite (fun _ => avoids_pure _) (fun _ => ?_))
  · exact avoids_ite (fun _ => avoids_bind (hn a) (fun _ _ => avoids_pure _))
      (fun _ => avoids_pure _)
  · obtain ⟨pre, post, rfl⟩ := List.append_of_mem ha
    rw [h.nodes.prevId_eq]
    refine ascendLoop_avoids hn h ?_
    simp only [h.size, List.length_append, List.length_cons]
    omega

theorem checkPrevHint_avoids (hn : ∀ a, Avoids bad (getNominalICR a)) (p : Address) :
    Avoids bad (checkPrevHint getNominalICR d nicr p) :=
  avoids_ite
    (fun _ => avoids_ite (fun _ => avoids_pure _)
      (fun _ => avoids_bind (hn p)
        (fun _ _ => avoids_ite (fun _ => avoids_pure _) (fun _ => avoids_pure _))))
    (fun _ => avoids_pure _)

theorem checkNextHint_avoids (hn : ∀ a, Avoids bad (getNominalICR a)) (p : Address) :
    Avoids bad (checkNextHint getNominalICR d nicr p) :=
  avoids_ite
    (fun _ => avoids_ite (fun _ => avoids_pure _)
      (fun _ => avoids_bind (hn p)
        (fun _ _ => avoids_ite (fun _ => avoids_pure _) (fun _ => avoids_pure _))))
    (fun _ => avoids_pure _)

/-- The search reverts only if reading some ratio does; in particular it never runs out of fuel. -/
theorem findInsertPosition_avoids (hn : ∀ a, Avoids bad (getNominalICR a)) (h : WellFormed d l)
    (prevHint nextHint : Address) :
    Avoids bad (findInsertPosition getNominalICR d nicr prevHint nextHint) := by
  unfold findInsertPosition
  refine avoids_bind (checkPrevHint_avoids hn prevHint) (fun p hp => ?_)
  refine avoids_bind (checkNextHint_avoids hn nextHint) (fun n hn' => ?_)
  have hm : p ∈ l ∨ p = 0 := (checkPrevHint_eq_ok h hp).symm.imp_left And.left
  refine avoids_ite (fun _ => ?_) (fun h₁ => avoids_ite (fun h₂ => ?_) (fun _ => ?_))
  · refine descendList_avoids hn h ?_
    rw [h.head]
    exact (LinkedList.first_eq_zero_or_mem l).symm
  · refine ascendList_avoids hn h ?_
    exact ((checkNextHint_eq_ok h hn').resolve_left (fun hn₀ => h₁ ⟨h₂, hn₀⟩)).1
  · exact avoids_ite (fun _ => descendList_avoids hn h hm) (fun _ => descendList_avoids hn h hm)

end Fuel

end Positions

end Usdd.SortedTroves

import Mathlib.Tactic

/-!
# Arrays with a reverse index

An array without duplicates whose members know their position: `Indexed index l` says that an entry
at position `i` has index `i`. A member is removed by moving the last entry into its place.
-/

namespace IndexedList

variable {α : Type}

def Indexed (index : α → ℕ) (l : List α) : Prop := ∀ i a, l[i]? = some a → index a = i

def swapPop (l : List α) (i : ℕ) (lastEntry : α) : List α := (l.set i lastEntry).dropLast

variable {index : α → ℕ} {l : List α} {i : ℕ} {a b : α}

theorem indexed_nil : Indexed index [] := by
  intro i a h
  simp at h

theorem Indexed.getElem? (h : Indexed index l) (ha : a ∈ l) : l[index a]? = some a := by
  obtain ⟨i, hi⟩ := List.getElem?_of_mem ha
  rw [h i a hi]
  exact hi

theorem Indexed.nodup (h : Indexed index l) : l.Nodup := by
  rw [List.nodup_iff_injective_get]
  intro i j hij
  have hi : l[i.val]? = some (l.get i) := List.getElem?_eq_getElem i.isLt
  have hj : l[j.val]? = some (l.get i) := by
    rw [hij]
    exact List.getElem?_eq_getElem j.isLt
  exact Fin.ext ((h _ _ hi).symm.trans (h _ _ hj))

theorem Indexed.congr (h : Indexed index l) {index' : α → ℕ}
    (hc : ∀ a ∈ l, index' a = index a) : Indexed index' l := by
  intro i a hi
  rw [hc a (List.mem_of_getElem? hi)]
  exact h i a hi

theorem Indexed.push [DecidableEq α] (h : Indexed index l) (ha : a ∉ l) :
    Indexed (Function.update index a l.length) (l ++ [a]) := by
  intro i b hi
  rcases lt_trichotomy i l.length with hlt | rfl | hgt
  · rw [List.getElem?_append_left hlt] at hi
    have hb : b ≠ a := by
      rintro rfl
      exact ha (List.mem_of_getElem? hi)
    rw [Function.update_of_ne hb]
    exact h i b hi
  · obtain rfl : a = b := by simpa using hi
    rw [Function.update_self]
  · rw [List.getElem?_eq_none (by simp only [List.length_append, List.length_singleton]; omega)] at hi
    cases hi

theorem swapPop_length (l : List α) (i : ℕ) (b : α) : (swapPop l i b).length = l.length - 1 := by
  simp [swapPop]

theorem swapPop_getElem? (hi : i < l.length) (j : ℕ) :
    (swapPop l i b)[j]? =
      if j + 1 < l.length then if j = i then some b else l[j]? else none := by
  unfold swapPop
  rw [List.getElem?_dropLast]
  simp only [List.length_set]
  split_ifs <;> grind

theorem Indexed.swapPop [DecidableEq α] (h : Indexed index l) (hi : i < l.length)
    (hb : l[l.length - 1]? = some b) :
    Indexed (Function.update index b i) (swapPop l i b) := by
  intro j a hj
  rw [swapPop_getElem? hi] at hj
  split_ifs at hj with h₁ h₂
  · cases hj
    rw [Function.update_self, h₂]
  · have hab : a ≠ b := by
      rintro rfl
      have := h _ _ hb
      have := h _ _ hj
      omega
    rw [Function.update_of_ne hab]
    exact h j a hj

theorem Indexed.mem_swapPop (h : Indexed index l) (ha : l[i]? = some a)
    (hb : l[l.length - 1]? = some b) {c : α} : c ∈ IndexedList.swapPop l i b ↔ c ∈ l ∧ c ≠ a := by
  have hi : i < l.length := (List.getElem?_eq_some_iff.1 ha).1
  constructor
  · intro hc
    obtain ⟨j, hj⟩ := List.getElem?_of_mem hc
    rw [swapPop_getElem? hi] at hj
    split_ifs at hj with h₁ h₂
    · cases hj
      refine ⟨List.mem_of_getElem? hb, ?_⟩
      rintro rfl
      have := h _ _ ha
      have := h _ _ hb
      omega
    · refine ⟨List.mem_of_getElem? hj, ?_⟩
      rintro rfl
      have := h _ _ ha
      have := h _ _ hj
      omega
  · rintro ⟨hc, hca⟩
    obtain ⟨j, hj⟩ := List.getElem?_of_mem hc
    have hjl : j < l.length := (List.getElem?_eq_some_iff.1 hj).1
    by_cases hlast : j = l.length - 1
    · have hcb : c = b := by
        rw [hlast, hb] at hj
        exact (Option.some.inj hj).symm
      have hil : i ≠ l.length - 1 := by
        rintro rfl
        rw [ha] at hb
        exact hca (hcb.trans (Option.some.inj hb).symm)
      refine List.mem_of_getElem? (i := i) ?_
      rw [swapPop_getElem? hi, if_pos (by omega), if_pos rfl, hcb]
    · have hij : j ≠ i := by
        rintro rfl
        rw [ha] at hj
        exact hca (Option.some.inj hj).symm
      refine List.mem_of_getElem? (i := j) ?_
      rw [swapPop_getElem? hi, if_pos (by omega), if_neg hij, hj]

end IndexedList

import Mathlib.Algebra.BigOperators.Group.Finset.Basic
import Mathlib.Algebra.Order.BigOperators.Group.Finset
import Mathlib.Data.Fintype.BigOperators
import Mathlib.Tactic

/-!
# Sums over a record that is updated at one key

A table over a finite set of keys is a function, and a write changes it at one key. These lemmas say
how a total over all keys moves with one write.
-/

namespace UpdateSum

variable {ι : Type*} [Fintype ι]

theorem sum_change [DecidableEq ι] {M : Type*} [AddCommMonoid M] {f g : ι → M} (i : ι)
    (h : ∀ j, j ≠ i → f j = g j) :
    ∑ j, f j + g i = ∑ j, g j + f i := by
  rw [← Finset.add_sum_erase Finset.univ f (Finset.mem_univ i),
    ← Finset.add_sum_erase Finset.univ g (Finset.mem_univ i)]
  have hrest : ∑ j ∈ Finset.univ.erase i, f j = ∑ j ∈ Finset.univ.erase i, g j :=
    Finset.sum_congr rfl (fun j hj => h j (Finset.ne_of_mem_erase hj))
  rw [hrest, add_comm (f i), add_comm (g i), add_right_comm]

theorem sum_update_nat [DecidableEq ι] (g : ι → ℕ) (i : ι) (v : ℕ) :
    ∑ j, Function.update g i v j + g i = ∑ j, g j + v := by
  have h := sum_change i (f := Function.update g i v) (g := g)
    (fun j hj => Function.update_of_ne hj v g)
  rwa [Function.update_self] at h

theorem single_le_sum (g : ι → ℕ) (i : ι) : g i ≤ ∑ j, g j :=
  Finset.single_le_sum_of_canonicallyOrdered (Finset.mem_univ i)

theorem pair_le_sum [DecidableEq ι] (g : ι → ℕ) {i j : ι} (h : i ≠ j) : g i + g j ≤ ∑ k, g k := by
  rw [← Finset.sum_pair h]
  exact Finset.sum_le_sum_of_subset (Finset.subset_univ _)

end UpdateSum

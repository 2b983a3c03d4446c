import Usdd.MarketRuns

/-!
# MultiTroveGetter

A helper for clients that reads a slice of the sorted list, counted from the head, or from the tail
when the start index is negative.
-/

open Transaction
open LinkedList (first Follows)

namespace Usdd.MultiTroveGetter

open SortedTroves (WellFormed)

structure CombinedTroveData where
  owner : Address
  debt : ℕ
  coll : ℕ
  stake : ℕ
  snapshotETH : ℕ
  snapshotUSDDDebt : ℕ
  deriving DecidableEq

section Getter

variable (s : State)

def getNext (id : Address) : Address := (s.sortedTroves.nodes id).nextId

def getPrev (id : Address) : Address := (s.sortedTroves.nodes id).prevId

def combinedTroveData (owner : Address) : CombinedTroveData :=
  let trove := s.troveManager.troves owner
  let snapshot := s.troveManager.rewardSnapshots owner
  ⟨owner, trove.debt, trove.coll, trove.stake, snapshot.coll, snapshot.usddDebt⟩

/-- The loop that skips troves. -/
def skipTroves (next : Address → Address) : ℕ → Address → Address
  | 0, currentTroveowner => currentTroveowner
  | n + 1, currentTroveowner => skipTroves next n (next currentTroveowner)

/-- The loop that reads troves. -/
def readTroves (next : Address → Address) : ℕ → Address → List CombinedTroveData
  | 0, _ => []
  | n + 1, currentTroveowner =>
      combinedTroveData s currentTroveowner :: readTroves next n (next currentTroveowner)

def getMultipleSortedTrovesFromHead (startIdx count : ℕ) : List CombinedTroveData :=
  readTroves s (getNext s) count (skipTroves (getNext s) startIdx s.sortedTroves.head)

def getMultipleSortedTrovesFromTail (startIdx count : ℕ) : List CombinedTroveData :=
  readTroves s (getPrev s) count (skipTroves (getPrev s) startIdx s.sortedTroves.tail)

def descend (startIdx : BitVec 256) : Bool := decide (0 ≤ startIdx.toInt)

def offset (startIdx : BitVec 256) : ℕ :=
  if descend startIdx then startIdx.toNat else (-(startIdx + 1)).toNat

/-- The start index is a signed word, in two's complement. -/
def getMultipleSortedTroves (startIdx : BitVec 256) (count : ℕ) : List CombinedTroveData :=
  let sortedTrovesSize := s.sortedTroves.size
  if offset startIdx ≥ sortedTrovesSize then []
  else
    let maxCount := sortedTrovesSize - offset startIdx
    let count := if count > maxCount then maxCount else count
    if descend startIdx then getMultipleSortedTrovesFromHead s (offset startIdx) count
    else getMultipleSortedTrovesFromTail s (offset startIdx) count

end Getter

section Slices

variable {s : State} {next : Address → Address} {l : List Address} {startIdx : BitVec 256}
  {n k : ℕ}

theorem skipTroves_eq_iterate (n : ℕ) (a : Address) : skipTroves next n a = next^[n] a := by
  induction n generalizing a with
  | zero => rfl
  | succ n ih => exact ih (next a)

theorem readTroves_first (h : Follows next l) (hn : n ≤ l.length) :
    readTroves s next n (first l) = (l.take n).map (combinedTroveData s) := by
  induction n generalizing l with
  | zero => rfl
  | succ n ih =>
    cases l with
    | nil => exact absurd hn (Nat.not_succ_le_zero n)
    | cons a l =>
      have hnext : next a = first l := h [] a l rfl
      rw [LinkedList.first_cons, readTroves, hnext, ih h.tail (Nat.le_of_succ_le_succ hn)]
      rfl

/-- Skipping `k` troves and reading the next `n` of them stays within the list. -/
theorem readTroves_skipTroves (h : Follows next l) (hn : k + n ≤ l.length) :
    readTroves s next n (skipTroves next k (first l)) =
      ((l.drop k).take n).map (combinedTroveData s) := by
  have hlength : n ≤ (l.drop k).length := by
    rw [List.length_drop]
    omega
  rw [skipTroves_eq_iterate, h.iterate (by omega)]
  exact readTroves_first (h.drop k) hlength

/-- The word that is one below the negated start index counts from the tail. -/
theorem offset_eq : (offset startIdx : ℤ) =
    if 0 ≤ startIdx.toInt then startIdx.toInt else -startIdx.toInt - 1 := by
  have hword : startIdx.toInt = if 2 * startIdx.toNat < 2 ^ 256 then (startIdx.toNat : ℤ)
      else startIdx.toNat - (2 ^ 256 : ℕ) := BitVec.toInt_eq_toNat_cond startIdx
  have hlt : startIdx.toNat < 2 ^ 256 := startIdx.isLt
  unfold offset descend
  simp only [decide_eq_true_eq]
  split_ifs at hword ⊢ with hsmall hsign
  · exact hword.symm
  · omega
  · omega
  · have hneg : (-(startIdx + 1)).toNat = 2 ^ 256 - 1 - startIdx.toNat := by bv_omega
    rw [hneg]
    omega

end Slices

section Requests

variable (s : State) (l : List Address) (startIdx : BitVec 256)

/-- The list in the direction in which the start index counts. -/
def inDirection : List Address := if 0 ≤ startIdx.toInt then l else l.reverse

/-- How far from its end of the list the first requested trove is. -/
def position : ℕ := if 0 ≤ startIdx.toInt then startIdx.toInt.toNat else startIdx.toInt.natAbs - 1

/-- The trove at which the loops arrive in round `i`. -/
def visited (i : ℕ) : Address :=
  if 0 ≤ startIdx.toInt then (getNext s)^[i] s.sortedTroves.head
  else (getPrev s)^[i] s.sortedTroves.tail

variable {s l startIdx} {count : ℕ}

theorem offset_eq_position : offset startIdx = position startIdx := by
  have hoffset : (offset startIdx : ℤ) =
      if 0 ≤ startIdx.toInt then startIdx.toInt else -startIdx.toInt - 1 := offset_eq
  unfold position
  split_ifs at hoffset ⊢ <;> omega

theorem length_inDirection : (inDirection l startIdx).length = l.length := by
  unfold inDirection
  split_ifs
  · rfl
  · exact List.length_reverse

theorem mem_inDirection {a : Address} : a ∈ inDirection l startIdx ↔ a ∈ l := by
  unfold inDirection
  split_ifs
  · rfl
  · exact List.mem_reverse

theorem nodup_inDirection (h : l.Nodup) : (inDirection l startIdx).Nodup := by
  unfold inDirection
  split_ifs
  · exact h
  · exact List.nodup_reverse.2 h

theorem visited_mem (h : WellFormed s.sortedTroves l) {i : ℕ} (hi : i < l.length) :
    visited s startIdx i ∈ l := by
  unfold visited
  split_ifs
  · rw [h.head]
    exact h.nodes.follows_nextId.iterate_mem hi
  · rw [h.tail, LinkedList.last_reverse, ← List.mem_reverse]
    apply h.nodes.follows_prevId.iterate_mem
    rwa [List.length_reverse]

theorem readTroves_eq (h : WellFormed s.sortedTroves l) (hcount : offset startIdx + count ≤ l.length) :
    (if descend startIdx then getMultipleSortedTrovesFromHead s (offset startIdx) count
      else getMultipleSortedTrovesFromTail s (offset startIdx) count) =
    (((inDirection l startIdx).drop (offset startIdx)).take count).map (combinedTroveData s) := by
  unfold inDirection descend getMultipleSortedTrovesFromHead getMultipleSortedTrovesFromTail
  simp only [decide_eq_true_eq]
  split_ifs
  · rw [h.head]
    exact readTroves_skipTroves h.nodes.follows_nextId hcount
  · rw [h.tail, LinkedList.last_reverse]
    apply readTroves_skipTroves h.nodes.follows_prevId
    rwa [List.length_reverse]

theorem getMultipleSortedTroves_eq (h : WellFormed s.sortedTroves l) :
    getMultipleSortedTroves s startIdx count =
      (((inDirection l startIdx).drop (position startIdx)).take count).map
        (combinedTroveData s) := by
  have hlength : (inDirection l startIdx).length = l.length := length_inDirection
  unfold getMultipleSortedTroves
  rw [h.size, ← offset_eq_position]
  dsimp only
  by_cases hnone : offset startIdx ≥ l.length
  · have hnil : (inDirection l startIdx).drop (offset startIdx) = [] := by
      rw [List.drop_eq_nil_iff, hlength]
      exact hnone
    rw [if_pos hnone, hnil, List.take_nil]
    rfl
  · rw [if_neg hnone]
    by_cases hclip : count > l.length - offset startIdx
    · have hall : ((inDirection l startIdx).drop (offset startIdx)).length =
          l.length - offset startIdx := by rw [List.length_drop, hlength]
      rw [if_pos hclip, readTroves_eq h (by omega), List.take_of_length_le hall.le,
        List.take_of_length_le (by omega)]
    · rw [if_neg hclip, readTroves_eq h (by omega)]

end Requests

end Usdd.MultiTroveGetter

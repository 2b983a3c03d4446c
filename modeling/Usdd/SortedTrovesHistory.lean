import Usdd.Lib.Runs
import Usdd.SortedTrovesList

/-!
# Histories of the list of troves

Any history of insertions, removals and re-insertions, each with its own hints and with the ratios
of its own moment, leaves a doubly linked list of exactly the members.
-/

open Transaction
open LinkedList (first last)

namespace Usdd.SortedTroves

inductive Operation
  | insert (id : Address) (nicr : ℕ) (prevHint nextHint : Address)
  | remove (id : Address)
  | reInsert (id : Address) (nicr : ℕ) (prevHint nextHint : Address)

/-- An operation meets the ratios of its own moment. -/
def apply (d : Data) (op : Operation × (Address → ℕ)) : Tx Data :=
  let getNominalICR := fun a => Except.ok (op.2 a)
  match op.1 with
  | .insert id nicr prevHint nextHint => insert getNominalICR d id nicr prevHint nextHint
  | .remove id => remove d id
  | .reInsert id nicr prevHint nextHint => reInsert getNominalICR d id nicr prevHint nextHint

theorem apply_wellFormed {d d' : Data} {l : List Address} {op : Operation × (Address → ℕ)}
    (h : WellFormed d l) (hr : apply d op = .ok d') : ∃ l', WellFormed d' l' := by
  obtain ⟨op, nicrs⟩ := op
  cases op with
  | insert id nicr p n =>
      obtain ⟨pre, post, -, -, h', -⟩ := insert_eq_ok h hr
      exact ⟨_, h'⟩
  | remove id =>
      obtain ⟨pre, post, -, h'⟩ := remove_eq_ok h hr
      exact ⟨_, h'⟩
  | reInsert id nicr p n =>
      obtain ⟨_, _, pre', post', -, -, h', -⟩ := reInsert_eq_ok h hr
      exact ⟨_, h'⟩

theorem run_wellFormed {maxSize : ℕ} {d : Data} {ops : List (Operation × (Address → ℕ))}
    (hr : run apply (Data.initial maxSize) ops = .ok d) : ∃ l, WellFormed d l :=
  run_invariant (I := fun d => ∃ l, WellFormed d l)
    (fun _ _ _ ⟨_, h⟩ hs => apply_wellFormed h hs) ⟨[], initial_wellFormed maxSize⟩ hr

theorem WellFormed.forward_eq {d : Data} {l : List Address} (h : WellFormed d l) :
    d.forward = l := by
  rw [Data.forward, h.head]
  exact h.nodes.walk_nextId (by rw [h.size]; omega)

theorem WellFormed.backward_eq {d : Data} {l : List Address} (h : WellFormed d l) :
    d.backward = l.reverse := by
  rw [Data.backward, h.tail]
  exact h.nodes.walk_prevId (by rw [h.size]; omega)

/-- The pointers of `d` form one doubly linked list of exactly the members. -/
structure IsList (d : Data) : Prop where
  nodup : d.forward.Nodup
  mem_iff : ∀ id, id ∈ d.forward ↔ contains d id = true
  ends : d.tail = last d.forward
  backward : d.backward = d.forward.reverse
  size : d.size = d.forward.length
  outside : ∀ id, contains d id = false ∨ id = 0 →
    (d.nodes id).nextId = 0 ∧ (d.nodes id).prevId = 0

theorem WellFormed.isList {d : Data} {l : List Address} (h : WellFormed d l) : IsList d := by
  refine ⟨?_, ?_, ?_, ?_, ?_, ?_⟩
  · rw [h.forward_eq]
    exact h.nodes.nodup
  · intro id
    rw [h.forward_eq, h.contains_iff]
  · rw [h.forward_eq, h.tail]
  · rw [h.forward_eq, h.backward_eq]
  · rw [h.forward_eq, h.size]
  · intro id hid
    have hm : id ∉ l := by
      rcases hid with hc | rfl
      · exact h.not_contains_iff.1 hc
      · exact h.zero_notMem
    rw [h.nodes.absent id hm]
    exact ⟨rfl, rfl⟩

def NonIncreasing (nicrs : Address → ℕ) (l : List Address) : Prop :=
  l.Pairwise (fun a b => nicrs b ≤ nicrs a)

theorem nonIncreasing_insert {nicrs : Address → ℕ} {pre post : List Address} {id : Address}
    (hid : id ∉ pre ++ post) {nicr : ℕ} (hs : NonIncreasing nicrs (pre ++ post))
    (hpre : pre ≠ [] → nicr ≤ nicrs (last pre)) (hpost : post ≠ [] → nicrs (first post) ≤ nicr) :
    NonIncreasing (Function.update nicrs id nicr) (pre ++ id :: post) := by
  have hne {a : Address} (ha : a ∈ pre ++ post) : Function.update nicrs id nicr a = nicrs a :=
    Function.update_of_ne (fun h : a = id => hid (h ▸ ha)) _ _
  refine LinkedList.pairwise_insert (fun a b c hab hbc => hbc.trans hab) ?_ ?_ ?_
  · refine hs.imp_of_mem (fun ha hb hab => ?_)
    rwa [hne ha, hne hb]
  · intro h
    rw [Function.update_self, hne (List.mem_append_left _ (LinkedList.last_mem h))]
    exact hpre h
  · intro h
    rw [Function.update_self, hne (List.mem_append_right _ (LinkedList.first_mem h))]
    exact hpost h

theorem insert_nonIncreasing {d d' : Data} {l : List Address} (h : WellFormed d l)
    {nicrs : Address → ℕ} {id p n : Address} {nicr : ℕ}
    (hr : insert (fun a => .ok (nicrs a)) d id nicr p n = .ok d')
    (hs : NonIncreasing nicrs d.forward) :
    NonIncreasing (Function.update nicrs id nicr) d'.forward := by
  obtain ⟨pre, post, rfl, hid, h', hp, hn⟩ := insert_eq_ok h hr
  rw [h.forward_eq] at hs
  rw [h'.forward_eq]
  have hz := h.zero_notMem
  apply nonIncreasing_insert hid hs
  · intro hpre
    have hne : last pre ≠ 0 := fun h₀ =>
      hpre ((LinkedList.last_eq_zero_iff (fun hm => hz (List.mem_append_left _ hm))).1 h₀)
    obtain ⟨v, hv, hle⟩ := hp hne
    cases hv
    exact hle
  · intro hpost
    have hne : first post ≠ 0 := fun h₀ =>
      hpost ((LinkedList.first_eq_zero_iff (fun hm => hz (List.mem_append_right _ hm))).1 h₀)
    obtain ⟨v, hv, hle⟩ := hn hne
    cases hv
    exact hle

theorem findInsertPosition_total {d : Data} {l : List Address} (h : WellFormed d l)
    (nicrs : Address → ℕ) (nicr : ℕ) (p n : Address) :
    ∃ p' n', findInsertPosition (fun a => .ok (nicrs a)) d nicr p n = .ok (p', n') := by
  cases hr : findInsertPosition (fun a => .ok (nicrs a)) d nicr p n with
  | ok position => exact ⟨position.1, position.2, rfl⟩
  | error e =>
      have hn (a : Address) : Avoids (fun _ => True) (Except.ok (nicrs a)) := avoids_ok _
      exact absurd trivial (findInsertPosition_avoids hn h p n e hr)

end Usdd.SortedTroves

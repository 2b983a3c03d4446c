import Mathlib.Tactic

/-!
# Doubly linked lists in a table of nodes

A linked list over keys is stored as a table from keys to nodes; the key `0` is the null pointer.
`Represents nodes l` says that the table stores exactly the list `l`: the pointers of a member are
its neighbours in `l`, and every other key has an empty node. Linking a key in between two
neighbours and unlinking a member are the corresponding list operations, and following the
pointers from either end reads the list back.
-/

namespace LinkedList

structure Node (κ : Type) where
  existing : Bool
  nextId : κ
  prevId : κ
  deriving DecidableEq

variable {κ : Type}

section Writes

variable [DecidableEq κ]

def setNextId (nodes : κ → Node κ) (k value : κ) : κ → Node κ :=
  Function.update nodes k { nodes k with nextId := value }

def setPrevId (nodes : κ → Node κ) (k value : κ) : κ → Node κ :=
  Function.update nodes k { nodes k with prevId := value }

theorem setNextId_apply (nodes : κ → Node κ) (k value j : κ) :
    setNextId nodes k value j = if j = k then { nodes j with nextId := value } else nodes j := by
  unfold setNextId
  split_ifs with h <;> simp [h]

theorem setPrevId_apply (nodes : κ → Node κ) (k value j : κ) :
    setPrevId nodes k value j = if j = k then { nodes j with prevId := value } else nodes j := by
  unfold setPrevId
  split_ifs with h <;> simp [h]

end Writes

variable [Zero κ]

def Node.empty : Node κ := ⟨false, 0, 0⟩

def first (l : List κ) : κ := l.head?.getD 0

def last (l : List κ) : κ := l.getLast?.getD 0

@[simp] theorem first_nil : first ([] : List κ) = 0 := rfl

@[simp] theorem first_cons (a : κ) (l : List κ) : first (a :: l) = a := rfl

@[simp] theorem last_nil : last ([] : List κ) = 0 := rfl

@[simp] theorem last_append_cons (l m : List κ) (a : κ) : last (l ++ a :: m) = last (a :: m) := by
  cases h : (a :: m).getLast? with
  | none => simp at h
  | some b => simp [last, List.getLast?_append, h]

@[simp] theorem last_singleton (a : κ) : last [a] = a := rfl

@[simp] theorem last_cons_cons (a b : κ) (l : List κ) : last (a :: b :: l) = last (b :: l) :=
  last_append_cons [a] l b

@[simp] theorem last_cons_append_cons (a b : κ) (l m : List κ) :
    last (a :: (l ++ b :: m)) = last (b :: m) := last_append_cons (a :: l) m b

theorem last_reverse (l : List κ) : last l = first l.reverse := by
  simp [first, last]

theorem first_mem {l : List κ} (h : l ≠ []) : first l ∈ l := by
  cases l with
  | nil => exact absurd rfl h
  | cons a l => simp

theorem last_mem {l : List κ} (h : l ≠ []) : last l ∈ l := by
  have hr : first l.reverse ∈ l.reverse := first_mem (by simpa using h)
  simpa [last_reverse] using hr

theorem first_eq_zero_or_mem (l : List κ) : first l = 0 ∨ first l ∈ l := by
  cases l with
  | nil => exact Or.inl rfl
  | cons a l => exact Or.inr (first_mem (List.cons_ne_nil a l))

theorem last_eq_zero_or_mem (l : List κ) : last l = 0 ∨ last l ∈ l := by
  rcases first_eq_zero_or_mem l.reverse with h | h
  · exact Or.inl (by rw [last_reverse, h])
  · exact Or.inr (by simpa [last_reverse] using h)

theorem first_eq_zero_iff {l : List κ} (h : (0 : κ) ∉ l) : first l = 0 ↔ l = [] := by
  constructor
  · intro h₀
    by_contra hl
    exact h (h₀ ▸ first_mem hl)
  · rintro rfl
    rfl

theorem last_eq_zero_iff {l : List κ} (h : (0 : κ) ∉ l) : last l = 0 ↔ l = [] := by
  rw [last_reverse, first_eq_zero_iff (by simpa using h)]
  simp

/-- A key that fits between its two neighbours fits into an ordered list. -/
theorem pairwise_insert {R : κ → κ → Prop} (htrans : ∀ a b c, R a b → R b c → R a c)
    {pre post : List κ} {k : κ} (h : (pre ++ post).Pairwise R) (hpre : pre ≠ [] → R (last pre) k)
    (hpost : post ≠ [] → R k (first post)) : (pre ++ k :: post).Pairwise R := by
  obtain ⟨h₁, h₂, hcross⟩ := List.pairwise_append.1 h
  have above (a : κ) (ha : a ∈ pre) : R a k := by
    rcases List.eq_nil_or_concat pre with rfl | ⟨pre, b, rfl⟩
    · exact absurd ha List.not_mem_nil
    · rw [List.concat_eq_append] at *
      have hb : R b k := by simpa using hpre (by simp)
      rcases List.mem_append.1 ha with ha | ha
      · exact htrans _ _ _ ((List.pairwise_append.1 h₁).2.2 a ha b (by simp)) hb
      · rwa [List.mem_singleton.1 ha]
  have below (a : κ) (ha : a ∈ post) : R k a := by
    cases post with
    | nil => exact absurd ha List.not_mem_nil
    | cons b post =>
        have hb : R k b := hpost (by simp)
        rcases List.mem_cons.1 ha with rfl | ha
        · exact hb
        · exact htrans _ _ _ hb ((List.pairwise_cons.1 h₂).1 a ha)
  refine List.pairwise_append.2 ⟨h₁, List.pairwise_cons.2 ⟨below, h₂⟩, fun a ha b hb => ?_⟩
  rcases List.mem_cons.1 hb with rfl | hb
  · exact above a ha
  · exact hcross a ha b hb

structure Represents (nodes : κ → Node κ) (l : List κ) : Prop where
  nodup : l.Nodup
  nonzero : (0 : κ) ∉ l
  member : ∀ pre a post, l = pre ++ a :: post → nodes a = ⟨true, first post, last pre⟩
  absent : ∀ a, a ∉ l → nodes a = Node.empty

theorem represents_nil : Represents (fun _ : κ => Node.empty) [] :=
  ⟨List.nodup_nil, List.not_mem_nil, by simp, fun _ _ => rfl⟩

namespace Represents

variable {nodes : κ → Node κ} {l pre post : List κ} {a b : κ}

theorem existing_iff (h : Represents nodes l) : (nodes a).existing = true ↔ a ∈ l := by
  constructor
  · intro he
    by_contra ha
    rw [h.absent a ha] at he
    exact Bool.noConfusion he
  · intro ha
    obtain ⟨pre, post, rfl⟩ := List.append_of_mem ha
    rw [h.member pre a post rfl]

theorem zero (h : Represents nodes l) : nodes 0 = Node.empty := h.absent 0 h.nonzero

theorem nextId_eq (h : Represents nodes (pre ++ a :: post)) : (nodes a).nextId = first post := by
  rw [h.member pre a post rfl]

theorem prevId_eq (h : Represents nodes (pre ++ a :: post)) : (nodes a).prevId = last pre := by
  rw [h.member pre a post rfl]

theorem mem_of_nextId (h : Represents nodes l) (ha : (nodes a).nextId ≠ 0) : a ∈ l := by
  by_contra hm
  exact ha (by rw [h.absent a hm]; rfl)

theorem mem_of_prevId (h : Represents nodes l) (ha : (nodes a).prevId ≠ 0) : a ∈ l := by
  by_contra hm
  exact ha (by rw [h.absent a hm]; rfl)

theorem adjacent (h : Represents nodes l) (hb : b ≠ 0)
    (hn : (nodes a).nextId = b) : ∃ pre post, l = pre ++ a :: b :: post := by
  obtain ⟨pre, post, rfl⟩ := List.append_of_mem (h.mem_of_nextId (hn ▸ hb))
  rw [h.nextId_eq] at hn
  cases post with
  | nil => exact absurd hn.symm hb
  | cons c post =>
      cases hn
      exact ⟨pre, post, rfl⟩

theorem eq_concat_of_last (h : Represents nodes l) (hl : last l = a) (ha : a ≠ 0) :
    ∃ pre, l = pre ++ [a] := by
  rcases List.eq_nil_or_concat l with rfl | ⟨pre, c, rfl⟩
  · exact absurd hl.symm ha
  · rw [List.concat_eq_append, last_append_cons, last_singleton] at hl
    exact ⟨pre, by rw [List.concat_eq_append, hl]⟩

theorem eq_cons_of_first (hl : first l = a) (ha : a ≠ 0) : ∃ post, l = a :: post := by
  cases l with
  | nil => exact absurd hl.symm ha
  | cons c post =>
      cases hl
      exact ⟨post, rfl⟩

end Represents

section Follows

variable {next : κ → κ} {l : List κ} {n : ℕ}

/-- `next` leads from each key of the list to the one after it, and from the last one to `0`. -/
def Follows (next : κ → κ) (l : List κ) : Prop :=
  ∀ pre a post, l = pre ++ a :: post → next a = first post

theorem Follows.tail {a : κ} (h : Follows next (a :: l)) : Follows next l :=
  fun pre b post hl => h (a :: pre) b post (by rw [hl, List.cons_append])

theorem Follows.iterate (h : Follows next l) (hn : n ≤ l.length) :
    next^[n] (first l) = first (l.drop n) := by
  induction n generalizing l with
  | zero => rfl
  | succ n ih =>
    cases l with
    | nil => exact absurd hn (Nat.not_succ_le_zero n)
    | cons a l =>
      have hnext : next a = first l := h [] a l rfl
      rw [Function.iterate_succ_apply, first_cons, hnext, List.drop_succ_cons]
      exact ih h.tail (Nat.le_of_succ_le_succ hn)

theorem Follows.iterate_mem (h : Follows next l) (hn : n < l.length) :
    next^[n] (first l) ∈ l := by
  have hne : l.drop n ≠ [] := by
    rw [ne_eq, List.drop_eq_nil_iff]
    omega
  rw [h.iterate hn.le]
  exact List.mem_of_mem_drop (first_mem hne)

theorem Follows.drop (h : Follows next l) (n : ℕ) : Follows next (l.drop n) := by
  intro pre a post hl
  apply h (l.take n ++ pre) a post
  rw [List.append_assoc, ← hl, List.take_append_drop]

end Follows

section Walk

variable [DecidableEq κ]

def walk (next : κ → κ) : ℕ → κ → List κ
  | 0, _ => []
  | n + 1, k => if k = 0 then [] else k :: walk next n (next k)

theorem walk_eq {next : κ → κ} {l : List κ} (h₀ : (0 : κ) ∉ l)
    (h : Follows next l) {n : ℕ} (hn : l.length ≤ n) :
    walk next n (first l) = l := by
  induction l generalizing n with
  | nil => cases n <;> simp [walk]
  | cons a l ih =>
      obtain ⟨n, rfl⟩ : ∃ m, n = m + 1 := ⟨n - 1, by simp only [List.length_cons] at hn; omega⟩
      have ha : a ≠ 0 := fun ha => h₀ (by simp [ha])
      have hnext : next a = first l := h [] a l rfl
      rw [first_cons, walk, if_neg ha, hnext,
        ih (fun hm => h₀ (by simp [hm])) h.tail (by simpa using hn)]

variable {nodes : κ → Node κ} {l : List κ} {n : ℕ}

omit [DecidableEq κ] in
theorem Represents.follows_nextId (h : Represents nodes l) :
    Follows (fun k => (nodes k).nextId) l := by
  intro pre a post hl
  show (nodes a).nextId = first post
  rw [h.member pre a post hl]

omit [DecidableEq κ] in
theorem Represents.follows_prevId (h : Represents nodes l) :
    Follows (fun k => (nodes k).prevId) l.reverse := by
  intro pre a post hl
  have hl' : l = post.reverse ++ a :: pre.reverse := by
    rw [← l.reverse_reverse, hl]
    simp
  show (nodes a).prevId = first post
  rw [h.member _ _ _ hl', last_reverse, List.reverse_reverse]

theorem Represents.walk_nextId (h : Represents nodes l) (hn : l.length ≤ n) :
    walk (fun k => (nodes k).nextId) n (first l) = l :=
  walk_eq h.nonzero h.follows_nextId hn

theorem Represents.walk_prevId (h : Represents nodes l) (hn : l.length ≤ n) :
    walk (fun k => (nodes k).prevId) n (last l) = l.reverse := by
  rw [last_reverse]
  exact walk_eq (by simpa using h.nonzero) h.follows_prevId (by simpa using hn)

end Walk

section Links

variable [DecidableEq κ]

/-- `a` becomes a member between `p` and `n`; either neighbour may be null. -/
def link (nodes : κ → Node κ) (a p n : κ) : κ → Node κ := fun k =>
  if k = a then ⟨true, n, p⟩
  else if k = 0 then nodes k
  else if k = p then { nodes k with nextId := a }
  else if k = n then { nodes k with prevId := a }
  else nodes k

/-- The neighbours of `a` point at each other and the node of `a` is deleted. -/
def unlink (nodes : κ → Node κ) (a : κ) : κ → Node κ := fun k =>
  if k = a then Node.empty
  else if k = 0 then nodes k
  else if k = (nodes a).prevId then { nodes k with nextId := (nodes a).nextId }
  else if k = (nodes a).nextId then { nodes k with prevId := (nodes a).prevId }
  else nodes k

section

variable {nodes : κ → Node κ} {pre post : List κ} {a : κ}

theorem link_represents (h : Represents nodes (pre ++ post)) (ha : a ∉ pre ++ post) (h₀ : a ≠ 0) :
    Represents (link nodes a (last pre) (first post)) (pre ++ a :: post) := by
  have hn := h.nodup
  have hz := h.nonzero
  have hlast := last_eq_zero_or_mem pre
  have hfirst := first_eq_zero_or_mem post
  refine ⟨?_, ?_, ?_, ?_⟩
  · rw [List.nodup_middle]
    exact List.nodup_cons.2 ⟨ha, hn⟩
  · grind
  · intro l b m hl
    rcases List.append_eq_append_iff.1 hl with ⟨c, rfl, hc⟩ | ⟨c, rfl, hc⟩
    · cases c with
      | nil =>
          obtain ⟨rfl, rfl⟩ : a = b ∧ post = m := by simpa using hc
          simp [link]
      | cons c k =>
          obtain ⟨rfl, rfl⟩ : a = c ∧ post = k ++ b :: m := by simpa using hc
          have hb := h.member (pre ++ k) b m (by simp)
          cases k with
          | nil => grind [link, first_cons, last_append_cons, last_singleton]
          | cons d k => grind [link, first_cons, last_append_cons, last_cons_cons]
    · cases c with
      | nil => grind [link, first_cons, last_append_cons, last_singleton]
      | cons c k =>
          obtain ⟨rfl, rfl⟩ : b = c ∧ m = k ++ a :: post := by simpa using hc
          have hb := h.member l b (k ++ post) (by simp)
          cases k with
          | nil => grind [link, first_cons, last_append_cons, last_singleton]
          | cons d k =>
              have hd : last (l ++ b :: d :: k) ∈ d :: k := by
                rw [last_append_cons, last_cons_cons]
                exact last_mem (List.cons_ne_nil d k)
              grind [link, first_cons]
  · intro k hk
    have hk' := h.absent k (by grind)
    grind [link]

theorem unlink_represents (h : Represents nodes (pre ++ a :: post)) :
    Represents (unlink nodes a) (pre ++ post) := by
  have hn := h.nodup
  have hz := h.nonzero
  have ha := h.member pre a post rfl
  have hlast := last_eq_zero_or_mem pre
  have hfirst := first_eq_zero_or_mem post
  refine ⟨?_, ?_, ?_, ?_⟩
  · exact hn.sublist (by simp)
  · grind
  · intro l b m hl
    rcases List.append_eq_append_iff.1 hl with ⟨c, rfl, rfl⟩ | ⟨c, rfl, hc⟩
    · have hb := h.member (pre ++ a :: c) b m (by simp)
      cases c with
      | nil => grind [unlink, first_cons, last_append_cons, last_singleton]
      | cons d k =>
          have hd : last (pre ++ a :: d :: k) ∈ d :: k := by
            rw [last_append_cons, last_cons_cons]
            exact last_mem (List.cons_ne_nil d k)
          grind [unlink, first_cons, last_append_cons, last_cons_cons]
    · cases c with
      | nil =>
          obtain rfl : post = b :: m := by simpa using hc.symm
          have hb := h.member (l ++ [a]) b m (by simp)
          grind [unlink, first_cons, last_append_cons, last_singleton]
      | cons c k =>
          obtain ⟨rfl, rfl⟩ : b = c ∧ m = k ++ post := by simpa using hc
          have hb := h.member l b (k ++ a :: post) (by simp)
          cases k with
          | nil => grind [unlink, first_cons, last_append_cons, last_singleton]
          | cons d k =>
              have hd : last (l ++ b :: d :: k) ∈ d :: k := by
                rw [last_append_cons, last_cons_cons]
                exact last_mem (List.cons_ne_nil d k)
              grind [unlink, first_cons]
  · intro k hk
    by_cases hka : k = a
    · simp [unlink, hka]
    · have hk' := h.absent k (by grind)
      grind [unlink]

end

end Links

end LinkedList

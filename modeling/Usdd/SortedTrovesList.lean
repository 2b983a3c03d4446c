import Usdd.SortedTrovesSearch

/-!
# Insertion and removal as list operations

The pointer surgery of `insert` and `remove` is linking and unlinking in the table of nodes, so a
successful operation inserts a member between two neighbours or erases it.
-/

open Transaction
open LinkedList (Node setNextId_apply setPrevId_apply link unlink first last)

namespace Usdd.SortedTroves

variable {getNominalICR : Address → Tx ℕ} {d d' : Data} {l : List Address} {id : Address}

theorem insertAt_nodes {pre post : List Address} (h : WellFormed d (pre ++ post))
    (hid : id ∉ pre ++ post) :
    (insertAt d id (last pre) (first post)).nodes =
      link d.nodes id (last pre) (first post) := by
  have hempty : d.nodes id = Node.empty := h.nodes.absent id hid
  have hfirst := LinkedList.first_eq_zero_or_mem post
  have hlast := LinkedList.last_eq_zero_or_mem pre
  have hn := h.nodes.nodup
  have hz := h.zero_notMem
  have hhead : pre = [] → d.head = first post := by
    rintro rfl
    exact h.head
  have htail : post = [] → d.tail = last pre := by
    rintro rfl
    rw [h.tail, List.append_nil]
  have hpre := LinkedList.last_eq_zero_iff (l := pre) (by simp_all)
  have hpost := LinkedList.first_eq_zero_iff (l := post) (by simp_all)
  funext k
  unfold insertAt
  split_ifs with h₁ h₂ h₃
  · grind [link, Node.empty, Function.update_apply]
  · rw [hhead (hpre.1 h₂)]
    simp only [link, setPrevId_apply, setNextId_apply, Function.update_apply]
    grind [Node.empty]
  · rw [htail (hpost.1 h₃)]
    simp only [link, setPrevId_apply, setNextId_apply, Function.update_apply]
    grind [Node.empty]
  · simp only [link, setPrevId_apply, setNextId_apply, Function.update_apply]
    grind [Node.empty]

theorem insertAt_wellFormed {pre post : List Address} (h : WellFormed d (pre ++ post))
    (hid : id ∉ pre ++ post) (h₀ : id ≠ 0) :
    WellFormed (insertAt d id (last pre) (first post)) (pre ++ id :: post) := by
  have hz := h.zero_notMem
  have hpre := LinkedList.last_eq_zero_iff (l := pre) (by simp_all)
  have hpost := LinkedList.first_eq_zero_iff (l := post) (by simp_all)
  have hends := And.intro h.head h.tail
  refine ⟨?_, ?_, ?_, ?_⟩
  · rw [insertAt_nodes h hid]
    exact LinkedList.link_represents h.nodes hid h₀
  · cases pre <;> cases post <;> simp_all [insertAt]
  · cases post <;> unfold insertAt <;> split_ifs <;> simp_all
  · have hsize : (insertAt d id (last pre) (first post)).size = d.size + 1 := by
      unfold insertAt
      split_ifs <;> rfl
    rw [hsize, h.size]
    simp [add_assoc]

theorem eq_first_iff {pre post : List Address} (h : WellFormed d (pre ++ id :: post)) :
    id = d.head ↔ pre = [] := by
  have hn := h.nodes.nodup
  rw [h.head]
  cases pre with
  | nil => simp
  | cons a pre =>
      have ha : id ≠ a := by
        rintro rfl
        simp at hn
      simp [ha]

theorem eq_last_iff {pre post : List Address} (h : WellFormed d (pre ++ id :: post)) :
    id = d.tail ↔ post = [] := by
  have hn := h.nodes.nodup
  rw [h.tail, LinkedList.last_append_cons]
  cases post with
  | nil => simp
  | cons a post =>
      have hm := LinkedList.last_mem (List.cons_ne_nil a post)
      have hid : id ∉ a :: post := (List.nodup_cons.1 (List.nodup_append.1 hn).2.1).1
      have hne : id ≠ last (a :: post) := fun he => hid (he ▸ hm)
      simp [hne]

theorem unlinkAt_nodes {pre post : List Address} (h : WellFormed d (pre ++ id :: post)) :
    Function.update (unlinkAt d id).nodes id Node.empty = unlink d.nodes id := by
  have hfirst := LinkedList.first_eq_zero_or_mem post
  have hlast := LinkedList.last_eq_zero_or_mem pre
  have hn := h.nodes.nodup
  have hz := h.zero_notMem
  have hid := h.nodes.member pre id post rfl
  have hzero := h.nodes.zero
  have hpre := LinkedList.last_eq_zero_iff (l := pre) (by simp_all)
  have hpost := LinkedList.first_eq_zero_iff (l := post) (by simp_all)
  have hsize := h.size
  rw [List.length_append, List.length_cons] at hsize
  funext k
  unfold unlinkAt
  simp only [eq_first_iff h, eq_last_iff h]
  split_ifs with h₁ h₂ h₃
  · subst h₂
    simp only [unlink, setPrevId_apply, Function.update_apply]
    grind [Node.empty]
  · subst h₃
    simp only [unlink, setNextId_apply, Function.update_apply]
    grind [Node.empty]
  · simp only [unlink, setNextId_apply, setPrevId_apply, Function.update_apply]
    grind [Node.empty]
  · have hnil : pre = [] ∧ post = [] := by
      constructor <;> apply List.length_eq_zero_iff.1 <;> omega
    obtain ⟨rfl, rfl⟩ := hnil
    simp only [unlink, Function.update_apply]
    grind [Node.empty]

theorem unlinkAt_ends {pre post : List Address} (h : WellFormed d (pre ++ id :: post)) :
    (unlinkAt d id).head = first (pre ++ post) ∧ (unlinkAt d id).tail = last (pre ++ post) := by
  have hid := h.nodes.member pre id post rfl
  have hsize := h.size
  rw [List.length_append, List.length_cons] at hsize
  have hhead := h.head
  have htail := h.tail
  unfold unlinkAt
  simp only [eq_first_iff h, eq_last_iff h]
  split_ifs with h₁ h₂ h₃
  · subst h₂
    cases post <;> simp_all
  · subst h₃
    cases pre <;> simp_all
  · cases pre <;> cases post <;> simp_all
  · have hnil : pre = [] ∧ post = [] := by
      constructor <;> apply List.length_eq_zero_iff.1 <;> omega
    obtain ⟨rfl, rfl⟩ := hnil
    exact ⟨rfl, rfl⟩

theorem unlinkAt_size (d : Data) (id : Address) : (unlinkAt d id).size = d.size := by
  unfold unlinkAt
  split_ifs <;> rfl

theorem remove_eq_ok (h : WellFormed d l) (hr : remove d id = .ok d') :
    ∃ pre post, l = pre ++ id :: post ∧ WellFormed d' (pre ++ post) := by
  obtain ⟨_, hc, hr⟩ := bind_eq_ok.1 hr
  obtain ⟨size, hs, hr⟩ := bind_eq_ok.1 hr
  obtain ⟨pre, post, rfl⟩ := List.append_of_mem (h.contains_iff.1 (require_eq_ok.1 hc))
  refine ⟨pre, post, rfl, ?_⟩
  rw [sub_eq_ok, unlinkAt_size, h.size] at hs
  cases pure_eq_ok.1 hr
  refine ⟨?_, (unlinkAt_ends h).1, (unlinkAt_ends h).2, ?_⟩
  · rw [unlinkAt_nodes h]
    exact LinkedList.unlink_represents h.nodes
  · simp only [List.length_append, List.length_cons] at hs ⊢
    omega

theorem insertPosition_valid (h : WellFormed d l) {nicr : ℕ} {p n : Address}
    {position : Address × Address}
    (hr : insertPosition getNominalICR d nicr p n = .ok position) :
    validInsertPosition getNominalICR d nicr position.1 position.2 = .ok true := by
  obtain ⟨valid, hv, hr⟩ := bind_eq_ok.1 hr
  cases valid with
  | true =>
      cases pure_eq_ok.1 hr
      exact hv
  | false => exact findInsertPosition_valid h hr

theorem insert_eq_ok (h : WellFormed d l) {nicr : ℕ} {p n : Address}
    (hr : insert getNominalICR d id nicr p n = .ok d') :
    ∃ pre post, l = pre ++ post ∧ id ∉ l ∧ WellFormed d' (pre ++ id :: post) ∧
      Fits getNominalICR nicr (last pre) (first post) := by
  obtain ⟨_, -, hr⟩ := bind_eq_ok.1 hr
  obtain ⟨_, hc, hr⟩ := bind_eq_ok.1 hr
  obtain ⟨_, h₀, hr⟩ := bind_eq_ok.1 hr
  obtain ⟨_, -, hr⟩ := bind_eq_ok.1 hr
  obtain ⟨position, hp, hr⟩ := bind_eq_ok.1 hr
  cases pure_eq_ok.1 hr
  have hid : id ∉ l := h.not_contains_iff.1 (require_eq_ok.1 hc)
  obtain ⟨pre, post, rfl, hlast, hfirst, hfits⟩ :=
    validInsertPosition_fits h (insertPosition_valid h hp)
  rw [hlast, hfirst] at hfits ⊢
  exact ⟨pre, post, rfl, hid, insertAt_wellFormed h hid (require_eq_ok.1 h₀), hfits⟩

theorem reInsert_eq_ok (h : WellFormed d l) {nicr : ℕ} {p n : Address}
    (hr : reInsert getNominalICR d id nicr p n = .ok d') :
    ∃ pre post pre' post', l = pre ++ id :: post ∧ pre ++ post = pre' ++ post' ∧
      WellFormed d' (pre' ++ id :: post') ∧
      Fits getNominalICR nicr (last pre') (first post') := by
  obtain ⟨_, -, hr⟩ := bind_eq_ok.1 hr
  obtain ⟨_, -, hr⟩ := bind_eq_ok.1 hr
  obtain ⟨d₁, hr₁, hr⟩ := bind_eq_ok.1 hr
  obtain ⟨pre, post, rfl, h₁⟩ := remove_eq_ok h hr₁
  obtain ⟨pre', post', hl, -, h₂, hfits⟩ := insert_eq_ok h₁ hr
  exact ⟨pre, post, pre', post', rfl, hl, h₂, hfits⟩

end Usdd.SortedTroves

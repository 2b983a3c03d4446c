import Usdd.Providers.BatchedProvider

/-!
# Settlement of batched calls

Every call is owed an outcome in one place, or has been settled once. An event that is no new call
brings the object closer to a state in which nothing is owed. A call that is resolved gets its own
result. It is rejected on account of another call only if a batch contains one that reverts.
-/

open Transaction

namespace Usdd.Providers

variable {ε : Type} {provider : Provider ε}

section Lists

variable {α : Type} {l : List α} {a : α} {i : ℕ}

theorem perm_eraseIdx (h : l[i]? = some a) : l.Perm (a :: l.eraseIdx i) := by
  obtain ⟨hlt, rfl⟩ := List.getElem?_eq_some_iff.1 h
  exact (List.getElem_cons_eraseIdx_perm hlt).symm

theorem count_eraseIdx [DecidableEq α] (h : l[i]? = some a) (b : α) :
    l.count b = (l.eraseIdx i).count b + [a].count b := by
  rw [(perm_eraseIdx h).count_eq b, List.count_cons, List.count_singleton]

theorem sum_eraseIdx (h : l[i]? = some a) (f : α → ℕ) :
    (l.map f).sum = ((l.eraseIdx i).map f).sum + f a := by
  rw [((perm_eraseIdx h).map f).sum_eq, List.map_cons, List.sum_cons, Nat.add_comm]

end Lists

namespace BatchedProvider

variable {s s' : BatchedProvider ε} {hand more callbacks : List Promise} {p q : Promise}
  {d : Dispatch} {i now : ℕ} {request : TransactionRequest} {blockTag : Option BlockTag}
  {results : Except ε (List (Option String))}

section Accounts

/-- How often an outcome of the call is still owed or has been given. -/
def held (s : BatchedProvider ε) (p : Promise) : ℕ :=
  s.resuming.count p + s.batched.callbacks.count p + s.requests.count p +
    (s.dispatches.map (fun d => d.callbacks.count p)).sum + (s.settled.map Prod.fst).count p

/-- The calls made are those held and those in `hand`, which an event has taken out and not yet
put back. -/
structure Accounted (s : BatchedProvider ε) (hand : List Promise) : Prop where
  ids : s.created.map Promise.id = List.range s.created.length
  balanced : ∀ p, s.created.count p = s.held p + hand.count p
  ready : s.multicall = none → s.resuming = [] ∧ s.batched.calls = []
  paired : s.batched.calls.length = s.batched.callbacks.length
  timed : s.batched.calls ≠ [] → s.timers ≠ []
  dispatched : ∀ d ∈ s.dispatches, d.awaited ∈ s.created ∧
    ∀ p ∈ d.callbacks, p.id < d.awaited.id

theorem Accounted.mem_of_hand (h : s.Accounted hand) (hp : p ∈ hand) : p ∈ s.created := by
  have hpos : 0 < hand.count p := List.count_pos_iff.2 hp
  have hbalanced := h.balanced p
  exact List.count_pos_iff.1 (by omega)

theorem Accounted.id_lt (h : s.Accounted hand) (hp : p ∈ s.created) : p.id < s.created.length := by
  have hmem := List.mem_map_of_mem (f := Promise.id) hp
  rw [h.ids] at hmem
  exact List.mem_range.1 hmem

theorem Accounted.nodup (h : s.Accounted hand) : s.created.Nodup := by
  refine List.Nodup.of_map Promise.id ?_
  rw [h.ids]
  exact List.nodup_range

theorem Accounted.superCall (h : s.Accounted (p :: hand)) : (s.superCall p).Accounted hand where
  ids := h.ids
  balanced := by
    intro q
    have hq := h.balanced q
    unfold held BatchedProvider.superCall at *
    simp only [List.count_append, List.count_cons, List.count_nil] at *
    omega
  ready := h.ready
  paired := h.paired
  timed := h.timed
  dispatched := h.dispatched

theorem Accounted.settle {outcome : Outcome ε} (h : s.Accounted (p :: hand)) :
    (s.settle p outcome).Accounted hand where
  ids := h.ids
  balanced := by
    intro q
    have hq := h.balanced q
    unfold held BatchedProvider.settle at *
    simp only [List.map_append, List.map_cons, List.map_nil, List.count_append, List.count_cons,
      List.count_nil] at *
    omega
  ready := h.ready
  paired := h.paired
  timed := h.timed
  dispatched := h.dispatched

theorem settleAll_fst : ((s.settleAll callbacks results).settled.map Prod.fst) =
    s.settled.map Prod.fst ++ callbacks := by
  unfold settleAll
  rw [List.map_append]
  cases results with
  | ok results =>
    dsimp only
    rw [List.mapIdx_eq_zipIdx_map, List.map_map]
    exact congrArg (_ ++ ·) (List.zipIdx_map_fst 0 callbacks)
  | error error =>
    dsimp only
    rw [List.map_map]
    exact congrArg (_ ++ ·) (List.map_id callbacks)

theorem Accounted.settleAll (h : s.Accounted (callbacks ++ hand)) :
    (s.settleAll callbacks results).Accounted hand where
  ids := h.ids
  balanced := by
    intro q
    have hq := h.balanced q
    unfold held at *
    rw [settleAll_fst]
    unfold BatchedProvider.settleAll
    simp only [List.count_append] at *
    omega
  ready := h.ready
  paired := h.paired
  timed := h.timed
  dispatched := h.dispatched

/-- A new call is in hand. -/
theorem Accounted.created (h : s.Accounted hand) (request : TransactionRequest)
    (blockTag : Option BlockTag) :
    { s with created := s.created ++ [s.newPromise request blockTag] }.Accounted
      (s.newPromise request blockTag :: hand) where
  ids := by
    simp only [List.map_append, List.map_cons, List.map_nil, List.length_append, List.length_cons,
      List.length_nil, h.ids]
    exact List.range_succ.symm
  balanced := by
    intro q
    have hq := h.balanced q
    unfold held at *
    simp only [List.count_append, List.count_cons, List.count_nil] at *
    omega
  ready := h.ready
  paired := h.paired
  timed := h.timed
  dispatched := fun d hd =>
    ⟨List.mem_append_left _ (h.dispatched d hd).1, (h.dispatched d hd).2⟩

theorem Accounted.enqueueCall {call : CallRequest} (h : s.Accounted (p :: hand))
    (hready : s.multicall ≠ none) : (s.enqueueCall call p).Accounted hand where
  ids := h.ids
  balanced := by
    intro q
    have hq := h.balanced q
    unfold held BatchedProvider.enqueueCall at *
    simp only [List.count_append, List.count_cons, List.count_nil] at *
    omega
  ready := fun hnone => absurd hnone hready
  paired := by
    unfold BatchedProvider.enqueueCall
    simp only [List.length_append, List.length_cons, List.length_nil, h.paired]
  timed := fun _ => List.append_ne_nil_of_right_ne_nil _ (List.cons_ne_nil _ _)
  dispatched := h.dispatched

theorem checkRatio_eq (s : BatchedProvider ε) (now : ℕ) : s.checkRatio now =
    { s with
      numberOfBatchedCalls := (s.checkRatio now).numberOfBatchedCalls
      numberOfActualCalls := (s.checkRatio now).numberOfActualCalls
      timeOfLastRatioCheck := (s.checkRatio now).timeOfLastRatioCheck } := by
  unfold checkRatio
  cases s.timeOfLastRatioCheck with
  | none => rfl
  | some time =>
    dsimp only
    split_ifs <;> rfl

theorem Accounted.checkRatio (h : s.Accounted hand) : (s.checkRatio now).Accounted hand := by
  rw [checkRatio_eq]
  exact ⟨h.ids, h.balanced, h.ready, h.paired, h.timed, h.dispatched⟩

/-- A call that starts waits for its arguments. -/
theorem Accounted.awaitArguments (h : s.Accounted (p :: hand)) (hready : s.multicall ≠ none) :
    { s with resuming := s.resuming ++ [p] }.Accounted hand where
  ids := h.ids
  balanced := by
    intro q
    have hq := h.balanced q
    unfold held at *
    simp only [List.count_append, List.count_cons, List.count_nil] at *
    omega
  ready := fun hnone => absurd hnone hready
  paired := h.paired
  timed := h.timed
  dispatched := h.dispatched

theorem Accounted.startCall (h : s.Accounted hand) :
    (s.startCall now request blockTag).Accounted hand := by
  unfold BatchedProvider.startCall
  dsimp only
  have hcreated := h.created request blockTag
  split_ifs with hnone
  · exact hcreated.superCall
  · refine hcreated.checkRatio.awaitArguments ?_
    rw [checkRatio_eq]
    exact fun heq => hnone (by rw [heq]; rfl)

theorem Accounted.takeResuming (h : s.Accounted hand) (hi : s.resuming[i]? = some p) :
    { s with resuming := s.resuming.eraseIdx i }.Accounted (p :: hand) where
  ids := h.ids
  balanced := by
    intro q
    have hq := h.balanced q
    have hcount := count_eraseIdx hi q
    unfold held at *
    simp only [List.count_cons, List.count_nil] at *
    omega
  ready := by
    intro hnone
    rw [(h.ready hnone).1] at hi
    cases hi
  paired := h.paired
  timed := h.timed
  dispatched := h.dispatched

theorem Accounted.takeRequest (h : s.Accounted hand) (hi : s.requests[i]? = some p) :
    { s with requests := s.requests.eraseIdx i }.Accounted (p :: hand) where
  ids := h.ids
  balanced := by
    intro q
    have hq := h.balanced q
    have hcount := count_eraseIdx hi q
    unfold held at *
    simp only [List.count_cons, List.count_nil] at *
    omega
  ready := h.ready
  paired := h.paired
  timed := h.timed
  dispatched := h.dispatched

theorem Accounted.takeDispatch (h : s.Accounted hand) (hi : s.dispatches[i]? = some d) :
    { s with dispatches := s.dispatches.eraseIdx i }.Accounted (d.callbacks ++ hand) where
  ids := h.ids
  balanced := by
    intro q
    have hq := h.balanced q
    have hcount := sum_eraseIdx hi (fun d => d.callbacks.count q)
    unfold held at *
    simp only [List.count_append] at *
    omega
  ready := h.ready
  paired := h.paired
  timed := h.timed
  dispatched := fun d hd => h.dispatched d (List.mem_of_mem_eraseIdx hd)

/-- The batch is taken over, and its timer has run out. -/
theorem Accounted.takeBatch (h : s.Accounted hand) (timers : List ℕ) :
    { s with timers := timers, batched := emptyBatch }.Accounted
      (s.batched.callbacks ++ hand) where
  ids := h.ids
  balanced := by
    intro q
    have hq := h.balanced q
    unfold held emptyBatch at *
    simp only [List.count_append, List.count_nil] at *
    omega
  ready := fun hnone => ⟨(h.ready hnone).1, rfl⟩
  paired := rfl
  timed := fun hne => absurd rfl hne
  dispatched := h.dispatched

/-- The callbacks in hand wait for a call made after them. -/
theorem Accounted.dispatch (h : s.Accounted (d.callbacks ++ hand)) (hmem : d.awaited ∈ s.created)
    (hlt : ∀ p ∈ d.callbacks, p.id < d.awaited.id) :
    { s with dispatches := s.dispatches ++ [d] }.Accounted hand where
  ids := h.ids
  balanced := by
    intro q
    have hq := h.balanced q
    unfold held at *
    simp only [List.map_append, List.map_cons, List.map_nil, List.sum_append, List.sum_cons,
      List.sum_nil, List.count_append] at *
    omega
  ready := h.ready
  paired := h.paired
  timed := h.timed
  dispatched := by
    intro d' hd
    rcases List.mem_append.1 hd with hd | hd
    · exact h.dispatched d' hd
    · cases List.mem_singleton.1 hd
      exact ⟨hmem, hlt⟩

theorem startCall_created : (s.startCall now request blockTag).created =
    s.created ++ [s.newPromise request blockTag] := by
  unfold BatchedProvider.startCall
  dsimp only
  split_ifs
  · rfl
  · rw [checkRatio_eq]

theorem Accounted.resumeCall (h : s.Accounted (p :: hand)) :
    (s.resumeCall provider p).Accounted hand := by
  unfold BatchedProvider.resumeCall
  split
  · exact h.settle
  · rename_i address hm
    have hready : s.multicall ≠ none := by
      rw [hm]
      exact Option.some_ne_none _
    dsimp only
    split_ifs with hdirect hfirst
    · exact Accounted.superCall ⟨h.ids, h.balanced, h.ready, h.paired, h.timed, h.dispatched⟩
    · refine Accounted.enqueueCall ?_ hready
      exact ⟨h.ids, h.balanced, h.ready, h.paired, h.timed, h.dispatched⟩
    · refine Accounted.enqueueCall ?_ hready
      exact ⟨h.ids, h.balanced, h.ready, h.paired, h.timed, h.dispatched⟩

/-- The callbacks of the batch have been created before the call that is made for them. -/
theorem Accounted.dispatchCalls {timers : List ℕ} (h : s.Accounted hand) :
    ({ s with timers := timers }.dispatchCalls provider now).Accounted hand := by
  have htaken := h.takeBatch timers
  have hlt : ∀ p ∈ s.batched.callbacks, p.id < s.created.length :=
    fun p hp => htaken.id_lt (htaken.mem_of_hand (List.mem_append_left _ hp))
  unfold BatchedProvider.dispatchCalls
  dsimp only
  split
  · exact htaken.settleAll
  · refine Accounted.dispatch ?_ (List.mem_append_right _ List.mem_cons_self) hlt
    exact Accounted.superCall (htaken.created _ _)
  · split
    · exact htaken.settleAll
    · refine Accounted.dispatch ?_ ?_ hlt
      · exact htaken.startCall
      · rw [startCall_created]
        exact List.mem_append_right _ List.mem_cons_self

theorem Accounted.setChainId {chainId : ℕ} (h : s.Accounted hand)
    (hs : s.setChainId chainId = .ok s') : s'.Accounted hand := by
  unfold BatchedProvider.setChainId at hs
  split_ifs at hs with hsome
  cases pure_eq_ok.1 hs
  have hnone : s.multicall = none := Option.not_isSome_iff_eq_none.1 hsome
  exact ⟨h.ids, h.balanced, fun _ => h.ready hnone, h.paired, h.timed, h.dispatched⟩

/-- One case for each event. -/
theorem Accounted.step {e : Event} (h : s.Accounted []) (hs : s.step provider e = .ok s') :
    s'.Accounted [] := by
  cases e with
  | setChainId chainId => exact h.setChainId hs
  | call now request blockTag =>
    cases pure_eq_ok.1 hs
    exact h.startCall
  | resume i =>
    obtain ⟨p, hi, hs⟩ := bind_eq_ok.1 hs
    cases pure_eq_ok.1 hs
    exact (h.takeResuming (present_eq_ok.1 hi)).resumeCall
  | timeout id now =>
    obtain ⟨_, -, hs⟩ := bind_eq_ok.1 hs
    cases pure_eq_ok.1 hs
    exact h.dispatchCalls
  | complete i =>
    obtain ⟨p, hi, hs⟩ := bind_eq_ok.1 hs
    cases pure_eq_ok.1 hs
    exact (h.takeRequest (present_eq_ok.1 hi)).settle
  | finish i =>
    obtain ⟨d, hi, hs⟩ := bind_eq_ok.1 hs
    obtain ⟨answer, -, hs⟩ := bind_eq_ok.1 hs
    cases pure_eq_ok.1 hs
    exact (h.takeDispatch (present_eq_ok.1 hi)).settleAll

end Accounts

section Progress

def Event.internal : Event → Bool
  | .setChainId _ => false
  | .call _ _ _ => false
  | _ => true

/-- How much there is left to do. A call that waits for its arguments counts more than one in the
batch, and two of those more than a dispatch with its call. -/
def remaining (s : BatchedProvider ε) : ℕ :=
  5 * s.resuming.length + 4 * s.batched.calls.length + s.requests.length + s.dispatches.length

theorem length_eraseIdx {α : Type} {l : List α} {a : α} (h : l[i]? = some a) :
    (l.eraseIdx i).length + 1 = l.length := by
  have hperm := (perm_eraseIdx h).length_eq
  rw [List.length_cons] at hperm
  exact hperm.symm

theorem remaining_resume (hi : s.resuming[i]? = some p) :
    ({ s with resuming := s.resuming.eraseIdx i }.resumeCall provider p).remaining <
      s.remaining := by
  have hlength := length_eraseIdx hi
  unfold resumeCall remaining superCall settle enqueueCall
  dsimp only
  split
  · dsimp only
    omega
  · split_ifs <;> simp only [List.length_append, List.length_cons, List.length_nil] <;> omega

theorem remaining_startCall :
    (s.startCall now request blockTag).remaining ≤ s.remaining + 5 := by
  unfold startCall remaining superCall
  dsimp only
  split_ifs
  · simp only [List.length_append, List.length_cons, List.length_nil]
    omega
  · rw [checkRatio_eq]
    simp only [List.length_append, List.length_cons, List.length_nil]
    omega

theorem remaining_dispatch (s : BatchedProvider ε) (d : Dispatch) :
    { s with dispatches := s.dispatches ++ [d] }.remaining = s.remaining + 1 := by
  unfold remaining
  rw [List.length_append]
  rfl

theorem remaining_settleAll : (s.settleAll callbacks results).remaining = s.remaining := rfl

theorem remaining_takeBatch (s : BatchedProvider ε) (timers : List ℕ) :
    { s with timers := timers, batched := emptyBatch }.remaining + 4 * s.batched.calls.length =
      s.remaining := by
  unfold remaining emptyBatch
  dsimp only [List.length_nil]
  omega

theorem remaining_timeout {timers : List ℕ} (hne : s.batched.calls ≠ []) :
    ({ s with timers := timers }.dispatchCalls provider now).remaining < s.remaining := by
  have htaken := remaining_takeBatch s timers
  have hpos := List.length_pos_iff.2 hne
  unfold dispatchCalls
  dsimp only
  split
  · exact absurd ‹_› hne
  · rename_i hcalls
    unfold remaining superCall emptyBatch
    rw [hcalls]
    simp only [List.length_append, List.length_cons, List.length_nil]
    omega
  · rename_i hcalls
    have htwo : 2 ≤ s.batched.calls.length := by
      rw [hcalls, List.length_cons, List.length_cons]
      omega
    split
    · rw [remaining_settleAll]
      omega
    · rw [remaining_dispatch]
      refine lt_of_le_of_lt (Nat.add_le_add_right remaining_startCall 1) ?_
      omega

/-- The awaited call of some dispatch has its outcome, if no call waits elsewhere. -/
theorem Accounted.answered (h : s.Accounted []) (hresuming : s.resuming = [])
    (hbatch : s.batched.callbacks = []) (hrequests : s.requests = []) (hd : d ∈ s.dispatches) :
    ∃ d' ∈ s.dispatches, ∃ answer, s.outcomeOf d'.awaited = some answer := by
  -- A dispatch that awaits a call of another one comes before it.
  induction hgap : s.created.length - d.awaited.id using Nat.strong_induction_on generalizing d with
  | _ gap ih =>
    have hmem := (h.dispatched d hd).1
    have hlt := h.id_lt hmem
    have hcount := h.balanced d.awaited
    have hpos : 0 < s.created.count d.awaited := List.count_pos_iff.2 hmem
    unfold held at hcount
    rw [hresuming, hbatch, hrequests] at hcount
    simp only [List.count_nil] at hcount
    by_cases hsettled : d.awaited ∈ s.settled.map Prod.fst
    · obtain ⟨⟨p, answer⟩, hentry, hp⟩ := List.mem_map.1 hsettled
      have hsome : (s.settled.find? (fun entry => entry.1 = d.awaited)).isSome = true :=
        List.find?_isSome.2 ⟨_, hentry, decide_eq_true hp⟩
      obtain ⟨entry, hfound⟩ := Option.isSome_iff_exists.1 hsome
      refine ⟨d, hd, entry.2, ?_⟩
      unfold outcomeOf
      rw [hfound]
      rfl
    · have hzero : (s.settled.map Prod.fst).count d.awaited = 0 := List.count_eq_zero.2 hsettled
      have hsum : (s.dispatches.map (fun d' => d'.callbacks.count d.awaited)).sum ≠ 0 := by omega
      obtain ⟨n, hn, hne⟩ : ∃ n ∈ s.dispatches.map (fun d' => d'.callbacks.count d.awaited),
          n ≠ 0 := by
        by_contra hall
        push Not at hall
        exact hsum (List.sum_eq_zero hall)
      obtain ⟨d', hd', rfl⟩ := List.mem_map.1 hn
      have hlater := (h.dispatched d' hd').2 d.awaited (List.count_pos_iff.1 (by omega))
      have hbound := h.id_lt (h.dispatched d' hd').1
      exact ih (s.created.length - d'.awaited.id) (by omega) hd' rfl

/-- As long as a call is unsettled something can happen, and it leaves less to do. -/
theorem Accounted.progress (provider : Provider ε) (h : s.Accounted []) (hp : p ∈ s.created)
    (hopen : p ∉ s.settled.map Prod.fst) : ∃ e : Event, e.internal = true ∧
      ∃ s', s.step provider e = .ok s' ∧ s'.remaining < s.remaining := by
  cases hresuming : s.resuming with
  | cons q rest =>
    have hi : s.resuming[0]? = some q := by rw [hresuming]; rfl
    exact ⟨.resume 0, rfl, _, bind_eq_ok.2 ⟨q, present_eq_ok.2 hi, rfl⟩, remaining_resume hi⟩
  | nil =>
  cases hbatch : s.batched.callbacks with
  | cons q rest =>
    have hne : s.batched.calls ≠ [] := by
      intro hnil
      have hpaired := h.paired
      rw [hnil, hbatch] at hpaired
      cases hpaired
    obtain ⟨id, hid⟩ := List.exists_mem_of_ne_nil _ (h.timed hne)
    exact ⟨.timeout id 0, rfl, _, bind_eq_ok.2 ⟨(), require_eq_ok.2 hid, rfl⟩,
      remaining_timeout hne⟩
  | nil =>
  cases hrequests : s.requests with
  | cons q rest =>
    have hi : s.requests[0]? = some q := by rw [hrequests]; rfl
    refine ⟨.complete 0, rfl, _, bind_eq_ok.2 ⟨q, present_eq_ok.2 hi, rfl⟩, ?_⟩
    have hlength := length_eraseIdx hi
    unfold BatchedProvider.settle remaining
    dsimp only
    omega
  | nil =>
    have hcount := h.balanced p
    have hpos : 0 < s.created.count p := List.count_pos_iff.2 hp
    have hzero : (s.settled.map Prod.fst).count p = 0 := List.count_eq_zero.2 hopen
    unfold held at hcount
    rw [hresuming, hbatch, hrequests, hzero] at hcount
    simp only [List.count_nil] at hcount
    have hne : s.dispatches ≠ [] := by
      intro hnil
      rw [hnil] at hcount
      simp only [List.map_nil, List.sum_nil] at hcount
      omega
    obtain ⟨d, hd⟩ := List.exists_mem_of_ne_nil _ hne
    obtain ⟨d', hd', answer, hanswer⟩ := h.answered hresuming hbatch hrequests hd
    obtain ⟨i, hi⟩ := List.mem_iff_getElem?.1 hd'
    refine ⟨.finish i, rfl, _, bind_eq_ok.2 ⟨d', present_eq_ok.2 hi, bind_eq_ok.2
      ⟨answer, present_eq_ok.2 hanswer, rfl⟩⟩, ?_⟩
    have hlength := length_eraseIdx hi
    unfold finishDispatch
    rw [remaining_settleAll]
    unfold remaining
    dsimp only
    omega

theorem dispatchCalls_created : s.created ⊆ (s.dispatchCalls provider now).created := by
  unfold dispatchCalls
  dsimp only
  split
  · exact List.Subset.refl _
  · exact List.subset_append_left _ _
  · split
    · exact List.Subset.refl _
    · rw [startCall_created]
      exact List.subset_append_left _ _

theorem resumeCall_created : (s.resumeCall provider p).created = s.created := by
  unfold resumeCall
  split
  · rfl
  · dsimp only
    split_ifs <;> rfl

theorem step_created {e : Event} (hs : s.step provider e = .ok s') : s.created ⊆ s'.created := by
  cases e with
  | setChainId chainId =>
    unfold step setChainId at hs
    dsimp only at hs
    split_ifs at hs
    cases pure_eq_ok.1 hs
    exact List.Subset.refl _
  | call now request blockTag =>
    cases pure_eq_ok.1 hs
    rw [startCall_created]
    exact List.subset_append_left _ _
  | resume i =>
    obtain ⟨p, -, hs⟩ := bind_eq_ok.1 hs
    cases pure_eq_ok.1 hs
    rw [resumeCall_created]
    exact List.Subset.refl _
  | timeout id now =>
    obtain ⟨_, -, hs⟩ := bind_eq_ok.1 hs
    cases pure_eq_ok.1 hs
    exact dispatchCalls_created (s := { s with timers := s.timers.erase id })
  | complete i =>
    obtain ⟨p, -, hs⟩ := bind_eq_ok.1 hs
    cases pure_eq_ok.1 hs
    exact List.Subset.refl _
  | finish i =>
    obtain ⟨d, -, hs⟩ := bind_eq_ok.1 hs
    obtain ⟨answer, -, hs⟩ := bind_eq_ok.1 hs
    cases pure_eq_ok.1 hs
    exact List.Subset.refl _

/-- Without new calls every call made so far is settled in the end. -/
theorem Accounted.drains (provider : Provider ε) (h : s.Accounted []) : ∃ es : List Event,
    (∀ e ∈ es, e.internal = true) ∧ ∃ s', run (BatchedProvider.step provider) s es = .ok s' ∧
      s'.Accounted [] ∧ s.created ⊆ s'.created ∧ ∀ p ∈ s'.created, p ∈ s'.settled.map Prod.fst := by
  induction hgap : s.remaining using Nat.strong_induction_on generalizing s with
  | _ gap ih =>
    by_cases hall : ∀ p ∈ s.created, p ∈ s.settled.map Prod.fst
    · exact ⟨[], fun _ he => absurd he List.not_mem_nil, s, rfl, h, List.Subset.refl _, hall⟩
    · push Not at hall
      obtain ⟨p, hp, hopen⟩ := hall
      obtain ⟨e, he, s₁, hs₁, hless⟩ := h.progress provider hp hopen
      obtain ⟨es, hes, s', hrun, h', hsub, hsettled⟩ :=
        ih s₁.remaining (hgap ▸ hless) (h.step hs₁) rfl
      refine ⟨e :: es, ?_, s', bind_eq_ok.2 ⟨s₁, hs₁, hrun⟩, h',
        fun q hq => hsub (step_created hs₁ hq), hsettled⟩
      intro e' he'
      rcases List.mem_cons.1 he' with rfl | he'
      · exact he
      · exact hes e' he'

end Progress

section Outcomes

/-- What is relied on outside: no block tag means the latest block, a call that can be batched is
answered without regard to its sender, and `aggregate` returns the results of its calls in order,
or reverts if one of them does. -/
structure Faithful (provider : Provider ε) : Prop where
  latest : ∀ request, provider.superCall request none =
    provider.superCall request (some (.name "latest"))
  sender : ∀ request blockTag, batchableCall request = true →
    provider.superCall request blockTag = provider.superCall request.call.request blockTag
  aggregate_ok : ∀ chainId address calls blockTag results,
    multicallAddress chainId = some address →
    List.Forall₂ (fun (call : CallRequest) result =>
      provider.superCall call.request blockTag = .ok result) calls results →
    ∃ data, provider.superCall { target := address, data := provider.encodeAggregate calls }
        blockTag = .ok data ∧ provider.decodeAggregate (some data) = .ok results
  aggregate_error : ∀ chainId address calls blockTag,
    multicallAddress chainId = some address →
    (∃ call ∈ calls, ∃ error, provider.superCall call.request blockTag = .error error) →
    ∃ error, provider.superCall { target := address, data := provider.encodeAggregate calls }
      blockTag = .error error

/-- The queued request stands for the call. -/
structure Fits (blockTag : Option BlockTag) (call : CallRequest) (p : Promise) : Prop where
  call : call = p.request.call
  batchable : batchableCall p.request = true
  blockTag : p.blockTag.getD (.name "latest") = blockTag.getD (.name "latest")

theorem Faithful.superCall_getD (hf : Faithful provider) (request : TransactionRequest)
    (blockTag : Option BlockTag) : provider.superCall request blockTag =
      provider.superCall request (some (blockTag.getD (.name "latest"))) := by
  cases blockTag with
  | none => exact hf.latest request
  | some tag => rfl

theorem Fits.superCall_eq {call : CallRequest} (hf : Faithful provider)
    (h : Fits blockTag call p) :
    provider.superCall call.request blockTag = provider.superCall p.request p.blockTag := by
  rw [h.call, ← hf.sender _ _ h.batchable, hf.superCall_getD, ← h.blockTag,
    ← hf.superCall_getD]

def Reverts (provider : Provider ε) (p : Promise) : Prop :=
  ∃ error, provider.superCall p.request p.blockTag = .error error

/-- The calls of a batch without a reverting one have results, and they are those of the callbacks
too. -/
theorem exists_results (hf : Faithful provider) {calls : List CallRequest}
    (hbatch : List.Forall₂ (Fits blockTag) calls callbacks)
    (hcalm : ∀ p ∈ callbacks, ¬Reverts provider p) :
    ∃ values, List.Forall₂ (fun (call : CallRequest) result =>
        provider.superCall call.request blockTag = .ok result) calls values ∧
      List.Forall₂ (fun (p : Promise) result =>
        provider.superCall p.request p.blockTag = .ok result) callbacks values := by
  induction hbatch with
  | nil => exact ⟨[], .nil, .nil⟩
  | @cons call p calls callbacks hfits hrest ih =>
    obtain ⟨values, hcalls, hvalues⟩ := ih (fun p hp => hcalm p (List.mem_cons_of_mem _ hp))
    cases hanswer : provider.superCall p.request p.blockTag with
    | error error => exact absurd ⟨error, hanswer⟩ (hcalm p List.mem_cons_self)
    | ok data =>
      exact ⟨data :: values, .cons ((hfits.superCall_eq hf).trans hanswer) hcalls,
        .cons hanswer hvalues⟩

theorem exists_reverting (hf : Faithful provider) {calls : List CallRequest}
    (hbatch : List.Forall₂ (Fits blockTag) calls callbacks)
    (hreverts : ∃ p ∈ callbacks, Reverts provider p) :
    ∃ call ∈ calls, ∃ error, provider.superCall call.request blockTag = .error error := by
  obtain ⟨p, hp, error, herror⟩ := hreverts
  obtain ⟨i, hi⟩ := List.mem_iff_getElem.1 hp
  obtain ⟨hlt, rfl⟩ := hi
  have hlt' : i < calls.length := hbatch.length_eq ▸ hlt
  exact ⟨calls[i], List.getElem_mem hlt', error,
    ((hbatch.get hlt' hlt).superCall_eq hf).trans herror⟩

/-- A resolved call has its own result. If `calm` holds, a rejection is the call's own as well. -/
structure Good (provider : Provider ε) (calm : Prop) (p : Promise) (outcome : Outcome ε) :
    Prop where
  result : ∀ data, outcome = .ok data → provider.outcome p = .ok data
  own : calm → outcome = provider.outcome p

theorem good_outcome (provider : Provider ε) (calm : Prop) (p : Promise) :
    Good provider calm p (provider.outcome p) := ⟨fun _ h => h, fun _ => rfl⟩

theorem good_error {calm : Prop} {error : ε} (h : calm → provider.outcome p = .error error) :
    Good provider calm p (.error error) where
  result := fun _ hok => by cases hok
  own := fun hcalm => (h hcalm).symm

/-- What has been given and what the dispatches wait for. If `calm` holds, no batch with a reverting
call is waited for, other than of that call alone. -/
structure Answered (provider : Provider ε) (calm : Prop) (s : BatchedProvider ε) : Prop where
  known : ∀ address, s.multicall = some address →
    ∃ chainId, multicallAddress chainId = some address
  settled : ∀ entry ∈ s.settled, Good provider calm entry.1 entry.2
  batch : List.Forall₂ (Fits s.batched.blockTag) s.batched.calls s.batched.callbacks
  single : ∀ d ∈ s.dispatches, d.aggregated = false →
    ∃ p, d.callbacks = [p] ∧ provider.outcome d.awaited = provider.outcome p
  aggregate : ∀ d ∈ s.dispatches, d.aggregated = true →
    (calm → ∀ p ∈ d.callbacks, ¬Reverts provider p) ∧ ∃ chainId address calls,
      multicallAddress chainId = some address ∧
      d.awaited.request = { target := address, data := provider.encodeAggregate calls } ∧
      List.Forall₂ (Fits d.awaited.blockTag) calls d.callbacks

/-- If `calm` holds, no batch of two or more calls is dispatched that contains a reverting one. -/
def Dispatches (provider : Provider ε) (calm : Prop) (s : BatchedProvider ε) : Event → Prop
  | .timeout _ _ => calm → 1 < s.batched.calls.length →
      ∀ p ∈ s.batched.callbacks, ¬Reverts provider p
  | _ => True

variable {calm : Prop}

theorem Answered.superCall (h : s.Answered provider calm) :
    (s.superCall p).Answered provider calm :=
  ⟨h.known, h.settled, h.batch, h.single, h.aggregate⟩

theorem Answered.settle {outcome : Outcome ε} (h : s.Answered provider calm)
    (hgood : Good provider calm p outcome) : (s.settle p outcome).Answered provider calm where
  known := h.known
  settled := by
    intro entry hentry
    rcases List.mem_append.1 hentry with hentry | hentry
    · exact h.settled entry hentry
    · cases List.mem_singleton.1 hentry
      exact hgood
  batch := h.batch
  single := h.single
  aggregate := h.aggregate

theorem Answered.startCall (h : s.Answered provider calm) :
    (s.startCall now request blockTag).Answered provider calm := by
  unfold BatchedProvider.startCall
  dsimp only
  split_ifs
  · exact Answered.superCall ⟨h.known, h.settled, h.batch, h.single, h.aggregate⟩
  · rw [checkRatio_eq]
    exact ⟨h.known, h.settled, h.batch, h.single, h.aggregate⟩

theorem Answered.enqueueCall {call : CallRequest} (h : s.Answered provider calm)
    (hfits : Fits s.batched.blockTag call p) :
    (s.enqueueCall call p).Answered provider calm where
  known := h.known
  settled := h.settled
  batch := List.rel_append h.batch (.cons hfits .nil)
  single := h.single
  aggregate := h.aggregate

/-- A batch that is begun takes the block tag of its first call. -/
theorem Answered.resumeCall (h : s.Answered provider calm) (hready : s.multicall ≠ none) :
    (s.resumeCall provider p).Answered provider calm := by
  unfold BatchedProvider.resumeCall
  split
  · exact absurd ‹_› hready
  · dsimp only
    split_ifs with hdirect hfirst
    · exact Answered.superCall ⟨h.known, h.settled, h.batch, h.single, h.aggregate⟩
    · have hempty : s.batched.calls = [] := List.length_eq_zero_iff.1 hfirst
      have hnone : s.batched.callbacks = [] := by
        have hbatch := h.batch
        rw [hempty] at hbatch
        exact List.forall₂_nil_left_iff.1 hbatch
      refine Answered.enqueueCall ?_ ?_
      · refine ⟨h.known, h.settled, ?_, h.single, h.aggregate⟩
        dsimp only
        rw [hempty, hnone]
        exact .nil
      · simp only [Bool.or_eq_true, not_or, Bool.not_eq_true', Bool.not_eq_false] at hdirect
        exact ⟨rfl, hdirect.1.2, rfl⟩
    · refine Answered.enqueueCall ⟨h.known, h.settled, h.batch, h.single, h.aggregate⟩ ?_
      simp only [Bool.or_eq_true, not_or, Bool.not_eq_true', Bool.not_eq_false] at hdirect
      refine ⟨rfl, hdirect.1.2, ?_⟩
      have hagrees := hdirect.2
      unfold alreadyBatchedCallsConflictWith at hagrees
      simp only [hfirst, ne_eq, not_false_eq_true, decide_true, Bool.true_and,
        decide_not, Bool.not_eq_true', decide_eq_false_iff_not, not_not] at hagrees
      exact hagrees

theorem Answered.settleAll (h : s.Answered provider calm)
    (hall : ∀ entry ∈ (s.settleAll callbacks results).settled,
      entry ∈ s.settled ∨ Good provider calm entry.1 entry.2) :
    (s.settleAll callbacks results).Answered provider calm where
  known := h.known
  settled := fun entry hentry => (hall entry hentry).elim (h.settled entry) id
  batch := h.batch
  single := h.single
  aggregate := h.aggregate

theorem Answered.settleAll_error {error : ε} (h : s.Answered provider calm)
    (hgood : ∀ p ∈ callbacks, Good provider calm p (.error error)) :
    (s.settleAll callbacks (.error error)).Answered provider calm := by
  refine h.settleAll (fun entry hentry => ?_)
  rcases List.mem_append.1 hentry with hentry | hentry
  · exact Or.inl hentry
  · obtain ⟨p, hp, rfl⟩ := List.mem_map.1 hentry
    exact Or.inr (hgood p hp)

/-- Results in the order of the callbacks are handed out one to one. -/
theorem Answered.settleAll_ok {values : List String} (h : s.Answered provider calm)
    (hvalues : List.Forall₂ (fun (p : Promise) result =>
      provider.superCall p.request p.blockTag = .ok result) callbacks values) :
    (s.settleAll callbacks (.ok (values.map some))).Answered provider calm := by
  refine h.settleAll (fun entry hentry => ?_)
  rcases List.mem_append.1 hentry with hentry | hentry
  · exact Or.inl hentry
  · right
    obtain ⟨i, hi, rfl⟩ := List.mem_mapIdx.1 hentry
    have hlt : i < values.length := hvalues.length_eq ▸ hi
    have hanswer := hvalues.get hi hlt
    have hvalue : (values.map some).getD i none = some values[i] := by
      rw [List.getD_eq_getElem?_getD, List.getElem?_map, List.getElem?_eq_getElem hlt]
      rfl
    have howned : provider.outcome callbacks[i] = .ok (some values[i]) := by
      unfold Provider.outcome
      exact congrArg (Except.map some) hanswer
    rw [hvalue, ← howned]
    exact good_outcome provider calm _

/-- The one callback gets what the dispatch has got. -/
theorem Answered.settleAll_single {answer : Outcome ε} (h : s.Answered provider calm)
    (hgood : Good provider calm p answer) :
    (s.settleAll [p] (answer.map (fun data => [data]))).Answered provider calm := by
  refine h.settleAll (fun entry hentry => ?_)
  rcases List.mem_append.1 hentry with hentry | hentry
  · exact Or.inl hentry
  · right
    cases answer with
    | ok data =>
      cases List.mem_singleton.1 hentry
      exact hgood
    | error error =>
      cases List.mem_singleton.1 hentry
      exact hgood

theorem Answered.dispatch (h : s.Answered provider calm)
    (hsingle : d.aggregated = false →
      ∃ p, d.callbacks = [p] ∧ provider.outcome d.awaited = provider.outcome p)
    (haggregate : d.aggregated = true →
      (calm → ∀ p ∈ d.callbacks, ¬Reverts provider p) ∧ ∃ chainId address calls,
        multicallAddress chainId = some address ∧
        d.awaited.request = { target := address, data := provider.encodeAggregate calls } ∧
        List.Forall₂ (Fits d.awaited.blockTag) calls d.callbacks) :
    { s with dispatches := s.dispatches ++ [d] }.Answered provider calm where
  known := h.known
  settled := h.settled
  batch := h.batch
  single := by
    intro d' hd hkind
    rcases List.mem_append.1 hd with hd | hd
    · exact h.single d' hd hkind
    · cases List.mem_singleton.1 hd
      exact hsingle hkind
  aggregate := by
    intro d' hd hkind
    rcases List.mem_append.1 hd with hd | hd
    · exact h.aggregate d' hd hkind
    · cases List.mem_singleton.1 hd
      exact haggregate hkind

theorem Answered.dispatchCalls {timers : List ℕ} (hf : Faithful provider)
    (h : s.Answered provider calm)
    (hready : s.multicall = none → s.batched.calls = [])
    (hcalm : calm → 1 < s.batched.calls.length →
      ∀ p ∈ s.batched.callbacks, ¬Reverts provider p) :
    ({ s with timers := timers }.dispatchCalls provider now).Answered provider calm := by
  have htaken : { s with timers := timers, batched := emptyBatch }.Answered provider calm :=
    ⟨h.known, h.settled, .nil, h.single, h.aggregate⟩
  have hbatch := h.batch
  unfold BatchedProvider.dispatchCalls
  dsimp only
  split
  · rename_i hcalls
    rw [hcalls] at hbatch
    rw [List.forall₂_nil_left_iff.1 hbatch]
    exact htaken.settleAll_error (fun p hp => absurd hp List.not_mem_nil)
  · rename_i call hcalls
    rw [hcalls] at hbatch
    obtain ⟨p, _, hfits, hnil, hcallbacks⟩ := List.forall₂_cons_left_iff.1 hbatch
    rw [List.forall₂_nil_left_iff.1 hnil] at hcallbacks
    refine Answered.dispatch (Answered.superCall ⟨htaken.known, htaken.settled, .nil,
      htaken.single, htaken.aggregate⟩) (fun _ => ⟨p, hcallbacks, ?_⟩)
      (fun hkind => absurd hkind Bool.false_ne_true)
    exact congrArg (Except.map some) (hfits.superCall_eq hf)
  · rename_i hcalls
    have htwo : 1 < s.batched.calls.length := by
      rw [hcalls, List.length_cons, List.length_cons]
      omega
    split
    · rename_i hnone
      rw [hready hnone] at htwo
      exact absurd htwo (Nat.not_lt_zero _)
    · rename_i address hsome
      obtain ⟨chainId, haddress⟩ := h.known address hsome
      exact Answered.dispatch htaken.startCall
        (fun hkind => absurd hkind.symm Bool.false_ne_true)
        (fun _ => ⟨fun hall => hcalm hall htwo, chainId, address, _, haddress, rfl, hbatch⟩)

/-- An answer to `aggregate` is there only if no call of the batch reverts. -/
theorem Answered.finishAggregate {answer : Outcome ε} (hf : Faithful provider)
    (h : s.Answered provider calm) (hkind : d.aggregated = true)
    (haggregate : (calm → ∀ p ∈ d.callbacks, ¬Reverts provider p) ∧ ∃ chainId address calls,
      multicallAddress chainId = some address ∧
      d.awaited.request = { target := address, data := provider.encodeAggregate calls } ∧
      List.Forall₂ (Fits d.awaited.blockTag) calls d.callbacks)
    (hgood : Good provider calm d.awaited answer) :
    (s.finishDispatch provider d answer).Answered provider calm := by
  obtain ⟨hcalm, chainId, address, calls, haddress, hrequest, hbatch⟩ := haggregate
  -- What the awaited call is answered if no call of the batch reverts.
  have hanswered : (∀ p ∈ d.callbacks, ¬Reverts provider p) → ∃ data values,
      provider.outcome d.awaited = .ok (some data) ∧
      provider.decodeAggregate (some data) = .ok values ∧
      List.Forall₂ (fun (p : Promise) result =>
        provider.superCall p.request p.blockTag = .ok result) d.callbacks values := by
    intro hnone
    obtain ⟨values, hcalls, hvalues⟩ := exists_results hf hbatch hnone
    obtain ⟨data, hdata, hdecoded⟩ := hf.aggregate_ok chainId address calls _ values haddress
      hcalls
    rw [← hrequest] at hdata
    exact ⟨data, values, congrArg (Except.map some) hdata, hdecoded, hvalues⟩
  cases answer with
  | error error =>
    have hresults : results provider d (.error error) = .error error := if_pos hkind
    unfold BatchedProvider.finishDispatch
    rw [hresults]
    refine h.settleAll_error (fun p hp => good_error (fun hall => ?_))
    obtain ⟨data, values, hdata, -, -⟩ := hanswered (hcalm hall)
    rw [← hgood.own hall] at hdata
    cases hdata
  | ok answer =>
    have hown := hgood.result answer rfl
    have hnone : ∀ p ∈ d.callbacks, ¬Reverts provider p := by
      intro p hp hreverts
      obtain ⟨error, herror⟩ := hf.aggregate_error chainId address calls d.awaited.blockTag
        haddress (exists_reverting hf hbatch ⟨p, hp, hreverts⟩)
      unfold Provider.outcome at hown
      rw [hrequest, herror] at hown
      cases hown
    obtain ⟨data, values, hdata, hdecoded, hvalues⟩ := hanswered hnone
    rw [hown] at hdata
    cases hdata
    have hresults : results provider d (.ok (some data)) = .ok (values.map some) := by
      unfold results
      rw [if_pos hkind]
      change (provider.decodeAggregate (some data)).map _ = _
      rw [hdecoded]
      rfl
    unfold BatchedProvider.finishDispatch
    rw [hresults]
    exact h.settleAll_ok hvalues

theorem Answered.finishDispatch {answer : Outcome ε} (hf : Faithful provider)
    (h : s.Answered provider calm) (hi : s.dispatches[i]? = some d)
    (hanswer : s.outcomeOf d.awaited = some answer) :
    ({ s with dispatches := s.dispatches.eraseIdx i }.finishDispatch provider d
      answer).Answered provider calm := by
  have hd : d ∈ s.dispatches := List.mem_of_getElem? hi
  have htaken : { s with dispatches := s.dispatches.eraseIdx i }.Answered provider calm :=
    ⟨h.known, h.settled, h.batch, fun d hd => h.single d (List.mem_of_mem_eraseIdx hd),
      fun d hd => h.aggregate d (List.mem_of_mem_eraseIdx hd)⟩
  have hgood : Good provider calm d.awaited answer := by
    unfold outcomeOf at hanswer
    obtain ⟨entry, hfound, rfl⟩ := Option.map_eq_some_iff.1 hanswer
    have hsame := List.find?_some hfound
    have hgood := h.settled entry (List.mem_of_find?_eq_some hfound)
    rw [of_decide_eq_true hsame] at hgood
    exact hgood
  by_cases hkind : d.aggregated = true
  · exact htaken.finishAggregate hf hkind (h.aggregate d hd hkind) hgood
  · obtain ⟨p, hcallbacks, hsame⟩ := h.single d hd (Bool.eq_false_iff.2 hkind)
    have hresults : results provider d answer = answer.map (fun data => [data]) := if_neg hkind
    unfold BatchedProvider.finishDispatch
    rw [hresults, hcallbacks]
    refine htaken.settleAll_single ⟨fun data hdata => ?_, fun hall => ?_⟩
    · rw [← hsame]
      exact hgood.result data hdata
    · rw [← hsame]
      exact hgood.own hall

theorem Answered.setChainId {chainId : ℕ} (h : s.Answered provider calm)
    (hs : s.setChainId chainId = .ok s') : s'.Answered provider calm := by
  unfold BatchedProvider.setChainId at hs
  split_ifs at hs
  cases pure_eq_ok.1 hs
  exact ⟨fun address haddress => ⟨chainId, haddress⟩, h.settled, h.batch, h.single, h.aggregate⟩

/-- One case for each event. -/
theorem Answered.step {e : Event} (hf : Faithful provider) (h : s.Answered provider calm)
    (haccounted : s.Accounted []) (hdispatches : s.Dispatches provider calm e)
    (hs : s.step provider e = .ok s') : s'.Answered provider calm := by
  cases e with
  | setChainId chainId => exact h.setChainId hs
  | call now request blockTag =>
    cases pure_eq_ok.1 hs
    exact h.startCall
  | resume i =>
    obtain ⟨p, hi, hs⟩ := bind_eq_ok.1 hs
    cases pure_eq_ok.1 hs
    have hready : s.multicall ≠ none := by
      intro hnone
      have hi := present_eq_ok.1 hi
      rw [(haccounted.ready hnone).1] at hi
      cases hi
    exact Answered.resumeCall ⟨h.known, h.settled, h.batch, h.single, h.aggregate⟩ hready
  | timeout id now =>
    obtain ⟨_, -, hs⟩ := bind_eq_ok.1 hs
    cases pure_eq_ok.1 hs
    exact h.dispatchCalls hf (fun hnone => (haccounted.ready hnone).2) hdispatches
  | complete i =>
    obtain ⟨p, -, hs⟩ := bind_eq_ok.1 hs
    cases pure_eq_ok.1 hs
    exact Answered.settle ⟨h.known, h.settled, h.batch, h.single, h.aggregate⟩
      (good_outcome provider calm p)
  | finish i =>
    obtain ⟨d, hi, hs⟩ := bind_eq_ok.1 hs
    obtain ⟨answer, hanswer, hs⟩ := bind_eq_ok.1 hs
    cases pure_eq_ok.1 hs
    exact h.finishDispatch hf (present_eq_ok.1 hi) (present_eq_ok.1 hanswer)

end Outcomes

section Runs

variable {calm : Prop}

/-- The states of an object, from its creation on. -/
def Reached (provider : Provider ε) (allowed : BatchedProvider ε → Event → Prop) :
    BatchedProvider ε → Prop :=
  Reachable (step provider) (fun s => s = {}) allowed

theorem accounted_start : ({} : BatchedProvider ε).Accounted [] where
  ids := rfl
  balanced := fun _ => rfl
  ready := fun _ => ⟨rfl, rfl⟩
  paired := rfl
  timed := fun hne => absurd rfl hne
  dispatched := fun _ hd => absurd hd List.not_mem_nil

theorem answered_start : ({} : BatchedProvider ε).Answered provider calm where
  known := fun _ haddress => by cases haddress
  settled := fun _ hentry => absurd hentry List.not_mem_nil
  batch := .nil
  single := fun _ hd => absurd hd List.not_mem_nil
  aggregate := fun _ hd => absurd hd List.not_mem_nil

theorem Reached.accounted {allowed : BatchedProvider ε → Event → Prop}
    (h : Reached provider allowed s) : s.Accounted [] := by
  refine Reachable.invariant (I := fun s => s.Accounted []) (fun s hs => ?_)
    (fun s e s' hs _ hstep => hs.step hstep) h
  rw [hs]
  exact accounted_start

theorem Reached.answered {allowed : BatchedProvider ε → Event → Prop} (hf : Faithful provider)
    (hallowed : ∀ s e, allowed s e → s.Dispatches provider calm e)
    (h : Reached provider allowed s) : s.Answered provider calm := by
  have hboth := Reachable.invariant
    (I := fun s => s.Accounted [] ∧ Answered provider calm s)
    (fun s hs => ?_) (fun s e s' hs he hstep => ?_) h
  · exact hboth.2
  · rw [hs]
    exact ⟨accounted_start, answered_start⟩
  · exact ⟨hs.1.step hstep, hs.2.step hf hs.1 (hallowed s e he) hstep⟩

/-- How often a call has been settled. -/
def timesSettled (s : BatchedProvider ε) (p : Promise) : ℕ := (s.settled.map Prod.fst).count p

theorem Accounted.timesSettled_le_one (h : s.Accounted []) (p : Promise) :
    s.timesSettled p ≤ 1 := by
  have hcount := h.balanced p
  have hone := List.nodup_iff_count_le_one.1 h.nodup p
  unfold held at hcount
  unfold timesSettled
  omega

/-- In every order of events a call is settled at most once, and once the turns of the loop that are
still due have been taken, exactly once. -/
theorem call_settles (h : Reached provider (fun _ _ => True) s) :
    (∀ p, s.timesSettled p ≤ 1) ∧
    ∃ es : List Event, (∀ e ∈ es, e.internal = true) ∧
      ∃ s', run (step provider) s es = .ok s' ∧ ∀ p ∈ s.created, s'.timesSettled p = 1 := by
  refine ⟨h.accounted.timesSettled_le_one, ?_⟩
  obtain ⟨es, hes, s', hrun, h', hsub, hsettled⟩ := h.accounted.drains provider
  refine ⟨es, hes, s', hrun, fun p hp => ?_⟩
  have hpos : 0 < s'.timesSettled p := List.count_pos_iff.2 (hsettled p (hsub hp))
  have hle := h'.timesSettled_le_one p
  omega

/-- A call that is resolved is resolved with its own result, in every order of events. As long as no
batch of two or more calls with a reverting one is dispatched, rejections are a call's own too,
whichever calls share its batch. -/
theorem call_outcome (hf : Faithful provider) :
    (∀ s, Reached provider (fun _ _ => True) s → ∀ p data, (p, .ok data) ∈ s.settled →
      provider.outcome p = .ok data) ∧
    (∀ s, Reached provider (Dispatches provider True) s → ∀ p outcome, (p, outcome) ∈ s.settled →
      outcome = provider.outcome p) := by
  constructor
  · intro s h p data hsettled
    have hany : ∀ (s : BatchedProvider ε) (e : Event), s.Dispatches provider False e := by
      intro s e
      cases e with
      | timeout id now => exact False.elim
      | _ => trivial
    exact ((h.answered hf (fun s e _ => hany s e)).settled _ hsettled).result data rfl
  · intro s h p outcome hsettled
    exact ((h.answered hf (fun _ _ he => he)).settled _ hsettled).own trivial

end Runs

section Sample

/-- Each character is marked, and the end of the text too. -/
def sampleEncode (text : List Char) : List Char := text.flatMap (fun c => ['1', c]) ++ ['0']

def sampleDecode : List Char → List Char → List (List Char)
  | text, '1' :: c :: rest => sampleDecode (text ++ [c]) rest
  | text, _ :: rest => text :: sampleDecode [] rest
  | _, [] => []

theorem sampleDecode_encode (start text rest : List Char) :
    sampleDecode start (sampleEncode text ++ rest) =
      (start ++ text) :: sampleDecode [] rest := by
  unfold sampleEncode
  induction text generalizing start with
  | nil =>
    rw [List.append_nil]
    rfl
  | cons c text ih =>
    have hstep := ih (start ++ [c])
    rw [List.append_assoc start [c] text] at hstep
    exact hstep

theorem sampleDecode_flatMap (texts : List (List Char)) :
    sampleDecode [] (texts.flatMap sampleEncode) = texts := by
  induction texts with
  | nil => rfl
  | cons text texts ih =>
    rw [List.flatMap_cons, sampleDecode_encode, ih, List.nil_append]

/-- The text of a call, with a mark if the call reverts. -/
def sampleText (call : CallRequest) : List Char :=
  match call.callData with
  | .string text => text.toList
  | .array _ => ['!']

def sampleCalls (calls : List CallRequest) : List Char :=
  "0x252dba42".toList ++ calls.flatMap (fun call => sampleEncode (sampleText call))

/-- Echoes a text unless it has a mark. -/
def sampleProvider : Provider Unit where
  superCall request _ :=
    if '!' ∈ sampleText request.call then .error ()
    else .ok (String.ofList (sampleText request.call))
  encodeAggregate calls := .string (String.ofList (sampleCalls calls))
  decodeAggregate data :=
    .ok ((sampleDecode [] ((data.getD "").toList.drop 10)).map String.ofList)
  typeError := ()

theorem mem_sampleCalls (calls : List CallRequest) :
    '!' ∈ sampleCalls calls ↔ ∃ call ∈ calls, '!' ∈ sampleText call := by
  unfold sampleCalls sampleEncode
  simp

theorem sampleText_aggregate (address : String) (calls : List CallRequest) :
    sampleText (TransactionRequest.call
      { target := address, data := sampleProvider.encodeAggregate calls }) =
      sampleCalls calls := by
  unfold sampleText TransactionRequest.call sampleProvider
  exact String.toList_ofList

theorem sampleProvider_faithful : Faithful sampleProvider where
  latest := fun _ => rfl
  sender := fun _ _ _ => rfl
  aggregate_ok := by
    intro chainId address calls blockTag results _ hresults
    have hcalls : (∀ call ∈ calls, '!' ∉ sampleText call) ∧
        results = calls.map (fun call => String.ofList (sampleText call)) := by
      induction hresults with
      | nil => exact ⟨fun _ hcall => absurd hcall List.not_mem_nil, rfl⟩
      | @cons call result calls results hcall _ ih =>
        unfold sampleProvider at hcall
        dsimp only at hcall
        split_ifs at hcall with hmark
        cases hcall
        refine ⟨?_, ?_⟩
        · intro call' hcall'
          rcases List.mem_cons.1 hcall' with rfl | hcall'
          · exact hmark
          · exact ih.1 call' hcall'
        · rw [List.map_cons, ih.2]
          rfl
    obtain ⟨hnone, rfl⟩ := hcalls
    have hmark : '!' ∉ sampleCalls calls := by
      intro hmem
      obtain ⟨call, hcall, hmem⟩ := (mem_sampleCalls calls).1 hmem
      exact hnone call hcall hmem
    refine ⟨String.ofList (sampleCalls calls), ?_, ?_⟩
    · change (if '!' ∈ sampleText _ then _ else _) = _
      rw [sampleText_aggregate, if_neg hmark]
    · have htexts := sampleDecode_flatMap (calls.map sampleText)
      rw [List.flatMap_map] at htexts
      have hdrop : (sampleCalls calls).drop 10 =
          calls.flatMap (fun call => sampleEncode (sampleText call)) := rfl
      unfold sampleProvider
      dsimp only [Option.getD_some]
      rw [String.toList_ofList, hdrop, htexts, List.map_map]
      rfl
  aggregate_error := by
    intro chainId address calls blockTag _ hcall
    obtain ⟨call, hcall, error, herror⟩ := hcall
    have hmark : '!' ∈ sampleCalls calls := by
      unfold sampleProvider at herror
      dsimp only at herror
      split_ifs at herror with hmem
      exact (mem_sampleCalls calls).2 ⟨call, hcall, hmem⟩
    refine ⟨(), ?_⟩
    change (if '!' ∈ sampleText _ then _ else _) = _
    rw [sampleText_aggregate, if_pos hmark]

instance (provider : Provider ε) (p : Promise) : Decidable (Reverts provider p) :=
  match h : provider.superCall p.request p.blockTag with
  | .ok _ => isFalse (fun ⟨_, herror⟩ => by rw [h] at herror; cases herror)
  | .error error => isTrue ⟨error, h⟩

instance (provider : Provider ε) (s : BatchedProvider ε) (e : Event) :
    Decidable (s.Dispatches provider True e) :=
  match e with
  | .setChainId _ => isTrue trivial
  | .call _ _ _ => isTrue trivial
  | .resume _ => isTrue trivial
  | .timeout _ _ => inferInstanceAs (Decidable (True → _ → ∀ p ∈ s.batched.callbacks, ¬_))
  | .complete _ => isTrue trivial
  | .finish _ => isTrue trivial

/-- Two calls are queued. -/
def sampleQueue (data : String) : List Event :=
  [.setChainId 1, .call 0 { target := "0x01", data := .string data } none,
    .call 5 { target := "0x02", data := .string "0x" } (some (.name "latest")), .resume 0,
    .resume 0]

def sampleFlush : List Event := [.timeout 1 20, .resume 0, .complete 0, .finish 0]

theorem call_settles_of_sample : ∃ s,
    run (checked (step sampleProvider) (fun _ _ => True)) {} (sampleQueue "0x") = .ok s ∧
    s.created.length = 2 ∧ ∃ es s', run (step sampleProvider) s es = .ok s' ∧
    ∀ p ∈ s.created, s'.timesSettled p = 1 := by
  obtain ⟨s, hs, hlength⟩ : ∃ s,
      run (checked (step sampleProvider) (fun _ _ => True)) {} (sampleQueue "0x") = .ok s ∧
      s.created.length = 2 := by
    decide +kernel
  have hreached : Reached sampleProvider (fun _ _ => True) s :=
    Reachable.run_checked (.start rfl) hs
  obtain ⟨-, es, -, s', hrun, hsettled⟩ := call_settles hreached
  exact ⟨s, hs, hlength, es, s', hrun, hsettled⟩

theorem call_outcome_of_sample : ∃ s,
    run (checked (step sampleProvider) (Dispatches sampleProvider True)) {}
      (sampleQueue "0x" ++ sampleFlush) = .ok s ∧
    s.settled.length = 3 ∧ ∀ entry ∈ s.settled, entry.2 = sampleProvider.outcome entry.1 := by
  obtain ⟨s, hs, hlength⟩ : ∃ s,
      run (checked (step sampleProvider) (Dispatches sampleProvider True)) {}
        (sampleQueue "0x" ++ sampleFlush) = .ok s ∧ s.settled.length = 3 := by
    decide +kernel
  exact ⟨s, hs, hlength, fun entry hentry =>
    (call_outcome sampleProvider_faithful).2 s (Reachable.run_checked (.start rfl) hs) entry.1
      entry.2 hentry⟩

/-- A call is rejected because of another one in its batch. -/
example : ∃ s, run (step sampleProvider) {} (sampleQueue "!" ++ sampleFlush) = .ok s ∧
    ∃ entry ∈ s.settled, entry.2.isOk = false ∧
      sampleProvider.outcome entry.1 = .ok (some "0x") := by
  decide +kernel

end Sample

end BatchedProvider

end Usdd.Providers

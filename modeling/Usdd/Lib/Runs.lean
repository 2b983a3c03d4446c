import Usdd.Lib.Transaction

/-!
# Runs of a system of transactions

A system has states, calls and a `step` that a call either completes or reverts. Only completed
calls change the state, so a run is a list of completed calls. `Reachable step initial allowed`
holds of the states at the end of a run whose every call is `allowed` in the state before it. An
invariant needs to hold initially and to be kept by one step.
-/

namespace Transaction

variable {σ τ : Type}

def run (step : σ → τ → Tx σ) : σ → List τ → Tx σ
  | s, [] => .ok s
  | s, t :: ts => step s t >>= fun s' => run step s' ts

/-- A step that reverts a call which is not allowed. -/
def checked (step : σ → τ → Tx σ) (allowed : σ → τ → Prop) [DecidableRel allowed] (s : σ)
    (t : τ) : Tx σ := do
  require (allowed s t) "This call is not allowed"
  step s t

inductive Reachable (step : σ → τ → Tx σ) (initial : σ → Prop) (allowed : σ → τ → Prop) : σ → Prop
  | start {s : σ} (h : initial s) : Reachable step initial allowed s
  | next {s s' : σ} {t : τ} (h : Reachable step initial allowed s) (ha : allowed s t)
      (hs : step s t = .ok s') : Reachable step initial allowed s'

variable {step : σ → τ → Tx σ} {initial : σ → Prop} {allowed : σ → τ → Prop}

theorem Reachable.invariant {I : σ → Prop} (h₀ : ∀ s, initial s → I s)
    (h₁ : ∀ s t s', I s → allowed s t → step s t = .ok s' → I s') {s : σ}
    (h : Reachable step initial allowed s) : I s := by
  induction h with
  | start h => exact h₀ _ h
  | next _ ha hs ih => exact h₁ _ _ _ ih ha hs

theorem Reachable.run_checked [DecidableRel allowed] {s s' : σ} {ts : List τ}
    (h : Reachable step initial allowed s) (hr : run (checked step allowed) s ts = .ok s') :
    Reachable step initial allowed s' := by
  induction ts generalizing s with
  | nil =>
      cases hr
      exact h
  | cons t ts ih =>
      obtain ⟨s₁, hs, hr⟩ := bind_eq_ok.1 hr
      obtain ⟨_, ha, hs⟩ := bind_eq_ok.1 hs
      exact ih (h.next (require_eq_ok.1 ha) hs) hr

theorem run_invariant {I : σ → Prop} (h : ∀ s t s', I s → step s t = .ok s' → I s') {s s' : σ}
    {ts : List τ} (hs : I s) (hr : run step s ts = .ok s') : I s' := by
  induction ts generalizing s with
  | nil =>
      cases hr
      exact hs
  | cons t ts ih =>
      obtain ⟨s₁, hs₁, hr⟩ := bind_eq_ok.1 hr
      exact ih (h s t s₁ hs hs₁) hr

end Transaction

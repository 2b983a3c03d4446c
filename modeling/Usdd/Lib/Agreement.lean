import Usdd.Lib.Transaction

/-!
# Two calls that agree

Two ways to write one call are the same as long as every step of one is the step of the other. Where
a step may differ they still agree unless what they return has a property, which the rest of either
call keeps.
-/

namespace Transaction

variable {α β : Type} {x y : Tx α} {f g : α → Tx β}

theorem bind_congr_ok (h : ∀ a, x = .ok a → f a = g a) : (x >>= f) = x >>= g := by
  cases x with
  | error e => rfl
  | ok a => exact h a rfl

/-- The calls are the same, or whatever either returns satisfies `P`. -/
def AgreeUnless (P : α → Prop) (x y : Tx α) : Prop := x = y ∨ Ensures P x ∧ Ensures P y

namespace AgreeUnless

variable {P : α → Prop} {Q : β → Prop}

theorem of_eq (h : x = y) : AgreeUnless P x y := Or.inl h

/-- After a common step. -/
theorem bind (h : ∀ a, x = .ok a → AgreeUnless Q (f a) (g a)) :
    AgreeUnless Q (x >>= f) (x >>= g) := by
  cases x with
  | error e => exact of_eq rfl
  | ok a => exact h a rfl

/-- Before a common rest. -/
theorem bind_left (h : AgreeUnless P x y) (hf : ∀ a, P a → Ensures Q (f a)) :
    AgreeUnless Q (x >>= f) (y >>= f) := by
  rcases h with heq | ⟨hx, hy⟩
  · exact of_eq (congrArg (· >>= f) heq)
  · right
    rw [ensures_bind_iff, ensures_bind_iff]
    exact ⟨hx.mono hf, hy.mono hf⟩

/-- A step that may differ, if the rests agree after the common step and keep the property. -/
theorem bind_both (h : AgreeUnless P x y) (hcommon : ∀ a, x = .ok a → AgreeUnless Q (f a) (g a))
    (hf : ∀ a, P a → Ensures Q (f a)) (hg : ∀ a, P a → Ensures Q (g a)) :
    AgreeUnless Q (x >>= f) (y >>= g) := by
  rcases h with heq | ⟨hx, hy⟩
  · subst heq
    exact bind hcommon
  · right
    rw [ensures_bind_iff, ensures_bind_iff]
    exact ⟨hx.mono hf, hy.mono hg⟩

end AgreeUnless

end Transaction

import Mathlib.Tactic

/-!
# Calls that may revert

A call either returns a value or reverts with a reason, and a revert discards every change the
call has made. `Tx` is the monad of such calls. The lemmas named `_eq_ok` say exactly when a call
succeeds and with what value, so that a successful call can be taken apart one step at a time;
`Ensures` is the judgement on what a call returns and `Avoids` the dual one on the reasons with which
it may revert. Their `_iff` lemmas take a call apart down to the checks it makes.

`SafeMath` holds the two checked operations on unbounded naturals. Addition and multiplication
are the ordinary ones.
-/

namespace Transaction

/-- A failed `require` carries its text. A failed `assert` carries the condition it asserts. -/
inductive Revert
  | message (text : String)
  | assertion (condition : String)
  | outOfGas
  deriving DecidableEq, Repr

abbrev Tx := Except Revert

def require (c : Prop) [Decidable c] (text : String) : Tx Unit :=
  if c then .ok () else .error (.message text)

def assert (c : Prop) [Decidable c] (condition : String) : Tx Unit :=
  if c then .ok () else .error (.assertion condition)

namespace SafeMath

def sub (a b : ℕ) (text : String := "SafeMath: subtraction overflow") : Tx ℕ :=
  if b ≤ a then .ok (a - b) else .error (.message text)

def div (a b : ℕ) : Tx ℕ :=
  if b = 0 then .error (.message "SafeMath: division by zero") else .ok (a / b)

end SafeMath

variable {α β : Type}

@[simp] theorem bind_eq_ok {x : Tx α} {f : α → Tx β} {b : β} :
    (x >>= f) = .ok b ↔ ∃ a, x = .ok a ∧ f a = .ok b := by
  cases x with
  | error e => simp [bind, Except.bind]
  | ok a => simp [bind, Except.bind]

theorem ok_bind (a : α) (f : α → Tx β) : ((.ok a : Tx α) >>= f) = f a := rfl

@[simp] theorem pure_eq_ok {a b : α} : (pure a : Tx α) = .ok b ↔ a = b := by
  simp [pure, Except.pure]

@[simp] theorem require_eq_ok {c : Prop} [Decidable c] {text : String} {u : Unit} :
    require c text = .ok u ↔ c := by
  unfold require
  split_ifs with h <;> simp [h]

@[simp] theorem assert_eq_ok {c : Prop} [Decidable c] {text : String} {u : Unit} :
    assert c text = .ok u ↔ c := by
  unfold assert
  split_ifs with h <;> simp [h]

@[simp] theorem sub_eq_ok {a b c : ℕ} {text : String} :
    SafeMath.sub a b text = .ok c ↔ b ≤ a ∧ a - b = c := by
  unfold SafeMath.sub
  split_ifs with h <;> simp [h]

@[simp] theorem div_eq_ok {a b c : ℕ} : SafeMath.div a b = .ok c ↔ b ≠ 0 ∧ a / b = c := by
  unfold SafeMath.div
  split_ifs with h <;> simp [h]

theorem ite_eq_ok {c : Prop} [Decidable c] {x y : Tx α} {b : α} :
    (if c then x else y) = .ok b ↔ (c ∧ x = .ok b) ∨ (¬ c ∧ y = .ok b) := by
  split_ifs with h <;> simp [h]

/-- What a call returns can be tested by running it. -/
instance decidableReturns (x : Tx α) (p : α → Prop) [DecidablePred p] :
    Decidable (∃ a, x = .ok a ∧ p a) :=
  match x with
  | .ok a => decidable_of_iff (p a) ⟨fun h => ⟨a, rfl, h⟩, fun ⟨_, h, hp⟩ => by cases h; exact hp⟩
  | .error e => isFalse (fun ⟨_, h, _⟩ => by cases h)

instance decidableReverts (x : Tx α) (e : Revert) : Decidable (x = .error e) :=
  match x with
  | .ok _ => isFalse (fun h => by cases h)
  | .error e' => decidable_of_iff (e' = e) ⟨fun h => h ▸ rfl, fun h => by cases h; rfl⟩

/-- The call does not revert for a reason in `bad`. -/
def Avoids (bad : Revert → Prop) (x : Tx α) : Prop := ∀ e, x = .error e → ¬ bad e

section Avoids

variable {bad : Revert → Prop}

theorem avoids_ok (a : α) : Avoids bad (.ok a : Tx α) := by
  intro e h
  cases h

theorem avoids_pure (a : α) : Avoids bad (pure a : Tx α) := avoids_ok a

theorem avoids_bind {x : Tx α} {f : α → Tx β} (hx : Avoids bad x)
    (hf : ∀ a, x = .ok a → Avoids bad (f a)) : Avoids bad (x >>= f) := by
  cases x with
  | error e =>
      intro e' h
      have he : e = e' := by simpa [bind, Except.bind] using h
      exact he ▸ hx e rfl
  | ok a => exact hf a rfl

theorem avoids_ite {c : Prop} [Decidable c] {x y : Tx α} (hx : c → Avoids bad x)
    (hy : ¬ c → Avoids bad y) : Avoids bad (if c then x else y) := by
  split_ifs with h
  · exact hx h
  · exact hy h

@[simp] theorem avoids_pure_iff (a : α) : Avoids bad (pure a : Tx α) ↔ True :=
  iff_true_intro (avoids_pure a)

/-- A call avoids what its first step avoids and the rest avoids after it. -/
@[simp] theorem avoids_bind_iff {x : Tx α} {f : α → Tx β} :
    Avoids bad (x >>= f) ↔ Avoids bad x ∧ ∀ a, x = .ok a → Avoids bad (f a) := by
  cases x with
  | error e => simp [Avoids, bind, Except.bind]
  | ok a => simp [Avoids, bind, Except.bind]

@[simp] theorem avoids_map_iff {x : Tx α} {f : α → β} : Avoids bad (f <$> x) ↔ Avoids bad x := by
  cases x with
  | error e => simp [Avoids, Functor.map, Except.map]
  | ok a => simp [Avoids, Functor.map, Except.map]

@[simp] theorem avoids_ite_iff {c : Prop} [Decidable c] {x y : Tx α} :
    Avoids bad (if c then x else y) ↔ (c → Avoids bad x) ∧ (¬ c → Avoids bad y) := by
  split_ifs with h <;> simp [h]

@[simp] theorem avoids_require_iff {c : Prop} [Decidable c] {text : String} :
    Avoids bad (require c text) ↔ c ∨ ¬ bad (.message text) := by
  unfold require
  split_ifs with h <;> simp [Avoids, h]

@[simp] theorem avoids_assert_iff {c : Prop} [Decidable c] {text : String} :
    Avoids bad (assert c text) ↔ c ∨ ¬ bad (.assertion text) := by
  unfold assert
  split_ifs with h <;> simp [Avoids, h]

@[simp] theorem avoids_sub_iff {a b : ℕ} {text : String} :
    Avoids bad (SafeMath.sub a b text) ↔ b ≤ a ∨ ¬ bad (.message text) := by
  unfold SafeMath.sub
  split_ifs with h <;> simp [Avoids, h]

@[simp] theorem avoids_div_iff {a b : ℕ} :
    Avoids bad (SafeMath.div a b) ↔
      b ≠ 0 ∨ ¬ bad (.message "SafeMath: division by zero") := by
  unfold SafeMath.div
  split_ifs with h <;> simp [Avoids, h]

end Avoids

/-- If the call returns, what it returns satisfies `p`. -/
def Ensures (p : α → Prop) (x : Tx α) : Prop := ∀ a, x = .ok a → p a

section Ensures

variable {p q : α → Prop}

@[simp] theorem ensures_pure_iff {a : α} : Ensures p (pure a) ↔ p a := by
  simp [Ensures]

@[simp] theorem ensures_bind_iff {r : β → Prop} {x : Tx α} {f : α → Tx β} :
    Ensures r (x >>= f) ↔ Ensures (fun a => Ensures r (f a)) x := by
  cases x with
  | error e => simp [Ensures, bind, Except.bind]
  | ok a => simp [Ensures, bind, Except.bind]

@[simp] theorem ensures_map_iff {r : β → Prop} {x : Tx α} {f : α → β} :
    Ensures r (f <$> x) ↔ Ensures (fun a => r (f a)) x := by
  cases x with
  | error e => simp [Ensures, Functor.map, Except.map]
  | ok a => simp [Ensures, Functor.map, Except.map]

@[simp] theorem ensures_ite_iff {c : Prop} [Decidable c] {x y : Tx α} :
    Ensures p (if c then x else y) ↔ (c → Ensures p x) ∧ (¬ c → Ensures p y) := by
  split_ifs with h <;> simp [h]

@[simp] theorem ensures_require_iff {r : Unit → Prop} {c : Prop} [Decidable c] {text : String} :
    Ensures r (require c text) ↔ (c → r ()) := by
  simp only [Ensures, require_eq_ok]
  exact ⟨fun h => h (), fun h _ => h⟩

@[simp] theorem ensures_assert_iff {r : Unit → Prop} {c : Prop} [Decidable c] {text : String} :
    Ensures r (assert c text) ↔ (c → r ()) := by
  simp only [Ensures, assert_eq_ok]
  exact ⟨fun h => h (), fun h _ => h⟩

@[simp] theorem ensures_sub_iff {r : ℕ → Prop} {a b : ℕ} {text : String} :
    Ensures r (SafeMath.sub a b text) ↔ (b ≤ a → r (a - b)) := by
  simp [Ensures]

@[simp] theorem ensures_div_iff {r : ℕ → Prop} {a b : ℕ} :
    Ensures r (SafeMath.div a b) ↔ (b ≠ 0 → r (a / b)) := by
  simp [Ensures]

theorem Ensures.mono {x : Tx α} (h : Ensures p x) (hpq : ∀ a, p a → q a) : Ensures q x :=
  fun a ha => hpq a (h a ha)

@[simp] theorem ensures_true {x : Tx α} : Ensures (fun _ => True) x := fun _ _ => trivial

end Ensures

end Transaction

import Mathlib.Algebra.Order.Floor.Semifield
import Mathlib.Data.List.TakeWhile
import Mathlib.Tactic

/-!
# Decimal numerals

A numeral is written with the digits of an integer part, a fraction after a point and an exponent
after an `e`, any of which may be missing. `render` is its text and `value` the number it denotes. A
text renders at most one numeral.
-/

open Nat (ofDigitChars toDigits)

section Digits

def AllDigits (l : List Char) : Prop := ∀ c ∈ l, c.isDigit = true

instance (l : List Char) : Decidable (AllDigits l) :=
  List.decidableBAll (fun c : Char => c.isDigit = true) l

namespace AllDigits

variable {l m rest : List Char} {c : Char}

theorem nil : AllDigits [] := by simp [AllDigits]

theorem append (hl : AllDigits l) (hm : AllDigits m) : AllDigits (l ++ m) := by
  intro c hc
  exact (List.mem_append.1 hc).elim (hl c) (hm c)

theorem take (h : AllDigits l) (n : ℕ) : AllDigits (l.take n) :=
  fun c hc => h c (List.mem_of_mem_take hc)

theorem drop (h : AllDigits l) (n : ℕ) : AllDigits (l.drop n) :=
  fun c hc => h c (List.mem_of_mem_drop hc)

theorem takeWhile (l : List Char) : AllDigits (l.takeWhile Char.isDigit) :=
  fun _ hc => List.mem_takeWhile_imp hc

theorem replicate_zero (n : ℕ) : AllDigits (List.replicate n '0') := by
  intro c hc
  rw [List.eq_of_mem_replicate hc]
  rfl

theorem toDigits (n : ℕ) : AllDigits (toDigits 10 n) :=
  fun _ hc => Nat.isDigit_of_mem_toDigits (by decide) (by decide) hc

theorem notMem (h : AllDigits l) (hc : c.isDigit = false) : c ∉ l := by
  intro hmem
  rw [h c hmem] at hc
  exact Bool.noConfusion hc

/-- The digits end where the text ends or goes on with another character. -/
def Ends (rest : List Char) : Prop := ∀ c ∈ rest.head?, c.isDigit = false

theorem takeWhile_append (h : AllDigits l) (hrest : Ends rest) :
    (l ++ rest).takeWhile Char.isDigit = l := by
  rw [List.takeWhile_append_of_pos h]
  cases rest with
  | nil => exact List.append_nil l
  | cons c rest =>
    have hc : c.isDigit = false := hrest c rfl
    rw [List.takeWhile_cons_of_neg (by simp [hc]), List.append_nil]

theorem dropWhile_append (h : AllDigits l) (hrest : Ends rest) :
    (l ++ rest).dropWhile Char.isDigit = rest := by
  rw [List.dropWhile_append_of_pos h]
  cases rest with
  | nil => rfl
  | cons c rest =>
    have hc : c.isDigit = false := hrest c rfl
    rw [List.dropWhile_cons_of_neg (by simp [hc])]

end AllDigits

variable {l m : List Char}

theorem ofDigitChars_append_zero (l m : List Char) :
    ofDigitChars 10 (l ++ m) 0 = 10 ^ m.length * ofDigitChars 10 l 0 + ofDigitChars 10 m 0 := by
  rw [Nat.ofDigitChars_append, Nat.ofDigitChars_eq_ofDigitChars_zero]

theorem digit_lt {c : Char} (h : c.isDigit = true) : c.toNat - '0'.toNat < 10 := by
  simp only [Char.isDigit, Bool.and_eq_true, decide_eq_true_eq] at h
  have hle : c.toNat ≤ 57 := h.2
  have hzero : '0'.toNat = 48 := rfl
  omega

theorem digit_eq_zero {c : Char} (h : c.isDigit = true) : c.toNat - '0'.toNat = 0 ↔ c = '0' := by
  simp only [Char.isDigit, Bool.and_eq_true, decide_eq_true_eq] at h
  have hle : 48 ≤ c.toNat := h.1
  have hzero : '0'.toNat = 48 := rfl
  constructor
  · intro heq
    have hnat : c.toNat = '0'.toNat := by omega
    rw [← Char.ofNat_toNat c, hnat]
    rfl
  · rintro rfl
    rfl

theorem ofDigitChars_lt (h : AllDigits l) : ofDigitChars 10 l 0 < 10 ^ l.length := by
  induction l with
  | nil => simp
  | cons c l ih =>
    have hc := digit_lt (h c List.mem_cons_self)
    have hl := ih (fun d hd => h d (List.mem_cons_of_mem c hd))
    rw [Nat.ofDigitChars_cons, Nat.ofDigitChars_eq_ofDigitChars_zero, List.length_cons, pow_succ]
    have hmul : 10 ^ l.length * (10 * 0 + (c.toNat - '0'.toNat)) ≤ 10 ^ l.length * 9 :=
      Nat.mul_le_mul_left _ (by omega)
    omega

theorem ofDigitChars_eq_zero (h : AllDigits l) : ofDigitChars 10 l 0 = 0 ↔ ∀ c ∈ l, c = '0' := by
  induction l with
  | nil => simp
  | cons c l ih =>
    have hc := digit_eq_zero (h c List.mem_cons_self)
    have hl := ih (fun d hd => h d (List.mem_cons_of_mem c hd))
    rw [Nat.ofDigitChars_cons, Nat.ofDigitChars_eq_ofDigitChars_zero, Nat.add_eq_zero_iff, hl,
      Nat.mul_eq_zero, List.forall_mem_cons, ← hc]
    have hpow : 10 ^ l.length ≠ 0 := (Nat.pow_pos (by decide)).ne'
    constructor
    · rintro ⟨hzero, hall⟩
      exact ⟨by omega, hall⟩
    · rintro ⟨hzero, hall⟩
      exact ⟨Or.inr (by omega), hall⟩

theorem ofDigitChars_take (h : AllDigits l) (p : ℕ) :
    ofDigitChars 10 (l.take p) 0 = ofDigitChars 10 l 0 / 10 ^ (l.length - p) := by
  have hsplit := ofDigitChars_append_zero (l.take p) (l.drop p)
  have hlt := ofDigitChars_lt (h.drop p)
  rw [List.take_append_drop] at hsplit
  rw [List.length_drop] at hsplit hlt
  rw [hsplit, Nat.mul_add_div (Nat.pow_pos (by decide)), Nat.div_eq_of_lt hlt, Nat.add_zero]

/-- A fraction that is scaled by `10 ^ n` stays below one when its first `n` digits are zero. -/
theorem ofDigitChars_mul_lt_iff (h : AllDigits l) (n : ℕ) :
    ofDigitChars 10 l 0 * 10 ^ n < 10 ^ l.length ↔ ∀ c ∈ l.take n, c = '0' := by
  rw [← ofDigitChars_eq_zero (h.take n)]
  rcases le_total n l.length with hn | hn
  · have hsplit := ofDigitChars_append_zero (l.take n) (l.drop n)
    have hlt := ofDigitChars_lt (h.drop n)
    rw [List.take_append_drop] at hsplit
    rw [List.length_drop] at hsplit hlt
    have hpow : 10 ^ (l.length - n) * 10 ^ n = 10 ^ l.length := by
      rw [← pow_add, Nat.sub_add_cancel hn]
    have hrest : ofDigitChars 10 (l.drop n) 0 * 10 ^ n < 10 ^ l.length := by
      rw [← hpow]
      exact Nat.mul_lt_mul_of_pos_right hlt (Nat.pow_pos (by decide))
    have hvalue : ofDigitChars 10 l 0 * 10 ^ n =
        10 ^ l.length * ofDigitChars 10 (l.take n) 0 + ofDigitChars 10 (l.drop n) 0 * 10 ^ n := by
      rw [hsplit, ← hpow]
      ring
    rw [hvalue]
    constructor
    · intro hlt
      by_contra hne
      have hge := Nat.le_mul_of_pos_right (10 ^ l.length) (Nat.pos_of_ne_zero hne)
      omega
    · intro hzero
      rw [hzero, Nat.mul_zero, Nat.zero_add]
      exact hrest
  · rw [List.take_of_length_le hn]
    have hpow : 10 ^ l.length ≤ 10 ^ n := Nat.pow_le_pow_right (by decide) hn
    constructor
    · intro hlt
      by_contra hne
      have hge := Nat.le_mul_of_pos_left (10 ^ n) (Nat.pos_of_ne_zero hne)
      omega
    · intro hzero
      rw [hzero, Nat.zero_mul]
      exact Nat.pow_pos (by decide)

end Digits

inductive ExponentSign
  | none
  | plus
  | minus
  deriving DecidableEq

namespace ExponentSign

def render : ExponentSign → List Char
  | none => []
  | plus => ['+']
  | minus => ['-']

end ExponentSign

structure Exponent where
  sign : ExponentSign
  digits : List Char
  digits_ne_nil : digits ≠ []
  allDigits : AllDigits digits

namespace Exponent

variable (e : Exponent)

def magnitude : ℕ := ofDigitChars 10 e.digits 0

def render : List Char := 'e' :: (e.sign.render ++ e.digits)

/-- How far the exponent moves the point to the right. -/
def shift : ℕ := if e.sign = .minus then 0 else e.magnitude

def factor : ℚ := if e.sign = .minus then (10 ^ e.magnitude)⁻¹ else 10 ^ e.magnitude

theorem sign_render_injective {sign sign' : ExponentSign} {ds ds' : List Char}
    (hds : AllDigits ds) (hds' : AllDigits ds') (h : sign.render ++ ds = sign'.render ++ ds') :
    sign = sign' ∧ ds = ds' := by
  have hhead : ∀ {c : Char} {l r : List Char}, c.isDigit = false → AllDigits l → l ≠ c :: r := by
    rintro c l r hc hl rfl
    exact hl.notMem hc List.mem_cons_self
  cases sign <;> cases sign'
  case none.none => exact ⟨rfl, h⟩
  case plus.plus => exact ⟨rfl, List.tail_eq_of_cons_eq h⟩
  case minus.minus => exact ⟨rfl, List.tail_eq_of_cons_eq h⟩
  case none.plus => exact absurd h (hhead rfl hds)
  case none.minus => exact absurd h (hhead rfl hds)
  case plus.none => exact absurd h.symm (hhead rfl hds')
  case minus.none => exact absurd h.symm (hhead rfl hds')
  case plus.minus => exact absurd (List.head_eq_of_cons_eq h) (by decide)
  case minus.plus => exact absurd (List.head_eq_of_cons_eq h) (by decide)

theorem render_injective : Function.Injective render := by
  intro e e' h
  obtain ⟨hsign, hdigits⟩ :=
    sign_render_injective e.allDigits e'.allDigits (List.tail_eq_of_cons_eq h)
  cases e
  cases e'
  simp only at hsign hdigits
  subst hsign hdigits
  rfl

end Exponent

structure Numeral where
  integer : List Char
  fraction : Option (List Char)
  exponent : Option Exponent
  integerDigits : AllDigits integer
  fractionDigits : ∀ f ∈ fraction, AllDigits f

namespace Numeral

variable (n : Numeral)

def renderFraction : Option (List Char) → List Char
  | none => []
  | some f => '.' :: f

def renderCoefficient : List Char := n.integer ++ renderFraction n.fraction

def render : List Char := n.renderCoefficient ++ (n.exponent.elim [] Exponent.render)

def decimals : List Char := n.fraction.getD []

def coefficient : ℚ := ofDigitChars 10 (n.integer ++ n.decimals) 0 / 10 ^ n.decimals.length

def shift : ℕ := n.exponent.elim 0 Exponent.shift

def value : ℚ := n.coefficient * n.exponent.elim 1 Exponent.factor

theorem ends_exponent (e : Option Exponent) : AllDigits.Ends (e.elim [] Exponent.render) := by
  intro c hc
  cases e with
  | none => cases hc
  | some e =>
    cases hc
    rfl

theorem ends_fraction (f : Option (List Char)) {rest : List Char} (hrest : AllDigits.Ends rest) :
    AllDigits.Ends (Numeral.renderFraction f ++ rest) := by
  cases f with
  | none => exact hrest
  | some f =>
    intro c hc
    cases hc
    rfl

theorem exponent_render_injective (e e' : Option Exponent)
    (h : e.elim [] Exponent.render = e'.elim [] Exponent.render) : e = e' := by
  cases e with
  | none =>
    cases e' with
    | none => rfl
    | some e' => cases h
  | some e =>
    cases e' with
    | none => cases h
    | some e' => exact congrArg some (Exponent.render_injective h)

theorem fraction_render_injective {f f' : Option (List Char)} {rest rest' : List Char}
    (hf : ∀ d ∈ f, AllDigits d) (hf' : ∀ d ∈ f', AllDigits d) (hrest : AllDigits.Ends rest)
    (hrest' : AllDigits.Ends rest') (hpoint : '.' ∉ rest.head?) (hpoint' : '.' ∉ rest'.head?)
    (h : renderFraction f ++ rest = renderFraction f' ++ rest') : f = f' ∧ rest = rest' := by
  cases f with
  | none =>
    cases f' with
    | none => exact ⟨rfl, h⟩
    | some f' =>
      have hhead : rest = '.' :: (f' ++ rest') := h
      rw [hhead] at hpoint
      exact absurd rfl hpoint
  | some f =>
    cases f' with
    | none =>
      have hhead : '.' :: (f ++ rest) = rest' := h
      rw [← hhead] at hpoint'
      exact absurd rfl hpoint'
    | some f' =>
      have htail : f ++ rest = f' ++ rest' := List.tail_eq_of_cons_eq h
      have hdigits := (hf f rfl).takeWhile_append hrest
      have hdrop := (hf f rfl).dropWhile_append hrest
      rw [htail, (hf' f' rfl).takeWhile_append hrest'] at hdigits
      rw [htail, (hf' f' rfl).dropWhile_append hrest'] at hdrop
      exact ⟨congrArg some hdigits.symm, hdrop.symm⟩

theorem point_notMem_exponent (e : Option Exponent) :
    '.' ∉ (e.elim [] Exponent.render).head? := by
  intro h
  cases e with
  | none => cases h
  | some e => exact absurd (Option.mem_some.1 h) (by decide)

theorem render_injective : Function.Injective render := by
  intro n m h
  have hn := ends_fraction n.fraction (ends_exponent n.exponent)
  have hm := ends_fraction m.fraction (ends_exponent m.exponent)
  unfold render renderCoefficient at h
  rw [List.append_assoc, List.append_assoc] at h
  have hint := n.integerDigits.takeWhile_append hn
  have hrest := n.integerDigits.dropWhile_append hn
  rw [h, m.integerDigits.takeWhile_append hm] at hint
  rw [h, m.integerDigits.dropWhile_append hm] at hrest
  obtain ⟨hfraction, hexponent⟩ := fraction_render_injective m.fractionDigits n.fractionDigits
    (ends_exponent m.exponent) (ends_exponent n.exponent) (point_notMem_exponent m.exponent)
    (point_notMem_exponent n.exponent) hrest
  have he := exponent_render_injective _ _ hexponent
  cases n
  cases m
  simp only at hint hfraction he
  subst hint hfraction he
  rfl

theorem allDigits_decimals : AllDigits n.decimals := by
  unfold decimals
  cases h : n.fraction with
  | none => exact AllDigits.nil
  | some f => exact n.fractionDigits f h

/-- The digits after the `k`-th are what is lost when the coefficient is cut off there. -/
theorem coefficient_split {k : ℕ} (hk : k ≤ n.decimals.length) :
    n.coefficient * 10 ^ k =
      ofDigitChars 10 (n.integer ++ n.decimals.take k) 0 +
        (ofDigitChars 10 (n.decimals.drop k) 0 : ℚ) / 10 ^ (n.decimals.drop k).length := by
  have hsplit := ofDigitChars_append_zero (n.integer ++ n.decimals.take k) (n.decimals.drop k)
  rw [List.append_assoc, List.take_append_drop] at hsplit
  have hlength : n.decimals.length = k + (n.decimals.drop k).length := by
    rw [List.length_drop]
    omega
  unfold coefficient
  rw [hsplit, hlength, pow_add]
  push_cast
  field_simp

theorem coefficient_pad {k : ℕ} (hk : n.decimals.length ≤ k) :
    n.coefficient * 10 ^ k =
      ofDigitChars 10 (n.integer ++ (n.decimals ++ List.replicate (k - n.decimals.length) '0'))
        0 := by
  have hpad := ofDigitChars_append_zero (n.integer ++ n.decimals)
    (List.replicate (k - n.decimals.length) '0')
  rw [List.append_assoc, Nat.ofDigitChars_replicate_zero, Nat.mul_zero, Nat.add_zero,
    List.length_replicate] at hpad
  have hlength : (10 : ℚ) ^ k = 10 ^ n.decimals.length * 10 ^ (k - n.decimals.length) := by
    rw [← pow_add, Nat.add_sub_cancel' hk]
  unfold coefficient
  rw [hpad, hlength]
  push_cast
  field_simp

/-- Scaling up commutes with the floor exactly if no cut off digit moves in front of the point. -/
theorem floor_mul_pow_eq_iff {k : ℕ} (T m : ℕ)
    (hT : n.coefficient * 10 ^ k =
      T + (ofDigitChars 10 (n.decimals.drop k) 0 : ℚ) / 10 ^ (n.decimals.drop k).length) :
    T * 10 ^ m = ⌊n.coefficient * 10 ^ m * 10 ^ k⌋₊ ↔ ∀ c ∈ (n.decimals.drop k).take m, c = '0' := by
  rw [← ofDigitChars_mul_lt_iff (n.allDigits_decimals.drop k) m]
  have hscale : n.coefficient * 10 ^ m * 10 ^ k =
      ↑(T * 10 ^ m) + ((ofDigitChars 10 (n.decimals.drop k) 0 * 10 ^ m : ℕ) : ℚ) /
        ((10 ^ (n.decimals.drop k).length : ℕ) : ℚ) := by
    rw [mul_right_comm, hT]
    push_cast
    ring
  have hfloor : ⌊n.coefficient * 10 ^ m * 10 ^ k⌋₊ =
      T * 10 ^ m + ofDigitChars 10 (n.decimals.drop k) 0 * 10 ^ m /
        10 ^ (n.decimals.drop k).length := by
    rw [hscale, add_comm, Nat.floor_add_natCast (by positivity), Nat.floor_div_eq_div, add_comm]
  rw [hfloor, left_eq_add, Nat.div_eq_zero_iff]
  have hpos : 10 ^ (n.decimals.drop k).length ≠ 0 := (Nat.pow_pos (by decide)).ne'
  exact ⟨fun h => h.resolve_left hpos, Or.inr⟩

theorem floor_div_pow {k : ℕ} (T m : ℕ) (hT : ⌊n.coefficient * 10 ^ k⌋₊ = T) :
    ⌊n.coefficient * (10 ^ m)⁻¹ * 10 ^ k⌋₊ = T / 10 ^ m := by
  have hcast : n.coefficient * (10 ^ m)⁻¹ * 10 ^ k =
      n.coefficient * 10 ^ k / ((10 ^ m : ℕ) : ℚ) := by
    push_cast
    field_simp
  rw [hcast, Nat.floor_div_natCast, hT]

end Numeral

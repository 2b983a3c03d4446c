import Mathlib.Algebra.Order.Round
import Mathlib.Data.List.DropRight
import Usdd.LibBase.DecimalString

/-!
# Decimals as text: printing

Without a precision a decimal is printed with all the digits it needs, and what is printed is read
back as the same decimal. With a precision below 18 half a unit of the last printed place is added
first and the digits behind that place are dropped.
-/

open Transaction
open Nat (ofDigitChars toDigits)

namespace Usdd.LibBase.Decimal

section Printing

variable (d : Decimal)

def padStart (l : List Char) : List Char := List.replicate (precision - l.length) '0' ++ l

/-- The replacement of `/0*$/` by nothing. -/
def trimZeros (l : List Char) : List Char := l.rdropWhile (· == '0')

def toStringWithAutomaticPrecision : List Char :=
  let characteristic := d.bigNumber / digits
  let mantissa := d.bigNumber % digits
  if mantissa = 0 then toDigits 10 characteristic
  else toDigits 10 characteristic ++ '.' :: trimZeros (padStart (toDigits 10 mantissa))

def roundUp (p : ℕ) : ℕ := d.bigNumber + 10 ^ (precision - 1 - p) * 5

def toStringWithPrecision (p : ℤ) : Tx (List Char) :=
  if p < 0 then .error (.message "precision must not be negative")
  else
    let value := if p < precision then d.roundUp p.toNat else d.bigNumber
    let characteristic := value / digits
    let mantissa := value % digits
    if p = 0 then .ok (toDigits 10 characteristic)
    else .ok (toDigits 10 characteristic ++ '.' ::
      (padStart (toDigits 10 mantissa)).take p.toNat)

def toString (p : Option ℤ) : Tx (List Char) :=
  if d = infinity then .ok "∞".toList
  else
    match p with
    | some p => d.toStringWithPrecision p
    | none => .ok d.toStringWithAutomaticPrecision

end Printing

section Digits

variable {l : List Char}

theorem allDigits_padStart (hl : AllDigits l) : AllDigits (padStart l) :=
  (AllDigits.replicate_zero _).append hl

theorem allDigits_trimZeros (hl : AllDigits l) : AllDigits (trimZeros l) :=
  fun c hc => hl c ((List.rdropWhile_prefix _ l).subset hc)

theorem trimZeros_append (l : List Char) :
    trimZeros l ++ List.replicate (l.length - (trimZeros l).length) '0' = l := by
  have hsplit : trimZeros l ++ l.rtakeWhile (· == '0') = l :=
    List.rdropWhile_append_rtakeWhile
  have hlength : (l.rtakeWhile (· == '0')).length = l.length - (trimZeros l).length := by
    have h := congrArg List.length hsplit
    rw [List.length_append] at h
    omega
  have hzeros : l.rtakeWhile (· == '0') =
      List.replicate (l.length - (trimZeros l).length) '0' := by
    rw [List.eq_replicate_iff]
    refine ⟨hlength, ?_⟩
    intro c hc
    have hzero := List.mem_rtakeWhile_imp (p := (· == '0')) hc
    exact eq_of_beq hzero
  rw [← hzeros]
  exact hsplit

/-- Reading pads what printing has trimmed. -/
theorem padOrCut_trimZeros (hl : l.length = precision) : padOrCut (trimZeros l) = l := by
  have happend := trimZeros_append l
  have hle : (trimZeros l).length ≤ precision := by
    have h := congrArg List.length happend
    rw [List.length_append] at h
    omega
  unfold padOrCut
  by_cases hlt : (trimZeros l).length < precision
  · rw [if_pos hlt, ← hl]
    exact happend
  · have hall : (trimZeros l).length = precision := by omega
    rw [hl, hall, Nat.sub_self, List.replicate_zero, List.append_nil] at happend
    rw [if_neg hlt, happend, List.take_of_length_le hl.le]

theorem length_padStart_toDigits {m : ℕ} (hm : m < digits) :
    (padStart (toDigits 10 m)).length = precision := by
  have hle : (toDigits 10 m).length ≤ precision :=
    (Nat.length_toDigits_le_iff (by decide) (by decide)).2 hm
  unfold padStart
  rw [List.length_append, List.length_replicate]
  omega

theorem ofDigitChars_padStart_toDigits (m : ℕ) :
    ofDigitChars 10 (padStart (toDigits 10 m)) 0 = m := by
  unfold padStart
  rw [ofDigitChars_append_zero, Nat.ofDigitChars_replicate_zero, Nat.mul_zero, Nat.mul_zero,
    Nat.zero_add, Nat.ofDigitChars_ten_toDigits]

end Digits

section RoundTrip

variable {d : Decimal}

/-- The numeral printed for an integer part and the digits behind the point. -/
def printed (characteristic : ℕ) (fraction : Option (List Char))
    (h : ∀ f ∈ fraction, AllDigits f) : Numeral :=
  ⟨toDigits 10 characteristic, fraction, none, AllDigits.toDigits characteristic, h⟩

theorem allDigits_some {l : List Char} (h : AllDigits l) : ∀ f ∈ some l, AllDigits f := by
  rintro f hf
  cases hf
  exact h

theorem allDigits_none : ∀ f ∈ (none : Option (List Char)), AllDigits f := by
  intro f hf
  cases hf

theorem printed_none (c : ℕ) : (printed c none allDigits_none).render = toDigits 10 c := by
  unfold Numeral.render Numeral.renderCoefficient printed
  simp [Numeral.renderFraction]

theorem printed_some (c : ℕ) {l : List Char} (h : AllDigits l) :
    (printed c (some l) (allDigits_some h)).render = toDigits 10 c ++ '.' :: l := by
  unfold Numeral.render Numeral.renderCoefficient printed
  simp [Numeral.renderFraction]

theorem printed_ne_nil (c : ℕ) {f : Option (List Char)} (h : ∀ d ∈ f, AllDigits d) :
    (printed c f h).renderCoefficient ≠ [] :=
  List.append_ne_nil_of_left_ne_nil Nat.toDigits_ne_nil _

theorem fromString_printed {c m : ℕ} {f : Option (List Char)} {h : ∀ d ∈ f, AllDigits d}
    (hm : ofDigitChars 10 (padOrCut (f.getD [])) 0 = m) :
    fromString (printed c f h).render = .ok ⟨c * digits + m⟩ := by
  refine fromString_render_eq_ok.2 ⟨printed_ne_nil c h, ?_⟩
  have hdecimals : (printed c f h).decimals = f.getD [] := rfl
  have hint : (printed c f h).integer = toDigits 10 c := rfl
  have hexp : (printed c f h).exponent = none := rfl
  rw [hexp, hdecimals, hint, ofDigitChars_append_zero, hm, Nat.ofDigitChars_ten_toDigits,
    length_padOrCut, Nat.mul_comm]
  rfl

theorem fromString_toStringWithAutomaticPrecision (d : Decimal) :
    fromString d.toStringWithAutomaticPrecision = .ok d := by
  have hlt : d.bigNumber % digits < digits := Nat.mod_lt _ (by decide)
  unfold toStringWithAutomaticPrecision
  by_cases hzero : d.bigNumber % digits = 0
  · rw [if_pos hzero, ← printed_none, fromString_printed (m := 0) (by decide), Nat.add_zero,
      Nat.div_mul_cancel (Nat.dvd_of_mod_eq_zero hzero)]
  · have hdigits := allDigits_trimZeros (allDigits_padStart (AllDigits.toDigits
      (d.bigNumber % digits)))
    have hread : ofDigitChars 10 (padOrCut (trimZeros (padStart (toDigits 10
        (d.bigNumber % digits))))) 0 = d.bigNumber % digits := by
      rw [padOrCut_trimZeros (length_padStart_toDigits hlt), ofDigitChars_padStart_toDigits]
    have hprinted := fromString_printed (c := d.bigNumber / digits) (h := allDigits_some hdigits)
      hread
    rw [printed_some _ hdigits, Nat.div_add_mod'] at hprinted
    rw [if_neg hzero]
    exact hprinted

end RoundTrip

section Rounding

variable {d : Decimal}

def value (d : Decimal) : ℚ := d.bigNumber / 10 ^ precision

theorem printed_value (c : ℕ) {f : Option (List Char)} {h : ∀ d ∈ f, AllDigits d} :
    (printed c f h).value =
      ((10 ^ (f.getD []).length * c + ofDigitChars 10 (f.getD []) 0 : ℕ) : ℚ) /
        10 ^ (f.getD []).length := by
  have hvalue : (printed c f h).value =
      (ofDigitChars 10 (toDigits 10 c ++ f.getD []) 0 : ℚ) / 10 ^ (f.getD []).length * 1 := rfl
  rw [hvalue, mul_one, ofDigitChars_append_zero, Nat.ofDigitChars_ten_toDigits]

/-- Half a unit of the last printed place turns the floor into rounding to the nearest. -/
theorem roundUp_div {p : ℕ} (hp : p < precision) :
    ((d.roundUp p / 10 ^ (precision - p) : ℕ) : ℤ) = round (d.value * 10 ^ p) := by
  have hhalf : 10 ^ (precision - p) = 2 * (10 ^ (precision - 1 - p) * 5) := by
    have hsucc : precision - p = precision - 1 - p + 1 := by omega
    rw [hsucc, pow_succ]
    ring
  have hpow : (10 : ℚ) ^ precision = 10 ^ p * 10 ^ (precision - p) := by
    rw [← pow_add, Nat.add_sub_cancel' hp.le]
  have hscaled : d.value * 10 ^ p + 1 / 2 =
      (d.roundUp p : ℚ) / ((10 ^ (precision - p) : ℕ) : ℚ) := by
    have hcast : ((10 ^ (precision - p) : ℕ) : ℚ) = 2 * (10 ^ (precision - 1 - p) * 5) := by
      rw [hhalf]
      push_cast
      ring
    have hcast' : (10 : ℚ) ^ (precision - p) = 2 * (10 ^ (precision - 1 - p) * 5) := by
      rw [← hcast]
      push_cast
      ring
    unfold value roundUp
    rw [hpow, hcast, hcast']
    push_cast
    field_simp
  rw [round_eq, hscaled, ← Nat.floor_div_eq_div (K := ℚ), Int.natCast_floor_eq_floor (by positivity)]

theorem div_digits_split (v : ℕ) {p : ℕ} (hp : p ≤ precision) :
    10 ^ p * (v / digits) + v % digits / 10 ^ (precision - p) = v / 10 ^ (precision - p) := by
  have hpow : digits = 10 ^ (precision - p) * 10 ^ p := by
    rw [← pow_add, Nat.sub_add_cancel hp]
    rfl
  calc
    10 ^ p * (v / digits) + v % digits / 10 ^ (precision - p)
      = (10 ^ (precision - p) * (10 ^ p * (v / digits)) + v % digits) / 10 ^ (precision - p) :=
        (Nat.mul_add_div (Nat.pow_pos (by decide)) _ _).symm
    _ = (digits * (v / digits) + v % digits) / 10 ^ (precision - p) := by
        rw [← Nat.mul_assoc, ← hpow]
    _ = v / 10 ^ (precision - p) := by rw [Nat.div_add_mod]

/-- What is printed with a precision below 18. -/
theorem toStringWithPrecision_value (d : Decimal) {p : ℕ} (hp : p < precision) :
    ∃ n : Numeral, d.toStringWithPrecision p = .ok n.render ∧
      n.value = round (d.value * 10 ^ p) / 10 ^ p := by
  have hlt : (p : ℤ) < precision := by exact_mod_cast hp
  have hmod : d.roundUp p % digits < digits := Nat.mod_lt _ (by decide)
  have hround := roundUp_div (d := d) hp
  have hsplit := div_digits_split (d.roundUp p) hp.le
  unfold toStringWithPrecision
  rw [if_neg (by omega : ¬(p : ℤ) < 0)]
  simp only [if_pos hlt, Int.toNat_natCast]
  rcases Nat.eq_zero_or_pos p with rfl | hpos
  · refine ⟨printed (d.roundUp 0 / digits) none allDigits_none, ?_, ?_⟩
    · rw [printed_none]
      rfl
    · have hdiv : d.roundUp 0 / 10 ^ (precision - 0) = d.roundUp 0 / digits := rfl
      rw [hdiv] at hround
      rw [printed_value, ← hround]
      change ((10 ^ 0 * (d.roundUp 0 / digits) + 0 : ℕ) : ℚ) / 10 ^ 0 = _
      rw [pow_zero, pow_zero, Nat.one_mul, Nat.add_zero, Int.cast_natCast]
  · have hdigits := (allDigits_padStart (AllDigits.toDigits (d.roundUp p % digits))).take p
    have hlength := length_padStart_toDigits hmod
    refine ⟨printed (d.roundUp p / digits) _ (allDigits_some hdigits), ?_, ?_⟩
    · rw [printed_some _ hdigits, if_neg (by omega : ¬(p : ℤ) = 0)]
    · have htake : ((padStart (toDigits 10 (d.roundUp p % digits))).take p).length = p := by
        rw [List.length_take, hlength, min_eq_left hp.le]
      rw [printed_value, ← hround, Option.getD_some, htake,
        ofDigitChars_take (allDigits_padStart (AllDigits.toDigits _)), hlength,
        ofDigitChars_padStart_toDigits, hsplit, Int.cast_natCast]

/-- A finite decimal is read back from its text, and a text with `p` decimals denotes the multiple
of `10 ^ -p` nearest to it, where a half is rounded up. -/
theorem fromString_toString (hfinite : d ≠ infinity) :
    (∃ s, d.toString none = .ok s ∧ fromString s = .ok d) ∧
    ∀ p : ℕ, p < precision → ∃ s, d.toString (some p) = .ok s ∧
      (∃ n : Numeral, n.render = s) ∧
      ∀ n : Numeral, n.render = s → n.value = round (d.value * 10 ^ p) / 10 ^ p := by
  unfold toString
  rw [if_neg hfinite]
  refine ⟨⟨_, rfl, fromString_toStringWithAutomaticPrecision d⟩, ?_⟩
  intro p hp
  obtain ⟨n, hn, hvalue⟩ := d.toStringWithPrecision_value hp
  rw [if_neg hfinite]
  refine ⟨n.render, hn, ⟨n, rfl⟩, ?_⟩
  intro m hm
  rw [Numeral.render_injective hm, hvalue]

theorem fromString_toString_of_carry :
    (∃ s, (⟨999 * 10 ^ 15⟩ : Decimal).toString none = .ok s ∧
      fromString s = .ok ⟨999 * 10 ^ 15⟩) ∧
    ∀ p : ℕ, p < precision → ∃ s, (⟨999 * 10 ^ 15⟩ : Decimal).toString (some p) = .ok s ∧
      (∃ n : Numeral, n.render = s) ∧
      ∀ n : Numeral, n.render = s →
        n.value = round ((⟨999 * 10 ^ 15⟩ : Decimal).value * 10 ^ p) / 10 ^ p :=
  fromString_toString (by decide)

end Rounding

end Usdd.LibBase.Decimal

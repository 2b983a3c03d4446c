import Usdd.Lib.Numeral
import Usdd.LibBase.Decimal

/-!
# Decimals as text

`fromString` is `Decimal.from` on a string. It reads exactly the renderings of numerals whose
coefficient is not empty. The mantissa is cut off after 18 digits before an exponent is applied, so
that the result is the truncated value unless a positive exponent moves a nonzero digit from
behind the 18th place in front of it.
-/

open Transaction
open Nat (ofDigitChars toDigits)

namespace Usdd.LibBase.Decimal

def precision : ℕ := 18

section Parsing

/-- The optional group `(\.[0-9]*)?` of the format. -/
def stripFraction : List Char → List Char
  | '.' :: rest => rest.dropWhile Char.isDigit
  | rest => rest

/-- The optional sign `[-+]?` of an exponent. -/
def stripSign : List Char → List Char
  | '-' :: rest => rest
  | '+' :: rest => rest
  | rest => rest

/-- The optional group `(e[-+]?[0-9]+)?` up to the end. -/
def matchesExponent : List Char → Bool
  | [] => true
  | 'e' :: rest => !(stripSign rest).isEmpty && (stripSign rest).all Char.isDigit
  | _ => false

def matchesFormat (representation : List Char) : Bool :=
  matchesExponent (stripFraction (representation.dropWhile Char.isDigit))

def checkFormat (representation : List Char) : Tx Unit :=
  if representation = [] ∨ ¬matchesFormat representation then
    .error (.message ("bad decimal format: \"" ++ String.ofList representation ++ "\""))
  else .ok ()

def part (separator : Char) (i : ℕ) (representation : List Char) : List Char :=
  (representation.splitOn separator).getD i []

def padOrCut (mantissa : List Char) : List Char :=
  if mantissa.length < precision then
    mantissa ++ List.replicate (precision - mantissa.length) '0'
  else mantissa.take precision

def fromPlain (representation : List Char) : Decimal :=
  if '.' ∈ representation then
    let characteristic := part '.' 0 representation
    let mantissa := padOrCut (part '.' 1 representation)
    ⟨(if characteristic = [] then 0 else ofDigitChars 10 characteristic 0) * digits +
      ofDigitChars 10 mantissa 0⟩
  else ⟨ofDigitChars 10 representation 0 * digits⟩

/-- What stands before the first `e` has no `e`, so that reading it ends with the plain part. -/
def fromCoefficient (coefficient : List Char) : Tx Decimal := do
  checkFormat coefficient
  pure (fromPlain coefficient)

def fromString (representation : List Char) : Tx Decimal := do
  checkFormat representation
  if 'e' ∈ representation then
    let coefficient := part 'e' 0 representation
    let exponent := part 'e' 1 representation
    if exponent.head? = some '-' then
      let decimal ← fromCoefficient coefficient
      pure ⟨decimal.bigNumber / 10 ^ ofDigitChars 10 (exponent.drop 1) 0⟩
    else
      let exponent := if exponent.head? = some '+' then exponent.drop 1 else exponent
      let decimal ← fromCoefficient coefficient
      pure ⟨decimal.bigNumber * 10 ^ ofDigitChars 10 exponent 0⟩
  else pure (fromPlain representation)

end Parsing

section Format

theorem stripFraction_eq (l : List Char) :
    ∃ f : Option (List Char), (∀ d ∈ f, AllDigits d) ∧
      l = Numeral.renderFraction f ++ stripFraction l := by
  unfold stripFraction
  split
  · rename_i rest
    refine ⟨some (rest.takeWhile Char.isDigit), ?_, ?_⟩
    · intro d hd
      cases hd
      exact AllDigits.takeWhile rest
    · change '.' :: rest = '.' :: (rest.takeWhile Char.isDigit ++ rest.dropWhile Char.isDigit)
      rw [List.takeWhile_append_dropWhile]
  · refine ⟨none, ?_, rfl⟩
    intro d hd
    cases hd

theorem stripSign_eq (l : List Char) :
    ∃ sign : ExponentSign, l = sign.render ++ stripSign l := by
  unfold stripSign
  split
  · exact ⟨.minus, rfl⟩
  · exact ⟨.plus, rfl⟩
  · exact ⟨.none, rfl⟩

theorem matchesExponent_eq {l : List Char} (h : matchesExponent l = true) :
    ∃ e : Option Exponent, l = e.elim [] Exponent.render := by
  unfold matchesExponent at h
  split at h
  · exact ⟨none, rfl⟩
  · rename_i rest
    simp only [Bool.and_eq_true, Bool.not_eq_true', List.isEmpty_eq_false_iff,
      List.all_eq_true] at h
    obtain ⟨sign, hrest⟩ := stripSign_eq rest
    refine ⟨some ⟨sign, stripSign rest, h.1, h.2⟩, ?_⟩
    exact congrArg ('e' :: ·) hrest
  · cases h

theorem exists_render_of_matchesFormat {l : List Char} (h : matchesFormat l = true) :
    ∃ n : Numeral, n.render = l := by
  obtain ⟨f, hf, hfraction⟩ := stripFraction_eq (l.dropWhile Char.isDigit)
  obtain ⟨e, he⟩ := matchesExponent_eq h
  refine ⟨⟨l.takeWhile Char.isDigit, f, e, AllDigits.takeWhile l, hf⟩, ?_⟩
  change l.takeWhile Char.isDigit ++ Numeral.renderFraction f ++ e.elim [] Exponent.render = l
  rw [← he, List.append_assoc, ← hfraction, List.takeWhile_append_dropWhile]

variable (n : Numeral)

theorem stripSign_render {sign : ExponentSign} {ds : List Char} (hds : AllDigits ds) :
    stripSign (sign.render ++ ds) = ds := by
  cases sign with
  | plus => rfl
  | minus => rfl
  | none =>
    change stripSign ds = ds
    unfold stripSign
    split
    · exact absurd (hds '-' List.mem_cons_self) (by decide)
    · exact absurd (hds '+' List.mem_cons_self) (by decide)
    · rfl

theorem stripFraction_render (e : Option Exponent) :
    stripFraction (Numeral.renderFraction n.fraction ++ e.elim [] Exponent.render) =
      e.elim [] Exponent.render := by
  cases h : n.fraction with
  | none => cases e <;> rfl
  | some f => exact (n.fractionDigits f h).dropWhile_append (Numeral.ends_exponent e)

theorem matchesExponent_render (e : Option Exponent) :
    matchesExponent (e.elim [] Exponent.render) = true := by
  cases e with
  | none => rfl
  | some e =>
    change (!(stripSign (e.sign.render ++ e.digits)).isEmpty &&
      (stripSign (e.sign.render ++ e.digits)).all Char.isDigit) = true
    rw [stripSign_render e.allDigits]
    simp only [Bool.and_eq_true, Bool.not_eq_true', List.isEmpty_eq_false_iff, List.all_eq_true]
    exact ⟨e.digits_ne_nil, e.allDigits⟩

theorem matchesFormat_render : matchesFormat n.render = true := by
  have hends := Numeral.ends_fraction n.fraction (Numeral.ends_exponent n.exponent)
  unfold matchesFormat Numeral.render Numeral.renderCoefficient
  rw [List.append_assoc, n.integerDigits.dropWhile_append hends, stripFraction_render,
    matchesExponent_render]

/-- The format is the one of numerals. -/
theorem matchesFormat_iff {l : List Char} :
    matchesFormat l = true ↔ ∃ n : Numeral, n.render = l := by
  constructor
  · exact exists_render_of_matchesFormat
  · rintro ⟨n, rfl⟩
    exact matchesFormat_render n

theorem checkFormat_eq_ok {l : List Char} {u : Unit} :
    checkFormat l = .ok u ↔ l ≠ [] ∧ matchesFormat l = true := by
  unfold checkFormat
  by_cases h : l = [] ∨ ¬matchesFormat l
  · rw [if_pos h]
    simp only [reduceCtorEq, false_iff, not_and]
    exact fun hne hmatch => h.elim hne (fun hnot => hnot hmatch)
  · rw [if_neg h]
    push Not at h
    exact iff_of_true rfl h

end Format

section Reading

variable {n : Numeral} {d : Decimal}

theorem notMem_coefficient {c : Char} (hc : c.isDigit = false) (hpoint : c ≠ '.') :
    c ∉ n.renderCoefficient := by
  intro hmem
  rcases List.mem_append.1 hmem with hint | hfraction
  · exact n.integerDigits.notMem hc hint
  · cases hf : n.fraction with
    | none =>
      rw [hf] at hfraction
      cases hfraction
    | some f =>
      rw [hf] at hfraction
      rcases List.mem_cons.1 hfraction with rfl | hmem
      · exact hpoint rfl
      · exact (n.fractionDigits f hf).notMem hc hmem

theorem notMem_exponent (e : Exponent) : 'e' ∉ e.sign.render ++ e.digits := by
  intro hmem
  rcases List.mem_append.1 hmem with hsign | hdigits
  · cases hs : e.sign <;> rw [hs] at hsign <;> exact absurd hsign (by decide)
  · exact e.allDigits.notMem (by decide) hdigits

theorem part_zero {c : Char} {l m : List Char} (hl : c ∉ l) : part c 0 (l ++ c :: m) = l := by
  unfold part
  rw [List.splitOn_append_cons_self_of_not_mem hl]
  rfl

theorem part_one {c : Char} {l m : List Char} (hl : c ∉ l) (hm : c ∉ m) :
    part c 1 (l ++ c :: m) = m := by
  unfold part
  rw [List.splitOn_append_cons_self_of_not_mem hl, List.splitOn_eq_singleton hm]
  rfl

theorem ofDigitChars_or_zero (l : List Char) :
    (if l = [] then 0 else ofDigitChars 10 l 0) = ofDigitChars 10 l 0 := by
  by_cases h : l = []
  · rw [if_pos h, h]
    rfl
  · rw [if_neg h]

theorem length_padOrCut (l : List Char) : (padOrCut l).length = precision := by
  unfold padOrCut
  split_ifs with h
  · rw [List.length_append, List.length_replicate]
    omega
  · rw [List.length_take]
    omega

/-- The plain part reads the integer digits and 18 decimals as one number. -/
theorem fromPlain_render :
    fromPlain n.renderCoefficient = ⟨ofDigitChars 10 (n.integer ++ padOrCut n.decimals) 0⟩ := by
  have hpoint : '.' ∉ n.integer := n.integerDigits.notMem (by decide)
  rw [ofDigitChars_append_zero, length_padOrCut, Nat.mul_comm]
  cases hf : n.fraction with
  | none =>
    have htext : n.renderCoefficient = n.integer := by
      unfold Numeral.renderCoefficient
      rw [hf]
      exact List.append_nil _
    have hdecimals : n.decimals = [] := by
      unfold Numeral.decimals
      rw [hf]
      rfl
    have hzero : ofDigitChars 10 (padOrCut []) 0 = 0 := by decide
    unfold fromPlain
    rw [htext, if_neg hpoint, hdecimals, hzero, Nat.add_zero]
    rfl
  | some f =>
    have htext : n.renderCoefficient = n.integer ++ '.' :: f := by
      unfold Numeral.renderCoefficient
      rw [hf]
      rfl
    have hdecimals : n.decimals = f := by
      unfold Numeral.decimals
      rw [hf]
      rfl
    have hmem : '.' ∈ n.integer ++ '.' :: f := by simp
    have hrest : '.' ∉ f := (n.fractionDigits f hf).notMem (by decide)
    unfold fromPlain
    rw [htext, if_pos hmem, part_zero hpoint, part_one hpoint hrest, hdecimals]
    simp only [ofDigitChars_or_zero]
    rfl

/-- What an exponent makes of the number read before it. -/
def applyExponent (b : ℕ) : Option Exponent → ℕ
  | none => b
  | some e => if e.sign = .minus then b / 10 ^ e.magnitude else b * 10 ^ e.magnitude

theorem applyExponent_minus {e : Exponent} (b : ℕ) (h : e.sign = .minus) :
    applyExponent b (some e) = b / 10 ^ e.magnitude := if_pos h

theorem applyExponent_up {e : Exponent} (b : ℕ) (h : e.sign ≠ .minus) :
    applyExponent b (some e) = b * 10 ^ e.magnitude := if_neg h

theorem fromCoefficient_eq_ok :
    fromCoefficient n.renderCoefficient = .ok d ↔
      n.renderCoefficient ≠ [] ∧ d = ⟨ofDigitChars 10 (n.integer ++ padOrCut n.decimals) 0⟩ := by
  have hformat : matchesFormat n.renderCoefficient = true := by
    have h := matchesFormat_render ⟨n.integer, n.fraction, none, n.integerDigits, n.fractionDigits⟩
    unfold Numeral.render at h
    rw [Option.elim_none, List.append_nil] at h
    exact h
  unfold fromCoefficient
  rw [bind_eq_ok, fromPlain_render]
  constructor
  · rintro ⟨_, hcheck, hd⟩
    exact ⟨(checkFormat_eq_ok.1 hcheck).1, (pure_eq_ok.1 hd).symm⟩
  · rintro ⟨hne, rfl⟩
    exact ⟨(), checkFormat_eq_ok.2 ⟨hne, hformat⟩, rfl⟩

theorem fromCoefficient_bind_eq_ok (f : Decimal → Decimal) :
    (do let b ← fromCoefficient n.renderCoefficient
        pure (f b)) = .ok d ↔
      n.renderCoefficient ≠ [] ∧
      d = f ⟨ofDigitChars 10 (n.integer ++ padOrCut n.decimals) 0⟩ := by
  simp only [bind_eq_ok, fromCoefficient_eq_ok, pure_eq_ok]
  constructor
  · rintro ⟨b, ⟨hne, rfl⟩, rfl⟩
    exact ⟨hne, rfl⟩
  · rintro ⟨hne, rfl⟩
    exact ⟨_, ⟨hne, rfl⟩, rfl⟩

theorem render_none (h : n.exponent = none) : n.render = n.renderCoefficient := by
  unfold Numeral.render
  rw [h]
  exact List.append_nil _

theorem render_some {e : Exponent} (h : n.exponent = some e) :
    n.render = n.renderCoefficient ++ 'e' :: (e.sign.render ++ e.digits) := by
  unfold Numeral.render
  rw [h]
  rfl

/-- The branch for an exponent, on the two parts the text is split into. -/
theorem applyExponent_some (e : Exponent) (b : Decimal) :
    (if (e.sign.render ++ e.digits).head? = some '-' then
      (⟨b.bigNumber / 10 ^ ofDigitChars 10 ((e.sign.render ++ e.digits).drop 1) 0⟩ : Decimal)
    else
      ⟨b.bigNumber * 10 ^ ofDigitChars 10
        (if (e.sign.render ++ e.digits).head? = some '+' then (e.sign.render ++ e.digits).drop 1
          else e.sign.render ++ e.digits) 0⟩) = ⟨applyExponent b.bigNumber (some e)⟩ := by
  cases hs : e.sign with
  | plus =>
    rw [applyExponent_up b.bigNumber (by rw [hs]; decide)]
    rfl
  | minus =>
    rw [applyExponent_minus b.bigNumber hs]
    rfl
  | none =>
    have hhead : ∀ c : Char, c.isDigit = false → e.digits.head? ≠ some c := by
      intro c hc hmem
      rw [e.allDigits c (List.mem_of_head? hmem)] at hc
      cases hc
    have htext : ExponentSign.none.render ++ e.digits = e.digits := rfl
    rw [applyExponent_up b.bigNumber (by rw [hs]; decide), htext, if_neg (hhead '-' rfl),
      if_neg (hhead '+' rfl)]
    rfl

/-- What the parser does with the rendering of a numeral. -/
theorem fromString_render_eq_ok :
    fromString n.render = .ok d ↔
      n.renderCoefficient ≠ [] ∧
      d = ⟨applyExponent (ofDigitChars 10 (n.integer ++ padOrCut n.decimals) 0) n.exponent⟩ := by
  have hplain : 'e' ∉ n.renderCoefficient := notMem_coefficient rfl (by decide)
  unfold fromString
  cases he : n.exponent with
  | none =>
    rw [render_none he, if_neg hplain]
    exact fromCoefficient_eq_ok
  | some e =>
    have hmem : 'e' ∈ n.renderCoefficient ++ 'e' :: (e.sign.render ++ e.digits) := by simp
    have hcheck : checkFormat n.render = .ok () := by
      refine checkFormat_eq_ok.2 ⟨?_, matchesFormat_render n⟩
      intro hnil
      rw [render_some he] at hnil
      rw [hnil] at hmem
      cases hmem
    rw [hcheck, ok_bind, render_some he, if_pos hmem, part_zero hplain,
      part_one hplain (notMem_exponent e)]
    have hbranch := applyExponent_some e
      ⟨ofDigitChars 10 (n.integer ++ padOrCut n.decimals) 0⟩
    by_cases hminus : (e.sign.render ++ e.digits).head? = some '-'
    · rw [if_pos hminus] at hbranch ⊢
      rw [← hbranch]
      exact fromCoefficient_bind_eq_ok
        (fun b => ⟨b.bigNumber / 10 ^ ofDigitChars 10 ((e.sign.render ++ e.digits).drop 1) 0⟩)
    · rw [if_neg hminus] at hbranch ⊢
      rw [← hbranch]
      exact fromCoefficient_bind_eq_ok (fun b => ⟨b.bigNumber * 10 ^ ofDigitChars 10
        (if (e.sign.render ++ e.digits).head? = some '+' then (e.sign.render ++ e.digits).drop 1
          else e.sign.render ++ e.digits) 0⟩)

end Reading

section Exactness

variable {n : Numeral} {d : Decimal} {s : List Char}

theorem coefficient_padOrCut (n : Numeral) :
    n.coefficient * 10 ^ precision =
      ofDigitChars 10 (n.integer ++ padOrCut n.decimals) 0 +
        (ofDigitChars 10 (n.decimals.drop precision) 0 : ℚ) /
          10 ^ (n.decimals.drop precision).length := by
  unfold padOrCut
  by_cases h : n.decimals.length < precision
  · rw [if_pos h, n.coefficient_pad h.le, List.drop_of_length_le h.le]
    simp
  · rw [if_neg h, n.coefficient_split (Nat.le_of_not_lt h)]

theorem applyExponent_eq_floor_iff (n : Numeral) :
    applyExponent (ofDigitChars 10 (n.integer ++ padOrCut n.decimals) 0) n.exponent =
        ⌊n.value * 10 ^ precision⌋₊ ↔
      ∀ c ∈ (n.decimals.drop precision).take n.shift, c = '0' := by
  have hcut := coefficient_padOrCut n
  have hplain := n.floor_mul_pow_eq_iff _ 0 hcut
  rw [pow_zero, pow_zero, mul_one, mul_one, List.take_zero] at hplain
  have hfloor := (hplain.2 (fun c hc => by cases hc)).symm
  cases he : n.exponent with
  | none =>
    have hvalue : n.value = n.coefficient := by
      unfold Numeral.value
      rw [he, Option.elim_none, mul_one]
    have hshift : n.shift = 0 := by
      unfold Numeral.shift
      rw [he, Option.elim_none]
    rw [hvalue, hshift, List.take_zero]
    exact iff_of_true hfloor.symm (fun c hc => by cases hc)
  | some e =>
    have hvalue : n.value = n.coefficient * e.factor := by
      unfold Numeral.value
      rw [he, Option.elim_some]
    have hshift : n.shift = e.shift := by
      unfold Numeral.shift
      rw [he, Option.elim_some]
    rw [hvalue, hshift]
    unfold Exponent.factor Exponent.shift
    by_cases hminus : e.sign = .minus
    · rw [applyExponent_minus _ hminus, if_pos hminus, if_pos hminus, List.take_zero,
        n.floor_div_pow _ _ hfloor]
      exact iff_of_true rfl (fun c hc => by cases hc)
    · rw [applyExponent_up _ hminus, if_neg hminus, if_neg hminus]
      exact n.floor_mul_pow_eq_iff _ _ hcut

/-- An accepted text is a numeral, and it is read exactly unless the exponent moves a nonzero digit
from behind the 18th place across it. -/
theorem fromString_eq_floor_iff (h : fromString s = .ok d) :
    (∃ n : Numeral, n.render = s) ∧
    ∀ n : Numeral, n.render = s →
      (d.bigNumber = ⌊n.value * 10 ^ precision⌋₊ ↔
        ∀ c ∈ (n.decimals.drop precision).take n.shift, c = '0') := by
  constructor
  · unfold fromString at h
    rw [bind_eq_ok] at h
    obtain ⟨u, hcheck, -⟩ := h
    exact exists_render_of_matchesFormat (checkFormat_eq_ok.1 hcheck).2
  · rintro n rfl
    obtain ⟨-, rfl⟩ := fromString_render_eq_ok.1 h
    exact applyExponent_eq_floor_iff n

/-- One unit of the last place, with its only nonzero digit behind that place. -/
def lostDigit : Numeral where
  integer := ['0']
  fraction := some "0000000000000000001".toList
  exponent := some ⟨.none, ['1'], by decide, by decide⟩
  integerDigits := by decide
  fractionDigits := by
    intro f hf
    cases hf
    decide

theorem fromString_loses_digit :
    fromString "0.0000000000000000001e1".toList = .ok ⟨0⟩ ∧
    lostDigit.render = "0.0000000000000000001e1".toList ∧
    ⌊lostDigit.value * 10 ^ precision⌋₊ = 1 := by
  refine ⟨?_, ?_, ?_⟩
  · exact fromString_render_eq_ok (n := lostDigit) |>.2 ⟨by decide, by decide +kernel⟩
  · decide +kernel
  · decide +kernel

theorem fromString_eq_floor_iff_of_lostDigit :
    (∃ n : Numeral, n.render = lostDigit.render) ∧
    ∀ n : Numeral, n.render = lostDigit.render →
      ((⟨0⟩ : Decimal).bigNumber = ⌊n.value * 10 ^ precision⌋₊ ↔
        ∀ c ∈ (n.decimals.drop precision).take n.shift, c = '0') :=
  fromString_eq_floor_iff (fromString_render_eq_ok.2 ⟨by decide, by decide +kernel⟩)

end Exactness

end Usdd.LibBase.Decimal

import RecordStore.Condition.Literal
import RecordStore.Proofs.Exactness
import RecordStore.Proofs.NumeralParts

/-! What the reader of numbers makes of the parts of a numeral whose digits stay below 2^64: it
gathers every one of them, so that it values the very decimal that the text spells. -/
namespace RecordStore

namespace Decimal

theorem natOfDigits_le_append (a b : List Char) : natOfDigits a ≤ natOfDigits (a ++ b) := by
  induction b generalizing a with
  | nil => rw [List.append_nil]
  | cons c b ih =>
    have first : natOfDigits a ≤ natOfDigits (a ++ [c]) := by
      rw [natOfDigits_append, List.foldl_cons, List.foldl_nil]
      omega
    have others := ih (a ++ [c])
    rw [List.append_assoc, List.singleton_append] at others
    exact Nat.le_trans first others

theorem natOfDigits_concat {c : Char} {d : Nat} (digit : Json.digit? c = some d)
    (before : List Char) : natOfDigits (before ++ [c]) = natOfDigits before * 10 + d := by
  unfold Json.digit? at digit
  split at digit
  · cases digit
    exact natOfDigits_append before [c]
  · cases digit

end Decimal

namespace Json
open Binary64 (signed)
open Decimal (natOfDigits natOfDigits_concat natOfDigits_le_append)

namespace Numeral

variable {n m : Numeral} {negative : Bool} {text rest whole before : List Char}

/-- The digits of a part are gathered one by one, as long as their number stays below a bound. -/
theorem scan?_digits {bound : Nat} (state : List Char → Numeral)
    (takes : ∀ before c d, digit? c = some d → natOfDigits (before ++ [c]) < bound →
      (state before).step true c = .more (state (before ++ [c])))
    (digits : Digits text) (fits : natOfDigits (before ++ text) < bound) (rest : List Char) :
    (state before).scan? true (text ++ rest) = (state (before ++ text)).scan? true rest := by
  induction text generalizing before with
  | nil => simp
  | cons c text ih =>
    obtain ⟨⟨d, digit⟩, others⟩ := List.forall_mem_cons.1 digits
    have joined : before ++ c :: text = before ++ [c] ++ text := by simp
    rw [joined] at fits ⊢
    have first := Nat.lt_of_le_of_lt (natOfDigits_le_append (before ++ [c]) text) fits
    simp only [List.cons_append, scan?, takes before c d digit first]
    exact ih others fits

theorem takeDigit?_concat {c : Char} {d : Nat} (digit : digit? c = some d)
    (fits : natOfDigits (before ++ [c]) < 18446744073709551616) :
    takeDigit? (natOfDigits before) d = some (natOfDigits (before ++ [c])) := by
  rw [natOfDigits_concat digit] at fits ⊢
  exact if_pos fits

theorem scan?_integer (before : List Char) (digits : Digits text)
    (fits : natOfDigits (before ++ text) < 18446744073709551616) (rest : List Char) :
    scan? true ⟨negative, natOfDigits before, 0, .integer⟩ (text ++ rest) =
      scan? true ⟨negative, natOfDigits (before ++ text), 0, .integer⟩ rest := by
  apply scan?_digits (fun before => ⟨negative, natOfDigits before, 0, .integer⟩) _ digits fits
  intro before c d digit fits
  simp only [step, digit, takeDigit?_concat digit fits]

/-- The whole part is read to its digits; a zero before others is none. -/
theorem scan?_whole (nonempty : whole ≠ []) (digits : Digits whole)
    (fits : natOfDigits whole < 18446744073709551616)
    (scanned : scan? true ⟨negative, 0, 0, .minus⟩ (whole ++ rest) = some m) :
    ∃ stage, (stage = .leadingZero ∨ stage = .integer) ∧
      scan? true ⟨negative, natOfDigits whole, 0, stage⟩ rest = some m := by
  obtain ⟨c, others, rfl⟩ := List.exists_cons_of_ne_nil nonempty
  obtain ⟨⟨d, digit⟩, digital⟩ := List.forall_mem_cons.1 digits
  have first : natOfDigits [c] = d := by simpa [natOfDigits] using natOfDigits_concat digit []
  simp only [List.cons_append, scan?, step_minus_digit digit] at scanned
  by_cases zero : d = 0
  · cases others with
    | nil =>
      simp only [zero, if_true, List.nil_append] at scanned
      exact ⟨.leadingZero, .inl rfl, by rw [first, zero, scanned]⟩
    | cons e others =>
      obtain ⟨⟨_, next⟩, -⟩ := List.forall_mem_cons.1 digital
      simp only [zero, if_true, List.cons_append, scan?, step, next] at scanned
      cases scanned
  · rw [if_neg zero, ← first, scan?_integer [c] digital fits] at scanned
    exact ⟨.integer, .inr rfl, scanned⟩

theorem takeFraction_concat {c : Char} {d : Nat} {scale : Int} {stage : Stage}
    (digit : digit? c = some d) (fits : natOfDigits (before ++ [c]) < 18446744073709551616) :
    takeFraction ⟨negative, natOfDigits before, scale, stage⟩ d =
      ⟨negative, natOfDigits (before ++ [c]), scale - 1, .fraction⟩ := by
  rw [takeFraction, takeDigit?_concat digit fits]

/-- Each digit of a fraction lowers the scale by one. -/
theorem scan?_fraction (nonempty : text ≠ []) (digits : Digits text)
    (fits : natOfDigits (before ++ text) < 18446744073709551616) (rest : List Char) :
    scan? true ⟨negative, natOfDigits before, 0, .point⟩ (text ++ rest) =
      scan? true ⟨negative, natOfDigits (before ++ text), -text.length, .fraction⟩ rest := by
  let state (gathered : List Char) : Numeral :=
    ⟨negative, natOfDigits gathered, before.length - gathered.length, .fraction⟩
  have takes (gathered : List Char) (c : Char) (d : Nat) (digit : digit? c = some d)
      (fits : natOfDigits (gathered ++ [c]) < 18446744073709551616) :
      (state gathered).step true c = .more (state (gathered ++ [c])) := by
    have scale : (before.length - gathered.length - 1 : Int) =
        before.length - (gathered ++ [c]).length := by
      rw [List.length_append, List.length_singleton]
      omega
    simp only [state, step, digit, takeFraction_concat digit fits, scale]
  have many := scan?_digits state takes digits fits rest
  have length : (before.length - (before ++ text).length : Int) = -text.length := by
    rw [List.length_append]
    omega
  simp only [state, length, Int.sub_self] at many
  -- The digit after the point is taken as those behind it are.
  rw [← many]
  obtain ⟨c, others, rfl⟩ := List.exists_cons_of_ne_nil nonempty
  obtain ⟨⟨d, digit⟩, -⟩ := List.forall_mem_cons.1 digits
  simp only [List.cons_append, scan?, step, digit, takeFraction]

/-- A digit of an exponent is counted, unless it makes the number vanish. -/
theorem takeExponent_cases {below : Bool} {value d : Nat}
    (taken : n.takeExponent true below value d = .more m) :
    m = { n with stage := .exponent below (value * 10 + d) } ∨
      m = { n with stage := .vanished } ∧ (n.significand = 0 ∨ below = true) ∧
        maxExponent < value * 10 + d := by
  unfold takeExponent at taken
  split at taken
  · cases taken
    exact .inl rfl
  · next large =>
    split at taken
    · cases taken
    · next tolerated =>
      cases taken
      refine .inr ⟨rfl, ?_, Nat.lt_of_not_le large⟩
      by_contra refused
      rw [not_or] at refused
      exact tolerated ⟨rfl, refused⟩

theorem scan?_vanished {significand : Nat} {scale : Int} (digits : Digits text) :
    scan? true ⟨negative, significand, scale, .vanished⟩ text =
      some ⟨negative, significand, scale, .vanished⟩ := by
  induction text with
  | nil => rfl
  | cons c text ih =>
    obtain ⟨⟨d, digit⟩, others⟩ := List.forall_mem_cons.1 digits
    simp only [scan?, step, digit]
    exact ih others

theorem scan?_exponent {significand : Nat} {scale : Int} {below : Bool} (before : List Char)
    (digits : Digits text)
    (scanned : scan? true ⟨negative, significand, scale, .exponent below (natOfDigits before)⟩
      text = some m) :
    m = ⟨negative, significand, scale, .exponent below (natOfDigits (before ++ text))⟩ ∨
      m = ⟨negative, significand, scale, .vanished⟩ ∧ (significand = 0 ∨ below = true) ∧
        maxExponent < natOfDigits (before ++ text) := by
  induction text generalizing before with
  | nil =>
    cases scanned
    exact .inl (by rw [List.append_nil])
  | cons c text ih =>
    obtain ⟨⟨d, digit⟩, others⟩ := List.forall_mem_cons.1 digits
    have joined : before ++ c :: text = before ++ [c] ++ text := by simp
    simp only [scan?, step, digit] at scanned
    rw [joined]
    cases taken : takeExponent true ⟨negative, significand, scale,
        .exponent below (natOfDigits before)⟩ below (natOfDigits before) d with
    | stop | fault =>
      rw [taken] at scanned
      cases scanned
    | more next =>
      simp only [taken] at scanned
      rcases takeExponent_cases taken with rfl | ⟨rfl, tolerated, large⟩
      · rw [← natOfDigits_concat digit] at scanned
        exact ih _ others scanned
      · rw [scan?_vanished others] at scanned
        cases scanned
        rw [← natOfDigits_concat digit] at large
        exact .inr ⟨rfl, tolerated, Nat.lt_of_lt_of_le large (natOfDigits_le_append _ _)⟩

theorem scales_of_doubleValue {power : Int} {x : Number}
    (valued : n.doubleValue power = .ok x) :
    ∃ z, x = .double (signed n.negative z) ∧ Scales n.significand power z := by
  unfold doubleValue at valued
  split at valued
  · next z scaled =>
    cases valued
    exact ⟨z, rfl, .inl scaled⟩
  · cases valued

/-- Digits of an exponent scale what stands before them. -/
theorem scales_of_exponent {significand : Nat} {scale : Int} {below : Bool} {x : Number}
    (low : scale ≤ 0) (digits : Digits text)
    (scanned : scan? true ⟨negative, significand, scale, .exponent below 0⟩ text = some m)
    (finished : m.finish = .ok x) :
    ∃ z, x = .double (signed negative z) ∧ Scales significand
      ((if below then -(natOfDigits text : Int) else natOfDigits text) + scale) z := by
  rcases scan?_exponent [] digits scanned with rfl | ⟨rfl, tolerated, large⟩
  · have power : (if below then scale - (natOfDigits text : Int) else scale + natOfDigits text) =
        (if below then -(natOfDigits text : Int) else natOfDigits text) + scale := by
      split <;> omega
    rw [← power]
    exact scales_of_doubleValue finished
  · cases finished
    refine ⟨.zero false, ?_, .inr ⟨rfl, ?_⟩⟩
    · cases negative <;> rfl
    · rcases tolerated with none | below
      · exact .inl none
      · right
        rw [if_pos below]
        rw [List.nil_append] at large
        omega

theorem step_mark {significand : Nat} {scale : Int} {stage : Stage} {mark : Char}
    (marked : mark = 'e' ∨ mark = 'E')
    (ended : stage = .leadingZero ∨ stage = .integer ∨ stage = .fraction) :
    step true ⟨negative, significand, scale, stage⟩ mark =
      .more ⟨negative, significand, scale, .exponentMark⟩ := by
  have other : digit? mark = none ∧ mark ≠ '.' := by
    rcases marked with rfl | rfl <;> decide
  rcases ended with rfl | rfl | rfl <;>
    simp only [step, other.1, afterDigits, other.2, false_and, if_false, marked, if_true]

/-- The digits of an exponent begin at zero, with or without a sign before them. -/
theorem scan?_exponentDigits {significand : Nat} {scale : Int} (nonempty : text ≠ [])
    (digits : Digits text) :
    scan? true ⟨negative, significand, scale, .exponentMark⟩ text =
        scan? true ⟨negative, significand, scale, .exponent false 0⟩ text ∧
      ∀ below, scan? true ⟨negative, significand, scale, .exponentSign below⟩ text =
        scan? true ⟨negative, significand, scale, .exponent below 0⟩ text := by
  obtain ⟨c, others, rfl⟩ := List.exists_cons_of_ne_nil nonempty
  obtain ⟨⟨d, digit⟩, -⟩ := List.forall_mem_cons.1 digits
  constructor
  · simp only [scan?, step, digit, takeExponent]
  · intro below
    simp only [scan?, step, digit, takeExponent]

/-- An exponent scales what stands before it; without one a fraction is scaled by its digits. -/
theorem scales_of_exponentPart {significand : Nat} {scale e : Int} {stage : Stage} {x : Number}
    (low : scale ≤ 0) (ended : stage = .leadingZero ∨ stage = .integer ∨ stage = .fraction)
    (exponential : ExponentPart text e) (double : text ≠ [] ∨ stage = .fraction)
    (scanned : scan? true ⟨negative, significand, scale, stage⟩ text = some m)
    (finished : m.finish = .ok x) :
    ∃ z, x = .double (signed negative z) ∧ Scales significand (e + scale) z := by
  cases exponential with
  | absent =>
    cases double.resolve_left (absurd rfl)
    cases scanned
    rw [Int.zero_add]
    exact scales_of_doubleValue finished
  | @plain mark digits marked nonempty digital =>
    simp only [scan?, step_mark marked ended, (scan?_exponentDigits nonempty digital).1] at scanned
    exact scales_of_exponent low digital scanned finished
  | @signed mark sign digits marked sign' nonempty digital =>
    have taken : step true ⟨negative, significand, scale, .exponentMark⟩ sign =
        .more ⟨negative, significand, scale, .exponentSign (sign = '-')⟩ := by
      have other : digit? sign = none := by
        rcases sign' with rfl | rfl <;> decide
      simp only [step, other, sign', if_true]
    simp only [scan?, step_mark marked ended, taken,
      (scan?_exponentDigits nonempty digital).2] at scanned
    simpa using scales_of_exponent low digital scanned finished

end Numeral

namespace NumeralParts
open Numeral

variable {p : NumeralParts} {n : Numeral} {x : Number}

theorem scan?_unsigned (read : Numeral.ofText? p.text = some n) :
    scan? true ⟨p.negative, 0, 0, .minus⟩ p.unsigned = some n := by
  obtain ⟨negative, whole, fraction, decimals, exponent, e, nonempty, digits, fractional,
    exponential⟩ := p
  cases negative with
  | true => exact read
  | false =>
    obtain ⟨c, others, rfl⟩ := List.exists_cons_of_ne_nil nonempty
    obtain ⟨⟨d, digit⟩, -⟩ := List.forall_mem_cons.1 digits
    simpa [text, unsigned, Numeral.ofText?, begin?_digit digit, scan?, step_minus_digit digit]
      using read

theorem exponent_of_integral (p : NumeralParts) (integral : p.Integral) :
    p.decimal.exponent = 0 := by
  obtain ⟨negative, whole, fraction, decimals, exponent, e, nonempty, digits, fractional,
    exponential⟩ := p
  cases fractional with
  | digits => cases integral.1
  | absent =>
    cases integral.2
    cases exponential
    rfl

/-- A numeral whose digits stay below 2^64 is valued as what its parts spell: an integer where it
has neither fraction nor exponent, and scaled digits otherwise. -/
theorem valued_of_finish (read : Numeral.ofText? p.text = some n) (finished : n.finish = .ok x)
    (fits : p.decimal.digits < 18446744073709551616) :
    p.Integral ∧ x = integerValue ⟨p.negative, p.decimal.digits, 0, .integer⟩ ∨
      ¬p.Integral ∧ ∃ z, x = .double (signed p.negative z) ∧
        Scales p.decimal.digits p.decimal.exponent z := by
  have scanned := scan?_unsigned read
  obtain ⟨negative, whole, fraction, decimals, exponent, e, nonempty, digits, fractional,
    exponential⟩ := p
  simp only [unsigned] at scanned
  have begun : natOfDigits whole < 18446744073709551616 :=
    Nat.lt_of_le_of_lt (natOfDigits_le_append whole decimals) fits
  obtain ⟨stage, ended, scanned⟩ := scan?_whole nonempty digits begun scanned
  cases fractional with
  | absent =>
    by_cases alone : exponent = []
    · left
      cases alone
      cases scanned
      refine ⟨⟨rfl, rfl⟩, ?_⟩
      rcases ended with rfl | rfl <;> cases finished <;> simp [integerValue, decimal]
    · right
      have before : stage = .leadingZero ∨ stage = .integer ∨ stage = .fraction :=
        ended.imp_right .inl
      have scaled := scales_of_exponentPart (Int.le_refl 0) before exponential (.inl alone) scanned
        finished
      refine ⟨fun integral => alone integral.2, ?_⟩
      simpa [decimal] using scaled
  | digits some digital =>
    right
    have pointed : step true ⟨negative, natOfDigits whole, 0, stage⟩ '.' =
        .more ⟨negative, natOfDigits whole, 0, .point⟩ := by
      rcases ended with rfl | rfl <;> rfl
    simp only [List.cons_append, scan?, pointed, scan?_fraction some digital fits] at scanned
    refine ⟨fun integral => List.cons_ne_nil _ _ integral.1, ?_⟩
    exact scales_of_exponentPart (by omega) (.inr (.inr rfl)) exponential (.inr rfl) scanned
      finished

end NumeralParts
end Json

theorem Number.compare_self (x : Number) : x.compare x = .eq := by
  cases x with
  | integer => exact Int.compare_eq_eq.2 rfl
  | double => exact Binary64.compare_eq_iff.2 rfl

namespace Literal
open Json Json.Numeral Json.NumeralParts

variable {p : NumeralParts} {n : Numeral} {x : Number}

theorem number?_of_integer {text : List Char} {z : Int} {y : Number}
    (integer : Decimal.intOfText? text = some z) (fits : Number.ofInt? z = some y) :
    number? text = some y := by
  rw [number?, integer, Option.bind_some, fits]

theorem number?_of_decimal {z : Binary64}
    (other : (Decimal.intOfText? p.text).bind Number.ofInt? = none)
    (read : p.decimal.toBinary64? p.negative = some z) : number? p.text = some (.double z) := by
  have double : Binary64.ofText? p.text = some z := by
    simp only [Binary64.ofText?, p.splitSign_text, p.ofText?_unsigned]
    exact read
  rw [number?, other, double]
  rfl

/-- An exact decimal that the reader of numbers takes is a literal of the same value. -/
theorem exists_number?_of_exact (read : Numeral.ofText? p.text = some n)
    (finished : n.finish = .ok x) (exact : p.decimal.Exact) :
    ∃ y, number? p.text = some y ∧ x.compare y = .eq := by
  have decimal {z : Binary64} (other : (Decimal.intOfText? p.text).bind Number.ofInt? = none)
      (scales : Scales p.decimal.digits p.decimal.exponent z) :
      ∃ y, number? p.text = some y ∧ (Number.double (.signed p.negative z)).compare y = .eq := by
    obtain ⟨w, double, same⟩ := exact.toBinary64?_of_scales scales p.negative
    exact ⟨.double w, number?_of_decimal other double, same⟩
  rcases valued_of_finish read finished exact.fits with
    ⟨integral, rfl⟩ | ⟨fractional, z, rfl, scales⟩
  · have integer := p.intOfText?_text_of_integral integral
    cases fits : Number.ofInt? (if p.negative then -(p.decimal.digits : Int)
      else p.decimal.digits) with
    | some y =>
      refine ⟨y, number?_of_integer integer fits, ?_⟩
      simp only [integerValue, fits]
      split
      · next zero =>
        -- Zero with a sign is a double, but the literal is an integer all the same.
        rw [zero.1, zero.2] at fits
        cases fits
        rw [zero.1, zero.2]
        decide +kernel
      · exact Number.compare_self y
    | none =>
      have unscaled : Scales p.decimal.digits p.decimal.exponent (.ofInt p.decimal.digits) := by
        rw [p.exponent_of_integral integral]
        exact .inl (scaled?_one (Binary64.negative_ofInt _))
      have double : integerValue ⟨p.negative, p.decimal.digits, 0, .integer⟩ =
          .double (.signed p.negative (.ofInt p.decimal.digits)) := by
        simp only [integerValue, fits, Option.getD_none, ite_self]
        rfl
      rw [double]
      apply decimal _ unscaled
      rw [integer, Option.bind_some, fits]
  · apply decimal _ scales
    rw [p.intOfText?_text_of_not_integral fractional, Option.bind_none]

end Literal
end RecordStore

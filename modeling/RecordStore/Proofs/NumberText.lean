import RecordStore.Proofs.Numerals

/-! What numbers are written as, and what they come back as. Integers come back exactly. Doubles are
written with their shortest digits; the reader rounds once for the digits and once for the power of
ten, so `echo?` of a double may be another double. -/
namespace RecordStore

namespace Decimal
open Json (digit?)
open Json.Numeral

theorem exists_digit?_of_isDigit {c : Char} (digit : c.isDigit = true) :
    ∃ d, digit? c = some d := by
  simp only [Char.isDigit, Bool.and_eq_true, decide_eq_true_eq] at digit
  exact ⟨_, if_pos digit⟩

theorem digits_natText (n : Nat) : Digits (natText n) := by
  intro c member
  exact exists_digit?_of_isDigit (Nat.isDigit_of_mem_toDigits (by decide) (by decide) member)

theorem digits_zeros (k : Nat) : Digits (List.replicate k '0') := by
  intro c member
  rw [List.eq_of_mem_replicate member]
  exact ⟨0, rfl⟩

theorem digits_append {a b : List Char} (first : Digits a) (second : Digits b) :
    Digits (a ++ b) := by
  intro c member
  rcases List.mem_append.1 member with member | member
  · exact first c member
  · exact second c member

theorem exists_natText_eq_cons (n : Nat) :
    ∃ c rest, natText n = c :: rest ∧ (∃ d, digit? c = some d) ∧ Digits rest := by
  have digits := digits_natText n
  cases text : natText n with
  | nil => exact absurd text Nat.toDigits_ne_nil
  | cons c rest =>
    rw [text] at digits
    exact ⟨c, rest, rfl, digits c (by simp), fun d member => digits d (by simp [member])⟩

theorem exponent_exponentText (z : Int) : Exponent (exponentText z) := by
  unfold exponentText
  split
  · exact .digits (.inr rfl) (digits_natText _)
  · exact .digits (.inl rfl) (digits_natText _)

theorem written_of_digits {sign whole fraction exponent : List Char}
    (signed : sign = [] ∨ sign = ['-']) (digits : Digits whole) (some : whole ≠ [])
    (fractional : Fraction fraction) (exponential : Exponent exponent) :
    Written (sign ++ (whole ++ (fraction ++ exponent))) := by
  cases whole with
  | nil => exact absurd rfl some
  | cons c rest =>
    exact .mk signed (digits c (by simp)) (fun d member => digits d (by simp [member]))
      fractional exponential

theorem written_intText (z : Int) : Written (intText z) := by
  have written {sign : List Char} (signed : sign = [] ∨ sign = ['-']) :
      Written (sign ++ natText z.natAbs) := by
    simpa using written_of_digits signed (digits_natText z.natAbs) Nat.toDigits_ne_nil
      .absent .absent
  unfold intText
  split
  · exact written (.inr rfl)
  · exact written (.inl rfl)

/-- Every layout of a decimal is a number's text: the digits before the point are never missing. -/
theorem written_text (d : Decimal) {sign : List Char} (signed : sign = [] ∨ sign = ['-']) :
    Written (sign ++ d.text) := by
  have digits := digits_natText d.digits
  have taken (k : Nat) : Digits ((natText d.digits).take k) := by
    intro c member
    exact digits c (List.mem_of_mem_take member)
  have dropped (k : Nat) : Digits ((natText d.digits).drop k) := by
    intro c member
    exact digits c (List.mem_of_mem_drop member)
  obtain ⟨c, rest, text, first, more⟩ := exists_natText_eq_cons d.digits
  have some : natText d.digits ≠ [] := by simp [text]
  simp only [Decimal.text]
  split
  · split
    · have fraction : Fraction ['.', '0'] := .digits (digits_zeros 1)
      simpa using written_of_digits signed (digits_append digits (digits_zeros d.exponent.toNat))
        (by simp [some]) fraction .absent
    · split
      · simpa using written_of_digits signed (taken _) (by simp [text]) (.digits (dropped _))
          .absent
      · have point (k : Nat) : Fraction ('.' :: (List.replicate k '0' ++ natText d.digits)) :=
          .digits (digits_append (digits_zeros k) digits)
        simpa using written_of_digits signed (digits_zeros 1) (by simp) (point _) .absent
  · simp only [text]
    have alone : Digits [c] := by
      intro e member
      rw [List.mem_singleton.1 member]
      exact first
    cases rest with
    | nil =>
      simpa using written_of_digits signed alone (by simp) .absent
        (exponent_exponentText (d.exponent + [c].length - 1))
    | cons e rest =>
      simpa using written_of_digits signed alone (by simp) (.digits more)
        (exponent_exponentText (d.exponent + (c :: e :: rest).length - 1))

end Decimal

open Json.Numeral

theorem Binary64.written_text (x : Binary64) : Written x.text := by
  have signed : (if x.negative then ['-'] else []) = [] ∨
      (if x.negative then ['-'] else []) = ['-'] := by
    cases x.negative <;> simp
  simp only [text]
  split
  · simpa using Decimal.written_of_digits signed (Decimal.digits_zeros 1) (by simp)
      (.digits (Decimal.digits_zeros 1)) .absent
  · exact Decimal.written_text _ signed

namespace Number

theorem written_text : (x : Number) → Written x.text
  | integer value _ => Decimal.written_intText value
  | double value => value.written_text

/-- What a number comes back as when its text is read, if it is read at all. -/
def echo? (x : Number) : Option Number := (ofText? x.text).bind (·.finish.toOption)

/-- What has been read of an integer after its digits. -/
def ofDigits (negative : Bool) (n : Nat) : Json.Numeral :=
  ⟨negative, n, 0, if n = 0 then .leadingZero else .integer⟩

theorem digit?_digitChar : ∀ d < 10, Json.digit? (Nat.digitChar d) = some d := by
  decide

theorem scan?_natText (checked negative : Bool) (n : Nat) (fits : n < 18446744073709551616) :
    scan? checked ⟨negative, 0, 0, .minus⟩ (Decimal.natText n) = some (ofDigits negative n) := by
  induction n using Nat.strongRecOn with
  | ind n ih =>
    have last : n % 10 < 10 := Nat.mod_lt _ (by decide)
    by_cases small : n < 10
    · simp only [Decimal.natText, Nat.toDigits_of_lt_base small, scan?,
        step_minus_digit (digit?_digitChar n small), ofDigits]
    · -- The digits of `n` are those of `n / 10` and one more.
      have above : n / 10 ≠ 0 := by omega
      have value : n / 10 * 10 + n % 10 = n := by omega
      have positive : n ≠ 0 := by omega
      have before := ih (n / 10) (by omega) (by omega)
      simp only [Decimal.natText] at before ⊢
      rw [Nat.toDigits_of_base_le (by decide) (by omega), scan?_append, before]
      simp [scan?, Json.Numeral.step, ofDigits, above, positive, digit?_digitChar _ last,
        takeDigit?, value, fits]

theorem ofText?_natText (n : Nat) (fits : n < 18446744073709551616) :
    ofText? (Decimal.natText n) = some (ofDigits false n) := by
  have scanned := scan?_natText true false n fits
  obtain ⟨c, rest, text, ⟨d, digit⟩, -⟩ := Decimal.exists_natText_eq_cons n
  rw [text] at scanned ⊢
  simpa only [scan?, step_minus_digit digit, ofText?, begin?_digit digit, Option.bind_some]
    using scanned

theorem ofText?_intText (z : Int) (fits : z.natAbs < 18446744073709551616) :
    ofText? (Decimal.intText z) = some (ofDigits (z < 0) z.natAbs) := by
  unfold Decimal.intText
  split
  · next negative =>
    simpa [negative, ofText?, begin?] using scan?_natText true true z.natAbs fits
  · next negative => simpa [negative] using ofText?_natText z.natAbs fits

/-- Integers in range are read exactly. -/
theorem echo?_integer (value : Int)
    (fits : -9223372036854775808 ≤ value ∧ value < 18446744073709551616) :
    echo? (.integer value fits) = some (.integer value fits) := by
  have read : ofText? (text (.integer value fits)) = some (ofDigits (value < 0) value.natAbs) :=
    ofText?_intText value (by omega)
  have finished : (ofDigits (value < 0) value.natAbs).finish =
      .ok (ofDigits (value < 0) value.natAbs).integerValue := by
    unfold ofDigits
    split <;> rfl
  have inRange : ofInt? value = some (.integer value fits) := dif_pos fits
  rw [echo?, read, Option.bind_some, finished]
  by_cases negative : value < 0
  · have sign : -(value.natAbs : Int) = value := by omega
    have nonzero : value ≠ 0 := by omega
    simp only [ofDigits, integerValue, negative, decide_true, if_true, sign, inRange,
      Int.natAbs_eq_zero, nonzero, and_false, if_false, Option.getD_some]
    rfl
  · have sign : (value.natAbs : Int) = value := by omega
    simp only [ofDigits, integerValue, negative, decide_false, Bool.false_eq_true, false_and,
      if_false, sign, inRange, Option.getD_some]
    rfl

end Number

theorem Json.State.read?_number {limit : Option Nat} {stack : List Frame} (x : Number)
    {rest : List Char} (ends : EndsNumber rest) :
    (beforeValue stack).read? ⟨limit, true⟩ (x.text ++ rest) =
      x.echo?.bind fun y => goOn? ⟨limit, true⟩ (.number y) stack rest :=
  read?_written x.written_text ends

end RecordStore

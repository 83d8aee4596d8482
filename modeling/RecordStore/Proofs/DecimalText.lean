import RecordStore.Decimal.Reading
import RecordStore.Proofs.Nearest
import RecordStore.Proofs.NumberText

/-! Decimal text and its value. Whatever notation a decimal is written in, its text reads as the
same value, at most with zeros moved from the exponent to the digits; so the text of a double is
read as the double, and never as an integer. -/
namespace RecordStore

namespace Decimal
open Json (digit?)
open Json.Numeral (Digits)

theorem isDigit_of_digits {text : List Char} (digits : Digits text) :
    ∀ c ∈ text, isDigit c = true := by
  intro c member
  obtain ⟨d, digit⟩ := digits c member
  unfold digit? at digit
  split at digit
  · next between => simpa [isDigit] using between
  · cases digit

theorem natOfDigits_append (a b : List Char) :
    natOfDigits (a ++ b) = b.foldl (fun n c => n * 10 + (c.toNat - '0'.toNat)) (natOfDigits a) :=
  List.foldl_append

theorem natOfDigits_natText (n : Nat) : natOfDigits (natText n) = n := by
  have value : ∀ d < 10, (Nat.digitChar d).toNat - '0'.toNat = d := by decide
  induction n using Nat.strongRecOn with
  | ind n ih =>
    by_cases small : n < 10
    · rw [natText, Nat.toDigits_of_lt_base small]
      simpa [natOfDigits] using value n small
    · have above := ih (n / 10) (by omega)
      have last := value (n % 10) (Nat.mod_lt _ (by decide))
      rw [natText] at above ⊢
      rw [Nat.toDigits_of_base_le (by decide) (by omega), natOfDigits_append, above]
      simp only [List.foldl_cons, List.foldl_nil, last]
      omega

theorem natOfDigits_zeros_append (k : Nat) (text : List Char) :
    natOfDigits (List.replicate k '0' ++ text) = natOfDigits text := by
  induction k with
  | zero => rfl
  | succ k ih => exact ih

theorem natOfDigits_append_zeros (text : List Char) (k : Nat) :
    natOfDigits (text ++ List.replicate k '0') = natOfDigits text * tenTo k := by
  induction k with
  | zero => simp [show tenTo 0 = 1 from rfl]
  | succ k ih =>
    rw [List.replicate_succ', ← List.append_assoc, natOfDigits_append, ih, tenTo_succ]
    simp [Nat.mul_assoc]

theorem natOfText?_digits {text : List Char} (digits : Digits text) (some : text ≠ []) :
    natOfText? text = Option.some (natOfDigits text) := by
  simpa [natOfText?, some] using isDigit_of_digits digits

theorem splitSign_cons {c : Char} (digit : isDigit c = true) (rest : List Char) :
    splitSign (c :: rest) = (false, c :: rest) := by
  unfold splitSign
  split
  · cases ‹_ :: _ = _›
    cases digit
  · cases ‹_ :: _ = _›
    cases digit
  · rfl

theorem splitSign_digits {text : List Char} (digits : Digits text) :
    splitSign text = (false, text) := by
  cases text with
  | nil => rfl
  | cons c rest => exact splitSign_cons (isDigit_of_digits digits c (by simp)) rest

theorem intOfText?_intText (z : Int) : intOfText? (intText z) = some z := by
  have read := natOfText?_digits (digits_natText z.natAbs) Nat.toDigits_ne_nil
  unfold intText
  split
  · next negative =>
    have sign : -(z.natAbs : Int) = z := by omega
    simp only [intOfText?, splitSign, if_true, read, natOfDigits_natText, Option.pure_def,
      Option.bind_eq_bind, Option.bind_some, Option.map_some, sign]
  · next positive =>
    have sign : (z.natAbs : Int) = z := by omega
    simp [intOfText?, splitSign_digits (digits_natText z.natAbs), read, natOfDigits_natText, sign]

theorem exponentOfText?_exponentText (z : Int) : exponentOfText? (exponentText z) = some z := by
  have read := natOfText?_digits (digits_natText z.natAbs) Nat.toDigits_ne_nil
  unfold exponentText
  split
  · next negative =>
    have sign : -(z.natAbs : Int) = z := by omega
    simp only [exponentOfText?, Char.reduceEq, or_false, if_true, intOfText?, splitSign, read,
      natOfDigits_natText, Option.pure_def, Option.bind_eq_bind, Option.bind_some, Option.map_some,
      sign]
  · next positive =>
    have sign : (z.natAbs : Int) = z := by omega
    simp only [exponentOfText?, Char.reduceEq, or_false, if_true, intOfText?, splitSign,
      Bool.false_eq_true, if_false, read, natOfDigits_natText, Option.pure_def, Option.bind_eq_bind,
      Option.bind_some, Option.map_some, sign]

/-- Whether digits cannot go on into a text. -/
def EndsDigits (text : List Char) : Prop := ∀ c ∈ text.head?, isDigit c = false

theorem takeWhile_digits {digits rest : List Char} (digital : Digits digits)
    (ends : EndsDigits rest) : (digits ++ rest).takeWhile isDigit = digits := by
  rw [List.takeWhile_append_of_pos (isDigit_of_digits digital)]
  cases rest with
  | nil => simp
  | cons c rest => simp [ends c rfl]

theorem dropWhile_digits {digits rest : List Char} (digital : Digits digits)
    (ends : EndsDigits rest) : (digits ++ rest).dropWhile isDigit = rest := by
  rw [List.dropWhile_append_of_pos (isDigit_of_digits digital)]
  cases rest with
  | nil => rfl
  | cons c rest => simp [ends c rfl]

theorem endsDigits_exponentText (z : Int) : EndsDigits (exponentText z) := by
  rintro c ⟨⟩
  rfl

section
variable {whole fraction rest : List Char} (integral : Digits whole) (some : whole ≠ [])
include integral some

theorem ofText?_whole (ends : EndsDigits rest) (solid : '.' ∉ rest.head?) :
    ofText? (whole ++ rest) = (exponentOfText? rest).map fun e => ⟨natOfDigits whole, e⟩ := by
  have undivided : ∀ after, rest ≠ '.' :: after := by
    rintro after rfl
    exact solid rfl
  unfold ofText?
  rw [takeWhile_digits integral ends, dropWhile_digits integral ends]
  simp only
  cases exponentOfText? rest <;> simp [some]

theorem ofText?_fraction (fractional : Digits fraction) (ends : EndsDigits rest) :
    ofText? (whole ++ '.' :: (fraction ++ rest)) = (exponentOfText? rest).map fun e =>
      ⟨natOfDigits (whole ++ fraction), e - fraction.length⟩ := by
  have point : EndsDigits ('.' :: (fraction ++ rest)) := by
    rintro c ⟨⟩
    rfl
  unfold ofText?
  rw [takeWhile_digits integral point, dropWhile_digits integral point]
  simp only [takeWhile_digits fractional ends, dropWhile_digits fractional ends]
  cases exponentOfText? rest <;> simp [some]

end

theorem endsDigits_nil : EndsDigits [] := by
  rintro _ ⟨⟩

/-! The four notations of a decimal. -/

/-- The zeros of a whole number are written out, with one more after the point. -/
theorem ofText?_zerosAfter (n zeros : Nat) :
    ofText? (natText n ++ List.replicate zeros '0' ++ ['.', '0']) =
      some ⟨n * tenTo (zeros + 1), -1⟩ := by
  have read := ofText?_fraction (digits_append (digits_natText n) (digits_zeros zeros))
    (by simp [natText]) (digits_zeros 1) endsDigits_nil
  have joined : natText n ++ List.replicate zeros '0' ++ List.replicate 1 '0' =
      natText n ++ List.replicate (zeros + 1) '0' := by
    rw [List.append_assoc, List.replicate_append_replicate]
  rw [joined, natOfDigits_append_zeros, natOfDigits_natText] at read
  exact read

theorem ofText?_pointInside {n whole : Nat} (some : 0 < whole)
    (inside : whole ≤ (natText n).length) :
    ofText? ((natText n).take whole ++ '.' :: (natText n).drop whole) =
      Option.some ⟨n, whole - (natText n).length⟩ := by
  have digits := digits_natText n
  have before : Digits ((natText n).take whole) := fun c member =>
    digits c (List.mem_of_mem_take member)
  have after : Digits ((natText n).drop whole) := fun c member =>
    digits c (List.mem_of_mem_drop member)
  have read := ofText?_fraction before (by simp [natText]; omega) after endsDigits_nil
  rw [List.take_append_drop, natOfDigits_natText, List.length_drop, List.append_nil] at read
  have exponent : (0 : Int) - ((natText n).length - whole : Nat) = whole - (natText n).length := by
    omega
  rw [read]
  simp [exponentOfText?, exponent]

theorem ofText?_zerosBefore (n zeros : Nat) :
    ofText? ('0' :: '.' :: List.replicate zeros '0' ++ natText n) =
      some ⟨n, -(zeros + (natText n).length : Nat)⟩ := by
  have read := ofText?_fraction (digits_zeros 1) (by simp)
    (digits_append (digits_zeros zeros) (digits_natText n)) endsDigits_nil
  have joined : List.replicate 1 '0' ++ (List.replicate zeros '0' ++ natText n) =
      List.replicate (1 + zeros) '0' ++ natText n := by
    rw [← List.append_assoc, List.replicate_append_replicate]
  rw [joined, natOfDigits_zeros_append, natOfDigits_natText, List.append_nil,
    List.length_append, List.length_replicate] at read
  simpa [exponentOfText?] using read

theorem ofText?_scientific {n : Nat} {c : Char} {rest : List Char} (text : natText n = c :: rest)
    (order : Int) :
    ofText? (c :: (if rest.isEmpty then [] else '.' :: rest) ++ exponentText order) =
      some ⟨n, order - rest.length⟩ := by
  have digits := digits_natText n
  have value := natOfDigits_natText n
  rw [text] at digits value
  have first : Digits [c] := fun e member => digits e (by simp_all)
  have others : Digits rest := fun e member => digits e (by simp [member])
  cases rest with
  | nil =>
    have read := ofText?_whole first (by simp) (endsDigits_exponentText order)
      (by simp [exponentText])
    rw [exponentOfText?_exponentText, value] at read
    simpa using read
  | cons d rest =>
    have read := ofText?_fraction first (by simp) others (endsDigits_exponentText order)
    rw [exponentOfText?_exponentText, List.singleton_append, List.singleton_append, value] at read
    exact read

/-- Every notation keeps the value: it reads as the decimal with zeros moved to its digits. -/
theorem exists_ofText?_text (d : Decimal) :
    ∃ k : Nat, ofText? d.text = some ⟨d.digits * tenTo k, d.exponent - k⟩ := by
  have plain (e : Int) (same : e = d.exponent) :
      (some ⟨d.digits, e⟩ : Option Decimal) =
        some ⟨d.digits * tenTo 0, d.exponent - (0 : Nat)⟩ := by
    simp [same, show tenTo 0 = 1 from rfl]
  obtain ⟨c, rest, text, -⟩ := exists_natText_eq_cons d.digits
  have length : (natText d.digits).length = rest.length + 1 := by rw [text, List.length_cons]
  unfold Decimal.text
  simp only
  split
  · split
    · next whole =>
      have last : d.exponent - (d.exponent.toNat + 1 : Nat) = -1 := by omega
      exact ⟨d.exponent.toNat + 1, by rw [ofText?_zerosAfter, last]⟩
    split
    · next fractional inside =>
      refine ⟨0, ?_⟩
      rw [ofText?_pointInside (by omega) (by omega)]
      exact plain _ (by omega)
    · next fractional small =>
      refine ⟨0, ?_⟩
      rw [ofText?_zerosBefore]
      exact plain _ (by omega)
  · refine ⟨0, ?_⟩
    have read := ofText?_scientific text (d.exponent + (natText d.digits).length - 1)
    rw [plain _ (by omega)] at read
    rw [← read, text]
    cases rest <;> rfl

/-- The text of a decimal holds a point or the mark of an exponent, so it is no integer. -/
theorem exists_mark_mem_text (d : Decimal) : '.' ∈ d.text ∨ 'e' ∈ d.text := by
  obtain ⟨c, rest, text, -⟩ := exists_natText_eq_cons d.digits
  unfold Decimal.text
  simp only
  split
  · left
    split
    · simp
    split <;> simp
  · right
    rw [text]
    cases rest <;> simp [exponentText]

theorem splitSign_text (d : Decimal) : splitSign d.text = (false, d.text) := by
  obtain ⟨c, rest, text, -⟩ := exists_natText_eq_cons d.digits
  have digit : isDigit c = true := isDigit_of_digits (digits_natText d.digits) c (by simp [text])
  unfold Decimal.text
  simp only [text]
  split
  · split
    · exact splitSign_cons digit _
    split
    · rw [List.take_succ_cons]
      exact splitSign_cons digit _
    · exact splitSign_cons rfl _
  · split
    · cases ‹_ :: _ = []›
    · cases ‹_ :: _ = _›
      exact splitSign_cons digit _
    · cases ‹_ :: _ = _›
      exact splitSign_cons digit _

end Decimal

namespace Binary64

/-- The text of a double without its sign. -/
theorem exists_splitSign_text (x : Binary64) :
    ∃ body, Decimal.splitSign x.text = (x.negative, body) ∧ ('.' ∈ body ∨ 'e' ∈ body) ∧
      (Decimal.ofText? body).bind (·.toBinary64? x.negative) = some x := by
  have signed (body : List Char) (unsigned : Decimal.splitSign body = (false, body)) :
      Decimal.splitSign ((if x.negative then ['-'] else []) ++ body) = (x.negative, body) := by
    cases x.negative with
    | true => rfl
    | false => exact unsigned
  unfold text
  simp only
  split
  · next zero =>
    refine ⟨['0', '.', '0'], signed _ rfl, by simp, ?_⟩
    have read : Decimal.ofText? ['0', '.', '0'] = some ⟨0, -1⟩ := by decide
    rw [read, Option.bind_some, Decimal.toBinary64?, if_pos rfl, ← eq_zero_of_isZero zero]
  · next nonzero =>
    refine ⟨x.shortest.text, signed _ (Decimal.splitSign_text _),
      Decimal.exists_mark_mem_text _, ?_⟩
    obtain ⟨k, read⟩ := Decimal.exists_ofText?_text x.shortest
    rw [read, Option.bind_some, Decimal.toBinary64?_mul_tenTo]
    exact toBinary64?_shortest (by simpa using nonzero)

/-- The text of a double is read as the double. -/
theorem ofText?_text (x : Binary64) : ofText? x.text = some x := by
  obtain ⟨body, sign, -, read⟩ := exists_splitSign_text x
  simp only [ofText?, sign]
  exact read

theorem intOfText?_text (x : Binary64) : Decimal.intOfText? x.text = none := by
  obtain ⟨body, sign, mark, -⟩ := exists_splitSign_text x
  have undigital : body.all Decimal.isDigit = false := by
    rw [List.all_eq_false]
    rcases mark with point | mark
    · exact ⟨'.', point, by decide⟩
    · exact ⟨'e', mark, by decide⟩
  simp [Decimal.intOfText?, sign, Decimal.natOfText?, undigital]

end Binary64
end RecordStore

import Mathlib.Data.Int.Order.Basic
import RecordStore.Proofs.Comparison
import RecordStore.Proofs.ConditionText

/-! Conditions on integers. An integer literal may have a sign and leading zeros and stand in quotes;
none of its characters, and no blank, is in a symbol, so the condition is divided at its operator
wherever the blanks are. The literal is read as the integer that it spells, never as a double, and
the integers are compared exactly. -/
namespace RecordStore

namespace Literal
open Json.Numeral (Digits)

/-- The texts of an integer: decimal digits, zeros in front included, behind a sign or none. -/
inductive IntegerText : Int → List Char → Prop where
  | unsigned {digits} : Digits digits → digits ≠ [] →
    IntegerText (Decimal.natOfDigits digits) digits
  | plus {digits} : Digits digits → digits ≠ [] →
    IntegerText (Decimal.natOfDigits digits) ('+' :: digits)
  | minus {digits} : Digits digits → digits ≠ [] →
    IntegerText (-Decimal.natOfDigits digits) ('-' :: digits)

variable {m : Int} {text : List Char}

theorem IntegerText.intOfText? (spelled : IntegerText m text) :
    Decimal.intOfText? text = some m := by
  cases spelled with
  | unsigned digits some =>
    simp [Decimal.intOfText?, Decimal.splitSign_digits digits,
      Decimal.natOfText?_digits digits some]
  | plus digits some | minus digits some =>
    simp [Decimal.intOfText?, Decimal.splitSign, Decimal.natOfText?_digits digits some]

/-- Whether a character is a digit or a sign. -/
def Numeric (c : Char) : Prop := (∃ d, Json.digit? c = some d) ∨ c ∈ ['+', '-']

theorem IntegerText.ne_nil (spelled : IntegerText m text) : text ≠ [] := by
  cases spelled with
  | unsigned _ some => exact some
  | plus | minus => exact List.cons_ne_nil _ _

theorem IntegerText.numeric (spelled : IntegerText m text) : ∀ c ∈ text, Numeric c := by
  cases spelled with
  | unsigned digits => exact fun c member => .inl (digits c member)
  | plus digits | minus digits =>
    exact List.forall_mem_cons.2 ⟨.inr (by decide), fun c member => .inl (digits c member)⟩

theorem not_quote_of_numeric {c : Char} (numeric : Numeric c) : c ≠ '"' ∧ c ≠ '\'' := by
  rcases numeric with ⟨d, digit⟩ | sign
  · constructor <;> rintro rfl <;> cases digit
  · constructor <;> rintro rfl <;> exact absurd sign (by decide)

theorem isBlank_of_numeric {c : Char} (numeric : Numeric c) : Text.isBlank c = false := by
  rcases numeric with ⟨d, digit⟩ | sign
  · exact Json.isBlank_of_digit digit
  · simp only [List.mem_cons, List.not_mem_nil, or_false] at sign
    rcases sign with rfl | rfl <;> decide

/-- The quotes that a literal may stand in: none, or a pair of either kind. -/
def wrappings : List (List Char) := [[], ['"'], ['\'']]

theorem quote_of_mem_wrappings {quote : List Char} (wraps : quote ∈ wrappings) :
    ∀ c ∈ quote, c = '"' ∨ c = '\'' := by
  simp only [wrappings, List.mem_cons, List.not_mem_nil, or_false] at wraps
  rcases wraps with rfl | rfl | rfl <;> simp

section
variable (spelled : IntegerText m text) {quote : List Char} (wraps : quote ∈ wrappings)
include spelled wraps

theorem stripQuotes_wrapped : stripQuotes (quote ++ (text ++ quote)) = text := by
  simp only [wrappings, List.mem_cons, List.not_mem_nil, or_false] at wraps
  rcases wraps with rfl | rfl | rfl
  · obtain ⟨c, rest, rfl⟩ := List.exists_cons_of_ne_nil spelled.ne_nil
    obtain ⟨double, single⟩ := not_quote_of_numeric (spelled.numeric c List.mem_cons_self)
    rw [List.nil_append, List.append_nil, stripQuotes_cons double single]
  · exact stripQuotes_paired (.inl rfl) text
  · exact stripQuotes_paired (.inr rfl) text

theorem operand_wrapped (fits : -9223372036854775808 ≤ m ∧ m < 18446744073709551616) :
    operand (stripQuotes (quote ++ (text ++ quote))) = .json (.number (.integer m fits)) := by
  have inRange : Number.ofInt? m = some (.integer m fits) := dif_pos fits
  have read : number? text = some (.integer m fits) := by
    simp [number?, spelled.intOfText?, inRange]
  rw [stripQuotes_wrapped spelled wraps, operand_of_number? read]

theorem solid_wrapped : Text.Solid (quote ++ (text ++ quote)) := by
  apply Text.solid_of_forall
  have visible : ∀ c ∈ quote, Text.isBlank c = false := by
    intro c member
    rcases quote_of_mem_wrappings wraps c member with rfl | rfl <;> decide
  have inside : ∀ c ∈ text, Text.isBlank c = false := fun c member =>
    isBlank_of_numeric (spelled.numeric c member)
  exact List.forall_mem_append.2 ⟨visible, List.forall_mem_append.2 ⟨inside, visible⟩⟩

end

end Literal

namespace Operator

/-- Whether a character is in no symbol. -/
def Unsymbolic (c : Char) : Prop := ∀ op : Operator, c ∉ op.symbol.toList

theorem unsymbolic_of {p : Char → Bool} {c : Char} (holds : p c = true)
    (clear : ∀ op : Operator, op.symbol.toList.all (fun d => !p d) = true) : Unsymbolic c := by
  intro op member
  have fails := List.all_eq_true.1 (clear op) c member
  rw [holds] at fails
  cases fails

theorem unsymbolic_of_blank {c : Char} (blank : Text.isBlank c = true) : Unsymbolic c :=
  unsymbolic_of blank fun op => by cases op <;> decide

theorem unsymbolic_of_numeric {c : Char} (numeric : Literal.Numeric c) : Unsymbolic c := by
  rcases numeric with ⟨d, digit⟩ | sign
  · have isDigit : (Json.digit? c).isSome = true := by rw [digit]; rfl
    exact @unsymbolic_of (fun d => (Json.digit? d).isSome) c isDigit fun op => by
      cases op <;> decide
  · exact @unsymbolic_of (fun d => ['+', '-'].contains d) c (by simpa using sign) fun op => by
      cases op <;> decide

theorem unsymbolic_of_quote {c : Char} (quote : c = '"' ∨ c = '\'') : Unsymbolic c :=
  @unsymbolic_of (fun d => ['"', '\''].contains d) c (by simpa using quote) fun op => by
    cases op <;> decide

end Operator

namespace Condition
open Operator (Unsymbolic)

/-- A field without symbols and an operand without their characters, with a blank before the
operator, are divided at the operator. -/
theorem divide?_spaced {field gap rest : List Char} {op : Operator}
    (clear : ∀ other : Operator, ¬other.symbol.toList <:+: field) (some : gap ≠ [])
    (before : ∀ c ∈ gap, Unsymbolic c) (behind : ∀ c ∈ rest, Unsymbolic c) :
    divide? (field ++ (gap ++ (op.symbol.toList ++ rest))) =
      Option.some (op, field ++ gap, rest) := by
  obtain ⟨c, more, rfl⟩ := List.exists_cons_of_ne_nil some
  obtain ⟨first, others⟩ := List.forall_mem_cons.1 before
  rw [divide?_eq_some_iff, List.cons_append]
  constructor
  · rw [Text.splitAtFirst_append_cons op.symbol_ne_nil (first op) (clear op),
      Text.splitAtFirst_apart_append op.symbol_ne_nil fun d member => others d member op,
      Text.splitAtFirst_self_append op.symbol_ne_nil]
    simp
  · intro other earlier occurs
    rw [Text.infix_append_cons other.symbol_ne_nil (first other),
      Text.infix_apart_append other.symbol_ne_nil fun d member => others d member other,
      Text.infix_append_apart other.symbol_ne_nil fun d member => behind d member other] at occurs
    rcases occurs with field | symbol
    · exact clear other field
    · exact op.earlier_not_infix_symbol other earlier symbol

/-- A condition with an integer literal is read as its field, its operator and exactly that integer,
and holds of an integer exactly where the relation does. -/
theorem parse?_integer {record : Json} {field : String} {n m : Int} {op : Operator}
    {gap lead tail quote text : List Char}
    (trimmed : Text.trim field.toList = field.toList)
    (clear : ∀ other : Operator, ¬other.symbol.toList <:+: field.toList)
    (fits : -9223372036854775808 ≤ n ∧ n < 18446744073709551616)
    (resolved : record.at? (Path.ofText field) = some (.number (.integer n fits)))
    (spelled : Literal.IntegerText m text) (wraps : quote ∈ Literal.wrappings)
    (fits' : -9223372036854775808 ≤ m ∧ m < 18446744073709551616)
    (apart : gap ≠ []) (blank : Text.Blank gap) (ahead : Text.Blank lead)
    (behind : Text.Blank tail) :
    let c : Condition := ⟨field, op, .json (.number (.integer m fits'))⟩
    parse? (String.ofList (field.toList ++ (gap ++ (op.symbol.toList ++
      (lead ++ ((quote ++ (text ++ quote)) ++ tail)))))) = some c ∧
      (c.holds record = true ↔ op.Relates n m) := by
  intro c
  have visible : ∀ c ∈ quote ++ (text ++ quote), Unsymbolic c := by
    have quotes : ∀ c ∈ quote, Unsymbolic c := fun c member =>
      Operator.unsymbolic_of_quote (Literal.quote_of_mem_wrappings wraps c member)
    have numeric : ∀ c ∈ text, Unsymbolic c := fun c member =>
      Operator.unsymbolic_of_numeric (spelled.numeric c member)
    exact List.forall_mem_append.2 ⟨quotes, List.forall_mem_append.2 ⟨numeric, quotes⟩⟩
  have unsymbolic {blanks : List Char} (blank : Text.Blank blanks) : ∀ c ∈ blanks, Unsymbolic c :=
    fun c member => Operator.unsymbolic_of_blank (blank c member)
  have after : ∀ c ∈ lead ++ ((quote ++ (text ++ quote)) ++ tail), Unsymbolic c :=
    List.forall_mem_append.2 ⟨unsymbolic ahead,
      List.forall_mem_append.2 ⟨visible, unsymbolic behind⟩⟩
  constructor
  · rw [parse?, String.toList_ofList, divide?_spaced clear apart (unsymbolic blank) after,
      Option.map_some]
    simp only [c, Text.trim_append_blank _ blank, trimmed, String.ofList_toList,
      Text.trim_surrounded ahead (Literal.solid_wrapped spelled wraps) behind,
      Literal.operand_wrapped spelled wraps fits']
  · rw [holds_comparison resolved]
    exact Operator.accepts_iff_relates (compares_int n m) op

/-- Two integers that are rounded to one double are told apart, whatever their notation. -/
theorem parse?_integer_adjacent :
    let record : Json :=
      .object [("id", .object [("n", .number (.integer 18446744073709551614 (by decide)))])]
    ∃ c, parse? "id.n\u00a0>= \t'+0018446744073709551615'\n" = some c ∧
      c.holds record = false := by
  intro record
  have digits : ∀ c ∈ "0018446744073709551615".toList, ∃ d, Json.digit? c = some d := by
    have all : "0018446744073709551615".toList.all (fun c => (Json.digit? c).isSome) = true := by
      decide
    exact fun c member => Option.isSome_iff_exists.1 (List.all_eq_true.1 all c member)
  have spelled : Literal.IntegerText 18446744073709551615 "+0018446744073709551615".toList :=
    .plus digits (by decide)
  have blank {text : List Char} (all : text.all Text.isBlank = true) : Text.Blank text :=
    List.all_eq_true.1 all
  have clear : ∀ other : Operator, ¬other.symbol.toList <:+: "id.n".toList := by
    intro other
    cases other <;> decide
  obtain ⟨parsed, relates⟩ := @parse?_integer record "id.n" _ _ .ge ['\u00a0'] [' ', '\t'] ['\n']
    ['\''] _ rfl clear (by decide) rfl spelled (by decide) (by decide) (List.cons_ne_nil _ _)
    (blank (by decide)) (blank (by decide)) (blank (by decide))
  have less : ¬(18446744073709551614 : Int) ≥ 18446744073709551615 := by decide
  exact ⟨_, parsed, Bool.eq_false_iff.2 (mt relates.1 less)⟩

end Condition
end RecordStore

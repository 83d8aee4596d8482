import RecordStore.Condition.Parser
import RecordStore.Proofs.Literals
import RecordStore.Proofs.Occurrences
import RecordStore.Proofs.Sameness
import RecordStore.Proofs.Trimming

/-! The text of a condition and the condition it is read as. Operators are found by search, so what
matters is where their symbols occur: no symbol holds a blank or a quote, so an occurrence lies
within the field, the operator or the operand. A condition is read from its text again exactly if
nothing there is found before its operator, and all conditions that were read are of this kind. -/
namespace RecordStore

namespace Operator

/-- The operators that are searched for before this one. -/
def earlier (op : Operator) : List Operator := matchOrder.takeWhile (· != op)

theorem exists_matchOrder_eq (op : Operator) : ∃ later, matchOrder = op.earlier ++ op :: later := by
  refine ⟨(matchOrder.dropWhile (· != op)).tail, ?_⟩
  cases op <;> rfl

theorem symbol_ne_nil (op : Operator) : op.symbol.toList ≠ [] := by
  cases op <;> decide

theorem space_not_mem_symbol (op : Operator) : ' ' ∉ op.symbol.toList := by
  cases op <;> decide

theorem quote_not_mem_symbol (op : Operator) : '"' ∉ op.symbol.toList := by
  cases op <;> decide

theorem earlier_not_infix_symbol (op : Operator) :
    ∀ other ∈ op.earlier, ¬other.symbol.toList <:+: op.symbol.toList := by
  cases op <;> decide

theorem symbol_not_infix_keyword (op : Operator) :
    ∀ word ∈ Literal.keywords, ¬op.symbol.toList <:+: word.toList := by
  cases op <;> decide

/-- Every symbol has a character that no number is written with. -/
theorem exists_mem_symbol_not_numeric (op : Operator) :
    ∃ c ∈ op.symbol.toList, Json.digit? c = none ∧ c ∉ ['-', '.', 'e', '+'] := by
  have odd : op.symbol.toList.any
      (fun c => decide (Json.digit? c = none ∧ c ∉ ['-', '.', 'e', '+'])) = true := by
    cases op <;> decide
  obtain ⟨c, member, other⟩ := List.any_eq_true.1 odd
  exact ⟨c, member, of_decide_eq_true other⟩

end Operator

namespace Json.Numeral

theorem mem_of_written {text : List Char} (written : Written text) :
    ∀ c ∈ text, (∃ d, digit? c = some d) ∨ c ∈ ['-', '.', 'e', '+'] := by
  obtain @⟨sign, first, whole, fraction, exponent, signed, digit, digital, fractional,
    exponential⟩ := written
  intro c member
  simp only [List.mem_append, List.mem_cons] at member
  rcases member with member | rfl | member | member | member
  · rcases signed with rfl | rfl
    · cases member
    · exact .inr (by simp_all)
  · exact .inl digit
  · exact .inl (digital c member)
  · cases fractional with
    | absent => cases member
    | digits digital =>
      rcases List.mem_cons.1 member with rfl | member
      · exact .inr (by simp)
      · exact .inl (digital c member)
  · cases exponential with
    | absent => cases member
    | digits signed digital =>
      rcases List.mem_cons.1 member with rfl | member
      · exact .inr (by simp)
      rcases List.mem_cons.1 member with rfl | member
      · rcases signed with rfl | rfl <;> exact .inr (by simp)
      · exact .inl (digital c member)

end Json.Numeral

namespace Number

theorem symbol_not_infix_text (op : Operator) (x : Number) : ¬op.symbol.toList <:+: x.text := by
  intro occurs
  obtain ⟨c, member, plain, other⟩ := op.exists_mem_symbol_not_numeric
  rcases Json.Numeral.mem_of_written x.written_text c (occurs.subset member) with ⟨d, digit⟩ | sign
  · rw [plain] at digit
    cases digit
  · exact other sign

theorem solid_text (x : Number) : Text.Solid x.text := by
  apply Text.solid_of_forall
  intro c member
  rcases Json.Numeral.mem_of_written x.written_text c member with ⟨d, digit⟩ | sign
  · exact Json.isBlank_of_digit digit
  · simp only [List.mem_cons, List.not_mem_nil, or_false] at sign
    rcases sign with rfl | rfl | rfl | rfl <;> decide

/-- Numbers are written without quotes. -/
theorem stripQuotes_text (x : Number) : Literal.stripQuotes x.text = x.text := by
  have plain : ∀ c ∈ x.text, c ≠ '"' ∧ c ≠ '\'' := by
    intro c member
    rcases Json.Numeral.mem_of_written x.written_text c member with ⟨d, digit⟩ | sign
    · constructor <;> rintro rfl <;> cases digit
    · simp only [List.mem_cons, List.not_mem_nil, or_false] at sign
      rcases sign with rfl | rfl | rfl | rfl <;> decide
  cases text : x.text with
  | nil => rfl
  | cons c rest =>
    obtain ⟨double, single⟩ := plain c (by simp [text])
    exact Literal.stripQuotes_cons double single rest

end Number

namespace Operand

/-- Whether a text can be typed as the operand: containers cannot, and a string only if it is
neither a keyword nor a number. -/
def Typed : Operand → Prop
  | json (.string s) => s ∉ Literal.keywords ∧ Literal.number? s.toList = none
  | json (.array _) | json (.object _) => False
  | undefined | json .null | json (.bool _) | json (.number _) => True

theorem typed_operand (text : List Char) : (Literal.operand text).Typed := by
  cases typed : Literal.operand text with
  | undefined => trivial
  | json value =>
    cases value with
    | null | bool | number => trivial
    | string s =>
      obtain ⟨rfl, plain⟩ := Literal.operand_eq_string_iff.1 typed
      rwa [Typed, String.toList_ofList]
    | array | object =>
      unfold Literal.operand at typed
      split at typed
      · cases typed
      split at typed
      · cases typed
      split at typed
      · cases typed
      split at typed
      · cases typed
      · split at typed <;> cases typed

/-- The operand that its text is read as, blanks around it left aside. -/
theorem operand_text {operand : Operand} (typed : operand.Typed) :
    Literal.operand (Literal.stripQuotes (Text.trim (' ' :: operand.text))) = operand := by
  have trimmed {text : List Char} (solid : Text.Solid text) : Text.trim (' ' :: text) = text := by
    rw [← List.singleton_append, Text.trim_blank_append Text.blank_space, solid.trim]
  cases operand with
  | undefined => rfl
  | json value =>
    cases value with
    | null => rfl
    | bool value => cases value <;> rfl
    | number x =>
      rw [show (json (.number x)).text = x.text from rfl, trimmed x.solid_text,
        x.stripQuotes_text, Literal.operand_number]
    | string s =>
      have solid : Text.Solid ('"' :: (s.toList ++ ['"'])) :=
        ⟨by rintro c ⟨⟩; decide,
          by rw [← List.cons_append, List.getLast?_concat]; rintro c ⟨⟩; decide⟩
      rw [show (json (.string s)).text = '"' :: (s.toList ++ ['"']) from rfl, trimmed solid,
        Literal.stripQuotes_quoted, Literal.operand_eq_string_iff, String.ofList_toList]
      exact ⟨rfl, typed⟩
    | array | object => cases typed

theorem Typed.sameData_self {operand : Operand} (typed : operand.Typed) :
    operand.sameData operand = true := by
  cases operand with
  | undefined => rfl
  | json value =>
    cases value with
    | null => rfl
    | bool value => exact beq_self_eq_true value
    | number x => exact x.sameData_self
    | string s => exact beq_self_eq_true s
    | array | object => cases typed

/-- A string equals as data itself only. -/
theorem eq_string_of_sameData {operand : Operand} {s : String}
    (same : operand.sameData (json (.string s)) = true) : operand = json (.string s) := by
  cases operand with
  | undefined => cases same
  | json value =>
    cases value with
    | string t => rw [eq_of_beq (a := t) same]
    | null | bool | number | array | object => cases same

theorem Typed.of_sameData {operand other : Operand} (typed : operand.Typed)
    (same : operand.sameData other = true) : other.Typed := by
  cases other with
  | undefined => trivial
  | json value =>
    cases value with
    | null | bool | number => trivial
    | string s => rwa [eq_string_of_sameData same] at typed
    | array | object =>
      cases operand with
      | undefined => cases same
      | json value =>
        cases value with
        | array | object => cases typed
        | null | bool | number | string => cases same

/-- The symbols that occur in the text of an operand are those that occur in its string. -/
theorem symbol_infix_text_iff (op : Operator) {operand : Operand} (typed : operand.Typed) :
    op.symbol.toList <:+: operand.text ↔
      ∃ s, operand = json (.string s) ∧ op.symbol.toList <:+: s.toList := by
  have keyword := op.symbol_not_infix_keyword
  cases operand with
  | undefined =>
    have absent : ¬op.symbol.toList <:+: undefined.text := keyword "undefined" (by decide)
    simp [absent]
  | json value =>
    cases value with
    | null =>
      have absent : ¬op.symbol.toList <:+: (json .null).text := keyword "null" (by decide)
      simp [absent]
    | bool value =>
      have absent : ¬op.symbol.toList <:+: (json (.bool value)).text := by
        cases value with
        | true => exact keyword "true" (by decide)
        | false => exact keyword "false" (by decide)
      simp [absent]
    | number x =>
      have absent : ¬op.symbol.toList <:+: (json (.number x)).text := x.symbol_not_infix_text op
      simp [absent]
    | string s =>
      have quoted := Text.infix_append_cons (a := []) (b := s.toList ++ ['"']) op.symbol_ne_nil
        op.quote_not_mem_symbol
      have inside := Text.infix_append_cons (a := s.toList) (b := []) op.symbol_ne_nil
        op.quote_not_mem_symbol
      rw [List.nil_append, inside, List.infix_nil] at quoted
      constructor
      · intro occurs
        rcases quoted.1 occurs with none | inner | none
        · exact absurd none op.symbol_ne_nil
        · exact ⟨s, rfl, inner⟩
        · exact absurd none op.symbol_ne_nil
      · rintro ⟨_, ⟨⟩, inner⟩
        exact quoted.2 (.inr (.inl inner))
    | array | object => cases typed

end Operand

namespace Condition

theorem toList_text (c : Condition) : c.text.toList =
    c.field.toList ++ ' ' :: (c.operator.symbol.toList ++ ' ' :: c.operand.text) := by
  simp [text]

/-- A symbol in the text of a condition is in its field, in its operator or in its operand. -/
theorem symbol_infix_text_iff (op : Operator) (c : Condition) :
    op.symbol.toList <:+: c.text.toList ↔ op.symbol.toList <:+: c.field.toList ∨
      op.symbol.toList <:+: c.operator.symbol.toList ∨ op.symbol.toList <:+: c.operand.text := by
  rw [toList_text, Text.infix_append_cons op.symbol_ne_nil op.space_not_mem_symbol,
    Text.infix_append_cons op.symbol_ne_nil op.space_not_mem_symbol]

/-- A text is divided by the operator that occurs in it while no earlier one does. -/
theorem divide?_eq_some_iff {raw before after : List Char} {op : Operator} :
    divide? raw = some (op, before, after) ↔
      Text.splitAtFirst op.symbol.toList raw = some (before, after) ∧
        ∀ other ∈ op.earlier, ¬other.symbol.toList <:+: raw := by
  have missed (other : Operator) :
      (Text.splitAtFirst other.symbol.toList raw).map (fun sides => (other, sides)) = none ↔
        ¬other.symbol.toList <:+: raw := by
    rw [Option.map_eq_none_iff, Text.splitAtFirst_eq_none_iff]
  constructor
  · intro divided
    obtain ⟨front, found, back, order, here, none⟩ := List.findSome?_eq_some_iff.1 divided
    obtain ⟨sides, split, same⟩ := Option.map_eq_some_iff.1 here
    cases same
    refine ⟨split, ?_⟩
    -- The operators passed over are the earlier ones, for this one was not among them.
    have fresh : op ∉ front := by
      intro member
      have unfound := none op member
      rw [here] at unfound
      cases unfound
    have passed : op.earlier = front := by
      rw [Operator.earlier, order, List.takeWhile_append_of_pos]
      · simp
      · intro other member
        have different : other ≠ op := by
          rintro rfl
          exact fresh member
        simpa using different
    intro other member
    exact (missed other).1 (none other (passed ▸ member))
  · rintro ⟨split, none⟩
    obtain ⟨later, order⟩ := op.exists_matchOrder_eq
    refine List.findSome?_eq_some_iff.2 ⟨op.earlier, op, later, order, ?_, ?_⟩
    · rw [split]
      rfl
    · intro other member
      exact (missed other).2 (none other member)

/-- What the text of a condition has to be like for the condition to be read from it. -/
structure Legible (c : Condition) : Prop where
  trimmed : Text.trim c.field.toList = c.field.toList
  field_clear : ∀ other ∈ c.operator.earlier, ¬other.symbol.toList <:+: c.field.toList
  operand_clear : ∀ s, c.operand = .json (.string s) →
    ∀ other ∈ c.operator.earlier, ¬other.symbol.toList <:+: s.toList
  own_clear : ¬c.operator.symbol.toList <:+: c.field.toList
  typed : c.operand.Typed

/-- Where the operator's symbol does not occur in the field, the text is divided at the operator. -/
theorem splitAtFirst_text {c : Condition} (clear : ¬c.operator.symbol.toList <:+: c.field.toList) :
    Text.splitAtFirst c.operator.symbol.toList c.text.toList =
      some (c.field.toList ++ [' '], ' ' :: c.operand.text) := by
  rw [toList_text, Text.splitAtFirst_append_cons c.operator.symbol_ne_nil
    c.operator.space_not_mem_symbol clear, Text.splitAtFirst_self_append c.operator.symbol_ne_nil]
  rfl

theorem parse?_text_of_legible {c : Condition} (legible : c.Legible) :
    parse? c.text = some c := by
  have divided : divide? c.text.toList =
      some (c.operator, c.field.toList ++ [' '], ' ' :: c.operand.text) := by
    rw [divide?_eq_some_iff, splitAtFirst_text legible.own_clear]
    refine ⟨rfl, ?_⟩
    intro other member
    rw [symbol_infix_text_iff, Operand.symbol_infix_text_iff other legible.typed]
    rintro (field | symbol | ⟨s, string, inside⟩)
    · exact legible.field_clear other member field
    · exact c.operator.earlier_not_infix_symbol other member symbol
    · exact legible.operand_clear s string other member inside
  simp only [parse?, divided, Option.map_some, Text.trim_append_blank _ Text.blank_space,
    legible.trimmed, Operand.operand_text legible.typed, String.ofList_toList]

theorem legible_of_parse? {raw : String} {c : Condition} (parsed : parse? raw = some c) :
    c.Legible := by
  obtain ⟨⟨op, before, after⟩, divided, rfl⟩ := Option.map_eq_some_iff.1 parsed
  obtain ⟨split, none⟩ := divide?_eq_some_iff.1 divided
  have whole := Text.splitAtFirst_eq_some split
  have first : Text.trim before <:+: raw.toList := by
    refine (Text.trim_isInfix before).trans ?_
    rw [whole, List.append_assoc]
    exact (List.prefix_append _ _).isInfix
  have last : Literal.stripQuotes (Text.trim after) <:+: raw.toList := by
    refine ((Literal.stripQuotes_isInfix _).trans (Text.trim_isInfix after)).trans ?_
    rw [whole]
    exact (List.suffix_append _ _).isInfix
  constructor
  case trimmed => rw [String.toList_ofList, Text.trim_trim]
  case field_clear =>
    intro other member inside
    rw [String.toList_ofList] at inside
    exact none other member (inside.trans first)
  case operand_clear =>
    intro s string other member inside
    rw [← (Literal.operand_eq_string_iff.1 string).1, String.toList_ofList] at inside
    exact none other member (inside.trans last)
  case own_clear =>
    rw [String.toList_ofList]
    intro inside
    exact Text.not_infix_of_splitAtFirst op.symbol_ne_nil split
      (inside.trans (Text.trim_isInfix before))
  case typed => exact Operand.typed_operand _

theorem Legible.beq_self {c : Condition} (legible : c.Legible) : (c == c) = true := by
  have operand := legible.typed.sameData_self
  simp [BEq.beq, sameData, operand]

theorem Legible.of_beq {c d : Condition} (legible : c.Legible) (same : (c == d) = true) :
    d.Legible := by
  obtain ⟨field, operator, operand⟩ := c
  obtain ⟨field', operator', operand'⟩ := d
  obtain ⟨⟨fields, operators⟩, operands⟩ : (field = field' ∧ operator = operator') ∧
      operand.sameData operand' = true := by
    simpa [BEq.beq, sameData] using same
  subst fields operators
  constructor
  case trimmed => exact legible.trimmed
  case field_clear => exact legible.field_clear
  case own_clear => exact legible.own_clear
  case operand_clear =>
    rintro s rfl
    exact legible.operand_clear s (Operand.eq_string_of_sameData operands)
  case typed => exact legible.typed.of_sameData operands

/-- A condition is read from its own text, as itself or as an equal one, exactly if its field,
operator and operand are legible; whatever was read from a text is. -/
theorem reads_back_iff_legible (c : Condition) :
    ((parse? c.text).any (· == c) = true ↔ c.Legible) ∧ (parse? c.text = some c ↔ c.Legible) ∧
      ∀ raw, parse? raw = some c → parse? c.text = some c := by
  refine ⟨⟨?_, ?_⟩, ⟨legible_of_parse?, parse?_text_of_legible⟩, ?_⟩
  · intro again
    obtain ⟨d, parsed, same⟩ := (Option.any_eq_true _ _).1 again
    exact (legible_of_parse? parsed).of_beq same
  · intro legible
    rw [parse?_text_of_legible legible, Option.any_some]
    exact legible.beq_self
  · intro raw parsed
    exact parse?_text_of_legible (legible_of_parse? parsed)

theorem reads_back_single_quoted :
    parse? " note = 'a > b'" = some ⟨"note", .eq, .json (.string "a > b")⟩ ∧
      parse? "note = \"a > b\"" = some ⟨"note", .eq, .json (.string "a > b")⟩ :=
  have parsed : parse? " note = 'a > b'" = some ⟨"note", .eq, .json (.string "a > b")⟩ := by rfl
  ⟨parsed, (reads_back_iff_legible ⟨"note", .eq, .json (.string "a > b")⟩).2.2 _ parsed⟩

end Condition
end RecordStore

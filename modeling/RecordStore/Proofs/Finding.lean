import RecordStore.Proofs.ConditionText
import RecordStore.Proofs.Grammar
import RecordStore.Proofs.NumberReading
import RecordStore.Proofs.NumeralValues
import RecordStore.Proofs.Runs

/-! Looking for a number by the text that it was inserted with. The line holds one condition, which
is divided at its `=`, for nothing in the text of a number could be taken for another operator, for
a quote or for `AND`. So the record is found exactly if the two readers of numbers, the one of JSON
and the one of literals, come to the same value, which they do for decimals that are exact. -/
namespace RecordStore

theorem Text.splitAtFirst_char {c : Char} {before : List Char} (absent : c ∉ before)
    (after : List Char) : splitAtFirst [c] (before ++ c :: after) = some (before, after) := by
  induction before with
  | nil => exact splitAtFirst_self_append (List.cons_ne_nil _ _) after
  | cons d before ih =>
    rw [List.mem_cons, not_or] at absent
    have other : [c].isPrefixOf (d :: (before ++ c :: after)) = false := by
      simp [List.isPrefixOf, absent.1]
    rw [List.cons_append, splitAtFirst, other, ih absent.2]
    rfl

namespace Operator

/-- One character of each symbol that is searched for before `=`, the quotes, and the letters that
`AND` begins with. -/
def reserved : List Char := ['a', 'n', '!', '>', '<', '"', '\'', 'A']

theorem exists_reserved_mem_symbol {op : Operator} (before : op ∈ earlier .eq) :
    ∃ c ∈ op.symbol.toList, c ∈ reserved := by
  have marked : ∀ op ∈ earlier .eq,
      op.symbol.toList.any (fun c => decide (c ∈ reserved)) = true := by
    decide
  obtain ⟨c, member, odd⟩ := List.any_eq_true.1 (marked op before)
  exact ⟨c, member, of_decide_eq_true odd⟩

end Operator

namespace Json

open Operator (reserved)

theorem not_reserved_of_isSpace {c : Char} (space : isSpace c = true) : c ∉ reserved := by
  simp only [isSpace, Bool.or_eq_true, beq_iff_eq] at space
  rcases space with ((rfl | rfl) | rfl) | rfl <;> decide

end Json

/-- A text without reserved characters. -/
def Plain (text : List Char) : Prop := ∀ c ∈ text, c ∉ Operator.reserved

instance (text : List Char) : Decidable (Plain text) :=
  decidable_of_iff (text.all (fun c => decide (c ∉ Operator.reserved)) = true) (by simp [Plain])

namespace Plain

open Text Console.Conjunction

variable {text : List Char}

theorem openQuote (plain : Plain text) : openQuote none text = none := by
  apply openQuote_of_plain
  intro c member
  constructor
  · rintro rfl
    exact plain _ member (by decide)
  · rintro rfl
    exact plain _ member (by decide)

theorem wellFormed (plain : Plain text) (visible : text ≠ []) (solid : Solid text) :
    WellFormed (String.ofList text) := by
  constructor
  case visible => rwa [String.toList_ofList]
  case trimmed => rw [String.toList_ofList, solid.trim]
  case closed =>
    rw [String.toList_ofList]
    exact plain.openQuote
  case single =>
    intro a word b whole spelled
    rw [String.toList_ofList] at whole
    obtain ⟨c, n, d, rfl⟩ := exists_of_spelled spelled
    have raised : c.toUpper = 'A' := by
      have letters : [c.toUpper, n.toUpper, d.toUpper] = ['A', 'N', 'D'] := beq_iff_eq.1 spelled
      exact (List.cons.inj letters).1
    have letter : c = 'a' ∨ c = 'A' := by
      have code := congrArg Char.toNat raised
      change _ = 65 at code
      rw [toNat_toUpper] at code
      split at code
      · left
        apply Char.toNat_inj.1
        change _ = 97
        omega
      · exact .inr (Char.toNat_inj.1 code)
    have first : c ∉ Operator.reserved := plain c (by simp [whole])
    rcases letter with rfl | rfl
    · exact absurd (by decide) first
    · exact absurd (by decide) first

theorem append {front : List Char} (before : Plain front) (plain : Plain text) :
    Plain (front ++ text) := List.forall_mem_append.2 ⟨before, plain⟩

/-- A plain text is divided at its first `=`. -/
theorem divide? {field : List Char} (before : Plain field) (whole : '=' ∉ field)
    (plain : Plain text) :
    Condition.divide? (field ++ '=' :: text) = some (.eq, field, text) := by
  have all : Plain (field ++ '=' :: text) :=
    before.append (List.forall_mem_cons.2 ⟨by decide, plain⟩)
  rw [Condition.divide?_eq_some_iff]
  refine ⟨splitAtFirst_char whole text, ?_⟩
  intro other earlier occurs
  obtain ⟨c, member, odd⟩ := Operator.exists_reserved_mem_symbol earlier
  exact all c (occurs.subset member) odd

theorem parse? {field : List Char} (before : Plain field) (whole : '=' ∉ field)
    (plain : Plain text) : Condition.parse? (String.ofList (field ++ '=' :: text)) = some
      ⟨String.ofList (trim field), .eq, Literal.operand (Literal.stripQuotes (trim text))⟩ := by
  rw [Condition.parse?, String.toList_ofList, before.divide? whole plain, Option.map_some]

/-- A plain text behind the keyword, blanks apart, is one condition. -/
theorem parse_find {line : String} {blanks : List Char} (plain : Plain text) (visible : text ≠ [])
    (solid : Solid text) (blank : Blank blanks)
    (whole : line.toList = "FIND".toList ++ ' ' :: (text ++ blanks)) :
    Console.Command.parse line = .ok (.find [String.ofList text]) := by
  have chain : Console.Command.Chain [String.ofList text] text := by
    have joined : Joined [String.ofList text] (String.ofList text).toList := .last _
    rw [String.toList_ofList] at joined
    exact ⟨List.forall_mem_singleton.2 (plain.wellFormed visible solid), joined⟩
  have trimmed : trim (text ++ blanks) = text := by
    rw [trim_append_blank _ blank, solid.trim]
  have some : trim (text ++ blanks) ≠ [] := by rwa [trimmed]
  rw [Console.Command.parse_find whole rfl some, ← Console.Command.conditions_trim, trimmed,
    chain.conditions]
  rfl

end Plain

namespace Json.NumeralParts

open Numeral

/-- The characters that the texts of numbers are written with. -/
def Numeric (c : Char) : Prop := (∃ d, digit? c = some d) ∨ c ∈ ['-', '+', '.', 'e', 'E']

variable (p : NumeralParts)

theorem numeric_text : ∀ c ∈ p.text, Numeric c := by
  obtain ⟨negative, whole, fraction, decimals, exponent, e, nonempty, digits, fractional,
    exponential⟩ := p
  have sign : ∀ c ∈ (if negative then ['-'] else []), Numeric c := by
    cases negative <;> simp [Numeric]
  have decimal : ∀ c ∈ fraction, Numeric c := by
    cases fractional with
    | absent => exact List.forall_mem_nil _
    | digits _ digital =>
      exact List.forall_mem_cons.2 ⟨.inr (by decide), fun c member => .inl (digital c member)⟩
  have power : ∀ c ∈ exponent, Numeric c := by
    have marked {mark : Char} (either : mark = 'e' ∨ mark = 'E') : Numeric mark := by
      rcases either with rfl | rfl <;> exact .inr (by decide)
    cases exponential with
    | absent => exact List.forall_mem_nil _
    | plain mark _ digital =>
      exact List.forall_mem_cons.2 ⟨marked mark, fun c member => .inl (digital c member)⟩
    | @signed _ sign' _ mark either _ digital =>
      have signed : Numeric sign' := by
        rcases either with rfl | rfl <;> exact .inr (by decide)
      exact List.forall_mem_cons.2 ⟨marked mark, List.forall_mem_cons.2 ⟨signed,
        fun c member => .inl (digital c member)⟩⟩
  have unsigned : ∀ c ∈ whole ++ (fraction ++ exponent), Numeric c :=
    List.forall_mem_append.2 ⟨fun c member => .inl (digits c member),
      List.forall_mem_append.2 ⟨decimal, power⟩⟩
  exact List.forall_mem_append.2 ⟨sign, unsigned⟩

theorem text_ne_nil : p.text ≠ [] := by
  simp [text, unsigned, p.nonempty]

theorem not_reserved_of_numeric {c : Char} (numeric : Numeric c) : c ∉ Operator.reserved := by
  rcases numeric with ⟨d, digit⟩ | sign
  · intro member
    have undigital : Operator.reserved.all (fun c => (digit? c).isNone) = true := by decide
    have none := List.all_eq_true.1 undigital c member
    rw [digit] at none
    cases none
  · simp only [List.mem_cons, List.not_mem_nil, or_false] at sign
    rcases sign with rfl | rfl | rfl | rfl | rfl <;> decide

theorem isBlank_of_numeric {c : Char} (numeric : Numeric c) : Text.isBlank c = false := by
  rcases numeric with ⟨d, digit⟩ | sign
  · exact isBlank_of_digit digit
  · simp only [List.mem_cons, List.not_mem_nil, or_false] at sign
    rcases sign with rfl | rfl | rfl | rfl | rfl <;> decide

theorem solid_text : Text.Solid p.text :=
  Text.solid_of_forall fun c member => isBlank_of_numeric (p.numeric_text c member)

theorem plain_text : Plain p.text :=
  fun c member => not_reserved_of_numeric (p.numeric_text c member)

/-- The text of a number is typed as itself. -/
theorem operand_text : Literal.operand (Literal.stripQuotes p.text) =
    ((Literal.number? p.text).map fun y => .json (.number y)).getD
      (.json (.string (String.ofList p.text))) := by
  have odd : ∀ word ∈ Literal.keywords, word.toList.any (fun c =>
      decide (digit? c = none ∧ c ∉ ['-', '+', '.', 'e', 'E'])) = true := by
    decide
  -- Each keyword has a letter that is in no number.
  have other : String.ofList p.text ∉ Literal.keywords := by
    intro keyword
    obtain ⟨c, member, unlike⟩ := List.any_eq_true.1 (odd _ keyword)
    obtain ⟨plain, unsigned⟩ := of_decide_eq_true unlike
    rw [String.toList_ofList] at member
    rcases p.numeric_text c member with ⟨d, digit⟩ | sign
    · rw [plain] at digit
      cases digit
    · exact unsigned sign
  have bare : Literal.stripQuotes p.text = p.text := by
    obtain ⟨c, rest, text⟩ := List.exists_cons_of_ne_nil p.text_ne_nil
    have free : c ∉ Operator.reserved := p.plain_text c (by simp [text])
    rw [text]
    apply Literal.stripQuotes_cons
    · rintro rfl
      exact absurd (by decide) free
    · rintro rfl
      exact absurd (by decide) free
  rw [bare, Literal.operand_of_other other]

end Json.NumeralParts

namespace Console.Command

open Text World Query

variable {t : String} {x : Number} {p : Json.NumeralParts} {lead tail : List Char}

theorem parse_insertNumber (accepted : Json.ofText t = .ok (.number x)) :
    parse ("INSERT \x7b\"x\": " ++ t ++ "\x7d") = .ok (.insert (.object [("x", .number x)])) := by
  have whole : ("INSERT \x7b\"x\": " ++ t ++ "\x7d").toList =
      "INSERT".toList ++ ' ' :: ("\x7b\"x\": " ++ t ++ "\x7d").toList := by
    simp only [String.toList_append]
    rfl
  have solid : Solid ("\x7b\"x\": " ++ t ++ "\x7d").toList := by
    simp only [String.toList_append, List.append_assoc]
    apply solid_of_ends (by decide) (by decide)
    · rintro _ ⟨⟩
      decide
    · rintro _ ⟨⟩
      decide
  exact parse_insert whole rfl (Json.ofText_member accepted) rfl solid

/-- The line is read as one condition, which is divided where the line has its `=`. -/
theorem parse_findNumber (split : t.toList = lead ++ (p.text ++ tail))
    (before : ∀ c ∈ lead, Json.isSpace c = true) (behind : ∀ c ∈ tail, Json.isSpace c = true) :
    ∃ raw, parse ("FIND x = " ++ t) = .ok (.find [raw]) ∧ Condition.parse? raw =
      some ⟨"x", .eq, Literal.operand (Literal.stripQuotes p.text)⟩ := by
  have gap : Blank (' ' :: lead) :=
    blank_space.append fun c member => Json.isBlank_of_isSpace (before c member)
  have rest : Blank tail := fun c member => Json.isBlank_of_isSpace (behind c member)
  have field : Plain ['x', ' '] := by decide
  have value : Plain ((' ' :: lead) ++ p.text) := by
    refine Plain.append ?_ p.plain_text
    exact List.forall_mem_cons.2 ⟨by decide, fun c member =>
      Json.not_reserved_of_isSpace (before c member)⟩
  have plain : Plain (['x', ' ', '='] ++ ((' ' :: lead) ++ p.text)) :=
    Plain.append (by decide) value
  have solid : Solid (['x', ' ', '='] ++ ((' ' :: lead) ++ p.text)) :=
    solid_of_ends (by decide) p.text_ne_nil (by rintro _ ⟨⟩; decide) p.solid_text.last
  have whole : ("FIND x = " ++ t).toList =
      "FIND".toList ++ ' ' :: ((['x', ' ', '='] ++ ((' ' :: lead) ++ p.text)) ++ tail) := by
    simp only [String.toList_append, split, List.append_assoc]
    rfl
  refine ⟨_, plain.parse_find (List.cons_ne_nil _ _) solid rest whole, ?_⟩
  have condition := field.parse? (by decide) value
  rw [trim_blank_append gap, p.solid_text.trim] at condition
  exact condition

/-- Numbers are equal by value, and a literal that is no number equals none. -/
theorem holds_number_iff : Condition.holds
    ⟨"x", .eq, Literal.operand (Literal.stripQuotes p.text)⟩ (.object [("x", .number x)]) = true ↔
      ∃ y, Literal.number? p.text = some y ∧ x.compare y = .eq := by
  have present : (Json.object [("x", .number x)]).at? (Path.ofText "x") = some (.number x) := rfl
  rw [Condition.holds, present, p.operand_text]
  cases Literal.number? p.text with
  | none =>
    constructor
    · intro same
      cases same
    · rintro ⟨y, found, -⟩
      cases found
  | some y => simp [Operator.holds, Operand.equals]

/-- The records that are found are those that meet the chain. -/
theorem recordsAt_selected (texts : List String) (records : List Json) :
    recordsAt (selected texts records) records = records.filter (meets texts) :=
  MarkedList.filterMap_filter_range records (meets texts)

/-- A number that is inserted is found by the same text exactly if the text, as the literal of a
condition, has the value that it was inserted with; the two are read apart, and may differ where
the digits and the power of ten of the text are no doubles. -/
theorem find_of_insert {F : Type} [FileSystem F] {world : World F} (reachable : world.Reachable)
    (store : Store) {t : String} {x : Number} (accepted : Json.ofText t = .ok (.number x)) :
    let record : Json := .object [("x", .number x)]
    let inserted := run ((insert record).execute store) world
    parse ("INSERT \x7b\"x\": " ++ t ++ "\x7d") = .ok (.insert record) ∧
      inserted.1.2 = { store with records := store.records ++ [record] } ∧
      ∃ texts items, parse ("FIND x = " ++ t) = .ok (.find texts) ∧
        (run ((find texts).execute inserted.1.2) inserted.2).1 =
          (.ok (.items items), inserted.1.2) ∧
        (record ∈ items ↔
          ∃ y, Literal.number? (trim t.toList) = some y ∧ x.compare y = .eq) ∧
        ∃ d, Decimal.ofText? (Decimal.splitSign (trim t.toList)).2 = some d ∧
          (d.Exact → record ∈ items) := by
  intro record inserted
  obtain ⟨lead, core, tail, n, split, before, behind, numeral, finished⟩ :=
    Json.exists_numeral_of_ofText accepted
  obtain ⟨p, rfl⟩ := Json.exists_parts numeral finished
  obtain ⟨raw, parsed, condition⟩ := parse_findNumber split before behind
  obtain ⟨reply, -, persists⟩ : ∃ reply, reply ≠ .exit ∧
      Store.Persists ((insert record).execute store) world
        { store with records := store.records ++ [record] } reply :=
    persists_execute reachable.faithful store rfl
  have memory : inserted.1.2 = { store with records := store.records ++ [record] } :=
    persists.store
  have trimmed : trim t.toList = p.text := by
    rw [split]
    exact trim_surrounded (fun c member => Json.isBlank_of_isSpace (before c member)) p.solid_text
      (fun c member => Json.isBlank_of_isSpace (behind c member))
  have found : record ∈ inserted.1.2.records.filter (meets [raw]) ↔
      ∃ y, Literal.number? p.text = some y ∧ x.compare y = .eq := by
    have met : meets [raw] record = true ↔
        Condition.holds ⟨"x", .eq, Literal.operand (Literal.stripQuotes p.text)⟩ record = true := by
      simp [meets, condition]
    have present : record ∈ inserted.1.2.records := by simp [memory]
    rw [List.mem_filter, and_iff_right present, met, holds_number_iff]
  refine ⟨parse_insertNumber accepted, memory, [raw], inserted.1.2.records.filter (meets [raw]),
    parsed, ?_, ?_, p.decimal, ?_, ?_⟩
  · rw [execute_find (reachable.faithful.run _), recordsAt_selected]
  · rw [trimmed]
    exact found
  · rw [trimmed, p.splitSign_text]
    exact p.ofText?_unsigned
  · intro exact
    rw [found]
    exact Literal.exists_number?_of_exact numeral finished exact

theorem find_of_insert_scaled :
    let t := "\n-12.50E+3 "
    let store : Store := ⟨"records.json", [.object []], .default, .shared⟩
    ∃ x texts items, Json.ofText t = .ok (.number x) ∧
      parse ("FIND x = " ++ t) = .ok (.find texts) ∧
      let record : Json := .object [("x", .number x)]
      let inserted := run ((insert record).execute store) (World.start Disk.empty)
      (run ((find texts).execute inserted.1.2) inserted.2).1 =
        (.ok (.items items), inserted.1.2) ∧ record ∈ items := by
  intro t store
  obtain ⟨x, accepted⟩ : ∃ x, Json.ofText t = .ok (.number x) :=
    Json.exists_number_of_ofText (by decide +kernel)
  obtain ⟨-, -, texts, items, parsed, executed, -, d, read, found⟩ :=
    find_of_insert (.start Disk.empty) store accepted
  have digits : Decimal.ofText? (Decimal.splitSign (trim t.toList)).2 = some ⟨1250, 1⟩ := by
    decide +kernel
  refine ⟨x, texts, items, accepted, parsed, executed, found ?_⟩
  rw [digits] at read
  cases read
  unfold Decimal.Exact
  decide

/-- Digits that are divided by a power of ten may come to the neighbour of the double that their
text is read as where it is looked for. -/
theorem find_misses_insert :
    let t := "0.9716638049837987"
    let store : Store := ⟨"records.json", [], .default, .shared⟩
    let lines := ["INSERT \x7b\"x\": " ++ t ++ "\x7d", "FIND x = " ++ t]
    let ran := run (runCommands .pretty lines store) (World.start Disk.empty)
    ran.1.code = 0 ∧ ran.1.store.records.length = 1 ∧
      ran.1.output.out = "Inserted 1 record(s).\nReturned 0 record(s).\n" := by
  decide +kernel

end Console.Command
end RecordStore

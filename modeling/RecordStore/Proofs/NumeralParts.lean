import RecordStore.Proofs.DecimalText

/-! The parts of a numeral: digits with a sign before them, and a fraction and an exponent behind
them, the digits alone never missing. Every text that the reader of numbers takes has these parts,
and the reader of decimals takes them for the decimal that they spell. -/
namespace RecordStore.Json

open Decimal (natOfDigits EndsDigits)

namespace Numeral

/-- A fraction in the text of a number, with its digits. -/
inductive FractionPart : List Char → List Char → Prop where
  | absent : FractionPart [] []
  | digits {digits : List Char} : digits ≠ [] → Digits digits → FractionPart ('.' :: digits) digits

/-- An exponent in the text of a number, with its value. -/
inductive ExponentPart : List Char → Int → Prop where
  | absent : ExponentPart [] 0
  | plain {mark : Char} {digits : List Char} : mark = 'e' ∨ mark = 'E' → digits ≠ [] →
    Digits digits → ExponentPart (mark :: digits) (natOfDigits digits)
  | signed {mark sign : Char} {digits : List Char} : mark = 'e' ∨ mark = 'E' →
    sign = '+' ∨ sign = '-' → digits ≠ [] → Digits digits →
    ExponentPart (mark :: sign :: digits)
      (if sign = '-' then -(natOfDigits digits : Int) else natOfDigits digits)

def Tail (text : List Char) : Prop :=
  ∃ fraction decimals exponent e, text = fraction ++ exponent ∧ FractionPart fraction decimals ∧
    ExponentPart exponent e

/-- What may still come of the text of a number at a stage of reading it. -/
def Stage.Behind : Stage → List Char → Prop
  | .minus, text => ∃ whole tail, text = whole ++ tail ∧ whole ≠ [] ∧ Digits whole ∧ Tail tail
  | .leadingZero, text | .integer, text | .longInteger, text =>
    ∃ whole tail, text = whole ++ tail ∧ Digits whole ∧ Tail tail
  | .point, text => ∃ digits exponent e, text = digits ++ exponent ∧ digits ≠ [] ∧
    Digits digits ∧ ExponentPart exponent e
  | .fraction, text | .longFraction, text => ∃ digits exponent e, text = digits ++ exponent ∧
    Digits digits ∧ ExponentPart exponent e
  | .exponentMark, text => ∃ sign digits, text = sign ++ digits ∧
    (sign = [] ∨ sign = ['+'] ∨ sign = ['-']) ∧ digits ≠ [] ∧ Digits digits
  | .exponentSign _, text => text ≠ [] ∧ Digits text
  | .exponent _ _, text | .vanished, text => Digits text

variable {n m : Numeral} {c : Char} {text : List Char}

theorem behind_nil {x : Number} (finished : n.finish = .ok x) : n.stage.Behind [] := by
  obtain ⟨negative, significand, scale, stage⟩ := n
  have none : Digits [] := List.forall_mem_nil _
  have tail : Tail [] := ⟨[], [], [], 0, rfl, .absent, .absent⟩
  cases stage with
  | minus | point | exponentMark | exponentSign => cases finished
  | leadingZero | integer | longInteger => exact ⟨[], [], rfl, none, tail⟩
  | fraction | longFraction => exact ⟨[], [], 0, rfl, none, .absent⟩
  | exponent | vanished => exact none

theorem digits_cons {d : Nat} (digit : digit? c = some d) (digits : Digits text) :
    Digits (c :: text) :=
  List.forall_mem_cons.2 ⟨⟨d, digit⟩, digits⟩

/-- What follows the digits of the whole part is a fraction or an exponent. -/
theorem behind_of_afterDigits {pointAllowed : Bool}
    (taken : n.afterDigits pointAllowed c = .more m) (behind : m.stage.Behind text) :
    Tail (c :: text) ∧ (pointAllowed = false → ∃ e, ExponentPart (c :: text) e) := by
  have marked (mark : c = 'e' ∨ c = 'E') (behind : Stage.exponentMark.Behind text) :
      ∃ e, ExponentPart (c :: text) e := by
    obtain ⟨sign, digits, rfl, rfl | rfl | rfl, some, digital⟩ := behind
    · exact ⟨_, .plain mark some digital⟩
    · exact ⟨_, .signed mark (.inl rfl) some digital⟩
    · exact ⟨_, .signed mark (.inr rfl) some digital⟩
  unfold afterDigits at taken
  split at taken
  · next point =>
    obtain ⟨rfl, allowed⟩ := point
    cases taken
    obtain ⟨digits, exponent, e, rfl, some, digital, exponential⟩ := behind
    refine ⟨⟨'.' :: digits, digits, exponent, e, rfl, .digits some digital, exponential⟩, ?_⟩
    intro refused
    rw [allowed] at refused
    cases refused
  split at taken
  · next mark =>
    cases taken
    obtain ⟨e, exponential⟩ := marked mark behind
    exact ⟨⟨[], [], c :: text, e, rfl, .absent, exponential⟩, fun _ => ⟨e, exponential⟩⟩
  · cases taken

theorem behind_whole {d : Nat} (digit : digit? c = some d)
    (behind : ∃ whole tail, text = whole ++ tail ∧ Digits whole ∧ Tail tail) :
    ∃ whole tail, c :: text = whole ++ tail ∧ whole ≠ [] ∧ Digits whole ∧ Tail tail := by
  obtain ⟨whole, tail, rfl, digits, ending⟩ := behind
  exact ⟨c :: whole, tail, rfl, List.cons_ne_nil _ _, digits_cons digit digits, ending⟩

theorem behind_fraction {d : Nat} (digit : digit? c = some d)
    (behind : ∃ digits exponent e, text = digits ++ exponent ∧ Digits digits ∧
      ExponentPart exponent e) : ∃ digits exponent e,
        c :: text = digits ++ exponent ∧ digits ≠ [] ∧ Digits digits ∧ ExponentPart exponent e := by
  obtain ⟨digits, exponent, e, rfl, digital, exponential⟩ := behind
  exact ⟨c :: digits, exponent, e, rfl, List.cons_ne_nil _ _, digits_cons digit digital,
    exponential⟩

theorem behind_of_takeFraction {d : Nat} (behind : (n.takeFraction d).stage.Behind text) :
    Stage.fraction.Behind text := by
  unfold takeFraction at behind
  split at behind <;> exact behind

theorem behind_of_takeExponent {checked negative : Bool} {value d : Nat}
    (taken : n.takeExponent checked negative value d = .more m) (behind : m.stage.Behind text) :
    Digits text := by
  unfold takeExponent at taken
  split at taken
  · cases taken
    exact behind
  · split at taken
    · cases taken
    · cases taken
      exact behind

theorem behind_first {d : Nat}
    (behind : (if d = 0 then Stage.leadingZero else .integer).Behind text) :
    ∃ whole tail, text = whole ++ tail ∧ Digits whole ∧ Tail tail := by
  split at behind <;> exact behind

/-- A digit continues the part it stands in. -/
theorem behind_digit {d : Nat} (digit : digit? c = some d) (taken : n.step true c = .more m)
    (behind : m.stage.Behind text) : n.stage.Behind (c :: text) := by
  obtain ⟨negative, significand, scale, stage⟩ := n
  cases stage <;> simp only [step, digit] at taken
  case minus =>
    cases taken
    exact behind_whole digit (behind_first behind)
  case leadingZero => cases taken
  case integer =>
    have more : Stage.integer.Behind text := by
      split at taken <;> cases taken <;> exact behind
    obtain ⟨whole, tail, split, -, digits, ending⟩ := behind_whole digit more
    exact ⟨whole, tail, split, digits, ending⟩
  case longInteger =>
    cases taken
    obtain ⟨whole, tail, split, -, digits, ending⟩ := behind_whole digit behind
    exact ⟨whole, tail, split, digits, ending⟩
  case point =>
    cases taken
    exact behind_fraction digit (behind_of_takeFraction behind)
  case fraction =>
    cases taken
    obtain ⟨digits, exponent, e, split, -, digital, exponential⟩ :=
      behind_fraction digit (behind_of_takeFraction behind)
    exact ⟨digits, exponent, e, split, digital, exponential⟩
  case longFraction =>
    cases taken
    obtain ⟨digits, exponent, e, split, -, digital, exponential⟩ := behind_fraction digit behind
    exact ⟨digits, exponent, e, split, digital, exponential⟩
  case exponentMark =>
    exact ⟨[], c :: text, rfl, .inl rfl, List.cons_ne_nil _ _,
      digits_cons digit (behind_of_takeExponent taken behind)⟩
  case exponentSign =>
    exact ⟨List.cons_ne_nil _ _, digits_cons digit (behind_of_takeExponent taken behind)⟩
  case exponent => exact digits_cons digit (behind_of_takeExponent taken behind)
  case vanished =>
    cases taken
    exact digits_cons digit behind

/-- Any other character ends a part and begins the next. -/
theorem behind_other (plain : digit? c = none) (taken : n.step true c = .more m)
    (behind : m.stage.Behind text) : n.stage.Behind (c :: text) := by
  obtain ⟨negative, significand, scale, stage⟩ := n
  have none : Digits [] := List.forall_mem_nil _
  cases stage <;> simp only [step, plain] at taken
  case leadingZero | integer | longInteger =>
    exact ⟨[], c :: text, rfl, none, (behind_of_afterDigits taken behind).1⟩
  case fraction | longFraction =>
    obtain ⟨e, exponential⟩ := (behind_of_afterDigits taken behind).2 rfl
    exact ⟨[], c :: text, e, rfl, none, exponential⟩
  case exponentMark =>
    split at taken
    · next signed =>
      cases taken
      exact ⟨[c], text, rfl, .inr (by simpa using signed), behind.1, behind.2⟩
    · cases taken
  all_goals cases taken

theorem behind_of_scan? {x : Number} (scanned : n.scan? true text = some m)
    (finished : m.finish = .ok x) : n.stage.Behind text := by
  induction text generalizing n with
  | nil =>
    cases scanned
    exact behind_nil finished
  | cons c text ih =>
    simp only [scan?] at scanned
    cases taken : n.step true c with
    | more next =>
      rw [taken] at scanned
      cases digit : digit? c with
      | some d => exact behind_digit digit taken (ih scanned)
      | none => exact behind_other digit taken (ih scanned)
    | stop | fault =>
      rw [taken] at scanned
      cases scanned

/-! The exponent as the reader of decimals takes it. -/

theorem intOfText?_sign {sign : Char} {digits : List Char} (signed : sign = '+' ∨ sign = '-')
    (some : digits ≠ []) (digital : Digits digits) :
    Decimal.intOfText? (sign :: digits) =
      Option.some (if sign = '-' then -(natOfDigits digits : Int) else natOfDigits digits) := by
  have read := Decimal.natOfText?_digits digital some
  rcases signed with rfl | rfl
  · simp [Decimal.intOfText?, Decimal.splitSign, read]
  · simp [Decimal.intOfText?, Decimal.splitSign, read]

theorem intOfText?_digits {digits : List Char} (some : digits ≠ []) (digital : Digits digits) :
    Decimal.intOfText? digits = Option.some (natOfDigits digits : Int) := by
  simp [Decimal.intOfText?, Decimal.splitSign_digits digital,
    Decimal.natOfText?_digits digital some]

namespace ExponentPart

variable {e : Int}

theorem exponentOfText? (exponential : ExponentPart text e) :
    Decimal.exponentOfText? text = some e := by
  cases exponential with
  | absent => rfl
  | plain mark some digital =>
    rw [Decimal.exponentOfText?, if_pos mark, intOfText?_digits some digital]
  | signed mark sign some digital =>
    rw [Decimal.exponentOfText?, if_pos mark, intOfText?_sign sign some digital]

/-- An exponent begins with its mark. -/
theorem mark_of_head? (exponential : ExponentPart text e) :
    ∀ c ∈ text.head?, c = 'e' ∨ c = 'E' := by
  cases exponential with
  | absent => nofun
  | plain mark | signed mark =>
    rintro _ ⟨⟩
    exact mark

theorem endsDigits (exponential : ExponentPart text e) : EndsDigits text := by
  intro c first
  rcases exponential.mark_of_head? c first with rfl | rfl <;> rfl

end ExponentPart
end Numeral

/-- The text of a number, in its parts. -/
structure NumeralParts where
  negative : Bool
  whole : List Char
  fraction : List Char
  decimals : List Char
  exponent : List Char
  power : Int
  nonempty : whole ≠ []
  digits : Numeral.Digits whole
  fractional : Numeral.FractionPart fraction decimals
  exponential : Numeral.ExponentPart exponent power

namespace NumeralParts
open Numeral

def unsigned (p : NumeralParts) : List Char := p.whole ++ (p.fraction ++ p.exponent)

def text (p : NumeralParts) : List Char := (if p.negative then ['-'] else []) ++ p.unsigned

/-- The decimal that the parts spell, the sign apart. -/
def decimal (p : NumeralParts) : Decimal :=
  ⟨natOfDigits (p.whole ++ p.decimals), p.power - p.decimals.length⟩

variable (p : NumeralParts)

/-- A number with neither fraction nor exponent. -/
def Integral : Prop := p.fraction = [] ∧ p.exponent = []

theorem splitSign_text : Decimal.splitSign p.text = (p.negative, p.unsigned) := by
  obtain ⟨negative, whole, fraction, decimals, exponent, e, some, digits, -, -⟩ := p
  obtain ⟨c, rest, rfl⟩ := List.exists_cons_of_ne_nil some
  cases negative with
  | true => rfl
  | false =>
    exact Decimal.splitSign_cons (Decimal.isDigit_of_digits digits c List.mem_cons_self) _

/-- The decimal reader takes the parts for what they spell. -/
theorem ofText?_unsigned : Decimal.ofText? p.unsigned = some p.decimal := by
  obtain ⟨negative, whole, fraction, decimals, exponent, e, some, digits, fractional,
    exponential⟩ := p
  cases fractional with
  | absent =>
    have pointless : '.' ∉ exponent.head? := by
      intro first
      rcases exponential.mark_of_head? _ first with same | same <;> cases same
    have read := Decimal.ofText?_whole digits some exponential.endsDigits pointless
    rw [exponential.exponentOfText?] at read
    simpa [unsigned, decimal] using read
  | digits _ digital =>
    have read := Decimal.ofText?_fraction digits some digital exponential.endsDigits
    rw [exponential.exponentOfText?] at read
    exact read

theorem intOfText?_text_of_integral (integral : p.Integral) :
    Decimal.intOfText? p.text = some (if p.negative then -(p.decimal.digits : Int)
      else p.decimal.digits) := by
  have sign := p.splitSign_text
  obtain ⟨negative, whole, fraction, decimals, exponent, e, nonempty, digits, fractional,
    exponential⟩ := p
  cases fractional with
  | digits => cases integral.1
  | absent =>
    cases integral.2
    have read := Decimal.natOfText?_digits digits nonempty
    simp only [Decimal.intOfText?, sign, unsigned, decimal, List.append_nil, read]
    rfl

theorem intOfText?_text_of_not_integral (fractional : ¬p.Integral) :
    Decimal.intOfText? p.text = none := by
  have marked : ∃ c ∈ p.unsigned, Decimal.isDigit c = false := by
    obtain ⟨negative, whole, fraction, decimals, exponent, e, nonempty, digits, before,
      exponential⟩ := p
    cases before with
    | digits => exact ⟨'.', by simp [unsigned], rfl⟩
    | absent =>
      cases exponential with
      | absent => exact absurd ⟨rfl, rfl⟩ fractional
      | @plain mark _ marked | @signed mark _ _ marked =>
        refine ⟨mark, by simp [unsigned], ?_⟩
        rcases marked with rfl | rfl <;> rfl
  have undigital : p.unsigned.all Decimal.isDigit = false := by
    simpa only [List.all_eq_false, Bool.not_eq_true] using marked
  simp [Decimal.intOfText?, p.splitSign_text, Decimal.natOfText?, undigital]

end NumeralParts

open Numeral

/-- A complete numeral is a sign, digits, a fraction and an exponent. -/
theorem exists_parts {text : List Char} {n : Numeral} {x : Number}
    (read : Numeral.ofText? text = some n) (finished : n.finish = .ok x) :
    ∃ p : NumeralParts, text = p.text := by
  have parted (negative : Bool) {unsigned : List Char}
      (behind : Stage.minus.Behind unsigned) :
      ∃ p : NumeralParts, (if negative then ['-'] else []) ++ unsigned = p.text := by
    obtain ⟨whole, _, rfl, some, digits, fraction, decimals, exponent, e, rfl, fractional,
      exponential⟩ := behind
    exact ⟨⟨negative, whole, fraction, decimals, exponent, e, some, digits, fractional,
      exponential⟩, rfl⟩
  cases text with
  | nil => cases read
  | cons c text =>
    obtain ⟨first, begins, scanned⟩ := Option.bind_eq_some_iff.1 read
    have behind := behind_of_scan? scanned finished
    unfold begin? at begins
    split at begins
    · next sign =>
      cases sign
      cases begins
      exact parted true behind
    · obtain ⟨d, digit, rfl⟩ := Option.map_eq_some_iff.1 begins
      exact parted false (behind_whole digit (behind_first behind))

end RecordStore.Json

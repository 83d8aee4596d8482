import Mathlib.Data.List.Basic
import RecordStore.Proofs.NumeralParts

/-! Numbers are written by the grammar of JSON: a whole part without needless zeros, and a point or
a mark of an exponent never without digits behind it. So the reader finds no fault in the text of a
number as long as it leaves the range of numbers unchecked, whether or not it could value them. -/
namespace RecordStore

/-- Whether a whole part begins with a zero only where it is zero. -/
def Json.NumeralParts.Unpadded (p : NumeralParts) : Prop := p.whole = ['0'] ∨ '0' ∉ p.whole.head?

namespace Decimal
open Json
open Json.Numeral

theorem head?_natText {n : Nat} (nonzero : n ≠ 0) : '0' ∉ (natText n).head? := by
  have leading : ∀ d < 10, d ≠ 0 → Nat.digitChar d ≠ '0' := by decide
  induction n using Nat.strongRecOn with
  | ind n ih =>
    unfold natText at ih ⊢
    by_cases small : n < 10
    · rw [Nat.toDigits_of_lt_base small]
      simpa using leading n small nonzero
    · rw [Nat.toDigits_of_base_le (by decide) (by omega),
        List.head?_append_of_ne_nil _ Nat.toDigits_ne_nil]
      exact ih (n / 10) (by omega) (by omega)

theorem exponentPart_exponentText (z : Int) : ∃ e, ExponentPart (exponentText z) e := by
  unfold exponentText
  split
  · exact ⟨_, .signed (.inl rfl) (.inr rfl) Nat.toDigits_ne_nil (digits_natText _)⟩
  · exact ⟨_, .signed (.inl rfl) (.inl rfl) Nat.toDigits_ne_nil (digits_natText _)⟩

/-- Whether a text is the text of a number, behind its sign. -/
def Unsigned (text : List Char) : Prop := ∃ p : NumeralParts, p.Unpadded ∧ text = p.unsigned

theorem unsigned_of_parts {whole fraction decimals exponent : List Char} {e : Int}
    (unpadded : whole = ['0'] ∨ '0' ∉ whole.head?) (some : whole ≠ []) (digits : Digits whole)
    (fractional : FractionPart fraction decimals) (exponential : ExponentPart exponent e) :
    Unsigned (whole ++ (fraction ++ exponent)) :=
  ⟨⟨false, whole, fraction, decimals, exponent, e, some, digits, fractional, exponential⟩,
    unpadded, rfl⟩

theorem unsigned_zero : Unsigned ['0', '.', '0'] :=
  unsigned_of_parts (.inl rfl) (by simp) (digits_zeros 1) (.digits (by simp) (digits_zeros 1))
    .absent

theorem unsigned_natText (n : Nat) : Unsigned (natText n) := by
  have unpadded : natText n = ['0'] ∨ '0' ∉ (natText n).head? := by
    by_cases zero : n = 0
    · exact .inl (zero ▸ rfl)
    · exact .inr (head?_natText zero)
  simpa using unsigned_of_parts unpadded Nat.toDigits_ne_nil (digits_natText n) .absent .absent

/-- Every notation of a positive decimal keeps to the grammar. -/
theorem unsigned_text {d : Decimal} (nonzero : d.digits ≠ 0) : Unsigned d.text := by
  have digits := digits_natText d.digits
  have leading := head?_natText nonzero
  obtain ⟨c, rest, text, ⟨_, first⟩, others⟩ := exists_natText_eq_cons d.digits
  have nonempty : natText d.digits ≠ [] := by simp [text]
  have inside (k : Nat) : Digits ((natText d.digits).take k) ∧
      Digits ((natText d.digits).drop k) :=
    ⟨fun c member => digits c (List.mem_of_mem_take member),
      fun c member => digits c (List.mem_of_mem_drop member)⟩
  unfold Decimal.text
  simp only
  split
  · split
    · -- The zeros of a whole number are written out, with one more after the point.
      have unpadded : '0' ∉ (natText d.digits ++ List.replicate d.exponent.toNat '0').head? := by
        rwa [List.head?_append_of_ne_nil _ nonempty]
      simpa using unsigned_of_parts (.inr unpadded) (by simp [nonempty])
        (digits_append digits (digits_zeros d.exponent.toNat)) (.digits (by simp) (digits_zeros 1))
        .absent
    split
    · next fractional positive =>
      -- The point stands between two of the digits.
      have before : (d.exponent + (natText d.digits).length - 1).toNat + 1 ≠ 0 := by omega
      have behind : (natText d.digits).drop
          ((d.exponent + (natText d.digits).length - 1).toNat + 1) ≠ [] := by
        rw [Ne, List.drop_eq_nil_iff]
        omega
      have unpadded : '0' ∉ ((natText d.digits).take
          ((d.exponent + (natText d.digits).length - 1).toNat + 1)).head? := by
        rwa [List.head?_take, if_neg before]
      simpa using unsigned_of_parts (.inr unpadded) (by simp [nonempty]) (inside _).1
        (.digits behind (inside _).2) .absent
    · simpa using unsigned_of_parts (.inl rfl) (by simp) (digits_zeros 1)
        (.digits (by simp [nonempty]) (digits_append (digits_zeros _) digits)) .absent
  · rw [text] at leading ⊢
    have alone : Digits [c] := digits_cons first (List.forall_mem_nil _)
    have unpadded : '0' ∉ [c].head? := leading
    obtain ⟨e, exponential⟩ :=
      exponentPart_exponentText (d.exponent + (c :: rest).length - 1)
    cases rest with
    | nil => simpa using unsigned_of_parts (.inr unpadded) (by simp) alone .absent exponential
    | cons next rest =>
      simpa using unsigned_of_parts (.inr unpadded) (by simp) alone (.digits (by simp) others)
        exponential

theorem Unsigned.exists_signed {text : List Char} (unsigned : Unsigned text) (negative : Bool) :
    ∃ p : NumeralParts, p.Unpadded ∧ (if negative then ['-'] else []) ++ text = p.text := by
  obtain ⟨p, unpadded, rfl⟩ := unsigned
  exact ⟨{ p with negative := negative }, unpadded, rfl⟩

end Decimal

theorem Binary64.shortest_digits_ne_zero {x : Binary64} (nonzero : x.isZero = false) :
    x.shortest.digits ≠ 0 := by
  intro zero
  have back := toBinary64?_shortest nonzero
  rw [Decimal.toBinary64?, if_pos zero] at back
  rw [← Option.some.inj back] at nonzero
  cases nonzero

/-- Every number is written by the grammar of JSON. -/
theorem Number.exists_unpadded (x : Number) : ∃ p : Json.NumeralParts, p.Unpadded ∧
    x.text = p.text := by
  cases x with
  | integer value fits =>
    have signed := (Decimal.unsigned_natText value.natAbs).exists_signed (value < 0)
    by_cases negative : value < 0 <;>
      simpa [Number.text, Decimal.intText, negative] using signed
  | double value =>
    simp only [Number.text, Binary64.text]
    split
    · exact Decimal.unsigned_zero.exists_signed value.negative
    · next nonzero =>
      have shortest := Binary64.shortest_digits_ne_zero (by simpa using nonzero)
      exact (Decimal.unsigned_text shortest).exists_signed value.negative

namespace Json
namespace Numeral

variable {n : Numeral} {text : List Char}

/-- Whether a number may end at a stage. -/
def Stage.Complete : Stage → Prop
  | .minus | .point | .exponentMark | .exponentSign _ => False
  | _ => True

/-- Whether any digit may follow at a stage. -/
def Stage.Open : Stage → Prop
  | .minus | .leadingZero => False
  | _ => True

theorem open_takeFraction (n : Numeral) (d : Nat) :
    (n.takeFraction d).stage.Open ∧ (n.takeFraction d).stage.Complete := by
  unfold takeFraction
  split <;> exact ⟨trivial, trivial⟩

theorem exists_takeExponent (n : Numeral) (negative : Bool) (value d : Nat) :
    ∃ m, n.takeExponent false negative value d = .more m ∧ m.stage.Open ∧ m.stage.Complete := by
  unfold takeExponent
  split
  · exact ⟨_, rfl, trivial, trivial⟩
  · simp only [Bool.false_eq_true, false_and, if_false]
    exact ⟨_, rfl, trivial, trivial⟩

theorem exists_step_digit {c : Char} {d : Nat} (digit : digit? c = some d)
    (takes : n.stage.Open) :
    ∃ m, n.step false c = .more m ∧ m.stage.Open ∧ m.stage.Complete := by
  obtain ⟨negative, significand, scale, stage⟩ := n
  cases stage <;> simp only [step, digit]
  case minus | leadingZero => exact takes.elim
  case integer => split <;> exact ⟨_, rfl, trivial, trivial⟩
  case point | fraction => exact ⟨_, rfl, open_takeFraction _ d⟩
  case exponentMark | exponentSign | exponent => exact exists_takeExponent _ _ _ _
  all_goals exact ⟨_, rfl, trivial, trivial⟩

theorem exists_scan?_digits (digits : Digits text) (takes : n.stage.Open)
    (ready : text ≠ [] ∨ n.stage.Complete) :
    ∃ m, n.scan? false text = some m ∧ m.stage.Complete := by
  induction text generalizing n with
  | nil => exact ⟨n, rfl, ready.resolve_left (fun some => some rfl)⟩
  | cons c text ih =>
    obtain ⟨⟨d, digit⟩, others⟩ := List.forall_mem_cons.1 digits
    obtain ⟨next, taken, takes, complete⟩ := exists_step_digit digit takes
    simp only [scan?, taken]
    exact ih others takes (.inr complete)

end Numeral

namespace NumeralParts
open Numeral

variable (p : NumeralParts) {n : Numeral}

/-- The whole part is read to its end; behind a first zero there is nothing left of it. -/
theorem exists_scan?_whole (unpadded : p.Unpadded) (negative : Bool) :
    ∃ m, scan? false ⟨negative, 0, 0, .minus⟩ p.whole = some m ∧ m.stage.Complete ∧
      m.stage.part = .whole := by
  rcases unpadded with zero | leading
  · rw [zero]
    exact ⟨_, rfl, trivial, rfl⟩
  · obtain ⟨c, rest, same⟩ := List.exists_cons_of_ne_nil p.nonempty
    have digits := p.digits
    rw [same] at leading digits ⊢
    obtain ⟨⟨d, digit⟩, others⟩ := List.forall_mem_cons.1 digits
    have nonzero : d ≠ 0 := by
      rintro rfl
      apply leading
      unfold digit? at digit
      split at digit
      · next between =>
        have low : '0'.toNat ≤ c.toNat := between.1
        have zero : c.toNat = '0'.toNat := by
          have := Option.some.inj digit
          omega
        exact congrArg some (Char.toNat_inj.1 zero)
      · cases digit
    have first : Numeral.step false ⟨negative, 0, 0, .minus⟩ c =
        .more ⟨negative, d, 0, .integer⟩ := by
      simp only [step, digit, if_neg nonzero]
    obtain ⟨m, scanned, complete⟩ :=
      exists_scan?_digits (n := ⟨negative, d, 0, .integer⟩) others trivial (.inr trivial)
    have all : scan? false ⟨negative, 0, 0, .minus⟩ (c :: rest) = some m := by
      simp only [scan?, first, scanned]
    exact ⟨m, all, complete, part_of_scan?_digits digits (by simp [Stage.part]) all⟩

theorem exists_scan?_fraction (complete : n.stage.Complete) (part : n.stage.part = .whole) :
    ∃ m, n.scan? false p.fraction = some m ∧ m.stage.Complete ∧
      (m.stage.part = .whole ∨ m.stage.part = .fraction) := by
  have fractional := p.fractional
  revert fractional
  generalize p.fraction = text, p.decimals = decimals
  rintro (_ | ⟨some, digits⟩)
  · exact ⟨n, rfl, complete, .inl part⟩
  · have pointed : n.step false '.' = .more { n with stage := .point } := by
      obtain ⟨negative, significand, scale, stage⟩ := n
      cases stage <;> simp_all [Stage.part, Stage.Complete, step, digit?, afterDigits]
    obtain ⟨m, scanned, complete⟩ := exists_scan?_digits (n := { n with stage := .point })
      digits trivial (.inl some)
    have part := part_of_scan?_digits digits (by simp [Stage.part]) scanned
    exact ⟨m, by simp only [scan?, pointed, scanned], complete, .inr part⟩

theorem exists_scan?_exponent (complete : n.stage.Complete)
    (part : n.stage.part = .whole ∨ n.stage.part = .fraction) :
    ∃ m, n.scan? false p.exponent = some m ∧ m.stage.Complete := by
  have marked {mark : Char} (given : mark = 'e' ∨ mark = 'E') :
      n.step false mark = .more { n with stage := .exponentMark } := by
    obtain ⟨negative, significand, scale, stage⟩ := n
    rcases given with rfl | rfl <;>
      cases stage <;> simp_all [Stage.part, Stage.Complete, step, digit?, afterDigits]
  have exponential := p.exponential
  revert exponential
  generalize p.exponent = text, p.power = e
  rintro (_ | ⟨mark, some, digits⟩ | ⟨mark, sign, some, digits⟩)
  · exact ⟨n, rfl, complete⟩
  · simp only [scan?, marked mark]
    exact exists_scan?_digits digits trivial (.inl some)
  · have signed (c : Char) (given : c = '+' ∨ c = '-') :
        Numeral.step false { n with stage := .exponentMark } c =
          .more { n with stage := .exponentSign (c = '-') } := by
      rcases given with rfl | rfl <;> rfl
    simp only [scan?, marked mark, signed _ sign]
    exact exists_scan?_digits digits trivial (.inl some)

/-- Unchecked, the text of a number is read without a fault to where it may end. -/
theorem exists_scan?_text (unpadded : p.Unpadded) :
    ∃ c rest n m, p.text = c :: rest ∧ begin? c = some n ∧ n.scan? false rest = some m ∧
      m.stage.Complete := by
  have unsigned (negative : Bool) :
      ∃ m, scan? false ⟨negative, 0, 0, .minus⟩ p.unsigned = some m ∧ m.stage.Complete := by
    obtain ⟨first, whole, complete, part⟩ := p.exists_scan?_whole unpadded negative
    obtain ⟨second, fraction, complete, part⟩ := p.exists_scan?_fraction complete part
    obtain ⟨m, exponent, complete⟩ := p.exists_scan?_exponent complete part
    refine ⟨m, ?_, complete⟩
    rw [unsigned, scan?_append, whole, Option.bind_some, scan?_append, fraction, Option.bind_some,
      exponent]
  cases sign : p.negative with
  | true =>
    obtain ⟨m, scanned, complete⟩ := unsigned true
    exact ⟨'-', p.unsigned, _, m, by simp [NumeralParts.text, sign], rfl, scanned, complete⟩
  | false =>
    obtain ⟨m, scanned, complete⟩ := unsigned false
    obtain ⟨c, rest, same⟩ := List.exists_cons_of_ne_nil p.nonempty
    obtain ⟨d, digit⟩ := p.digits c (by simp [same])
    have text : p.unsigned = c :: (rest ++ (p.fraction ++ p.exponent)) := by
      simp [NumeralParts.unsigned, same]
    rw [text] at scanned
    simp only [scan?, step_minus_digit digit] at scanned
    exact ⟨c, _, _, m, by simp [NumeralParts.text, sign, text], begin?_digit digit, scanned,
      complete⟩

end NumeralParts
end Json
end RecordStore

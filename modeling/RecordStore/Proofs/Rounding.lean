import Mathlib.Data.Rat.Cast.Order
import RecordStore.Proofs.Comparison
import RecordStore.Proofs.Exactness

/-! Numbers by their exact values. Rounding is monotone and leaves doubles as they are, so an integer
that is taken for a double never passes another double; it can at most fall on it. A comparison
therefore tells the exact values, except of an integer that is no double and the very double that it
is rounded to: the two are taken for equal. -/
namespace RecordStore
namespace Binary64

section
variable {x y den : Nat} (le : x ≤ y)
include le

theorem excess_mono : excess x den ≤ excess y den := by
  have quotients : x / den ≤ y / den := Nat.div_le_div_right le
  have logs : Nat.log2 (x / den) ≤ Nat.log2 (y / den) := by
    by_cases zero : x / den = 0
    · simp [zero]
    · have nonzero : y / den ≠ 0 :=
        Nat.ne_of_gt (Nat.lt_of_lt_of_le (Nat.pos_of_ne_zero zero) quotients)
      rw [Nat.le_log2 nonzero]
      exact Nat.le_trans (Nat.log2_self_le zero) quotients
  unfold excess
  omega

theorem halfEven_mono : halfEven x den ≤ halfEven y den := by
  have quotients : x / den ≤ y / den := Nat.div_le_div_right le
  rcases Nat.lt_or_eq_of_le quotients with less | same
  · calc halfEven x den ≤ x / den + 1 := halfEven_le x den
      _ ≤ y / den := less
      _ ≤ halfEven y den := le_halfEven y den
  · -- On one quotient the rests decide, and the greater rest is rounded up if the other is.
    have rests : x % den ≤ y % den := by
      have whole := Nat.div_add_mod x den
      rw [same] at whole
      have whole' := Nat.div_add_mod y den
      omega
    unfold halfEven
    rw [same]
    generalize y / den = quotient, x % den = rest, y % den = rest' at rests ⊢
    split_ifs <;> omega

end

theorem magnitude_of_rounded {negative : Bool} {num den : Nat} {z : Binary64}
    (rounding : rounded negative num den = some z) :
    z.magnitude = halfEven num (den * twoTo (excess num den)) * twoTo (excess num den) := by
  unfold rounded at rounding
  simp only at rounding
  split at rounding
  · next carries =>
    split at rounding <;> cases rounding
    have doubled : twoTo (excess num den + 1) = twoTo (excess num den) * 2 := twoTo_add _ 1
    change 4503599627370496 * twoTo (excess num den + 1) = _
    rw [carries, doubled]
    omega
  · split at rounding <;> cases rounding
    rfl

/-- A greater quotient is never rounded to a lesser double. -/
theorem magnitude_mono {x y den : Nat} {sign sign' : Bool} {z w : Binary64} (le : x ≤ y)
    (less : rounded sign x den = some z) (greater : rounded sign' y den = some w) :
    z.magnitude ≤ w.magnitude := by
  rw [magnitude_of_rounded less, magnitude_of_rounded greater]
  have exponents : excess x den ≤ excess y den := excess_mono le
  rcases Nat.lt_or_eq_of_le exponents with shorter | same
  · have full := le_halfEven_excess y den (by omega)
    have step : twoTo (excess x den) * 2 ≤ twoTo (excess y den) := twoTo_le_twoTo shorter
    calc halfEven x (den * twoTo (excess x den)) * twoTo (excess x den)
        ≤ 9007199254740992 * twoTo (excess x den) :=
          Nat.mul_le_mul_right _ (halfEven_excess_le x den)
      _ = 4503599627370496 * (twoTo (excess x den) * 2) := by omega
      _ ≤ halfEven y (den * twoTo (excess y den)) * twoTo (excess y den) :=
          Nat.mul_le_mul full step
  · rw [same]
    exact Nat.mul_le_mul_right _ (halfEven_mono le)

/-- An integer in range is not carried past a double, in either direction. -/
theorem units_ofInt {n : Int} (fits : n.natAbs < 18446744073709551616) (d : Binary64) :
    (n * oneUnits ≤ d.units → (ofInt n).units ≤ d.units) ∧
      (d.units ≤ n * oneUnits → d.units ≤ (ofInt n).units) := by
  have sign : (ofInt n).negative = decide (n < 0) := negative_of_rounded (rounded_ofInt fits)
  have exact : n * oneUnits = if n < 0 then -((n.natAbs * oneUnits : Nat) : Int)
      else ((n.natAbs * oneUnits : Nat) : Int) := by
    split
    · next negative =>
      have absolute : (n.natAbs : Int) = -n := by omega
      rw [Nat.cast_mul, absolute, Int.neg_mul, Int.neg_neg]
    · next positive =>
      have absolute : (n.natAbs : Int) = n := by omega
      rw [Nat.cast_mul, absolute]
  have up (le : n.natAbs * oneUnits ≤ d.magnitude) : (ofInt n).magnitude ≤ d.magnitude :=
    magnitude_mono le (rounded_ofInt fits) (rounded_magnitude d)
  have down (le : d.magnitude ≤ n.natAbs * oneUnits) : d.magnitude ≤ (ofInt n).magnitude :=
    magnitude_mono le (rounded_magnitude d) (rounded_ofInt fits)
  rw [exact]
  simp only [units, sign, decide_eq_true_eq]
  split_ifs <;> omega

/-- An integer that is a double is rounded to itself. -/
theorem units_ofInt_of_double {n : Int} (fits : n.natAbs < 18446744073709551616) {d : Binary64}
    (same : d.units = n * oneUnits) : (ofInt n).units = n * oneUnits := by
  obtain ⟨le, ge⟩ := units_ofInt fits d
  rw [← same] at le ge ⊢
  exact Int.le_antisymm (le (Int.le_refl _)) (ge (Int.le_refl _))

theorem units_neg (d : Binary64) : d.neg.units = -d.units := by
  obtain ⟨negative, m, e, _, _, _⟩ := d
  cases negative <;> simp [neg, units, magnitude]

/-- Integers of at most 53 bits are doubles, and so is 2^53 itself. -/
theorem exists_units {n : Int} (short : n.natAbs ≤ 9007199254740992) :
    ∃ d : Binary64, d.units = n * oneUnits := by
  obtain ⟨w, positive, exact⟩ : ∃ w : Binary64, w.negative = false ∧
      w.magnitude = n.natAbs * oneUnits := by
    rcases Nat.lt_or_eq_of_le short with less | greatest
    · obtain ⟨w, positive, exact⟩ := exists_magnitude less (show 0 ≤ 971 by decide)
      exact ⟨w, positive, by rwa [show twoTo 0 = 1 from rfl, Nat.mul_one] at exact⟩
    · obtain ⟨w, positive, exact⟩ :=
        exists_magnitude (show 4503599627370496 < 9007199254740992 by decide)
          (show 1 ≤ 971 by decide)
      exact ⟨w, positive, by rwa [show 4503599627370496 * twoTo 1 = 9007199254740992 from rfl,
        ← greatest] at exact⟩
  have absolute : w.units = (n.natAbs : Int) * oneUnits := by
    simp only [units, positive, exact, Bool.false_eq_true, if_false, Nat.cast_mul]
  rcases Int.natAbs_eq n with same | opposite
  · exact ⟨w, by rw [absolute, ← same]⟩
  · exact ⟨w.neg, by rw [units_neg, absolute, ← Int.neg_mul, ← opposite]⟩

end Binary64

namespace Number
open Binary64 (oneUnits)

/-- The exact value of a number. -/
def value : Number → ℚ
  | integer n _ => n
  | double d => d.units / oneUnits

/-- The exact value, in units. -/
def units : Number → Int
  | integer n _ => n * oneUnits
  | double d => d.units

theorem value_eq (x : Number) : x.value = x.units / oneUnits := by
  have positive : (oneUnits : ℚ) ≠ 0 := Nat.cast_ne_zero.2 (Nat.ne_of_gt (twoTo_pos 1074))
  cases x with
  | integer n fits =>
    rw [value, units, Int.cast_mul, Int.cast_natCast, mul_div_cancel_right₀ _ positive]
  | double d => rfl

variable {a b : Number}

theorem value_lt_iff : a.value < b.value ↔ a.units < b.units := by
  have positive : (0 : ℚ) < oneUnits := Nat.cast_pos.2 (twoTo_pos 1074)
  rw [value_eq, value_eq, div_lt_div_iff_of_pos_right positive, Int.cast_lt]

theorem compares_value (order : Ordering) :
    order.Compares a.value b.value ↔ order.Compares a.units b.units := by
  symm
  apply Ordering.compares_iff_of_compares_impl
  intro order compares
  cases order with
  | lt => exact value_lt_iff.2 compares
  | eq =>
    have same : a.units = b.units := compares
    exact (value_eq a).trans (same ▸ (value_eq b).symm)
  | gt => exact value_lt_iff.2 compares

theorem compares_cast {order : Ordering} {n m : Int} (compares : order.Compares n m) :
    order.Compares (n : ℚ) m := by
  cases order with
  | lt | gt => exact Int.cast_lt.2 compares
  | eq => exact congrArg Int.cast compares

/-- Whether a number is an integer that is no double, and another the double it is rounded to. -/
def RoundsTo : Number → Number → Prop
  | integer n _, double d => (Binary64.ofInt n).units = d.units ∧ (n : ℚ) ≠ (double d).value
  | _, _ => False

/-- The double that an integer is rounded to stands where the integer does, unless another number
stands between them or the other number is that double. -/
theorem compares_integer_double {n : Int}
    (fits : -9223372036854775808 ≤ n ∧ n < 18446744073709551616) (d : Binary64) :
    ((integer n fits).compare (double d)).Compares (integer n fits).value (double d).value ↔
      ¬(integer n fits).RoundsTo (double d) := by
  obtain ⟨below, above⟩ := Binary64.units_ofInt (show n.natAbs < 18446744073709551616 by omega) d
  have differ : (n : ℚ) ≠ (double d).value ↔ n * oneUnits ≠ d.units :=
    not_congr (compares_value (a := integer n fits) (b := double d) .eq)
  have rounded := compares_int (Binary64.ofInt n).units d.units
  rw [compares_value, RoundsTo, differ]
  change (Ord.compare (Binary64.ofInt n).units d.units).Compares (n * oneUnits) d.units ↔ _
  cases order : Ord.compare (Binary64.ofInt n).units d.units with
  | lt =>
    rw [order] at rounded
    have less : (Binary64.ofInt n).units < d.units := rounded
    change n * oneUnits < d.units ↔ _
    omega
  | eq =>
    rw [order] at rounded
    have same : (Binary64.ofInt n).units = d.units := rounded
    change n * oneUnits = d.units ↔ _
    omega
  | gt =>
    rw [order] at rounded
    have greater : d.units < (Binary64.ofInt n).units := rounded
    change d.units < n * oneUnits ↔ _
    omega

/-- The comparison tells the exact values of all numbers, rounded integers apart. -/
theorem compares_iff :
    (a.compare b).Compares a.value b.value ↔ ¬(a.RoundsTo b ∨ b.RoundsTo a) := by
  cases a with
  | integer n fits =>
    cases b with
    | integer m fits' =>
      have exact : ((integer n fits).compare (integer m fits')).Compares (n : ℚ) m :=
        compares_cast (compares_int n m)
      simpa [RoundsTo, value] using exact
    | double d => simpa [RoundsTo] using compares_integer_double fits d
  | double d =>
    cases b with
    | integer n fits =>
      rw [← compare_swap, Ordering.compares_swap, compares_integer_double fits d]
      simp [RoundsTo]
    | double e =>
      have exact : ((double d).compare (double e)).Compares (double d).units (double e).units :=
        compares_int d.units e.units
      simpa [RoundsTo, compares_value] using exact

theorem compare_of_roundsTo (rounded : a.RoundsTo b ∨ b.RoundsTo a) : a.compare b = .eq := by
  have equal {a b : Number} (rounds : a.RoundsTo b) : a.compare b = .eq := by
    cases a with
    | double => cases rounds
    | integer n fits =>
      cases b with
      | integer => cases rounds
      | double d => exact Binary64.compare_eq_iff.2 rounds.1
  rcases rounded with there | back
  · exact equal there
  · rw [← compare_swap, equal back]
    rfl

/-- Integers of at most 53 bits are doubles. -/
theorem not_roundsTo (short : ∀ n fits, a = integer n fits → n.natAbs ≤ 9007199254740992) :
    ¬a.RoundsTo b := by
  intro rounds
  cases a with
  | double => cases rounds
  | integer n fits =>
    cases b with
    | integer => cases rounds
    | double d =>
      obtain ⟨w, exact⟩ := Binary64.exists_units (short n fits rfl)
      have itself := Binary64.units_ofInt_of_double (by omega) exact
      have same : (integer n fits).units = (double d).units := itself.symm.trans rounds.1
      exact rounds.2 ((compares_value .eq).2 same)

end Number

namespace Condition

variable {record : Json} {field : String} {a b : Number}

/-- Every comparison is one of exact values, whichever way the numbers are held, unless one of them
is an integer that is no double and the other the double that it is rounded to; these are taken for
equal. Up to 2^53 there are none. -/
theorem holds_iff_relates (resolved : record.at? (Path.ofText field) = some (.number a)) :
    ((∀ op, holds ⟨field, op, .json (.number b)⟩ record = true ↔ op.Relates a.value b.value) ↔
      ¬(a.RoundsTo b ∨ b.RoundsTo a)) ∧
    (a.RoundsTo b ∨ b.RoundsTo a →
      ∀ op, holds ⟨field, op, .json (.number b)⟩ record = true ↔ op.Relates a.value a.value) ∧
    ((∀ n fits, .integer n fits ∈ [a, b] → n.natAbs ≤ 9007199254740992) →
      ¬(a.RoundsTo b ∨ b.RoundsTo a)) := by
  simp only [holds_comparison resolved]
  refine ⟨⟨?_, ?_⟩, ?_, ?_⟩
  · intro all rounded
    have same : a.value = b.value := (all .eq).1 (by rw [Number.compare_of_roundsTo rounded]; rfl)
    refine Number.compares_iff.1 ?_ rounded
    rwa [Number.compare_of_roundsTo rounded]
  · intro exact op
    exact Operator.accepts_iff_relates (Number.compares_iff.2 exact) op
  · intro rounded op
    rw [Number.compare_of_roundsTo rounded]
    have itself : Ordering.eq.Compares a.value a.value := rfl
    exact Operator.accepts_iff_relates itself op
  · intro short rounded
    rcases rounded with there | back
    · exact Number.not_roundsTo (fun n fits same => short n fits (by simp [same])) there
    · exact Number.not_roundsTo (fun n fits same => short n fits (by simp [same])) back

/-- The greatest integer, which is taken for 2^64, and a small one, which is taken for itself. -/
theorem holds_iff_relates_greatest :
    let greatest : Number := .integer 18446744073709551615 (by decide)
    let double : Number := .double (.ofInt 18446744073709551616)
    let small : Number := .integer (-9007199254740992) (by decide)
    let record : Json := .object [("n", .object [("max", .number greatest), ("", .number small)])]
    record.at? (Path.ofText "n.max") = some (.number greatest) ∧ greatest.RoundsTo double ∧
      (∀ op, holds ⟨"n.max", op, .json (.number double)⟩ record = true ↔
        op.Relates greatest.value greatest.value) ∧
      record.at? (Path.ofText "n.") = some (.number small) ∧
      ∀ op, holds ⟨"n.", op, .json (.number double)⟩ record = true ↔
        op.Relates small.value double.value := by
  intro greatest double small record
  have wide : record.at? (Path.ofText "n.max") = some (.number greatest) := rfl
  have narrow : record.at? (Path.ofText "n.") = some (.number small) := rfl
  have rounds : greatest.RoundsTo double := by
    have units : greatest.units ≠ double.units := by decide +kernel
    have differ : greatest.value ≠ double.value := mt (Number.compares_value .eq).1 units
    exact ⟨by decide +kernel, differ⟩
  have exact : ¬(small.RoundsTo double ∨ double.RoundsTo small) := by
    apply (holds_iff_relates narrow).2.2
    intro n fits member
    obtain same : n = -9007199254740992 := by simpa [small, double] using member
    rw [same]
    decide
  exact ⟨wide, rounds, (holds_iff_relates wide).2.1 (.inl rounds), narrow,
    (holds_iff_relates narrow).1.2 exact⟩

/-- The first integer that is no double equals the double before it, and that double equals the
integer before; the two integers differ. -/
theorem equality_not_transitive :
    let next : Number := .integer 9007199254740993 (by decide)
    let double : Number := .double (.ofInt 9007199254740992)
    let before : Number := .integer 9007199254740992 (by decide)
    let compares (a : Number) (op : Operator) (b : Number) :=
      holds ⟨"a", op, .json (.number b)⟩ (.object [("a", .number a)]) = true
    next.value > double.value ∧ ¬compares next .gt double ∧ compares next .eq double ∧
      compares double .eq before ∧ ¬compares next .eq before := by
  intro next double before compares
  have greater : next.units > double.units := by decide +kernel
  refine ⟨(Number.compares_value .gt).2 greater, ?_, ?_, ?_, ?_⟩ <;> decide +kernel

end Condition
end RecordStore

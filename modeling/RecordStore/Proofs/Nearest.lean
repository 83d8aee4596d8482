import RecordStore.Decimal.Shortest
import RecordStore.Proofs.Doubles

/-! Reading a decimal to the nearest double. The double depends on the value of the decimal alone,
so zeros may move between its digits and its exponent, and a decimal that is exactly a double is
read as that double. The shortest decimal of a double is therefore read as the double, wherever its
trailing zeros are written. -/
namespace RecordStore
namespace Binary64

section
variable (num den : Nat) {scale : Nat} (positive : 0 < scale)
include positive

theorem halfEven_scaled : halfEven (num * scale) (den * scale) = halfEven num den := by
  have below (x y : Nat) : 2 * (x * scale) < y * scale ↔ 2 * x < y := by
    rw [← Nat.mul_assoc, Nat.mul_lt_mul_right positive]
  have above (x y : Nat) : y * scale < 2 * (x * scale) ↔ y < 2 * x := by
    rw [← Nat.mul_assoc, Nat.mul_lt_mul_right positive]
  simp only [halfEven, Nat.mul_mod_mul_right, Nat.mul_div_mul_right _ _ positive, below, above]

theorem excess_scaled : excess (num * scale) (den * scale) = excess num den := by
  rw [excess, excess, Nat.mul_div_mul_right _ _ positive]

/-- Only the quotient is rounded, however it is written. -/
theorem rounded_scaled (negative : Bool) :
    rounded negative (num * scale) (den * scale) = rounded negative num den := by
  have mantissa (e : Nat) : halfEven (num * scale) (den * scale * twoTo e) =
      halfEven num (den * twoTo e) := by
    rw [Nat.mul_right_comm, halfEven_scaled _ _ positive]
  simp only [rounded, excess_scaled _ _ positive, mantissa]

theorem ofQuotient_scaled (negative : Bool) :
    ofQuotient negative (num * scale) (den * scale) = ofQuotient negative num den := by
  rw [ofQuotient, Nat.mul_right_comm, rounded_scaled _ _ positive, ofQuotient]

end

theorem halfEven_exact (n : Nat) {den : Nat} (positive : 0 < den) :
    halfEven (n * den) den = n := by
  simp [halfEven, Nat.mul_div_cancel _ positive, positive]

theorem excess_magnitude (x : Binary64) : excess x.magnitude 1 = x.exponent := by
  rw [excess, Nat.div_one]
  by_cases zero : x.mantissa = 0
  · have least : x.exponent = 0 := by
      have := x.normal
      omega
    simp [magnitude, zero, least]
  have nonzero : x.magnitude ≠ 0 := fun h => zero (magnitude_eq_zero.1 h)
  have below : x.magnitude < 2 ^ (53 + x.exponent) := by
    rw [Nat.pow_add]
    exact Nat.mul_lt_mul_of_pos_right x.mantissa_lt (twoTo_pos _)
  have few := (Nat.log2_lt nonzero).2 below
  rcases x.normal with least | full
  · omega
  · have above : 2 ^ (52 + x.exponent) ≤ x.magnitude := by
      rw [Nat.pow_add]
      exact Nat.mul_le_mul_right _ full
    have many := (Nat.le_log2 nonzero).2 above
    omega

/-- A double is the double nearest to itself. -/
theorem rounded_magnitude (x : Binary64) : rounded x.negative x.magnitude 1 = some x := by
  have mantissa : halfEven x.magnitude (twoTo x.exponent) = x.mantissa :=
    halfEven_exact x.mantissa (twoTo_pos _)
  have short : x.mantissa ≠ 9007199254740992 := Nat.ne_of_lt x.mantissa_lt
  simp only [rounded, excess_magnitude, Nat.one_mul, mantissa, short, dite_false, x.exponent_le,
    dite_true]

theorem rounded_exact (x : Binary64) {scale : Nat} (positive : 0 < scale) :
    rounded x.negative (x.magnitude * scale) scale = some x := by
  have same := rounded_scaled x.magnitude 1 positive x.negative
  rw [Nat.one_mul] at same
  rw [same, rounded_magnitude]

end Binary64

namespace Decimal

theorem length_le_iff {n k : Nat} (positive : 0 < k) : length n ≤ k ↔ n < tenTo k :=
  Nat.length_toDigits_le_iff (by decide) positive

theorem length_mul_ten {n : Nat} (nonzero : n ≠ 0) : length (n * 10) = length n + 1 := by
  simp only [length]
  rw [Nat.toDigits_of_base_le (by decide) (by omega), List.length_append, List.length_singleton,
    Nat.mul_div_cancel _ (by decide)]

theorem tenTo_succ (k : Nat) : tenTo (k + 1) = tenTo k * 10 := rfl

/-- A zero at the end of the digits may as well be counted in the exponent. -/
theorem toBinary64?_mul_ten (negative : Bool) (n : Nat) (e : Int) :
    toBinary64? negative ⟨n * 10, e⟩ = toBinary64? negative ⟨n, e + 1⟩ := by
  by_cases zero : n = 0
  · simp [toBinary64?, zero]
  have quotient : Binary64.ofQuotient negative (ratio ⟨n * 10, e⟩).1 (ratio ⟨n * 10, e⟩).2 =
      Binary64.ofQuotient negative (ratio ⟨n, e + 1⟩).1 (ratio ⟨n, e + 1⟩).2 := by
    by_cases whole : 0 ≤ e
    · have up : (e + 1).toNat = e.toNat + 1 := by omega
      have down : (-e).toNat = 0 ∧ (-(e + 1)).toNat = 0 := by omega
      simp only [ratio, up, down, tenTo_succ, Nat.mul_assoc, Nat.mul_comm 10]
    · have up : e.toNat = 0 ∧ (e + 1).toNat = 0 := by omega
      have down : (-e).toNat = (-(e + 1)).toNat + 1 := by omega
      have scaled := Binary64.ofQuotient_scaled n (tenTo (-(e + 1)).toNat)
        (show 0 < 10 by decide) negative
      simpa only [ratio, up, down, tenTo_succ, show tenTo 0 = 1 from rfl, Nat.mul_one] using scaled
  have order : e + (length (n * 10) : Nat) = e + 1 + (length n : Nat) := by
    rw [length_mul_ten zero]
    omega
  simp only [toBinary64?, Nat.mul_eq_zero, zero, false_or, order, quotient]
  rfl

theorem toBinary64?_mul_tenTo (negative : Bool) (n k : Nat) (e : Int) :
    toBinary64? negative ⟨n * tenTo k, e - k⟩ = toBinary64? negative ⟨n, e⟩ := by
  induction k generalizing e with
  | zero => simp [show tenTo 0 = 1 from rfl]
  | succ k ih =>
    rw [tenTo_succ, ← Nat.mul_assoc, toBinary64?_mul_ten]
    have exponent : e - (k + 1 : Nat) + 1 = e - k := by omega
    rw [exponent, ih]

theorem toBinary64?_of_order (negative : Bool) {d : Decimal} (digits : d.digits ≠ 0)
    (far : ¬d.exponent + length d.digits < -330) (near : ¬310 < d.exponent + length d.digits) :
    d.toBinary64? negative = Binary64.ofQuotient negative d.ratio.1 d.ratio.2 := by
  simp only [toBinary64?, digits, far, near, if_false]

theorem toBinary64?_trimmed (negative : Bool) (d : Decimal) :
    toBinary64? negative d.trimmed = toBinary64? negative d := by
  unfold trimmed
  generalize length d.digits = fuel
  induction fuel generalizing d with
  | zero => rfl
  | succ fuel ih =>
    rw [trimmed.go]
    split
    · next even =>
      have digits : d.digits / 10 * 10 = d.digits := by omega
      rw [ih, ← toBinary64?_mul_ten, digits]
    · rfl

end Decimal

namespace Binary64

/-- A decimal that is exactly a double is read as the double. -/
theorem toBinary64?_exact (x : Binary64) {n k : Nat} (nonzero : n ≠ 0)
    (exact : n * oneUnits = x.magnitude * tenTo k) (far : k ≤ Decimal.length n + 330)
    (near : Decimal.length n ≤ k + 310) :
    Decimal.toBinary64? x.negative ⟨n, -k⟩ = some x := by
  have low : ¬(-k : Int) + (Decimal.length n : Nat) < -330 := by omega
  have high : ¬(310 : Int) < -k + (Decimal.length n : Nat) := by omega
  have whole : (Decimal.mk n (-k)).ratio = (n, tenTo k) := by
    simp [Decimal.ratio, tenTo]
  rw [Decimal.toBinary64?_of_order _ nonzero low high, whole, ofQuotient, exact,
    rounded_exact x (tenTo_pos _)]

/-- All digits of a double, up to the least of them, are read as the double. -/
theorem readsBack_exactDecimal {x : Binary64} (nonzero : x.isZero = false) :
    x.readsBack x.exactDecimal = true := by
  have positive : 0 < x.magnitude := by
    have : x.magnitude ≠ 0 := by simpa [isZero, magnitude_eq_zero] using nonzero
    omega
  have least : tenTo 743 ≤ x.magnitude * Nat.pow 5 1074 := by
    refine Nat.le_trans ?_ (Nat.le_mul_of_pos_left _ positive)
    decide +kernel
  have greatest : x.magnitude * Nat.pow 5 1074 < tenTo 1384 := by
    have bounded : x.magnitude ≤ 9007199254740992 * twoTo 2045 :=
      Nat.mul_le_mul (Nat.le_of_lt x.mantissa_lt) (twoTo_le_twoTo x.exponent_le)
    refine Nat.lt_of_le_of_lt (Nat.mul_le_mul_right _ bounded) ?_
    decide +kernel
  have long : ¬Decimal.length (x.magnitude * Nat.pow 5 1074) ≤ 743 := by
    rw [Decimal.length_le_iff (by decide)]
    omega
  have short : Decimal.length (x.magnitude * Nat.pow 5 1074) ≤ 1384 :=
    (Decimal.length_le_iff (by decide)).2 greatest
  have exact : x.magnitude * Nat.pow 5 1074 * oneUnits = x.magnitude * tenTo 1074 := by
    have units : Nat.pow 5 1074 * oneUnits = tenTo 1074 := by decide +kernel
    rw [Nat.mul_assoc, units]
  have digits : x.magnitude * Nat.pow 5 1074 ≠ 0 :=
    Nat.mul_ne_zero (Nat.ne_of_gt positive) (by decide +kernel)
  have read : x.exactDecimal.toBinary64? x.negative = some x :=
    toBinary64?_exact (k := 1074) x digits exact (by omega) (by omega)
  rw [readsBack, read, beq_self_eq_true]

theorem readsBack_of_onGrid? {x : Binary64} {step : Int} {d : Decimal}
    (found : x.onGrid? step = some d) : x.readsBack d = true := by
  simp only [onGrid?] at found
  split at found
  · next below above =>
    -- Of two neighbours that read back the nearer one is taken, and it is one of the two.
    obtain rfl := Option.some.inj found
    unfold halfEven
    split
    · exact below
    split
    · exact above
    · rcases Nat.mod_two_eq_zero_or_one ((x.inSteps step).1 / (x.inSteps step).2) with even | odd
      · rw [even]
        exact below
      · rw [odd]
        exact above
  · next below _ =>
    cases found
    exact below
  · next _ above =>
    cases found
    exact above
  · cases found

theorem toBinary64?_shortest {x : Binary64} (nonzero : x.isZero = false) :
    x.shortest.toBinary64? x.negative = some x := by
  have untrimmed : x.readsBack
      (((List.range 17).findSome? fun (more : Nat) => x.onGrid? (x.order - more)).getD
        x.exactDecimal) = true := by
    cases found : (List.range 17).findSome? fun (more : Nat) => x.onGrid? (x.order - more) with
    | none => exact readsBack_exactDecimal nonzero
    | some d =>
      obtain ⟨more, -, onGrid⟩ := List.exists_of_findSome?_eq_some found
      exact readsBack_of_onGrid? onGrid
  rw [shortest, Decimal.toBinary64?_trimmed]
  simpa [readsBack] using untrimmed

end Binary64
end RecordStore

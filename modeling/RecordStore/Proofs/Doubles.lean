import RecordStore.Decimal.Binary64

/-! Doubles are determined by their value, the signs of zeros apart: the bounds on the mantissa
leave one representation for each value. -/
namespace RecordStore.Binary64

theorem magnitude_eq_zero {x : Binary64} : x.magnitude = 0 ↔ x.mantissa = 0 := by
  have unit : twoTo x.exponent ≠ 0 := Nat.ne_of_gt (twoTo_pos _)
  rw [magnitude, Nat.mul_eq_zero, or_iff_left unit]

/-- A greater exponent makes a greater magnitude, for it needs a full mantissa. -/
theorem magnitude_lt_of_exponent_lt {x y : Binary64} (less : x.exponent < y.exponent) :
    x.magnitude < y.magnitude := by
  have full : 4503599627370496 ≤ y.mantissa := y.normal.resolve_left (by omega)
  have step : twoTo x.exponent * 2 ≤ twoTo y.exponent := by
    have := twoTo_le_twoTo (show x.exponent + 1 ≤ y.exponent from less)
    rwa [twoTo_add] at this
  calc x.magnitude
      < 9007199254740992 * twoTo x.exponent :=
        Nat.mul_lt_mul_of_pos_right x.mantissa_lt (twoTo_pos _)
    _ = 4503599627370496 * (twoTo x.exponent * 2) := by omega
    _ ≤ y.magnitude := Nat.mul_le_mul full step

theorem eq_of_magnitude {x y : Binary64} (sign : x.negative = y.negative)
    (same : x.magnitude = y.magnitude) : x = y := by
  have exponent : x.exponent = y.exponent := by
    rcases Nat.lt_trichotomy x.exponent y.exponent with less | equal | greater
    · exact absurd same (Nat.ne_of_lt (magnitude_lt_of_exponent_lt less))
    · exact equal
    · exact absurd same (Nat.ne_of_gt (magnitude_lt_of_exponent_lt greater))
  have mantissa : x.mantissa = y.mantissa := by
    simp only [magnitude, exponent] at same
    exact Nat.eq_of_mul_eq_mul_right (twoTo_pos _) same
  obtain ⟨negative, m, e, _, _, _⟩ := x
  obtain ⟨_, _, _, _, _, _⟩ := y
  cases sign
  cases exponent
  cases mantissa
  rfl

/-- Doubles of equal value are the same, unless they are zeros. -/
theorem eq_of_units {x y : Binary64} (nonzero : y.isZero = false) (same : x.units = y.units) :
    x = y := by
  have positive : y.magnitude ≠ 0 := by
    simpa [isZero, magnitude_eq_zero] using nonzero
  simp only [units] at same
  cases hx : x.negative <;> cases hy : y.negative <;>
    simp only [hx, hy, if_true, if_false, Bool.false_eq_true] at same
  · exact eq_of_magnitude (hx.trans hy.symm) (by omega)
  · omega
  · omega
  · exact eq_of_magnitude (hx.trans hy.symm) (by omega)

theorem eq_zero_of_isZero {x : Binary64} (none : x.isZero = true) : x = zero x.negative := by
  have mantissa : x.mantissa = 0 := by simpa [isZero] using none
  exact eq_of_magnitude rfl (by simp [magnitude, mantissa, zero])

end RecordStore.Binary64

import RecordStore.Json.Numeral
import RecordStore.Proofs.Nearest

/-! Where the two ways from a decimal to a double meet. The reader of numbers takes the digits and a
power of ten for doubles and multiplies or divides them; a decimal is rounded as the quotient that
it is. Digits below 2^53 and powers up to 10^22 are doubles exactly, so both round the same
quotient, once. Digits that are scaled by one, and zeros alone, come to the same double anyway. -/
namespace RecordStore
namespace Binary64

def signed (negative : Bool) (z : Binary64) : Binary64 := if negative then z.neg else z

/-- The sign takes no part in the rounding. -/
theorem rounded_signed (negative : Bool) (num den : Nat) :
    rounded negative num den = (rounded false num den).map (signed negative) := by
  cases negative with
  | false =>
    have same : signed false = id := rfl
    rw [same, Option.map_id, id]
  | true =>
    unfold rounded
    simp only
    split
    · split <;> rfl
    · split <;> rfl

theorem excess_le_of_lt {num den k : Nat} (bits : num / den < twoTo k) : excess num den ≤ k := by
  unfold excess
  by_cases zero : num / den = 0
  · rw [zero, show Nat.log2 0 = 0 from rfl]
    omega
  · have := (Nat.log2_lt zero).2 bits
    omega

theorem exists_rounded {num den : Nat} (negative : Bool) (fits : excess num den < 2045) :
    ∃ z, rounded negative num den = some z := by
  unfold rounded
  simp only
  split
  · rw [dif_pos (Nat.succ_le_of_lt fits)]
    exact ⟨_, rfl⟩
  · rw [dif_pos (Nat.le_of_lt fits)]
    exact ⟨_, rfl⟩

theorem rounded_zero (negative : Bool) (den : Nat) :
    rounded negative 0 den = some (zero negative) := by
  have none : excess 0 den = 0 := by simp [excess]
  have mantissa : halfEven 0 (den * twoTo 0) = 0 := by simp [halfEven]
  simp only [rounded, none, mantissa]
  rfl

theorem negative_of_rounded {negative : Bool} {num den : Nat} {z : Binary64}
    (rounding : rounded negative num den = some z) : z.negative = negative := by
  unfold rounded at rounding
  simp only at rounding
  split at rounding
  · split at rounding <;> cases rounding
    rfl
  · split at rounding <;> cases rounding
    rfl

/-- A mantissa of at most 53 bits, shifted by a power of two, is a double. -/
theorem exists_magnitude {m j : Nat} (short : m < 9007199254740992) (low : j ≤ 971) :
    ∃ w : Binary64, w.negative = false ∧ w.magnitude = m * twoTo j * oneUnits := by
  by_cases zero : m = 0
  · exact ⟨.zero false, rfl, by simp [zero, magnitude, Binary64.zero]⟩
  · have bits : Nat.log2 m < 53 := (Nat.log2_lt zero).2 short
    have below : m * twoTo (52 - Nat.log2 m) < 9007199254740992 := by
      calc m * twoTo (52 - Nat.log2 m)
          < twoTo (Nat.log2 m + 1) * twoTo (52 - Nat.log2 m) :=
            Nat.mul_lt_mul_of_pos_right (lt_twoTo_log2 m) (twoTo_pos _)
        _ = twoTo 53 := by
            rw [← twoTo_add]
            congr 1
            omega
    have full : 4503599627370496 ≤ m * twoTo (52 - Nat.log2 m) := by
      calc 4503599627370496
          = twoTo (Nat.log2 m) * twoTo (52 - Nat.log2 m) := by
            rw [← twoTo_add, show Nat.log2 m + (52 - Nat.log2 m) = 52 by omega]
            rfl
        _ ≤ m * twoTo (52 - Nat.log2 m) := Nat.mul_le_mul_right _ (twoTo_log2_le zero)
    refine ⟨⟨false, m * twoTo (52 - Nat.log2 m), 1074 + j - (52 - Nat.log2 m), below, .inr full,
      by omega⟩, rfl, ?_⟩
    simp only [magnitude, oneUnits, Nat.mul_assoc, ← twoTo_add]
    congr 2
    omega

theorem ofInt_natCast (n : Nat) :
    ofInt n = (rounded false (n * oneUnits) 1).getD (largest false) := by
  have unsigned : decide ((n : Int) < 0) = false := by simp
  rw [ofInt, unsigned, Int.natAbs_natCast, ofQuotient]

theorem negative_ofInt (n : Nat) : (ofInt n).negative = false := by
  rw [ofInt_natCast]
  cases rounding : rounded false (n * oneUnits) 1 with
  | none => rfl
  | some z => exact negative_of_rounded rounding

theorem ofInt_exact {m j : Nat} (short : m < 9007199254740992) (low : j ≤ 971) :
    (ofInt (m * twoTo j : Nat)).negative = false ∧
      (ofInt (m * twoTo j : Nat)).magnitude = m * twoTo j * oneUnits := by
  obtain ⟨w, positive, exact⟩ := exists_magnitude short low
  have itself := rounded_magnitude w
  rw [positive, exact] at itself
  rw [ofInt_natCast, itself]
  exact ⟨positive, exact⟩

theorem ofInt_short {n : Nat} (short : n < 9007199254740992) :
    (ofInt n).negative = false ∧ (ofInt n).magnitude = n * oneUnits := by
  have exact := ofInt_exact short (show 0 ≤ 971 by decide)
  rwa [show twoTo 0 = 1 from rfl, Nat.mul_one] at exact

/-- Integers in range are rounded without overflow. -/
theorem rounded_ofInt {n : Int} (fits : n.natAbs < 18446744073709551616) :
    rounded (n < 0) (n.natAbs * oneUnits) 1 = some (ofInt n) := by
  have bits : n.natAbs * oneUnits / 1 < twoTo (64 + 1074) := by
    have room : twoTo 64 = 18446744073709551616 := rfl
    rw [Nat.div_one, twoTo_add, room, ← oneUnits]
    exact Nat.mul_lt_mul_of_pos_right fits (show 0 < oneUnits from twoTo_pos 1074)
  have low : excess (n.natAbs * oneUnits) 1 < 2045 :=
    Nat.lt_of_le_of_lt (excess_le_of_lt bits) (by decide)
  obtain ⟨z, rounding⟩ := exists_rounded (decide (n < 0)) low
  rw [ofInt, ofQuotient, rounding, Option.getD_some]

/-- Powers of ten are doubles as long as their odd part has at most 53 bits. -/
theorem powerOfTen_exact {k : Nat} (low : k ≤ 22) :
    (powerOfTen k).negative = false ∧ (powerOfTen k).magnitude = tenTo k * oneUnits := by
  have factors : tenTo k = 5 ^ k * twoTo k := Nat.mul_pow 5 2 k
  have odd : 5 ^ k < 9007199254740992 :=
    Nat.lt_of_le_of_lt (Nat.pow_le_pow_right (by decide) low) (by decide)
  rw [powerOfTen, factors]
  exact ofInt_exact odd (by omega)

theorem compare_eq_iff {x y : Binary64} : x.compare y = .eq ↔ x.units = y.units :=
  Int.compare_eq_eq

theorem isZero_of_rounded_zero {negative : Bool} {den : Nat} {z : Binary64}
    (rounding : rounded negative 0 den = some z) : z.isZero = true := by
  rw [rounded_zero] at rounding
  cases rounding
  rfl

theorem isZero_ofInt_zero : (ofInt (0 : Nat)).isZero = true := by
  rw [ofInt_natCast, Nat.zero_mul, rounded_zero]
  rfl

theorem units_of_isZero {z : Binary64} (none : z.isZero = true) : z.units = 0 := by
  rw [eq_zero_of_isZero none]
  cases z.negative <;> rfl

end Binary64

namespace Json.Numeral
open Binary64

theorem shrink_of_isZero {z : Binary64} (none : z.isZero = true) (rounds : Nat) :
    shrink rounds z = z := by
  cases rounds with
  | zero => rfl
  | succ rounds => rw [shrink, if_pos none]

/-- Nothing scaled is nothing. -/
theorem isZero_of_scaled? {x z : Binary64} {power : Int} (none : x.isZero = true)
    (scaled : scaled? x power = some z) : z.isZero = true := by
  have nothing : x.magnitude = 0 := magnitude_eq_zero.2 (by simpa [isZero] using none)
  unfold scaled? at scaled
  split at scaled
  · split at scaled
    · rw [mul?, nothing, Nat.zero_mul] at scaled
      exact isZero_of_rounded_zero scaled
    · cases scaled
      exact none
  · simp only [shrink_of_isZero none, div?, nothing, Nat.zero_mul] at scaled
    exact isZero_of_rounded_zero scaled

theorem scaled?_one {x : Binary64} (positive : x.negative = false) : scaled? x 0 = some x := by
  obtain ⟨unsigned, one⟩ := powerOfTen_exact (show 0 ≤ 22 by decide)
  have itself := rounded_exact x (show 0 < oneUnits from twoTo_pos 1074)
  rw [positive] at itself
  simpa [scaled?, mul?, one, unsigned, positive, tenTo] using itself

/-- Where digits and power are doubles exactly, their product and quotient are rounded once. -/
theorem scaled?_exact {n : Nat} {e : Int} (short : n < 9007199254740992) (near : e.natAbs ≤ 22) :
    scaled? (.ofInt n) e = ofQuotient false (Decimal.ratio ⟨n, e⟩).1 (Decimal.ratio ⟨n, e⟩).2 := by
  obtain ⟨unsigned, digits⟩ := ofInt_short short
  have one : 0 < oneUnits := twoTo_pos 1074
  have least : tenTo 0 = 1 := rfl
  by_cases whole : 0 ≤ e
  · obtain ⟨positive, power⟩ := powerOfTen_exact (show e.toNat ≤ 22 by omega)
    have multiplied : scaled? (.ofInt n) e = (ofInt n).mul? (powerOfTen e.toNat) := by
      rw [scaled?, if_pos whole, if_pos (by omega)]
    have product : n * oneUnits * (tenTo e.toNat * oneUnits) =
        n * tenTo e.toNat * oneUnits * oneUnits := by
      rw [Nat.mul_mul_mul_comm, Nat.mul_assoc (n * tenTo e.toNat)]
    have same := rounded_scaled (n * tenTo e.toNat * oneUnits) 1 one false
    rw [Nat.one_mul] at same
    have den : tenTo (-e).toNat = 1 := by rw [show (-e).toNat = 0 by omega, least]
    rw [multiplied, mul?, unsigned, positive, digits, power, product, bne_self_eq_false, same,
      ofQuotient, Decimal.ratio, den]
  · obtain ⟨positive, power⟩ := powerOfTen_exact near
    have divided : scaled? (.ofInt n) e = (ofInt n).div? (powerOfTen e.natAbs) := by
      have once : (e.natAbs - 1) / 308 = 0 := by omega
      rw [scaled?, if_neg whole, once]
      rfl
    have same := rounded_scaled (n * oneUnits) (tenTo e.natAbs) one false
    have num : tenTo e.toNat = 1 := by rw [show e.toNat = 0 by omega, least]
    have den : (-e).toNat = e.natAbs := by omega
    rw [divided, div?, unsigned, positive, digits, power, bne_self_eq_false, same, ofQuotient,
      Decimal.ratio, num, den, Nat.mul_one]

theorem scaled?_zero_power {n : Nat} (fits : n < 18446744073709551616) :
    scaled? (.ofInt n) 0 = ofQuotient false n 1 := by
  have rounding : rounded false (n * oneUnits) 1 = some (.ofInt n) := by
    have unsigned : decide ((n : Int) < 0) = false := by simp
    have rounding := rounded_ofInt (n := n) (by rwa [Int.natAbs_natCast])
    rwa [unsigned, Int.natAbs_natCast] at rounding
  rw [scaled?_one (negative_of_rounded rounding), ofQuotient, rounding]

/-- The double that digits scaled by a power of ten are taken for. -/
def Scales (digits : Nat) (power : Int) (z : Binary64) : Prop :=
  scaled? (.ofInt digits) power = some z ∨
    z = .zero false ∧ (digits = 0 ∨ power < -maxExponent)

end Json.Numeral

namespace Decimal
open Json.Numeral (Scales scaled?)

/-- Decimals that the reader of numbers rounds at most once: nothing but zeros, digits that are not
scaled, or digits and a power of ten that are doubles exactly. -/
def Exact (d : Decimal) : Prop :=
  d.digits = 0 ∨ d.digits < 18446744073709551616 ∧ d.exponent = 0 ∨
    d.digits < 9007199254740992 ∧ d.exponent.natAbs ≤ 22

namespace Exact

variable {d : Decimal} {z : Binary64}

theorem fits (exact : d.Exact) : d.digits < 18446744073709551616 := by
  unfold Exact at exact
  omega

theorem scaled?_eq (exact : d.Exact) (nonzero : d.digits ≠ 0) :
    scaled? (.ofInt d.digits) d.exponent = Binary64.ofQuotient false d.ratio.1 d.ratio.2 := by
  obtain ⟨digits, power⟩ := d
  rcases exact.resolve_left nonzero with ⟨fits, rfl⟩ | ⟨short, near⟩
  · have whole : ratio ⟨digits, 0⟩ = (digits, 1) := by simp [ratio, tenTo]
    rw [whole]
    exact Json.Numeral.scaled?_zero_power fits
  · exact Json.Numeral.scaled?_exact short near

/-- An exact decimal is the double, by value, that its scaled digits are. -/
theorem toBinary64?_of_scales (exact : d.Exact) (scales : Scales d.digits d.exponent z)
    (negative : Bool) : ∃ w, d.toBinary64? negative = some w ∧
      (Binary64.signed negative z).compare w = .eq := by
  by_cases none : d.digits = 0
  · have nothing : z.isZero = true := by
      rcases scales with scaled | ⟨rfl, -⟩
      · rw [none] at scaled
        exact Json.Numeral.isZero_of_scaled? Binary64.isZero_ofInt_zero scaled
      · rfl
    refine ⟨.zero negative, if_pos none, Binary64.compare_eq_iff.2 ?_⟩
    have signless : (Binary64.signed negative z).isZero = true := by
      cases negative <;> exact nothing
    rw [Binary64.units_of_isZero signless, Binary64.units_of_isZero rfl]
  · have near : d.exponent.natAbs ≤ 22 := by
      unfold Exact at exact
      omega
    rcases scales with scaled | ⟨-, vanished⟩
    · have short : length d.digits ≤ 20 :=
        (length_le_iff (by decide)).2 (Nat.lt_trans exact.fits (by decide))
      have read := toBinary64?_of_order negative none (by omega) (by omega)
      rw [exact.scaled?_eq none, Binary64.ofQuotient] at scaled
      rw [Binary64.ofQuotient, Binary64.rounded_signed, scaled, Option.map_some] at read
      exact ⟨_, read, Binary64.compare_eq_iff.2 rfl⟩
    · have far : d.exponent < -(2147483647 : Nat) := vanished.resolve_left none
      omega

end Exact
end Decimal
end RecordStore

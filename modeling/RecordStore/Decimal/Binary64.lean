import RecordStore.Decimal.Power

/-! Finite binary64 numbers as exact integers. A double is a signed multiple of 2^-1074, the least
subnormal: `mantissa * 2 ^ exponent` of these units, with the mantissa kept within 53 bits and at
least 52 bits long unless the exponent is zero, so that each double has one representation. Signed
zeros are two doubles of equal value. Infinities and NaN are no values here: an operation whose
result would overflow is `none`.

`rounded` takes a quotient of naturals, counted in units, to the nearest double, a half to the even
mantissa. Sums of digits, products and quotients all go through it with their exact value. -/
namespace RecordStore

structure Binary64 where
  negative : Bool
  mantissa : Nat
  exponent : Nat
  /-- Below 2^53. -/
  mantissa_lt : mantissa < 9007199254740992
  /-- At least 2^52, subnormals apart. -/
  normal : exponent = 0 ∨ 4503599627370496 ≤ mantissa
  exponent_le : exponent ≤ 2045
deriving DecidableEq

namespace Binary64

/-- How many units of 2^-1074 make one. -/
def oneUnits : Nat := twoTo 1074

/-- The absolute value, in units. -/
def magnitude (x : Binary64) : Nat := x.mantissa * twoTo x.exponent

/-- The signed value, in units. -/
def units (x : Binary64) : Int := if x.negative then -(x.magnitude : Int) else x.magnitude

def zero (negative : Bool) : Binary64 :=
  ⟨negative, 0, 0, by decide, .inl rfl, by decide⟩

def largest (negative : Bool) : Binary64 :=
  ⟨negative, 9007199254740991, 2045, by decide, .inr (by decide), by decide⟩

def neg (x : Binary64) : Binary64 := { x with negative := !x.negative }

def isZero (x : Binary64) : Bool := x.mantissa == 0

/-- The quotient to the nearest natural, a half to the even one. -/
def halfEven (num den : Nat) : Nat :=
  if 2 * (num % den) < den then num / den
  else if den < 2 * (num % den) then num / den + 1
  else num / den + num / den % 2

/-- The power of two by which `num / den` units exceed 53 bits. -/
def excess (num den : Nat) : Nat := Nat.log2 (num / den) - 52

theorem halfEven_le (num den : Nat) : halfEven num den ≤ num / den + 1 := by
  unfold halfEven
  split
  · omega
  · split <;> omega

theorem le_halfEven (num den : Nat) : num / den ≤ halfEven num den := by
  unfold halfEven
  split
  · omega
  · split <;> omega

/-- At its excess a quotient has at most 53 bits, the rounding up to 2^53 apart. -/
theorem halfEven_excess_le (num den : Nat) :
    halfEven num (den * twoTo (excess num den)) ≤ 9007199254740992 := by
  refine Nat.le_trans (halfEven_le _ _) ?_
  rw [← Nat.div_div_eq_div_mul]
  have h : num / den < twoTo (excess num den) * 9007199254740992 := by
    refine Nat.lt_of_lt_of_le (lt_twoTo_log2 _) ?_
    rw [show 9007199254740992 = twoTo 53 from by decide, ← twoTo_add]
    refine twoTo_le_twoTo ?_
    unfold excess
    omega
  exact Nat.div_lt_of_lt_mul h

theorem le_halfEven_excess (num den : Nat) (h : excess num den ≠ 0) :
    4503599627370496 ≤ halfEven num (den * twoTo (excess num den)) := by
  refine Nat.le_trans ?_ (le_halfEven _ _)
  rw [← Nat.div_div_eq_div_mul, Nat.le_div_iff_mul_le (twoTo_pos _),
    show 4503599627370496 = twoTo 52 from by decide, ← twoTo_add]
  have hne : num / den ≠ 0 := by
    intro hz
    simp [excess, hz] at h
  refine Nat.le_trans (twoTo_le_twoTo ?_) (twoTo_log2_le hne)
  unfold excess at h ⊢
  omega

/-- The double nearest to `num / den` units, a half to the even mantissa; `none` on overflow. -/
def rounded (negative : Bool) (num den : Nat) : Option Binary64 :=
  let exponent := excess num den
  let mantissa := halfEven num (den * twoTo exponent)
  if carries : mantissa = 9007199254740992 then
    if fits : exponent + 1 ≤ 2045 then
      some ⟨negative, 4503599627370496, exponent + 1, by decide, .inr (Nat.le_refl _), fits⟩
    else none
  else if fits : exponent ≤ 2045 then
    some ⟨negative, mantissa, exponent,
      Nat.lt_of_le_of_ne (halfEven_excess_le num den) carries,
      (Decidable.em (exponent = 0)).imp_right (le_halfEven_excess num den), fits⟩
  else none

/-- The double nearest to the quotient `num / den` itself. -/
def ofQuotient (negative : Bool) (num den : Nat) : Option Binary64 :=
  rounded negative (num * oneUnits) den

/-- The double nearest to an integer; the largest one where it would overflow. -/
def ofInt (z : Int) : Binary64 :=
  (ofQuotient (z < 0) z.natAbs 1).getD (largest (z < 0))

/-- The double nearest to a power of ten; exact up to 10^22. -/
def powerOfTen (k : Nat) : Binary64 := ofInt (tenTo k)

/-- The exact product, rounded once. -/
def mul? (x y : Binary64) : Option Binary64 :=
  rounded (x.negative != y.negative) (x.magnitude * y.magnitude) oneUnits

/-- The exact quotient, rounded once; the divisor is not zero. -/
def div? (x y : Binary64) : Option Binary64 :=
  rounded (x.negative != y.negative) (x.magnitude * oneUnits) y.magnitude

/-- The order of the values: signed zeros are equal. -/
def compare (x y : Binary64) : Ordering := Ord.compare x.units y.units

/-- Equality of values: signed zeros are equal. -/
def valueEq (x y : Binary64) : Bool := x.units == y.units

end Binary64
end RecordStore

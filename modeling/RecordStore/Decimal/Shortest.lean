import RecordStore.Decimal.Binary64

/-! The shortest decimal of a double: the fewest digits that round back to it and, among those, the
digits nearest to its value, a tie going to the even last digit. For each number of digits only the
two neighbours of the value on that decimal grid can qualify, and each is tested by rounding it. -/
namespace RecordStore

/-- A nonnegative decimal `digits * 10 ^ exponent`. -/
structure Decimal where
  digits : Nat
  exponent : Int
deriving DecidableEq

namespace Decimal

/-- The number of decimal digits, one for zero. -/
def length (n : Nat) : Nat := (Nat.toDigits 10 n).length

def ratio (d : Decimal) : Nat × Nat :=
  (d.digits * tenTo d.exponent.toNat, tenTo (-d.exponent).toNat)

/-- The double nearest to a decimal; `none` on overflow. Decimals whose order of magnitude lies far
outside the range of doubles are decided by it alone. -/
def toBinary64? (negative : Bool) (d : Decimal) : Option Binary64 :=
  if d.digits = 0 then some (.zero negative)
  else if d.exponent + length d.digits < -330 then some (.zero negative)
  else if 310 < d.exponent + length d.digits then none
  else Binary64.ofQuotient negative d.ratio.1 d.ratio.2

/-- Moves the trailing zeros of the digits into the exponent. -/
def trimmed (d : Decimal) : Decimal :=
  go (length d.digits) d
where
  go : Nat → Decimal → Decimal
    | 0, d => d
    | fuel + 1, d =>
      if d.digits % 10 = 0 ∧ d.digits ≠ 0 then go fuel ⟨d.digits / 10, d.exponent + 1⟩ else d

end Decimal

namespace Binary64

/-- The exponent of the leading decimal digit of a nonzero double. -/
def order (x : Binary64) : Int :=
  if oneUnits ≤ x.magnitude then (Decimal.length (x.magnitude / oneUnits) : Int) - 1
  else -(Decimal.length ((oneUnits - 1) / x.magnitude) : Int)

/-- The value as a quotient counted in steps of `10 ^ step`. -/
def inSteps (x : Binary64) (step : Int) : Nat × Nat :=
  (x.magnitude * tenTo (-step).toNat, oneUnits * tenTo step.toNat)

/-- Whether a decimal rounds to the absolute value of `x`. -/
def readsBack (x : Binary64) (d : Decimal) : Bool :=
  d.toBinary64? x.negative == some x

/-- The nearer of the two neighbours on the grid of step `10 ^ step`, among those that read back. -/
def onGrid? (x : Binary64) (step : Int) : Option Decimal :=
  let (num, den) := x.inSteps step
  let below : Decimal := ⟨num / den, step⟩
  let above : Decimal := ⟨num / den + 1, step⟩
  match x.readsBack below, x.readsBack above with
  | true, true => some ⟨halfEven num den, step⟩
  | true, false => some below
  | false, true => some above
  | false, false => none

def exactDecimal (x : Binary64) : Decimal :=
  ⟨x.magnitude * Nat.pow 5 1074, -1074⟩

/-- The first grid with a neighbour that reads back, from one digit to seventeen. -/
def shortest (x : Binary64) : Decimal :=
  let found := (List.range 17).findSome? fun (more : Nat) => x.onGrid? (x.order - more)
  (found.getD x.exactDecimal).trimmed

end Binary64
end RecordStore

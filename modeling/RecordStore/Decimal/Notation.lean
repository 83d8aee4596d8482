import RecordStore.Decimal.Shortest

/-! The text of numbers. Integers are written in decimal. Doubles are written with their shortest
digits, positionally while the leading digit stands between `lowestOrder` and `highestOrder` and in
scientific notation beyond; a whole double keeps a fraction digit, and zero keeps its sign. -/
namespace RecordStore
namespace Decimal

/-- The least order of magnitude that is written positionally. -/
def lowestOrder : Int := -5

def highestOrder : Int := 15

def natText (n : Nat) : List Char := Nat.toDigits 10 n

def intText (z : Int) : List Char :=
  if z < 0 then '-' :: natText z.natAbs else natText z.natAbs

/-- The exponent with its sign, always written. -/
def exponentText (z : Int) : List Char :=
  'e' :: (if z < 0 then '-' else '+') :: natText z.natAbs

/-- A positive decimal without trailing zeros. -/
def text (d : Decimal) : List Char :=
  let digits := natText d.digits
  let order := d.exponent + digits.length - 1
  if lowestOrder ≤ order ∧ order ≤ highestOrder then
    if 0 ≤ d.exponent then digits ++ List.replicate d.exponent.toNat '0' ++ ['.', '0']
    else if 0 ≤ order then
      digits.take (order.toNat + 1) ++ '.' :: digits.drop (order.toNat + 1)
    else '0' :: '.' :: List.replicate (-order - 1).toNat '0' ++ digits
  else
    match digits with
    | [] => exponentText order
    | [digit] => digit :: exponentText order
    | digit :: more => digit :: '.' :: more ++ exponentText order

end Decimal

def Binary64.text (x : Binary64) : List Char :=
  let sign := if x.negative then ['-'] else []
  if x.isZero then sign ++ ['0', '.', '0'] else sign ++ x.shortest.text

end RecordStore

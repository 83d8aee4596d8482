import RecordStore.Decimal.Notation

/-! JSON numbers: an integer between -2^63 and 2^64, held exactly, or a finite double. The same
value may be held either way (`1` and `1.0`), and the two are told apart wherever values are written
or compared as data; `Number.compare` orders them by value. -/
namespace RecordStore

inductive Number where
  /-- From -2^63 to below 2^64. -/
  | integer (value : Int) (fits : -9223372036854775808 ≤ value ∧ value < 18446744073709551616)
  | double (value : Binary64)
deriving DecidableEq

namespace Number

def ofInt? (value : Int) : Option Number :=
  if fits : -9223372036854775808 ≤ value ∧ value < 18446744073709551616 then
    some (.integer value fits)
  else none

def toBinary64 : Number → Binary64
  | integer value _ => .ofInt value
  | double value => value

/-- Integers are compared exactly; once a double takes part, both sides are taken as doubles. -/
def compare : Number → Number → Ordering
  | integer a _, integer b _ => Ord.compare a b
  | a, b => a.toBinary64.compare b.toBinary64

/-- Equality as data: an integer differs from a double, and signed zeros are equal. -/
def sameData : Number → Number → Bool
  | integer a _, integer b _ => a == b
  | double a, double b => a.valueEq b
  | _, _ => false

def text : Number → List Char
  | integer value _ => Decimal.intText value
  | double value => value.text

end Number
end RecordStore

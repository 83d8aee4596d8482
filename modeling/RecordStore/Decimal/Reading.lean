import RecordStore.Decimal.Notation

/-! Reading decimal text as the double nearest to it: an optional sign, digits with an optional
point and at least one digit, an optional exponent. Texts whose double would overflow are refused.
-/
namespace RecordStore.Decimal

def isDigit (c : Char) : Bool := '0' ≤ c && c ≤ '9'

/-- The number written by a run of digits; zero for the empty run. -/
def natOfDigits (digits : List Char) : Nat :=
  digits.foldl (fun n c => n * 10 + (c.toNat - '0'.toNat)) 0

def splitSign : List Char → Bool × List Char
  | '-' :: rest => (true, rest)
  | '+' :: rest => (false, rest)
  | text => (false, text)

def natOfText? (text : List Char) : Option Nat :=
  if text.isEmpty || !text.all isDigit then none else some (natOfDigits text)

def intOfText? (text : List Char) : Option Int :=
  let (negative, digits) := splitSign text
  (natOfText? digits).map fun n => if negative then -(n : Int) else n

/-- The exponent part that ends a decimal: nothing, or a mark and an integer. -/
def exponentOfText? : List Char → Option Int
  | [] => some 0
  | c :: rest => if c = 'e' ∨ c = 'E' then intOfText? rest else none

def ofText? (text : List Char) : Option Decimal := do
  let whole := text.takeWhile isDigit
  let rest := text.dropWhile isDigit
  let (fraction, rest) := match rest with
    | '.' :: rest => (rest.takeWhile isDigit, rest.dropWhile isDigit)
    | _ => ([], rest)
  if whole.isEmpty && fraction.isEmpty then none
  let exponent ← exponentOfText? rest
  return ⟨natOfDigits (whole ++ fraction), exponent - fraction.length⟩

end RecordStore.Decimal

/-- The double nearest to a signed decimal text. -/
def RecordStore.Binary64.ofText? (text : List Char) : Option RecordStore.Binary64 := do
  let (negative, rest) := RecordStore.Decimal.splitSign text
  (← RecordStore.Decimal.ofText? rest).toBinary64? negative

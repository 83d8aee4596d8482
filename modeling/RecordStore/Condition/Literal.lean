import RecordStore.Condition.Basic
import RecordStore.Decimal.Reading
import RecordStore.Text.Utf8

/-! Typing the right-hand side of a condition. One layer of matching quotes is removed first, and
does not make a string of what it held: keywords and numbers count inside quotes too. -/
namespace RecordStore.Literal

def isQuote (octet : UInt8) : Bool := octet == 0x22 || octet == 0x27

/-- Removes one pair of equal quotes from the two ends, looking at octets alone. -/
def stripQuotes (text : List Char) : List Char :=
  let octets := Text.octets text
  match octets.head?, octets.getLast? with
  | some first, some last =>
    if 2 ≤ octets.length ∧ first = last ∧ isQuote first then
      (Text.slice? 1 (octets.length - 1) text).getD text
    else text
  | _, _ => text

/-- An integer in range stays exact; other decimals are the nearest double. -/
def number? (text : List Char) : Option Number :=
  match (Decimal.intOfText? text).bind Number.ofInt? with
  | some n => some n
  | none => (Binary64.ofText? text).map .double

def operand (text : List Char) : Operand :=
  if text = "true".toList then .json (.bool true)
  else if text = "false".toList then .json (.bool false)
  else if text = "null".toList then .json .null
  else if text = "undefined".toList then .undefined
  else match number? text with
    | some n => .json (.number n)
    | none => .json (.string (String.ofList text))

end RecordStore.Literal

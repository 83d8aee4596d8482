import RecordStore.Condition.Literal
import RecordStore.Text.Blank
import RecordStore.Text.Search

/-! Reading a condition text `field operator value`. The operators are searched for in `matchOrder`,
anywhere in the text; the first occurrence of the first one found divides it. A text in which no
operator occurs is no condition. -/
namespace RecordStore.Condition

/-- The first operator in search order that occurs in a text, with what stands on its two sides. -/
def divide? (text : List Char) : Option (Operator × List Char × List Char) :=
  Operator.matchOrder.findSome? fun op =>
    (Text.splitAtFirst op.symbol.toList text).map fun sides => (op, sides)

def parse? (raw : String) : Option Condition :=
  (divide? raw.toList).map fun (op, before, after) =>
    { field := String.ofList (Text.trim before)
      operator := op
      operand := Literal.operand (Literal.stripQuotes (Text.trim after)) }

end RecordStore.Condition

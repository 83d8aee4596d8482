import RecordStore.Condition.Operator
import RecordStore.Json.Writer

/-! A condition: a field, an operator and an operand. The operand `undefined` stands for a field
that a record does not have, and is no JSON value. -/
namespace RecordStore

inductive Operand where
  | undefined
  | json (value : Json)

structure Condition where
  /-- A path of keys, joined by points. -/
  field : String
  operator : Operator
  operand : Operand

namespace Operand

def sameData : Operand → Operand → Bool
  | undefined, undefined => true
  | json a, json b => a == b
  | _, _ => false

/-- A string stands between quotes as it is, without escapes; other values are written as JSON. -/
def text : Operand → List Char
  | undefined => "undefined".toList
  | json (.string s) => '"' :: s.toList ++ ['"']
  | json value => value.write .compact 0

end Operand

namespace Condition

def sameData (a b : Condition) : Bool :=
  a.field == b.field && a.operator == b.operator && a.operand.sameData b.operand

instance : BEq Condition := ⟨sameData⟩

def text (c : Condition) : String :=
  String.ofList (c.field.toList ++ ' ' :: c.operator.symbol.toList ++ ' ' :: c.operand.text)

end Condition
end RecordStore

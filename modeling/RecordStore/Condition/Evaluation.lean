import RecordStore.Condition.Basic
import RecordStore.Path

/-! Whether a record satisfies a condition. Nothing here fails: operands of kinds that an operator
does not compare do not satisfy it, `!=` apart, which holds exactly where `=` does not. -/
namespace RecordStore

/-- Equality of what a record has with an operand: numbers by value, other values as data. -/
def Operand.equals : Option Json → Operand → Bool
  | none, .undefined => true
  | some (.number a), .json (.number b) => a.compare b == .eq
  | some a, .json b => a == b
  | _, _ => false

/-- The order of two numbers; other values have none. -/
def Operand.compare? : Option Json → Operand → Option Ordering
  | some (.number a), .json (.number b) => some (a.compare b)
  | _, _ => none

def Operand.texts? : Option Json → Operand → Option (List Char × List Char)
  | some (.string s), .json (.string t) => some (s.toList, t.toList)
  | _, _ => none

/-- Whether a value, or the lack of one, stands in an operator's relation to an operand. -/
def Operator.holds (op : Operator) (actual : Option Json) (operand : Operand) : Bool :=
  match op with
  | .eq => operand.equals actual
  | .ne => !operand.equals actual
  | .gt => operand.compare? actual == some .gt
  | .lt => operand.compare? actual == some .lt
  | .ge => (operand.compare? actual).any (· != .lt)
  | .le => (operand.compare? actual).any (· != .gt)
  | .contains => (operand.texts? actual).any fun (s, t) => Text.occursIn t s
  | .startsWith => (operand.texts? actual).any fun (s, t) => t.isPrefixOf s
  | .endsWith => (operand.texts? actual).any fun (s, t) => t.isSuffixOf s

def Condition.holds (c : Condition) (record : Json) : Bool :=
  c.operator.holds (record.at? (Path.ofText c.field)) c.operand

end RecordStore

/-! The comparison operators of conditions, with the symbols they are written by and the order in
which a text is searched for them: longer symbols first, so that `>=` is never read as `>`. -/
namespace RecordStore

inductive Operator where
  | eq
  | ne
  | gt
  | lt
  | ge
  | le
  | contains
  | startsWith
  | endsWith
deriving DecidableEq

namespace Operator

def all : List Operator := [eq, ne, gt, lt, ge, le, contains, startsWith, endsWith]

def symbol : Operator → String
  | eq => "="
  | ne => "!="
  | gt => ">"
  | lt => "<"
  | ge => ">="
  | le => "<="
  | contains => "contains"
  | startsWith => "startsWith"
  | endsWith => "endsWith"

def name : Operator → String
  | eq => "Eq"
  | ne => "Ne"
  | gt => "Gt"
  | lt => "Lt"
  | ge => "Ge"
  | le => "Le"
  | contains => "Contains"
  | startsWith => "StartsWith"
  | endsWith => "EndsWith"

def ofSymbol? (symbol : String) : Option Operator := all.find? (·.symbol = symbol)

def ofName? (name : String) : Option Operator := all.find? (·.name = name)

/-- Longest symbol first, and as in `all` among symbols of equal length. -/
def matchOrder : List Operator :=
  [startsWith, contains, endsWith, ne, ge, le, eq, gt, lt]

/-- The order is the stable sort of all operators, by the octets of their symbols downwards. -/
theorem matchOrder_eq_mergeSort :
    matchOrder = all.mergeSort fun a b => b.symbol.utf8ByteSize ≤ a.symbol.utf8ByteSize := by
  simp +decide [matchOrder, all, List.mergeSort]

@[simp] theorem ofSymbol?_symbol (op : Operator) : ofSymbol? op.symbol = some op := by
  cases op <;> decide

@[simp] theorem ofName?_name (op : Operator) : ofName? op.name = some op := by
  cases op <;> decide

end Operator
end RecordStore

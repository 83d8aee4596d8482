import RecordStore.Query
import RecordStore.Text.Quotation

/-! What a query can be filtered by: a condition text, or a test of whole records that passes by
parsing, caching and paths. -/
namespace RecordStore

inductive Predicate where
  | condition (raw : String)
  | test (holds : Json → Bool)

namespace Predicate

/-- How a predicate is shown; a test shows nothing of itself. -/
def text : Predicate → String
  | condition raw => "Condition(" ++ Text.quotation raw ++ ")"
  | test _ => "Func(..)"

end Predicate

def Query.narrow {R : Type} [RecordSet R] (q : Query R) : Predicate → Action (Query R)
  | .condition raw => q.filter raw
  | .test holds => return q.filterBy holds

end RecordStore

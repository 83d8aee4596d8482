import RecordStore.Json.Basic
import RecordStore.Text.Search

/-! Paths into a value: keys joined by points, each naming a member of the object that the keys
before it lead to. Empty keys count. Items of arrays have no path. -/
namespace RecordStore

abbrev Path := List String

/-- The keys between the points; one key when there is no point. -/
def Path.ofText (text : String) : Path :=
  (Text.splitOn '.' text.toList).map String.ofList

/-- The value a path leads to, if every key on the way names a member. -/
def Json.at? (value : Json) : Path → Option Json
  | [] => some value
  | key :: rest =>
    match value with
    | .object members => (Members.find? key members).bind fun next => next.at? rest
    | _ => none

theorem Json.at?_append (value : Json) (p q : Path) :
    value.at? (p ++ q) = (value.at? p).bind (·.at? q) := by
  induction p generalizing value with
  | nil => rfl
  | cons key rest ih =>
    cases value <;> simp only [List.cons_append, Json.at?, Option.bind_none, Option.bind_assoc, ih]

end RecordStore

import RecordStore.Condition.Evaluation
import RecordStore.Patch
import RecordStore.Storage.Action

/-! Queries: a selection of records that filters narrow, and that is then read, patched or deleted.

A query works on any ordered set of records and keeps the positions it selects, in rising order.
Each change is made on the records first and handed over by `sync` afterwards; it stays made when
that fails. -/
namespace RecordStore

class RecordSet (R : Type) where
  records : R → List Json
  withRecords : R → List Json → R
  /-- Hands over the records after a change. -/
  sync : R → Action (Except StoreError Unit × R)

/-- A list by itself: there is nothing to hand over to. -/
instance : RecordSet (List Json) where
  records records := records
  withRecords _ records := records
  sync records := return (.ok (), records)

structure Query (R : Type) where
  backing : R
  cache : CacheId
  working : List Nat
  applied : List CachedCondition

namespace Query

variable {R : Type} [RecordSet R]

def start (backing : R) (cache : CacheId) : Query R :=
  ⟨backing, cache, List.range (RecordSet.records backing).length, []⟩

def records (q : Query R) : List Json := RecordSet.records q.backing

def filterBy (q : Query R) (test : Json → Bool) : Query R :=
  { q with working := q.working.filter fun i => (q.records[i]?).any test }

/-- Keeps the selected records that satisfy a condition text; a text that is no condition is passed
over. -/
def filter (q : Query R) (raw : String) : Action (Query R) := do
  match ← Action.condition? q.cache raw with
  | none =>
    Action.report (.conditionIgnored raw)
    return q
  | some cached =>
    return { q.filterBy cached.condition.holds with applied := q.applied ++ [cached] }

def filterAll (q : Query R) : List String → Action (Query R)
  | [] => return q
  | raw :: rest => do (← q.filter raw).filterAll rest

def items (q : Query R) : List Json := q.working.filterMap fun i => q.records[i]?

def first? (q : Query R) : Option Json := q.working.head?.bind fun i => q.records[i]?

def count (q : Query R) : Nat := q.working.length

/-- Hands over changed records; a success counts the records concerned. -/
def commit (q : Query R) (records : List Json) (count : Nat) :
    Action (Except StoreError Nat × Query R) := do
  let (outcome, backing) ← RecordSet.sync (RecordSet.withRecords q.backing records)
  return (outcome.map fun _ => count, { q with backing := backing })

/-- Patches the selected records; the result is their number. -/
def update (q : Query R) (patch : Json) : Action (Except StoreError Nat × Query R) := do
  let changed := q.working.foldl (fun records i => records.modify i patch.patched) q.records
  Action.report (.selectionUpdated q.count)
  q.commit changed q.count

/-- Deletes the selected records, from the last to the first so that positions stay right; the
selection is empty afterwards and the result is their number. -/
def delete (q : Query R) : Action (Except StoreError Nat × Query R) := do
  let kept := (List.range q.records.length).reverse.foldl
    (fun records i => if q.working.contains i then records.eraseIdx i else records) q.records
  Action.report (.selectionDeleted q.count)
  { q with working := [] }.commit kept q.count

end Query
end RecordStore

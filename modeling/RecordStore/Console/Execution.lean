import RecordStore.Console.Command
import RecordStore.Store

/-! Executing commands on a store. -/
namespace RecordStore.Console

inductive Outcome where
  | inserted (records : Nat)
  | updated (records : Nat)
  | deleted (records : Nat)
  | reloaded (records : Nat)
  | cleared
  | item (record : Option Json)
  | items (records : List Json)
  | count (records : Nat)
  | help (topic : Option String)
  | exit

namespace Command

/-- The records to insert: an array stands for its items. -/
def documents : Json → List Json
  | .array items => items
  | document => [document]

def select (store : Store) (conditions : List String) : Action (Query Store) :=
  store.query.filterAll conditions

def execute (command : Command) (store : Store) : Action (Except StoreError Outcome × Store) := do
  match command with
  | .insert document =>
    let records := documents document
    let (outcome, store) ← store.insertMany records
    return (outcome.map fun _ => .inserted records.length, store)
  | .all => return (.ok (.items store.records), store)
  | .find conditions =>
    let q ← select store conditions
    return (.ok (.items q.items), q.backing)
  | .first conditions =>
    let q ← select store conditions
    return (.ok (.item q.first?), q.backing)
  | .count conditions =>
    let q ← select store conditions
    return (.ok (.count q.count), q.backing)
  | .update patch conditions =>
    let (outcome, q) ← (← select store conditions).update patch
    return (outcome.map .updated, q.backing)
  | .delete conditions =>
    let (outcome, q) ← (← select store conditions).delete
    return (outcome.map .deleted, q.backing)
  | .reload =>
    let store ← store.reload
    return (.ok (.reloaded store.size), store)
  | .clear =>
    let (outcome, store) ← store.clear
    return (outcome.map fun _ => .cleared, store)
  | .help topic => return (.ok (.help topic), store)
  | .exit => return (.ok .exit, store)

end Command
end RecordStore.Console

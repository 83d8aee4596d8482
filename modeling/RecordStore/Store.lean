import RecordStore.Document
import RecordStore.Predicate

/-! A store: the records of one document, held in memory. Every change is made in memory first and
then written as a whole document; when the writing fails, the change stays made and the operation
reports the failure. A later write that succeeds writes such changes too. -/
namespace RecordStore

structure Store where
  path : String
  records : List Json
  settings : Settings
  cache : CacheId

namespace Store

def openWith (path : String) (settings : Settings) (cache : CacheId) : Action Store := do
  let records ← Document.load path
  Action.report (.storeOpened path records.length)
  return ⟨path, records, settings, cache⟩

/-- Opens a store as it comes: indented, making no directories, with the shared cache. -/
def openDefault (path : String) : Action Store := openWith path .default .shared

def size (store : Store) : Nat := store.records.length

def isEmpty (store : Store) : Bool := store.records.isEmpty

def persist (store : Store) : Action (Except StoreError Unit) :=
  Document.persist store.path store.records store.settings

def replace (store : Store) (records : List Json) : Action (Except StoreError Unit × Store) := do
  let changed := { store with records := records }
  return (← changed.persist, changed)

def insertMany (store : Store) (records : List Json) :
    Action (Except StoreError Unit × Store) :=
  store.replace (store.records ++ records)

def insert (store : Store) (record : Json) : Action (Except StoreError Unit × Store) :=
  store.insertMany [record]

/-- Loads the document again, dropping what is in memory. -/
def reload (store : Store) : Action Store := do
  let records ← Document.load store.path
  Action.report (.storeReloaded store.path records.length)
  return { store with records := records }

def clear (store : Store) : Action (Except StoreError Unit × Store) := store.replace []

/-- Patches the records that satisfy a condition text; the result is their number. A text that is no
condition patches nothing and writes nothing. -/
def updateWhere (store : Store) (raw : String) (patch : Json) :
    Action (Except StoreError Nat × Store) := do
  match ← Action.condition? store.cache raw with
  | none => return (.ok 0, store)
  | some cached =>
    let holds := cached.condition.holds
    let updated := store.records.countP holds
    Action.report (.updatedWhere cached.condition updated)
    let (outcome, store) ← store.replace
      (store.records.map fun record => if holds record then patch.patched record else record)
    return (outcome.map fun _ => updated, store)

/-- Deletes the records that satisfy a condition text; the result is their number. A text that is no
condition deletes nothing and writes nothing. -/
def deleteWhere (store : Store) (raw : String) : Action (Except StoreError Nat × Store) := do
  match ← Action.condition? store.cache raw with
  | none => return (.ok 0, store)
  | some cached =>
    let kept := store.records.filter (!cached.condition.holds ·)
    let removed := store.size - kept.length
    Action.report (.deletedWhere cached.condition removed)
    let (outcome, store) ← store.replace kept
    return (outcome.map fun _ => removed, store)

/-- After a change a store writes its document. -/
instance : RecordSet Store where
  records := records
  withRecords store records := { store with records := records }
  sync store := return (← store.persist, store)

def query (store : Store) : Query Store := Query.start store store.cache

def filter (store : Store) (raw : String) : Action (Query Store) := store.query.filter raw

end Store
end RecordStore

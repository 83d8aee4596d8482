import RecordStore.Condition.Basic
import RecordStore.Storage.Error

/-! What a store reports while it works: an event has a level, a message and named fields, all of
them texts. -/
namespace RecordStore

inductive Event where
  | documentMissing (path : String)
  | documentUnreadable (path : String) (error : IoError)
  | documentLoaded (path : String) (records : Nat)
  | singleObjectLoaded (path : String)
  | documentScalar (path : String) (kind : String)
  | documentMalformed (path : String) (fault : Json.Fault)
  | documentPersisted (path : String) (records : Nat)
  | storeOpened (path : String) (records : Nat)
  | storeReloaded (path : String) (records : Nat)
  | updatedWhere (condition : Condition) (records : Nat)
  | deletedWhere (condition : Condition) (records : Nat)
  | selectionUpdated (records : Nat)
  | selectionDeleted (records : Nat)
  | cacheMissed (raw : String) (parsed : Bool)
  | conditionIgnored (raw : String)

namespace Event

inductive Level where
  | trace
  | debug
  | warn
deriving DecidableEq

def Level.text : Level → String
  | trace => "TRACE"
  | debug => "DEBUG"
  | warn => "WARN"

def level : Event → Level
  | cacheMissed _ _ => .trace
  | documentUnreadable _ _ | documentScalar _ _ | documentMalformed _ _ => .warn
  | _ => .debug

def message : Event → String
  | documentMissing _ => "document not found, starting empty"
  | documentUnreadable _ _ => "failed to read document, starting empty"
  | documentLoaded _ _ => "loaded document"
  | singleObjectLoaded _ => "loaded single-object document"
  | documentScalar _ _ => "document is neither an array nor an object, starting empty"
  | documentMalformed _ _ => "document is not valid JSON, starting empty"
  | documentPersisted _ _ => "persisted document"
  | storeOpened _ _ => "opened store"
  | storeReloaded _ _ => "reloaded store"
  | updatedWhere _ _ => "update_where"
  | deletedWhere _ _ => "delete_where"
  | selectionUpdated _ => "updated working set"
  | selectionDeleted _ => "deleted working set"
  | cacheMissed _ _ => "condition cache miss"
  | conditionIgnored _ => "unparseable condition ignored"

def fields : Event → List (String × String)
  | documentMissing path | singleObjectLoaded path => [("path", path)]
  | documentUnreadable path error => [("path", path), ("error", error.message)]
  | documentLoaded path records | documentPersisted path records
  | storeOpened path records | storeReloaded path records =>
    [("path", path), ("records", toString records)]
  | documentScalar path kind => [("path", path), ("kind", kind)]
  | documentMalformed path fault => [("path", path), ("error", fault.message)]
  | updatedWhere condition records | deletedWhere condition records =>
    [("condition", condition.text), ("records", toString records)]
  | selectionUpdated records | selectionDeleted records => [("records", toString records)]
  | cacheMissed raw parsed => [("condition", raw), ("parsed", toString parsed)]
  | conditionIgnored raw => [("condition", raw)]

end Event
end RecordStore

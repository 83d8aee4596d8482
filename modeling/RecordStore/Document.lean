import RecordStore.Json.Reader
import RecordStore.Storage.Action
import RecordStore.Storage.Location

/-! The document that holds the records: a JSON array, one record an item. Loading takes whatever
the file holds: an array as it is, a bare object as the one record, and anything else, a missing or
unreadable file included, as no records. Persisting replaces the whole file. -/
namespace RecordStore

structure Settings where
  /-- Whether the document is indented; otherwise it is one line. -/
  pretty : Bool
  /-- Whether missing directories above the document are made. -/
  createDirs : Bool
deriving DecidableEq

namespace Settings

def default : Settings := ⟨true, false⟩

def layout (settings : Settings) : Json.Layout :=
  if settings.pretty then .indented else .compact

end Settings

namespace Document

def decode (text : String) : List Json :=
  match Json.ofText text with
  | .ok (.array records) => records
  | .ok (.object members) => [.object members]
  | _ => []

def loadEvent (path text : String) : Event :=
  match Json.ofText text with
  | .ok (.array records) => .documentLoaded path records.length
  | .ok (.object _) => .singleObjectLoaded path
  | .ok other => .documentScalar path other.kind
  | .error fault => .documentMalformed path fault

def load (path : String) : Action (List Json) := do
  match ← Action.readFile path with
  | .ok text =>
    Action.report (loadEvent path text)
    return decode text
  | .error error =>
    Action.report (if error = .notFound then .documentMissing path
      else .documentUnreadable path error)
    return []

def encode (records : List Json) (settings : Settings) : String :=
  String.ofList ((Json.array records).write settings.layout 0)

/-- Makes the directories above the document, if the settings ask for it and there are any. -/
def makeParents (path : String) (settings : Settings) : Action (Except IoError Unit) :=
  match Location.parent? path with
  | some parent =>
    if settings.createDirs then Action.makeDirectories parent else return .ok ()
  | none => return .ok ()

def persist (path : String) (records : List Json) (settings : Settings) :
    Action (Except StoreError Unit) := do
  match ← makeParents path settings with
  | .error error => return .error (.io error)
  | .ok () =>
    match ← Action.writeFile path (encode records settings) with
    | .error error => return .error (.io error)
    | .ok () =>
      Action.report (.documentPersisted path records.length)
      return .ok ()

end Document
end RecordStore

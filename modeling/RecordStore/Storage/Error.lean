import RecordStore.Json.Fault
import RecordStore.Storage.SystemError

/-! What can go wrong with a document. Loading never fails outright; an operation that writes fails
when the file cannot be written. -/
namespace RecordStore

inductive IoError where
  /-- An error of the operating system, by its number. -/
  | system (code : Int)
  | notUtf8
  | other (text : String)
deriving DecidableEq

namespace IoError

def notFound : IoError := system 2
def alreadyExists : IoError := system 17
def notDirectory : IoError := system 20
def isDirectory : IoError := system 21
def nameTooLong : IoError := system 36

def message : IoError → String
  | system code => SystemError.text code ++ " (os error " ++ toString code ++ ")"
  | notUtf8 => "stream did not contain valid UTF-8"
  | other text => text

end IoError

inductive StoreError where
  | io (error : IoError)
  /-- The records have no JSON text. -/
  | serialize (fault : Json.Fault)
deriving DecidableEq

def StoreError.message : StoreError → String
  | io error => "I/O error: " ++ error.message
  | serialize fault => "failed to serialize records: " ++ fault.message

end RecordStore

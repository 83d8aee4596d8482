import RecordStore.Json.Basic
import RecordStore.Json.Fault

/-! The commands of the console, and why a line is none. Conditions are kept as the texts they were
written as, and apply one after the other. -/
namespace RecordStore.Console

inductive Command where
  | insert (document : Json)
  | all
  | find (conditions : List String)
  | first (conditions : List String)
  | count (conditions : List String)
  | update (patch : Json) (conditions : List String)
  | delete (conditions : List String)
  | reload
  | clear
  | help (topic : Option String)
  | exit

/-- The words that commands begin with. -/
inductive Keyword where
  | insert
  | all
  | find
  | first
  | count
  | update
  | delete
  | reload
  | clear
  | help
  | exit
  | quit
deriving DecidableEq

namespace Keyword

def every : List Keyword :=
  [insert, all, find, first, count, update, delete, reload, clear, help, exit, quit]

def word : Keyword → String
  | insert => "INSERT"
  | all => "ALL"
  | find => "FIND"
  | first => "FIRST"
  | count => "COUNT"
  | update => "UPDATE"
  | delete => "DELETE"
  | reload => "RELOAD"
  | clear => "CLEAR"
  | help => "HELP"
  | exit => "EXIT"
  | quit => "QUIT"

/-- The form of the commands that need arguments. -/
def usage : Keyword → String
  | insert => "Usage: INSERT <json object | json array>"
  | find => "Usage: FIND <condition> [AND <condition>]..."
  | first => "Usage: FIRST <condition> [AND <condition>]..."
  | update => "Usage: UPDATE <json patch> WHERE <condition> [AND <condition>]..."
  | delete =>
    "Usage: DELETE WHERE <condition> [AND <condition>]...  (use CLEAR to remove everything)"
  | keyword => "Usage: " ++ keyword.word

end Keyword

inductive CommandError where
  | emptyLine
  | unknownCommand (word : String)
  /-- Something that the command needs is missing. -/
  | incomplete (keyword : Keyword)
  | takesNoArguments (keyword : Keyword)
  | invalidJson (fault : Json.Fault)
  | missingJson
  | unexpectedInput (text : String)
  | notInsertable
  | notPatch
  | emptyCondition

def CommandError.message : CommandError → String
  | emptyLine => "Empty command"
  | unknownCommand word => "Unknown command '" ++ word ++ "'"
  | incomplete keyword => keyword.usage
  | takesNoArguments keyword => keyword.word ++ " takes no arguments"
  | invalidJson fault => "Invalid JSON: " ++ fault.message
  | missingJson => "Expected a JSON document"
  | unexpectedInput text => "Unexpected input after JSON: '" ++ text ++ "'"
  | notInsertable => "INSERT expects a JSON object or an array of objects"
  | notPatch => "UPDATE patch must be a JSON object"
  | emptyCondition => "Empty condition next to AND"

end RecordStore.Console

import RecordStore.Text.Blank
import RecordStore.Text.Search

/-! What the console tells about its commands. A topic is the name of a command in any ASCII case.
-/
namespace RecordStore.Console

structure HelpEntry where
  name : String
  summary : String
  form : String
  details : String
  examples : List String

namespace HelpEntry

def conditionDetails : String :=
  "A condition is `field operator value`. Fields may be dot paths into nested " ++
  "objects (profile.settings.theme). Operators: = != > < >= <= contains " ++
  "startsWith endsWith.\n\n" ++
  "Values true, false, null and undefined are keywords; numeric text is a " ++
  "number; anything else is a string. One layer of quotes is removed, so " ++
  "\"18\" is still the number 18.\n\n" ++
  "Chain conditions with AND. AND inside quotes is not a separator. A " ++
  "condition without an operator is ignored."

def all : List HelpEntry :=
  [ { name := "INSERT"
      summary := "Append a record, or every record of an array"
      form := "INSERT <json object | json array of objects>"
      details := "The whole file is rewritten after the insert."
      examples := [
        "INSERT \x7b\"name\": \"John\", \"age\": 30\x7d",
        "INSERT [\x7b\"name\": \"Jane\"\x7d, \x7b\"name\": \"Bob\", \"profile\": \x7b\"role\": \"admin\"\x7d\x7d]"] },
    { name := "ALL"
      summary := "Show every record"
      form := "ALL"
      details := ""
      examples := ["ALL"] },
    { name := "FIND"
      summary := "Show records matching a chain of conditions"
      form := "FIND <condition> [AND <condition>]..."
      details := conditionDetails
      examples := [
        "FIND age >= 18",
        "FIND age > 25 AND name contains \"J\"",
        "FIND profile.role = admin"] },
    { name := "FIRST"
      summary := "Show the first record matching a chain of conditions"
      form := "FIRST <condition> [AND <condition>]..."
      details := conditionDetails
      examples := ["FIRST name startsWith Jo"] },
    { name := "COUNT"
      summary := "Count records, optionally filtered"
      form := "COUNT [<condition> [AND <condition>]...]"
      details := conditionDetails
      examples := ["COUNT", "COUNT deleted = undefined"] },
    { name := "UPDATE"
      summary := "Patch every record matching a chain of conditions"
      form := "UPDATE <json patch> WHERE <condition> [AND <condition>]..."
      details :=
        "Each key of the patch replaces that attribute. Keys containing a dot set " ++
        "a nested attribute, creating (or replacing non-object) intermediate " ++
        "objects along the way."
      examples := [
        "UPDATE \x7b\"active\": false\x7d WHERE last_login < 1700000000",
        "UPDATE \x7b\"profile.active\": true\x7d WHERE name = John"] },
    { name := "DELETE"
      summary := "Remove every record matching a chain of conditions"
      form := "DELETE WHERE <condition> [AND <condition>]..."
      details :=
        "Relative order of the remaining records is preserved. " ++
        "Use CLEAR to remove everything."
      examples := [
        "DELETE WHERE age < 18",
        "DELETE WHERE status = archived AND year < 2020"] },
    { name := "RELOAD"
      summary := "Discard in-memory records and read the file again"
      form := "RELOAD"
      details := "A missing or unreadable file reloads as an empty store."
      examples := ["RELOAD"] },
    { name := "CLEAR"
      summary := "Remove every record"
      form := "CLEAR"
      details := "Writes an empty array to the file."
      examples := ["CLEAR"] },
    { name := "HELP"
      summary := "Show help for all commands or one command"
      form := "HELP [command]"
      details := ""
      examples := ["HELP", "HELP update"] },
    { name := "EXIT / QUIT"
      summary := "Exit the console"
      form := "EXIT  (or QUIT)"
      details := "Closes the FerriJSON console session."
      examples := ["EXIT", "QUIT"] } ]

/-- The words that name an entry, in capitals. -/
def topics (entry : HelpEntry) : List String :=
  if entry.name = "EXIT / QUIT" then ["EXIT", "QUIT"] else [entry.name]

def find? (topic : String) : Option HelpEntry :=
  let word := (Text.trim topic.toList).map Char.toUpper
  all.find? fun entry => entry.topics.any fun name => name.toList == word

end HelpEntry
end RecordStore.Console

import RecordStore.Console.Command
import RecordStore.Console.Conjunction
import RecordStore.Json.Reader
import RecordStore.Text.Uppercase

/-! Reading a line as a command: a keyword, then what that command takes. Keywords may be written in
any case. JSON is read as far as it goes; what follows it is read on its own. -/
namespace RecordStore.Console

/-- The first word of a text and the text after it, both without blanks around them. -/
def splitKeyword (text : List Char) : List Char × List Char :=
  let (word, rest) := Text.splitWord (Text.trim text)
  (word, Text.trimStart rest)

def Keyword.ofWord? (word : List Char) : Option Keyword :=
  (Text.uppercase? word).bind fun capitals => every.find? (·.word.toList = capitals)

namespace Command

def conditions (text : List Char) : Except CommandError (List String) :=
  match Conjunction.conditions? (String.ofList text) with
  | some found => .ok found
  | none => .error .emptyCondition

/-- The conditions of a text, at least one. -/
def someConditions (keyword : Keyword) (text : List Char) : Except CommandError (List String) := do
  let found ← conditions text
  if found.isEmpty then throw (.incomplete keyword) else return found

def afterWhere (keyword : Keyword) (text : List Char) : Except CommandError (List String) :=
  let (word, rest) := splitKeyword text
  if Text.equalsIgnoringAsciiCase word "WHERE".toList then someConditions keyword rest
  else .error (.incomplete keyword)

/-- The JSON value that a text starts with, and the text after it. -/
def leadingJson (text : List Char) : Except CommandError (Json × List Char) :=
  if text.all Json.isSpace then .error .missingJson
  else (Json.readStart text).mapError .invalidJson

/-- Objects can be inserted, alone or in an array. -/
def isInsertable : Json → Bool
  | .object _ => true
  | .array items => items.all Json.isObject
  | _ => false

def parseInsert (text : List Char) : Except CommandError Command := do
  if text.isEmpty then throw (.incomplete .insert)
  let (document, rest) ← leadingJson text
  let after := Text.trim rest
  if !after.isEmpty then throw (.unexpectedInput (String.ofList after))
  if isInsertable document then return .insert document else throw .notInsertable

def parseUpdate (text : List Char) : Except CommandError Command := do
  if text.isEmpty then throw (.incomplete .update)
  let (patch, rest) ← leadingJson text
  if !patch.isObject then throw .notPatch
  return .update patch (← afterWhere .update rest)

def alone (keyword : Keyword) (command : Command) (text : List Char) :
    Except CommandError Command :=
  if text.isEmpty then .ok command else .error (.takesNoArguments keyword)

def ofKeyword (keyword : Keyword) (text : List Char) : Except CommandError Command :=
  match keyword with
  | .insert => parseInsert text
  | .all => alone .all .all text
  | .find => (someConditions .find text).map .find
  | .first => (someConditions .first text).map .first
  | .count => (conditions text).map .count
  | .update => parseUpdate text
  | .delete => (afterWhere .delete text).map .delete
  | .reload => alone .reload .reload text
  | .clear => alone .clear .clear text
  | .help => .ok (.help (if text.isEmpty then none else some (String.ofList text)))
  | .exit | .quit => .ok .exit

def parse (line : String) : Except CommandError Command :=
  let (word, rest) := splitKeyword line.toList
  if word.isEmpty then .error .emptyLine
  else match Keyword.ofWord? word with
    | some keyword => ofKeyword keyword rest
    | none => .error (.unknownCommand (String.ofList word))

end Command
end RecordStore.Console

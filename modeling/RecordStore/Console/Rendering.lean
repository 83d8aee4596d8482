import RecordStore.Console.Execution
import RecordStore.Console.Help

/-! Showing outcomes and errors: for people, records indented and counts in words; for programs, one
line of JSON for each. Errors go to the error output either way. -/
namespace RecordStore.Console

structure Output where
  out : String
  err : String
deriving DecidableEq

namespace Output

def empty : Output := ⟨"", ""⟩

def append (a b : Output) : Output := ⟨a.out ++ b.out, a.err ++ b.err⟩

instance : Append Output := ⟨append⟩

def line (text : String) : Output := ⟨text ++ "\n", ""⟩

def errorLine (text : String) : Output := ⟨"", text ++ "\n"⟩

def lines (texts : List String) : Output := ⟨String.join (texts.map (· ++ "\n")), ""⟩

end Output

/-- Whether people or programs read the output. -/
inductive Format where
  | pretty
  | json
deriving DecidableEq

namespace Rendering

def natural (n : Nat) : Json :=
  match Number.ofInt? n with
  | some value => .number value
  | none => .null

def strings (texts : List String) : Json := .array (texts.map .string)

def objectLine (members : Members) : Output := .line (Json.object members).compactText

/-- The message of an outcome that is a change. -/
def message? : Outcome → Option String
  | .inserted n => some ("Inserted " ++ toString n ++ " record(s).")
  | .updated n => some ("Updated " ++ toString n ++ " record(s).")
  | .deleted n => some ("Deleted " ++ toString n ++ " record(s).")
  | .reloaded n => some ("Reloaded " ++ toString n ++ " record(s).")
  | .cleared => some "Cleared all records."
  | _ => none

/-- A text with blanks after it up to a width. -/
def padded (width : Nat) (text : String) : String :=
  text ++ String.ofList (List.replicate (width - text.length) ' ')

def overview : List String :=
  ["FerriJSON Console - Command Reference", ""] ++
    HelpEntry.all.map (fun entry => "  " ++ padded 12 entry.name ++ " " ++ entry.summary) ++
    ["", "Type HELP <command> for syntax and examples."]

def entryLines (entry : HelpEntry) : List String :=
  [entry.name ++ " - " ++ entry.summary, "", "Syntax:", "  " ++ entry.form] ++
    (if entry.details.isEmpty then []
      else "" :: (Text.splitOn '\n' entry.details.toList).map String.ofList) ++
    (if entry.examples.isEmpty then [] else ["", "Examples:"] ++ entry.examples.map ("  " ++ ·))

def prettyHelp : Option String → Output
  | none => .lines overview
  | some topic =>
    match HelpEntry.find? topic with
    | some entry => .lines (entryLines entry)
    | none =>
      .line ("Unknown help topic '" ++ topic ++ "'. Type HELP to see available commands.")

def jsonHelp : Option String → Output
  | none =>
    objectLine [("commands", .array (HelpEntry.all.map fun entry =>
      .object [("name", .string entry.name), ("summary", .string entry.summary)]))]
  | some topic =>
    match HelpEntry.find? topic with
    | some entry =>
      objectLine [("command", .string entry.name), ("summary", .string entry.summary),
        ("syntax", .string entry.form), ("details", .string entry.details),
        ("examples", strings entry.examples)]
    | none =>
      .errorLine (Json.object [("error",
        .string ("Unknown help topic '" ++ topic ++ "'"))]).compactText

def pretty (outcome : Outcome) : Output :=
  match outcome with
  | .item (some record) => .line record.indentedText
  | .item none => .line "No matching record."
  | .items records =>
    .lines (records.map Json.indentedText ++
      ["Returned " ++ toString records.length ++ " record(s)."])
  | .count n => .line (toString n)
  | .help topic => prettyHelp topic
  | .exit => .empty
  | change => ((message? change).map Output.line).getD .empty

def json (outcome : Outcome) : Output :=
  match outcome with
  | .item (some record) => objectLine [("found", .bool true), ("item", record)]
  | .item none => objectLine [("found", .bool false)]
  | .items records =>
    objectLine [("items", .array records), ("count", natural records.length)]
  | .count n => objectLine [("count", natural n)]
  | .help topic => jsonHelp topic
  | .exit => .empty
  | change =>
    ((message? change).map fun message =>
      objectLine [("ok", .bool true), ("message", .string message)]).getD .empty

end Rendering

def Outcome.render (outcome : Outcome) : Format → Output
  | .pretty => Rendering.pretty outcome
  | .json => Rendering.json outcome

/-- An error message, to the error output. -/
def renderError (message : String) : Format → Output
  | .pretty => .errorLine ("Error: " ++ message)
  | .json => .errorLine (Json.object [("error", .string message)]).compactText

end RecordStore.Console

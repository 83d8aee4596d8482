import RecordStore.Text.Search

/-! The command line: an optional file, commands to execute and two switches. Short options may be
joined, an option's value may be attached to it, and after `--` every word is a file name.

A command option waits for its value, and a file name for its check, until the next known option or
the end; an unknown option or a second file name is reported before that. -/
namespace RecordStore.Console

structure Arguments where
  file : Option String
  commands : List String
  json : Bool
  compact : Bool
deriving DecidableEq

inductive Refusal where
  | unknownArgument
  | invalidValue
  | repeatedSwitch
  | tooManyValues
  | help
  | version
deriving DecidableEq

inductive Switch where
  | exec
  | json
  | compact
  | help
  | version
deriving DecidableEq

namespace Switch

def ofName? : List Char → Option Switch
  | ['e', 'x', 'e', 'c'] => some exec
  | ['j', 's', 'o', 'n'] => some json
  | ['c', 'o', 'm', 'p', 'a', 'c', 't'] => some compact
  | ['h', 'e', 'l', 'p'] => some help
  | ['v', 'e', 'r', 's', 'i', 'o', 'n'] => some version
  | _ => none

def ofLetter? : Char → Option Switch
  | 'e' => some exec
  | 'j' => some json
  | 'h' => some help
  | 'V' => some version
  | _ => none

end Switch

namespace Arguments

def empty : Arguments := ⟨none, [], false, false⟩

structure Progress where
  arguments : Arguments
  /-- Whether the last option still needs its value. -/
  awaitsCommand : Bool
  /-- Whether only file names may follow. -/
  filesOnly : Bool

namespace Progress

def start : Progress := ⟨.empty, false, false⟩

/-- Checks what has been waiting: an option needs its value, and a file name is not empty. -/
def settle (p : Progress) : Except Refusal Progress :=
  if p.awaitsCommand ∨ p.arguments.file = some "" then .error .invalidValue else .ok p

def addCommand (p : Progress) (command : String) : Progress :=
  { p with
    arguments := { p.arguments with commands := p.arguments.commands ++ [command] }
    awaitsCommand := false }

def addFile (p : Progress) (word : String) : Except Refusal Progress := do
  if p.arguments.file.isSome then throw .unknownArgument
  let p ← p.settle
  return { p with arguments := { p.arguments with file := some word } }

def turnOn (p : Progress) (switch : Switch) : Except Refusal Progress := do
  let p ← p.settle
  match switch with
  | .json =>
    if p.arguments.json then throw .repeatedSwitch
    return { p with arguments := { p.arguments with json := true } }
  | .compact =>
    if p.arguments.compact then throw .repeatedSwitch
    return { p with arguments := { p.arguments with compact := true } }
  | .help => throw .help
  | .version => throw .version
  | .exec => return { p with awaitsCommand := true }

/-- Takes the command option with the value attached to it. -/
def execAttached (p : Progress) (value : List Char) : Except Refusal Progress := do
  return (← p.settle).addCommand (String.ofList value)

/-- Takes a long option, written without its dashes. -/
def addLong (p : Progress) (word : List Char) : Except Refusal Progress :=
  let (name, attached) := match Text.splitAtFirst ['='] word with
    | some (name, value) => (name, some value)
    | none => (word, none)
  match Switch.ofName? name, attached with
  | none, _ => .error .unknownArgument
  | some .exec, some value => p.execAttached value
  | some _, some _ => .error .tooManyValues
  | some switch, none => p.turnOn switch

/-- Takes joined short options, written without their dash. -/
def addShort (p : Progress) : List Char → Except Refusal Progress
  | [] => .ok p
  | letter :: rest =>
    match Switch.ofLetter? letter, rest with
    | none, _ => .error .unknownArgument
    | some .exec, '=' :: value => p.execAttached value
    | some .exec, first :: value => p.execAttached (first :: value)
    | some switch, rest => do (← p.turnOn switch).addShort rest

def add (p : Progress) (word : String) : Except Refusal Progress :=
  if p.filesOnly then p.addFile word
  else match word.toList with
    | ['-', '-'] => .ok { p with filesOnly := true }
    | '-' :: '-' :: long => p.addLong long
    | '-' :: letter :: short => p.addShort (letter :: short)
    | _ => if p.awaitsCommand then .ok (p.addCommand word) else p.addFile word

end Progress

def parse (words : List String) : Except Refusal Arguments := do
  let progress ← words.foldlM Progress.add Progress.start
  return (← progress.settle).arguments

end Arguments
end RecordStore.Console

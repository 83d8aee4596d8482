import RecordStore.Console.Backspace
import RecordStore.Console.Parser
import RecordStore.Console.Rendering

/-! The three ways to run lines on a store. Given commands and piped lines stop at the first that
fails or exits; a dialogue reports what fails and goes on, and its lines are typed, so backspaces in
them count. Piped lines and dialogues come as octets, each line decoded by itself, and blank lines
are passed over. -/
namespace RecordStore.Console

inductive Ending where
  | goOn
  | exit
  | failed
deriving DecidableEq

structure LineResult where
  output : Output
  ending : Ending
  store : Store

def runLine (format : Format) (store : Store) (line : String) : Action LineResult := do
  match Command.parse line with
  | .error error => return ⟨renderError error.message format, .failed, store⟩
  | .ok command =>
    let (outcome, store) ← command.execute store
    match outcome with
    | .error error => return ⟨renderError error.message format, .failed, store⟩
    | .ok .exit => return ⟨.empty, .exit, store⟩
    | .ok outcome => return ⟨outcome.render format, .goOn, store⟩

structure RunResult where
  code : Nat
  output : Output
  store : Store

namespace RunResult

/-- Puts earlier output before a result. -/
def after (output : Output) (result : RunResult) : RunResult :=
  { result with output := output ++ result.output }

end RunResult

/-- Runs given commands up to the first that fails or exits. -/
def runCommands (format : Format) : List String → Store → Action RunResult
  | [], store => return ⟨0, .empty, store⟩
  | line :: rest, store => do
    let result ← runLine format store line
    match result.ending with
    | .exit => return ⟨0, result.output, result.store⟩
    | .failed => return ⟨1, result.output, result.store⟩
    | .goOn => return (← runCommands format rest result.store).after result.output

/-- A line of input: its text, or nothing if its octets are no UTF-8. -/
abbrev InputLine := Option String

namespace InputLine

/-- The octets between line feeds; after the last line feed there is no further empty line. -/
def split : List UInt8 → List (List UInt8)
  | [] => []
  | octet :: rest =>
    if octet = 0x0A then [] :: split rest
    else match split rest with
      | [] => [[octet]]
      | line :: lines => (octet :: line) :: lines

def ofOctets (octets : List UInt8) : InputLine := String.fromUTF8? ⟨octets.toArray⟩

def all (input : ByteArray) : List InputLine := (split input.data.toList).map ofOctets

end InputLine

/-- Runs piped lines up to the first that fails or exits; a line that is no text fails. -/
def runPiped (format : Format) : List InputLine → Store → Action RunResult
  | [], store => return ⟨0, .empty, store⟩
  | none :: _, store => return ⟨1, renderError IoError.notUtf8.message format, store⟩
  | some line :: rest, store => do
    let text := Text.trimString line
    if text.isEmpty then runPiped format rest store
    else
      let result ← runLine format store text
      match result.ending with
      | .exit => return ⟨0, result.output, result.store⟩
      | .failed => return ⟨1, result.output, result.store⟩
      | .goOn => return (← runPiped format rest result.store).after result.output

namespace Dialogue

def banner (store : Store) : Output :=
  .lines ["FerriJSON Console v0.1.0", "File: " ++ store.path,
    "Type HELP for available commands.", ""]

def farewell : Output := .line "Bye!"

def notText : Output := .errorLine ("Readline error: " ++ IoError.notUtf8.message)

/-- Answers one line as it was typed; `none` for the line when it is not text. It fails only where
backspaces cannot be carried out. -/
def answer (store : Store) : InputLine → Action LineResult
  | none => return ⟨notText, .exit, store⟩
  | some line =>
    match rubbedOut? line with
    | none => return ⟨.empty, .failed, store⟩
    | some typed => do
      let text := Text.trimString typed
      if text.isEmpty then return ⟨.empty, .goOn, store⟩
      else
        let result ← runLine .pretty store text
        return { result with ending := if result.ending = .exit then .exit else .goOn }

/-- The code of a program that breaks off. What the runtime says then is left out. -/
def brokenOff : Nat := 101

/-- Answers lines until one exits or the input ends, or the program breaks off. -/
def answerAll : List InputLine → Store → Action RunResult
  | [], store => return ⟨0, farewell, store⟩
  | line :: rest, store => do
    let result ← answer store line
    match result.ending with
    | .exit => return ⟨0, result.output, result.store⟩
    | .failed => return ⟨brokenOff, result.output, result.store⟩
    | .goOn => return (← answerAll rest result.store).after result.output

def run (lines : List InputLine) (store : Store) : Action RunResult := do
  return (← answerAll lines store).after (banner store)

end Dialogue
end RecordStore.Console

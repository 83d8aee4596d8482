import RecordStore.Console.Program
import RecordStore.Storage.World

/-! The program in its real surroundings: actions are performed on the file system, and lines come
from the standard input. -/
namespace RecordStore

def IoError.ofError : IO.Error → IoError
  | .noFileOrDirectory _ code _ | .permissionDenied (some _) code _ | .permissionDenied none code _
  | .alreadyExists _ code _ | .inappropriateType _ code _ | .resourceExhausted _ code _
  | .invalidArgument _ code _ | .unsupportedOperation code _ | .hardwareFault code _
  | .unsatisfiedConstraints code _ | .resourceBusy code _ | .illegalOperation code _
  | .otherError code _ => .system code.toNat
  | error => .other (toString error)

def attempt {α : Type} (request : IO α) : IO (Except IoError α) := do
  match ← request.toBaseIO with
  | .ok answer => return .ok answer
  | .error error => return .error (.ofError error)

abbrev Caches := CacheId → ConditionCache

/-- Performs an action on the file system; what it reports is dropped. -/
def Action.perform {α : Type} : Action α → StateT Caches IO α
  | .done result => return result
  | .read path next => do
    let answer ← attempt (IO.FS.readBinFile path)
    let text := answer.bind fun octets =>
      match String.fromUTF8? octets with
      | some text => .ok text
      | none => .error .notUtf8
    (next text).perform
  | .write path text next => do (next (← attempt (IO.FS.writeFile path text))).perform
  | .makeDirs path next => do (next (← attempt (IO.FS.createDirAll path))).perform
  | .lookup id raw next => do
    let (answer, cache) := ((← get) id).parse raw
    modify fun caches other => if other = id then cache else caches other
    (next answer).perform
  | .emit _ next => next.perform

namespace Console

def Output.print (output : Output) : IO Unit := do
  (← IO.getStdout).putStr output.out
  (← IO.getStdout).flush
  (← IO.getStderr).putStr output.err

/-- The directory for local data, as the environment names it. -/
def dataDirectory : IO String := do
  let named := (← IO.getEnv "XDG_DATA_HOME").filter Location.isAbsolute
  let home := (← IO.getEnv "HOME").filter (!·.isEmpty)
  return named.getD ((home.map (· ++ "/.local/share")).getD ".")

def nextLine : IO (Option InputLine) := do
  (← IO.getStdout).putStr "ferrijson> "
  (← IO.getStdout).flush
  match ← attempt (do (← IO.getStdin).getLine) with
  | .ok line => return if line.isEmpty then none else some (some line)
  | .error _ => return some none

partial def converse (store : Store) (caches : Caches) : IO Nat := do
  match ← nextLine with
  | none =>
    Dialogue.farewell.print
    return 0
  | some line =>
    let (result, caches) ← (Dialogue.answer store line).perform.run caches
    result.output.print
    match result.ending with
    | .exit => return 0
    | .failed => return Dialogue.brokenOff
    | .goOn => converse result.store caches

def start (arguments : Arguments) : IO UInt32 := do
  let default := defaultPath (← dataDirectory)
  let caches : Caches := fun _ => .empty
  let interactive := arguments.commands.isEmpty && (← (← IO.getStdin).isTty)
  if interactive then
    let (store, caches) ← (arguments.openStore default).perform.run caches
    (Dialogue.banner store).print
    return UInt32.ofNat (← converse store caches)
  else
    let input ← if arguments.commands.isEmpty then (← IO.getStdin).readBinToEnd else pure .empty
    let (result, _) ← (arguments.run default (InputLine.all input)).perform.run caches
    result.output.print
    return UInt32.ofNat result.code

end Console
end RecordStore

def main (words : List String) : IO UInt32 := do
  match RecordStore.Console.Arguments.parse words with
  | .ok arguments => RecordStore.Console.start arguments
  | .error refusal =>
    refusal.output.print
    return UInt32.ofNat refusal.code

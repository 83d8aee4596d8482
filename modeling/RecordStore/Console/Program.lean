import RecordStore.Console.Arguments
import RecordStore.Console.Session

/-! The whole program apart from its surroundings: which document it opens, how it runs its lines
and what it says when it starts no session. -/
namespace RecordStore.Console

/-- The document that is opened when none is named, below the directory for local data. -/
def defaultPath (dataDirectory : String) : String :=
  dataDirectory ++ "/ferrijson/default.json"

namespace Refusal

def versionText : String := "ferrijson 0.1.0"

def usageText : String := "Usage: ferrijson [OPTIONS] [FILE]"

def helpText : String :=
  "FerriJSON Console: interactive and scriptable CLI for JSON document files\n\n" ++
    usageText ++ "\n\n" ++
    "Arguments:\n  [FILE]  JSON file to operate on\n\n" ++
    "Options:\n" ++
    "  -e, --exec <EXEC>  Execute a command non-interactively (can be repeated)\n" ++
    "  -j, --json         Output results as machine-parseable JSON\n" ++
    "      --compact      Write the file without indentation\n" ++
    "  -h, --help         Print help\n" ++
    "  -V, --version      Print version"

/-- What is said about a command line that starts no session. -/
def output : Refusal → Output
  | help => .line helpText
  | version => .line versionText
  | unknownArgument => .errorLine ("error: unexpected argument\n\n" ++ usageText)
  | invalidValue => .errorLine ("error: a value is required\n\n" ++ usageText)
  | repeatedSwitch =>
    .errorLine ("error: the argument cannot be used multiple times\n\n" ++ usageText)
  | tooManyValues => .errorLine ("error: unexpected value for the argument\n\n" ++ usageText)

def code : Refusal → Nat
  | help | version => 0
  | _ => 2

end Refusal

namespace Arguments

def format (arguments : Arguments) : Format := if arguments.json then .json else .pretty

def settings (arguments : Arguments) : Settings := ⟨!arguments.compact, true⟩

def openStore (arguments : Arguments) (default : String) : Action Store :=
  Store.openWith (arguments.file.getD default) arguments.settings .shared

/-- Runs the given commands, or the piped lines if there are none. -/
def run (arguments : Arguments) (default : String) (lines : List InputLine) :
    Action RunResult := do
  let store ← arguments.openStore default
  if arguments.commands.isEmpty then runPiped arguments.format lines store
  else runCommands arguments.format arguments.commands store

end Arguments
end RecordStore.Console

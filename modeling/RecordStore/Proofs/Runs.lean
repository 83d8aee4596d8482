import RecordStore.Console.Session
import RecordStore.Proofs.Chains
import RecordStore.Proofs.Persisting

/-! Runs of given lines. The lines that are run are a prefix of all: they go on one after the other
up to the first that fails or exits, and what comes after it might as well not be there. What one
line does to the records and the files depends on its command alone. -/
namespace RecordStore

namespace World
variable {F : Type} [FileSystem F]

/-- Whether an action only looks: it asks to write nothing, whatever it is answered. -/
def Looks {α : Type} : Action α → Prop
  | .done _ => True
  | .read _ next => ∀ answer, Looks (next answer)
  | .write _ _ _ => False
  | .makeDirs _ _ => False
  | .lookup _ _ next => ∀ answer, Looks (next answer)
  | .emit _ next => Looks next

theorem Looks.bind {α β : Type} {action : Action α} {next : α → Action β} (first : Looks action)
    (rest : ∀ result, Looks (next result)) : Looks (action >>= next) := by
  change Looks (action.bind next)
  induction action with
  | done result => exact rest result
  | write | makeDirs => cases first
  | emit event action ih => exact ih first
  | read path answered ih | lookup cache raw answered ih =>
    intro answer
    exact ih answer (first answer)

/-- Looking leaves the files as they are. -/
theorem Looks.leaves {α : Type} {action : Action α} (looks : Looks action) (world : World F) :
    (run action world).2.files = world.files ∧ requests action world = [] := by
  induction action generalizing world with
  | done => exact ⟨rfl, rfl⟩
  | write | makeDirs => cases looks
  | emit event next ih => exact ih looks _
  | read path next ih | lookup cache raw next ih => exact ih _ (looks _) _

theorem looks_filterAll {R : Type} [RecordSet R] (q : Query R) (texts : List String) :
    Looks (q.filterAll texts) := by
  induction texts generalizing q with
  | nil => trivial
  | cons raw rest ih =>
    have asks : Looks (Action.condition? q.cache raw) := by
      intro answer
      change Looks (if answer.missed then _ else _)
      split <;> trivial
    have filters : Looks (q.filter raw) := by
      apply asks.bind
      intro found
      cases found <;> trivial
    exact filters.bind fun narrowed => ih narrowed

theorem looks_load (path : String) : Looks (Document.load path) := by
  intro answer
  cases answer <;> trivial

end World

namespace Console

open World

namespace Command

/-- Whether a command only shows something, or exits. -/
def shows : Command → Bool
  | all | find _ | first _ | count _ | help _ | exit => true
  | insert _ | update _ _ | delete _ | reload | clear => false

/-- What a command that changes records makes of them. -/
def after (records : List Json) : Command → List Json
  | insert document => records ++ documents document
  | update patch texts => Query.patchedAt (Query.selected texts records) patch records
  | delete texts => Query.recordsBeside (Query.selected texts records) records
  | clear => []
  | _ => records

variable {F : Type} [FileSystem F] {world : World F}

theorem persists_execute (faithful : world.Faithful) (store : Store) {command : Command}
    (changes : command.changes = true) :
    ∃ reply, reply ≠ .exit ∧ Store.Persists (command.execute store) world
      { store with records := command.after store.records } reply := by
  have select (texts : List String) :
      (run (select store texts) world).2.files = world.files ∧
        requests (select store texts) world = [] :=
    (looks_filterAll store.query texts).leaves world
  have reported (outcome : Except StoreError Unit) (n : Nat) (reply : Nat → Outcome) :
      (outcome.map fun _ => n).map reply = outcome.map fun _ => reply n := by
    cases outcome <;> rfl
  cases command with
  | all | find | first | count | reload | help | exit => cases changes
  | insert document =>
    refine ⟨.inserted (documents document).length, by rintro ⟨⟩, ?_⟩
    simp only [Store.Persists, execute, Store.insertMany, run_bind, requests_bind, run_replace,
      requests_replace, run_pure, requests_pure, List.append_nil]
    exact ⟨world, rfl, rfl, rfl⟩
  | clear =>
    refine ⟨.cleared, by rintro ⟨⟩, ?_⟩
    simp only [Store.Persists, execute, Store.clear, run_bind, requests_bind, run_replace,
      requests_replace, run_pure, requests_pure, List.append_nil]
    exact ⟨world, rfl, rfl, rfl⟩
  | update patch texts =>
    refine ⟨.updated (Query.recordsAt (Query.selected texts store.records) store.records).length,
      by rintro ⟨⟩, ?_⟩
    simp only [Store.Persists, execute, run_bind, requests_bind, run_pure, requests_pure,
      (select texts).2, Query.run_update, requests_update, Query.run_commit, requests_commit,
      RecordSet.sync, RecordSet.withRecords, backing_select, patchedRecords_select faithful,
      count_select faithful, reported, List.nil_append, List.append_nil]
    refine ⟨_, ?_, rfl, rfl⟩
    exact (select texts).1
  | delete texts =>
    refine ⟨.deleted (Query.recordsAt (Query.selected texts store.records) store.records).length,
      by rintro ⟨⟩, ?_⟩
    simp only [Store.Persists, execute, run_bind, requests_bind, run_pure, requests_pure,
      (select texts).2, Query.run_delete, requests_delete, Query.run_commit, requests_commit,
      RecordSet.sync, RecordSet.withRecords, backing_select, keptRecords_select faithful,
      count_select faithful, reported, List.nil_append, List.append_nil]
    refine ⟨_, ?_, rfl, rfl⟩
    exact (select texts).1

/-- A command that changes nothing only looks, and always succeeds. -/
theorem looks_execute (store : Store) {command : Command} (idle : command.changes = false) :
    Looks (command.execute store) := by
  have selects (texts : List String) : Looks (select store texts) := looks_filterAll _ texts
  cases command with
  | insert | update | delete | clear => cases idle
  | all | help | exit => trivial
  | find texts | first texts | count texts => exact (selects texts).bind fun q => trivial
  | reload =>
    have reloads : Looks store.reload := (looks_load store.path).bind fun records => trivial
    exact reloads.bind fun store => trivial

theorem outcome_of_idle (world : World F) (store : Store) {command : Command}
    (idle : command.changes = false) :
    ∃ outcome, (run (command.execute store) world).1.1 = .ok outcome ∧
      (outcome = .exit ↔ command = .exit) := by
  cases command with
  | insert | update | delete | clear => cases idle
  | exit => exact ⟨.exit, rfl, iff_of_true rfl rfl⟩
  | all | help => exact ⟨_, rfl, iff_of_false (by rintro ⟨⟩) (by rintro ⟨⟩)⟩
  | find texts | first texts | count texts | reload =>
    simp only [execute, run_bind, run_pure]
    exact ⟨_, rfl, iff_of_false (by rintro ⟨⟩) (by rintro ⟨⟩)⟩

theorem store_of_shows (store : Store) {command : Command} (shows : command.shows = true) :
    (run (command.execute store) world).1.2 = store := by
  cases command with
  | insert | update | delete | clear | reload => cases shows
  | all | help | exit => rfl
  | find texts | first texts | count texts =>
    simp only [execute, run_bind, run_pure, backing_select]

end Command

/-- The text on the error output that says what is wrong: a line for people, or one with a JSON
object for programs. -/
def complaint (message : String) : Format → String
  | .pretty => "Error: " ++ message ++ "\n"
  | .json => "\x7b\"error\":" ++ String.ofList (Json.quoted message) ++ "\x7d\n"

theorem renderError_eq (message : String) (format : Format) :
    renderError message format = ⟨"", complaint message format⟩ := by
  cases format with
  | pretty => rfl
  | json =>
    have written : (Json.object [("error", .string message)]).compactText =
        "\x7b\"error\":" ++ String.ofList (Json.quoted message) ++ "\x7d" := by
      rw [← String.toList_inj]
      simp [Json.compactText, Json.write, Json.writeMembers, Json.Layout.lineBreak,
        Json.Layout.colon, Json.quoted, Json.escaped]
    change Output.mk "" (_ ++ "\n") = _
    rw [written, String.append_assoc]
    rfl

/-- What a line comes to once its command was executed. -/
def settle (format : Format) (store : Store) : Except StoreError Outcome → LineResult
  | .error error => ⟨renderError error.message format, .failed, store⟩
  | .ok .exit => ⟨.empty, .exit, store⟩
  | .ok outcome => ⟨outcome.render format, .goOn, store⟩

section
variable {F : Type} [FileSystem F] (world : World F) (format : Format) (store : Store)
variable {line : String} {command : Command}

theorem runLine_of_error {error : CommandError} (refused : Command.parse line = .error error) :
    runLine format store line = pure ⟨renderError error.message format, .failed, store⟩ := by
  rw [runLine, refused]

theorem runLine_of_ok (accepted : Command.parse line = .ok command) :
    run (runLine format store line) world =
        (settle format (run (command.execute store) world).1.2
          (run (command.execute store) world).1.1, (run (command.execute store) world).2) ∧
      requests (runLine format store line) world = requests (command.execute store) world := by
  simp only [runLine, accepted, run_bind, requests_bind]
  cases (run (command.execute store) world).1.1 with
  | error error => exact ⟨rfl, List.append_nil _⟩
  | ok outcome => cases outcome <;> exact ⟨rfl, List.append_nil _⟩

theorem ending_settle_eq_exit {outcome : Except StoreError Outcome} :
    (settle format store outcome).ending = .exit ↔ outcome = .ok .exit := by
  cases outcome with
  | error => exact iff_of_false nofun nofun
  | ok outcome =>
    cases outcome with
    | exit => exact iff_of_true rfl rfl
    | _ => exact iff_of_false nofun nofun

theorem ending_settle_eq_failed {outcome : Except StoreError Outcome} :
    (settle format store outcome).ending = .failed ↔ ∃ error, outcome = .error error := by
  cases outcome with
  | error error => exact iff_of_true rfl ⟨error, rfl⟩
  | ok outcome => cases outcome <;> exact iff_of_false nofun nofun

theorem store_settle (outcome : Except StoreError Outcome) :
    (settle format store outcome).store = store := by
  cases outcome with
  | error => rfl
  | ok outcome => cases outcome <;> rfl

end

section
variable {F : Type} [FileSystem F]

/-- What running a line does, and what it leaves alone. -/
structure LineRun (world : World F) (format : Format) (store : Store) (line : String) : Prop where
  /-- A line that is no command does nothing but say why. -/
  refused : ∀ error, Command.parse line = .error error →
    run (runLine format store line) world =
      (⟨⟨"", complaint error.message format⟩, .failed, store⟩, world) ∧
    requests (runLine format store line) world = []
  exits : (run (runLine format store line) world).1.ending = .exit ↔
    Command.parse line = .ok .exit
  fails : (run (runLine format store line) world).1.ending = .failed ↔
    (∃ error, Command.parse line = .error error) ∨
      ∃ request ∈ requests (runLine format store line) world, request.failed = true
  idle : ∀ command, Command.parse line = .ok command → command.changes = false →
    (run (runLine format store line) world).2.files = world.files ∧
      requests (runLine format store line) world = []
  shown : ∀ command, Command.parse line = .ok command → command.shows = true →
    (run (runLine format store line) world).1.store = store
  /-- A change stays made, whether it can be written or not. -/
  changed : ∀ command, Command.parse line = .ok command → command.changes = true →
    (run (runLine format store line) world).1.store =
      { store with records := command.after store.records }
  /-- What failed is said, and nothing else. -/
  reported : ∀ command, Command.parse line = .ok command →
    (run (runLine format store line) world).1.ending = .failed →
    ∃ cause, (run (runLine format store line) world).1.output =
        ⟨"", complaint ("I/O error: " ++ cause.message) format⟩ ∧
      ∃ request ∈ requests (runLine format store line) world, request.error? = some cause

variable {world : World F} {line : String} {command : Command}

theorem lineRun_of_refused (format : Format) (store : Store) {error : CommandError}
    (refused : Command.parse line = .error error) : LineRun world format store line := by
  have runs := runLine_of_error format store refused
  constructor
  case refused =>
    intro other parsed
    rw [refused] at parsed
    cases parsed
    rw [runs, renderError_eq]
    exact ⟨rfl, rfl⟩
  case exits =>
    rw [runs, refused]
    exact iff_of_false nofun nofun
  case fails =>
    rw [runs]
    exact iff_of_true rfl (.inl ⟨error, refused⟩)
  all_goals
    intro command accepted
    rw [refused] at accepted
    cases accepted

/-- A line is one command. -/
theorem eq_of_parsed {other : Command} (accepted : Command.parse line = .ok command)
    (again : Command.parse line = .ok other) : command = other :=
  Except.ok.inj (accepted.symm.trans again)

theorem lineRun_of_idle (format : Format) (store : Store)
    (accepted : Command.parse line = .ok command) (idle : command.changes = false) :
    LineRun world format store line := by
  obtain ⟨ran, requested⟩ := runLine_of_ok world format store accepted
  obtain ⟨outcome, succeeds, exits⟩ := Command.outcome_of_idle world store idle
  obtain ⟨files, silent⟩ := (Command.looks_execute store idle).leaves world
  constructor
  case refused =>
    intro error refused
    rw [accepted] at refused
    cases refused
  case exits =>
    rw [ran, ending_settle_eq_exit, succeeds, accepted, Except.ok.injEq, Except.ok.injEq, exits]
  case fails =>
    rw [ran, ending_settle_eq_failed, succeeds, requested, silent, accepted]
    simp
  case idle =>
    intro _ _ _
    rw [ran, requested]
    exact ⟨files, silent⟩
  case shown =>
    intro other again shows
    obtain rfl := eq_of_parsed accepted again
    rw [ran, store_settle, Command.store_of_shows store shows]
  case changed =>
    intro other again changes
    obtain rfl := eq_of_parsed accepted again
    rw [idle] at changes
    cases changes
  case reported =>
    intro _ _ failed
    rw [ran, ending_settle_eq_failed, succeeds] at failed
    obtain ⟨error, fails⟩ := failed
    cases fails

theorem lineRun_of_changes (faithful : world.Faithful) (format : Format) (store : Store)
    (accepted : Command.parse line = .ok command) (changes : command.changes = true) :
    LineRun world format store line := by
  obtain ⟨ran, requested⟩ := runLine_of_ok world format store accepted
  obtain ⟨reply, going, persists⟩ := Command.persists_execute faithful store changes
  have notExit : command ≠ .exit := by
    rintro rfl
    cases changes
  constructor
  case refused =>
    intro error refused
    rw [accepted] at refused
    cases refused
  case exits =>
    rw [ran, ending_settle_eq_exit, accepted, Except.ok.injEq]
    apply iff_of_false ?_ notExit
    intro exited
    exact going (persists.reply_of_ok exited).symm
  case fails =>
    rw [ran, ending_settle_eq_failed, requested, persists.failed_iff, accepted]
    simp
  case idle =>
    intro other again idle
    obtain rfl := eq_of_parsed accepted again
    rw [changes] at idle
    cases idle
  case shown =>
    intro other again shows
    obtain rfl := eq_of_parsed accepted again
    cases command with
    | all | find | first | count | help | exit => cases changes
    | insert | update | delete | clear | reload => cases shows
  case changed =>
    intro other again _
    obtain rfl := eq_of_parsed accepted again
    rw [ran, store_settle, persists.store]
  case reported =>
    intro _ _ failed
    rw [ran, ending_settle_eq_failed] at failed
    obtain ⟨error, fails⟩ := failed
    obtain ⟨cause, rfl, answered⟩ := persists.error_of_failed fails
    rw [ran, requested, fails]
    exact ⟨cause, renderError_eq _ format, answered⟩

theorem lineRun_of_faithful (faithful : world.Faithful) (format : Format) (store : Store)
    (line : String) : LineRun world format store line := by
  cases parsed : Command.parse line with
  | error error => exact lineRun_of_refused format store parsed
  | ok command =>
    cases changes : command.changes with
    | false => exact lineRun_of_idle format store parsed changes
    | true => exact lineRun_of_changes faithful format store parsed changes

end

/-- Runs every line, whatever comes of those before it. -/
def runEach (format : Format) : List String → Store → Action (List LineResult × Store)
  | [], store => return ([], store)
  | line :: rest, store => do
    let result ← runLine format store line
    let (results, store) ← runEach format rest result.store
    return (result :: results, store)

/-- What the lines of results printed, one after the other. -/
def printed (results : List LineResult) : Output :=
  (results.map (·.output)).foldr (· ++ ·) .empty

def exits (line : String) : Bool :=
  match Command.parse line with
  | .ok .exit => true
  | _ => false

/-- The lines before the first that is an exit. -/
def beforeExit (lines : List String) : List String := lines.takeWhile (!exits ·)

theorem beforeExit_of_exits {line : String} (exiting : exits line = true) (lines : List String) :
    beforeExit (line :: lines) = [] := by
  simp [beforeExit, exiting]

theorem beforeExit_of_stays {line : String} (staying : exits line = false) (lines : List String) :
    beforeExit (line :: lines) = line :: beforeExit lines := by
  simp [beforeExit, staying]

theorem Output.append_empty (output : Output) : output ++ Output.empty = output := by
  obtain ⟨out, err⟩ := output
  change Output.mk (out ++ "") (err ++ "") = _
  rw [String.append_empty, String.append_empty]

section
variable {F : Type} [FileSystem F]

/-- Whether running lines comes to running the first of them, each after the other, with the given
results, and to nothing else. -/
structure RunsFirst (world : World F) (format : Format) (store : Store) (lines : List String)
    (results : List LineResult) (first rest : List String) : Prop where
  whole : lines = first ++ rest
  each : (run (runEach format first store) world).1.1 = results
  output : (run (runCommands format lines store) world).1.output = printed results
  memory : (run (runCommands format lines store) world).1.store =
    (run (runEach format first store) world).1.2
  surroundings : (run (runCommands format lines store) world).2 =
    (run (runEach format first store) world).2
  requested : requests (runCommands format lines store) world =
    requests (runEach format first store) world
  /-- All lines that are run go on, save the last. -/
  going : ∀ result ∈ results.dropLast, result.ending = .goOn
  /-- Lines are left out only after one that fails or exits. -/
  stopped : rest ≠ [] → ∃ last, results.getLast? = some last ∧ last.ending ≠ .goOn
  /-- After such a line, any other lines might as well follow. -/
  ignored : (∃ last, results.getLast? = some last ∧ last.ending ≠ .goOn) → ∀ others,
    run (runCommands format (first ++ others) store) world =
        run (runCommands format lines store) world ∧
      requests (runCommands format (first ++ others) store) world =
        requests (runCommands format lines store) world

variable {world : World F} {format : Format} {store : Store} {line : String}

/-- The code that a line stops a run with. -/
def stopCode : Ending → Nat
  | .failed => 1
  | .goOn | .exit => 0

theorem runCommands_of_stop (rest : List String) {ending : Ending}
    (ended : (run (runLine format store line) world).1.ending = ending) (stops : ending ≠ .goOn) :
    let result := run (runLine format store line) world
    run (runCommands format (line :: rest) store) world =
        (⟨stopCode ending, result.1.output, result.1.store⟩, result.2) ∧
      requests (runCommands format (line :: rest) store) world =
        requests (runLine format store line) world := by
  simp only [runCommands, run_bind, requests_bind, ended]
  cases ending with
  | goOn => exact absurd rfl stops
  | exit | failed => exact ⟨rfl, List.append_nil _⟩

theorem runCommands_of_goOn (rest : List String)
    (goes : (run (runLine format store line) world).1.ending = .goOn) :
    let result := run (runLine format store line) world
    let later := run (runCommands format rest result.1.store) result.2
    run (runCommands format (line :: rest) store) world =
        (later.1.after result.1.output, later.2) ∧
      requests (runCommands format (line :: rest) store) world =
        requests (runLine format store line) world ++
          requests (runCommands format rest result.1.store) result.2 := by
  simp only [runCommands, run_bind, requests_bind, goes, run_pure, requests_pure, List.append_nil,
    and_self]

theorem RunsFirst.stop (rest : List String)
    (stops : (run (runLine format store line) world).1.ending ≠ .goOn) :
    RunsFirst world format store (line :: rest) [(run (runLine format store line) world).1] [line]
      rest := by
  obtain ⟨ran, requested⟩ := runCommands_of_stop rest rfl stops
  constructor
  case whole => rfl
  case each => simp only [runEach, run_bind, run_pure]
  case output =>
    rw [ran]
    exact (Output.append_empty _).symm
  case memory =>
    rw [ran]
    simp only [runEach, run_bind, run_pure]
  case surroundings =>
    rw [ran]
    simp only [runEach, run_bind, run_pure]
  case requested =>
    rw [requested]
    simp only [runEach, requests_bind, requests_pure, List.append_nil]
  case going => exact fun _ none => nomatch none
  case stopped => exact fun _ => ⟨_, rfl, stops⟩
  case ignored =>
    intro _ others
    obtain ⟨same, alike⟩ := runCommands_of_stop others rfl stops
    exact ⟨same.trans ran.symm, alike.trans requested.symm⟩

theorem RunsFirst.goOn {lines first rest : List String} {results : List LineResult}
    (goes : (run (runLine format store line) world).1.ending = .goOn)
    (later : RunsFirst (run (runLine format store line) world).2 format
      (run (runLine format store line) world).1.store lines results first rest) :
    RunsFirst world format store (line :: lines)
      ((run (runLine format store line) world).1 :: results) (line :: first) rest := by
  obtain ⟨ran, requested⟩ := runCommands_of_goOn lines goes
  constructor
  case whole => rw [later.whole, List.cons_append]
  case each => simp only [runEach, run_bind, run_pure, later.each]
  case output =>
    rw [ran, RunResult.after, later.output]
    rfl
  case memory =>
    rw [ran, RunResult.after, later.memory]
    simp only [runEach, run_bind, run_pure]
  case surroundings =>
    rw [ran, later.surroundings]
    simp only [runEach, run_bind, run_pure]
  case requested =>
    rw [requested, later.requested]
    simp only [runEach, requests_bind, requests_pure, List.append_nil]
  case going =>
    intro result present
    cases results with
    | nil => cases present
    | cons next others =>
      rcases List.mem_cons.1 present with rfl | present
      · exact goes
      · exact later.going result present
  case stopped =>
    intro more
    obtain ⟨last, found, stops⟩ := later.stopped more
    exact ⟨last, by rw [List.getLast?_cons, found, Option.getD_some], stops⟩
  case ignored =>
    rintro ⟨last, found, stops⟩ others
    obtain ⟨same, alike⟩ := runCommands_of_goOn (first ++ others) goes
    have found : results.getLast? = some last := by
      cases results with
      | nil =>
        cases found
        exact absurd goes stops
      | cons next others => rwa [List.getLast?_cons_cons] at found
    obtain ⟨unchanged, unasked⟩ := later.ignored ⟨last, found, stops⟩ others
    rw [List.cons_append, same, alike, ran, requested, unchanged, unasked]
    exact ⟨rfl, rfl⟩

theorem exists_runsFirst (world : World F) (format : Format) (lines : List String) (store : Store) :
    ∃ results first rest, RunsFirst world format store lines results first rest := by
  induction lines generalizing world store with
  | nil =>
    refine ⟨[], [], [], rfl, rfl, rfl, rfl, rfl, rfl, nofun, fun none => absurd rfl none, ?_⟩
    rintro ⟨last, none, -⟩
    cases none
  | cons line lines ih =>
    by_cases goes : (run (runLine format store line) world).1.ending = .goOn
    · obtain ⟨results, first, rest, later⟩ := ih (run (runLine format store line) world).2
        (run (runLine format store line) world).1.store
      exact ⟨_, _, _, .goOn goes later⟩
    · exact ⟨_, _, _, .stop lines goes⟩

theorem exits_iff : exits line = true ↔ Command.parse line = .ok .exit := by
  unfold exits
  split
  · next parsed => exact iff_of_true rfl parsed
  · next others => exact iff_of_false nofun others

/-- Whether one of the lines before the first exit fails, when each of them is run. -/
def failsBeforeExit (world : World F) (format : Format) (lines : List String) (store : Store) :
    Bool :=
  (run (runEach format (beforeExit lines) store) world).1.1.any (·.ending = .failed)

theorem code_runCommands (faithful : world.Faithful) (format : Format) (lines : List String)
    (store : Store) :
    (run (runCommands format lines store) world).1.code =
      if failsBeforeExit world format lines store then 1 else 0 := by
  induction lines generalizing world store with
  | nil => rfl
  | cons line lines ih =>
    have law := lineRun_of_faithful faithful format store line
    cases exiting : exits line with
    | true =>
      have ended : (run (runLine format store line) world).1.ending = .exit :=
        law.exits.2 (exits_iff.1 exiting)
      rw [(runCommands_of_stop lines ended (by rintro ⟨⟩)).1, failsBeforeExit,
        beforeExit_of_exits exiting]
      rfl
    | false =>
      simp only [failsBeforeExit, beforeExit_of_stays exiting, runEach, run_bind, run_pure,
        List.any_cons]
      cases ended : (run (runLine format store line) world).1.ending with
      | exit =>
        rw [exits_iff.2 (law.exits.1 ended)] at exiting
        cases exiting
      | failed =>
        rw [(runCommands_of_stop lines ended (by rintro ⟨⟩)).1]
        rfl
      | goOn =>
        rw [(runCommands_of_goOn lines ended).1]
        exact ih (faithful.run _) _

/-- Running given lines on any store comes to running the first of them, each after the other, up to
and with the first that fails or exits: the lines after it change nothing of the output, the store,
the requests or anything else. The code is 1 if a line before the first exit fails, and 0 otherwise.
What fails is a line that is no command, or one whose change cannot be written: of these, the former
does nothing, and the latter leaves the change in memory; both print nothing but what is wrong, on
the error output. A line that only shows something leaves the records and the files as they are. -/
theorem runCommands_stops {F : Type} [FileSystem F] {world : World F} (reachable : world.Reachable)
    (format : Format) (lines : List String) (store : Store) :
    (∃ results first rest, RunsFirst world format store lines results first rest) ∧
    (run (runCommands format lines store) world).1.code =
      (if failsBeforeExit world format lines store then 1 else 0) ∧
    ∀ {G : Type} [FileSystem G] (other : World G), other.Reachable → ∀ format store line,
      LineRun other format store line := by
  refine ⟨exists_runsFirst world format lines store,
    code_runCommands reachable.faithful format lines store, ?_⟩
  intro G _ other reached format store line
  exact lineRun_of_faithful reached.faithful format store line

theorem runCommands_stops_full :
    let store : Store := ⟨"records.json", [], .default, .shared⟩
    let files : Faulty Disk := ⟨.empty, [none, some (.system 28)]⟩
    let lines := ["INSERT \x7b\"a\": 1\x7d", "INSERT \x7b\"a\": 2\x7d", "CLEAR", "EXIT"]
    let ran := run (runCommands .json lines store) (World.start files)
    ran.1.code = 1 ∧ ran.1.store.records.length = 2 ∧
      ran.1.output.err =
        "\x7b\"error\":\"I/O error: No space left on device (os error 28)\"\x7d\n" ∧
      ∃ results first rest,
        RunsFirst (World.start files) .json store lines results first rest := by
  intro store files lines ran
  have fails : failsBeforeExit (World.start files) .json lines store = true := by
    decide +kernel
  obtain ⟨stops, code, -⟩ := runCommands_stops (.start files) .json lines store
  rw [fails, if_pos rfl] at code
  have kept : ran.1.store.records.length = 2 := by decide +kernel
  have said : ran.1.output.err =
      "\x7b\"error\":\"I/O error: No space left on device (os error 28)\"\x7d\n" := by
    decide +kernel
  exact ⟨code, kept, said, stops⟩

end

end Console
end RecordStore

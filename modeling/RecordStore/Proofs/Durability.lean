import RecordStore.Console.Execution
import RecordStore.Proofs.DistinctKeys
import RecordStore.Proofs.Parsing
import RecordStore.Proofs.Persistence

/-! What becomes of changes made by console lines. A change that went well leaves the document of
the store agreeing with the records in memory, and these keep their keys apart, whatever lines came
before. So loading the document again gives the same records exactly if each of them is lasting. -/
namespace RecordStore

open World

namespace Query
variable {R : Type} [RecordSet R]

/-- What holds of all records and is kept by a patch holds after patching the selected ones. -/
theorem forall_mem_patchedRecords {P : Json → Prop} {patch : Json} (q : Query R)
    (keep : ∀ record, P record → P (patch.patched record)) (all : ∀ record ∈ q.records, P record) :
    ∀ record ∈ q.patchedRecords patch, P record := by
  have modified (i : Nat) {records : List Json} (all : ∀ record ∈ records, P record) :
      ∀ record ∈ records.modify i patch.patched, P record := by
    intro record present
    obtain ⟨j, inside, rfl⟩ := List.mem_iff_getElem.1 present
    rw [List.getElem_modify]
    split
    · exact keep _ (all _ (List.getElem_mem _))
    · exact all _ (List.getElem_mem _)
  unfold patchedRecords
  generalize q.records = records at all
  induction q.working generalizing records with
  | nil => exact all
  | cons i rest ih => exact ih _ (modified i all)

theorem mem_of_mem_keptRecords (q : Query R) {record : Json} (present : record ∈ q.keptRecords) :
    record ∈ q.records := by
  unfold keptRecords at present
  generalize (List.range q.records.length).reverse = positions at present
  generalize q.records = records at present ⊢
  induction positions generalizing records with
  | nil => exact present
  | cons i rest ih =>
    have before := ih _ present
    cases chosen : q.working.contains i with
    | true => exact List.mem_of_mem_eraseIdx (by simpa only [chosen, if_true] using before)
    | false => simpa only [chosen, Bool.false_eq_true, if_false] using before

end Query

/-- Whether all records of a store keep their keys apart. -/
def Store.Keyed (store : Store) : Prop := ∀ record ∈ store.records, record.WellKeyed

theorem wellKeyed_of_mem_load {F : Type} [FileSystem F] (world : World F) (path : String) :
    ∀ record ∈ (run (Document.load path) world).1, record.WellKeyed := by
  intro record present
  rw [(run_load world path).1] at present
  cases read : FileSystem.read world.files path with
  | error =>
    rw [read] at present
    cases present
  | ok text =>
    rw [read] at present
    exact Document.wellKeyed_of_mem_decode present

namespace Console.Command

def changes : Command → Bool
  | insert _ | update _ _ | delete _ | clear => true
  | _ => false

/-- Whether the values in a command keep their keys apart. -/
def Keyed : Command → Prop
  | insert document => document.WellKeyed
  | update patch _ => patch.WellKeyed
  | _ => True

theorem wellKeyed_of_leadingJson {text rest : List Char} {value : Json}
    (read : leadingJson text = .ok (value, rest)) : value.WellKeyed :=
  Json.wellKeyed_of_readStart (readStart_of_leadingJson read)

theorem keyed_of_parse {line : String} {command : Command} (parsed : parse line = .ok command) :
    command.Keyed := by
  obtain ⟨keyword, -, reads⟩ := reads_of_parse parsed
  cases reads with
  | insert read | update read => exact wellKeyed_of_leadingJson read
  | all | find | first | count | delete | reload | clear | help | exit | quit => trivial

variable {F : Type} [FileSystem F] (world : World F) {store : Store}

theorem backing_select (conditions : List String) :
    (run (select store conditions) world).1.backing = store :=
  Query.backing_filterAll world store.query conditions

/-- A command changes the records of a store alone. What holds of all its records holds of them
afterwards, if it holds of what comes in, and is kept by patches. -/
theorem records_of_execute {P : Json → Prop} {command : Command}
    (inserted : ∀ document, command = .insert document → ∀ record ∈ documents document, P record)
    (patched : ∀ patch texts, command = .update patch texts →
      ∀ record, P record → P (patch.patched record))
    (loaded : command = .reload → ∀ record ∈ (run (Document.load store.path) world).1, P record)
    (all : ∀ record ∈ store.records, P record) :
    ∃ records, (run (command.execute store) world).1.2 = { store with records := records } ∧
      ∀ record ∈ records, P record := by
  have selected (conditions : List String) :
      ∀ record ∈ (run (select store conditions) world).1.records, P record := by
    rw [Query.records, backing_select]
    exact all
  cases command with
  | insert document =>
    simp only [execute, Store.insertMany, run_bind, run_replace, run_pure]
    exact ⟨_, rfl, List.forall_mem_append.2 ⟨all, inserted document rfl⟩⟩
  | all | help | exit => exact ⟨_, rfl, all⟩
  | find conditions | first conditions | count conditions =>
    simp only [execute, run_bind, run_pure, backing_select]
    exact ⟨_, rfl, all⟩
  | update patch conditions =>
    simp only [execute, run_bind, run_pure, Query.run_update, Query.run_commit, RecordSet.sync,
      RecordSet.withRecords, backing_select]
    refine ⟨_, rfl, ?_⟩
    exact Query.forall_mem_patchedRecords _ (patched patch conditions rfl) (selected conditions)
  | delete conditions =>
    simp only [execute, run_bind, run_pure, Query.run_delete, Query.run_commit, RecordSet.sync,
      RecordSet.withRecords, backing_select]
    refine ⟨_, rfl, ?_⟩
    intro record present
    exact selected conditions record (Query.mem_of_mem_keptRecords _ present)
  | reload =>
    simp only [execute, Store.reload, run_bind, run_pure, run_report]
    exact ⟨_, rfl, loaded rfl⟩
  | clear =>
    simp only [execute, Store.clear, run_bind, run_replace, run_pure]
    exact ⟨_, rfl, List.forall_mem_nil _⟩

/-- A command changes the records of a store alone, and keeps keys apart where they were. -/
theorem store_of_execute {command : Command} (values : command.Keyed) (keyed : store.Keyed) :
    ∃ records, (run (command.execute store) world).1.2 = { store with records := records } ∧
      ∀ record ∈ records, record.WellKeyed := by
  apply records_of_execute world ?_ ?_ ?_ keyed
  · rintro document rfl record present
    cases document with
    | array items => exact Json.wellKeyed_array.1 values record present
    | _ => exact List.mem_singleton.1 present ▸ values
  · rintro patch texts rfl record apart
    exact Json.wellKeyed_patched values apart
  · rintro rfl
    exact wellKeyed_of_mem_load world store.path

theorem agrees_of_execute [LawfulFileSystem F] {command : Command}
    (changes : command.changes = true) {outcome : Outcome}
    (executed : (run (command.execute store) world).1.1 = .ok outcome) :
    Agrees (run (command.execute store) world).2 (run (command.execute store) world).1.2 := by
  cases command with
  | all | find | first | count | reload | help | exit => cases changes
  | insert document =>
    simp only [execute, Store.insertMany, run_bind, run_pure] at executed ⊢
    obtain ⟨_, replaced, -⟩ := map_eq_ok executed
    exact agrees_of_replace world replaced
  | update patch conditions =>
    simp only [execute, run_bind, run_pure, Query.run_update] at executed ⊢
    obtain ⟨_, committed, -⟩ := map_eq_ok executed
    exact agrees_of_commit _ committed
  | delete conditions =>
    simp only [execute, run_bind, run_pure, Query.run_delete] at executed ⊢
    obtain ⟨_, committed, -⟩ := map_eq_ok executed
    exact agrees_of_commit _ committed
  | clear =>
    simp only [execute, Store.clear, run_bind, run_pure] at executed ⊢
    obtain ⟨_, replaced, -⟩ := map_eq_ok executed
    exact agrees_of_replace world replaced

end Command

/-- Executes lines one after the other. A line that is no command does nothing. -/
def runAll : List String → Store → Action Store
  | [], store => return store
  | line :: rest, store =>
    match Command.parse line with
    | .error _ => runAll rest store
    | .ok command => do
      let (_, store) ← command.execute store
      runAll rest store

/-- Opens a store on whatever its file holds, and executes lines on it. -/
def openAndRun (path : String) (settings : Settings) (cache : CacheId) (lines : List String) :
    Action Store := do
  runAll lines (← Store.openWith path settings cache)

variable {F : Type} [FileSystem F] (world : World F)

theorem store_of_runAll (lines : List String) {store : Store} (keyed : store.Keyed) :
    ∃ records, (run (runAll lines store) world).1 = { store with records := records } ∧
      ∀ record ∈ records, record.WellKeyed := by
  induction lines generalizing store world with
  | nil => exact ⟨_, rfl, keyed⟩
  | cons line rest ih =>
    simp only [runAll]
    cases parsed : Command.parse line with
    | error => exact ih world keyed
    | ok command =>
      obtain ⟨records, after, distinct⟩ :=
        Command.store_of_execute world (Command.keyed_of_parse parsed) keyed
      simp only [run_bind, after]
      exact ih _ distinct

theorem store_of_openWith (path : String) (settings : Settings) (cache : CacheId) :
    (run (Store.openWith path settings cache) world).1 =
      ⟨path, (run (Document.load path) world).1, settings, cache⟩ := by
  simp only [Store.openWith, run_bind, run_report, run_pure]

/-- Open a store, execute any lines, and then one that changes records. If that goes well, then
executing `RELOAD`, or opening the file afresh, gives the records in memory exactly if each of them
is lasting: no more than 126 containers inside each other, and only numbers that are read from their
own texts again. One record nested deeper, and nothing comes back. -/
theorem reload_of_change [LawfulFileSystem F] {world opened changed : World F} {path : String}
    {settings : Settings} {cache : CacheId} {lines : List String} {line : String}
    {command : Command} {outcome : Outcome} {before after : Store}
    (ran : run (openAndRun path settings cache lines) world = (before, opened))
    (parsed : Command.parse line = .ok command) (changes : command.changes = true)
    (executed : run (command.execute before) opened = ((.ok outcome, after), changed)) :
    ∃ reloaded, (run (Command.reload.execute after) changed).1.2.records = reloaded ∧
      (∀ again other, (run (Store.openWith path again other) changed).1.records = reloaded) ∧
      (reloaded = after.records ↔ ∀ record ∈ after.records, record.Lasting) ∧
      ((reloaded == after.records) = true ↔ ∀ record ∈ after.records, record.Lasting) ∧
      ((∃ record ∈ after.records, 126 < record.depth) → reloaded = []) := by
  obtain ⟨earlier, rfl, distinct⟩ :
      ∃ records, before = ⟨path, records, settings, cache⟩ ∧ before.Keyed := by
    have loaded : (run (Store.openWith path settings cache) world).1.Keyed := by
      rw [store_of_openWith]
      exact wellKeyed_of_mem_load world path
    obtain ⟨records, stored, distinct⟩ :=
      store_of_runAll (run (Store.openWith path settings cache) world).2 lines loaded
    rw [openAndRun, run_bind] at ran
    rw [ran, store_of_openWith] at stored
    have same : before = ⟨path, records, settings, cache⟩ := stored
    refine ⟨records, same, ?_⟩
    rw [same]
    exact distinct
  have succeeded : (run (command.execute ⟨path, earlier, settings, cache⟩) opened).1.1 =
      .ok outcome := by
    rw [executed]
  obtain ⟨records, stored, keyed⟩ :=
    Command.store_of_execute opened (Command.keyed_of_parse parsed) distinct
  have agrees := Command.agrees_of_execute opened changes succeeded
  rw [executed] at stored agrees
  obtain rfl : after = ⟨path, records, settings, cache⟩ := stored
  obtain ⟨equal, equivalent, deep⟩ := Document.decode_encode_eq_iff keyed settings
  refine ⟨Document.decode (Document.encode records settings), ?_, ?_, equal, equivalent, deep⟩
  · simp only [Command.execute, Store.reload, run_bind, run_pure, run_report]
    exact load_of_agrees agrees
  · intro again other
    rw [store_of_openWith]
    exact load_of_agrees agrees

theorem reload_of_change_insert :
    let document : Json := .object [("a", .array [.object []])]
    let before := run (openAndRun "records.json" .default .shared ["COUNT", "CLEAR"])
      (World.start Disk.empty)
    let after := run (Command.execute (.insert document) before.1) before.2
    (run (Command.reload.execute after.1.2) after.2).1.2.records = [document] := by
  intro document before after
  have parsed : Command.parse "INSERT \x7b\"a\":[\x7b\x7d]\x7d" = .ok (.insert document) := by rfl
  have opened : before.1.records = [] := List.eq_nil_of_length_eq_zero (by decide +kernel)
  have memory : after.1.2.records = [document] := by
    simp only [after, Command.execute, Store.insertMany, run_bind, run_replace, run_pure, opened]
    rfl
  have lasting : ∀ record ∈ after.1.2.records, record.Lasting := by
    rw [memory]
    simp [document, Json.Lasting, Json.depth, Json.itemsDepth, Json.membersDepth]
  have fine : after.1.1.isOk = true := by decide +kernel
  have ran : run (openAndRun "records.json" .default .shared ["COUNT", "CLEAR"])
      (World.start Disk.empty) = (before.1, before.2) := rfl
  obtain ⟨outcome, executed⟩ : ∃ outcome,
      run (Command.execute (.insert document) before.1) before.2 =
        ((.ok outcome, after.1.2), after.2) := by
    cases finished : after.1.1 with
    | error =>
      rw [finished] at fine
      cases fine
    | ok outcome => exact ⟨outcome, by rw [← finished]⟩
  obtain ⟨reloaded, reloads, -, ⟨-, same⟩, -⟩ := reload_of_change ran parsed rfl executed
  rw [reloads, same lasting, memory]

/-- A double that is inserted and written may be read as its neighbour. -/
theorem reload_ne_of_insert :
    let before := run (Store.openWith "records.json" .default .shared) (World.start Disk.empty)
    ∃ command, Command.parse "INSERT \x7b\"a\":0.97166380498379864\x7d" = .ok command ∧
      let result := run (command.execute before.1) before.2
      result.1.1.isOk = true ∧
        ((run (Command.reload.execute result.1.2) result.2).1.2.records == result.1.2.records) =
          false := by
  intro before
  have checked : (match Command.parse "INSERT \x7b\"a\":0.97166380498379864\x7d" with
      | .error _ => false
      | .ok command =>
        let result := run (command.execute before.1) before.2
        result.1.1.isOk && !(run (Command.reload.execute result.1.2) result.2).1.2.records ==
          result.1.2.records) = true := by
    decide +kernel
  cases parsed : Command.parse "INSERT \x7b\"a\":0.97166380498379864\x7d" with
  | error =>
    rw [parsed] at checked
    cases checked
  | ok command =>
    rw [parsed] at checked
    simpa using checked

end Console
end RecordStore

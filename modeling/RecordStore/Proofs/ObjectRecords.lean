import RecordStore.Proofs.Patching
import RecordStore.Proofs.Runs

/-! Stores of objects. Lines bring in nothing but objects, a patched object is an object, and what a
document holds comes back as what it was. So once all records are objects they stay objects, also
when the document is loaded again, provided that a line that cannot write it does not spoil it. -/
namespace RecordStore

open World

namespace Json

variable {limit : Option Nat} {level : Nat}

theorem isObject_of_echo? {value echo : Json} (back : value.echo? limit level = some echo) :
    echo.isObject = value.isObject := by
  cases value with
  | null | bool | string =>
    cases back
    rfl
  | number x =>
    obtain ⟨number, -, rfl⟩ := Option.map_eq_some_iff.1 back
    rfl
  | array items | object members =>
    simp only [echo?] at back
    split at back
    · cases back
    · obtain ⟨inside, -, rfl⟩ := Option.map_eq_some_iff.1 back
      rfl

/-- The echo of a list consists of echoes of its items. -/
theorem forall_mem_echoItems? {P : Json → Prop} {items echoes : List Json}
    (back : echoItems? limit level items = some echoes)
    (each : ∀ item ∈ items, ∀ echo, item.echo? limit level = some echo → P echo) :
    ∀ echo ∈ echoes, P echo := by
  induction items generalizing echoes with
  | nil =>
    cases back
    exact List.forall_mem_nil P
  | cons item rest ih =>
    obtain ⟨first, others⟩ := List.forall_mem_cons.1 each
    obtain ⟨echo, here, back⟩ := Option.bind_eq_some_iff.1 back
    obtain ⟨more, there, rfl⟩ := Option.map_eq_some_iff.1 back
    exact List.forall_mem_cons.2 ⟨first echo here, ih there others⟩

end Json

/-- What objects are encoded as is decoded as objects, or as nothing. -/
theorem Document.isObject_of_mem_decode_encode {records : List Json} (settings : Settings)
    (objects : ∀ record ∈ records, record.isObject = true) :
    ∀ record ∈ decode (encode records settings), record.isObject = true := by
  rw [decode_encode]
  cases back : Json.echoItems? (some 127) 1 records with
  | none => exact List.forall_mem_nil _
  | some echoes =>
    rw [Option.getD_some]
    apply Json.forall_mem_echoItems? (P := (·.isObject = true)) back
    intro record present echo here
    rw [Json.isObject_of_echo? here, objects record present]

/-- Whether all records in memory are objects. -/
def Store.HoldsObjects (store : Store) : Prop := ∀ record ∈ store.records, record.isObject = true

namespace World
variable {F : Type} [FileSystem F]

/-- Whether loading a document gives nothing but objects. -/
def FilesObjects (world : World F) (path : String) : Prop :=
  ∀ record ∈ (run (Document.load path) world).1, record.isObject = true

/-- Whether what can be read of a document later, if anything, is what could be read before. -/
def spares (before after : World F) (path : String) : Bool :=
  (FileSystem.read after.files path).toOption.all fun text =>
    (FileSystem.read before.files path).toOption == some text

variable {before after : World F} {path : String}

theorem FilesObjects.of_spares (filed : before.FilesObjects path)
    (spared : spares before after path = true) : after.FilesObjects path := by
  intro record present
  rw [(run_load after path).1] at present
  cases read : (FileSystem.read after.files path).toOption with
  | none =>
    rw [read] at present
    cases present
  | some text =>
    simp only [spares, read, Option.all_some, beq_iff_eq] at spared
    apply filed
    rwa [(run_load before path).1, spared, ← read]

theorem FilesObjects.of_files (filed : before.FilesObjects path)
    (same : after.files = before.files) : after.FilesObjects path := by
  unfold FilesObjects at filed ⊢
  rwa [(run_load after path).1, same, ← (run_load before path).1]

theorem filesObjects_of_agrees {world : World F} {store : Store} (agrees : world.Agrees store)
    (objects : store.HoldsObjects) : world.FilesObjects store.path := by
  unfold FilesObjects
  rw [load_of_agrees agrees]
  exact Document.isObject_of_mem_decode_encode store.settings objects

end World

namespace Console

namespace Command

theorem isObject_of_mem_documents {document : Json} (insertable : isInsertable document = true) :
    ∀ record ∈ documents document, record.isObject = true := by
  intro record present
  cases document with
  | array items => exact List.all_eq_true.1 insertable record present
  | object => exact List.mem_singleton.1 present ▸ rfl
  | null | bool | number | string => cases insertable

theorem isInsertable_of_parse {line : String} {document : Json}
    (parsed : parse line = .ok (.insert document)) : isInsertable document = true := by
  obtain ⟨keyword, -, reads⟩ := reads_of_parse parsed
  cases reads with
  | insert read insertable => exact insertable

variable {F : Type} [FileSystem F] {world : World F} {store : Store} {line : String}
variable {command : Command}

theorem holdsObjects_of_execute (parsed : parse line = .ok command)
    (objects : store.HoldsObjects) (filed : world.FilesObjects store.path) :
    ∃ records, (run (command.execute store) world).1.2 = { store with records := records } ∧
      ∀ record ∈ records, record.isObject = true := by
  apply records_of_execute world ?_ ?_ ?_ objects
  · rintro document rfl
    exact isObject_of_mem_documents (isInsertable_of_parse parsed)
  · intro patch texts _ record object
    rw [Json.isObject_patched, object]
  · intro _
    exact filed

/-- After a line, too, the document holds objects: those in memory if it was written, and otherwise
what it held before. -/
theorem filesObjects_of_execute [LawfulFileSystem F] (parsed : parse line = .ok command)
    (objects : store.HoldsObjects) (filed : world.FilesObjects store.path)
    (clean : (run (command.execute store) world).1.1.isOk = true ∨
      spares world (run (command.execute store) world).2 store.path = true) :
    (run (command.execute store) world).2.FilesObjects store.path := by
  cases changes : command.changes with
  | false => exact filed.of_files ((looks_execute store changes).leaves world).1
  | true =>
    cases executed : (run (command.execute store) world).1.1 with
    | ok outcome =>
      obtain ⟨records, stored, held⟩ := holdsObjects_of_execute parsed objects filed
      have agrees := agrees_of_execute world changes executed
      rw [stored] at agrees
      have holds := filesObjects_of_agrees agrees held
      exact holds
    | error error =>
      rw [executed] at clean
      exact filed.of_spares (clean.resolve_left nofun)

end Command

variable {F : Type} [FileSystem F]

/-- Whether each line that fails spares the document, when lines are executed one after the other. -/
def failsCleanly (world : World F) (store : Store) : List String → Bool
  | [] => true
  | line :: rest =>
    match Command.parse line with
    | .error _ => failsCleanly world store rest
    | .ok command =>
      let result := run (command.execute store) world
      (result.1.1.isOk || spares world result.2 store.path) &&
        failsCleanly result.2 result.1.2 rest

theorem files_openWith (world : World F) (path : String) (settings : Settings) (cache : CacheId) :
    (run (Store.openWith path settings cache) world).2.files = world.files := by
  simp only [Store.openWith, run_bind, run_report, run_pure]
  exact (run_load world path).2

variable [LawfulFileSystem F] {world : World F} {store : Store}

theorem objects_of_runAll {lines : List String} (objects : store.HoldsObjects)
    (filed : world.FilesObjects store.path) (clean : failsCleanly world store lines = true) :
    (run (runAll lines store) world).1.HoldsObjects ∧
      (run (runAll lines store) world).1.path = store.path ∧
      (run (runAll lines store) world).2.FilesObjects store.path := by
  induction lines generalizing store world with
  | nil => exact ⟨objects, rfl, filed⟩
  | cons line rest ih =>
    simp only [runAll, failsCleanly] at clean ⊢
    cases parsed : Command.parse line with
    | error =>
      rw [parsed] at clean
      exact ih objects filed clean
    | ok command =>
      simp only [parsed, Bool.and_eq_true, Bool.or_eq_true] at clean
      obtain ⟨here, later⟩ := clean
      obtain ⟨records, after, held⟩ := Command.holdsObjects_of_execute parsed objects filed
      have kept := Command.filesObjects_of_execute parsed objects filed here
      simp only [run_bind]
      rw [after] at later ⊢
      exact ih held kept later

/-- If all records are objects when a store is opened, then they are objects after any lines, some
of which may be no commands or fail to write the document, and after it is loaded again. -/
theorem records_stay_objects {F : Type} [FileSystem F] [LawfulFileSystem F]
    {world opened : World F} {path : String} {settings : Settings} {cache : CacheId}
    {store : Store} {lines : List String}
    (opens : run (Store.openWith path settings cache) world = (store, opened))
    (objects : ∀ record ∈ store.records, record.isObject = true)
    (clean : failsCleanly opened store lines = true) :
    let ran := run (openAndRun path settings cache lines) world
    (∀ record ∈ ran.1.records, record.isObject = true) ∧
      ∀ record ∈ (run (Command.reload.execute ran.1) ran.2).1.2.records,
        record.isObject = true := by
  have loaded := store_of_openWith world path settings cache
  have untouched := files_openWith world path settings cache
  rw [opens] at loaded untouched
  subst loaded
  have found : world.FilesObjects path := objects
  have filed : opened.FilesObjects path := found.of_files untouched
  obtain ⟨held, same, kept⟩ := objects_of_runAll objects filed clean
  intro ran
  have through : ran = run (runAll lines ⟨path, (run (Document.load path) world).1, settings, cache⟩)
      opened := by
    simp only [ran, openAndRun, run_bind, opens]
  rw [through]
  refine ⟨held, ?_⟩
  simp only [Command.execute, Store.reload, run_bind, run_pure, run_report]
  rw [same]
  exact kept

theorem records_stay_objects_full :
    let files : Faulty Disk := ⟨.empty, [none, some (.system 28)]⟩
    let lines := ["INSERT [\x7b\"a\": []\x7d, \x7b\x7d]", "RELOAD now",
      "UPDATE \x7b\"a.b\": 1, \"\": null\x7d WHERE a != 2", "RELOAD"]
    let ran := run (openAndRun "records.json" .default .shared lines) (World.start files)
    ran.1.records.length = 2 ∧ ∀ record ∈ ran.1.records, record.isObject = true := by
  intro files lines ran
  have kept : ran.1.records.length = 2 := by decide +kernel
  obtain ⟨⟨store, opened⟩, opens⟩ : ∃ result, run (Store.openWith "records.json" .default .shared)
      (World.start files) = result := ⟨_, rfl⟩
  have none : (run (Store.openWith "records.json" .default .shared)
      (World.start files)).1.records.length = 0 := by
    decide +kernel
  have clean : failsCleanly (run (Store.openWith "records.json" .default .shared)
      (World.start files)).2 (run (Store.openWith "records.json" .default .shared)
      (World.start files)).1 lines = true := by
    decide +kernel
  rw [opens] at none clean
  have objects : ∀ record ∈ store.records, record.isObject = true := by
    rw [List.eq_nil_of_length_eq_zero none]
    exact List.forall_mem_nil _
  exact ⟨kept, (records_stay_objects opens objects clean).1⟩

end Console
end RecordStore

import RecordStore.Proofs.Persistence

/-! The requests that an action makes of the file system, each with its answer. Persisting makes at
most two of them, fails exactly if one of them does, and writes nothing but the whole encoding. -/
namespace RecordStore

/-- A request that may change files, with what came of it. -/
inductive Request where
  | write (path text : String) (answer : Except IoError Unit)
  | makeDirs (path : String) (answer : Except IoError Unit)

def Request.failed : Request → Bool
  | write _ _ answer | makeDirs _ answer => !answer.isOk

namespace World
variable {F : Type} [FileSystem F]

/-- The requests of an action when it is run in a world, first to last. -/
def requests {α : Type} : Action α → World F → List Request
  | .done _, _ => []
  | .read path next, world => requests (next (FileSystem.read world.files path)) world
  | .write path text next, world =>
    let (answer, files) := FileSystem.write world.files path text
    .write path text answer :: requests (next answer) { world with files := files }
  | .makeDirs path next, world =>
    let (answer, files) := FileSystem.makeDirs world.files path
    .makeDirs path answer :: requests (next answer) { world with files := files }
  | .lookup id raw next, world =>
    let (answer, cache) := (world.caches id).parse raw
    requests (next answer) (world.setCache id cache)
  | .emit event next, world => requests next { world with log := world.log ++ [event] }

theorem requests_bind {α β : Type} (action : Action α) (f : α → Action β) (world : World F) :
    requests (action >>= f) world =
      requests action world ++ requests (f (run action world).1) (run action world).2 := by
  change requests (action.bind f) world = _
  induction action generalizing world with
  | done => rfl
  | emit event next ih => exact ih _
  | read path next ih => exact ih _ _
  | lookup id raw next ih => exact ih _ _
  | write path text next ih | makeDirs path next ih =>
    simp only [Action.bind, requests, run, List.cons_append, ih]

variable (world : World F)

@[simp] theorem requests_pure {α : Type} (result : α) :
    requests (pure result) world = [] := rfl

@[simp] theorem requests_report (event : Event) : requests (Action.report event) world = [] := rfl

@[simp] theorem requests_writeFile (path text : String) :
    requests (Action.writeFile path text) world =
      [.write path text (FileSystem.write world.files path text).1] := rfl

/-- Asking a cache concerns no file. -/
@[simp] theorem requests_condition? (id : CacheId) (raw : String) :
    requests (Action.condition? id raw) world = [] := by
  simp only [Action.condition?, requests]
  split <;> rfl

theorem files_condition? (id : CacheId) (raw : String) :
    (run (Action.condition? id raw) world).2.files = world.files := by
  simp only [Action.condition?, run]
  split <;> rfl

theorem requests_filter {R : Type} [RecordSet R] (q : Query R) (raw : String) :
    requests (q.filter raw) world = [] := by
  simp only [Query.filter, requests_bind, requests_condition?, List.nil_append]
  cases (run (Action.condition? q.cache raw) world).1 <;> rfl

theorem files_filter {R : Type} [RecordSet R] (q : Query R) (raw : String) :
    (run (q.filter raw) world).2.files = world.files := by
  simp only [Query.filter, run_bind]
  cases (run (Action.condition? q.cache raw) world).1 <;> exact files_condition? world q.cache raw

theorem requests_makeParents (path : String) (settings : Settings) :
    (requests (Document.makeParents path settings) world = [] ∧
      (run (Document.makeParents path settings) world).1 = .ok ()) ∨
    ∃ parent, requests (Document.makeParents path settings) world =
      [.makeDirs parent (run (Document.makeParents path settings) world).1] := by
  unfold Document.makeParents
  cases Location.parent? path with
  | none => exact .inl ⟨rfl, rfl⟩
  | some parent =>
    cases settings.createDirs with
    | false => exact .inl ⟨rfl, rfl⟩
    | true => exact .inr ⟨parent, rfl⟩

theorem requests_persist_of_made {path : String} (records : List Json) {settings : Settings}
    (made : (run (Document.makeParents path settings) world).1 = .ok ()) :
    ∃ answer, requests (Document.persist path records settings) world =
        requests (Document.makeParents path settings) world ++
          [.write path (Document.encode records settings) answer] ∧
      (run (Document.persist path records settings) world).1 = answer.mapError .io := by
  simp only [Document.persist, run_bind, requests_bind, made, run_writeFile, requests_writeFile]
  cases (FileSystem.write (run (Document.makeParents path settings) world).2.files path
      (Document.encode records settings)).1 with
  | error error => exact ⟨.error error, rfl, rfl⟩
  | ok => exact ⟨.ok (), rfl, rfl⟩

theorem requests_persist_of_failed {path : String} (records : List Json) {settings : Settings}
    {error : IoError} (failed : (run (Document.makeParents path settings) world).1 = .error error) :
    requests (Document.persist path records settings) world =
        requests (Document.makeParents path settings) world ∧
      (run (Document.persist path records settings) world).1 = .error (.io error) := by
  simp only [Document.persist, run_bind, requests_bind, failed, requests_pure, List.append_nil,
    run_pure, and_self]

/-- Persisting fails exactly if one of its requests does. -/
theorem failed_of_persist (path : String) (records : List Json) (settings : Settings) :
    (run (Document.persist path records settings) world).1.isOk = false ↔
      ∃ request ∈ requests (Document.persist path records settings) world,
        request.failed = true := by
  cases made : (run (Document.makeParents path settings) world).1 with
  | error error =>
    obtain ⟨same, result⟩ := requests_persist_of_failed world records made
    rcases requests_makeParents world path settings with ⟨-, fine⟩ | ⟨parent, one⟩
    · rw [made] at fine
      cases fine
    · rw [same, one, result, made]
      simp [Request.failed, Except.isOk, Except.toBool]
  | ok =>
    obtain ⟨answer, same, result⟩ := requests_persist_of_made world records made
    have wrote : (answer.mapError StoreError.io).isOk = answer.isOk := by cases answer <;> rfl
    rw [same, result, wrote]
    rcases requests_makeParents world path settings with ⟨none, -⟩ | ⟨parent, one⟩
    · simp [none, Request.failed]
    · simp [one, made, Request.failed, Except.isOk, Except.toBool]

theorem written_of_persist {path : String} {records : List Json} {settings : Settings}
    (persisted : (run (Document.persist path records settings) world).1.isOk = true) :
    .write path (Document.encode records settings) (.ok ()) ∈
      requests (Document.persist path records settings) world := by
  cases made : (run (Document.makeParents path settings) world).1 with
  | error error =>
    rw [(requests_persist_of_failed world records made).2] at persisted
    cases persisted
  | ok =>
    obtain ⟨answer, same, result⟩ := requests_persist_of_made world records made
    rw [result] at persisted
    cases answer with
    | error => cases persisted
    | ok =>
      rw [same]
      exact List.mem_append_right _ (List.mem_singleton.2 rfl)

/-- Nothing is written but the whole encoding, and to the path alone. -/
theorem write_of_persist {path target text : String} {records : List Json} {settings : Settings}
    {answer : Except IoError Unit}
    (wrote : .write target text answer ∈ requests (Document.persist path records settings) world) :
    target = path ∧ text = Document.encode records settings := by
  have none : .write target text answer ∉ requests (Document.makeParents path settings) world := by
    rcases requests_makeParents world path settings with ⟨none, -⟩ | ⟨parent, one⟩
    · simp [none]
    · simp [one]
  cases made : (run (Document.makeParents path settings) world).1 with
  | error error =>
    rw [(requests_persist_of_failed world records made).1] at wrote
    exact absurd wrote none
  | ok =>
    obtain ⟨answer, same, -⟩ := requests_persist_of_made world records made
    rw [same, List.mem_append, or_iff_right none, List.mem_singleton] at wrote
    cases wrote
    exact ⟨rfl, rfl⟩

/-! What changes a store, directly or through a query, requests what persisting the changed store
does. -/

theorem requests_replace (store : Store) (records : List Json) :
    requests (store.replace records) world =
      requests { store with records := records }.persist world := by
  simp only [Store.replace, requests_bind, requests_pure, List.append_nil]

theorem requests_commit (q : Query Store) (records : List Json) (count : Nat) :
    requests (q.commit records count) world =
      requests { q.backing with records := records }.persist world := by
  simp only [Query.commit, RecordSet.sync, RecordSet.withRecords, requests_bind, requests_pure,
    List.append_nil]

theorem requests_update (q : Query Store) (patch : Json) :
    requests (q.update patch) world = requests (q.commit (q.patchedRecords patch) q.count)
      { world with log := world.log ++ [.selectionUpdated q.count] } := rfl

theorem requests_delete (q : Query Store) :
    requests q.delete world = requests ({ q with working := [] }.commit q.keptRecords q.count)
      { world with log := world.log ++ [.selectionDeleted q.count] } := rfl

end World
end RecordStore

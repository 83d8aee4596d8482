import RecordStore.Proofs.Requests

/-! Changes that come to persisting a changed store. Whatever a change does first, it asks of the
file system what persisting the changed store asks, the store stays changed whatever is answered,
and the reply or the error is all that depends on it. -/
namespace RecordStore

namespace World
variable {F : Type} [FileSystem F]

/-- Whether an action asks no cache, whatever it is answered. -/
def Uncached {α : Type} : Action α → Prop
  | .done _ => True
  | .read _ next => ∀ answer, Uncached (next answer)
  | .write _ _ next => ∀ answer, Uncached (next answer)
  | .makeDirs _ next => ∀ answer, Uncached (next answer)
  | .lookup _ _ _ => False
  | .emit _ next => Uncached next

/-- Where no cache is asked, files alone make a difference. -/
theorem run_congr {α : Type} {action : Action α} (uncached : Uncached action)
    (first second : World F) (same : first.files = second.files) :
    (run action first).1 = (run action second).1 ∧
      (run action first).2.files = (run action second).2.files ∧
      requests action first = requests action second := by
  induction action generalizing first second with
  | done => exact ⟨rfl, same, rfl⟩
  | lookup => cases uncached
  | emit event next ih => exact ih uncached _ _ same
  | read path next ih =>
    simp only [run, requests, same]
    exact ih _ (uncached _) _ _ same
  | write path text next ih =>
    simp only [run, requests, same]
    obtain ⟨result, files, requested⟩ := ih (FileSystem.write second.files path text).1 (uncached _)
      { first with files := (FileSystem.write second.files path text).2 }
      { second with files := (FileSystem.write second.files path text).2 } rfl
    exact ⟨result, files, congrArg _ requested⟩
  | makeDirs path next ih =>
    simp only [run, requests, same]
    obtain ⟨result, files, requested⟩ := ih (FileSystem.makeDirs second.files path).1 (uncached _)
      { first with files := (FileSystem.makeDirs second.files path).2 }
      { second with files := (FileSystem.makeDirs second.files path).2 } rfl
    exact ⟨result, files, congrArg _ requested⟩

theorem Uncached.bind {α β : Type} {action : Action α} {next : α → Action β}
    (first : Uncached action) (rest : ∀ result, Uncached (next result)) :
    Uncached (action >>= next) := by
  change Uncached (action.bind next)
  induction action with
  | done result => exact rest result
  | lookup => cases first
  | emit event action ih => exact ih first
  | read path answered ih | write path text answered ih | makeDirs path answered ih =>
    intro answer
    exact ih answer (first answer)

theorem uncached_makeParents (path : String) (settings : Settings) :
    Uncached (Document.makeParents path settings) := by
  unfold Document.makeParents
  split
  · split
    · exact fun _ => trivial
    · trivial
  · trivial

theorem uncached_persist (store : Store) : Uncached store.persist := by
  apply (uncached_makeParents store.path store.settings).bind
  intro made
  cases made with
  | error => trivial
  | ok =>
    have writes : Uncached (Action.writeFile store.path
        (Document.encode store.records store.settings)) := fun _ => trivial
    apply writes.bind
    intro wrote
    cases wrote <;> trivial

end World

open World

variable {F : Type} [FileSystem F] {world : World F}

/-- The error that a request was answered with. -/
def Request.error? : Request → Option IoError
  | write _ _ answer | makeDirs _ answer =>
    match answer with
    | .error error => some error
    | .ok () => none

namespace Store

/-- A failure to persist is what a request was answered with. -/
theorem error_of_persist {store : Store} {error : StoreError}
    (failed : (run store.persist world).1 = .error error) :
    ∃ cause, error = .io cause ∧
      ∃ request ∈ requests store.persist world, request.error? = some cause := by
  unfold persist at failed ⊢
  cases made : (run (Document.makeParents store.path store.settings) world).1 with
  | error cause =>
    obtain ⟨same, result⟩ := requests_persist_of_failed world store.records made
    rw [result] at failed
    cases failed
    rcases requests_makeParents world store.path store.settings with ⟨-, fine⟩ | ⟨parent, one⟩
    · rw [made] at fine
      cases fine
    · rw [same, one, made]
      exact ⟨cause, rfl, _, List.mem_singleton_self _, rfl⟩
  | ok =>
    obtain ⟨answer, same, result⟩ := requests_persist_of_made world store.records made
    rw [result] at failed
    rw [same]
    cases answer with
    | ok => cases failed
    | error cause =>
      cases failed
      exact ⟨cause, rfl, _, List.mem_append_right _ (List.mem_singleton_self _), rfl⟩

/-- Whether a change, run in a world, comes to persisting a changed store, with a reply when that
succeeds. -/
def Persists {α : Type} (change : Action (Except StoreError α × Store)) (world : World F)
    (changed : Store) (reply : α) : Prop :=
  ∃ before : World F, before.files = world.files ∧
    run change world = (((run changed.persist before).1.map fun _ => reply, changed),
      (run changed.persist before).2) ∧
    requests change world = requests changed.persist before

namespace Persists
variable {α : Type} {change : Action (Except StoreError α × Store)} {changed : Store} {reply : α}

theorem store (persists : Persists change world changed reply) :
    (run change world).1.2 = changed := by
  obtain ⟨before, -, result, -⟩ := persists
  rw [result]

theorem reply_of_ok (persists : Persists change world changed reply) {result : α}
    (fine : (run change world).1.1 = .ok result) : result = reply := by
  obtain ⟨before, -, ran, -⟩ := persists
  rw [ran] at fine
  cases wrote : (run changed.persist before).1 with
  | error =>
    rw [wrote] at fine
    cases fine
  | ok =>
    rw [wrote] at fine
    cases fine
    rfl

theorem error_of_failed (persists : Persists change world changed reply) {error : StoreError}
    (failed : (run change world).1.1 = .error error) :
    ∃ cause, error = .io cause ∧
      ∃ request ∈ requests change world, request.error? = some cause := by
  obtain ⟨before, -, ran, requested⟩ := persists
  rw [ran] at failed
  rw [requested]
  apply error_of_persist
  cases wrote : (run changed.persist before).1 with
  | error cause =>
    rw [wrote] at failed
    cases failed
    rfl
  | ok =>
    rw [wrote] at failed
    cases failed

theorem failed_iff (persists : Persists change world changed reply) :
    (∃ error, (run change world).1.1 = .error error) ↔
      ∃ request ∈ requests change world, request.failed = true := by
  obtain ⟨before, -, ran, requested⟩ := persists
  rw [ran, requested]
  apply Iff.trans ?_ (failed_of_persist before changed.path changed.records changed.settings)
  change _ ↔ (run changed.persist before).1.isOk = false
  cases (run changed.persist before).1 with
  | error error => exact ⟨fun _ => rfl, fun _ => ⟨error, rfl⟩⟩
  | ok => exact ⟨nofun, nofun⟩

/-- Two ways to persist the same store come to the same where the files are the same. -/
theorem agree {other : Action (Except StoreError α × Store)} {elsewhere : World F}
    (persists : Persists change world changed reply) (also : Persists other elsewhere changed reply)
    (same : world.files = elsewhere.files) :
    (run other elsewhere).1 = (run change world).1 ∧
      (run other elsewhere).2.files = (run change world).2.files ∧
      requests other elsewhere = requests change world := by
  obtain ⟨before, files, ran, requested⟩ := persists
  obtain ⟨before', files', ran', requested'⟩ := also
  obtain ⟨outcomes, written, wrote⟩ :=
    run_congr (uncached_persist changed) before' before (by rw [files, files', same])
  rw [ran, ran', requested, requested', outcomes]
  exact ⟨rfl, written, wrote⟩

end Persists
end Store
end RecordStore

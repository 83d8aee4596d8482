import RecordStore.Storage.Action

/-! Running actions on a model of their surroundings: a file system of any kind, the condition
caches and the events reported so far. -/
namespace RecordStore

/-- Files by path. Reading takes text alone; writing replaces the whole file. -/
class FileSystem (F : Type) where
  read : F → String → Except IoError String
  write : F → String → String → Except IoError Unit × F
  makeDirs : F → String → Except IoError Unit × F

structure World (F : Type) where
  files : F
  caches : CacheId → ConditionCache
  log : List Event

namespace World

/-- A world in which nothing was parsed or reported yet. -/
def start {F : Type} (files : F) : World F := ⟨files, fun _ => .empty, []⟩

def setCache {F : Type} (world : World F) (id : CacheId) (cache : ConditionCache) : World F :=
  { world with caches := fun other => if other = id then cache else world.caches other }

/-- Runs an action, one request after the other. -/
def run {F α : Type} [FileSystem F] : Action α → World F → α × World F
  | .done result, world => (result, world)
  | .read path next, world => run (next (FileSystem.read world.files path)) world
  | .write path text next, world =>
    let (answer, files) := FileSystem.write world.files path text
    run (next answer) { world with files := files }
  | .makeDirs path next, world =>
    let (answer, files) := FileSystem.makeDirs world.files path
    run (next answer) { world with files := files }
  | .lookup id raw next, world =>
    let (answer, cache) := (world.caches id).parse raw
    run (next answer) (world.setCache id cache)
  | .emit event next, world => run next { world with log := world.log ++ [event] }

@[simp] theorem run_pure {F α : Type} [FileSystem F] (result : α) (world : World F) :
    run (pure result) world = (result, world) := rfl

section
variable {F : Type} [FileSystem F] (world : World F)

@[simp] theorem run_readFile (path : String) :
    run (Action.readFile path) world = (FileSystem.read world.files path, world) := rfl

@[simp] theorem run_writeFile (path text : String) :
    run (Action.writeFile path text) world = ((FileSystem.write world.files path text).1,
      { world with files := (FileSystem.write world.files path text).2 }) := rfl

@[simp] theorem run_report (event : Event) :
    run (Action.report event) world = ((), { world with log := world.log ++ [event] }) := rfl

end

theorem run_bind {F α β : Type} [FileSystem F] (action : Action α) (f : α → Action β)
    (world : World F) :
    run (action >>= f) world = run (f (run action world).1) (run action world).2 := by
  change run (action.bind f) world = _
  induction action generalizing world with
  | done => rfl
  | emit event next ih => simpa only [Action.bind, run] using ih _
  | _ => rename_i ih; simpa only [Action.bind, run] using ih _ _

end World
end RecordStore

import RecordStore.Condition.Cache
import RecordStore.Event

/-! What the library asks of its surroundings. An `Action` is a tree of requests: each node is one
request with what to do on each answer, and a leaf is a result. Nothing happens until a tree is run,
so the same tree runs on a model of the surroundings and on the real ones. -/
namespace RecordStore

inductive Action (α : Type) where
  | done (result : α)
  | read (path : String) (next : Except IoError String → Action α)
  | write (path text : String) (next : Except IoError Unit → Action α)
  /-- Makes a directory with all that lead to it. -/
  | makeDirs (path : String) (next : Except IoError Unit → Action α)
  | lookup (cache : CacheId) (raw : String) (next : ConditionCache.Answer → Action α)
  | emit (event : Event) (next : Action α)

namespace Action

def bind {α β : Type} : Action α → (α → Action β) → Action β
  | done result, f => f result
  | read path next, f => read path fun answer => (next answer).bind f
  | write path text next, f => write path text fun answer => (next answer).bind f
  | makeDirs path next, f => makeDirs path fun answer => (next answer).bind f
  | lookup cache raw next, f => lookup cache raw fun answer => (next answer).bind f
  | emit event next, f => emit event (next.bind f)

instance : Monad Action where
  pure := done
  bind := bind

def readFile (path : String) : Action (Except IoError String) := read path done

def writeFile (path text : String) : Action (Except IoError Unit) := write path text done

def makeDirectories (path : String) : Action (Except IoError Unit) := makeDirs path done

def report (event : Event) : Action Unit := emit event (done ())

/-- The condition of a text through a cache; a text parsed for the first time is reported. -/
def condition? (cache : CacheId) (raw : String) : Action (Option CachedCondition) :=
  lookup cache raw fun answer =>
    if answer.missed then emit (.cacheMissed raw answer.entry.isSome) (done answer.entry)
    else done answer.entry

@[simp] theorem pure_bind {α β : Type} (result : α) (f : α → Action β) :
    (pure result : Action α) >>= f = f result := rfl

theorem bind_done {α : Type} (action : Action α) : action.bind done = action := by
  induction action with
  | done => rfl
  | emit event next ih => simp [bind, ih]
  | _ => simp_all [bind]

theorem bind_assoc {α β γ : Type} (action : Action α) (f : α → Action β) (g : β → Action γ) :
    (action.bind f).bind g = action.bind fun a => (f a).bind g := by
  induction action with
  | done => rfl
  | emit event next ih => simp [bind, ih]
  | _ => simp_all [bind]

end Action
end RecordStore

import RecordStore.Storage.World

/-! Caches never change what a condition text means. An entry holds what its text parses to, from
the first world on and through every action; so asking a cache is parsing the text. -/
namespace RecordStore

namespace ConditionCache

/-- Whether every text in a cache comes with what it parses to. -/
def Faithful (cache : ConditionCache) : Prop :=
  ∀ entry ∈ cache.entries, entry.2 = Condition.parse? entry.1

theorem condition_of_findFrom {raw : String} {slot : Nat}
    {entries : List (String × Option Condition)} {found : Option CachedCondition}
    (faithful : ∀ entry ∈ entries, entry.2 = Condition.parse? entry.1)
    (hit : findFrom raw slot entries = some found) :
    found.map (·.condition) = Condition.parse? raw := by
  induction entries generalizing slot with
  | nil => cases hit
  | cons entry rest ih =>
    obtain ⟨first, others⟩ := List.forall_mem_cons.1 faithful
    simp only [findFrom] at hit
    split at hit
    · next same =>
      cases hit
      rw [← same, ← first, Option.map_map]
      exact Option.map_id'
    · exact ih others hit

/-- Whether or not the text was parsed before, the answer is what it parses to. -/
theorem Faithful.parse {cache : ConditionCache} (faithful : cache.Faithful) (raw : String) :
    (cache.parse raw).1.entry.map (·.condition) = Condition.parse? raw ∧
      (cache.parse raw).2.Faithful := by
  unfold ConditionCache.parse
  cases hit : cache.find? raw with
  | some found => exact ⟨condition_of_findFrom faithful hit, faithful⟩
  | none =>
    refine ⟨?_, ?_⟩
    · rw [Option.map_map]
      exact Option.map_id'
    · intro entry present
      rcases List.mem_append.1 present with present | present
      · exact faithful entry present
      · rw [List.mem_singleton.1 present]

end ConditionCache

namespace World

variable {F : Type}

def Faithful (world : World F) : Prop := ∀ id, (world.caches id).Faithful

variable [FileSystem F]

theorem Faithful.run {α : Type} {world : World F} (faithful : world.Faithful) (action : Action α) :
    (run action world).2.Faithful := by
  induction action generalizing world with
  | done => exact faithful
  | read path next ih => exact ih _ faithful
  | write path text next ih => exact ih _ faithful
  | makeDirs path next ih => exact ih _ faithful
  | lookup id raw next ih =>
    apply ih
    intro other
    simp only [setCache]
    split
    · exact ((faithful id).parse raw).2
    · exact faithful other
  | emit event next ih => exact ih faithful

/-- A condition asked for is the one its text parses to. -/
theorem Faithful.condition? {world : World F} (faithful : world.Faithful) (id : CacheId)
    (raw : String) :
    (World.run (Action.condition? id raw) world).1.map (·.condition) = Condition.parse? raw := by
  have parsed := ((faithful id).parse raw).1
  simp only [Action.condition?, World.run]
  split <;> exact parsed

/-- The worlds that come about: nothing was parsed in the first, and after it actions were run and
files were changed by others. -/
inductive Reachable : World F → Prop where
  | start (files : F) : Reachable (.start files)
  | run {world : World F} {α : Type} (action : Action α) : Reachable world →
    Reachable (World.run action world).2
  | files {world : World F} (files : F) : Reachable world → Reachable { world with files := files }

theorem Reachable.faithful {world : World F} (reachable : world.Reachable) : world.Faithful := by
  induction reachable with
  | start files =>
    rintro id _ ⟨⟩
  | run action _ ih => exact ih.run action
  | files files _ ih => exact ih

end World
end RecordStore

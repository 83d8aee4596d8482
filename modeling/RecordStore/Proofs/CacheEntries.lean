import RecordStore.Proofs.Requests

/-! The entries of caches. A text that was once asked for keeps its entry, whatever is asked later,
and the slot of an entry tells which text it belongs to; so asking again gives the very entry, and
leaves everything as it is. -/
namespace RecordStore

namespace ConditionCache

/-- The texts that were parsed, oldest first. -/
def texts (cache : ConditionCache) : List String := cache.entries.map Prod.fst

variable {cache : ConditionCache} {raw : String} {slot : Nat}
variable {entries : List (String × Option Condition)} {found : Option CachedCondition}

theorem length_texts (cache : ConditionCache) : cache.texts.length = cache.size := List.length_map _

theorem findFrom_eq_none :
    findFrom raw slot entries = none ↔ raw ∉ entries.map Prod.fst := by
  induction entries generalizing slot with
  | nil => exact iff_of_true rfl List.not_mem_nil
  | cons entry rest ih =>
    obtain ⟨text, parsed⟩ := entry
    simp only [findFrom, List.map_cons, List.mem_cons, not_or]
    split
    · next same => exact iff_of_false (Option.some_ne_none _) fun other => other.1 same.symm
    · next other => exact ih.trans (and_iff_right (Ne.symm other)).symm

theorem contains_iff : cache.contains raw = true ↔ raw ∈ cache.texts := by
  rw [contains, Option.isSome_iff_ne_none, ne_eq, find?, findFrom_eq_none, not_not]
  rfl

/-- Entries that come later change nothing for a text that has one. -/
theorem findFrom_append (hit : findFrom raw slot entries = some found)
    (more : List (String × Option Condition)) :
    findFrom raw slot (entries ++ more) = some found := by
  induction entries generalizing slot with
  | nil => cases hit
  | cons entry rest ih =>
    simp only [List.cons_append, findFrom] at hit ⊢
    split
    · next same => rwa [if_pos same] at hit
    · next other =>
      rw [if_neg other] at hit
      exact ih hit

theorem findFrom_concat (miss : findFrom raw slot entries = none) (parsed : Option Condition) :
    findFrom raw slot (entries ++ [(raw, parsed)]) =
      some (parsed.map fun condition => ⟨slot + entries.length, condition⟩) := by
  induction entries generalizing slot with
  | nil => exact if_pos rfl
  | cons entry rest ih =>
    simp only [List.cons_append, findFrom] at miss ⊢
    split
    · next same =>
      rw [if_pos same] at miss
      cases miss
    · next other =>
      rw [if_neg other] at miss
      rw [ih miss, List.length_cons, Nat.add_right_comm, Nat.add_assoc]

/-- An entry belongs to the text at its slot. -/
theorem text_of_findFrom {cached : CachedCondition}
    (hit : findFrom raw slot entries = some (some cached)) :
    ∃ i, cached.slot = slot + i ∧ (entries.map Prod.fst)[i]? = some raw := by
  induction entries generalizing slot with
  | nil => cases hit
  | cons entry rest ih =>
    simp only [findFrom] at hit
    split at hit
    · next same =>
      obtain ⟨condition, -, rfl⟩ := Option.map_eq_some_iff.1 (Option.some.inj hit)
      exact ⟨0, rfl, congrArg some same⟩
    · obtain ⟨i, place, text⟩ := ih hit
      exact ⟨i + 1, by rw [place, Nat.add_right_comm, Nat.add_assoc], text⟩

theorem text_of_find? {cached : CachedCondition} (hit : cache.find? raw = some (some cached)) :
    cache.texts[cached.slot]? = some raw := by
  obtain ⟨i, place, text⟩ := text_of_findFrom hit
  rw [place, Nat.zero_add]
  exact text

theorem parse_of_find? (hit : cache.find? raw = some found) :
    cache.parse raw = (⟨found, false⟩, cache) := by
  rw [parse, hit]

theorem parse_of_miss (miss : cache.find? raw = none) :
    cache.parse raw = (⟨(Condition.parse? raw).map fun condition => ⟨cache.size, condition⟩, true⟩,
      ⟨cache.entries ++ [(raw, Condition.parse? raw)]⟩) := by
  rw [parse, miss]

theorem prefix_parse (cache : ConditionCache) (raw : String) :
    cache.entries <+: (cache.parse raw).2.entries := by
  cases asked : cache.find? raw with
  | some found => simp only [parse_of_find? asked, List.prefix_rfl]
  | none => simp only [parse_of_miss asked, List.prefix_append]

/-- The answer is the entry of the text from then on. -/
theorem find?_parse (cache : ConditionCache) (raw : String) :
    (cache.parse raw).2.find? raw = some (cache.parse raw).1.entry := by
  cases asked : cache.find? raw with
  | some found => rw [parse_of_find? asked, asked]
  | none =>
    rw [parse_of_miss asked, find?, findFrom_concat asked, Nat.zero_add]
    rfl

end ConditionCache

namespace World
variable {F : Type} {world : World F} {id : CacheId} {raw : String}
variable {found : Option CachedCondition}

theorem setCache_self (world : World F) (id : CacheId) :
    world.setCache id (world.caches id) = world := by
  have same : (fun other => if other = id then world.caches id else world.caches other) =
      world.caches := by
    funext other
    split
    · next same => rw [same]
    · rfl
  rw [setCache, same]

/-- Whether every cache has the entries it had before, in their places. -/
def Keeps (before after : World F) : Prop :=
  ∀ id, (before.caches id).entries <+: (after.caches id).entries

theorem Keeps.refl (world : World F) : world.Keeps world := fun _ => List.prefix_refl _

theorem Keeps.trans {first second third : World F} (one : first.Keeps second)
    (two : second.Keeps third) : first.Keeps third :=
  fun id => (one id).trans (two id)

theorem Keeps.find? {before after : World F} (keeps : before.Keeps after)
    (hit : (before.caches id).find? raw = some found) :
    (after.caches id).find? raw = some found := by
  obtain ⟨more, whole⟩ := keeps id
  rw [ConditionCache.find?, ← whole]
  exact ConditionCache.findFrom_append hit more

variable [FileSystem F]

/-- Nothing that runs takes an entry away. -/
theorem keeps_run {α : Type} (action : Action α) (world : World F) :
    world.Keeps (run action world).2 := by
  induction action generalizing world with
  | done => exact .refl world
  | read path next ih => exact ih _ world
  | write path text next ih =>
    exact ih _ { world with files := (FileSystem.write world.files path text).2 }
  | makeDirs path next ih =>
    exact ih _ { world with files := (FileSystem.makeDirs world.files path).2 }
  | emit event next ih => exact ih { world with log := world.log ++ [event] }
  | lookup id raw next ih =>
    refine Keeps.trans ?_ (ih _ _)
    intro other
    simp only [setCache]
    split
    · next same =>
      rw [same]
      exact ConditionCache.prefix_parse _ raw
    · exact List.prefix_refl _

/-- Asking for a text that has an entry gives that entry, and does nothing else. -/
theorem run_condition?_of_hit (hit : (world.caches id).find? raw = some found) :
    run (Action.condition? id raw) world = (found, world) := by
  simp only [Action.condition?, run, ConditionCache.parse_of_find? hit, setCache_self]
  rfl

/-- Asking for a text for the first time adds its entry to the cache, and reports that. -/
theorem run_condition?_of_miss (miss : (world.caches id).find? raw = none) :
    run (Action.condition? id raw) world =
      ((Condition.parse? raw).map fun condition => ⟨(world.caches id).size, condition⟩,
        { world.setCache id ⟨(world.caches id).entries ++ [(raw, Condition.parse? raw)]⟩ with
          log := world.log ++ [.cacheMissed raw (Condition.parse? raw).isSome] }) := by
  simp only [Action.condition?, run, ConditionCache.parse_of_miss miss, if_true, Option.isSome_map]
  rfl

theorem find?_condition? (world : World F) (id : CacheId) (raw : String) :
    ((run (Action.condition? id raw) world).2.caches id).find? raw =
      some (run (Action.condition? id raw) world).1 := by
  cases asked : (world.caches id).find? raw with
  | some found => rw [run_condition?_of_hit asked, asked]
  | none =>
    have entry := ConditionCache.find?_parse (world.caches id) raw
    rw [ConditionCache.parse_of_miss asked] at entry
    rw [run_condition?_of_miss asked]
    simpa only [setCache, if_true] using entry

/-- Whatever happens in between, asking again gives the very entry. -/
theorem run_condition?_again {later : World F}
    (keeps : (run (Action.condition? id raw) world).2.Keeps later) :
    run (Action.condition? id raw) later = ((run (Action.condition? id raw) world).1, later) :=
  run_condition?_of_hit (keeps.find? (find?_condition? world id raw))

/-- No two texts have the same entry. -/
theorem text_of_slot {other : String} {entry entry' : CachedCondition}
    (asked : (run (Action.condition? id raw) world).1 = some entry) {later : World F}
    (keeps : (run (Action.condition? id raw) world).2.Keeps later)
    (again : (run (Action.condition? id other) later).1 = some entry')
    (same : entry.slot = entry'.slot) : other = raw := by
  have after := keeps.trans (keeps_run (Action.condition? id other) later)
  have first := after.find? (find?_condition? world id raw)
  have second := find?_condition? later id other
  rw [asked] at first
  rw [again] at second
  have text := ConditionCache.text_of_find? first
  rw [same, ConditionCache.text_of_find? second] at text
  exact Option.some.inj text

/-- The texts that an action asks caches for when it is run in a world, first to last. -/
def asked {α : Type} : Action α → World F → List (CacheId × String)
  | .done _, _ => []
  | .read path next, world => asked (next (FileSystem.read world.files path)) world
  | .write path text next, world =>
    let (answer, files) := FileSystem.write world.files path text
    asked (next answer) { world with files := files }
  | .makeDirs path next, world =>
    let (answer, files) := FileSystem.makeDirs world.files path
    asked (next answer) { world with files := files }
  | .lookup id raw next, world =>
    let (answer, cache) := (world.caches id).parse raw
    (id, raw) :: asked (next answer) (world.setCache id cache)
  | .emit event next, world => asked next { world with log := world.log ++ [event] }

@[simp] theorem asked_pure {α : Type} (result : α) (world : World F) :
    asked (pure result) world = [] := rfl

theorem asked_bind {α β : Type} (action : Action α) (f : α → Action β) (world : World F) :
    asked (action >>= f) world =
      asked action world ++ asked (f (run action world).1) (run action world).2 := by
  change asked (action.bind f) world = _
  induction action generalizing world with
  | done => rfl
  | emit event next ih => exact ih _
  | read path next ih | write path text next ih | makeDirs path next ih => exact ih _ _
  | lookup id raw next ih => exact congrArg _ (ih _ _)

@[simp] theorem asked_condition? (world : World F) (id : CacheId) (raw : String) :
    asked (Action.condition? id raw) world = [(id, raw)] := by
  simp only [Action.condition?, asked]
  split <;> rfl

end World
end RecordStore

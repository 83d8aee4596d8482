import Mathlib.Data.Finset.Card
import RecordStore.Proofs.CacheEntries

/-! Actions that differ in the caches they ask, and in what they make of the entries beyond the
conditions in them. Run on the same files, in worlds with different caches, they come to the same as
far as can be seen. What such an action leaves behind in the caches and in the log is told by the
texts it asked for. -/
namespace RecordStore

/-- Whether an event tells of a text that was parsed for the first time. -/
def Event.isMiss : Event → Bool
  | cacheMissed _ _ => true
  | _ => false

/-- Whether two actions make the same requests, save that a condition may come from any cache, and
end in results that look the same. A cache is asked for conditions in no other way. -/
inductive Action.Alike {α V : Type} (see : α → V) : Action α → Action α → Prop where
  | done {a b : α} : see a = see b → Alike see (.done a) (.done b)
  | read (path : String) {next other : Except IoError String → Action α} :
    (∀ answer, Alike see (next answer) (other answer)) →
    Alike see (.read path next) (.read path other)
  | write (path text : String) {next other : Except IoError Unit → Action α} :
    (∀ answer, Alike see (next answer) (other answer)) →
    Alike see (.write path text next) (.write path text other)
  | makeDirs (path : String) {next other : Except IoError Unit → Action α} :
    (∀ answer, Alike see (next answer) (other answer)) →
    Alike see (.makeDirs path next) (.makeDirs path other)
  | ask (first second : CacheId) (raw : String)
    {next other : Option CachedCondition → Action α} :
    (∀ found also, found.map (·.condition) = also.map (·.condition) →
      Alike see (next found) (other also)) →
    Alike see (Action.condition? first raw >>= next) (Action.condition? second raw >>= other)
  | emit {event : Event} {next other : Action α} : event.isMiss = false → Alike see next other →
    Alike see (.emit event next) (.emit event other)

namespace Action.Alike
variable {α β V W : Type} {see : α → V} {look : β → W} {a b : Action α}

theorem bind {next other : α → Action β} (first : Alike see a b)
    (rest : ∀ x y, see x = see y → Alike look (next x) (other y)) :
    Alike look (a >>= next) (b >>= other) := by
  change Alike look (a.bind next) (b.bind other)
  induction first with
  | done same => exact rest _ _ same
  | read path _ ih => exact .read path ih
  | write path text _ ih => exact .write path text ih
  | makeDirs path _ ih => exact .makeDirs path ih
  | emit known _ ih => exact .emit known ih
  | ask first second raw _ ih =>
    change Alike look (((condition? first raw).bind _).bind next)
      (((condition? second raw).bind _).bind other)
    rw [bind_assoc, bind_assoc]
    exact .ask first second raw ih

/-- Where one part of the results is the same and the other looks the same. -/
theorem bind_pair {γ : Type} {see : β → V} {look : γ → W} {a b : Action (α × β)}
    {next other : α × β → Action γ} (first : Alike (Prod.map id see) a b)
    (rest : ∀ x y z, see y = see z → Alike look (next (x, y)) (other (x, z))) :
    Alike look (a >>= next) (b >>= other) := by
  apply first.bind
  rintro ⟨x, y⟩ ⟨_, z⟩ same
  obtain ⟨rfl, alike⟩ := Prod.mk.inj same
  exact rest _ y z alike

theorem condition? (first second : CacheId) (raw : String) :
    Alike (Option.map (·.condition)) (Action.condition? first raw)
      (Action.condition? second raw) := by
  have asks : Alike (Option.map (·.condition)) ((Action.condition? first raw).bind .done)
      ((Action.condition? second raw).bind .done) :=
    .ask first second raw fun _ _ same => .done same
  rwa [bind_done, bind_done] at asks

end Action.Alike

namespace World

/-- Whether the caches and the log tell of the given texts and nothing else: each cache has one
entry for each text that was asked of it, and each such entry was reported once. -/
structure Remembers {F : Type} (world : World F) (history : List (CacheId × String)) : Prop where
  entered : ∀ id raw, raw ∈ (world.caches id).texts ↔ (id, raw) ∈ history
  apart : ∀ id, (world.caches id).texts.Nodup
  reported : world.log.countP Event.isMiss = history.toFinset.card

theorem toFinset_concat (history : List (CacheId × String)) (call : CacheId × String) :
    (history ++ [call]).toFinset = insert call history.toFinset := by
  ext other
  simp

namespace Remembers
variable {F : Type} {world : World F} {history : List (CacheId × String)}

theorem start (files : F) : (World.start files).Remembers [] where
  entered _ _ := iff_of_false List.not_mem_nil List.not_mem_nil
  apart _ := List.nodup_nil
  reported := rfl

theorem of_files (remembers : world.Remembers history) (files : F) :
    { world with files := files }.Remembers history :=
  ⟨remembers.entered, remembers.apart, remembers.reported⟩

theorem emit (remembers : world.Remembers history) {event : Event} (known : event.isMiss = false) :
    { world with log := world.log ++ [event] }.Remembers history where
  entered := remembers.entered
  apart := remembers.apart
  reported := by
    rw [List.countP_append, List.countP_singleton, known, remembers.reported]
    rfl

/-- Asking for a text that was asked for before. -/
theorem of_hit {id : CacheId} {raw : String} (remembers : world.Remembers history)
    (old : (id, raw) ∈ history) : world.Remembers (history ++ [(id, raw)]) where
  entered other text := by
    rw [remembers.entered, List.mem_append, List.mem_singleton, or_iff_left_of_imp]
    exact (· ▸ old)
  apart := remembers.apart
  reported := by
    rw [remembers.reported, toFinset_concat, Finset.insert_eq_of_mem (List.mem_toFinset.2 old)]

/-- The size of a cache is the number of distinct texts that were asked of it. -/
theorem size_eq (remembers : world.Remembers history) (id : CacheId) :
    (world.caches id).size = ((history.filter (·.1 = id)).map Prod.snd).toFinset.card := by
  rw [← ConditionCache.length_texts, ← List.toFinset_card_of_nodup (remembers.apart id)]
  apply congrArg
  ext raw
  simp [remembers.entered]

/-- Where one cache is asked for everything, its size is the number of texts reported. -/
theorem size_eq_reported (remembers : world.Remembers history) {id : CacheId}
    (alone : ∀ call ∈ history, call.1 = id) :
    (world.caches id).size = world.log.countP Event.isMiss := by
  have all : history.filter (·.1 = id) = history :=
    List.filter_eq_self.2 fun call present => decide_eq_true (alone call present)
  have apart : Set.InjOn Prod.snd (history.toFinset : Set (CacheId × String)) := by
    intro call here other there same
    rw [Finset.mem_coe, List.mem_toFinset] at here there
    exact Prod.ext ((alone call here).trans (alone other there).symm) same
  have texts : (history.map Prod.snd).toFinset = history.toFinset.image Prod.snd := by
    ext raw
    simp
  rw [remembers.size_eq, all, remembers.reported, texts, Finset.card_image_of_injOn apart]

end Remembers

variable {F : Type} [FileSystem F] {α V : Type} {see : α → V} {a b : Action α}

/-- Neither results that can be seen nor files depend on what is in the caches. -/
theorem run_of_alike (alike : Action.Alike see a b) {first second : World F}
    (faithful : first.Faithful) (also : second.Faithful) (same : first.files = second.files) :
    see (run a first).1 = see (run b second).1 ∧
      (run a first).2.files = (run b second).2.files ∧
      requests a first = requests b second := by
  induction alike generalizing first second with
  | done shown => exact ⟨shown, same, rfl⟩
  | read path _ ih =>
    simp only [run, requests, same]
    exact ih _ faithful also same
  | write path text _ ih =>
    simp only [run, requests, same]
    obtain ⟨shown, files, requested⟩ := @ih (FileSystem.write second.files path text).1
      { first with files := (FileSystem.write second.files path text).2 }
      { second with files := (FileSystem.write second.files path text).2 } faithful also rfl
    exact ⟨shown, files, congrArg _ requested⟩
  | makeDirs path _ ih =>
    simp only [run, requests, same]
    obtain ⟨shown, files, requested⟩ := @ih (FileSystem.makeDirs second.files path).1
      { first with files := (FileSystem.makeDirs second.files path).2 }
      { second with files := (FileSystem.makeDirs second.files path).2 } faithful also rfl
    exact ⟨shown, files, congrArg _ requested⟩
  | @emit event _ _ known _ ih =>
    exact @ih { first with log := first.log ++ [event] } { second with log := second.log ++ [event] }
      faithful also same
  | ask one two raw _ ih =>
    simp only [run_bind, requests_bind, requests_condition?, List.nil_append]
    apply ih
    · rw [faithful.condition?, also.condition?]
    · exact faithful.run _
    · exact also.run _
    · rw [files_condition?, files_condition?, same]

/-! What an action leaves behind. -/

section
variable {world : World F} {history : List (CacheId × String)} {id : CacheId} {raw : String}

/-- Asking for a text for the first time. -/
theorem Remembers.of_miss (remembers : world.Remembers history)
    (miss : (world.caches id).find? raw = none) :
    (run (Action.condition? id raw) world).2.Remembers (history ++ [(id, raw)]) := by
  have absent : raw ∉ (world.caches id).texts := ConditionCache.findFrom_eq_none.1 miss
  have new : (id, raw) ∉ history := mt (remembers.entered id raw).2 absent
  have texts (other : CacheId) : ((run (Action.condition? id raw) world).2.caches other).texts =
      if other = id then (world.caches id).texts ++ [raw] else (world.caches other).texts := by
    rw [run_condition?_of_miss miss]
    simp only [setCache]
    split
    · exact List.map_append
    · rfl
  constructor
  case entered =>
    intro other text
    rw [texts, List.mem_append, List.mem_singleton, Prod.mk.injEq, ← remembers.entered]
    split
    · next same => rw [same, List.mem_append, List.mem_singleton, and_iff_right rfl]
    · next different => rw [or_iff_left fun both => different both.1]
  case apart =>
    intro other
    rw [texts]
    split
    · rw [List.nodup_append_comm]
      exact List.nodup_cons.2 ⟨absent, remembers.apart id⟩
    · exact remembers.apart other
  case reported =>
    rw [run_condition?_of_miss miss, List.countP_append, remembers.reported, toFinset_concat,
      Finset.card_insert_of_notMem (mt List.mem_toFinset.1 new)]
    rfl

theorem Remembers.condition? (remembers : world.Remembers history) (id : CacheId) (raw : String) :
    (run (Action.condition? id raw) world).2.Remembers (history ++ [(id, raw)]) := by
  cases asked : (world.caches id).find? raw with
  | some found =>
    have contained : (world.caches id).contains raw = true := by
      rw [ConditionCache.contains, asked]
      rfl
    rw [run_condition?_of_hit asked]
    exact remembers.of_hit ((remembers.entered id raw).1 (ConditionCache.contains_iff.1 contained))
  | none => exact remembers.of_miss asked

/-- What was asked for before and during an action is what caches and log tell of after it. -/
theorem Remembers.run (remembers : world.Remembers history) (alike : Action.Alike see a b) :
    (World.run a world).2.Remembers (history ++ asked a world) := by
  induction alike generalizing world history with
  | done =>
    rw [asked, List.append_nil]
    exact remembers
  | read path _ ih => exact ih _ remembers
  | write path text _ ih => exact ih _ (remembers.of_files _)
  | makeDirs path _ ih => exact ih _ (remembers.of_files _)
  | emit known _ ih => exact ih (remembers.emit known)
  | ask one two raw _ ih =>
    rw [run_bind, asked_bind, asked_condition?, ← List.append_assoc]
    exact ih _ _ rfl (remembers.condition? one raw)

end

end World
end RecordStore

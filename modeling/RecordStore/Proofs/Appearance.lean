import RecordStore.Console.Session
import RecordStore.Proofs.Agreement
import RecordStore.Proofs.Alike

/-! What shows of stores and queries: everything but which cache they ask and the slots of the
entries they got from it. Nothing that is done with them depends on more than what shows. -/
namespace RecordStore

open RecordStore.Action (Alike)

namespace Document

theorem isMiss_loadEvent (path text : String) : (loadEvent path text).isMiss = false := by
  unfold loadEvent
  split <;> rfl

theorem alike_load (path : String) : Alike id (load path) (load path) := by
  apply Alike.read
  intro answer
  cases answer with
  | ok text => exact .emit (isMiss_loadEvent path text) (.done rfl)
  | error error =>
    refine .emit ?_ (.done rfl)
    split <;> rfl

theorem alike_makeParents (path : String) (settings : Settings) :
    Alike id (makeParents path settings) (makeParents path settings) := by
  unfold makeParents
  split
  · split
    · exact .makeDirs _ fun answer => .done rfl
    · exact .done rfl
  · exact .done rfl

theorem alike_persist (path : String) (records : List Json) (settings : Settings) :
    Alike id (persist path records settings) (persist path records settings) := by
  apply (alike_makeParents path settings).bind
  rintro made _ rfl
  cases made with
  | error => exact .done rfl
  | ok =>
    apply Alike.write
    intro wrote
    cases wrote with
    | error => exact .done rfl
    | ok => exact .emit rfl (.done rfl)

end Document

/-- Whether a view of sets of records shows the records, and all that handing them over depends
on. -/
structure RecordSet.Shows {R V : Type} [RecordSet R] (see : R → V) : Prop where
  records {a b : R} : see a = see b → RecordSet.records a = RecordSet.records b
  withRecords {a b : R} (records : List Json) : see a = see b →
    see (RecordSet.withRecords a records) = see (RecordSet.withRecords b records)
  sync {a b : R} : see a = see b → Alike (Prod.map id see) (RecordSet.sync a) (RecordSet.sync b)

theorem RecordSet.shows_list : Shows (id : List Json → List Json) where
  records same := same
  withRecords _ _ := rfl
  sync same := .done (Prod.ext rfl same)

namespace Query
variable {R V : Type} {see : R → V} {q r : Query R}

/-- What shows of a query, of whose records a view is given. -/
def shown (see : R → V) (q : Query R) : V × List Nat × List Condition :=
  (see q.backing, q.working, q.applied.map (·.condition))

theorem shown_eq_iff : q.shown see = r.shown see ↔ see q.backing = see r.backing ∧
    q.working = r.working ∧ q.applied.map (·.condition) = r.applied.map (·.condition) := by
  simp only [shown, Prod.mk.injEq]

section
variable [RecordSet R] (shows : RecordSet.Shows see) (same : q.shown see = r.shown see)
include shows same

theorem records_of_shown : q.records = r.records := shows.records (shown_eq_iff.1 same).1

theorem items_of_shown : q.items = r.items := by
  simp only [items, records_of_shown shows same, (shown_eq_iff.1 same).2.1]

theorem first?_of_shown : q.first? = r.first? := by
  simp only [first?, records_of_shown shows same, (shown_eq_iff.1 same).2.1]

omit [RecordSet R] shows in
theorem count_of_shown : q.count = r.count := congrArg List.length (shown_eq_iff.1 same).2.1

omit same in
theorem shown_start {a b : R} (same : see a = see b) (first second : CacheId) :
    (start a first).shown see = (start b second).shown see := by
  refine shown_eq_iff.2 ⟨same, ?_, rfl⟩
  simp only [start, shows.records same]

theorem shown_filterBy (test : Json → Bool) :
    (q.filterBy test).shown see = (r.filterBy test).shown see := by
  obtain ⟨backing, working, applied⟩ := shown_eq_iff.1 same
  refine shown_eq_iff.2 ⟨backing, ?_, applied⟩
  simp only [filterBy, working, records_of_shown shows same]

theorem alike_filter (raw : String) : Alike (shown see) (q.filter raw) (r.filter raw) := by
  apply Alike.ask
  intro found also alike
  cases found with
  | none =>
    obtain rfl := Option.map_eq_none_iff.1 alike.symm
    exact .emit rfl (.done same)
  | some cached =>
    obtain ⟨other, rfl, condition⟩ := Option.map_eq_some_iff.1 alike.symm
    obtain ⟨backing, working, applied⟩ := shown_eq_iff.1 (shown_filterBy shows same
      cached.condition.holds)
    refine .done (shown_eq_iff.2 ⟨backing, ?_, ?_⟩)
    · rw [condition]
      exact working
    · simp only [List.map_append, List.map_cons, condition, (shown_eq_iff.1 same).2.2]

theorem alike_filterAll (texts : List String) :
    Alike (shown see) (q.filterAll texts) (r.filterAll texts) := by
  induction texts generalizing q r with
  | nil => exact .done same
  | cons raw rest ih => exact (alike_filter shows same raw).bind fun _ _ narrowed => ih narrowed

theorem alike_commit (records : List Json) (count : Nat) :
    Alike (Prod.map id (shown see)) (q.commit records count) (r.commit records count) := by
  obtain ⟨backing, working, applied⟩ := shown_eq_iff.1 same
  apply (shows.sync (shows.withRecords records backing)).bind_pair
  intro outcome set other handed
  exact .done (Prod.ext rfl (shown_eq_iff.2 ⟨handed, working, applied⟩))

theorem alike_update (patch : Json) :
    Alike (Prod.map id (shown see)) (q.update patch) (r.update patch) := by
  have records := records_of_shown shows same
  have working := (shown_eq_iff.1 same).2.1
  simp only [update, count, records, working]
  exact .emit rfl (alike_commit shows same _ _)

theorem alike_delete : Alike (Prod.map id (shown see)) q.delete r.delete := by
  obtain ⟨backing, working, applied⟩ := shown_eq_iff.1 same
  have records := records_of_shown shows same
  have emptied : { q with working := [] }.shown see = { r with working := [] }.shown see :=
    shown_eq_iff.2 ⟨backing, rfl, applied⟩
  simp only [delete, count, records, working]
  exact .emit rfl (alike_commit shows emptied _ _)

/-- What a step comes to depends on what shows of the query. -/
theorem alike_perform (step : Step) :
    Alike (Prod.map id (shown see)) (q.perform step) (r.perform step) := by
  cases step with
  | filter raw =>
    exact (alike_filter shows same raw).bind fun _ _ narrowed => .done (Prod.ext rfl narrowed)
  | filterBy test => exact .done (Prod.ext rfl (shown_filterBy shows same test))
  | get => exact .done (Prod.ext (congrArg Reply.items (items_of_shown shows same)) same)
  | first => exact .done (Prod.ext (congrArg Reply.item (first?_of_shown shows same)) same)
  | count => exact .done (Prod.ext (congrArg Reply.number (count_of_shown same)) same)
  | update patch =>
    apply (alike_update shows same patch).bind_pair
    intro outcome after other changed
    exact .done (Prod.ext rfl changed)
  | delete =>
    apply (alike_delete shows same).bind_pair
    intro outcome after other changed
    exact .done (Prod.ext rfl changed)

end
end Query

namespace Store

/-- What shows of a store. -/
def shown (store : Store) : String × List Json × Settings :=
  (store.path, store.records, store.settings)

variable {a b : Store}

theorem shown_eq_iff : a.shown = b.shown ↔
    a.path = b.path ∧ a.records = b.records ∧ a.settings = b.settings := by
  simp only [shown, Prod.mk.injEq]

/-- Stores that look the same differ in their caches alone. -/
theorem exists_cache_of_shown (same : a.shown = b.shown) :
    ∃ cache, b = { a with cache := cache } := by
  obtain ⟨path, records, settings, cache⟩ := b
  obtain ⟨rfl, rfl, rfl⟩ := shown_eq_iff.1 same
  exact ⟨cache, rfl⟩

theorem alike_persist (store : Store) : Alike id store.persist store.persist :=
  Document.alike_persist store.path store.records store.settings

theorem shows_shown : RecordSet.Shows shown where
  records same := (shown_eq_iff.1 same).2.1
  withRecords records same := by
    obtain ⟨path, -, settings⟩ := shown_eq_iff.1 same
    exact shown_eq_iff.2 ⟨path, rfl, settings⟩
  sync same := by
    obtain ⟨cache, rfl⟩ := exists_cache_of_shown same
    apply (alike_persist _).bind
    rintro outcome _ rfl
    exact .done rfl

theorem shown_query (same : a.shown = b.shown) :
    a.query.shown shown = b.query.shown shown := by
  obtain ⟨cache, rfl⟩ := exists_cache_of_shown same
  rfl

/-- Whichever cache a store is given. -/
theorem alike_openWith (path : String) (settings : Settings) (first second : CacheId) :
    Alike shown (openWith path settings first) (openWith path settings second) := by
  apply (Document.alike_load path).bind
  rintro records _ rfl
  exact .emit rfl (.done rfl)

section
variable (same : a.shown = b.shown)
include same

theorem alike_replace (records : List Json) :
    Alike (Prod.map id shown) (a.replace records) (b.replace records) := by
  obtain ⟨cache, rfl⟩ := exists_cache_of_shown same
  apply (alike_persist { a with records := records }).bind
  rintro outcome _ rfl
  exact .done rfl

theorem alike_insertMany (records : List Json) :
    Alike (Prod.map id shown) (a.insertMany records) (b.insertMany records) := by
  have records := (shown_eq_iff.1 same).2.1
  simp only [insertMany, records]
  exact alike_replace same _

theorem alike_reload : Alike shown a.reload b.reload := by
  obtain ⟨cache, rfl⟩ := exists_cache_of_shown same
  apply (Document.alike_load a.path).bind
  rintro records _ rfl
  exact .emit rfl (.done rfl)

theorem alike_changeWhere (raw : String) (change : Condition → List Json)
    {event : Condition → Event} (known : ∀ condition, (event condition).isMiss = false)
    (count : Condition → Nat) :
    Alike (Prod.map id shown) (a.changeWhere raw change event count)
      (b.changeWhere raw change event count) := by
  apply Alike.ask
  intro found also alike
  cases found with
  | none =>
    obtain rfl := Option.map_eq_none_iff.1 alike.symm
    exact .done (Prod.ext rfl same)
  | some cached =>
    obtain ⟨other, rfl, condition⟩ := Option.map_eq_some_iff.1 alike.symm
    simp only [condition]
    refine .emit (known _) ((alike_replace same _).bind_pair ?_)
    intro outcome after also replaced
    exact .done (Prod.ext rfl replaced)

theorem alike_updateWhere (raw : String) (patch : Json) :
    Alike (Prod.map id shown) (a.updateWhere raw patch) (b.updateWhere raw patch) := by
  obtain ⟨cache, rfl⟩ := exists_cache_of_shown same
  let updated (condition : Condition) := a.records.countP condition.holds
  have known (condition : Condition) :
      (Event.updatedWhere condition (updated condition)).isMiss = false :=
    rfl
  exact alike_changeWhere same raw (patchedWhere a.records patch) known updated

theorem alike_deleteWhere (raw : String) :
    Alike (Prod.map id shown) (a.deleteWhere raw) (b.deleteWhere raw) := by
  obtain ⟨cache, rfl⟩ := exists_cache_of_shown same
  let removed (condition : Condition) := a.size - (keptWhere a.records condition).length
  have known (condition : Condition) :
      (Event.deletedWhere condition (removed condition)).isMiss = false :=
    rfl
  exact alike_changeWhere same raw (keptWhere a.records) known removed

end

/-- What an operation comes to depends on what shows of the store and the query open on it. -/
theorem alike_operation {q r : Query Store} (same : q.shown shown = r.shown shown)
    (operation : Operation) :
    Alike (Prod.map id (Query.shown shown)) (operation.perform q) (operation.perform r) := by
  have backing := (Query.shown_eq_iff.1 same).1
  cases operation with
  | insert record =>
    apply (alike_insertMany backing [record]).bind_pair
    exact fun outcome after also changed => .done (Prod.ext rfl (shown_query changed))
  | insertMany records =>
    apply (alike_insertMany backing records).bind_pair
    exact fun outcome after also changed => .done (Prod.ext rfl (shown_query changed))
  | updateWhere raw patch =>
    apply (alike_updateWhere backing raw patch).bind_pair
    exact fun outcome after also changed => .done (Prod.ext rfl (shown_query changed))
  | deleteWhere raw =>
    apply (alike_deleteWhere backing raw).bind_pair
    exact fun outcome after also changed => .done (Prod.ext rfl (shown_query changed))
  | clear =>
    apply (alike_replace backing []).bind_pair
    exact fun outcome after also changed => .done (Prod.ext rfl (shown_query changed))
  | openQuery => exact .done (Prod.ext rfl (shown_query backing))
  | step inner =>
    apply (Query.alike_perform shows_shown same inner).bind_pair
    exact fun reply after also stepped => .done (Prod.ext rfl stepped)

end Store

namespace Console
variable {a b : Store} (same : a.shown = b.shown)
include same

theorem Command.alike_select (texts : List String) :
    Alike (Query.shown Store.shown) (select a texts) (select b texts) :=
  Query.alike_filterAll Store.shows_shown (Store.shown_query same) texts

theorem Command.alike_execute (command : Command) :
    Alike (Prod.map id Store.shown) (command.execute a) (command.execute b) := by
  have shows := Store.shows_shown
  cases command with
  | insert document =>
    apply (Store.alike_insertMany same (documents document)).bind_pair
    exact fun outcome after also changed => .done (Prod.ext rfl changed)
  | all =>
    have records := (Store.shown_eq_iff.1 same).2.1
    exact .done (Prod.ext (congrArg (Except.ok ∘ Outcome.items) records) same)
  | find texts =>
    apply (alike_select same texts).bind
    intro q r narrowed
    exact .done (Prod.ext (congrArg (Except.ok ∘ Outcome.items)
      (Query.items_of_shown shows narrowed)) (Query.shown_eq_iff.1 narrowed).1)
  | first texts =>
    apply (alike_select same texts).bind
    intro q r narrowed
    exact .done (Prod.ext (congrArg (Except.ok ∘ Outcome.item)
      (Query.first?_of_shown shows narrowed)) (Query.shown_eq_iff.1 narrowed).1)
  | count texts =>
    apply (alike_select same texts).bind
    intro q r narrowed
    exact .done (Prod.ext (congrArg (Except.ok ∘ Outcome.count)
      (Query.count_of_shown narrowed)) (Query.shown_eq_iff.1 narrowed).1)
  | update patch texts =>
    apply (alike_select same texts).bind
    intro q r narrowed
    apply (Query.alike_update shows narrowed patch).bind_pair
    exact fun outcome after also changed =>
      .done (Prod.ext rfl (Query.shown_eq_iff.1 changed).1)
  | delete texts =>
    apply (alike_select same texts).bind
    intro q r narrowed
    apply (Query.alike_delete shows narrowed).bind_pair
    exact fun outcome after also changed =>
      .done (Prod.ext rfl (Query.shown_eq_iff.1 changed).1)
  | reload =>
    apply (Store.alike_reload same).bind
    intro after also loaded
    have records := (Store.shown_eq_iff.1 loaded).2.1
    exact .done (Prod.ext (congrArg (Except.ok ∘ Outcome.reloaded ∘ List.length) records) loaded)
  | clear =>
    apply (Store.alike_replace same []).bind_pair
    exact fun outcome after also changed => .done (Prod.ext rfl changed)
  | help topic => exact .done (Prod.ext rfl same)
  | exit => exact .done (Prod.ext rfl same)

omit same in
/-- What shows of the result of a line. -/
def LineResult.shown (result : LineResult) : Output × Ending × String × List Json × Settings :=
  (result.output, result.ending, result.store.shown)

theorem LineResult.shown_eq (output : Output) (ending : Ending) :
    (LineResult.mk output ending a).shown = (LineResult.mk output ending b).shown := by
  simp only [shown, same]

/-- What a line comes to depends on what shows of the store. -/
theorem alike_runLine (format : Format) (line : String) :
    Alike LineResult.shown (runLine format a line) (runLine format b line) := by
  unfold runLine
  cases Command.parse line with
  | error error => exact .done (LineResult.shown_eq same _ _)
  | ok command =>
    apply (Command.alike_execute same command).bind_pair
    intro outcome after also executed
    cases outcome with
    | error error => exact .done (LineResult.shown_eq executed _ _)
    | ok outcome => cases outcome <;> exact .done (LineResult.shown_eq executed _ _)

end Console
end RecordStore

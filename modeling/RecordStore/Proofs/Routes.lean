import RecordStore.Proofs.Agreement
import RecordStore.Proofs.Persisting

/-! Two routes to one change. The records that satisfy a condition can be changed at once, each as
it is met, or through a query, which selects all of them before it changes any. A record is tested
as it was in both, so the routes leave the same in memory; and as they hand over the same records,
they come to the same in the file. -/
namespace RecordStore

open World

namespace Store

/-- A change that can be made by a condition text. -/
inductive Change where
  | update (patch : Json)
  | delete

namespace Change

/-- Makes the change at once. -/
def directly (store : Store) (raw : String) : Change → Action (Except StoreError Nat × Store)
  | update patch => store.updateWhere raw patch
  | delete => store.deleteWhere raw

/-- Makes the change through a query that the text filters. -/
def byQuery (store : Store) (raw : String) : Change → Action (Except StoreError Nat × Store)
  | update patch => do
    let (outcome, q) ← (← store.filter raw).update patch
    return (outcome, q.backing)
  | delete => do
    let (outcome, q) ← (← store.filter raw).delete
    return (outcome, q.backing)

/-- What the change makes of records. -/
def after (records : List Json) (condition : Condition) : Change → List Json
  | update patch => patchedWhere records patch condition
  | delete => keptWhere records condition

theorem length_keptWhere (records : List Json) (condition : Condition) :
    (keptWhere records condition).length + records.countP condition.holds = records.length := by
  rw [keptWhere, ← List.countP_eq_length_filter, List.length_eq_countP_add_countP condition.holds,
    Nat.add_comm]
  simp

variable {F : Type} [FileSystem F] {world : World F} {raw : String} {condition : Condition}

theorem persists_directly (faithful : world.Faithful) (store : Store)
    (parsed : Condition.parse? raw = some condition) (change : Change) :
    Persists (change.directly store raw) world
      { store with records := change.after store.records condition }
      (store.records.countP condition.holds) := by
  have asked := faithful.condition? store.cache raw
  rw [parsed, Option.map_eq_some_iff] at asked
  obtain ⟨cached, found, rfl⟩ := asked
  have files := files_condition? world store.cache raw
  cases change with
  | update patch =>
    simp only [Persists, directly, updateWhere, run_bind, requests_bind, requests_condition?, found,
      run_report, requests_report, run_replace, requests_replace, run_pure, requests_pure,
      List.nil_append, List.append_nil]
    refine ⟨_, ?_, rfl, rfl⟩
    exact files
  | delete =>
    have counted := length_keptWhere store.records cached.condition
    have removed : store.size - (keptWhere store.records cached.condition).length =
        store.records.countP cached.condition.holds := by
      rw [Store.size]
      omega
    rw [← removed]
    simp only [Persists, directly, deleteWhere, run_bind, requests_bind, requests_condition?, found,
      run_report, requests_report, run_replace, requests_replace, run_pure, requests_pure,
      List.nil_append, List.append_nil]
    refine ⟨_, ?_, rfl, rfl⟩
    exact files

/-- A query that one text filters selects the records that satisfy its condition: patching them,
keeping the others and counting them is what going by the condition does. -/
theorem selection_filter (faithful : world.Faithful) (store : Store)
    (parsed : Condition.parse? raw = some condition) :
    let q := (run (store.filter raw) world).1
    (∀ patch, q.patchedRecords patch = patchedWhere store.records patch condition) ∧
      q.keptRecords = keptWhere store.records condition ∧
      q.count = store.records.countP condition.holds := by
  have marks : (run (store.filter raw) world).1.Marks
      ((MarkedList.start store.records).filter raw) :=
    (Query.marks_start store store.cache).filter faithful raw
  have items : ((MarkedList.start store.records).filter raw).items =
      store.records.map fun record => (record, condition.holds record) := by
    simp [MarkedList.filter, parsed, MarkedList.narrow, MarkedList.start]
  refine ⟨?_, ?_, ?_⟩
  · intro patch
    apply (marks.patchedRecords patch).trans
    simp [MarkedList.records, MarkedList.update, items, patchedWhere]
  · apply marks.keptRecords.trans
    simp [MarkedList.records, MarkedList.delete, items, keptWhere, List.filter_map,
      Function.comp_def]
  · apply marks.count.trans
    simp [MarkedList.marked, items, List.filter_map, List.countP_eq_length_filter,
      Function.comp_def]

theorem persists_byQuery (faithful : world.Faithful) (store : Store)
    (parsed : Condition.parse? raw = some condition) (change : Change) :
    Persists (change.byQuery store raw) world
      { store with records := change.after store.records condition }
      (store.records.countP condition.holds) := by
  have files : (run (store.filter raw) world).2.files = world.files := files_filter world _ raw
  have silent : requests (store.filter raw) world = [] := requests_filter world _ raw
  have backing : (run (store.filter raw) world).1.backing = store :=
    Query.backing_filter world _ raw
  obtain ⟨patched, kept, counted⟩ := selection_filter faithful store parsed
  cases change with
  | update patch =>
    simp only [Persists, byQuery, run_bind, requests_bind, run_pure, requests_pure, silent,
      Query.run_update, requests_update, Query.run_commit, requests_commit, RecordSet.sync,
      RecordSet.withRecords, backing, patched, counted, List.nil_append, List.append_nil]
    refine ⟨_, ?_, rfl, rfl⟩
    exact files
  | delete =>
    simp only [Persists, byQuery, run_bind, requests_bind, run_pure, requests_pure, silent,
      Query.run_delete, requests_delete, Query.run_commit, requests_commit, RecordSet.sync,
      RecordSet.withRecords, backing, kept, counted, List.nil_append, List.append_nil]
    refine ⟨_, ?_, rfl, rfl⟩
    exact files

/-- The two routes come to the same, from any two worlds with the same files: the same count or the
same error, the same store, with each record changed or kept by what it was before, the same
requests and the same files. After a deletion by either, no record satisfies the condition any more,
and as many are gone as were counted. -/
theorem byQuery_eq_directly {F : Type} [FileSystem F] {first second : World F}
    (reachable : first.Reachable) (elsewhere : second.Reachable)
    (same : first.files = second.files) (store : Store) {raw : String} {condition : Condition}
    (parsed : Condition.parse? raw = some condition) (change : Change)
    {outcome : Except StoreError Nat} {left : Store} {done : World F}
    (ran : run (change.directly store raw) first = ((outcome, left), done)) :
    (run (change.byQuery store raw) second).1 = (outcome, left) ∧
    (run (change.byQuery store raw) second).2.files = done.files ∧
    requests (change.byQuery store raw) second = requests (change.directly store raw) first ∧
    left = { store with records := change.after store.records condition } ∧
    (change = delete →
      (∀ {G : Type} [FileSystem G] (later : World G), later.Reachable →
        (run (left.filter raw) later).1.count = 0) ∧
      ∀ removed, outcome = .ok removed → left.size + removed = store.size) := by
  have atOnce := persists_directly reachable.faithful store parsed change
  have selected := persists_byQuery elsewhere.faithful store parsed change
  obtain ⟨result, files, requested⟩ := atOnce.agree selected same
  have stored : left = { store with records := change.after store.records condition } := by
    rw [← atOnce.store, ran]
  rw [ran] at result files
  refine ⟨result, files, requested, stored, ?_⟩
  rintro rfl
  refine ⟨?_, ?_⟩
  · intro G _ later reached
    rw [(selection_filter reached.faithful _ parsed).2.2, stored]
    simp [after, keptWhere, List.countP_eq_zero]
  · intro removed fine
    have counted : removed = store.records.countP condition.holds := by
      apply atOnce.reply_of_ok
      rw [ran, fine]
    rw [counted, stored]
    exact length_keptWhere store.records condition

theorem byQuery_eq_directly_deleting :
    let record (n : Int) (fits : -9223372036854775808 ≤ n ∧ n < 18446744073709551616) : Json :=
      .object [("a", .number (.integer n fits))]
    let store : Store := ⟨"records.json", [record 1 (by decide), record 5 (by decide),
      record 1 (by decide)], .default, .shared⟩
    ∃ left : Store,
      (run (delete.directly store "a < 3") (World.start Disk.empty)).1 = (.ok 2, left) ∧
      (run (delete.byQuery store "a < 3") (World.start Disk.empty)).1 = (.ok 2, left) ∧
      (run (left.filter "a < 3") (World.start Disk.empty)).1.count = 0 ∧
      left.size + 2 = store.size := by
  intro record store
  have parses : (Condition.parse? "a < 3").isSome = true := by decide +kernel
  have two : (run (delete.directly store "a < 3") (World.start Disk.empty)).1.1 = .ok 2 := by
    decide +kernel
  obtain ⟨condition, parsed⟩ := Option.isSome_iff_exists.1 parses
  obtain ⟨⟨⟨outcome, left⟩, done⟩, ran⟩ :
      ∃ result, run (delete.directly store "a < 3") (World.start Disk.empty) = result := ⟨_, rfl⟩
  rw [ran] at two ⊢
  cases two
  obtain ⟨selected, -, -, -, gone⟩ := byQuery_eq_directly (.start Disk.empty) (.start Disk.empty)
    rfl store parsed delete ran
  obtain ⟨none, fewer⟩ := gone rfl
  exact ⟨left, rfl, selected, none _ (.start Disk.empty), fewer 2 rfl⟩

end Change
end Store
end RecordStore

import RecordStore.Console.Execution
import RecordStore.Proofs.Durability
import RecordStore.Proofs.Requests
import RecordStore.Proofs.Selections

/-! Chains of conditions. Whatever is done with the records that a chain selects, they are those
that satisfy each of its conditions; a text that is no condition selects as if it were not there.
The order of the texts, and how often one of them occurs, make no difference. -/
namespace RecordStore

open World

namespace Query

/-- Whether a record satisfies each condition among the texts. -/
def meets (texts : List String) (record : Json) : Bool :=
  texts.all fun raw => (Condition.parse? raw).all (·.holds record)

/-- The positions of the records that satisfy each condition among the texts, in rising order. -/
def selected (texts : List String) (records : List Json) : List Nat :=
  (List.range records.length).filter fun i => (records[i]?).any (meets texts)

/-- The records at positions. -/
def recordsAt (positions : List Nat) (records : List Json) : List Json :=
  positions.filterMap (records[·]?)

/-- The records at all other positions, in their order. -/
def recordsBeside (positions : List Nat) (records : List Json) : List Json :=
  recordsAt ((List.range records.length).filter (· ∉ positions)) records

/-- All records, patched at positions and as they are elsewhere. -/
def patchedAt (positions : List Nat) (patch : Json) (records : List Json) : List Json :=
  records.mapIdx fun i record => if i ∈ positions then patch.patched record else record

variable {texts others : List String} {records : List Json} {record : Json} {i : Nat}

theorem meets_iff : meets texts record = true ↔
    ∀ raw ∈ texts, ∀ condition, Condition.parse? raw = some condition →
      condition.holds record = true := by
  simp [meets, Option.all_eq_true]

/-- Only what parses matters. -/
theorem meets_congr (same : ∀ raw, (Condition.parse? raw).isSome → (raw ∈ texts ↔ raw ∈ others)) :
    meets texts = meets others := by
  funext record
  rw [Bool.eq_iff_iff, meets_iff, meets_iff]
  constructor
  · intro all raw member condition parsed
    exact all raw ((same raw (by simp [parsed])).2 member) condition parsed
  · intro all raw member condition parsed
    exact all raw ((same raw (by simp [parsed])).1 member) condition parsed

theorem selected_congr (records : List Json)
    (same : ∀ raw, (Condition.parse? raw).isSome → (raw ∈ texts ↔ raw ∈ others)) :
    selected texts records = selected others records := by
  rw [selected, selected, meets_congr same]

theorem mem_selected_iff : i ∈ selected texts records ↔ ∃ record, records[i]? = some record ∧
    ∀ raw ∈ texts, ∀ condition, Condition.parse? raw = some condition →
      condition.holds record = true := by
  simp only [selected, List.mem_filter, List.mem_range, Option.any_eq_true, meets_iff]
  constructor
  · rintro ⟨-, record, present, all⟩
    exact ⟨record, present, all⟩
  · rintro ⟨record, present, all⟩
    exact ⟨(List.getElem?_eq_some_iff.1 present).1, record, present, all⟩

theorem mem_selected_iff_meets (present : records[i]? = some record) :
    i ∈ selected texts records ↔ meets texts record = true := by
  rw [mem_selected_iff, present]
  simp [meets_iff]

theorem pairwise_selected (texts : List String) (records : List Json) :
    (selected texts records).Pairwise (· < ·) :=
  List.pairwise_lt_range.filter _

end Query

namespace MarkedList

/-- The records, each marked if it satisfies each condition among the texts. -/
theorem items_foldl_filter (texts : List String) (m : MarkedList) :
    (texts.foldl filter m).items =
      m.items.map fun (record, mark) => (record, mark && Query.meets texts record) := by
  induction texts generalizing m with
  | nil => simp [Query.meets]
  | cons raw texts ih =>
    rw [List.foldl_cons, ih, filter]
    cases parsed : Condition.parse? raw <;>
      simp [narrow, Query.meets, parsed, Function.comp_def, Bool.and_assoc]

theorem items_of_chain (texts : List String) (records : List Json) :
    (texts.foldl filter (start records)).items =
      records.map fun record => (record, Query.meets texts record) := by
  rw [items_foldl_filter]
  simp [start, Function.comp_def]

theorem filter_range_eq_positions (records : List Json) (test : Json → Bool) :
    (List.range records.length).filter (fun i => (records[i]?).any test) =
      positions 0 (records.map fun record => (record, test record)) := by
  have filtered := filter_positions [] (records.map (·, true)) test
  simp only [List.nil_append, List.length_nil, List.map_map, Function.comp_def, List.map_id',
    Bool.true_and, positions_start] at filtered
  rw [List.range_eq_range', filtered]

/-- Records that pass a test are those at the positions where it is passed. -/
theorem filterMap_filter_range (records : List Json) (test : Json → Bool) :
    ((List.range records.length).filter fun i => (records[i]?).any test).filterMap
      (records[·]?) = records.filter test := by
  have found := filterMap_positions [] (records.map fun record => (record, test record))
  simp only [List.nil_append, List.length_nil, List.map_map, Function.comp_def,
    List.map_id'] at found
  rw [filter_range_eq_positions, found, List.filter_map, List.map_map]
  simp [Function.comp_def]

end MarkedList

namespace Query
variable {R F : Type} [RecordSet R] [FileSystem F] {world : World F}

theorem Marks.filterAll {q : Query R} {m : MarkedList} (marks : q.Marks m)
    (faithful : world.Faithful) (texts : List String) :
    (run (q.filterAll texts) world).1.Marks (texts.foldl MarkedList.filter m) := by
  induction texts generalizing q m world with
  | nil => exact marks
  | cons raw texts ih =>
    rw [Query.filterAll, run_bind]
    exact ih (marks.filter faithful raw) (faithful.run _)

/-- A change is reported as made unless a request for it fails. -/
theorem commit_of_requests {q : Query Store} {records : List Json} {count : Nat}
    (fine : ∀ request ∈ requests (q.commit records count) world, request.failed = false) :
    (run (q.commit records count) world).1.1 = .ok count := by
  let changed : Store := { q.backing with records := records }
  have persisted : (run changed.persist world).1.isOk = true := by
    rw [requests_commit] at fine
    by_contra unfinished
    obtain ⟨request, member, failed⟩ := (failed_of_persist world changed.path changed.records
      changed.settings).1 (Bool.eq_false_iff.2 unfinished)
    rw [fine request member] at failed
    cases failed
  have committed : (run (q.commit records count) world).1.1 =
      (run changed.persist world).1.map fun _ => count := by
    simp only [run_commit, RecordSet.sync, RecordSet.withRecords, run_bind, run_pure]
    rfl
  rw [committed]
  cases outcome : (run changed.persist world).1 with
  | ok => rfl
  | error =>
    rw [outcome] at persisted
    cases persisted

end Query

namespace Console.Command

open Query

variable {F : Type} [FileSystem F] {world : World F}

theorem marks_select (faithful : world.Faithful) (store : Store) (texts : List String) :
    (run (select store texts) world).1.Marks
      (texts.foldl MarkedList.filter (MarkedList.start store.records)) :=
  (Query.marks_start store store.cache).filterAll faithful texts

theorem working_select (faithful : world.Faithful) (store : Store) (texts : List String) :
    (run (select store texts) world).1.working = selected texts store.records := by
  rw [(marks_select faithful store texts).working, MarkedList.items_of_chain, selected,
    MarkedList.filter_range_eq_positions]

theorem items_select (faithful : world.Faithful) (store : Store) (texts : List String) :
    (run (select store texts) world).1.items =
      recordsAt (selected texts store.records) store.records := by
  rw [Query.items, working_select faithful, Query.records, backing_select]
  rfl

theorem count_select (faithful : world.Faithful) (store : Store) (texts : List String) :
    (run (select store texts) world).1.count =
      (recordsAt (selected texts store.records) store.records).length := by
  have marks := marks_select faithful store texts
  rw [marks.count, ← marks.items, items_select faithful]

theorem first?_select (faithful : world.Faithful) (store : Store) (texts : List String) :
    (run (select store texts) world).1.first? =
      (recordsAt (selected texts store.records) store.records).head? := by
  have marks := marks_select faithful store texts
  rw [marks.first?, ← marks.items, items_select faithful]

theorem keptRecords_select (faithful : world.Faithful) (store : Store) (texts : List String) :
    (run (select store texts) world).1.keptRecords =
      recordsBeside (selected texts store.records) store.records := by
  have unmet : ∀ i ∈ List.range store.records.length,
      decide (i ∉ selected texts store.records) =
        (store.records[i]?).any (fun record => !meets texts record) := by
    intro i inside
    have present := List.getElem?_eq_getElem (List.mem_range.1 inside)
    simp [present, mem_selected_iff_meets present]
  rw [(marks_select faithful store texts).keptRecords, recordsBeside, List.filter_congr unmet,
    recordsAt, MarkedList.filterMap_filter_range, MarkedList.records, MarkedList.delete,
    MarkedList.items_of_chain, List.filter_map, List.map_map]
  simp [Function.comp_def]

theorem patchedRecords_select (faithful : world.Faithful) (store : Store) (texts : List String)
    (patch : Json) : (run (select store texts) world).1.patchedRecords patch =
      patchedAt (selected texts store.records) patch store.records := by
  rw [(marks_select faithful store texts).patchedRecords, MarkedList.records, MarkedList.update,
    MarkedList.items_of_chain, patchedAt]
  apply List.ext_getElem?
  intro i
  rw [List.getElem?_mapIdx]
  cases present : store.records[i]? with
  | none => simp [present]
  | some record => simp [present, mem_selected_iff_meets present]

/-! What the commands do with the records that a chain selects. -/

theorem execute_find (faithful : world.Faithful) (store : Store) (texts : List String) :
    (run ((find texts).execute store) world).1 =
      (.ok (.items (recordsAt (selected texts store.records) store.records)), store) := by
  simp only [execute, run_bind, run_pure, items_select faithful, backing_select]

theorem execute_first (faithful : world.Faithful) (store : Store) (texts : List String) :
    (run ((first texts).execute store) world).1 =
      (.ok (.item (recordsAt (selected texts store.records) store.records).head?), store) := by
  simp only [execute, run_bind, run_pure, first?_select faithful, backing_select]

theorem execute_count (faithful : world.Faithful) (store : Store) (texts : List String) :
    (run ((count texts).execute store) world).1 =
      (.ok (.count (recordsAt (selected texts store.records) store.records).length), store) := by
  simp only [execute, run_bind, run_pure, count_select faithful, backing_select]

theorem store_of_update (faithful : world.Faithful) (store : Store) (patch : Json)
    (texts : List String) : (run ((update patch texts).execute store) world).1.2 =
      { store with
        records := patchedAt (selected texts store.records) patch store.records } := by
  simp only [execute, run_bind, run_pure, run_update, run_commit, RecordSet.sync,
    RecordSet.withRecords, patchedRecords_select faithful, backing_select]

theorem store_of_delete (faithful : world.Faithful) (store : Store) (texts : List String) :
    (run ((delete texts).execute store) world).1.2 =
      { store with records := recordsBeside (selected texts store.records) store.records } := by
  simp only [execute, run_bind, run_pure, run_delete, run_commit, RecordSet.sync,
    RecordSet.withRecords, keptRecords_select faithful, backing_select]

theorem outcome_of_update (faithful : world.Faithful) {store : Store} {patch : Json}
    {texts : List String}
    (fine : ∀ request ∈ requests ((update patch texts).execute store) world,
      request.failed = false) :
    (run ((update patch texts).execute store) world).1.1 =
      .ok (.updated (recordsAt (selected texts store.records) store.records).length) := by
  simp only [execute, requests_bind, requests_pure, List.append_nil, requests_update,
    List.forall_mem_append] at fine
  simp only [execute, run_bind, run_pure, run_update]
  rw [commit_of_requests fine.2, count_select faithful]
  rfl

theorem outcome_of_delete (faithful : world.Faithful) {store : Store} {texts : List String}
    (fine : ∀ request ∈ requests ((delete texts).execute store) world, request.failed = false) :
    (run ((delete texts).execute store) world).1.1 =
      .ok (.deleted (recordsAt (selected texts store.records) store.records).length) := by
  simp only [execute, requests_bind, requests_pure, List.append_nil, requests_delete,
    List.forall_mem_append] at fine
  simp only [execute, run_bind, run_pure, run_delete]
  rw [commit_of_requests fine.2, count_select faithful]
  rfl

end Console.Command
end RecordStore

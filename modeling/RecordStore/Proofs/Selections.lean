import Mathlib.Data.List.Induction
import RecordStore.Predicate
import RecordStore.Proofs.Caches

/-! Selections as marks. A query selects positions; a marked list carries the selection with the
records themselves, so that filtering clears marks, and deleting drops marked records without any
position shifting. The selected positions are exactly those of the marks, at all times. -/
namespace RecordStore

/-- Records, each with a mark or without, and the conditions that cleared marks. -/
structure MarkedList where
  items : List (Json × Bool)
  applied : List Condition

namespace MarkedList

def start (records : List Json) : MarkedList := ⟨records.map (·, true), []⟩

def records (m : MarkedList) : List Json := m.items.map Prod.fst

/-- Clears the marks of records that fail a test. -/
def narrow (m : MarkedList) (test : Json → Bool) : MarkedList :=
  { m with items := m.items.map fun (record, mark) => (record, mark && test record) }

/-- Clears the marks of records that fail a condition; a text that is no condition does nothing. -/
def filter (m : MarkedList) (raw : String) : MarkedList :=
  match Condition.parse? raw with
  | none => m
  | some condition =>
    { m.narrow condition.holds with applied := m.applied ++ [condition] }

def update (m : MarkedList) (patch : Json) : MarkedList :=
  { m with items := m.items.map fun (record, mark) =>
      (if mark then patch.patched record else record, mark) }

def delete (m : MarkedList) : MarkedList := { m with items := m.items.filter (!·.2) }

def marked (m : MarkedList) : List Json := (m.items.filter (·.2)).map Prod.fst

/-- The positions of the marks, counted from `start`. -/
def positions (start : Nat) : List (Json × Bool) → List Nat
  | [] => []
  | (_, true) :: rest => start :: positions (start + 1) rest
  | (_, false) :: rest => positions (start + 1) rest

variable {items : List (Json × Bool)}

theorem positions_start (records : List Json) (start : Nat) :
    positions start (records.map (·, true)) = List.range' start records.length := by
  induction records generalizing start with
  | nil => rfl
  | cons record rest ih => simp [positions, List.range'_succ, ih]

theorem le_of_mem_positions {start i : Nat} (present : i ∈ positions start items) : start ≤ i := by
  induction items generalizing start with
  | nil => cases present
  | cons item rest ih =>
    obtain ⟨record, mark⟩ := item
    cases mark with
    | false => exact Nat.le_of_succ_le (ih present)
    | true =>
      rcases List.mem_cons.1 present with rfl | present
      · exact Nat.le_refl _
      · exact Nat.le_of_succ_le (ih present)

theorem lt_of_mem_positions {start i : Nat} (present : i ∈ positions start items) :
    i < start + items.length := by
  induction items generalizing start with
  | nil => cases present
  | cons item rest ih =>
    obtain ⟨record, mark⟩ := item
    rw [List.length_cons]
    cases mark with
    | false =>
      have := ih present
      omega
    | true =>
      rcases List.mem_cons.1 present with rfl | present
      · omega
      · have := ih present
        omega

theorem pairwise_positions (start : Nat) : (positions start items).Pairwise (· < ·) := by
  induction items generalizing start with
  | nil => exact .nil
  | cons item rest ih =>
    obtain ⟨record, mark⟩ := item
    cases mark with
    | false => exact ih _
    | true =>
      apply List.Pairwise.cons
      · intro i present
        exact le_of_mem_positions present
      · exact ih _

theorem length_positions (start : Nat) :
    (positions start items).length = (items.filter (·.2)).length := by
  induction items generalizing start with
  | nil => rfl
  | cons item rest ih =>
    obtain ⟨record, mark⟩ := item
    cases mark <;> simp [positions, ih]

theorem contains_positions (start i : Nat) (inside : i < items.length) :
    (positions start items).contains (start + i) = items[i].2 := by
  induction items generalizing start i with
  | nil => cases inside
  | cons item rest ih =>
    obtain ⟨record, mark⟩ := item
    have later : start ∉ positions (start + 1) rest := by
      intro present
      exact Nat.not_succ_le_self _ (le_of_mem_positions present)
    cases i with
    | zero => cases mark <;> simp [positions, later]
    | succ i =>
      have next := ih (start + 1) i (by simpa using inside)
      rw [show start + 1 + i = start + (i + 1) by omega] at next
      cases mark <;> simp [positions] at next ⊢ <;> exact next

theorem filter_positions (before : List Json) (items : List (Json × Bool)) (test : Json → Bool) :
    (positions before.length items).filter
        (fun i => ((before ++ items.map Prod.fst)[i]?).any test) =
      positions before.length (items.map fun (record, mark) => (record, mark && test record)) := by
  induction items generalizing before with
  | nil => rfl
  | cons item rest ih =>
    obtain ⟨record, mark⟩ := item
    have tail := ih (before ++ [record])
    simp only [List.length_append, List.length_singleton, List.append_assoc,
      List.singleton_append] at tail
    cases mark with
    | false => simpa [positions] using tail
    | true => cases passed : test record <;> simp [positions, passed, tail]

theorem filterMap_positions (before : List Json) (items : List (Json × Bool)) :
    (positions before.length items).filterMap (fun i => (before ++ items.map Prod.fst)[i]?) =
      (items.filter (·.2)).map Prod.fst := by
  induction items generalizing before with
  | nil => rfl
  | cons item rest ih =>
    obtain ⟨record, mark⟩ := item
    have tail := ih (before ++ [record])
    simp only [List.length_append, List.length_singleton, List.append_assoc,
      List.singleton_append] at tail
    cases mark <;> simp [positions, tail]

/-- Changing records at the positions, one after the other, changes the marked records. -/
theorem foldl_modify_positions (before : List Json) (items : List (Json × Bool))
    (change : Json → Json) :
    (positions before.length items).foldl (fun records i => records.modify i change)
        (before ++ items.map Prod.fst) =
      before ++ items.map fun (record, mark) => if mark then change record else record := by
  induction items generalizing before with
  | nil => rfl
  | cons item rest ih =>
    obtain ⟨record, mark⟩ := item
    cases mark with
    | false =>
      have tail := ih (before ++ [record])
      simpa [positions] using tail
    | true =>
      have tail := ih (before ++ [change record])
      have here : (before ++ record :: rest.map Prod.fst).modify before.length change =
          before ++ change record :: rest.map Prod.fst := by
        simp [List.modify_eq_take_cons_drop]
      simpa [positions, here] using tail

/-- Erasing marked positions from the last to the first drops the marked records: what has been
passed over stands behind all positions still to come. -/
theorem foldl_eraseIdx_marked {chosen : Nat → Bool} (after : List Json)
    (marks : ∀ i (inside : i < items.length), chosen i = items[i].2) :
    (List.range items.length).reverse.foldl
        (fun records i => if chosen i then records.eraseIdx i else records)
        (items.map Prod.fst ++ after) =
      (items.filter (!·.2)).map Prod.fst ++ after := by
  -- The loop meets the last position first, so the induction takes items off the end.
  induction items using List.reverseRecOn generalizing after with
  | nil => rfl
  | append_singleton items item ih =>
    obtain ⟨record, mark⟩ := item
    have last : chosen items.length = mark := by simpa using marks items.length (by simp)
    have others : ∀ i (inside : i < items.length), chosen i = items[i].2 := by
      intro i inside
      have := marks i (by rw [List.length_append]; omega)
      rwa [List.getElem_append_left inside] at this
    have step := ih (if mark then after else record :: after) others
    simp only [List.length_append, List.length_singleton, List.range_succ, List.reverse_append,
      List.reverse_singleton, List.singleton_append, List.foldl_cons, last]
    cases mark with
    | true => simpa [List.eraseIdx_append_of_length_le] using step
    | false => simpa using step

theorem positions_unmarked (start : Nat) (unmarked : ∀ item ∈ items, item.2 = false) :
    positions start items = [] := by
  induction items generalizing start with
  | nil => rfl
  | cons item rest ih =>
    obtain ⟨first, others⟩ := List.forall_mem_cons.1 unmarked
    obtain ⟨record, mark⟩ := item
    cases first
    exact ih _ others

theorem positions_update (m : MarkedList) (patch : Json) (start : Nat) :
    positions start (m.update patch).items = positions start m.items := by
  obtain ⟨items, applied⟩ := m
  simp only [update]
  induction items generalizing start with
  | nil => rfl
  | cons item rest ih =>
    obtain ⟨record, mark⟩ := item
    cases mark <;> simp only [List.map_cons, positions, ih]

theorem positions_delete (m : MarkedList) (start : Nat) :
    positions start m.delete.items = [] := by
  apply positions_unmarked
  intro item present
  simpa using (List.mem_filter.1 present).2

end MarkedList

namespace Query
variable {R : Type} [RecordSet R]

def patchedRecords (q : Query R) (patch : Json) : List Json :=
  q.working.foldl (fun records i => records.modify i patch.patched) q.records

def keptRecords (q : Query R) : List Json :=
  (List.range q.records.length).reverse.foldl
    (fun records i => if q.working.contains i then records.eraseIdx i else records) q.records

section
variable {F : Type} [FileSystem F] (world : World F)

theorem backing_filter (q : Query R) (raw : String) :
    (World.run (q.filter raw) world).1.backing = q.backing := by
  simp only [filter, World.run_bind]
  cases (World.run (Action.condition? q.cache raw) world).1 <;> rfl

theorem backing_filterAll (q : Query R) (raws : List String) :
    (World.run (q.filterAll raws) world).1.backing = q.backing := by
  induction raws generalizing q world with
  | nil => rfl
  | cons raw rest ih =>
    simp only [filterAll, World.run_bind]
    rw [ih, backing_filter]

theorem run_commit (q : Query R) (records : List Json) (count : Nat) :
    World.run (q.commit records count) world =
      let synced := World.run (RecordSet.sync (RecordSet.withRecords q.backing records)) world
      ((synced.1.1.map fun _ => count, { q with backing := synced.1.2 }), synced.2) := by
  simp only [commit, World.run_bind, World.run_pure]

theorem run_update (q : Query R) (patch : Json) :
    World.run (q.update patch) world = World.run (q.commit (q.patchedRecords patch) q.count)
      { world with log := world.log ++ [.selectionUpdated q.count] } := rfl

theorem run_delete (q : Query R) :
    World.run q.delete world = World.run ({ q with working := [] }.commit q.keptRecords q.count)
      { world with log := world.log ++ [.selectionDeleted q.count] } := rfl

end

/-- Whether a query selects exactly the marked records of a list. -/
structure Marks (q : Query R) (m : MarkedList) : Prop where
  records : q.records = m.records
  working : q.working = MarkedList.positions 0 m.items
  applied : q.applied.map (·.condition) = m.applied

theorem marks_start (backing : R) (cache : CacheId) :
    (Query.start backing cache).Marks (MarkedList.start (RecordSet.records backing)) where
  records := by
    simp [Query.records, Query.start, MarkedList.records, MarkedList.start, Function.comp_def]
  working := by
    simp [Query.start, MarkedList.start, MarkedList.positions_start, List.range_eq_range']
  applied := rfl

namespace Marks
variable {q : Query R} {m : MarkedList}

theorem ascending (marks : q.Marks m) : q.working.Pairwise (· < ·) := by
  rw [marks.working]
  exact MarkedList.pairwise_positions 0

theorem inRange (marks : q.Marks m) : ∀ i ∈ q.working, i < q.records.length := by
  intro i present
  rw [marks.working] at present
  have inside := MarkedList.lt_of_mem_positions present
  rw [marks.records, MarkedList.records, List.length_map]
  omega

theorem filterBy (marks : q.Marks m) (test : Json → Bool) :
    (q.filterBy test).Marks (m.narrow test) where
  records := by
    rw [show (q.filterBy test).records = q.records from rfl, marks.records]
    simp [MarkedList.records, MarkedList.narrow, Function.comp_def]
  working := by
    have filtered := MarkedList.filter_positions [] m.items test
    simp only [List.nil_append, List.length_nil] at filtered
    simp only [Query.filterBy, marks.records, marks.working]
    exact filtered
  applied := marks.applied

theorem filter (marks : q.Marks m) {F : Type} [FileSystem F] {world : World F}
    (faithful : world.Faithful) (raw : String) :
    (World.run (q.filter raw) world).1.Marks (m.filter raw) := by
  have parsed := faithful.condition? q.cache raw
  simp only [Query.filter, World.run_bind]
  cases found : (World.run (Action.condition? q.cache raw) world).1 with
  | none =>
    rw [found] at parsed
    rw [MarkedList.filter, ← parsed]
    exact marks
  | some cached =>
    rw [found] at parsed
    rw [MarkedList.filter, ← parsed]
    obtain ⟨records, working, applied⟩ := marks.filterBy cached.condition.holds
    refine ⟨records, working, ?_⟩
    simp [marks.applied]

theorem items (marks : q.Marks m) : q.items = m.marked := by
  have selected := MarkedList.filterMap_positions [] m.items
  simp only [List.nil_append, List.length_nil] at selected
  simp only [Query.items, marks.records, marks.working]
  exact selected

theorem count (marks : q.Marks m) : q.count = m.marked.length := by
  rw [Query.count, marks.working, MarkedList.length_positions, MarkedList.marked, List.length_map]

theorem first? (marks : q.Marks m) : q.first? = m.marked.head? := by
  rw [← marks.items, Query.first?, Query.items]
  cases selected : q.working with
  | nil => rfl
  | cons i rest =>
    have inside : i < q.records.length := marks.inRange i (by simp [selected])
    simp [inside]

theorem patchedRecords (marks : q.Marks m) (patch : Json) :
    q.patchedRecords patch = (m.update patch).records := by
  have changed := MarkedList.foldl_modify_positions [] m.items patch.patched
  simp only [List.nil_append, List.length_nil] at changed
  simp only [Query.patchedRecords, marks.records, marks.working]
  rw [MarkedList.records, changed]
  simp [MarkedList.records, MarkedList.update, Function.comp_def]

theorem keptRecords (marks : q.Marks m) : q.keptRecords = m.delete.records := by
  have marked : ∀ i (inside : i < m.items.length), q.working.contains i = m.items[i].2 := by
    intro i inside
    have := MarkedList.contains_positions 0 i inside
    rwa [Nat.zero_add, ← marks.working] at this
  have kept := MarkedList.foldl_eraseIdx_marked [] marked
  simp only [List.append_nil] at kept
  rw [Query.keptRecords, marks.records, MarkedList.records, List.length_map, kept]
  rfl

end Marks
end Query
end RecordStore

import RecordStore.Proofs.Selections
import RecordStore.Storage.Disk

/-! Runs of queries. However filters, reads, patches and deletions follow each other, a query on a
set of records does what a marked list does, and hands its records over once for every patch or
deletion. Whether that succeeds is told by the result of the step and by nothing else. -/
namespace RecordStore

/-- Sets of records that hold what they were given, also when it cannot be handed over. -/
class LawfulRecordSet (R : Type) [RecordSet R] : Prop where
  records_withRecords (backing : R) (records : List Json) :
    RecordSet.records (RecordSet.withRecords backing records) = records
  records_sync {F : Type} [FileSystem F] (world : World F) (backing : R) :
    RecordSet.records (World.run (RecordSet.sync backing) world).1.2 = RecordSet.records backing

instance : LawfulRecordSet (List Json) where
  records_withRecords _ _ := rfl
  records_sync _ _ := rfl

/-- What came of handing records over. -/
abbrev Answer := Except StoreError Unit

/-- A set of records with all that came of handing it over. -/
structure Watched (R : Type) where
  inner : R
  answers : List Answer

namespace Watched
variable {R : Type} [RecordSet R]

instance : RecordSet (Watched R) where
  records set := RecordSet.records set.inner
  withRecords set records := { set with inner := RecordSet.withRecords set.inner records }
  sync set := do
    let (answer, inner) ← RecordSet.sync set.inner
    return (answer, ⟨inner, set.answers ++ [answer]⟩)

instance [LawfulRecordSet R] : LawfulRecordSet (Watched R) where
  records_withRecords set records := LawfulRecordSet.records_withRecords set.inner records
  records_sync world set := by
    simp only [RecordSet.sync, World.run_bind, World.run_pure]
    exact LawfulRecordSet.records_sync world set.inner

end Watched

/-- A set of records whose handing over is rehearsed: it comes to the given answers, one after the
other, and goes well when there are no more. -/
structure Rehearsed where
  records : List Json
  answers : List Answer

namespace Rehearsed

instance : RecordSet Rehearsed where
  records := records
  withRecords set records := { set with records := records }
  sync set := return (set.answers.headD (.ok ()), { set with answers := set.answers.tail })

instance : LawfulRecordSet Rehearsed where
  records_withRecords _ _ := rfl
  records_sync _ _ := rfl

end Rehearsed

namespace Query

inductive Step where
  | filter (raw : String)
  | filterBy (test : Json → Bool)
  | get
  | first
  | count
  | update (patch : Json)
  | delete

inductive Reply where
  | narrowed
  | items (records : List Json)
  | item (record : Option Json)
  | number (records : Nat)
  | changed (outcome : Except StoreError Nat)

variable {R : Type} [RecordSet R]

def perform (q : Query R) : Step → Action (Reply × Query R)
  | .filter raw => return (.narrowed, ← q.filter raw)
  | .filterBy test => return (.narrowed, q.filterBy test)
  | .get => return (.items q.items, q)
  | .first => return (.item q.first?, q)
  | .count => return (.number q.count, q)
  | .update patch => do
    let (outcome, q) ← q.update patch
    return (.changed outcome, q)
  | .delete => do
    let (outcome, q) ← q.delete
    return (.changed outcome, q)

def performAll (q : Query R) : List Step → Action (List Reply × Query R)
  | [] => return ([], q)
  | step :: rest => do
    let (reply, q) ← q.perform step
    let (replies, q) ← q.performAll rest
    return (reply :: replies, q)

end Query

namespace MarkedList
open Query (Step Reply)

def after (m : MarkedList) : Step → MarkedList
  | .filter raw => m.filter raw
  | .filterBy test => m.narrow test
  | .get | .first | .count => m
  | .update patch => m.update patch
  | .delete => m.delete

/-- What a step comes to on a marked list. A patch or a deletion takes the first of the answers to
come, and needs one; other steps take none. -/
def step (m : MarkedList) (answers : List Answer) (s : Step) :
    Option ((Reply × MarkedList) × List Answer) :=
  match s, answers with
  | .update _, answer :: later | .delete, answer :: later =>
    some ((.changed (answer.map fun _ => m.marked.length), m.after s), later)
  | .update _, [] | .delete, [] => none
  | .filter _, answers | .filterBy _, answers => some ((.narrowed, m.after s), answers)
  | .get, answers => some ((.items m.marked, m.after s), answers)
  | .first, answers => some ((.item m.marked.head?, m.after s), answers)
  | .count, answers => some ((.number m.marked.length, m.after s), answers)

/-- What steps come to on a marked list, with the answers that are left. -/
def steps (m : MarkedList) (answers : List Answer) :
    List Step → Option ((List Reply × MarkedList) × List Answer)
  | [] => some (([], m), answers)
  | step :: rest => do
    let ((reply, m), answers) ← m.step answers step
    let ((replies, m), answers) ← m.steps answers rest
    return ((reply :: replies, m), answers)

end MarkedList

namespace Query
variable {R F : Type} [RecordSet R] [FileSystem F] (world : World F) {m : MarkedList}

/-- One step of a query comes to what that step of the marked list comes to, given the answers it
adds. -/
theorem Marks.answers_perform {q : Query (Watched R)} (marks : q.Marks m) (step : Step) :
    ∃ added, (World.run (q.perform step) world).1.2.backing.answers = q.backing.answers ++ added ∧
      ∀ later, m.step (added ++ later) step =
        some (((World.run (q.perform step) world).1.1, m.after step), later) := by
  cases step with
  | filter raw =>
    simp only [Query.perform, World.run_bind, World.run_pure, backing_filter]
    exact ⟨[], (List.append_nil _).symm, fun later => rfl⟩
  | filterBy test => exact ⟨[], (List.append_nil _).symm, fun later => rfl⟩
  | get =>
    refine ⟨[], (List.append_nil _).symm, ?_⟩
    intro later
    simp only [Query.perform, World.run_pure, marks.items]
    rfl
  | first =>
    refine ⟨[], (List.append_nil _).symm, ?_⟩
    intro later
    simp only [Query.perform, World.run_pure, marks.first?]
    rfl
  | count =>
    refine ⟨[], (List.append_nil _).symm, ?_⟩
    intro later
    simp only [Query.perform, World.run_pure, marks.count]
    rfl
  | update patch =>
    simp only [Query.perform, World.run_bind, World.run_pure, run_update, run_commit,
      RecordSet.sync, marks.count]
    exact ⟨_, rfl, fun later => rfl⟩
  | delete =>
    simp only [Query.perform, World.run_bind, World.run_pure, run_delete, run_commit,
      RecordSet.sync, marks.count]
    exact ⟨_, rfl, fun later => rfl⟩

variable [LawfulRecordSet R]

theorem records_commit (q : Query R) (records : List Json) (count : Nat) :
    (World.run (q.commit records count) world).1.2.records = records := by
  simp only [run_commit, Query.records]
  rw [LawfulRecordSet.records_sync, LawfulRecordSet.records_withRecords]

theorem Marks.update {q : Query R} (marks : q.Marks m) (patch : Json) :
    (World.run (q.update patch) world).1.2.Marks (m.update patch) where
  records := by rw [run_update, records_commit, marks.patchedRecords]
  working := by
    rw [run_update, run_commit, MarkedList.positions_update]
    exact marks.working
  applied := by
    rw [run_update, run_commit]
    exact marks.applied

theorem Marks.delete {q : Query R} (marks : q.Marks m) :
    (World.run q.delete world).1.2.Marks m.delete where
  records := by rw [run_delete, records_commit, marks.keptRecords]
  working := by
    rw [run_delete, run_commit, MarkedList.positions_delete]
  applied := by
    rw [run_delete, run_commit]
    exact marks.applied

theorem Marks.perform {world : World F} {q : Query R} (marks : q.Marks m)
    (faithful : world.Faithful) (step : Step) :
    (World.run (q.perform step) world).1.2.Marks (m.after step) := by
  cases step with
  | filter raw =>
    simp only [Query.perform, World.run_bind, World.run_pure]
    exact marks.filter faithful raw
  | filterBy test => exact marks.filterBy test
  | get | first | count => exact marks
  | update patch =>
    simp only [Query.perform, World.run_bind, World.run_pure]
    exact marks.update world patch
  | delete =>
    simp only [Query.perform, World.run_bind, World.run_pure]
    exact marks.delete world

theorem Marks.performAll {world : World F} {q : Query (Watched R)} (marks : q.Marks m)
    (faithful : world.Faithful) (steps : List Step) :
    let result := World.run (q.performAll steps) world
    ∃ added after, result.1.2.backing.answers = q.backing.answers ++ added ∧
      (∀ later, m.steps (added ++ later) steps = some ((result.1.1, after), later)) ∧
      result.1.2.Marks after := by
  induction steps generalizing q m world with
  | nil => exact ⟨[], m, (List.append_nil _).symm, fun later => rfl, marks⟩
  | cons step rest ih =>
    -- Answers are only added, so those of this step come before those of the rest.
    obtain ⟨first, answers, taken⟩ := marks.answers_perform world step
    obtain ⟨others, after, more, run, marks⟩ :=
      ih (marks.perform faithful step) (faithful.run (q.perform step))
    simp only [Query.performAll, World.run_bind, World.run_pure]
    refine ⟨first ++ others, after, ?_, ?_, marks⟩
    · rw [more, answers, List.append_assoc]
    · intro later
      rw [MarkedList.steps, List.append_assoc, taken]
      simp only [bind, Option.bind, run]
      rfl

/-- A query does what a marked list does, in every result, in the conditions applied and in all
records, whatever comes of handing them over. It hands them over exactly once for each patch and
each deletion, and the results of these tell what came of it. The positions it selects ascend, and
none is ever out of range. -/
theorem performAll_refines {R F : Type} [RecordSet R] [LawfulRecordSet R] [FileSystem F]
    {world : World F} (reachable : world.Reachable) (backing : R) (cache : CacheId)
    (steps : List Step) :
    let result := World.run ((start (Watched.mk backing []) cache).performAll steps) world
    ∃ m, (MarkedList.start (RecordSet.records backing)).steps result.1.2.backing.answers steps =
        some ((result.1.1, m), []) ∧
      result.1.2.records = m.records ∧ result.1.2.items = m.marked ∧
      result.1.2.applied.map (·.condition) = m.applied ∧
      result.1.2.working.Pairwise (· < ·) ∧
      ∀ i ∈ result.1.2.working, i < result.1.2.records.length := by
  have marks := marks_start (Watched.mk backing []) cache
  obtain ⟨added, m, answers, run, marks⟩ := marks.performAll reachable.faithful steps
  refine ⟨m, ?_, marks.records, marks.items, marks.applied, marks.ascending, marks.inRange⟩
  have whole := run []
  rw [List.append_nil] at whole
  rw [answers]
  exact whole

theorem performAll_refines_failing :
    let record (n : Int) (fits : -9223372036854775808 ≤ n ∧ n < 18446744073709551616) : Json :=
      .object [("a", .number (.integer n fits))]
    let backing : Rehearsed :=
      ⟨[record 1 (by decide), record 2 (by decide)], [.error (.io .notFound), .ok ()]⟩
    let steps : List Step := [.filter "a = 2", .update (record 3 (by decide)), .count,
      .filter "a < 3", .delete, .get]
    let result := World.run ((start (Watched.mk backing []) .shared).performAll steps)
      (World.start Disk.empty)
    result.1.2.backing.answers = [.error (.io .notFound), .ok ()] ∧
      ∃ m, (MarkedList.start backing.records).steps [.error (.io .notFound), .ok ()] steps =
        some ((result.1.1, m), []) ∧ result.1.2.records = m.records := by
  intro record backing steps result
  have answers : result.1.2.backing.answers = [.error (.io .notFound), .ok ()] := by decide +kernel
  obtain ⟨m, run, records, -⟩ := performAll_refines (.start Disk.empty) backing .shared steps
  exact ⟨answers, m, answers ▸ run, records⟩

end Query
end RecordStore

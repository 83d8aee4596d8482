import RecordStore.Proofs.QueryRuns
import RecordStore.Proofs.Requests

/-! Runs of a store whose writes may fail. What is in memory after a step depends on the steps
alone, never on what came of the writes; and each write that succeeds brings the document up to date
with everything in memory, changes included that could not be written before. -/
namespace RecordStore

open World

namespace Store

instance : LawfulRecordSet Store where
  records_withRecords _ _ := rfl
  records_sync world store := by simp only [RecordSet.sync, run_bind, run_pure]

def patchedWhere (records : List Json) (patch : Json) (condition : Condition) : List Json :=
  records.map fun record => if condition.holds record then patch.patched record else record

def keptWhere (records : List Json) (condition : Condition) : List Json :=
  records.filter (!condition.holds ·)

/-- Changes records by a condition text: what updating and deleting by one have in common. -/
def changeWhere (store : Store) (raw : String) (change : Condition → List Json)
    (event : Condition → Event) (count : Condition → Nat) :
    Action (Except StoreError Nat × Store) := do
  match ← Action.condition? store.cache raw with
  | none => return (.ok 0, store)
  | some cached =>
    Action.report (event cached.condition)
    let (outcome, store) ← store.replace (change cached.condition)
    return (outcome.map fun _ => count cached.condition, store)

section
variable {F : Type} [FileSystem F] {world : World F} (store : Store) {raw : String}
variable (change : Condition → List Json) (event : Condition → Event) (count : Condition → Nat)

theorem changeWhere_of_none (faithful : world.Faithful)
    (unparsed : Condition.parse? raw = none) :
    (run (store.changeWhere raw change event count) world).1 = (.ok 0, store) ∧
      (run (store.changeWhere raw change event count) world).2.files = world.files ∧
      requests (store.changeWhere raw change event count) world = [] := by
  have asked := faithful.condition? store.cache raw
  rw [unparsed, Option.map_eq_none_iff] at asked
  simp only [changeWhere, run_bind, requests_bind, requests_condition?, asked, run_pure,
    requests_pure, files_condition?, List.append_nil, and_self]

theorem changeWhere_of_some (faithful : world.Faithful) {condition : Condition}
    (parsed : Condition.parse? raw = some condition) :
    ∃ before : World F,
      let replaced := run (store.replace (change condition)) before
      run (store.changeWhere raw change event count) world =
        ((replaced.1.1.map fun _ => count condition, replaced.1.2), replaced.2) ∧
      requests (store.changeWhere raw change event count) world =
        requests (store.replace (change condition)) before := by
  have asked := faithful.condition? store.cache raw
  rw [parsed, Option.map_eq_some_iff] at asked
  obtain ⟨cached, found, rfl⟩ := asked
  simp only [changeWhere, run_bind, requests_bind, requests_condition?, found, run_pure,
    requests_pure, run_report, requests_report, List.nil_append, List.append_nil]
  exact ⟨_, rfl, rfl⟩

end

/-- What can be done with a store, and with the query that is open on it. -/
inductive Operation where
  | insert (record : Json)
  | insertMany (records : List Json)
  | updateWhere (raw : String) (patch : Json)
  | deleteWhere (raw : String)
  | clear
  | openQuery
  | step (step : Query.Step)

inductive Reply where
  | stored (outcome : Except StoreError Unit)
  | changed (outcome : Except StoreError Nat)
  | opened
  | query (reply : Query.Reply)

def Reply.failed : Reply → Bool
  | stored outcome => !outcome.isOk
  | changed outcome | query (.changed outcome) => !outcome.isOk
  | _ => false

namespace Operation

/-- Whether an operation changes records, and so writes the document. -/
def changes : Operation → Bool
  | insert _ | insertMany _ | clear | step (.update _) | step .delete => true
  | updateWhere raw _ | deleteWhere raw => (Condition.parse? raw).isSome
  | openQuery | step _ => false

def text? : Operation → Option String
  | updateWhere raw _ | deleteWhere raw => some raw
  | _ => none

/-- Performs an operation. A query stays open through its own steps; any other operation leaves a
new one. -/
def perform (q : Query Store) : Operation → Action (Reply × Query Store)
  | insert record => do
    let (outcome, store) ← q.backing.insert record
    return (.stored outcome, store.query)
  | insertMany records => do
    let (outcome, store) ← q.backing.insertMany records
    return (.stored outcome, store.query)
  | updateWhere raw patch => do
    let (outcome, store) ← q.backing.updateWhere raw patch
    return (.changed outcome, store.query)
  | deleteWhere raw => do
    let (outcome, store) ← q.backing.deleteWhere raw
    return (.changed outcome, store.query)
  | clear => do
    let (outcome, store) ← q.backing.clear
    return (.stored outcome, store.query)
  | openQuery => return (.opened, q.backing.query)
  | step inner => do
    let (reply, q) ← q.perform inner
    return (.query reply, q)

def performAll (q : Query Store) : List Operation → Action (Query Store)
  | [] => return q
  | operation :: rest => do
    let (_, q) ← operation.perform q
    performAll q rest

/-- What an operation leaves in memory, whatever comes of writing it. -/
def after (m : MarkedList) : Operation → MarkedList
  | insert record => .start (m.records ++ [record])
  | insertMany records => .start (m.records ++ records)
  | updateWhere raw patch =>
    match Condition.parse? raw with
    | none => .start m.records
    | some condition => .start (patchedWhere m.records patch condition)
  | deleteWhere raw =>
    match Condition.parse? raw with
    | none => .start m.records
    | some condition => .start (keptWhere m.records condition)
  | clear => .start []
  | openQuery => .start m.records
  | step inner => m.after inner

def afterAll (m : MarkedList) (operations : List Operation) : MarkedList :=
  operations.foldl after m

variable {F : Type} [FileSystem F] {world : World F} {q : Query Store} {m : MarkedList}

theorem changes_of_conditional {operation : Operation} {raw : String}
    (conditional : operation.text? = some raw) :
    operation.changes = (Condition.parse? raw).isSome := by
  cases operation with
  | updateWhere | deleteWhere =>
    cases conditional
    rfl
  | _ => cases conditional

/-- Updating and deleting by a condition text differ in the change alone. -/
theorem exists_changeWhere (q : Query Store) {operation : Operation} {raw : String}
    (conditional : operation.text? = some raw) :
    ∃ (change : Condition → List Json) (event : Condition → Event) (count : Condition → Nat),
      operation.perform q = (do
        let (outcome, store) ← q.backing.changeWhere raw change event count
        return (.changed outcome, store.query)) ∧
      ∀ m : MarkedList, q.backing.records = m.records → after m operation =
        match Condition.parse? raw with
        | none => .start m.records
        | some condition => .start (change condition) := by
  cases operation with
  | updateWhere text patch =>
    cases conditional
    refine ⟨patchedWhere q.backing.records patch,
      fun condition => .updatedWhere condition (q.backing.records.countP condition.holds),
      fun condition => q.backing.records.countP condition.holds, rfl, ?_⟩
    intro m same
    rw [same]
    rfl
  | deleteWhere text =>
    cases conditional
    refine ⟨keptWhere q.backing.records,
      fun condition => .deletedWhere condition
        (q.backing.size - (keptWhere q.backing.records condition).length),
      fun condition => q.backing.size - (keptWhere q.backing.records condition).length, rfl, ?_⟩
    intro m same
    rw [same]
    rfl
  | _ => cases conditional

/-- Going by a text that is no condition changes nothing, which counts as a success. -/
theorem perform_of_unparsed (faithful : world.Faithful) {operation : Operation} {raw : String}
    (conditional : operation.text? = some raw) (unparsed : Condition.parse? raw = none) :
    (run (operation.perform q) world).1 = (.changed (.ok 0), q.backing.query) ∧
      (run (operation.perform q) world).2.files = world.files ∧
      requests (operation.perform q) world = [] ∧
      ∀ m : MarkedList, q.backing.records = m.records →
        after m operation = .start m.records := by
  obtain ⟨change, event, count, performs, left⟩ := exists_changeWhere q conditional
  obtain ⟨result, files, requested⟩ :=
    changeWhere_of_none q.backing change event count faithful unparsed
  rw [unparsed] at left
  simp only [performs, run_bind, requests_bind, run_pure, requests_pure, result, requested,
    List.append_nil, true_and]
  exact ⟨files, left⟩

/-- Going by a condition replaces the records by what the marked list says. -/
theorem perform_of_parsed (faithful : world.Faithful) {operation : Operation} {raw : String}
    (conditional : operation.text? = some raw) {condition : Condition}
    (parsed : Condition.parse? raw = some condition) :
    ∃ (records : List Json) (count : Nat) (before : World F),
      let replaced := run (q.backing.replace records) before
      run (operation.perform q) world =
        ((.changed (replaced.1.1.map fun _ => count), replaced.1.2.query), replaced.2) ∧
      requests (operation.perform q) world = requests (q.backing.replace records) before ∧
      ∀ m : MarkedList, q.backing.records = m.records → after m operation = .start records := by
  obtain ⟨change, event, count, performs, left⟩ := exists_changeWhere q conditional
  obtain ⟨before, ran, requested⟩ :=
    changeWhere_of_some q.backing change event count faithful parsed
  rw [parsed] at left
  simp only [performs, run_bind, requests_bind, run_pure, requests_pure, ran, requested,
    List.append_nil]
  exact ⟨change condition, count condition, before, rfl, rfl, left⟩

/-- An operation leaves in memory what it does by itself: no outcome of a write has a part in it. -/
theorem marks_perform (marks : q.Marks m) (faithful : world.Faithful) (operation : Operation) :
    (run (operation.perform q) world).1.2.Marks (after m operation) := by
  have records : q.backing.records = m.records := marks.records
  have opened (records : List Json) :
      ({ q.backing with records := records } : Store).query.Marks (.start records) :=
    Query.marks_start _ _
  cases conditional : operation.text? with
  | some raw =>
    cases parsed : Condition.parse? raw with
    | none =>
      obtain ⟨ran, -, -, left⟩ := perform_of_unparsed (q := q) faithful conditional parsed
      rw [ran, left m records, ← records]
      exact opened _
    | some condition =>
      obtain ⟨changed, count, before, ran, -, left⟩ :=
        perform_of_parsed (q := q) faithful conditional parsed
      rw [ran, left m records, run_replace]
      exact opened changed
  | none =>
    cases operation with
    | updateWhere | deleteWhere => cases conditional
    | insert record | insertMany =>
      simp only [perform, Store.insert, Store.insertMany, run_bind, run_replace, run_pure, after,
        records]
      exact opened _
    | clear =>
      simp only [perform, Store.clear, run_bind, run_replace, run_pure]
      exact opened []
    | openQuery =>
      simp only [perform, run_pure, after, ← records]
      exact opened _
    | step inner =>
      simp only [perform, run_bind, run_pure]
      exact marks.perform faithful inner

theorem marks_performAll (marks : q.Marks m) (faithful : world.Faithful)
    (operations : List Operation) :
    (run (performAll q operations) world).1.Marks (afterAll m operations) := by
  induction operations generalizing q m world with
  | nil => exact marks
  | cons operation rest ih =>
    simp only [performAll, run_bind]
    exact ih (marks_perform marks faithful operation) (faithful.run _)

/-- An operation that changes records deals with files as persisting the changed store does, and
fails if that does. -/
theorem perform_of_changes (faithful : world.Faithful) {operation : Operation}
    (changing : operation.changes = true) :
    ∃ (records : List Json) (before : World F),
      let changed : Store := { q.backing with records := records }
      (run (operation.perform q) world).1.2.backing = changed ∧
      (run (operation.perform q) world).2 = (run changed.persist before).2 ∧
      requests (operation.perform q) world = requests changed.persist before ∧
      (run (operation.perform q) world).1.1.failed = !(run changed.persist before).1.isOk := by
  have counted (outcome : Except StoreError Unit) (n : Nat) :
      (outcome.map fun _ => n).isOk = outcome.isOk := by
    cases outcome <;> rfl
  cases conditional : operation.text? with
  | some raw =>
    rw [changes_of_conditional conditional] at changing
    obtain ⟨condition, parsed⟩ := Option.isSome_iff_exists.1 changing
    obtain ⟨records, count, before, ran, requested, -⟩ :=
      perform_of_parsed (q := q) faithful conditional parsed
    rw [ran, requested, run_replace, requests_replace]
    exact ⟨records, before, rfl, rfl, rfl, congrArg (!·) (counted _ count)⟩
  | none =>
    cases operation with
    | updateWhere | deleteWhere => cases conditional
    | insert record | insertMany =>
      simp only [perform, Store.insert, Store.insertMany, run_bind, requests_bind, run_replace,
        requests_replace, run_pure, requests_pure, List.append_nil]
      exact ⟨_, _, rfl, rfl, rfl, rfl⟩
    | clear =>
      simp only [perform, Store.clear, run_bind, requests_bind, run_replace, requests_replace,
        run_pure, requests_pure, List.append_nil]
      exact ⟨_, _, rfl, rfl, rfl, rfl⟩
    | openQuery => cases changing
    | step inner =>
      cases inner with
      | filter | filterBy | get | first | count => cases changing
      | update patch =>
        simp only [perform, Query.perform, run_bind, requests_bind, Query.run_update,
          Query.run_commit, requests_update, requests_commit, RecordSet.sync, RecordSet.withRecords,
          run_pure, requests_pure, List.append_nil, Reply.failed, counted]
        exact ⟨_, _, rfl, rfl, rfl, rfl⟩
      | delete =>
        simp only [perform, Query.perform, run_bind, requests_bind, Query.run_delete,
          Query.run_commit, requests_delete, requests_commit, RecordSet.sync, RecordSet.withRecords,
          run_pure, requests_pure, List.append_nil, Reply.failed, counted]
        exact ⟨_, _, rfl, rfl, rfl, rfl⟩

/-- Any other operation leaves the records and the files alone, and never fails. -/
theorem perform_of_idle (faithful : world.Faithful) {operation : Operation}
    (idle : operation.changes = false) :
    (run (operation.perform q) world).1.2.backing = q.backing ∧
      (run (operation.perform q) world).2.files = world.files ∧
      requests (operation.perform q) world = [] ∧
      (run (operation.perform q) world).1.1.failed = false := by
  cases conditional : operation.text? with
  | some raw =>
    rw [changes_of_conditional conditional] at idle
    have unparsed : Condition.parse? raw = none := Option.isNone_iff_eq_none.1 (by simpa using idle)
    obtain ⟨ran, files, requested, -⟩ := perform_of_unparsed (q := q) faithful conditional unparsed
    rw [ran]
    exact ⟨rfl, files, requested, rfl⟩
  | none =>
    cases operation with
    | updateWhere | deleteWhere => cases conditional
    | insert | insertMany | clear => cases idle
    | openQuery => exact ⟨rfl, rfl, rfl, rfl⟩
    | step inner =>
      cases inner with
      | update | delete => cases idle
      | filterBy | get | first | count => exact ⟨rfl, rfl, rfl, rfl⟩
      | filter raw =>
        simp only [perform, Query.perform, run_bind, requests_bind, run_pure, requests_pure,
          Query.backing_filter, files_filter, requests_filter, List.append_nil, true_and]
        rfl

theorem backing_perform (faithful : world.Faithful) (operation : Operation) :
    ∃ records, (run (operation.perform q) world).1.2.backing =
      { q.backing with records := records } := by
  cases changing : operation.changes with
  | true =>
    obtain ⟨records, -, same, -⟩ := perform_of_changes (q := q) faithful changing
    exact ⟨records, same⟩
  | false => exact ⟨q.backing.records, (perform_of_idle faithful changing).1⟩

theorem backing_performAll (faithful : world.Faithful) (operations : List Operation) :
    ∃ records, (run (performAll q operations) world).1.backing =
      { q.backing with records := records } := by
  induction operations generalizing q world with
  | nil => exact ⟨q.backing.records, rfl⟩
  | cons operation rest ih =>
    obtain ⟨records, same⟩ := backing_perform (q := q) faithful operation
    obtain ⟨later, more⟩ := ih (q := (run (operation.perform q) world).1.2)
      (faithful.run (operation.perform q))
    simp only [performAll, run_bind]
    rw [more, same]
    exact ⟨later, rfl⟩

/-- An operation fails exactly if one of its requests does. -/
theorem failed_iff (faithful : world.Faithful) (operation : Operation) :
    (run (operation.perform q) world).1.1.failed = true ↔
      ∃ request ∈ requests (operation.perform q) world, request.failed = true := by
  cases changing : operation.changes with
  | true =>
    obtain ⟨records, before, -, -, requested, failed⟩ :=
      perform_of_changes (q := q) faithful changing
    rw [requested, failed, Bool.not_eq_true']
    exact failed_of_persist before _ _ _
  | false =>
    obtain ⟨-, -, requested, failed⟩ := perform_of_idle (q := q) faithful changing
    simp [requested, failed]

/-- Whatever an operation writes is all of memory, as it is afterwards. -/
theorem write_of_perform (faithful : world.Faithful) (operation : Operation)
    {target text : String} {answer : Except IoError Unit}
    (wrote : .write target text answer ∈ requests (operation.perform q) world) :
    target = q.backing.path ∧ text = Document.encode
      (run (operation.perform q) world).1.2.records q.backing.settings := by
  cases changing : operation.changes with
  | true =>
    obtain ⟨records, before, same, -, requested, -⟩ :=
      perform_of_changes (q := q) faithful changing
    rw [requested] at wrote
    rw [Query.records, same]
    exact write_of_persist before wrote
  | false =>
    rw [(perform_of_idle (q := q) faithful changing).2.2.1] at wrote
    cases wrote

/-- A change that is not reported as failed was written, and the file holds all of memory. -/
theorem written_of_perform [LawfulFileSystem F] (faithful : world.Faithful)
    {operation : Operation} (changing : operation.changes = true)
    (fine : (run (operation.perform q) world).1.1.failed = false) :
    .write q.backing.path (Document.encode
        (run (operation.perform q) world).1.2.records q.backing.settings) (.ok ()) ∈
      requests (operation.perform q) world ∧
    FileSystem.read (run (operation.perform q) world).2.files q.backing.path =
      .ok (Document.encode (run (operation.perform q) world).1.2.records q.backing.settings) := by
  obtain ⟨records, before, same, after, requested, failed⟩ :=
    perform_of_changes (q := q) faithful changing
  rw [failed, Bool.not_eq_false'] at fine
  rw [requested, after, Query.records, same]
  refine ⟨written_of_persist before fine, agrees_of_persist before ?_⟩
  cases persisted : (run { q.backing with records := records }.persist before).1 with
  | error =>
    rw [persisted] at fine
    cases fine
  | ok => rfl

/-- After any run of a store, with any of its writes failing, one more operation on it. If it
changes records and reports no failure, then it wrote everything in memory, and that is what the
file holds. What is in memory is the same as in any other run of the same operations. It reports a
failure exactly if one of its own requests failed, and writes nothing but all records. A text that
is no condition updates and deletes nothing and requests nothing. -/
theorem agrees_of_perform {F : Type} [FileSystem F] [LawfulFileSystem F]
    {world opened done : World F} (reachable : world.Reachable) (store : Store)
    (earlier : List Operation) (operation : Operation) {q changed : Query Store} {reply : Reply}
    (ran : run (performAll store.query earlier) world = (q, opened))
    (performed : run (operation.perform q) opened = ((reply, changed), done)) :
    (operation.changes = true → reply.failed = false →
      .write store.path (Document.encode changed.records store.settings) (.ok ()) ∈
        requests (operation.perform q) opened ∧
      FileSystem.read done.files store.path =
        .ok (Document.encode changed.records store.settings)) ∧
    (∀ {G : Type} [FileSystem G] (other : World G), other.Reachable →
      (run (performAll store.query (earlier ++ [operation])) other).1.records =
        changed.records) ∧
    (reply.failed = true ↔
      ∃ request ∈ requests (operation.perform q) opened, request.failed = true) ∧
    (∀ target text answer, .write target text answer ∈ requests (operation.perform q) opened →
      target = store.path ∧ text = Document.encode changed.records store.settings) ∧
    (operation.changes = false →
      requests (operation.perform q) opened = [] ∧ changed.records = q.records) ∧
    ∀ raw patch, Condition.parse? raw = none →
      operation = updateWhere raw patch ∨ operation = deleteWhere raw →
      reply = .changed (.ok 0) ∧ requests (operation.perform q) opened = [] ∧
        done.files = opened.files := by
  have start : store.query.Marks (.start store.records) := Query.marks_start store store.cache
  have marks := marks_performAll start reachable.faithful earlier
  obtain ⟨records, same⟩ := backing_performAll (q := store.query) reachable.faithful earlier
  have faithful : opened.Faithful := by
    have kept := reachable.faithful.run (performAll store.query earlier)
    rwa [ran] at kept
  rw [ran] at marks same
  have path : q.backing.path = store.path := by rw [same]; rfl
  have settings : q.backing.settings = store.settings := by rw [same]; rfl
  have left := marks_perform marks faithful operation
  have reported := failed_iff (q := q) faithful operation
  rw [performed] at left reported
  refine ⟨?_, ?_, reported, ?_, ?_, ?_⟩
  · intro changing fine
    have written := written_of_perform (q := q) faithful changing (by rw [performed]; exact fine)
    rwa [performed, path, settings] at written
  · intro G _ other elsewhere
    have again := marks_performAll start elsewhere.faithful (earlier ++ [operation])
    rw [again.records, left.records, afterAll, afterAll, List.foldl_append]
    rfl
  · intro target text answer wrote
    have whole := write_of_perform faithful operation wrote
    rwa [performed, path, settings] at whole
  · intro idle
    obtain ⟨unchanged, -, requested, -⟩ := perform_of_idle (q := q) faithful idle
    rw [performed] at unchanged
    exact ⟨requested, congrArg Store.records unchanged⟩
  · intro raw patch unparsed conditional
    have going : operation.text? = some raw := by
      rcases conditional with rfl | rfl <;> rfl
    obtain ⟨result, files, requested, -⟩ := perform_of_unparsed (q := q) faithful going unparsed
    rw [performed] at result files
    exact ⟨congrArg Prod.fst result, requested, files⟩

theorem agrees_of_perform_faulty :
    let store : Store := ⟨"records.json", [.null], .default, .shared⟩
    let earlier : List Operation := [insert (.object []), step (.filterBy Json.isObject), openQuery]
    let files : Faulty Disk := ⟨.empty, [some (.system 28)]⟩
    ∃ q opened reply changed done,
      run (performAll store.query earlier) (World.start files) = (q, opened) ∧
      run (perform q (step .delete)) opened = ((reply, changed), done) ∧
      q.records.length = 2 ∧ changed.records.length = 0 ∧
      FileSystem.read done.files "records.json" =
        .ok (Document.encode changed.records .default) := by
  intro store earlier files
  have two : (run (performAll store.query earlier) (World.start files)).1.records.length = 2 := by
    decide +kernel
  have fine : (run (perform (run (performAll store.query earlier) (World.start files)).1
      (step .delete)) (run (performAll store.query earlier) (World.start files)).2).1.1.failed =
        false := by
    decide +kernel
  have none : (run (perform (run (performAll store.query earlier) (World.start files)).1
      (step .delete)) (run (performAll store.query earlier)
        (World.start files)).2).1.2.records.length = 0 := by
    decide +kernel
  obtain ⟨⟨q, opened⟩, ran⟩ :
      ∃ result, run (performAll store.query earlier) (World.start files) = result := ⟨_, rfl⟩
  obtain ⟨⟨⟨reply, changed⟩, done⟩, performed⟩ :
      ∃ result, run (perform q (step .delete)) opened = result := ⟨_, rfl⟩
  rw [ran] at two fine none
  rw [performed] at fine none
  have written := (agrees_of_perform (.start files) store earlier _ ran performed).1 rfl fine
  exact ⟨q, opened, reply, changed, done, ran, performed, two, none, written.2⟩

end Operation
end Store
end RecordStore

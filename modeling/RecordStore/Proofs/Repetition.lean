import RecordStore.Proofs.Agreement
import RecordStore.Proofs.Assignments

/-! Patching again. Paths of one patch may lead through each other, so an early assignment can find
on the second pass what a later one made on the first. What is below a key at the end is still the
same: either a later assignment to the key itself makes it anew, or what is below it settled on the
first pass, by induction on the length of the paths. So every member is as it was, where it was. -/
namespace RecordStore

open Assignment (below beside)
open World

namespace Json

variable {assignments : List Assignment} {found : Json}

/-- If what is below each key comes to the same on a second pass, so does the whole. -/
theorem assignedAll_again_of_below (again : ∀ key found, assignedAll (below key assignments)
      (assignedAll (below key assignments) found) = assignedAll (below key assignments) found)
    (found : Json) :
    assignedAll assignments (assignedAll assignments found) = assignedAll assignments found := by
  by_cases whole : ∃ assignment ∈ assignments, assignment.1 = []
  · exact assignedAll_eq_of_nil whole _ _
  by_cases none : assignments = []
  · subst none
    rfl
  push Not at whole
  rw [assignedAll_eq_object whole none, assignedAll_eq_object whole none]
  apply congrArg object
  apply Members.assignedAll_eq_self
  intro key concerned
  have present : ((found.members.assignedAll assignments).find? key).isSome = true :=
    (Members.isSome_find?_assignedAll key assignments found.members).2 (.inr concerned)
  obtain ⟨value, here⟩ := Option.isSome_iff_exists.1 present
  have settled := Members.getD_find?_assignedAll key assignments found.members
  rw [here, Option.getD_some] at settled
  exact ⟨value, here, by rw [settled, again]⟩

theorem assignedAll_again (assignments : List Assignment) (found : Json) :
    assignedAll assignments (assignedAll assignments found) = assignedAll assignments found := by
  induction assignments using Assignment.induction generalizing found with
  | nil => rfl
  | step assignments ih => exact assignedAll_again_of_below ih found

theorem patched_again (patch record : Json) :
    patch.patched (patch.patched record) = patch.patched record := by
  cases kind : record.isObject with
  | false => rw [patched_of_not_isObject patch kind, patched_of_not_isObject patch kind]
  | true =>
    obtain ⟨members, rfl⟩ := exists_object_of_isObject kind
    rw [patched_object, patched_object]
    by_cases none : patch.assignments = []
    · rw [none]
      rfl
    · have paths := ne_nil_of_mem_assignments patch
      have again := assignedAll_again patch.assignments (.object members)
      rwa [assignedAll_eq_object paths none, assignedAll_eq_object paths none] at again

end Json

namespace Query

variable {R F : Type} [RecordSet R] [FileSystem F]

/-- Changing records in places changes each record in one of the places, however often it is met. -/
theorem getElem?_foldl_modify {change : Json → Json}
    (again : ∀ record, change (change record) = change record) (places : List Nat)
    (records : List Json) (i : Nat) :
    (places.foldl (fun records i => records.modify i change) records)[i]? =
      if i ∈ places then records[i]?.map change else records[i]? := by
  induction places generalizing records with
  | nil => simp
  | cons place rest ih =>
    rw [List.foldl_cons, ih, List.getElem?_modify]
    by_cases here : place = i
    · subst here
      cases records[place]? <;> simp [again]
    · have elsewhere : i ≠ place := fun h => here h.symm
      simp [here, elsewhere]

theorem working_update (q : Query R) (patch : Json) (world : World F) :
    (run (q.update patch) world).1.2.working = q.working := by
  rw [run_update, run_commit]

theorem records_update [LawfulRecordSet R] (q : Query R) (patch : Json) (world : World F) :
    (run (q.update patch) world).1.2.records = q.patchedRecords patch := by
  rw [run_update, records_commit]

theorem count_of_update {q : Query R} {patch : Json} {world : World F} {count : Nat}
    (updated : (run (q.update patch) world).1.1 = .ok count) : count = q.working.length := by
  rw [run_update, run_commit] at updated
  obtain ⟨_, -, counted⟩ := map_eq_ok updated
  exact counted.symm

/-- A second patch of the same selection finds the records as it would leave them. -/
theorem patchedRecords_again [LawfulRecordSet R] (q : Query R) (patch : Json) (world : World F) :
    (run (q.update patch) world).1.2.patchedRecords patch =
      (run (q.update patch) world).1.2.records := by
  have again := Json.patched_again patch
  apply List.ext_getElem?
  intro i
  rw [patchedRecords, getElem?_foldl_modify again, records_update, working_update, patchedRecords,
    getElem?_foldl_modify again]
  by_cases selected : i ∈ q.working
  · cases q.records[i]? <;> simp [selected, again]
  · simp [selected]

theorem backing_update (q : Query Store) (patch : Json) (world : World F) :
    (run (q.update patch) world).1.2.backing =
      { q.backing with records := q.patchedRecords patch } := by
  rw [run_update, run_commit]
  simp only [RecordSet.sync, RecordSet.withRecords, run_bind, run_pure]

theorem agrees_of_update [LawfulFileSystem F] {q : Query Store} {patch : Json} {world : World F}
    {count : Nat} (updated : (run (q.update patch) world).1.1 = .ok count) :
    (run (q.update patch) world).2.Agrees (run (q.update patch) world).1.2.backing := by
  rw [run_update] at updated ⊢
  exact agrees_of_commit _ updated

/-- Patching again changes nothing. A record that was patched comes out of the same patch as it is,
with all keys where they were. So when a query patches its selection again, all records stay as they
are, and so does the selection; and the document of a store, if it was written the first time, is
written with the very text that it holds. -/
theorem update_again :
    (∀ patch record : Json, patch.patched (patch.patched record) = patch.patched record) ∧
    (∀ {R F : Type} [RecordSet R] [LawfulRecordSet R] [FileSystem F] {q after : Query R}
        {patch : Json} {world done : World F} {outcome : Except StoreError Nat},
      run (q.update patch) world = ((outcome, after), done) →
      (run (after.update patch) done).1.2.records = after.records ∧
      (run (after.update patch) done).1.2.working = after.working) ∧
    ∀ {F : Type} [FileSystem F] [LawfulFileSystem F] {q after : Query Store} {patch : Json}
        {world done : World F} {count : Nat},
      run (q.update patch) world = ((.ok count, after), done) →
      (∀ target text answer, .write target text answer ∈ requests (after.update patch) done →
        FileSystem.read done.files target = .ok text) ∧
      ∀ {last : Query Store} {later : World F} {again : Nat},
        run (after.update patch) done = ((.ok again, last), later) →
        again = count ∧ last.backing = after.backing ∧
          FileSystem.read later.files after.backing.path =
            FileSystem.read done.files after.backing.path := by
  refine ⟨Json.patched_again, ?_, ?_⟩
  · intro R F _ _ _ q after patch world done outcome ran
    have same := patchedRecords_again q patch world
    rw [ran] at same
    exact ⟨(records_update after patch done).trans same, working_update after patch done⟩
  · intro F _ _ q after patch world done count ran
    have same := patchedRecords_again q patch world
    have filed : done.Agrees after.backing := by
      have agrees := agrees_of_update (congrArg (·.1.1) ran)
      rwa [ran] at agrees
    rw [ran] at same
    refine ⟨?_, ?_⟩
    · intro target text answer wrote
      rw [requests_update, requests_commit, same] at wrote
      obtain ⟨rfl, rfl⟩ := write_of_persist _ wrote
      exact filed
    · intro last later again ranAgain
      have backing : last.backing = after.backing := by
        have unchanged := backing_update after patch done
        rwa [ranAgain, same] at unchanged
      have refiled : later.Agrees last.backing := by
        have agrees := agrees_of_update (congrArg (·.1.1) ranAgain)
        rwa [ranAgain] at agrees
      rw [backing] at refiled
      have working : after.working = q.working := by
        have unchanged := working_update q patch world
        rwa [ran] at unchanged
      refine ⟨?_, backing, refiled.trans filed.symm⟩
      rw [count_of_update (congrArg (·.1.1) ranAgain), count_of_update (congrArg (·.1.1) ran),
        working]

theorem update_again_overlapping :
    let record : Json := .object [("a", .string "x"), ("b", .null)]
    let patch : Json := .object [("a.b.c", .bool true), ("a", .object [("b", .array [])]),
      ("a.b.d", .null), ("c", .null)]
    let q : Query Store := Query.start ⟨"records.json", [record, .null], .default, .shared⟩ .shared
    ∃ (after last : Query Store) (done later : World Disk),
      run (q.update patch) (World.start Disk.empty) = ((.ok 2, after), done) ∧
      run (after.update patch) done = ((.ok 2, last), later) ∧
      (run (after.update patch) done).1.2.records = after.records ∧
      FileSystem.read later.files after.backing.path =
        FileSystem.read done.files after.backing.path := by
  intro record patch q
  have first : (run (q.update patch) (World.start Disk.empty)).1.1 = .ok 2 := by decide +kernel
  have second : (run ((run (q.update patch) (World.start Disk.empty)).1.2.update patch)
      (run (q.update patch) (World.start Disk.empty)).2).1.1 = .ok 2 := by decide +kernel
  obtain ⟨⟨⟨outcome, after⟩, done⟩, ran⟩ :
      ∃ result, run (q.update patch) (World.start Disk.empty) = result := ⟨_, rfl⟩
  rw [ran] at first second
  obtain ⟨⟨⟨again, last⟩, later⟩, ranAgain⟩ :
      ∃ result, run (after.update patch) done = result := ⟨_, rfl⟩
  rw [ranAgain] at second
  cases first
  cases second
  obtain ⟨-, records, document⟩ := update_again
  exact ⟨after, last, done, later, ran, ranAgain, (records ran).1,
    ((document ran).2 ranAgain).2.2⟩

end Query
end RecordStore

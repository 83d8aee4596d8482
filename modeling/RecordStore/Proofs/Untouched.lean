import RecordStore.Proofs.Assignments

/-! What a patch leaves as it was. A path that parts from all paths of the patch leads to what it
led to before, or to nothing as before: where the patch puts an object in the place of something
else, nothing was to be found beyond it. The keys of the record keep their order, and new ones
follow them in the order of the patch. -/
namespace RecordStore

/-- Keys stay where they are, and each missing one is added once, where it is first met. -/
theorem Members.keys_assignedAll (assignments : List Assignment) (members : Members) :
    keys (members.assignedAll assignments) = keys members ++
      ((assignments.filterMap (·.1.head?)).filter (· ∉ keys members)).eraseDups := by
  induction assignments generalizing members with
  | nil => simp [assignedAll]
  | cons assignment rest ih =>
    obtain ⟨_ | ⟨first, path⟩, new⟩ := assignment
    · simp [assignedAll, ih, List.filterMap_cons]
    · rw [assignedAll, ih, keys_insert]
      by_cases present : first ∈ keys members
      · simp [present]
      · have fresh (key : String) : (!key == first && decide (key ∉ keys members)) =
            decide (key ∉ keys members ++ [first]) := by
          rw [Bool.eq_iff_iff]
          simp [and_comm]
        simp only [present, if_false, List.filterMap_cons, List.head?_cons, List.filter_cons,
          not_false_eq_true, decide_true, if_true, List.eraseDups_cons, List.filter_filter, fresh,
          List.append_assoc, List.singleton_append]

namespace Json

theorem patched_of_patch_not_isObject {patch : Json} (other : patch.isObject = false)
    (record : Json) : patch.patched record = record := by
  cases patch with
  | object => cases other
  | _ => rfl

/-- Paths that part from those of a patch lead to what they led to before. -/
theorem at?_patched {patch record : Json} {p : Path} (apart : ∀ q ∈ patch.paths, p.Apart q) :
    (patch.patched record).at? p = record.at? p := by
  cases kind : patch.isObject with
  | false => rw [patched_of_patch_not_isObject kind]
  | true =>
    obtain ⟨entries, rfl⟩ := exists_object_of_isObject kind
    apply at?_patched_of_apart
    intro entry present
    exact apart _ (List.mem_map_of_mem (List.mem_map_of_mem present))

/-- A patch changes nothing else. What a path leads to stays the same, if it is not on the way to or
beyond a path of the patch. The keys of an object stay in their order, followed by the first keys of
the paths that are new, in the order in which they are first met in the patch. A record that is no
object stays as it is, and so does any record when the patch is none. -/
theorem patched_leaves_others (patch record : Json) :
    (∀ p : Path, (∀ q ∈ patch.paths, p.Apart q) →
      (patch.patched record).at? p = record.at? p) ∧
    (∀ members : Members, record = .object members →
      ∃ after, patch.patched record = .object after ∧ Members.keys after =
        Members.keys members ++
          ((patch.paths.filterMap List.head?).filter (· ∉ Members.keys members)).eraseDups) ∧
    (record.isObject = false ∨ patch.isObject = false → patch.patched record = record) := by
  refine ⟨?_, ?_, ?_⟩
  · intro p apart
    exact at?_patched apart
  · rintro members rfl
    refine ⟨_, patched_object patch members, ?_⟩
    rw [Members.keys_assignedAll, paths, List.filterMap_map]
    rfl
  · rintro (other | other)
    · exact patched_of_not_isObject patch other
    · exact patched_of_patch_not_isObject other record

theorem patched_leaves_others_replaced :
    let record : Json := .object [("b", .string "x"), ("a", .object [("d", .null)])]
    let patch : Json := .object [("c.e", .null), ("b.c", .bool true), ("a.b", .bool false),
      ("c", .array []), ("", .null)]
    (patch.patched record).at? ["b", "d"] = record.at? ["b", "d"] ∧
      (patch.patched record).at? ["a", "d"] = some .null ∧
      (∃ after, patch.patched record = .object after ∧
        Members.keys after = ["b", "a"] ++ ["c", ""]) ∧
      patch.patched (.array []) = .array [] := by
  intro record patch
  obtain ⟨paths, keys, -⟩ := patched_leaves_others patch record
  obtain ⟨after, patched, order⟩ := keys _ rfl
  have news : ((patch.paths.filterMap List.head?).filter
      (· ∉ Members.keys [("b", .string "x"), ("a", .object [("d", .null)])])).eraseDups =
      ["c", ""] := by decide
  rw [news] at order
  refine ⟨paths ["b", "d"] (by decide), paths ["a", "d"] (by decide), ⟨after, patched, order⟩, ?_⟩
  exact (patched_leaves_others patch (.array [])).2.2 (.inl rfl)

end Json
end RecordStore

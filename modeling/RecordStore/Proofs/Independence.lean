import RecordStore.Proofs.Assignments
import RecordStore.Proofs.Sameness

/-! Patches that commute. Two patches none of whose paths meet make the same of a record whichever
comes first, except that keys that are missing are added in the order in which the patches come. So
the results are compared up to the order of members, at every depth; values that differ in nothing
else are equal as data. -/
namespace RecordStore

open Assignment (below beside)

theorem Members.find?_swap {first second : String × Json} (apart : first.1 ≠ second.1)
    (members : Members) (key : String) :
    find? key (first :: second :: members) = find? key (second :: first :: members) := by
  simp only [find?]
  split
  · next own =>
    rw [if_neg]
    rintro rfl
    exact apart own
  · rfl

namespace Json

mutual

/-- Whether two values differ in nothing but the order of members, at any depth. -/
inductive Rearranged : Json → Json → Prop where
  | refl (value : Json) : Rearranged value value
  | array {items others : List Json} : RearrangedItems items others →
    Rearranged (.array items) (.array others)
  | object {members others : Members} : RearrangedMembers members others →
    Rearranged (.object members) (.object others)

inductive RearrangedItems : List Json → List Json → Prop where
  | nil : RearrangedItems [] []
  | cons {item other : Json} {items others : List Json} : Rearranged item other →
    RearrangedItems items others → RearrangedItems (item :: items) (other :: others)

inductive RearrangedMembers : List (String × Json) → List (String × Json) → Prop where
  | nil : RearrangedMembers [] []
  | cons (key : String) {value other : Json} {members others : List (String × Json)} :
    Rearranged value other → RearrangedMembers members others →
    RearrangedMembers ((key, value) :: members) ((key, other) :: others)
  | swap (first second : String × Json) (members : List (String × Json)) :
    RearrangedMembers (second :: first :: members) (first :: second :: members)
  | trans {before between after : List (String × Json)} : RearrangedMembers before between →
    RearrangedMembers between after → RearrangedMembers before after

end

theorem RearrangedMembers.of_perm {members others : Members} (perm : members.Perm others) :
    RearrangedMembers members others := by
  induction perm with
  | nil => exact .nil
  | cons member _ ih => exact .cons member.1 (.refl member.2) ih
  | swap first second rest => exact .swap first second rest
  | trans _ _ left right => exact .trans left right

theorem RearrangedItems.trans_of {before between after : List Json}
    (each : ∀ item ∈ before, ∀ {b c : Json}, Rearranged item b → Rearranged b c → Rearranged item c)
    (left : RearrangedItems before between) (right : RearrangedItems between after) :
    RearrangedItems before after := by
  induction before generalizing between after with
  | nil =>
    cases left
    exact right
  | cons item rest ih =>
    obtain ⟨first, others⟩ := List.forall_mem_cons.1 each
    obtain _ | ⟨here, left⟩ := left
    obtain _ | ⟨there, right⟩ := right
    exact .cons (first here there) (ih others left right)

theorem Rearranged.trans {a b c : Json} (left : Rearranged a b) (right : Rearranged b c) :
    Rearranged a c := by
  induction a using Json.induction generalizing b c with
  | null | bool | number | string =>
    cases left
    exact right
  | array items ih =>
    obtain _ | left | _ := left
    · exact right
    · obtain _ | right | _ := right
      · exact .array left
      · exact .array (.trans_of (fun item present => ih item present) left right)
  | object members ih =>
    obtain _ | _ | left := left
    · exact right
    · obtain _ | _ | right := right
      · exact .object left
      · exact .object (left.trans right)

theorem RearrangedMembers.keys_perm {members others : Members}
    (same : RearrangedMembers members others) :
    (Members.keys members).Perm (Members.keys others) := by
  match same with
  | .nil => exact .nil
  | .cons key _ rest => exact rest.keys_perm.cons key
  | .swap first second rest => exact .swap first.1 second.1 _
  | .trans left right => exact left.keys_perm.trans right.keys_perm

theorem RearrangedMembers.exists_find? {members others : Members}
    (same : RearrangedMembers members others) (distinct : (Members.keys members).Nodup)
    {key : String} {value : Json} (found : members.find? key = some value) :
    ∃ other, others.find? key = some other ∧ Rearranged value other := by
  match same with
  | .nil => cases found
  | .cons k here rest =>
    by_cases own : k = key
    · obtain rfl := Option.some.inj ((if_pos own).symm.trans found)
      exact ⟨_, if_pos own, here⟩
    · obtain ⟨other, there, after⟩ := rest.exists_find? (List.nodup_cons.1 distinct).2
        ((if_neg own).symm.trans found)
      exact ⟨other, (if_neg own).trans there, after⟩
  | .swap first second rest =>
    have apart : second.1 ∉ first.1 :: Members.keys rest := (List.nodup_cons.1 distinct).1
    rw [Members.find?_swap (List.ne_of_not_mem_cons apart)] at found
    exact ⟨value, found, .refl value⟩
  | .trans left right =>
    obtain ⟨between, there, before⟩ := left.exists_find? distinct found
    obtain ⟨other, last, after⟩ := right.exists_find? (left.keys_perm.nodup_iff.1 distinct) there
    exact ⟨other, last, before.trans after⟩

theorem RearrangedItems.sameItems {items others : List Json}
    (each : ∀ item ∈ items, ∀ {other : Json}, Rearranged item other → sameData item other = true)
    (same : RearrangedItems items others) : sameItems items others = true := by
  induction items generalizing others with
  | nil =>
    cases same
    rfl
  | cons item rest ih =>
    obtain ⟨first, more⟩ := List.forall_mem_cons.1 each
    obtain _ | ⟨here, same⟩ := same
    rw [Json.sameItems, first here, ih more same, Bool.and_self]

/-- The order of members does not count in equality as data. -/
theorem Rearranged.sameData {a b : Json} (rearranged : Rearranged a b) (keyed : a.WellKeyed) :
    sameData a b = true := by
  induction a using Json.induction generalizing b with
  | null | bool | number | string =>
    cases rearranged
    exact sameData_self _ keyed
  | array items ih =>
    obtain _ | same | _ := rearranged
    · exact sameData_self _ keyed
    · exact same.sameItems fun item present other here =>
        ih item present here (wellKeyed_array.1 keyed item present)
  | object members ih =>
    obtain _ | _ | same := rearranged
    · exact sameData_self _ keyed
    · obtain ⟨distinct, each⟩ := wellKeyed_object.1 keyed
      have size := same.keys_perm.length_eq
      rw [Members.keys, Members.keys, List.length_map, List.length_map] at size
      rw [Json.sameData, size, beq_self_eq_true, Bool.true_and, sameMembers_iff]
      intro member present
      obtain ⟨other, found, here⟩ := same.exists_find? distinct
        (Members.find?_of_mem distinct present)
      exact ⟨other, found, ih member present here (each member present)⟩

end Json

namespace Assignment

variable {key : String} {assignments : List Assignment}

theorem beside_sublist (key : String) (assignments : List Assignment) :
    (beside key assignments).Sublist assignments := by
  induction assignments with
  | nil => exact .slnil
  | cons assignment rest ih =>
    obtain ⟨_ | ⟨first, path⟩, new⟩ := assignment
    · exact ih.cons_cons _
    · by_cases same : first = key
      · simpa [beside, same] using ih.cons _
      · simpa [beside, same] using ih

theorem length_beside_lt (concerned : below key assignments ≠ []) :
    (beside key assignments).length < assignments.length := by
  have part := beside_sublist key assignments
  apply Nat.lt_of_le_of_ne part.length_le
  intro same
  have none := below_beside_self key assignments
  rw [part.eq_of_length same] at none
  exact concerned none

end Assignment

namespace Members

variable {left right : List Assignment} {members : Members} {key : String}

theorem erase_sublist (key : String) (members : Members) : (members.erase key).Sublist members := by
  induction members with
  | nil => exact .slnil
  | cons member rest ih =>
    obtain ⟨k, v⟩ := member
    by_cases same : k = key
    · simp [erase, same]
    · simpa [erase, same] using ih

theorem length_erase_lt (present : (members.find? key).isSome = true) :
    (members.erase key).length < members.length := by
  obtain ⟨value, found⟩ := Option.isSome_iff_exists.1 present
  rw [(perm_cons_erase found).length_eq]
  exact Nat.lt_succ_self _

/-- Whether an object has a member of a key, or gets one from one of two lists of assignments. -/
def Concerned (key : String) (members : Members) (left right : List Assignment) : Prop :=
  ((members.find? key).isSome = true ∨ below key left ≠ []) ∨ below key right ≠ []

/-- A member that an object has in the end can be brought to its front, with what all assignments
below its key make of it. -/
theorem perm_cons_assignedAll (concerned : Concerned key members left right) :
    ((members.assignedAll left).assignedAll right).Perm
      ((key, Json.assignedAll (below key right)
          (Json.assignedAll (below key left) ((members.find? key).getD .null))) ::
        ((members.erase key).assignedAll (beside key left)).assignedAll (beside key right)) := by
  rw [Concerned, ← isSome_find?_assignedAll, ← isSome_find?_assignedAll] at concerned
  obtain ⟨last, found⟩ := Option.isSome_iff_exists.1 concerned
  have same := getD_find?_assignedAll key right (members.assignedAll left)
  rw [found, Option.getD_some, getD_find?_assignedAll] at same
  have front := perm_cons_erase found
  rwa [erase_assignedAll, erase_assignedAll, same] at front

theorem length_lt_of_concerned (concerned : Concerned key members left right) :
    (members.erase key).length + (beside key left).length + (beside key right).length <
      members.length + left.length + right.length := by
  have members_le := (erase_sublist key members).length_le
  have left_le := (Assignment.beside_sublist key left).length_le
  have right_le := (Assignment.beside_sublist key right).length_le
  rcases concerned with (present | below) | below
  · have := length_erase_lt present
    omega
  · have := Assignment.length_beside_lt below
    omega
  · have := Assignment.length_beside_lt below
    omega

/-- Assignments that commute below each key commute on the whole object, but for the order in which
missing members are added. -/
theorem assignedAll_comm (left right : List Assignment) (members : Members)
    (values : ∀ key found, Json.Rearranged
      (Json.assignedAll (below key right) (Json.assignedAll (below key left) found))
      (Json.assignedAll (below key left) (Json.assignedAll (below key right) found))) :
    Json.RearrangedMembers ((members.assignedAll left).assignedAll right)
      ((members.assignedAll right).assignedAll left) := by
  by_cases any : ∃ key, Concerned key members left right
  · -- The member of one key goes to the front in both results, and its key is done with.
    obtain ⟨key, concerned⟩ := any
    have swapped : Concerned key members right left := by
      unfold Concerned at concerned ⊢
      tauto
    have others : ∀ other found, Json.Rearranged
        (Json.assignedAll (below other (beside key right))
          (Json.assignedAll (below other (beside key left)) found))
        (Json.assignedAll (below other (beside key left))
          (Json.assignedAll (below other (beside key right)) found)) := by
      intro other found
      by_cases same : other = key
      · subst same
        rw [Assignment.below_beside_self, Assignment.below_beside_self]
        exact .refl _
      · rw [Assignment.below_beside_of_ne same, Assignment.below_beside_of_ne same]
        exact values other found
    have smaller := length_lt_of_concerned concerned
    have rest := assignedAll_comm (beside key left) (beside key right) (members.erase key) others
    exact (Json.RearrangedMembers.of_perm (perm_cons_assignedAll concerned)).trans
      ((Json.RearrangedMembers.cons key (values key _) rest).trans
        (Json.RearrangedMembers.of_perm (perm_cons_assignedAll swapped).symm))
  · -- Nothing is assigned to anything.
    have idle (assignments : List Assignment) (none : ∀ key, below key assignments = [])
        (members : Members) : members.assignedAll assignments = members := by
      apply assignedAll_eq_self
      intro key concerned
      exact absurd (none key) concerned
    push Not at any
    have none (key : String) : below key left = [] ∧ below key right = [] := by
      have untouched := any key
      unfold Concerned at untouched
      tauto
    rw [idle left fun key => (none key).1, idle right fun key => (none key).2,
      idle left fun key => (none key).1]
    exact .of_perm (.refl _)
termination_by members.length + left.length + right.length

end Members

namespace Json

/-- Assignments by paths that part commute. -/
theorem assignedAll_comm (left right : List Assignment) (found : Json)
    (apart : ∀ a ∈ left, ∀ b ∈ right, a.1.Apart b.1) :
    Rearranged (assignedAll right (assignedAll left found))
      (assignedAll left (assignedAll right found)) := by
  induction left using Assignment.induction generalizing right found with
  | nil => exact .refl _
  | step left ih =>
    by_cases noneLeft : left = []
    · subst noneLeft
      exact .refl _
    by_cases noneRight : right = []
    · subst noneRight
      exact .refl _
    have pathsLeft : ∀ a ∈ left, a.1 ≠ [] := by
      intro a present
      obtain ⟨b, other⟩ := List.exists_mem_of_ne_nil _ noneRight
      exact (apart a present b other).ne_nil.1
    have pathsRight : ∀ b ∈ right, b.1 ≠ [] := by
      intro b present
      obtain ⟨a, other⟩ := List.exists_mem_of_ne_nil _ noneLeft
      exact (apart a other b present).ne_nil.2
    rw [assignedAll_eq_object pathsLeft noneLeft, assignedAll_eq_object pathsRight noneRight,
      assignedAll_eq_object pathsRight noneRight, assignedAll_eq_object pathsLeft noneLeft]
    apply Rearranged.object
    apply Members.assignedAll_comm
    intro key found
    apply ih
    rintro ⟨p, new⟩ first ⟨q, other⟩ second
    exact (Path.apart_cons_iff key).1 (apart _ (Assignment.mem_below.1 first) _
      (Assignment.mem_below.1 second))

/-- Independent patches commute: if no path of one leads on from the end of a path of the other, the
results of applying both differ in nothing but the order of keys. -/
theorem patched_comm {first second : Json}
    (apart : ∀ p ∈ first.paths, ∀ q ∈ second.paths, p.Apart q) (record : Json) :
    Rearranged (second.patched (first.patched record)) (first.patched (second.patched record)) := by
  cases kind : record.isObject with
  | false =>
    rw [patched_of_not_isObject first kind, patched_of_not_isObject second kind,
      patched_of_not_isObject first kind]
    exact .refl _
  | true =>
    obtain ⟨members, rfl⟩ := exists_object_of_isObject kind
    rw [patched_object, patched_object, patched_object, patched_object]
    apply Rearranged.object
    apply Members.assignedAll_comm
    intro key found
    apply assignedAll_comm
    rintro ⟨p, new⟩ here ⟨q, other⟩ there
    exact (Path.apart_cons_iff key).1 (apart _ (List.mem_map_of_mem (Assignment.mem_below.1 here))
      _ (List.mem_map_of_mem (Assignment.mem_below.1 there)))

theorem patched_comm_replacing :
    let record : Json := .object [("b", .null), ("a", .string "x")]
    let first : Json := .object [("a.b", .bool true), ("d", .null), ("b..c", .array [])]
    let second : Json := .object [("b.c", .object [("d", .null)]), ("a.c.d", .null), ("c", .null)]
    (second.patched (first.patched record)).members.keys = ["b", "a", "d", "c"] ∧
      (first.patched (second.patched record)).members.keys = ["b", "a", "c", "d"] ∧
      Rearranged (second.patched (first.patched record))
        (first.patched (second.patched record)) := by
  intro record first second
  have apart : ∀ p ∈ first.paths, ∀ q ∈ second.paths, p.Apart q := by decide
  exact ⟨by decide, by decide, patched_comm apart record⟩

end Json
end RecordStore

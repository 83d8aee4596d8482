import Mathlib.Algebra.Order.BigOperators.Group.List
import Mathlib.Algebra.Order.Group.Nat
import RecordStore.Proofs.Patching

/-! Patches member by member. A patch is a list of assignments, each a path and the value to be set
there. What they do to an object they do to each of its members apart: the assignments whose paths
begin with a key concern the member with this key and no other one, and reach it by the rest of the
path. A member that is missing takes them as null does, at the end of the object. -/
namespace RecordStore

/-- A value with the path that it is set at. -/
abbrev Assignment := Path × Json

/-- The assignments below a key, with the paths that lead on from there. -/
def Assignment.below (key : String) : List Assignment → List Assignment
  | [] => []
  | ([], _) :: rest => below key rest
  | (first :: path, new) :: rest =>
    if first = key then (path, new) :: below key rest else below key rest

/-- The assignments that do not concern a key. -/
def Assignment.beside (key : String) : List Assignment → List Assignment
  | [] => []
  | ([], new) :: rest => ([], new) :: beside key rest
  | (first :: path, new) :: rest =>
    if first = key then beside key rest else (first :: path, new) :: beside key rest

namespace Json

/-- The value in the place of another one after an assignment by a path from there. -/
def assigned (new : Json) : Path → Json → Json
  | [], _ => new
  | key :: path, found => setAt new (key :: path) (asObject (some found))

def assignedAll (assignments : List Assignment) (found : Json) : Json :=
  assignments.foldl (fun found assignment => assigned assignment.2 assignment.1 found) found

/-- The members of an object, and none for anything else. -/
def members (value : Json) : Members := value.members?.getD []

def assignments (patch : Json) : List Assignment :=
  patch.members.map fun (key, value) => (Path.ofText key, value)

/-- The paths that a patch sets values at. -/
def paths (patch : Json) : List Path := patch.assignments.map Prod.fst

end Json

namespace Members

/-- The members of an object after assignments by paths that are not empty. -/
def assignedAll : List Assignment → Members → Members
  | [], members => members
  | ([], _) :: rest, members => assignedAll rest members
  | (key :: path, new) :: rest, members =>
    assignedAll rest (members.insert key (new.assigned path ((members.find? key).getD .null)))

/-- The members without the first one of a key. -/
def erase (key : String) : Members → Members
  | [] => []
  | (k, v) :: rest => if k = key then rest else (k, v) :: erase key rest

end Members

open Assignment (below beside)

namespace Assignment

variable {key other : String} {assignments : List Assignment} {path : Path} {new : Json}

theorem mem_below : (path, new) ∈ below key assignments ↔ (key :: path, new) ∈ assignments := by
  induction assignments with
  | nil => simp [below]
  | cons assignment rest ih =>
    obtain ⟨_ | ⟨first, more⟩, value⟩ := assignment
    · simp [below, ih]
    · by_cases same : first = key
      · subst same
        simp [below, ih]
      · have different : key ≠ first := fun h => same h.symm
        simp [below, same, different, ih]

theorem below_beside_self (key : String) (assignments : List Assignment) :
    below key (beside key assignments) = [] := by
  induction assignments with
  | nil => rfl
  | cons assignment rest ih =>
    obtain ⟨_ | ⟨first, more⟩, value⟩ := assignment
    · simpa [beside, below] using ih
    · by_cases same : first = key <;> simpa [beside, below, same] using ih

theorem below_beside_of_ne (different : other ≠ key) (assignments : List Assignment) :
    below other (beside key assignments) = below other assignments := by
  induction assignments with
  | nil => rfl
  | cons assignment rest ih =>
    obtain ⟨_ | ⟨first, more⟩, value⟩ := assignment
    · simpa [beside, below] using ih
    · by_cases same : first = key
      · subst same
        simpa [beside, below, different.symm] using ih
      · by_cases own : first = other <;> simpa [beside, below, same, own, different] using ih

/-- Paths are shorter below a key, so what holds whenever it holds below each key holds always. -/
theorem induction {motive : List Assignment → Prop} (nil : motive [])
    (step : ∀ assignments, (∀ key, motive (below key assignments)) → motive assignments)
    (assignments : List Assignment) : motive assignments := by
  obtain ⟨n, short⟩ : ∃ n, ∀ assignment ∈ assignments, assignment.1.length ≤ n := by
    refine ⟨(assignments.map (·.1.length)).sum, ?_⟩
    intro assignment present
    exact List.le_sum_of_mem (List.mem_map_of_mem present)
  induction n generalizing assignments with
  | zero =>
    apply step
    intro key
    have none : below key assignments = [] := by
      rw [List.eq_nil_iff_forall_not_mem]
      rintro ⟨path, new⟩ present
      exact Nat.not_succ_le_zero _ (short _ (mem_below.1 present))
    rwa [none]
  | succ n ih =>
    apply step
    intro key
    apply ih
    rintro ⟨path, new⟩ present
    exact Nat.le_of_succ_le_succ (short _ (mem_below.1 present))

end Assignment

namespace Json

variable {assignments : List Assignment} {found : Json} {key : String} {path : Path} {new : Json}

theorem asObject_some (found : Json) : asObject (some found) = .object found.members := by
  cases found <;> rfl

theorem setAt_cons (members : Members) :
    setAt new (key :: path) (.object members) =
      .object (members.insert key (new.assigned path ((members.find? key).getD .null))) := by
  cases path with
  | nil => rfl
  | cons next rest =>
    rw [setAt_keys (List.cons_ne_nil next rest), assigned]
    cases members.find? key <;> rfl

/-- Assignments by paths that lead somewhere make an object of anything. -/
theorem assignedAll_eq_object (paths : ∀ assignment ∈ assignments, assignment.1 ≠ [])
    (some : assignments ≠ []) (found : Json) :
    assignedAll assignments found = .object (Members.assignedAll assignments found.members) := by
  induction assignments generalizing found with
  | nil => exact absurd rfl some
  | cons assignment rest ih =>
    obtain ⟨first, others⟩ := List.forall_mem_cons.1 paths
    obtain ⟨path, new⟩ := assignment
    obtain ⟨key, path, rfl⟩ := List.exists_cons_of_ne_nil first
    rw [assignedAll, List.foldl_cons, assigned, asObject_some, setAt_cons, Members.assignedAll]
    by_cases last : rest = []
    · subst last
      rfl
    · exact ih others last _

/-- Once a value itself is assigned, it makes no difference what was there before. -/
theorem assignedAll_eq_of_nil (whole : ∃ assignment ∈ assignments, assignment.1 = [])
    (found other : Json) : assignedAll assignments found = assignedAll assignments other := by
  obtain ⟨⟨path, new⟩, present, rfl⟩ := whole
  obtain ⟨before, after, rfl⟩ := List.append_of_mem present
  simp only [assignedAll, List.foldl_append, List.foldl_cons, assigned]

theorem patched_object (patch : Json) (members : Members) :
    patch.patched (.object members) = .object (members.assignedAll patch.assignments) := by
  cases patch with
  | object entries =>
    simp only [patched, assignments, Json.members, members?, Option.getD_some]
    induction entries generalizing members with
    | nil => rfl
    | cons entry rest ih =>
      obtain ⟨key, new⟩ := entry
      obtain ⟨first, path, segments⟩ := List.exists_cons_of_ne_nil (Path.ofText_ne_nil key)
      rw [List.foldl_cons, List.map_cons, segments, setAt_cons, ih]
      rfl
  | _ => rfl

theorem patched_of_not_isObject (patch : Json) {record : Json} (other : record.isObject = false) :
    patch.patched record = record := by
  cases patch with
  | object entries =>
    simp only [patched]
    induction entries with
    | nil => rfl
    | cons entry rest ih => rw [List.foldl_cons, setAt_of_not_isObject other, ih]
  | _ => rfl

theorem ne_nil_of_mem_assignments (patch : Json) :
    ∀ assignment ∈ patch.assignments, assignment.1 ≠ [] := by
  intro assignment present
  obtain ⟨⟨key, value⟩, -, rfl⟩ := List.mem_map.1 present
  exact Path.ofText_ne_nil key

end Json

namespace Members

variable {assignments : List Assignment} {members : Members} {key : String} {value : Json}

theorem getD_find?_assignedAll (key : String) (assignments : List Assignment) (members : Members) :
    ((members.assignedAll assignments).find? key).getD .null =
      Json.assignedAll (below key assignments) ((members.find? key).getD .null) := by
  induction assignments generalizing members with
  | nil => rfl
  | cons assignment rest ih =>
    obtain ⟨_ | ⟨first, path⟩, new⟩ := assignment
    · exact ih members
    · rw [assignedAll, below, ih, find?_insert]
      by_cases same : first = key
      · subst same
        rw [if_pos rfl, if_pos rfl]
        rfl
      · rw [if_neg same, if_neg same]

theorem isSome_find?_assignedAll (key : String) (assignments : List Assignment)
    (members : Members) : ((members.assignedAll assignments).find? key).isSome = true ↔
      (members.find? key).isSome = true ∨ below key assignments ≠ [] := by
  induction assignments generalizing members with
  | nil => simp [assignedAll, below]
  | cons assignment rest ih =>
    obtain ⟨_ | ⟨first, path⟩, new⟩ := assignment
    · exact ih members
    · rw [assignedAll, below, ih, find?_insert]
      by_cases same : first = key <;> simp [same]

/-- The first member of an object takes the assignments below its key, and the others take the
assignments beside it. -/
theorem assignedAll_cons (assignments : List Assignment) (key : String) (value : Json)
    (members : Members) : assignedAll assignments ((key, value) :: members) =
      (key, Json.assignedAll (below key assignments) value) ::
        assignedAll (beside key assignments) members := by
  induction assignments generalizing value members with
  | nil => rfl
  | cons assignment rest ih =>
    obtain ⟨_ | ⟨first, path⟩, new⟩ := assignment
    · rw [assignedAll, ih]
      rfl
    · by_cases same : key = first
      · subst same
        simp [assignedAll, below, beside, insert, find?, ih, Json.assignedAll]
      · have different : ¬first = key := fun h => same h.symm
        simp [assignedAll, below, beside, insert, find?, same, different, ih]

/-- Assignments that leave each member as it is leave the object as it is. -/
theorem assignedAll_eq_self
    (settled : ∀ key, below key assignments ≠ [] → ∃ value, members.find? key = some value ∧
      Json.assignedAll (below key assignments) value = value) :
    members.assignedAll assignments = members := by
  induction members generalizing assignments with
  | nil =>
    -- Nothing is below any key, so that all paths are empty, and these are passed over.
    induction assignments with
    | nil => rfl
    | cons assignment rest ih =>
      obtain ⟨_ | ⟨key, path⟩, new⟩ := assignment
      · exact ih settled
      · obtain ⟨value, found, -⟩ := settled key (by simp [below])
        cases found
  | cons member rest ih =>
    obtain ⟨key, value⟩ := member
    rw [assignedAll_cons, ih]
    · by_cases unconcerned : below key assignments = []
      · rw [unconcerned]
        rfl
      · obtain ⟨_, found, same⟩ := settled key unconcerned
        rw [find?, if_pos rfl, Option.some.injEq] at found
        subst found
        rw [same]
    · intro other concerned
      have different : other ≠ key := by
        rintro rfl
        exact concerned (Assignment.below_beside_self other assignments)
      rw [Assignment.below_beside_of_ne different] at concerned ⊢
      obtain ⟨value, found, same⟩ := settled other concerned
      rw [find?, if_neg different.symm] at found
      exact ⟨value, found, same⟩

theorem find?_erase_of_ne {other : String} (different : other ≠ key) (members : Members) :
    (members.erase key).find? other = members.find? other := by
  induction members with
  | nil => rfl
  | cons member rest ih =>
    obtain ⟨k, v⟩ := member
    by_cases same : k = key
    · subst same
      simp [erase, find?, different.symm]
    · simp [erase, find?, same, ih]

theorem erase_insert_self (key : String) (value : Json) (members : Members) :
    (members.insert key value).erase key = members.erase key := by
  induction members with
  | nil => simp [insert, erase]
  | cons member rest ih =>
    obtain ⟨k, v⟩ := member
    by_cases same : k = key <;> simp [insert, erase, same, ih]

theorem erase_insert_of_ne {other : String} (different : other ≠ key) (value : Json)
    (members : Members) :
    (members.insert other value).erase key = (members.erase key).insert other value := by
  induction members with
  | nil => simp [insert, erase, different]
  | cons member rest ih =>
    obtain ⟨k, v⟩ := member
    by_cases same : k = key
    · subst same
      simp [insert, erase, different.symm]
    · by_cases own : k = other <;> simp [insert, erase, same, own, different, ih]

theorem erase_assignedAll (key : String) (assignments : List Assignment) (members : Members) :
    (members.assignedAll assignments).erase key =
      (members.erase key).assignedAll (beside key assignments) := by
  induction assignments generalizing members with
  | nil => rfl
  | cons assignment rest ih =>
    obtain ⟨_ | ⟨first, path⟩, new⟩ := assignment
    · simpa [assignedAll, beside] using ih members
    · by_cases same : first = key
      · subst same
        rw [assignedAll, ih, erase_insert_self]
        simp [beside]
      · rw [assignedAll, ih, erase_insert_of_ne same, ← find?_erase_of_ne same]
        simp [beside, same, assignedAll]

theorem perm_cons_erase (found : members.find? key = some value) :
    members.Perm ((key, value) :: members.erase key) := by
  induction members with
  | nil => cases found
  | cons member rest ih =>
    obtain ⟨k, v⟩ := member
    by_cases same : k = key
    · subst same
      simp only [find?, if_true, Option.some.injEq] at found
      subst found
      simp [erase]
    · simp only [find?, same, if_false] at found
      simp only [erase, same, if_false]
      exact ((ih found).cons _).trans (.swap ..)

end Members
end RecordStore

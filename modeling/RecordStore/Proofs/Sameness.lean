import Mathlib.Data.List.Forall2
import RecordStore.Proofs.Doubles
import RecordStore.Proofs.Nesting

/-! Equality as data, item by item and member by member. Every value whose objects keep their keys
apart equals itself. A number equals another one as data only if it is the other one, signed zeros
apart. -/
namespace RecordStore

theorem Binary64.valueEq_iff {a b : Binary64} : a.valueEq b = true ↔ a.units = b.units := by
  simp [valueEq]

theorem Number.sameData_self (x : Number) : x.sameData x = true := by
  cases x with
  | integer value fits => exact beq_self_eq_true value
  | double value => exact Binary64.valueEq_iff.2 rfl

namespace Members

theorem find?_of_mem {members : Members} (distinct : (keys members).Nodup) {member : String × Json}
    (present : member ∈ members) : find? member.1 members = some member.2 := by
  induction members with
  | nil => cases present
  | cons first rest ih =>
    obtain ⟨key, value⟩ := first
    obtain ⟨absent, distinct⟩ := List.nodup_cons.1 distinct
    rcases List.mem_cons.1 present with rfl | present
    · exact if_pos rfl
    · have other : key ≠ member.1 := by
        intro same
        rw [same] at absent
        exact absent (List.mem_map.2 ⟨member, present, rfl⟩)
      rw [find?, if_neg other]
      exact ih distinct present

theorem mem_of_find? {members : Members} {key : String} {value : Json}
    (found : find? key members = some value) : (key, value) ∈ members := by
  induction members with
  | nil => cases found
  | cons first rest ih =>
    obtain ⟨k, v⟩ := first
    simp only [find?] at found
    split at found
    · next same =>
      cases found
      exact same ▸ List.mem_cons_self
    · exact List.mem_cons_of_mem _ (ih found)

end Members

namespace Json

theorem sameItems_iff {a b : List Json} :
    sameItems a b = true ↔ List.Forall₂ (fun x y => sameData x y = true) a b := by
  induction a generalizing b with
  | nil => cases b <;> simp [sameItems]
  | cons x rest ih => cases b <;> simp [sameItems, ih]

/-- Equality of lists of values is equality as data, item by item. -/
theorem beq_items_iff {a b : List Json} : (a == b) = true ↔ sameItems a b = true := by
  induction a generalizing b with
  | nil => cases b <;> simp [sameItems]
  | cons x rest ih =>
    cases b with
    | nil => simp [sameItems]
    | cons y others =>
      rw [List.cons_beq_cons, Bool.and_eq_true, ih, sameItems, Bool.and_eq_true]
      rfl

theorem sameMembers_iff {a b : Members} : sameMembers a b = true ↔
    ∀ member ∈ a, ∃ other, Members.find? member.1 b = some other ∧
      sameData member.2 other = true := by
  induction a with
  | nil => simp [sameMembers]
  | cons first rest ih =>
    obtain ⟨key, value⟩ := first
    simp only [sameMembers, Bool.and_eq_true, ih, List.forall_mem_cons]
    cases Members.find? key b <;> simp

theorem sameData_self (value : Json) (keyed : value.WellKeyed) : sameData value value = true := by
  induction value using Json.induction with
  | null => rfl
  | bool b => exact beq_self_eq_true b
  | number x => exact x.sameData_self
  | string s => exact beq_self_eq_true s
  | array items ih =>
    rw [sameData, sameItems_iff, List.forall₂_same]
    intro item present
    exact ih item present (wellKeyed_array.1 keyed item present)
  | object members ih =>
    obtain ⟨distinct, keyed⟩ := wellKeyed_object.1 keyed
    rw [sameData, beq_self_eq_true, Bool.true_and, sameMembers_iff]
    intro member present
    exact ⟨member.2, Members.find?_of_mem distinct present,
      ih member present (keyed member present)⟩

end Json
end RecordStore

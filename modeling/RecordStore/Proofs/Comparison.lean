import Mathlib.Order.Compare
import Mathlib.Order.Lattice
import RecordStore.Condition.Evaluation

/-! Comparing numbers. The six operators that compare put one question to two numbers, which of them
is the greater, and it always has an answer, for no double is infinite or undefined. So the operators
agree with each other, whichever way the numbers are held; where a record has no number, only `!=`
holds. -/
namespace RecordStore

namespace Operator

/-- The relation that an operator stands for. Operators on strings relate no numbers. -/
def Relates {α : Type} [LT α] [LE α] : Operator → α → α → Prop
  | eq, x, y => x = y
  | ne, x, y => x ≠ y
  | gt, x, y => x > y
  | lt, x, y => x < y
  | ge, x, y => x ≥ y
  | le, x, y => x ≤ y
  | contains, _, _ | startsWith, _, _ | endsWith, _, _ => False

/-- Whether an operator holds between numbers that stand in an order. -/
def accepts : Operator → Ordering → Bool
  | eq, order => order == .eq
  | ne, order => order != .eq
  | gt, order => order == .gt
  | lt, order => order == .lt
  | ge, order => order != .lt
  | le, order => order != .gt
  | contains, _ | startsWith, _ | endsWith, _ => false

theorem accepts_iff_relates {α : Type} [LinearOrder α] {order : Ordering} {x y : α}
    (compares : order.Compares x y) (op : Operator) :
    op.accepts order = true ↔ op.Relates x y := by
  cases op with
  | eq => exact beq_iff_eq.trans compares.eq_eq
  | ne => exact bne_iff_ne.trans (not_congr compares.eq_eq)
  | gt => exact beq_iff_eq.trans compares.eq_gt
  | lt => exact beq_iff_eq.trans compares.eq_lt
  | ge => exact bne_iff_ne.trans compares.ne_lt
  | le => exact bne_iff_ne.trans compares.ne_gt
  | contains | startsWith | endsWith => simp [accepts, Relates]

theorem existsUnique_accepts (order : Ordering) :
    ∃! op, op ∈ [lt, eq, gt] ∧ op.accepts order = true := by
  obtain ⟨found, member, accepted, unique⟩ : ∃ found ∈ [lt, eq, gt], found.accepts order = true ∧
      ∀ op ∈ [lt, eq, gt], op.accepts order = true → op = found := by
    cases order <;> decide
  exact ⟨found, ⟨member, accepted⟩, fun op accepts => unique op accepts.1 accepts.2⟩

theorem holds_numbers (op : Operator) (a b : Number) :
    op.holds (some (.number a)) (.json (.number b)) = op.accepts (a.compare b) := by
  cases op with
  | gt | lt => cases order : a.compare b <;> simp [holds, Operand.compare?, accepts, order]
  | _ => rfl

/-- Of what is no number, or is not there, only `!=` holds. -/
theorem holds_of_not_number {actual : Option Json} (other : ∀ a, actual ≠ some (.number a))
    (b : Number) : (∀ op ∈ [lt, gt, le, ge, eq], op.holds actual (.json (.number b)) = false) ∧
      ne.holds actual (.json (.number b)) = true := by
  have apart : Operand.compare? actual (.json (.number b)) = none ∧
      Operand.equals actual (.json (.number b)) = false := by
    cases actual with
    | none => exact ⟨rfl, rfl⟩
    | some value =>
      cases value with
      | number a => exact absurd rfl (other a)
      | null | bool | string | array | object => exact ⟨rfl, rfl⟩
  simp [holds, apart]

end Operator

theorem compares_int (x y : Int) : (compare x y).Compares x y := by
  cases order : compare x y with
  | lt => exact Int.compare_eq_lt.1 order
  | eq => exact Int.compare_eq_eq.1 order
  | gt => exact Int.compare_eq_gt.1 order

theorem Number.compare_swap (a b : Number) : (a.compare b).swap = b.compare a := by
  cases a <;> cases b <;> exact Int.compare_swap _ _

namespace Condition

variable {record : Json} {field : String} {a b : Number}

theorem holds_comparison (resolved : record.at? (Path.ofText field) = some (.number a))
    (op : Operator) :
    holds ⟨field, op, .json (.number b)⟩ record = op.accepts (a.compare b) := by
  rw [holds, resolved, Operator.holds_numbers]

/-- Of two numbers exactly one is less, or they are equal, and the other operators say the same;
where there is no number, no comparison holds. -/
theorem comparisons_agree (record : Json) (field : String) (b : Number) :
    let compares (op : Operator) := holds ⟨field, op, .json (.number b)⟩ record = true
    (∀ a, record.at? (Path.ofText field) = some (.number a) →
      (∃! op, op ∈ [Operator.lt, .eq, .gt] ∧ compares op) ∧
      (compares .ge ↔ compares .gt ∨ compares .eq) ∧
      (compares .le ↔ compares .lt ∨ compares .eq) ∧
      (compares .ne ↔ ¬compares .eq) ∧
      ∀ (other : Json) (path : String), other.at? (Path.ofText path) = some (.number b) →
        let exchanged (op : Operator) := holds ⟨path, op, .json (.number a)⟩ other = true
        (exchanged .lt ↔ compares .gt) ∧ (exchanged .gt ↔ compares .lt) ∧
          (exchanged .eq ↔ compares .eq)) ∧
    ((∀ a, record.at? (Path.ofText field) ≠ some (.number a)) →
      (∀ op ∈ [Operator.lt, .gt, .le, .ge, .eq], ¬compares op) ∧ compares .ne) := by
  intro compares
  constructor
  · intro a resolved
    have answer (op : Operator) : compares op ↔ op.accepts (a.compare b) = true := by
      rw [← holds_comparison resolved]
    simp only [answer]
    refine ⟨?_, ?_, ?_, ?_, ?_⟩
    · exact Operator.existsUnique_accepts _
    · cases a.compare b <;> decide
    · cases a.compare b <;> decide
    · cases a.compare b <;> decide
    · intro other path resolved'
      simp only [holds_comparison resolved', ← Number.compare_swap a b]
      cases a.compare b <;> decide
  · intro none
    obtain ⟨fails, differs⟩ := Operator.holds_of_not_number none b
    refine ⟨?_, differs⟩
    intro op member
    exact Bool.not_eq_true _ ▸ fails op member

/-- The greatest integer and the double that it is rounded to, which is greater: taken as doubles
they are equal. A string compares with neither. -/
theorem comparisons_agree_greatest :
    let greatest : Number := .integer 18446744073709551615 (by decide)
    let double : Number := .double (.ofInt 18446744073709551616)
    let record : Json := .object [("n", .object [("max", .number greatest), ("", .string "1")])]
    let other : Json := .object [("", .number double)]
    let compares (op : Operator) := holds ⟨"n.max", op, .json (.number double)⟩ record = true
    let exchanged (op : Operator) := holds ⟨"", op, .json (.number greatest)⟩ other = true
    record.at? (Path.ofText "n.max") = some (.number greatest) ∧
      (∃! op, op ∈ [Operator.lt, .eq, .gt] ∧ compares op) ∧ (compares .ne ↔ ¬compares .eq) ∧
      (exchanged .lt ↔ compares .gt) ∧
      (∀ a, record.at? (Path.ofText "n.") ≠ some (.number a)) ∧
      holds ⟨"n.", .ne, .json (.number double)⟩ record = true := by
  intro greatest double record other compares exchanged
  have number : record.at? (Path.ofText "n.max") = some (.number greatest) := rfl
  have string (a : Number) : record.at? (Path.ofText "n.") ≠ some (.number a) := nofun
  obtain ⟨unique, -, -, differs, exchange⟩ :=
    (comparisons_agree record "n.max" double).1 greatest number
  exact ⟨number, unique, differs, (exchange other "" rfl).1, string,
    ((comparisons_agree record "n." double).2 string).2⟩

end Condition
end RecordStore

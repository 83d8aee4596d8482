import RecordStore.Json.Basic

/-! The shape of values: what they consist of, how deep their containers are nested, and whether
their objects keep keys apart. -/
namespace RecordStore

namespace Json

/-- What holds of the scalars, and of containers when it holds of what they contain, holds of every
value. -/
@[elab_as_elim]
theorem induction {P : Json → Prop} (null : P .null) (bool : ∀ b, P (.bool b))
    (number : ∀ x, P (.number x)) (string : ∀ s, P (.string s))
    (array : ∀ items, (∀ item ∈ items, P item) → P (.array items))
    (object : ∀ members : Members, (∀ member ∈ members, P member.2) → P (.object members))
    (value : Json) : P value := by
  refine Json.rec (motive_1 := P) (motive_2 := fun items => ∀ item ∈ items, P item)
    (motive_3 := fun members => ∀ member ∈ members, P member.2)
    (motive_4 := fun member => P member.2) null bool number string array object ?_ ?_ ?_ ?_ ?_
    value
  · intro item none
    cases none
  · intro item rest first more
    exact List.forall_mem_cons.2 ⟨first, more⟩
  · intro member none
    cases none
  · intro member rest first more
    exact List.forall_mem_cons.2 ⟨first, more⟩
  · intro key value holds
    exact holds

/-- The values that a value consists of, itself among them. -/
inductive Part (part : Json) : Json → Prop where
  | self : Part part part
  | item {items : List Json} {item : Json} : item ∈ items → Part part item →
    Part part (.array items)
  | member {members : Members} {member : String × Json} : member ∈ members →
    Part part member.2 → Part part (.object members)

/-- Whether the keys of every object in a value are distinct. -/
def WellKeyed (value : Json) : Prop :=
  ∀ members, Part (.object members) value → (Members.keys members).Nodup

mutual

/-- How many containers stand inside each other at the deepest place of a value. -/
def depth : Json → Nat
  | array items => itemsDepth items + 1
  | object members => membersDepth members + 1
  | _ => 0

def itemsDepth : List Json → Nat
  | [] => 0
  | item :: rest => max item.depth (itemsDepth rest)

def membersDepth : List (String × Json) → Nat
  | [] => 0
  | (_, value) :: rest => max value.depth (membersDepth rest)

end

theorem part_scalar {part value : Json} (scalar : value.depth = 0) :
    Part part value ↔ part = value := by
  constructor
  · rintro (_ | _ | _)
    · rfl
    · cases scalar
    · cases scalar
  · rintro rfl
    exact .self

@[simp] theorem part_null {part : Json} : Part part .null ↔ part = .null := part_scalar rfl

@[simp] theorem part_bool {part : Json} {b : Bool} : Part part (.bool b) ↔ part = .bool b :=
  part_scalar rfl

@[simp] theorem part_number {part : Json} {x : Number} :
    Part part (.number x) ↔ part = .number x := part_scalar rfl

@[simp] theorem part_string {part : Json} {s : String} :
    Part part (.string s) ↔ part = .string s := part_scalar rfl

@[simp] theorem part_array {part : Json} {items : List Json} :
    Part part (.array items) ↔ part = .array items ∨ ∃ item ∈ items, Part part item := by
  constructor
  · rintro (_ | ⟨member, inside⟩)
    · exact .inl rfl
    · exact .inr ⟨_, member, inside⟩
  · rintro (rfl | ⟨item, member, inside⟩)
    · exact .self
    · exact .item member inside

@[simp] theorem part_object {part : Json} {members : Members} :
    Part part (.object members) ↔
      part = .object members ∨ ∃ member ∈ members, Part part member.2 := by
  constructor
  · rintro (_ | _ | ⟨member, inside⟩)
    · exact .inl rfl
    · exact .inr ⟨_, member, inside⟩
  · rintro (rfl | ⟨item, member, inside⟩)
    · exact .self
    · exact .member member inside

theorem wellKeyed_array {items : List Json} :
    WellKeyed (.array items) ↔ ∀ item ∈ items, item.WellKeyed := by
  simp only [WellKeyed, part_array, reduceCtorEq, false_or]
  exact ⟨fun all item member members inside => all members ⟨item, member, inside⟩,
    fun all members ⟨item, member, inside⟩ => all item member members inside⟩

theorem wellKeyed_object {members : Members} :
    WellKeyed (.object members) ↔
      (Members.keys members).Nodup ∧ ∀ member ∈ members, member.2.WellKeyed := by
  simp only [WellKeyed, part_object, object.injEq]
  constructor
  · intro all
    exact ⟨all members (.inl rfl),
      fun member present inner inside => all inner (.inr ⟨member, present, inside⟩)⟩
  · rintro ⟨distinct, all⟩ inner (rfl | ⟨member, present, inside⟩)
    · exact distinct
    · exact all member present inner inside

theorem itemsDepth_le {items : List Json} {bound : Nat} :
    itemsDepth items ≤ bound ↔ ∀ item ∈ items, item.depth ≤ bound := by
  induction items with
  | nil => simp [itemsDepth]
  | cons item rest ih => simp only [itemsDepth, Nat.max_le, ih, List.forall_mem_cons]

theorem membersDepth_le {members : Members} {bound : Nat} :
    membersDepth members ≤ bound ↔ ∀ member ∈ members, member.2.depth ≤ bound := by
  induction members with
  | nil => simp [membersDepth]
  | cons member rest ih =>
    obtain ⟨key, value⟩ := member
    simp only [membersDepth, Nat.max_le, ih, List.forall_mem_cons]

theorem depth_lt_of_mem_items {items : List Json} {item : Json} (present : item ∈ items) :
    item.depth < (array items).depth :=
  Nat.lt_succ_of_le (itemsDepth_le.1 (Nat.le_refl _) item present)

theorem depth_lt_of_mem_members {members : Members} {member : String × Json}
    (present : member ∈ members) : member.2.depth < (object members).depth :=
  Nat.lt_succ_of_le (membersDepth_le.1 (Nat.le_refl _) member present)

end Json

namespace Members

theorem insert_of_not_mem {key : String} {value : Json} {members : Members}
    (absent : key ∉ keys members) : insert key value members = members ++ [(key, value)] := by
  induction members with
  | nil => rfl
  | cons member rest ih =>
    obtain ⟨k, v⟩ := member
    simp only [keys, List.map_cons, List.mem_cons, not_or] at absent
    simp only [insert, Ne.symm absent.1, if_false, ih absent.2, List.cons_append]

theorem mem_of_mem_insert {key : String} {value : Json} {members : Members}
    {member : String × Json} (present : member ∈ insert key value members) :
    member = (key, value) ∨ member ∈ members := by
  induction members with
  | nil => exact .inl (List.mem_singleton.1 present)
  | cons first rest ih =>
    obtain ⟨k, v⟩ := first
    simp only [insert] at present
    split at present
    · rcases List.mem_cons.1 present with rfl | present
      · exact .inl rfl
      · exact .inr (List.mem_cons_of_mem _ present)
    · rcases List.mem_cons.1 present with rfl | present
      · exact .inr List.mem_cons_self
      · exact (ih present).imp_right (List.mem_cons_of_mem _)

end Members
end RecordStore

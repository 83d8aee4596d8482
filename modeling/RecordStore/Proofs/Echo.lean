import RecordStore.Proofs.NumberText
import RecordStore.Proofs.Sameness

/-! What a value comes back as when its text is read: its echo. There is none when the value is
nested too deep or a number in it is out of range. Otherwise the echo has the same shape, with each
number replaced by its own echo, as long as keys are distinct. A value is its own echo exactly when
it is shallow enough and its numbers are their own echoes. -/
namespace RecordStore

theorem Number.echo?_zero (negative : Bool) :
    echo? (.double (.zero negative)) = some (.double (.zero negative)) := by
  cases negative <;> decide +kernel

/-- A number that comes back equal comes back as it was: zeros, the only distinct doubles of one
value, keep their signs. -/
theorem Number.eq_of_echo? {x y : Number} (echo : x.echo? = some y)
    (same : y.sameData x = true) : y = x := by
  cases x with
  | integer value fits =>
    rw [echo?_integer value fits] at echo
    exact (Option.some.inj echo).symm
  | double d =>
    cases y with
    | integer => cases same
    | double e =>
      cases zero : d.isZero with
      | true =>
        rw [Binary64.eq_zero_of_isZero zero, echo?_zero] at echo
        rw [Binary64.eq_zero_of_isZero zero]
        exact (Option.some.inj echo).symm
      | false => rw [Binary64.eq_of_units zero (Binary64.valueEq_iff.1 same)]

namespace Json

def isFull (limit : Option Nat) (level : Nat) : Bool := limit.any (· ≤ level)

mutual

/-- The echo of a value inside `level` open containers. -/
def echo? (limit : Option Nat) (level : Nat) : Json → Option Json
  | null => some null
  | bool b => some (bool b)
  | string s => some (string s)
  | number x => x.echo?.map number
  | array items =>
    if isFull limit level then none else (echoItems? limit (level + 1) items).map array
  | object members =>
    if isFull limit level then none else (echoMembers? limit (level + 1) [] members).map object

def echoItems? (limit : Option Nat) (level : Nat) : List Json → Option (List Json)
  | [] => some []
  | item :: rest =>
    (echo? limit level item).bind fun echo => (echoItems? limit level rest).map (echo :: ·)

/-- Members are put into an object one after the other, after those `before`. -/
def echoMembers? (limit : Option Nat) (level : Nat) :
    Members → List (String × Json) → Option Members
  | before, [] => some before
  | before, (key, value) :: rest =>
    (echo? limit level value).bind fun echo =>
      echoMembers? limit level (before.insert key echo) rest

end

variable {limit : Option Nat} {level bound : Nat}

/-! Too deep a value has no echo. -/

theorem echoItems?_eq_none {items : List Json} {item : Json} (present : item ∈ items)
    (none : echo? limit level item = none) : echoItems? limit level items = .none := by
  induction items with
  | nil => cases present
  | cons first rest ih =>
    simp only [echoItems?]
    rcases List.mem_cons.1 present with rfl | present
    · rw [none, Option.bind_none]
    · rw [ih present]
      cases echo? limit level first <;> rfl

theorem echoMembers?_eq_none {members before : Members} {member : String × Json}
    (present : member ∈ members) (none : echo? limit level member.2 = none) :
    echoMembers? limit level before members = .none := by
  induction members generalizing before with
  | nil => cases present
  | cons first rest ih =>
    obtain ⟨key, value⟩ := first
    simp only [echoMembers?]
    rcases List.mem_cons.1 present with rfl | present
    · rw [none, Option.bind_none]
    · cases echo? limit level value with
      | none => rfl
      | some echo => exact ih present

theorem echo?_of_deep (value : Json) (deep : bound < level + value.depth)
    (inside : level ≤ bound) : echo? (some bound) level value = none := by
  induction value using Json.induction generalizing level with
  | null | bool | number | string =>
    simp only [depth] at deep
    omega
  | array items ih =>
    simp only [echo?, isFull, Option.any_some, decide_eq_true_eq]
    split
    · rfl
    · have deep : ¬itemsDepth items ≤ bound - (level + 1) := by
        simp only [depth] at deep
        omega
      simp only [itemsDepth_le, not_forall, not_le] at deep
      obtain ⟨item, present, deeper⟩ := deep
      rw [echoItems?_eq_none present (ih item present (by omega) (by omega)), Option.map_none]
  | object members ih =>
    simp only [echo?, isFull, Option.any_some, decide_eq_true_eq]
    split
    · rfl
    · have deep : ¬membersDepth members ≤ bound - (level + 1) := by
        simp only [depth] at deep
        omega
      simp only [membersDepth_le, not_forall, not_le] at deep
      obtain ⟨member, present, deeper⟩ := deep
      rw [echoMembers?_eq_none present (ih member present (by omega) (by omega)), Option.map_none]

/-! A shallow value whose numbers come back is its own echo. -/

theorem echoItems?_self {items : List Json}
    (each : ∀ item ∈ items, echo? limit level item = some item) :
    echoItems? limit level items = some items := by
  induction items with
  | nil => rfl
  | cons item rest ih =>
    have others : ∀ other ∈ rest, echo? limit level other = some other := by
      intro other member
      exact each other (by simp [member])
    rw [echoItems?, each item (by simp), Option.bind_some, ih others]
    rfl

theorem not_mem_keys_of_nodup {before rest : Members} {key : String} {value : Json}
    (distinct : (Members.keys (before ++ (key, value) :: rest)).Nodup) :
    key ∉ Members.keys before := by
  intro present
  simp only [Members.keys, List.map_append, List.map_cons, List.nodup_append] at distinct
  exact distinct.2.2 key present key (by simp) rfl

theorem echoMembers?_self {members before : Members}
    (distinct : (Members.keys (before ++ members)).Nodup)
    (each : ∀ member ∈ members, echo? limit level member.2 = some member.2) :
    echoMembers? limit level before members = some (before ++ members) := by
  induction members generalizing before with
  | nil => simp [echoMembers?]
  | cons member rest ih =>
    obtain ⟨key, value⟩ := member
    have absent : key ∉ Members.keys before := not_mem_keys_of_nodup distinct
    have same : before ++ (key, value) :: rest = before ++ [(key, value)] ++ rest := by simp
    have others : ∀ other ∈ rest, echo? limit level other.2 = some other.2 := by
      intro other present
      exact each other (by simp [present])
    rw [same] at distinct ⊢
    rw [echoMembers?, each (key, value) (by simp), Option.bind_some,
      Members.insert_of_not_mem absent, ih distinct others]

/-- Where a container fits, its own level is not full and what it contains fits one level on. -/
theorem not_isFull_of_fits {value : Json} (shallow : ∀ bound ∈ limit, level + value.depth ≤ bound)
    (container : 0 < value.depth) : isFull limit level = false := by
  cases limit with
  | none => rfl
  | some bound =>
    have := shallow bound rfl
    simp only [isFull, Option.any_some, decide_eq_false_iff_not]
    omega

theorem fits_inside {value inner : Json} (shallow : ∀ bound ∈ limit, level + value.depth ≤ bound)
    (less : inner.depth < value.depth) : ∀ bound ∈ limit, level + 1 + inner.depth ≤ bound := by
  intro bound given
  have := shallow bound given
  omega

theorem echo?_self (value : Json) (keyed : value.WellKeyed)
    (shallow : ∀ bound ∈ limit, level + value.depth ≤ bound)
    (numbers : ∀ x, Part (.number x) value → x.echo? = some x) :
    echo? limit level value = some value := by
  induction value using Json.induction generalizing level with
  | null | bool | string => rfl
  | number x => rw [echo?, numbers x .self, Option.map_some]
  | array items ih =>
    have room := not_isFull_of_fits shallow (Nat.succ_pos _)
    have each : ∀ item ∈ items, echo? limit (level + 1) item = some item := by
      intro item present
      apply ih item present (wellKeyed_array.1 keyed item present)
      · exact fits_inside shallow (depth_lt_of_mem_items present)
      · intro x inside
        exact numbers x (.item present inside)
    simp only [echo?, room, Bool.false_eq_true, if_false, echoItems?_self each, Option.map_some]
  | object members ih =>
    obtain ⟨distinct, keyed⟩ := wellKeyed_object.1 keyed
    have room := not_isFull_of_fits shallow (Nat.succ_pos _)
    have each : ∀ member ∈ members, echo? limit (level + 1) member.2 = some member.2 := by
      intro member present
      apply ih member present (keyed member present)
      · exact fits_inside shallow (depth_lt_of_mem_members present)
      · intro x inside
        exact numbers x (.member present inside)
    have all : echoMembers? limit (level + 1) [] members = some members :=
      echoMembers?_self distinct each
    simp only [echo?, room, Bool.false_eq_true, if_false, all, Option.map_some]

/-! An echo equal to the value as data needs every number to be its own echo. -/

theorem echoItems?_same {items echoes : List Json}
    (echo : echoItems? limit level items = some echoes) (same : sameItems echoes items = true) :
    ∀ item ∈ items, ∃ echo, echo? limit level item = some echo ∧ sameData echo item = true := by
  induction items generalizing echoes with
  | nil => simp
  | cons item rest ih =>
    simp only [echoItems?, Option.bind_eq_some_iff, Option.map_eq_some_iff] at echo
    obtain ⟨first, found, others, more, rfl⟩ := echo
    simp only [sameItems, Bool.and_eq_true] at same
    rw [List.forall_mem_cons]
    exact ⟨⟨first, found, same.1⟩, ih more same.2⟩

theorem echoMembers?_eq_some {members before after : Members}
    (distinct : (Members.keys (before ++ members)).Nodup)
    (echo : echoMembers? limit level before members = some after) :
    ∃ echoes, after = before ++ echoes ∧ ∀ member ∈ members, ∃ echo,
      echo? limit level member.2 = some echo ∧ (member.1, echo) ∈ echoes := by
  induction members generalizing before with
  | nil => exact ⟨[], by simpa [echoMembers?] using echo.symm, by simp⟩
  | cons member rest ih =>
    obtain ⟨key, value⟩ := member
    obtain ⟨first, found, more⟩ := Option.bind_eq_some_iff.1 echo
    have absent : key ∉ Members.keys before := not_mem_keys_of_nodup distinct
    rw [Members.insert_of_not_mem absent] at more
    obtain ⟨echoes, rfl, each⟩ := ih (by simpa [Members.keys] using distinct) more
    refine ⟨(key, first) :: echoes, by simp, ?_⟩
    rintro member present
    rcases List.mem_cons.1 present with rfl | present
    · exact ⟨first, found, List.mem_cons_self⟩
    · obtain ⟨echo, found, among⟩ := each member present
      exact ⟨echo, found, List.mem_cons_of_mem _ among⟩

theorem echoMembers?_same {members echoes : Members} (distinct : (Members.keys members).Nodup)
    (echo : echoMembers? limit level [] members = some echoes)
    (same : sameMembers echoes members = true) :
    ∀ member ∈ members, ∃ echo, echo? limit level member.2 = some echo ∧
      sameData echo member.2 = true := by
  obtain ⟨echoes, rfl, each⟩ := echoMembers?_eq_some (by exact distinct) echo
  intro member present
  obtain ⟨echo, found, among⟩ := each member present
  obtain ⟨value, held, equal⟩ := sameMembers_iff.1 same _ among
  rw [Members.find?_of_mem distinct present] at held
  cases held
  exact ⟨echo, found, equal⟩

theorem echo?_number_of_same (value : Json) (keyed : value.WellKeyed)
    {echo : Json} (found : echo? limit level value = some echo)
    (same : sameData echo value = true) {x : Number} (inside : Part (.number x) value) :
    x.echo? = some x := by
  induction value using Json.induction generalizing level echo with
  | null | bool | string => cases inside
  | number y =>
    cases inside
    obtain ⟨z, read, rfl⟩ := Option.map_eq_some_iff.1 found
    rwa [Number.eq_of_echo? read same] at read
  | array items ih =>
    simp only [echo?, Option.ite_none_left_eq_some, Option.map_eq_some_iff] at found
    obtain ⟨-, echoes, read, rfl⟩ := found
    rcases part_array.1 inside with equal | ⟨item, present, inside⟩
    · cases equal
    · obtain ⟨other, found, equal⟩ := echoItems?_same read same item present
      exact ih item present (wellKeyed_array.1 keyed item present) found equal inside
  | object members ih =>
    obtain ⟨distinct, keyed⟩ := wellKeyed_object.1 keyed
    simp only [echo?, Option.ite_none_left_eq_some, Option.map_eq_some_iff] at found
    obtain ⟨-, echoes, read, rfl⟩ := found
    simp only [sameData, Bool.and_eq_true] at same
    rcases part_object.1 inside with equal | ⟨member, present, inside⟩
    · cases equal
    · obtain ⟨other, found, equal⟩ := echoMembers?_same distinct read same.2 member present
      exact ih member present (keyed member present) found equal inside

/-- Records come back equal exactly if each is shallow enough and its numbers are their own
echoes. -/
theorem echoItems?_same_iff {items : List Json} (keyed : ∀ item ∈ items, item.WellKeyed)
    (inside : level ≤ bound) :
    (∃ echoes, echoItems? (some bound) level items = some echoes ∧ sameItems echoes items = true) ↔
      ∀ item ∈ items, level + item.depth ≤ bound ∧
        ∀ x, Part (.number x) item → x.echo? = some x := by
  constructor
  · rintro ⟨echoes, read, same⟩ item present
    obtain ⟨echo, found, equal⟩ := echoItems?_same read same item present
    constructor
    · by_contra deep
      rw [echo?_of_deep item (by omega) inside] at found
      cases found
    · intro x part
      exact echo?_number_of_same item (keyed item present) found equal part
  · intro all
    have each : ∀ item ∈ items, echo? (some bound) level item = some item := by
      intro item present
      obtain ⟨shallow, numbers⟩ := all item present
      apply echo?_self item (keyed item present) ?_ numbers
      rintro _ ⟨⟩
      exact shallow
    refine ⟨items, echoItems?_self each, ?_⟩
    rw [sameItems_iff, List.forall₂_same]
    intro item present
    exact sameData_self item (keyed item present)

end Json
end RecordStore

import RecordStore.Json.Number

/-! JSON values. An object is a list of members in their written order; `insert` replaces the value
of a key where it stands and otherwise appends, so inserting keeps keys distinct. Equality as data
(`==`) ignores the order of members. -/
namespace RecordStore

inductive Json where
  | null
  | bool (value : Bool)
  | number (value : Number)
  | string (value : String)
  | array (items : List Json)
  | object (members : List (String × Json))

abbrev Members := List (String × Json)

namespace Members

/-- Sets the value of a key, at its place if it has one and at the end otherwise. -/
def insert (key : String) (value : Json) : Members → Members
  | [] => [(key, value)]
  | (k, v) :: rest => if k = key then (key, value) :: rest else (k, v) :: insert key value rest

def keys (members : Members) : List String := members.map Prod.fst

def find? (key : String) : Members → Option Json
  | [] => none
  | (k, v) :: rest => if k = key then some v else find? key rest

@[simp] theorem find?_insert (key other : String) (value : Json) (members : Members) :
    find? other (insert key value members) =
      if key = other then some value else find? other members := by
  induction members with
  | nil => simp [insert, find?]
  | cons m rest ih =>
    obtain ⟨k, v⟩ := m
    by_cases hk : k = key <;> by_cases ho : key = other <;>
      simp_all [insert, find?]

theorem keys_insert (key : String) (value : Json) (members : Members) :
    keys (insert key value members) =
      if key ∈ keys members then keys members else keys members ++ [key] := by
  induction members with
  | nil => simp [insert, keys]
  | cons m rest ih =>
    obtain ⟨k, v⟩ := m
    by_cases hk : k = key
    · simp [insert, keys, hk]
    · have hk' : ¬key = k := fun h => hk h.symm
      simp only [keys] at ih
      by_cases hm : key ∈ rest.map Prod.fst <;> simp_all [insert, keys]

theorem nodup_keys_insert (key : String) (value : Json) {members : Members}
    (h : (keys members).Nodup) : (keys (insert key value members)).Nodup := by
  rw [keys_insert]
  split
  · exact h
  · next hm =>
    rw [List.nodup_append]
    exact ⟨h, by simp, fun a ha b hb => by
      rintro rfl
      exact hm (List.mem_singleton.1 hb ▸ ha)⟩

end Members

namespace Json

def isObject : Json → Bool
  | object _ => true
  | _ => false

def members? : Json → Option Members
  | object members => some members
  | _ => none

def kind : Json → String
  | null => "null"
  | bool _ => "boolean"
  | number _ => "number"
  | string _ => "string"
  | array _ => "array"
  | object _ => "object"

mutual

def sameData : Json → Json → Bool
  | null, null => true
  | bool a, bool b => a == b
  | number a, number b => a.sameData b
  | string a, string b => a == b
  | array a, array b => sameItems a b
  | object a, object b => a.length == b.length && sameMembers a b
  | _, _ => false

def sameItems : List Json → List Json → Bool
  | [], [] => true
  | a :: rest, b :: others => sameData a b && sameItems rest others
  | _, _ => false

/-- Whether every member has an equal value under the same key of the other object. -/
def sameMembers : List (String × Json) → List (String × Json) → Bool
  | [], _ => true
  | (key, value) :: rest, others =>
    (match Members.find? key others with
      | some other => sameData value other
      | none => false) && sameMembers rest others

end

instance : BEq Json := ⟨sameData⟩

end Json
end RecordStore

import RecordStore.Condition.Parser

/-! Remembered condition texts. Each text is parsed once, failures included; entries stay for good,
in the order they came, and the slot of an entry tells it from every other. -/
namespace RecordStore

/-- Which cache a store or a query parses its conditions through. -/
inductive CacheId where
  /-- The one that is used unless another is given. -/
  | shared
  | own (number : Nat)
deriving DecidableEq

structure CachedCondition where
  slot : Nat
  condition : Condition

/-- The texts parsed so far with what they parsed to, oldest first. -/
structure ConditionCache where
  entries : List (String × Option Condition)

namespace ConditionCache

def empty : ConditionCache := ⟨[]⟩

def size (cache : ConditionCache) : Nat := cache.entries.length

/-- The entry of a text among those from a slot on: `some none` for a text that did not parse. -/
def findFrom (raw : String) (slot : Nat) :
    List (String × Option Condition) → Option (Option CachedCondition)
  | [] => none
  | (text, parsed) :: rest =>
    if text = raw then some (parsed.map fun c => ⟨slot, c⟩) else findFrom raw (slot + 1) rest

def find? (cache : ConditionCache) (raw : String) : Option (Option CachedCondition) :=
  findFrom raw 0 cache.entries

def contains (cache : ConditionCache) (raw : String) : Bool := (cache.find? raw).isSome

structure Answer where
  entry : Option CachedCondition
  /-- Whether the text was parsed for this answer. -/
  missed : Bool

/-- The condition of a text, parsed now if it never was. -/
def parse (cache : ConditionCache) (raw : String) : Answer × ConditionCache :=
  match cache.find? raw with
  | some entry => (⟨entry, false⟩, cache)
  | none =>
    let parsed := Condition.parse? raw
    (⟨parsed.map fun c => ⟨cache.size, c⟩, true⟩, ⟨cache.entries ++ [(raw, parsed)]⟩)

end ConditionCache
end RecordStore

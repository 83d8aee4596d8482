import RecordStore.Console.Backspace
import RecordStore.Proofs.Octets

/-! What backspaces leave of a line. Each takes away the last user-perceived character that is still
left before it. The editor, which counts octets, does just that where an octet holds the size of
every such character; a line without backspaces stays as it is, whatever its characters. -/
namespace RecordStore

namespace Text

theorem octetCount_reverse (text : List Char) : octetCount text.reverse = octetCount text := by
  induction text with
  | nil => rfl
  | cons c rest ih =>
    rw [List.reverse_cons, octetCount_append, ih]
    simp only [octetCount]
    omega

end Text

namespace Console

/-- What one more user-perceived character leaves of those that were left before it. -/
def keep (left : List (List Char)) (cluster : List Char) : List (List Char) :=
  if cluster = ['\x08'] then left.dropLast else left ++ [cluster]

/-- What the backspaces among user-perceived characters leave of them. -/
def remaining (clusters : List (List Char)) : List (List Char) := clusters.foldl keep []

/-- The line that its backspaces leave. -/
def afterBackspaces (line : String) : String :=
  String.ofList (remaining (Text.clusters line.toList)).flatten

/-- A backspace at the beginning takes away nothing. -/
theorem remaining_backspace (rear : List (List Char)) :
    remaining (['\x08'] :: rear) = remaining rear := rfl

/-- A character with a backspace behind it might as well not be there, nor the backspace. -/
theorem remaining_rubbed {cluster : List Char} (rubbed : cluster ≠ ['\x08'])
    (front rear : List (List Char)) :
    remaining (front ++ cluster :: ['\x08'] :: rear) = remaining (front ++ rear) := by
  simp only [remaining, List.foldl_append, List.foldl_cons, keep, if_neg rubbed, if_pos,
    List.dropLast_concat]

theorem foldl_keep_of_not_mem {clusters : List (List Char)} (none : ['\x08'] ∉ clusters)
    (left : List (List Char)) : clusters.foldl keep left = left ++ clusters := by
  induction clusters generalizing left with
  | nil => exact (List.append_nil left).symm
  | cons cluster rest ih =>
    simp only [List.mem_cons, not_or] at none
    rw [List.foldl_cons, keep, if_neg (Ne.symm none.1), ih none.2, List.append_assoc]
    rfl

theorem remaining_of_not_mem {clusters : List (List Char)} (none : ['\x08'] ∉ clusters) :
    remaining clusters = clusters := foldl_keep_of_not_mem none []

variable {line : String}

theorem mem_of_mem_clusters (present : ['\x08'] ∈ Text.clusters line.toList) :
    '\x08' ∈ line.toList := by
  rw [← Text.flatten_clusters line.toList]
  exact List.mem_flatten.2 ⟨_, present, List.mem_singleton_self _⟩

theorem afterBackspaces_of_not_mem (none : '\x08' ∉ line.toList) : afterBackspaces line = line := by
  have clean : ['\x08'] ∉ Text.clusters line.toList := fun present =>
    none (mem_of_mem_clusters present)
  rw [afterBackspaces, remaining_of_not_mem clean, Text.flatten_clusters, String.ofList_toList]

/-- Whether an octet holds the size of every user-perceived character, should a backspace ask for
it. -/
def Countable (line : String) : Prop :=
  '\x08' ∈ line.toList → ∀ cluster ∈ Text.clusters line.toList, Text.octetCount cluster < 256

instance (line : String) : Decidable (Countable line) :=
  inferInstanceAs (Decidable (_ → ∀ cluster ∈ Text.clusters line.toList, _))

theorem countable_of_not_mem (none : '\x08' ∉ line.toList) : Countable line :=
  fun present => absurd present none

namespace Typed

/-- What the editor keeps of the characters that are left. -/
def holding (left : List (List Char)) : Typed :=
  ⟨left.flatten.reverse, (left.map fun cluster => UInt8.ofNat (Text.octetCount cluster)).reverse⟩

variable {left : List (List Char)} {cluster other : List Char}

theorem rubOut?_holding (small : ∀ cluster ∈ left, Text.octetCount cluster < 256) :
    (holding left).rubOut? = some (holding left.dropLast) := by
  rcases List.eq_nil_or_concat left with rfl | ⟨front, last, rfl⟩
  · rfl
  · have size : (UInt8.ofNat (Text.octetCount last)).toNat = Text.octetCount last.reverse := by
      rw [Text.octetCount_reverse, UInt8.toNat_ofNat']
      exact Nat.mod_eq_of_lt (small last (by simp))
    simp [rubOut?, holding, size, Text.dropOctets?_append]

/-- A character of 256 octets stays, and one of 257 cannot be taken away. -/
example :
    let marked (c : Char) (n : Nat) := c :: List.replicate n '\u0301'
    (holding [marked 'é' 127]).rubOut?.map (·.text.reverse) = some (marked 'é' 127) ∧
      (holding [marked 'x' 128]).rubOut?.map (·.text) = none := by
  decide +kernel

theorem type?_holding (small : cluster = ['\x08'] → ∀ other ∈ left, Text.octetCount other < 256) :
    (holding left).type? cluster = some (holding (keep left cluster)) := by
  by_cases rubs : cluster = ['\x08']
  · rw [type?, keep, if_pos rubs, if_pos rubs]
    exact rubOut?_holding (small rubs)
  · rw [type?, keep, if_neg rubs, if_neg rubs]
    simp [holding]

theorem mem_of_mem_keep (present : other ∈ keep left cluster) : other ∈ left ++ [cluster] := by
  unfold keep at present
  split at present
  · exact List.mem_append_left _ (List.mem_of_mem_dropLast present)
  · exact present

/-- The editor goes through characters as `keep` does, if their sizes and those of the characters
before them are small or no backspace is to come. -/
theorem foldlM_type? {clusters : List (List Char)}
    (small : ['\x08'] ∈ clusters → ∀ other ∈ left ++ clusters, Text.octetCount other < 256) :
    clusters.foldlM type? (holding left) = some (holding (clusters.foldl keep left)) := by
  induction clusters generalizing left with
  | nil => rfl
  | cons cluster rest ih =>
    have step : (holding left).type? cluster = some (holding (keep left cluster)) := by
      apply type?_holding
      rintro rfl other present
      exact small List.mem_cons_self other (List.mem_append_left _ present)
    rw [List.foldlM_cons, step, List.foldl_cons]
    apply ih
    intro later other present
    apply small (List.mem_cons_of_mem _ later)
    rw [List.append_cons]
    rcases List.mem_append.1 present with present | present
    · exact List.mem_append_left _ (mem_of_mem_keep present)
    · exact List.mem_append_right _ present

end Typed

theorem rubbedOut?_of_countable (countable : Countable line) :
    rubbedOut? line = some (afterBackspaces line) := by
  have small : ['\x08'] ∈ Text.clusters line.toList →
      ∀ other ∈ [] ++ Text.clusters line.toList, Text.octetCount other < 256 := fun present =>
    countable (mem_of_mem_clusters present)
  rw [rubbedOut?, show Typed.empty = .holding [] from rfl, Typed.foldlM_type? small]
  simp only [Typed.holding, Option.map_some, List.reverse_reverse]
  rfl

end Console
end RecordStore

import Mathlib.Data.List.DropRight
import RecordStore.Json.Reader
import RecordStore.Text.Blank

/-! Trimming. Every text is its trimmed core with blanks around it, and the core is the one part
with no blank at either end that the rest surrounds by blanks. What JSON passes over is blank. -/
namespace RecordStore
namespace Text

def Blank (text : List Char) : Prop := ∀ c ∈ text, isBlank c = true

/-- Whether a text neither begins nor ends with a blank. -/
structure Solid (text : List Char) : Prop where
  head : ∀ c ∈ text.head?, isBlank c = false
  last : ∀ c ∈ text.getLast?, isBlank c = false

variable {a b c : List Char}

theorem blank_nil : Blank [] := List.forall_mem_nil _

theorem blank_space : Blank [' '] := by
  rintro c (_ | ⟨_, ⟨⟩⟩)
  decide

theorem Blank.append (left : Blank a) (right : Blank b) : Blank (a ++ b) :=
  List.forall_mem_append.2 ⟨left, right⟩

theorem solid_nil : Solid [] := ⟨by rintro _ ⟨⟩, by rintro _ ⟨⟩⟩

theorem solid_of_forall (visible : ∀ c ∈ a, isBlank c = false) : Solid a :=
  ⟨fun c first => visible c (List.mem_of_mem_head? first),
    fun c last => visible c (List.mem_of_getLast? last)⟩

/-- What stands between solid ends makes no difference. -/
theorem solid_of_ends (some : a ≠ []) (more : c ≠ []) (head : ∀ d ∈ a.head?, isBlank d = false)
    (last : ∀ d ∈ c.getLast?, isBlank d = false) : Solid (a ++ (b ++ c)) where
  head := by
    rw [List.head?_append_of_ne_nil _ some]
    exact head
  last := by
    rw [← List.append_assoc, List.getLast?_append_of_ne_nil _ more]
    exact last

theorem trimStart_append (blank : Blank a) (head : ∀ c ∈ b.head?, isBlank c = false) :
    trimStart (a ++ b) = b := by
  rw [trimStart, List.dropWhile_append_of_pos blank]
  cases b with
  | nil => rfl
  | cons c rest => rw [List.dropWhile_cons_of_neg (by simp [head c rfl])]

theorem trimEnd_append (last : ∀ c ∈ a.getLast?, isBlank c = false) (blank : Blank b) :
    trimEnd (a ++ b) = a := by
  have reversed : Blank b.reverse := fun c member => blank c (List.mem_reverse.1 member)
  have first : ∀ c ∈ a.reverse.head?, isBlank c = false := by
    rwa [List.head?_reverse]
  have trimmed := trimStart_append reversed first
  rw [trimStart] at trimmed
  rw [trimEnd, List.reverse_append, trimmed, List.reverse_reverse]

theorem trim_surrounded (left : Blank a) (solid : Solid b) (right : Blank c) :
    trim (a ++ (b ++ c)) = b := by
  cases empty : b with
  | nil =>
    have all : trimStart (a ++ ([] ++ c)) = [] := List.dropWhile_eq_nil_iff.2 (left.append right)
    rw [trim, all]
    rfl
  | cons d rest =>
    rw [← empty]
    have head : ∀ e ∈ (b ++ c).head?, isBlank e = false := by
      rw [List.head?_append_of_ne_nil _ (by simp [empty])]
      exact solid.head
    rw [trim, trimStart_append left head, trimEnd_append solid.last right]

theorem Solid.trim (solid : Solid a) : trim a = a := by
  have trimmed := trim_surrounded blank_nil solid blank_nil
  rwa [List.nil_append, List.append_nil] at trimmed

/-- Every text is its core with blanks around it. -/
theorem exists_surrounded (text : List Char) :
    ∃ before after, Blank before ∧ Blank after ∧ text = before ++ (Text.trim text ++ after) := by
  have ends : trimStart text =
      Text.trim text ++ ((trimStart text).reverse.takeWhile isBlank).reverse := by
    rw [Text.trim, trimEnd, ← List.reverse_append, List.takeWhile_append_dropWhile,
      List.reverse_reverse]
  refine ⟨text.takeWhile isBlank, ((trimStart text).reverse.takeWhile isBlank).reverse, ?_, ?_, ?_⟩
  · intro c member
    exact List.mem_takeWhile_imp member
  · intro c member
    exact List.mem_takeWhile_imp (List.mem_reverse.1 member)
  · rw [← ends, trimStart, List.takeWhile_append_dropWhile]

theorem solid_head_dropWhile (text : List Char) :
    ∀ c ∈ (text.dropWhile isBlank).head?, isBlank c = false := by
  intro c first
  have visible := List.head?_dropWhile_not isBlank text
  rw [Option.mem_def.1 first] at visible
  exact visible

theorem solid_trim (text : List Char) : Solid (Text.trim text) where
  head := by
    intro c first
    obtain ⟨after, joined⟩ : Text.trim text <+: trimStart text := List.rdropWhile_prefix isBlank _
    apply solid_head_dropWhile text
    rw [← trimStart, ← joined, List.head?_append, Option.mem_def.1 first]
    rfl
  last := by
    rw [Text.trim, trimEnd, List.getLast?_reverse]
    exact solid_head_dropWhile _

theorem trim_blank_append (blank : Blank a) (text : List Char) :
    Text.trim (a ++ text) = Text.trim text := by
  rw [Text.trim, trimStart, List.dropWhile_append_of_pos blank]
  rfl

theorem trim_append_blank (text : List Char) (blank : Blank b) :
    Text.trim (text ++ b) = Text.trim text := by
  obtain ⟨before, after, left, right, whole⟩ := exists_surrounded text
  have surrounded := trim_surrounded left (solid_trim text) (right.append blank)
  rwa [← List.append_assoc (Text.trim text), ← List.append_assoc before, ← whole] at surrounded

theorem trim_isInfix (text : List Char) : Text.trim text <:+: text := by
  obtain ⟨before, after, -, -, whole⟩ := exists_surrounded text
  exact ⟨before, after, by rw [List.append_assoc, ← whole]⟩

theorem trim_trim (text : List Char) : Text.trim (Text.trim text) = Text.trim text :=
  (solid_trim text).trim

theorem trim_eq_nil_iff : Text.trim a = [] ↔ Blank a := by
  constructor
  · intro none
    obtain ⟨before, after, left, right, whole⟩ := exists_surrounded a
    rw [none] at whole
    rw [whole]
    exact left.append right
  · intro blank
    have trimmed := trim_surrounded blank solid_nil blank_nil
    rwa [List.nil_append, List.append_nil] at trimmed

end Text

namespace Json

theorem isBlank_of_isSpace {c : Char} (space : isSpace c = true) : Text.isBlank c = true := by
  simp only [isSpace, Bool.or_eq_true, beq_iff_eq] at space
  rcases space with ((rfl | rfl) | rfl) | rfl <;> decide

theorem isBlank_of_digit {c : Char} {d : Nat} (digit : digit? c = some d) :
    Text.isBlank c = false := by
  unfold digit? at digit
  split at digit
  · next between =>
    have low : 48 ≤ c.toNat := between.1
    have high : c.toNat ≤ 57 := between.2
    simp [Text.isBlank, Text.inRanges, Text.blankRanges]
    omega
  · cases digit

end Json
end RecordStore

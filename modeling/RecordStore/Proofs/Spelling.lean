import RecordStore.Console.Parser

/-! Words spelled in any ASCII case. Whatever is a capital when its ASCII letters are raised was one
of the two letters, so a spelling of a keyword is as long as the keyword, holds no blank, and is
read as that keyword. -/
namespace RecordStore

namespace Text

variable {word capitals : List Char}

theorem toNat_toUpper (c : Char) : c.toUpper.toNat =
    if 97 ≤ c.toNat ∧ c.toNat ≤ 122 then c.toNat - 32 else c.toNat := by
  have small : 'a'.val ≤ c.val ∧ c.val ≤ 'z'.val ↔ 97 ≤ c.toNat ∧ c.toNat ≤ 122 := Iff.rfl
  unfold Char.toUpper
  by_cases letter : 'a'.val ≤ c.val ∧ c.val ≤ 'z'.val
  · rw [dif_pos letter, if_pos (small.1 letter)]
    obtain ⟨low, high⟩ := small.1 letter
    have raised : (c.val + ('A'.val - 'a'.val)).toNat = (c.val.toNat + (2 ^ 32 - 32)) % 2 ^ 32 :=
      UInt32.toNat_add ..
    change (c.val + ('A'.val - 'a'.val)).toNat = c.val.toNat - 32
    change 97 ≤ c.val.toNat at low
    change c.val.toNat ≤ 122 at high
    omega
  · rw [dif_neg letter, if_neg (mt small.2 letter)]

theorem capitals?_of_toUpper {c : Char} (ascii : c.toUpper.toNat < 0x80) :
    capitals? c = some [c.toUpper] := by
  rw [toNat_toUpper] at ascii
  rw [capitals?, if_pos]
  split at ascii <;> omega

/-- A word that is spelled in capitals of ASCII is read as them. -/
theorem uppercase?_of_spelled (spelled : equalsIgnoringAsciiCase word capitals = true)
    (ascii : ∀ c ∈ capitals, c.toNat < 0x80) : uppercase? word = some capitals := by
  rw [equalsIgnoringAsciiCase, beq_iff_eq] at spelled
  subst spelled
  induction word with
  | nil => rfl
  | cons c rest ih =>
    obtain ⟨first, others⟩ := List.forall_mem_cons.1 ascii
    rw [uppercase?, capitals?_of_toUpper first, ih others]
    rfl

def isCapital (c : Char) : Bool := decide (65 ≤ c.toNat ∧ c.toNat ≤ 90)

theorem visible_of_spelled (spelled : equalsIgnoringAsciiCase word capitals = true)
    (letters : capitals.all isCapital = true) : ∀ c ∈ word, isBlank c = false := by
  rw [equalsIgnoringAsciiCase, beq_iff_eq] at spelled
  subst spelled
  intro c member
  have raised := of_decide_eq_true (List.all_eq_true.1 letters _ (List.mem_map_of_mem member))
  rw [toNat_toUpper] at raised
  simp [isBlank, inRanges, blankRanges]
  split at raised <;> omega

end Text

namespace Console.Keyword

theorem all_isCapital_word (keyword : Keyword) :
    keyword.word.toList.all Text.isCapital = true := by
  cases keyword <;> decide

theorem ofWord?_of_spelled {keyword : Keyword} {word : List Char}
    (spelled : Text.equalsIgnoringAsciiCase word keyword.word.toList = true) :
    ofWord? word = some keyword := by
  have ascii : ∀ c ∈ keyword.word.toList, c.toNat < 0x80 := by
    intro c member
    have letter := of_decide_eq_true (List.all_eq_true.1 keyword.all_isCapital_word c member)
    omega
  rw [ofWord?, Text.uppercase?_of_spelled spelled ascii, Option.bind_some]
  cases keyword <;> decide

end Console.Keyword
end RecordStore

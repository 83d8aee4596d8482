import RecordStore.Console.Session
import RecordStore.Proofs.FileSystems
import RecordStore.Proofs.Octets
import RecordStore.Text.Search

/-! Lines of texts that come as octets. The only character with an octet of a line feed is the line
feed itself, so cutting the octets of a text into lines is cutting the text, and each line is text
again. -/
namespace RecordStore

namespace Text

/-- The lines of a text: the pieces between line feeds, without an empty one after the last. -/
def lines (text : List Char) : List (List Char) :=
  let pieces := splitOn '\n' text
  if pieces.getLast? = some [] then pieces.dropLast else pieces

theorem lines_feed (rest : List Char) : lines ('\n' :: rest) = [] :: lines rest := by
  obtain ⟨piece, pieces, more⟩ := List.exists_cons_of_ne_nil (splitOn_ne_nil '\n' rest)
  simp only [lines, splitOn, if_true, more, List.getLast?_cons_cons, List.dropLast_cons_cons]
  split <;> rfl

theorem lines_cons {c : Char} (other : c ≠ '\n') (rest : List Char) :
    lines (c :: rest) = match lines rest with
      | [] => [[c]]
      | line :: more => (c :: line) :: more := by
  obtain ⟨piece, pieces, more⟩ := List.exists_cons_of_ne_nil (splitOn_ne_nil '\n' rest)
  simp only [lines, splitOn, other, if_false, more]
  cases pieces with
  | nil => cases piece <;> simp
  | cons next pieces =>
    simp only [List.getLast?_cons_cons, List.dropLast_cons_cons]
    split <;> rfl

theorem mem_of_mem_lines {text line : List Char} {c : Char} (present : line ∈ lines text)
    (inside : c ∈ line) : c ∈ text := by
  induction text generalizing line with
  | nil => cases present
  | cons first rest ih =>
    by_cases feed : first = '\n'
    · rw [feed, lines_feed] at present
      rcases List.mem_cons.1 present with rfl | present
      · cases inside
      · exact List.mem_cons_of_mem _ (ih present inside)
    · rw [lines_cons feed] at present
      cases more : lines rest with
      | nil =>
        rw [more] at present
        rw [List.mem_singleton.1 present, List.mem_singleton] at inside
        exact inside ▸ List.mem_cons_self
      | cons next others =>
        rw [more] at present ih
        rcases List.mem_cons.1 present with rfl | present
        · rcases List.mem_cons.1 inside with rfl | inside
          · exact List.mem_cons_self
          · exact List.mem_cons_of_mem _ (ih List.mem_cons_self inside)
        · exact List.mem_cons_of_mem _ (ih (List.mem_cons_of_mem _ present) inside)

theorem encode_feed : String.utf8EncodeChar '\n' = [0x0A] := encode_ascii (by decide)

theorem feed_not_mem_encode {c : Char} (other : c ≠ '\n') :
    (0x0A : UInt8) ∉ String.utf8EncodeChar c := by
  intro feed
  have ascii : '\n'.toNat < 0x80 := by decide
  exact other (eq_of_mem_encode ascii feed)

end Text

namespace Console.InputLine

open Text

/-- Octets without a line feed go on the first line of what follows them. -/
theorem split_append {octets : List UInt8} (some : octets ≠ []) (none : (0x0A : UInt8) ∉ octets)
    (rest : List UInt8) :
    split (octets ++ rest) = match split rest with
      | [] => [octets]
      | line :: more => (octets ++ line) :: more := by
  induction octets with
  | nil => exact absurd rfl some
  | cons octet octets ih =>
    have other : octet ≠ 0x0A := by
      rintro rfl
      exact none List.mem_cons_self
    have there : (0x0A : UInt8) ∉ octets := fun member => none (List.mem_cons_of_mem _ member)
    rw [List.cons_append, split, if_neg other]
    cases octets with
    | nil => rfl
    | cons next octets =>
      rw [ih (List.cons_ne_nil next octets) there]
      cases split rest <;> rfl

theorem split_octets (text : List Char) : split (octets text) = (lines text).map octets := by
  induction text with
  | nil => rfl
  | cons c rest ih =>
    rw [octets_cons]
    by_cases feed : c = '\n'
    · subst feed
      rw [encode_feed, lines_feed, List.map_cons, ← ih]
      rfl
    · rw [split_append (encode_ne_nil c) (feed_not_mem_encode feed), ih, lines_cons feed]
      cases lines rest with
      | nil => simp
      | cons line more => simp

theorem ofOctets_octets (text : List Char) :
    ofOctets (octets text) = some (String.ofList text) := by
  have whole : (⟨(octets text).toArray⟩ : ByteArray) = (String.ofList text).toUTF8 := by
    apply ByteArray.ext
    exact List.data_toByteArray.symm
  rw [ofOctets, whole, Disk.fromUTF8?_toUTF8]

/-- The input of a text is its lines, all of them text. -/
theorem all_toUTF8 (text : String) :
    all text.toUTF8 = (lines text.toList).map fun line => some (String.ofList line) := by
  have whole : text.toUTF8.data.toList = octets text.toList := by
    rw [← @String.ofList_toList text, String.toList_ofList]
    change (List.toByteArray (octets text.toList)).data.toList = _
    rw [List.data_toByteArray, List.toList_toArray]
  rw [all, whole, split_octets, List.map_map]
  apply List.map_congr_left
  intro line _
  exact ofOctets_octets line

end Console.InputLine
end RecordStore

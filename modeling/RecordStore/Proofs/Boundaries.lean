import RecordStore.Proofs.Literals
import RecordStore.Proofs.Splitting

/-! Cutting between characters. A text can be cut between two offsets exactly where both are
positions of characters or its end. Two scans look at octets alone: the one for the word `AND` and
the one for quotes around a literal. What they look for is ASCII, so every offset that they cut at
is such a position. -/
namespace RecordStore

namespace Text

/-- Whether a text can be cut between two offsets: they are in order, and each of them is the
position of a character of the text or its end. -/
structure Sliceable (text : String) (start stop : Nat) : Prop where
  ordered : start ≤ stop
  left : String.Pos.Raw.IsValid text ⟨start⟩
  right : String.Pos.Raw.IsValid text ⟨stop⟩

variable {text : String} {start stop offset : Nat}

theorem utf8ByteSize_ofList (text : List Char) :
    (String.ofList text).utf8ByteSize = octetCount text := by
  induction text with
  | nil => rfl
  | cons c rest ih =>
    rw [String.ofList_cons, String.utf8ByteSize_append, String.utf8ByteSize_singleton, ih,
      octetCount]

theorem utf8ByteSize_eq (text : String) : text.utf8ByteSize = octetCount text.toList := by
  rw [← utf8ByteSize_ofList, String.ofList_toList]

theorem isValid_iff : String.Pos.Raw.IsValid text ⟨offset⟩ ↔
    ∃ front rear, text.toList = front ++ rear ∧ octetCount front = offset := by
  rw [String.Pos.Raw.isValid_iff_exists_append]
  constructor
  · rintro ⟨front, rear, rfl, same⟩
    refine ⟨front.toList, rear.toList, String.toList_append, ?_⟩
    rw [← utf8ByteSize_eq]
    exact (congrArg String.Pos.Raw.byteIdx same).symm
  · rintro ⟨front, rear, whole, rfl⟩
    refine ⟨String.ofList front, String.ofList rear, ?_, ?_⟩
    · rw [← String.ofList_append, ← whole, String.ofList_toList]
    · exact String.Pos.Raw.ext (utf8ByteSize_ofList front).symm

theorem eq_nil_of_octetCount {text : List Char} (none : octetCount text = 0) : text = [] := by
  cases text with
  | nil => rfl
  | cons c rest =>
    have size := Char.utf8Size_pos c
    rw [octetCount] at none
    omega

/-- Cutting fails in no other case. -/
theorem isSome_slice?_iff :
    (slice? start stop text.toList).isSome = true ↔ Sliceable text start stop := by
  rw [Option.isSome_iff_exists]
  constructor
  · rintro ⟨piece, cut⟩
    obtain ⟨front, rear, whole, rfl, rfl⟩ := slice?_eq_some_iff.1 cut
    constructor
    case ordered => exact Nat.le_add_right _ _
    case left => exact isValid_iff.2 ⟨front, piece ++ rear, whole, rfl⟩
    case right =>
      refine isValid_iff.2 ⟨front ++ piece, rear, ?_, octetCount_append ..⟩
      rw [whole, List.append_assoc]
  · rintro ⟨ordered, left, right⟩
    obtain ⟨front, behind, whole, rfl⟩ := isValid_iff.1 left
    obtain ⟨before, rear, same, rfl⟩ := isValid_iff.1 right
    rcases List.append_eq_append_iff.1 (whole.symm.trans same) with
      ⟨piece, rfl, rfl⟩ | ⟨more, rfl, -⟩
    · exact ⟨piece, slice?_eq_some_iff.2 ⟨front, rear, whole, rfl, (octetCount_append ..).symm⟩⟩
    · -- The offsets are in order, so there is nothing between them.
      rw [octetCount_append] at ordered
      have none : octetCount more = 0 := by omega
      obtain rfl := eq_nil_of_octetCount none
      rw [List.append_nil]
      exact ⟨[], slice?_eq_some_iff.2 ⟨before, rear, same, rfl, rfl⟩⟩

theorem sliceable_of_slice? {piece : List Char}
    (cut : slice? start stop text.toList = some piece) : Sliceable text start stop :=
  isSome_slice?_iff.1 (Option.isSome_of_eq_some cut)

end Text

/-- Where quotes are taken off, the text is cut between characters. -/
theorem Literal.slice?_of_enclosed {text : List Char} {octet : UInt8}
    (enclosed : Enclosed text octet) :
    Text.slice? 1 ((Text.octets text).length - 1) text = some (stripQuotes text) := by
  obtain ⟨quote, inner, either, rfl⟩ := exists_of_enclosed enclosed
  rw [stripQuotes_paired either, slice?_paired either]

namespace Console.Conjunction

open Text

/-- Parts that lie between two offsets, the last one up to the second, with the three octets of a
separator between each and the next. -/
inductive Spaced (stop : Nat) : Nat → List (Nat × Nat) → Prop where
  | last (start : Nat) : Spaced stop start [(start, stop)]
  | next {start cut : Nat} {more : List (Nat × Nat)} :
    Spaced stop (cut + 3) more → Spaced stop start ((start, cut) :: more)

/-- Whether a text falls into parts with separators between them and can be cut at the ends of each
part, and so behind each separator too. -/
structure Divides (text : String) (parts : List (Nat × Nat)) : Prop where
  spaced : Spaced text.utf8ByteSize 0 parts
  sliceable : ∀ part ∈ parts, Sliceable text part.1 part.2

/-- The conditions of a text, none for a blank one, with the pieces found character by character;
`none` if one of them is empty. -/
def conditionsByCharacter? (text : String) : Option (List String) :=
  let text := trim text.toList
  if text = [] then some []
  else
    let found := (split none none text).map trim
    if [] ∈ found then none else some (found.map String.ofList)

/-- The scan ends a part at each separator and starts the next one three octets on. -/
theorem spaced_spans (s : Scan) (octets : List UInt8) :
    Spaced (s.offset + octets.length) s.start (s.spans octets) := by
  induction octets generalizing s with
  | nil => exact .last s.start
  | cons octet rest ih =>
    rw [Scan.spans, List.length_cons, Nat.add_comm rest.length, ← Nat.add_assoc]
    split
    · exact ih { s with offset := s.offset + 1, before := some octet, skip := s.skip - 1 }
    split
    · exact .next (ih (s.separate octet))
    · exact ih (s.advance octet)

theorem divides_spans (text : String) : Divides text (spans text.toList) := by
  constructor
  case spaced =>
    have spaced := spaced_spans Scan.begin (octets text.toList)
    rwa [length_octets, ← utf8ByteSize_eq, Scan.begin, Nat.zero_add] at spaced
  case sliceable =>
    intro part member
    have among := List.mem_map_of_mem (f := fun part => slice? part.1 part.2 text.toList) member
    rw [slices_spans] at among
    obtain ⟨piece, -, cut⟩ := List.mem_map.1 among
    exact sliceable_of_slice? cut.symm

end Console.Conjunction

open Text Console.Conjunction Literal in
/-- The scans by octets cut no character. Wherever the scan for separators cuts, it cuts out the
piece that a scan by characters finds, so that it gives the same conditions; and the octets next to
a pair of quotes are where the text between them starts and ends. -/
theorem scans_cut_between_characters (text : String) :
    let scanned := trimString text
    let parts := spans scanned.toList
    Divides scanned parts ∧
      parts.map (fun part => slice? part.1 part.2 scanned.toList) =
        (split none none scanned.toList).map some ∧
      conditions? text = conditionsByCharacter? text ∧
      (∀ octet, Enclosed text.toList octet → Sliceable text 1 (text.utf8ByteSize - 1) ∧
        slice? 1 (text.utf8ByteSize - 1) text.toList = some (stripQuotes text.toList)) ∧
      ((∀ octet, ¬Enclosed text.toList octet) → stripQuotes text.toList = text.toList) := by
  refine ⟨divides_spans _, slices_spans _, conditions?_eq text, ?_, stripQuotes_of_not_enclosed⟩
  intro octet enclosed
  have cut := slice?_of_enclosed enclosed
  rw [length_octets, ← utf8ByteSize_eq] at cut
  exact ⟨sliceable_of_slice? cut, cut⟩

open Text Console.Conjunction Literal in
theorem scans_cut_between_characters_wide :
    let text := "'é' = a AND b = '€ and 𝄞'"
    let bare := "'é\""
    (spans text.toList = [(0, 9), (12, 31)] ∧ Sliceable text 0 9 ∧ Sliceable text 12 31 ∧
      conditionsByCharacter? text = some ["'é' = a", "b = '€ and 𝄞'"]) ∧
    (Enclosed text.toList 0x27 ∧ Sliceable text 1 30 ∧
      stripQuotes text.toList = "é' = a AND b = '€ and 𝄞".toList) ∧
    (∀ octet, ¬Enclosed bare.toList octet) ∧ stripQuotes bare.toList = bare.toList := by
  intro text bare
  have enclosed : Enclosed text.toList 0x27 := by
    constructor <;> decide +kernel
  have unlike : ∀ octet, ¬Enclosed bare.toList octet := by
    intro octet enclosed
    have first : (octets bare.toList).head? = some 0x27 := by decide +kernel
    have last : (octets bare.toList).getLast? = some 0x22 := by decide +kernel
    have same := (enclosed.first.symm.trans first).symm.trans (enclosed.last.symm.trans last)
    exact absurd same (by decide)
  have trimmed : trimString text = text := by decide +kernel
  have offsets : spans text.toList = [(0, 9), (12, 31)] := by decide +kernel
  have found : conditions? text = some ["'é' = a", "b = '€ and 𝄞'"] := by decide +kernel
  obtain ⟨divides, -, same, quoted, -⟩ := scans_cut_between_characters text
  obtain ⟨-, -, -, -, kept⟩ := scans_cut_between_characters bare
  rw [trimmed] at divides
  have cuts := divides.sliceable
  rw [offsets] at cuts
  have first := cuts (0, 9) (by simp)
  have second := cuts (12, 31) (by simp)
  refine ⟨⟨offsets, first, second, same.symm.trans found⟩, ?_, unlike, kept unlike⟩
  exact ⟨enclosed, (quoted _ enclosed).1, by decide +kernel⟩

end RecordStore

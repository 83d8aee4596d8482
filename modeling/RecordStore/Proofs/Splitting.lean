import RecordStore.Console.Conjunction
import RecordStore.Proofs.Octets
import RecordStore.Proofs.Spelling
import RecordStore.Proofs.Trimming

/-! Splitting at `AND` by characters. Quotes, blanks and the letters of `AND` are ASCII, and no
octet of any other character is, so a scan by octets stops only between characters. Therefore it
cuts a text where a scan by characters does, which is the one to reason about. -/
namespace RecordStore.Console.Conjunction

open Text

/-- The characters that stand around a separator. -/
def isGap (c : Char) : Bool := [' ', '\t', '\n', '\x0c', '\r'].contains c

/-- The quote that is open after a character. -/
def quoteAfter (quote : Option Char) (c : Char) : Option Char :=
  match quote with
  | some opened => if c = opened then none else some opened
  | none => if c = '"' ∨ c = '\'' then some c else none

/-- Whether a text starts with the word `AND` and a blank or the end after it. -/
def startsWord (text : List Char) : Bool :=
  equalsIgnoringAsciiCase (text.take 3) "AND".toList && (text.drop 3).head?.all isGap

/-- Whether a separator starts a text that stands after a character, if any, and in quotes, if
any. -/
def separates (before quote : Option Char) (text : List Char) : Bool :=
  quote.isNone && before.all isGap && startsWord text

/-- The pieces between the separators, as they stand. -/
def split (before quote : Option Char) : List Char → List (List Char)
  | [] => [[]]
  | c :: rest =>
    if separates before quote (c :: rest) then [] :: split (some c) none (rest.drop 2)
    else (split (some c) (quoteAfter quote c) rest).modifyHead (c :: ·)
termination_by text => text.length

/-- The octet of a character of ASCII. -/
def code (c : Char) : UInt8 := UInt8.ofNat c.toNat

variable {c : Char} {octet : UInt8} {text rest : List Char} {whole rear : List UInt8}

theorem toNat_code (ascii : c.toNat < 0x80) : (code c).toNat = c.toNat := by
  rw [code, UInt8.toNat_ofNat']
  omega

theorem eq_code_iff (ascii : c.toNat < 0x80) : octet = code c ↔ octet.toNat = c.toNat := by
  rw [← UInt8.toNat_inj, toNat_code ascii]

/-! Open quotes. -/

theorem isQuote_of_mem_quoteAfter {quote : Option Char} (opened : ∀ q ∈ quote, q = '"' ∨ q = '\'') :
    ∀ q ∈ quoteAfter quote c, q = '"' ∨ q = '\'' := by
  intro q held
  unfold quoteAfter at held
  split at held
  · split at held
    · cases held
    · exact opened q held
  · split at held
    · next isQuote => exact Option.mem_some.1 held ▸ isQuote
    · cases held

theorem quoteAfter_of_other {quote : Option Char} (opened : ∀ q ∈ quote, q = '"' ∨ q = '\'')
    (double : c ≠ '"') (single : c ≠ '\'') : quoteAfter quote c = quote := by
  cases quote with
  | none => simp [quoteAfter, double, single]
  | some q =>
    have other : c ≠ q := by
      rcases opened q rfl with rfl | rfl
      · exact double
      · exact single
    simp [quoteAfter, other]

/-! The octets that the scan looks for. -/

theorem isAsciiBlank_iff : isAsciiBlank octet = true ↔ octet.toNat ∈ [32, 9, 10, 12, 13] := by
  simp [isAsciiBlank, ← UInt8.toNat_inj, or_assoc]

theorem isQuote_iff : isQuote octet = true ↔ octet.toNat = 34 ∨ octet.toNat = 39 := by
  simp [isQuote, ← UInt8.toNat_inj]

theorem isGap_iff : isGap c = true ↔ c.toNat ∈ [32, 9, 10, 12, 13] := by
  simp [isGap, ← Char.toNat_inj]

theorem ascii_of_isGap (gap : isGap c = true) : c.toNat < 0x80 := by
  have among := isGap_iff.1 gap
  simp only [List.mem_cons, List.not_mem_nil, or_false] at among
  omega

theorem ascii_of_isAsciiBlank (blank : isAsciiBlank octet = true) : octet.toNat < 0x80 := by
  have among := isAsciiBlank_iff.1 blank
  simp only [List.mem_cons, List.not_mem_nil, or_false] at among
  omega

theorem isAsciiBlank_code (ascii : c.toNat < 0x80) : isAsciiBlank (code c) = isGap c := by
  rw [Bool.eq_iff_iff, isAsciiBlank_iff, isGap_iff, toNat_code ascii]

theorem isQuote_code (ascii : c.toNat < 0x80) :
    isQuote (code c) = true ↔ c = '"' ∨ c = '\'' := by
  rw [isQuote_iff, toNat_code ascii, ← Char.toNat_inj, ← Char.toNat_inj]
  rfl

theorem toNat_lowerOctet (octet : UInt8) : (lowerOctet octet).toNat =
    if 65 ≤ octet.toNat ∧ octet.toNat ≤ 90 then octet.toNat + 32 else octet.toNat := by
  have capital : 0x41 ≤ octet ∧ octet ≤ 0x5A ↔ 65 ≤ octet.toNat ∧ octet.toNat ≤ 90 := by
    simp [UInt8.le_iff_toNat_le]
  unfold lowerOctet
  by_cases letter : 0x41 ≤ octet ∧ octet ≤ 0x5A
  · rw [if_pos letter, if_pos (capital.1 letter), UInt8.toNat_add]
    have := (capital.1 letter).2
    change (octet.toNat + 32) % 256 = octet.toNat + 32
    omega
  · rw [if_neg letter, if_neg (mt capital.2 letter)]

theorem octets_cons_ascii (ascii : c.toNat < 0x80) :
    octets (c :: rest) = code c :: octets rest := by
  rw [octets_cons, encode_ascii ascii]
  rfl

/-- An octet of ASCII that octets of a text begin with is its first character. -/
theorem exists_cons_of_octets (ascii : octet.toNat < 0x80) (first : octets text = octet :: rear) :
    ∃ c rest, text = c :: rest ∧ c.toNat = octet.toNat ∧ octets rest = rear := by
  cases text with
  | nil => cases first
  | cons c rest =>
    by_cases narrow : c.toNat < 0x80
    · rw [octets_cons_ascii narrow, List.cons.injEq] at first
      refine ⟨c, rest, rfl, ?_, first.2⟩
      rw [← first.1, toNat_code narrow]
    · have member : octet ∈ String.utf8EncodeChar c := by
        rw [octets_cons] at first
        obtain ⟨head, tail, encoded⟩ := List.exists_cons_of_ne_nil (encode_ne_nil c)
        rw [encoded, List.cons_append, List.cons.injEq] at first
        rw [encoded, first.1]
        exact List.mem_cons_self
      have high := le_of_mem_encode (Nat.le_of_not_lt narrow) member
      omega

theorem all_head?_octets (text : List Char) :
    (octets text).head?.all isAsciiBlank = text.head?.all isGap := by
  rw [Bool.eq_iff_iff]
  constructor
  · intro blank
    cases first : octets text with
    | nil =>
      cases text with
      | nil => rfl
      | cons c rest =>
        rw [octets_cons, List.append_eq_nil_iff] at first
        exact absurd first.1 (encode_ne_nil c)
    | cons octet rear =>
      rw [first, List.head?_cons, Option.all_some] at blank
      obtain ⟨c, rest, rfl, same, -⟩ := exists_cons_of_octets (ascii_of_isAsciiBlank blank) first
      exact isGap_iff.2 (same ▸ isAsciiBlank_iff.1 blank)
  · intro gap
    cases text with
    | nil => rfl
    | cons c rest =>
      rw [List.head?_cons, Option.all_some] at gap
      have ascii := ascii_of_isGap gap
      rw [octets_cons_ascii ascii]
      exact (isAsciiBlank_code ascii).trans gap

theorem startsWithAnd_iff : startsWithAnd whole = true ↔ ∃ a n d rear,
    whole = a :: n :: d :: rear ∧ (a.toNat = 65 ∨ a.toNat = 97) ∧ (n.toNat = 78 ∨ n.toNat = 110) ∧
      (d.toNat = 68 ∨ d.toNat = 100) ∧ rear.head?.all isAsciiBlank = true := by
  have lower (o letter : UInt8) (small : 97 ≤ letter.toNat ∧ letter.toNat ≤ 122) :
      lowerOctet o = letter ↔ o.toNat + 32 = letter.toNat ∨ o.toNat = letter.toNat := by
    rw [← UInt8.toNat_inj, toNat_lowerOctet]
    split <;> omega
  match whole with
  | [] | [_] | [_, _] => simp [startsWithAnd]
  | a :: n :: d :: rear =>
    simp [startsWithAnd, lower]
    grind

theorem startsWord_iff : startsWord text = true ↔ ∃ a n d rest,
    text = a :: n :: d :: rest ∧ (a.toNat = 65 ∨ a.toNat = 97) ∧ (n.toNat = 78 ∨ n.toNat = 110) ∧
      (d.toNat = 68 ∨ d.toNat = 100) ∧ rest.head?.all isGap = true := by
  have upper (c letter : Char) (capital : 65 ≤ letter.toNat ∧ letter.toNat ≤ 90) :
      c.toUpper = letter ↔ c.toNat = letter.toNat ∨ c.toNat = letter.toNat + 32 := by
    rw [← Char.toNat_inj, toNat_toUpper]
    split <;> omega
  match text with
  | [] | [_] | [_, _] => simp [startsWord, equalsIgnoringAsciiCase]
  | a :: n :: d :: rest =>
    simp [startsWord, equalsIgnoringAsciiCase, upper]
    grind

theorem startsWithAnd_octets (text : List Char) :
    startsWithAnd (octets text) = startsWord text := by
  rw [Bool.eq_iff_iff, startsWithAnd_iff, startsWord_iff]
  constructor
  · rintro ⟨a, n, d, rear, same, first, second, third, gap⟩
    have asciiA : a.toNat < 0x80 := by omega
    have asciiN : n.toNat < 0x80 := by omega
    have asciiD : d.toNat < 0x80 := by omega
    obtain ⟨a', rest, rfl, sameA, same⟩ := exists_cons_of_octets asciiA same
    obtain ⟨n', rest, rfl, sameN, same⟩ := exists_cons_of_octets asciiN same
    obtain ⟨d', rest, rfl, sameD, same⟩ := exists_cons_of_octets asciiD same
    rw [← same, all_head?_octets] at gap
    exact ⟨a', n', d', rest, rfl, sameA ▸ first, sameN ▸ second, sameD ▸ third, gap⟩
  · rintro ⟨a, n, d, rest, rfl, first, second, third, gap⟩
    have asciiA : a.toNat < 0x80 := by omega
    have asciiN : n.toNat < 0x80 := by omega
    have asciiD : d.toNat < 0x80 := by omega
    refine ⟨code a, code n, code d, octets rest, ?_, ?_, ?_, ?_, ?_⟩
    · rw [octets_cons_ascii asciiA, octets_cons_ascii asciiN, octets_cons_ascii asciiD]
    · rwa [toNat_code asciiA]
    · rwa [toNat_code asciiN]
    · rwa [toNat_code asciiD]
    · rwa [all_head?_octets]

theorem modifyHead_nil_append (pieces : List (List Char)) :
    pieces.modifyHead ([] ++ ·) = pieces := by
  cases pieces <;> rfl

/-! The scan by octets, followed by characters. -/

/-- Octets that are not ASCII are passed over, in quotes or outside. -/
theorem spans_high {front : List UInt8} (high : ∀ octet ∈ front, 0x80 ≤ octet.toNat) {s : Scan}
    (idle : s.skip = 0) (opened : ∀ octet ∈ s.quote, octet.toNat < 0x80) (rear : List UInt8) :
    s.spans (front ++ rear) = Scan.spans { s with
      offset := s.offset + front.length
      before := front.getLast?.or s.before } rear := by
  induction front generalizing s with
  | nil => rfl
  | cons octet front ih =>
    obtain ⟨first, others⟩ := List.forall_mem_cons.1 high
    have unseparated : s.atSeparator (octet :: (front ++ rear)) = false := by
      have other : startsWithAnd (octet :: (front ++ rear)) = false := by
        rw [Bool.eq_false_iff]
        intro starts
        obtain ⟨a, n, d, rear, same, letter, -⟩ := startsWithAnd_iff.1 starts
        obtain ⟨rfl, -⟩ := List.cons.inj same
        omega
      simp [Scan.atSeparator, other]
    have quote : (s.advance octet).quote = s.quote := by
      cases held : s.quote with
      | none =>
        have plain : isQuote octet = false := by
          rw [Bool.eq_false_iff, Ne, isQuote_iff]
          omega
        simp [Scan.advance, held, plain]
      | some open_ =>
        have ascii := opened open_ held
        have other : octet ≠ open_ := by
          rintro rfl
          omega
        simp [Scan.advance, held, other]
    rw [List.cons_append, Scan.spans, if_neg (by simp [idle]), unseparated,
      if_neg (by simp), ih others (by exact idle) (by rwa [quote]), quote]
    simp [Scan.advance, List.getLast?_cons, Nat.add_assoc, Nat.add_comm 1]

/-- Whether a scan by octets that has cut off the text `done` and is behind the text `piece` since
stands where a scan by characters does. -/
structure Scan.Follows (s : Scan) (done piece : List Char) (before quote : Option Char) : Prop where
  start : s.start = octetCount done
  offset : s.offset = octetCount done + octetCount piece
  idle : s.skip = 0
  gap : s.before.all isAsciiBlank = before.all isGap
  quoted : s.quote = quote.map code
  opened : ∀ c ∈ quote, c = '"' ∨ c = '\''

namespace Scan.Follows

variable {s : Scan} {done piece : List Char} {before quote : Option Char}

theorem atSeparator (follows : s.Follows done piece before quote) (text : List Char) :
    s.atSeparator (octets text) = separates before quote text := by
  rw [Scan.atSeparator, follows.quoted, follows.gap, startsWithAnd_octets, Option.isNone_map]
  rfl

/-- At a separator a piece ends, and the next one starts behind the separator. -/
theorem separate (follows : s.Follows done piece before quote)
    (apart : separates before quote text = true) :
    ∃ a n d rest next, text = a :: n :: d :: rest ∧
      s.spans (octets text) = (octetCount done, octetCount done + octetCount piece) ::
        Scan.spans next (octets rest) ∧
      next.Follows (done ++ (piece ++ [a, n, d])) [] (some a) none := by
  have found := (follows.atSeparator text).trans apart
  simp only [separates, Bool.and_eq_true, Option.isNone_iff_eq_none] at apart
  obtain ⟨⟨rfl, -⟩, starts⟩ := apart
  obtain ⟨a, n, d, rest, rfl, first, second, third, -⟩ := startsWord_iff.1 starts
  have asciiA : a.toNat < 0x80 := by omega
  have asciiN : n.toNat < 0x80 := by omega
  have asciiD : d.toNat < 0x80 := by omega
  have whole : octets (a :: n :: d :: rest) = code a :: code n :: code d :: octets rest := by
    rw [octets_cons_ascii asciiA, octets_cons_ascii asciiN, octets_cons_ascii asciiD]
  have size : octetCount [a, n, d] = 3 := by
    rw [← length_octets, octets_cons_ascii asciiA, octets_cons_ascii asciiN,
      octets_cons_ascii asciiD]
    rfl
  have solid (letter : Char) (notBlank : letter.toNat ∉ [32, 9, 10, 12, 13]) :
      isGap letter = false := by
    rwa [Bool.eq_false_iff, Ne, isGap_iff]
  refine ⟨a, n, d, rest, ⟨s.offset + 3, s.offset + 3, some (code d), s.quote, 0⟩, rfl, ?_, ?_⟩
  · rw [whole] at found ⊢
    rw [Scan.spans, if_neg (by simp [follows.idle]), if_pos found]
    exact congrArg₂ List.cons (Prod.ext follows.start follows.offset) rfl
  · constructor
    case start => rw [octetCount_append, octetCount_append, size, follows.offset, Nat.add_assoc]
    case offset =>
      rw [octetCount_append, octetCount_append, size, follows.offset, Nat.add_assoc]
      rfl
    case idle => rfl
    case gap =>
      rw [Option.all_some, Option.all_some, isAsciiBlank_code asciiD, solid d (by simp; omega),
        solid a (by simp; omega)]
    case quoted => exact follows.quoted
    case opened => rintro _ ⟨⟩

theorem narrow (follows : s.Follows done piece before quote) :
    ∀ opened ∈ quote, opened.toNat < 0x80 := by
  intro opened held
  rcases follows.opened opened held with rfl | rfl <;> decide

theorem advance_ascii (follows : s.Follows done piece before quote) (ascii : c.toNat < 0x80) :
    (s.advance (code c)).Follows done (piece ++ [c]) (some c) (quoteAfter quote c) := by
  constructor
  case start => exact follows.start
  case offset =>
    have size : octetCount [c] = 1 := by
      rw [← length_octets, octets_cons_ascii ascii]
      rfl
    rw [octetCount_append, size, ← Nat.add_assoc, ← follows.offset]
    rfl
  case idle => exact follows.idle
  case gap => exact isAsciiBlank_code ascii
  case quoted =>
    rw [Scan.advance, follows.quoted]
    cases quote with
    | none =>
      simp only [Option.map_none, quoteAfter, isQuote_code ascii, apply_ite (Option.map code),
        Option.map_some]
    | some opened =>
      have same : code c = code opened ↔ c = opened := by
        rw [eq_code_iff (follows.narrow opened rfl), toNat_code ascii, Char.toNat_inj]
      simp only [Option.map_some, quoteAfter, same, apply_ite (Option.map code), Option.map_none]
  case opened => exact isQuote_of_mem_quoteAfter follows.opened

/-- A character that is not ASCII is no blank and no quote, and neither is any of its octets. -/
theorem advance_wide (follows : s.Follows done piece before quote) (wide : 0x80 ≤ c.toNat) :
    ∃ next, s.spans (octets (c :: rest)) = Scan.spans next (octets rest) ∧
      next.Follows done (piece ++ [c]) (some c) (quoteAfter quote c) := by
  have high : ∀ octet ∈ String.utf8EncodeChar c, 0x80 ≤ octet.toNat := by
    intro octet member
    exact le_of_mem_encode wide member
  have opened : ∀ octet ∈ s.quote, octet.toNat < 0x80 := by
    intro octet held
    rw [follows.quoted] at held
    obtain ⟨opened, within, rfl⟩ := Option.map_eq_some_iff.1 held
    rw [toNat_code (follows.narrow opened within)]
    exact follows.narrow opened within
  refine ⟨_, spans_high high follows.idle opened (octets rest), ?_⟩
  constructor
  case start => exact follows.start
  case offset =>
    rw [octetCount_append, ← Nat.add_assoc, ← follows.offset, String.length_utf8EncodeChar]
    rfl
  case idle => exact follows.idle
  case gap =>
    have solid : isGap c = false := by
      rw [Bool.eq_false_iff]
      intro gap
      exact Nat.not_lt_of_le wide (ascii_of_isGap gap)
    have last := List.getLast?_eq_some_getLast (encode_ne_nil c)
    have blank : isAsciiBlank ((String.utf8EncodeChar c).getLast (encode_ne_nil c)) = false := by
      rw [Bool.eq_false_iff]
      intro blank
      exact Nat.not_lt_of_le (high _ (List.getLast_mem _)) (ascii_of_isAsciiBlank blank)
    rw [last, Option.some_or, Option.all_some, Option.all_some, blank, solid]
  case quoted =>
    have double : c ≠ '"' := by
      rintro rfl
      exact absurd wide (by decide)
    have single : c ≠ '\'' := by
      rintro rfl
      exact absurd wide (by decide)
    rw [quoteAfter_of_other follows.opened double single]
    exact follows.quoted
  case opened => exact isQuote_of_mem_quoteAfter follows.opened

/-- Elsewhere the piece goes on. -/
theorem advance (follows : s.Follows done piece before quote)
    (inside : separates before quote (c :: rest) = false) :
    ∃ next, s.spans (octets (c :: rest)) = Scan.spans next (octets rest) ∧
      next.Follows done (piece ++ [c]) (some c) (quoteAfter quote c) := by
  by_cases ascii : c.toNat < 0x80
  · have unseparated := (follows.atSeparator (c :: rest)).trans inside
    refine ⟨s.advance (code c), ?_, follows.advance_ascii ascii⟩
    rw [octets_cons_ascii ascii] at unseparated ⊢
    rw [Scan.spans, if_neg (by simp [follows.idle]), unseparated, if_neg (by simp)]
  · exact follows.advance_wide (Nat.le_of_not_lt ascii)

/-- Each pair of offsets cuts out what lies between two separators. -/
theorem slices (follows : s.Follows done piece before quote) (text : List Char) :
    (s.spans (octets text)).map
        (fun span => slice? span.1 span.2 (done ++ (piece ++ text))) =
      ((split before quote text).modifyHead (piece ++ ·)).map some := by
  have cut (text : List Char) : slice? (octetCount done) (octetCount done + octetCount piece)
      (done ++ (piece ++ text)) = some piece := slice?_append done piece text
  induction before, quote, text using split.induct generalizing s done piece with
  | case1 before quote =>
    rw [octets_nil, Scan.spans, follows.start, follows.offset, List.map_singleton, cut, split]
    simp
  | case2 before quote c rest apart ih =>
    obtain ⟨a, n, d, tail, next, same, spans, following⟩ := follows.separate apart
    obtain ⟨rfl, rfl⟩ := List.cons.inj same
    have later := ih following (slice?_append _ _)
    rw [modifyHead_nil_append] at later
    rw [split, if_pos apart, spans, List.map_cons, cut]
    simpa using later
  | case3 before quote c rest inside ih =>
    obtain ⟨next, spans, following⟩ := follows.advance (Bool.eq_false_iff.2 inside)
    have later := ih following (slice?_append _ _)
    rw [split, if_neg inside, spans, List.modifyHead_modifyHead]
    simpa [Function.comp_def] using later

end Scan.Follows

/-- Every cut falls between characters: no pair of offsets fails to cut out its piece. -/
theorem slices_spans (text : List Char) :
    (spans text).map (fun span => slice? span.1 span.2 text) =
      (split none none text).map some := by
  have follows : Scan.begin.Follows [] [] none none := by
    constructor
    case opened => rintro _ ⟨⟩
    all_goals rfl
  have cut := follows.slices text
  rwa [modifyHead_nil_append] at cut

/-- Cutting by octets is cutting by characters. -/
theorem pieces_spans (text : List Char) : pieces text (spans text) = split none none text := by
  have kept : pieces text (spans text) =
      ((spans text).map fun span => slice? span.1 span.2 text).filterMap id := by
    rw [List.filterMap_map, Function.id_comp]
    rfl
  rw [kept, slices_spans, List.filterMap_map, Function.id_comp, List.filterMap_some]

theorem split_ne_nil (before quote : Option Char) (text : List Char) :
    split before quote text ≠ [] := by
  induction before, quote, text using split.induct with
  | case1 => simp [split]
  | case2 before quote c rest apart => simp [split, apart]
  | case3 before quote c rest inside ih => simpa [split, inside] using ih

/-- The conditions of a text, found by characters. -/
theorem conditions?_eq (text : String) : conditions? text =
    if trim text.toList = [] then some []
    else
      let found := (split none none (trim text.toList)).map trim
      if [] ∈ found then none else some (found.map String.ofList) := by
  have anyEmpty (found : List (List Char)) : found.any (·.isEmpty) = true ↔ [] ∈ found := by
    simp [List.any_eq_true]
  simp only [conditions?, List.isEmpty_iff, pieces_spans, anyEmpty]

theorem conditions?_trim (text : List Char) :
    conditions? (String.ofList (trim text)) = conditions? (String.ofList text) := by
  simp only [conditions?_eq, String.toList_ofList, trim_trim]

/-- Unless it is blank, a text that has conditions has one at least. -/
theorem ne_nil_of_conditions? {text : String} (solid : trim text.toList ≠ [])
    {found : List String} (accepted : conditions? text = some found) : found ≠ [] := by
  rw [conditions?_eq, if_neg solid] at accepted
  simp only [] at accepted
  split at accepted
  · cases accepted
  · cases accepted
    simp [split_ne_nil]

end RecordStore.Console.Conjunction

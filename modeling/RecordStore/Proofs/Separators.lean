import Mathlib.Tactic.MkIffOfInductiveProp
import RecordStore.Proofs.Joining

/-! The word `AND` between blanks and outside quotes. A text holds it where a reader would: between
blanks of any kind or ends, and outside every pair of quotes, where a quote that does not come again
makes no pair. The scan takes it for a separator in fewer places, between blanks of ASCII or ends
and where no quote is open, so that it misses a word beside another blank or behind a lone quote. -/
namespace RecordStore.Console.Conjunction

open Text

/-- The pair of quotes that is open after a character. -/
def pairAfter (pair : Option Char) (c : Char) (rest : List Char) : Option Char :=
  if pair = none ∧ c ∉ rest then none else quoteAfter pair c

/-- The pair of quotes that is open between two parts of a text. -/
def openPair (pair : Option Char) : List Char → List Char → Option Char
  | [], _ => pair
  | c :: front, rear => openPair (pairAfter pair c (front ++ rear)) front rear

/-- Whether a word stands by itself between two parts of a text. -/
@[mk_iff]
structure Stands (front word rear : List Char) : Prop where
  spelled : equalsIgnoringAsciiCase word "AND".toList = true
  left : front.getLast?.all isBlank = true
  right : rear.head?.all isBlank = true
  outside : openPair none front (word ++ rear) = none

/-- Whether the word `AND` stands by itself in a text. -/
def HoldsWord (text : List Char) : Prop :=
  ∃ front word rear, text = front ++ (word ++ rear) ∧ Stands front word rear

/-- Whether the word `AND` between two parts of a text would be a separator. -/
@[mk_iff]
structure Cuts (front rear : List Char) : Prop where
  left : front.getLast?.all isGap = true
  right : rear.head?.all isGap = true
  closed : openQuote none front = none

/-- Whether the word `AND` stands by itself somewhere in a text and is no separator: a blank beside
it is none of ASCII, or a quote before it is never closed. -/
def Misses (text : List Char) : Prop :=
  ∃ front word rear, text = front ++ (word ++ rear) ∧ Stands front word rear ∧ ¬Cuts front rear

variable {front word rear f w r more blanks text : List Char} {pair : Option Char}

/-! Pairs of quotes. -/

theorem openQuote_append (quote : Option Char) (front rear : List Char) :
    openQuote quote (front ++ rear) = openQuote (openQuote quote front) rear := List.foldl_append

theorem isQuote_of_mem_openQuote {quote : Option Char}
    (opened : ∀ q ∈ quote, q = '"' ∨ q = '\'') :
    ∀ q ∈ openQuote quote text, q = '"' ∨ q = '\'' := by
  induction text generalizing quote with
  | nil => exact opened
  | cons c text ih => exact ih (isQuote_of_mem_quoteAfter opened)

/-- A quote is closed by itself only. -/
theorem mem_of_openQuote {quote : Char} (closed : openQuote (some quote) text = none) :
    quote ∈ text := by
  induction text with
  | nil => cases closed
  | cons c text ih =>
    by_cases same : c = quote
    · exact same ▸ List.mem_cons_self
    · have still : quoteAfter (some quote) c = some quote := if_neg same
      rw [openQuote, List.foldl_cons, still] at closed
      exact List.mem_cons_of_mem c (ih closed)

theorem quoteAfter_none (c : Char) : quoteAfter none c = none ∨ quoteAfter none c = some c := by
  change (if _ then some c else none) = none ∨ (if _ then some c else none) = some c
  split
  · exact .inr rfl
  · exact .inl rfl

theorem openPair_append (pair : Option Char) (front more rear : List Char) :
    openPair pair (front ++ more) rear =
      openPair (openPair pair front (more ++ rear)) more rear := by
  induction front generalizing pair with
  | nil => rfl
  | cons c front ih => rw [List.cons_append, openPair, ih, openPair, List.append_assoc]

/-- In a text that closes its quotes, each of them belongs to a pair. -/
theorem openPair_of_closed (closed : openQuote pair (front ++ rear) = none) (more : List Char) :
    openPair pair front (rear ++ more) = openQuote pair front := by
  induction front generalizing pair with
  | nil => rfl
  | cons c front ih =>
    rw [List.cons_append, openQuote, List.foldl_cons] at closed
    have paired : pairAfter pair c (front ++ (rear ++ more)) = quoteAfter pair c := by
      unfold pairAfter
      split
      · next lone =>
        obtain ⟨rfl, absent⟩ := lone
        rcases quoteAfter_none c with plain | opened
        · exact plain.symm
        · rw [opened] at closed
          rw [← List.append_assoc] at absent
          exact absurd (List.mem_append_left more (mem_of_openQuote closed)) absent
      · rfl
    rw [openPair, paired, ih closed, openQuote, openQuote, List.foldl_cons]

/-- Before the end of such a text the pairs do not depend on what follows it. -/
theorem openPair_before (closed : openQuote pair (front ++ rear) = none) (more : List Char) :
    openPair pair front (rear ++ more) = openPair pair front rear := by
  have alone := openPair_of_closed closed []
  rw [List.append_nil] at alone
  rw [openPair_of_closed closed, alone]

theorem openPair_eq_none (closed : openQuote none front = none) (rear : List Char) :
    openPair none front rear = none := by
  have alone : openQuote none (front ++ []) = none := by rwa [List.append_nil]
  exact (openPair_of_closed alone rear).trans closed

/-- Where a text closes its quotes, the pairs behind it do not depend on it. -/
theorem openPair_behind (closed : openQuote none front = none) (more rear : List Char) :
    openPair none (front ++ more) rear = openPair none more rear := by
  rw [openPair_append, openPair_eq_none closed]

theorem pairAfter_of_plain {c : Char} (double : c ≠ '"') (single : c ≠ '\'') (rest : List Char) :
    pairAfter pair c rest = quoteAfter pair c := by
  unfold pairAfter
  split
  · next lone =>
    obtain ⟨rfl, -⟩ := lone
    exact (quoteAfter_of_other (by rintro _ ⟨⟩) double single).symm
  · rfl

/-- Blanks at the end of a text close no pair. -/
theorem openPair_append_blank (blank : Blank blanks) (pair : Option Char) (front rear : List Char) :
    openPair pair front (rear ++ blanks) = openPair pair front rear := by
  induction front generalizing pair with
  | nil => rfl
  | cons c front ih =>
    have same : pairAfter pair c (front ++ (rear ++ blanks)) =
        pairAfter pair c (front ++ rear) := by
      by_cases member : c ∈ blanks
      · obtain ⟨double, single⟩ := plain_of_blank blank c member
        rw [pairAfter_of_plain double single, pairAfter_of_plain double single]
      · simp only [pairAfter, List.mem_append, member, or_false]
    rw [openPair, openPair, same, ih]

/-! The word `AND`. -/

section
variable (spelled : equalsIgnoringAsciiCase word "AND".toList = true)
include spelled

theorem solid_of_spelled : ∀ c ∈ word, isBlank c = false := visible_of_spelled spelled (by decide)

theorem plain_of_spelled : ∀ c ∈ word, c ≠ '"' ∧ c ≠ '\'' := by
  have letter : ∀ c ∈ word, isCapital c.toUpper = true := by
    rw [equalsIgnoringAsciiCase, beq_iff_eq] at spelled
    intro c member
    have raised : c.toUpper ∈ "AND".toList := spelled ▸ List.mem_map_of_mem member
    exact List.all_eq_true.1 (by decide : "AND".toList.all isCapital = true) _ raised
  intro c member
  constructor
  · rintro rfl
    exact absurd (letter _ member) (by decide)
  · rintro rfl
    exact absurd (letter _ member) (by decide)

theorem length_of_spelled : word.length = 3 := by
  obtain ⟨a, n, d, rfl⟩ := exists_of_spelled spelled
  rfl

theorem eq_nil_of_spelled (whole : equalsIgnoringAsciiCase (front ++ (word ++ rear)) "AND".toList =
    true) : front = [] ∧ rear = [] := by
  have lengths := length_of_spelled whole
  simp only [List.length_append, length_of_spelled spelled] at lengths
  exact ⟨List.eq_nil_of_length_eq_zero (by omega), List.eq_nil_of_length_eq_zero (by omega)⟩

/-- The word does not lie across a blank, so it is in one part or the other. -/
theorem within_append {a b : List Char}
    (apart : a.getLast?.all isBlank = true ∨ b.head?.all isBlank = true)
    (whole : a ++ b = front ++ (word ++ rear)) :
    (∃ r, a = front ++ (word ++ r) ∧ rear = r ++ b) ∨
      ∃ f, b = f ++ (word ++ rear) ∧ front = a ++ f := by
  rcases List.append_eq_append_iff.1 whole with ⟨f, same, behind⟩ | ⟨x, same, behind⟩
  · exact .inr ⟨f, behind, same⟩
  rcases List.append_eq_append_iff.1 behind with ⟨r, same', rest⟩ | ⟨y, across, rest⟩
  · exact .inl ⟨r, by rw [same, same'], rest⟩
  rcases List.eq_nil_or_concat x with rfl | ⟨x, c, rfl⟩
  · exact .inr ⟨[], by rw [rest, across]; rfl, by simpa using same.symm⟩
  cases y with
  | nil => exact .inl ⟨[], by simp [same, across], by simpa using rest.symm⟩
  | cons d y =>
    have letters := solid_of_spelled spelled
    have before : isBlank c = false := letters c (by simp [across])
    have behind : isBlank d = false := letters d (by simp [across])
    rw [same, rest] at apart
    simp [← List.append_assoc, before, behind] at apart

end

/-! Parts that do not touch the word. -/

theorem isBlank_of_all_isGap {c? : Option Char} (gap : c?.all isGap = true) :
    c?.all isBlank = true := by
  cases c? with
  | none => rfl
  | some c => exact isBlank_of_isGap gap

theorem all_getLast?_append {p : Char → Bool} (apart : front.getLast?.all p = true ∨ f ≠ []) :
    (front ++ f).getLast?.all p = f.getLast?.all p := by
  cases f with
  | nil => simpa using apart
  | cons c f => rw [List.getLast?_append_of_ne_nil front (List.cons_ne_nil c f)]

theorem all_head?_append {p : Char → Bool} (apart : r ≠ [] ∨ more.head?.all p = true) :
    (r ++ more).head?.all p = r.head?.all p := by
  cases r with
  | nil => simpa using apart
  | cons c r => rfl

/-- Behind a text that closes its quotes the word stands as it would by itself. -/
theorem stands_behind (closed : openQuote none front = none)
    (apart : front.getLast?.all isBlank = true ∨ f ≠ []) :
    Stands (front ++ f) w r ↔ Stands f w r := by
  rw [stands_iff, stands_iff, all_getLast?_append apart, openPair_behind closed]

theorem cuts_behind (closed : openQuote none front = none) (visible : f ≠ []) :
    Cuts (front ++ f) r ↔ Cuts f r := by
  rw [cuts_iff, cuts_iff, all_getLast?_append (.inr visible), openQuote_append, closed]

/-- Before a text that closes no pair the word stands as it would by itself. -/
theorem stands_before (pair : openPair none f (w ++ r ++ more) = openPair none f (w ++ r))
    (apart : r ≠ [] ∨ more.head?.all isBlank = true) :
    Stands f w (r ++ more) ↔ Stands f w r := by
  rw [stands_iff, stands_iff, all_head?_append apart, ← List.append_assoc, pair]

/-! Blanks around a text. -/

theorem all_head?_of_blank (blank : Blank blanks) : blanks.head?.all isBlank = true := by
  cases blanks with
  | nil => rfl
  | cons c blanks => exact blank c List.mem_cons_self

theorem all_getLast?_of_blank (blank : Blank blanks) : blanks.getLast?.all isBlank = true := by
  cases last : blanks.getLast? with
  | none => rfl
  | some c => exact blank c (List.mem_of_getLast? last)

theorem not_blank_of_spelled (spelled : equalsIgnoringAsciiCase word "AND".toList = true) :
    ¬Blank (front ++ (word ++ rear)) := by
  intro blank
  obtain ⟨a, n, d, rfl⟩ := exists_of_spelled spelled
  have visible : isBlank a = false := solid_of_spelled spelled a (by simp)
  rw [blank a (by simp)] at visible
  cases visible

theorem holdsWord_blank_append (blank : Blank blanks) (text : List Char) :
    HoldsWord (blanks ++ text) ↔ HoldsWord text := by
  have closed := openQuote_of_blank blank
  have last := all_getLast?_of_blank blank
  constructor
  · rintro ⟨front, word, rear, whole, stands⟩
    rcases within_append stands.spelled (.inl last) whole with ⟨r, inside, -⟩ | ⟨f, inside, rfl⟩
    · exact absurd (inside ▸ blank) (not_blank_of_spelled stands.spelled)
    · exact ⟨f, word, rear, inside, (stands_behind closed (.inl last)).1 stands⟩
  · rintro ⟨f, w, r, rfl, stands⟩
    exact ⟨blanks ++ f, w, r, (List.append_assoc ..).symm,
      (stands_behind closed (.inl last)).2 stands⟩

theorem holdsWord_append_blank (text : List Char) (blank : Blank blanks) :
    HoldsWord (text ++ blanks) ↔ HoldsWord text := by
  have first := all_head?_of_blank blank
  have pair (f w r : List Char) : openPair none f (w ++ r ++ blanks) = openPair none f (w ++ r) :=
    openPair_append_blank blank none f (w ++ r)
  constructor
  · rintro ⟨front, word, rear, whole, stands⟩
    rcases within_append stands.spelled (.inr first) whole with ⟨r, inside, rfl⟩ | ⟨f, inside, -⟩
    · exact ⟨front, word, r, inside, (stands_before (pair ..) (.inr first)).1 stands⟩
    · exact absurd (inside ▸ blank) (not_blank_of_spelled stands.spelled)
  · rintro ⟨f, w, r, rfl, stands⟩
    exact ⟨f, w, r ++ blanks, by simp only [List.append_assoc],
      (stands_before (pair ..) (.inr first)).2 stands⟩

/-- Trimming takes no word away and adds none. -/
theorem holdsWord_trim (text : List Char) : HoldsWord (trim text) ↔ HoldsWord text := by
  obtain ⟨before, after, left, right, whole⟩ := exists_surrounded text
  rw [whole, holdsWord_blank_append left, holdsWord_append_blank _ right, ← whole]

end RecordStore.Console.Conjunction

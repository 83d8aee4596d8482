import RecordStore.Condition.Literal
import RecordStore.Proofs.DecimalText
import RecordStore.Proofs.Octets

/-! The right-hand side of a condition and its text. Quotes around a text are taken off again; words
and numbers are typed as what they were written from. What is typed is never a container, and a
string only as it stands. -/
namespace RecordStore

namespace Literal

theorem isQuote_of_mem {c : Char} {octet : UInt8} (quote : isQuote octet = true)
    (member : octet ∈ String.utf8EncodeChar c) : c = '"' ∨ c = '\'' := by
  simp only [isQuote, Bool.or_eq_true, beq_iff_eq] at quote
  rcases quote with rfl | rfl
  · exact .inl (Text.eq_of_mem_encode (by decide) member)
  · exact .inr (Text.eq_of_mem_encode (by decide) member)

section
variable {quote : Char} (either : quote = '"' ∨ quote = '\'')
include either

theorem encode_quote : ∃ octet, String.utf8EncodeChar quote = [octet] ∧ isQuote octet = true := by
  rcases either with rfl | rfl
  · exact ⟨0x22, by decide, by decide⟩
  · exact ⟨0x27, by decide, by decide⟩

/-- One octet at either end is a whole quote. -/
theorem slice?_paired (text : List Char) :
    Text.slice? 1 ((Text.octets (quote :: (text ++ [quote]))).length - 1)
      (quote :: (text ++ [quote])) = some text := by
  obtain ⟨octet, encoded, -⟩ := encode_quote either
  have size : quote.utf8Size = 1 := by
    rw [← String.length_utf8EncodeChar, encoded, List.length_singleton]
  refine Text.slice?_eq_some_iff.2 ⟨[quote], [quote], rfl, size, ?_⟩
  simp only [Text.length_octets, Text.octetCount, Text.octetCount_append, size]
  omega

/-- A pair of equal quotes is taken off, whatever it holds. -/
theorem stripQuotes_paired (text : List Char) :
    stripQuotes (quote :: (text ++ [quote])) = text := by
  obtain ⟨octet, encoded, marks⟩ := encode_quote either
  have whole : Text.octets (quote :: (text ++ [quote])) = octet :: (Text.octets text ++ [octet]) := by
    simp [encoded]
  have last : (octet :: (Text.octets text ++ [octet])).getLast? = some octet := by
    rw [← List.cons_append, List.getLast?_concat]
  have cut := slice?_paired either text
  rw [whole] at cut
  simp only [stripQuotes, whole, last, List.head?_cons, cut]
  simp [marks]

end

theorem stripQuotes_quoted (text : List Char) : stripQuotes ('"' :: (text ++ ['"'])) = text :=
  stripQuotes_paired (.inl rfl) text

/-- Whether a text is cut to take its quotes off: it has two octets at least, and the first and the
last are the same quote. -/
structure Enclosed (text : List Char) (octet : UInt8) : Prop where
  quote : isQuote octet = true
  first : (Text.octets text).head? = some octet
  last : (Text.octets text).getLast? = some octet
  apart : 2 ≤ (Text.octets text).length

/-- A character that has an octet of a quote is that quote, so equal quotes enclose the text. -/
theorem exists_of_enclosed {text : List Char} {octet : UInt8} (enclosed : Enclosed text octet) :
    ∃ quote inner, (quote = '"' ∨ quote = '\'') ∧ text = quote :: (inner ++ [quote]) := by
  cases text with
  | nil => cases enclosed.first
  | cons c rest =>
    have begins : octet ∈ String.utf8EncodeChar c := by
      have first := enclosed.first
      rw [Text.octets_cons, List.head?_append_of_ne_nil _ (Text.encode_ne_nil c)] at first
      exact List.mem_of_head? first
    have quote := isQuote_of_mem enclosed.quote begins
    have ascii : c.toNat < 0x80 := by rcases quote with rfl | rfl <;> decide
    have encoded := Text.encode_ascii ascii
    cases rest using List.reverseRecOn with
    | nil =>
      have apart := enclosed.apart
      rw [Text.octets_cons, encoded] at apart
      exact absurd apart (by simp)
    | append_singleton inner d =>
      have ends : octet ∈ String.utf8EncodeChar d := by
        have last := enclosed.last
        rw [← List.cons_append, Text.octets_append, Text.octets_cons d, Text.octets_nil,
          List.append_nil, List.getLast?_append_of_ne_nil _ (Text.encode_ne_nil d)] at last
        exact List.mem_of_getLast? last
      rw [encoded, List.mem_singleton] at begins
      obtain rfl := Text.eq_of_mem_encode ascii (begins ▸ ends)
      exact ⟨d, inner, quote, rfl⟩

theorem stripQuotes_of_not_enclosed {text : List Char} (bare : ∀ octet, ¬Enclosed text octet) :
    stripQuotes text = text := by
  unfold stripQuotes
  simp only
  split
  · next first last begins ends =>
    rw [if_neg]
    rintro ⟨apart, rfl, quote⟩
    exact bare first ⟨quote, begins, ends, apart⟩
  · rfl

/-- A text that begins with no quote loses nothing. -/
theorem stripQuotes_cons {c : Char} (double : c ≠ '"') (single : c ≠ '\'') (rest : List Char) :
    stripQuotes (c :: rest) = c :: rest := by
  apply stripQuotes_of_not_enclosed
  intro octet enclosed
  obtain ⟨quote, inner, either, same⟩ := exists_of_enclosed enclosed
  obtain ⟨rfl, -⟩ := List.cons.inj same
  exact either.elim double single

theorem stripQuotes_isInfix (text : List Char) : stripQuotes text <:+: text := by
  by_cases bare : ∀ octet, ¬Enclosed text octet
  · rw [stripQuotes_of_not_enclosed bare]
  · push Not at bare
    obtain ⟨octet, enclosed⟩ := bare
    obtain ⟨quote, inner, either, rfl⟩ := exists_of_enclosed enclosed
    rw [stripQuotes_paired either]
    exact ⟨[quote], [quote], rfl⟩

/-- A number is read from its own text, exactly. -/
theorem number?_text (x : Number) : number? x.text = some x := by
  cases x with
  | integer value fits =>
    have inRange : Number.ofInt? value = some (.integer value fits) := dif_pos fits
    simp [number?, Number.text, Decimal.intOfText?_intText, inRange]
  | double value =>
    simp [number?, Number.text, Binary64.intOfText?_text, Binary64.ofText?_text]

def keywords : List String := ["true", "false", "null", "undefined"]

theorem number?_keyword : ∀ word ∈ keywords, number? word.toList = none := by
  decide +kernel

theorem operand_of_other {text : List Char} (other : String.ofList text ∉ keywords) :
    operand text = ((number? text).map fun n => .json (.number n)).getD
      (.json (.string (String.ofList text))) := by
  have no (word : String) (keyword : word ∈ keywords) : text ≠ word.toList := by
    rintro rfl
    rw [String.ofList_toList] at other
    exact other keyword
  rw [operand, if_neg (no "true" (by decide)), if_neg (no "false" (by decide)),
    if_neg (no "null" (by decide)), if_neg (no "undefined" (by decide))]
  cases number? text <;> rfl

/-- What is read as a number is typed as that number, for no keyword is read as one. -/
theorem operand_of_number? {text : List Char} {x : Number} (read : number? text = some x) :
    operand text = .json (.number x) := by
  have other : String.ofList text ∉ keywords := by
    intro keyword
    have unread := number?_keyword _ keyword
    rw [String.toList_ofList, read] at unread
    cases unread
  rw [operand_of_other other, read]
  rfl

theorem operand_number (x : Number) : operand x.text = .json (.number x) :=
  operand_of_number? (number?_text x)

/-- Only what is neither a keyword nor a number is a string, and it is one as it stands. -/
theorem operand_eq_string_iff {text : List Char} {s : String} :
    operand text = .json (.string s) ↔
      String.ofList text = s ∧ s ∉ keywords ∧ number? text = none := by
  constructor
  · intro typed
    unfold operand at typed
    split at typed
    · cases typed
    split at typed
    · cases typed
    split at typed
    · cases typed
    split at typed
    · cases typed
    · next notTrue notFalse notNull notUndefined =>
      split at typed <;> cases typed
      next unread =>
      refine ⟨rfl, ?_, unread⟩
      intro keyword
      have spelled (word : String) (same : String.ofList text = word) : text = word.toList := by
        rw [← same, String.toList_ofList]
      simp only [keywords, List.mem_cons, List.not_mem_nil, or_false] at keyword
      rcases keyword with same | same | same | same
      · exact notTrue (spelled _ same)
      · exact notFalse (spelled _ same)
      · exact notNull (spelled _ same)
      · exact notUndefined (spelled _ same)
  · rintro ⟨rfl, other, unread⟩
    rw [operand_of_other other, unread]
    rfl

end Literal
end RecordStore

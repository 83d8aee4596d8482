import RecordStore.Proofs.Splitting

/-! Joining conditions by `AND`. A condition that is trimmed and holds no separator outside quotes
is passed over by the scan as a whole, which stands outside quotes behind it if the condition closes
its quotes. So a text that such conditions were joined to has exactly these conditions; the last one
may leave a quote open. -/
namespace RecordStore.Console.Conjunction

open Text

variable {before quote : Option Char} {front rest : List Char}

/-- The quote that is open after a text. -/
def openQuote (quote : Option Char) (text : List Char) : Option Char := text.foldl quoteAfter quote

/-- Whether a text can stand as one condition among others. -/
structure WellFormed (condition : String) : Prop where
  visible : condition.toList ≠ []
  trimmed : trim condition.toList = condition.toList
  closed : openQuote none condition.toList = none
  /-- The word `AND` stands in quotes, or within a longer word. -/
  single : ∀ a word b, condition.toList = a ++ (word ++ b) →
    equalsIgnoringAsciiCase word "AND".toList = true →
    a.getLast?.all isGap = true → b.head?.all isGap = true → openQuote none a ≠ none

/-- Whether a text can stand as the last of some conditions, where a quote may be left open. -/
structure Unbroken (condition : String) : Prop where
  visible : condition.toList ≠ []
  trimmed : trim condition.toList = condition.toList
  single : ∀ a word b, condition.toList = a ++ (word ++ b) →
    equalsIgnoringAsciiCase word "AND".toList = true →
    a.getLast?.all isGap = true → b.head?.all isGap = true → openQuote none a ≠ none

/-- Blanks of ASCII, one at least. -/
def Gap (text : List Char) : Prop := text ≠ [] ∧ ∀ c ∈ text, isGap c = true

instance (text : List Char) : Decidable (Gap text) :=
  decidable_of_iff (text ≠ [] ∧ text.all isGap = true) (and_congr_right' List.all_eq_true)

/-- The texts that conditions can be joined to. -/
inductive Joined : List String → List Char → Prop where
  | last (condition : String) : Joined [condition] condition.toList
  | and {condition : String} {conditions : List String} {left word right text : List Char} :
    Gap left → equalsIgnoringAsciiCase word "AND".toList = true → Gap right →
    Joined conditions text →
    Joined (condition :: conditions) (condition.toList ++ (left ++ (word ++ (right ++ text))))

theorem getLast?_cons_or (c : Char) (text : List Char) (before : Option Char) :
    (c :: text).getLast?.or before = text.getLast?.or (some c) := by
  rw [List.getLast?_cons]
  cases text.getLast? <;> rfl

/-- Where no separator starts, the scan goes on, and what it passes over joins the first piece. -/
theorem split_append (clear : ∀ a b, front = a ++ b → b ≠ [] →
      separates (a.getLast?.or before) (openQuote quote a) (b ++ rest) = false) :
    split before quote (front ++ rest) =
      (split (front.getLast?.or before) (openQuote quote front) rest).modifyHead (front ++ ·) := by
  induction front generalizing before quote with
  | nil =>
    rw [modifyHead_nil_append]
    rfl
  | cons c front ih =>
    have inside : separates before quote (c :: (front ++ rest)) = false :=
      clear [] (c :: front) rfl (by simp)
    have next : ∀ a b, front = a ++ b → b ≠ [] →
        separates (a.getLast?.or (some c)) (openQuote (quoteAfter quote c) a) (b ++ rest) =
          false := by
      intro a b same visible
      rw [← getLast?_cons_or c a before]
      exact clear (c :: a) b (by rw [same]; rfl) visible
    rw [List.cons_append, split, inside, if_neg (by simp), ih next, List.modifyHead_modifyHead,
      getLast?_cons_or]
    rfl

/-- A blank starts no separator. -/
theorem startsWord_of_gap {c : Char} (gap : isGap c = true) (text : List Char) :
    startsWord (c :: text) = false := by
  rw [Bool.eq_false_iff]
  intro starts
  obtain ⟨a, n, d, rest, same, letter, -⟩ := startsWord_iff.1 starts
  obtain ⟨rfl, -⟩ := List.cons.inj same
  have among := isGap_iff.1 gap
  simp only [List.mem_cons, List.not_mem_nil, or_false] at among
  omega

theorem isBlank_of_isGap {c : Char} (gap : isGap c = true) : isBlank c = true := by
  have among := isGap_iff.1 gap
  simp only [List.mem_cons, List.not_mem_nil, or_false] at among
  simp [isBlank, inRanges, blankRanges]
  omega

/-! The word `AND` in any case. -/

section
variable {word : List Char} (spelled : equalsIgnoringAsciiCase word "AND".toList = true)
include spelled

theorem isGap_of_mem_spelled : ∀ c ∈ word, isGap c = false := by
  intro c member
  rw [Bool.eq_false_iff]
  intro gap
  have visible := visible_of_spelled spelled (by decide) c member
  rw [isBlank_of_isGap gap] at visible
  cases visible

theorem exists_of_spelled : ∃ a n d, word = [a, n, d] := by
  rw [equalsIgnoringAsciiCase, beq_iff_eq] at spelled
  exact List.length_eq_three.1 (by simpa using congrArg List.length spelled)

theorem separates_append (gap : before.all isGap = true) (next : rest.head?.all isGap = true) :
    separates before none (word ++ rest) = true := by
  obtain ⟨a, n, d, rfl⟩ := exists_of_spelled spelled
  rw [separates, gap, Option.isNone_none, Bool.true_and, Bool.true_and, startsWord]
  simpa [next] using spelled

/-- The scan cuts at the word, and the next piece stands behind it. -/
theorem split_separator (gap : before.all isGap = true) (next : rest.head?.all isGap = true) :
    split before none (word ++ rest) = [] :: split word.head? none rest := by
  have apart := separates_append spelled gap next
  obtain ⟨a, n, d, rfl⟩ := exists_of_spelled spelled
  simp only [List.cons_append, List.nil_append] at apart ⊢
  rw [split, if_pos apart]
  rfl

end

theorem exists_of_startsWord {text : List Char} (starts : startsWord text = true) :
    ∃ word rest, text = word ++ rest ∧ equalsIgnoringAsciiCase word "AND".toList = true ∧
      rest.head?.all isGap = true := by
  obtain ⟨spelled, next⟩ := Bool.and_eq_true_iff.1 starts
  exact ⟨text.take 3, text.drop 3, (List.take_append_drop 3 text).symm, spelled, next⟩

/-- A separator within a condition would start at one of its positions. -/
theorem wellFormed_iff (condition : String) : WellFormed condition ↔
    condition.toList ≠ [] ∧ trim condition.toList = condition.toList ∧
      openQuote none condition.toList = none ∧ ∀ n < condition.toList.length + 1,
        separates (condition.toList.take n).getLast? (openQuote none (condition.toList.take n))
          (condition.toList.drop n) = false := by
  constructor
  · rintro ⟨visible, trimmed, closed, single⟩
    refine ⟨visible, trimmed, closed, ?_⟩
    intro n _
    rw [Bool.eq_false_iff]
    intro apart
    simp only [separates, Bool.and_eq_true, Option.isNone_iff_eq_none] at apart
    obtain ⟨⟨outside, front⟩, starts⟩ := apart
    obtain ⟨word, rest, same, spelled, next⟩ := exists_of_startsWord starts
    apply single (condition.toList.take n) word rest _ spelled front next outside
    rw [← same, List.take_append_drop]
  · rintro ⟨visible, trimmed, closed, unseparated⟩
    refine ⟨visible, trimmed, closed, ?_⟩
    intro a word b whole spelled front next outside
    have here := unseparated a.length (by rw [whole, List.length_append]; omega)
    rw [whole, List.take_left, List.drop_left, outside, separates_append spelled front next] at here
    cases here

instance (condition : String) : Decidable (WellFormed condition) :=
  decidable_of_iff _ (wellFormed_iff condition).symm

/-! Blanks around the word. -/

/-- A text without quotes opens none. -/
theorem openQuote_of_plain {text : List Char} (plain : ∀ c ∈ text, c ≠ '"' ∧ c ≠ '\'') :
    openQuote none text = none := by
  induction text with
  | nil => rfl
  | cons c text ih =>
    obtain ⟨first, others⟩ := List.forall_mem_cons.1 plain
    rw [openQuote, List.foldl_cons, quoteAfter_of_other (by rintro _ ⟨⟩) first.1 first.2]
    exact ih others

theorem plain_of_blank {blanks : List Char} (blank : Blank blanks) :
    ∀ c ∈ blanks, c ≠ '"' ∧ c ≠ '\'' := by
  intro c member
  have seen := blank c member
  constructor
  · rintro rfl
    exact absurd seen (by decide)
  · rintro rfl
    exact absurd seen (by decide)

theorem openQuote_of_blank {blanks : List Char} (blank : Blank blanks) :
    openQuote none blanks = none := openQuote_of_plain (plain_of_blank blank)

namespace Gap

variable {gap : List Char}

theorem blank (blanks : Gap gap) : Blank gap := by
  intro c member
  exact isBlank_of_isGap (blanks.2 c member)

theorem getLast? (blanks : Gap gap) : (gap.getLast?.or before).all isGap = true := by
  have last := List.getLast?_eq_some_getLast blanks.1
  rw [last, Option.some_or, Option.all_some]
  exact blanks.2 _ (List.getLast_mem blanks.1)

theorem head?_append (blanks : Gap gap) : (gap ++ rest).head?.all isGap = true := by
  have first := List.head?_eq_some_head blanks.1
  rw [List.head?_append_of_ne_nil _ blanks.1, first, Option.all_some]
  exact blanks.2 _ (List.head_mem blanks.1)

theorem split_append (blanks : Gap gap) :
    split before none (gap ++ rest) =
      (split (gap.getLast?.or before) none rest).modifyHead (gap ++ ·) := by
  rw [Conjunction.split_append, openQuote_of_blank blanks.blank]
  rintro a b rfl visible
  obtain ⟨c, b, rfl⟩ := List.exists_cons_of_ne_nil visible
  have first : isGap c = true := blanks.2 c (by simp)
  rw [separates, List.cons_append, startsWord_of_gap first, Bool.and_false]

end Gap

/-! Conditions that are joined. -/

theorem WellFormed.unbroken {condition : String} (formed : WellFormed condition) :
    Unbroken condition where
  visible := formed.visible
  trimmed := formed.trimmed
  single := formed.single

theorem Unbroken.solid {condition : String} (unbroken : Unbroken condition) :
    Solid condition.toList := by
  rw [← unbroken.trimmed]
  exact solid_trim _

/-- A separator that starts within a condition lies within it as a whole: the word has no blank, and
what follows the condition starts with one. -/
theorem Unbroken.split_append {condition : String} (unbroken : Unbroken condition)
    (next : rest.head?.all isGap = true) :
    split before none (condition.toList ++ rest) =
      (split (condition.toList.getLast?.or before) (openQuote none condition.toList)
        rest).modifyHead (condition.toList ++ ·) := by
  apply Conjunction.split_append
  intro a b whole visible
  rw [Bool.eq_false_iff]
  intro apart
  simp only [separates, Bool.and_eq_true, Option.isNone_iff_eq_none] at apart
  obtain ⟨⟨outside, gap⟩, starts⟩ := apart
  obtain ⟨word, tail, same, spelled, behind⟩ := exists_of_startsWord starts
  have front : a.getLast?.all isGap = true := by
    cases last : a.getLast? with
    | none => rfl
    | some c => rwa [last] at gap
  have contained : ∃ b', b = word ++ b' ∧ b'.head?.all isGap = true := by
    rcases List.append_eq_append_iff.1 same with ⟨extra, rfl, rfl⟩ | ⟨b', rfl, rfl⟩
    · cases extra with
      | nil => exact ⟨[], by simp, rfl⟩
      | cons c extra =>
        have letter := isGap_of_mem_spelled spelled c (by simp)
        rw [List.cons_append, List.head?_cons, Option.all_some, letter] at next
        cases next
    · refine ⟨b', rfl, ?_⟩
      cases b' with
      | nil => rfl
      | cons c b' => exact behind
  obtain ⟨b', rfl, ends⟩ := contained
  exact unbroken.single a word b' whole spelled front ends outside

theorem map_trim_modifyHead {blanks : List Char} (blank : Blank blanks)
    (pieces : List (List Char)) : (pieces.modifyHead (blanks ++ ·)).map trim = pieces.map trim := by
  cases pieces with
  | nil => rfl
  | cons piece pieces =>
    rw [List.modifyHead_cons, List.map_cons, trim_blank_append blank, List.map_cons]

namespace Joined

variable {conditions : List String} {text : List Char}

/-- What the first of several conditions says of those before the last. -/
theorem forall_dropLast {condition : String} {p : String → Prop} (joined : Joined conditions text)
    (each : ∀ other ∈ (condition :: conditions).dropLast, p other) :
    p condition ∧ ∀ other ∈ conditions.dropLast, p other := by
  cases joined <;> exact List.forall_mem_cons.1 each

theorem split (joined : Joined conditions text)
    (unbroken : ∀ condition ∈ conditions, Unbroken condition)
    (closed : ∀ condition ∈ conditions.dropLast, openQuote none condition.toList = none)
    (before : Option Char) :
    (split before none text).map trim = conditions.map String.toList := by
  induction joined generalizing before with
  | last condition =>
    have own := unbroken condition List.mem_cons_self
    have alone : Conjunction.split before none (condition.toList ++ []) = _ := own.split_append rfl
    rw [List.append_nil] at alone
    rw [alone, Conjunction.split]
    simp [own.trimmed]
  | @and condition conditions left word right text leftGap spelled rightGap joined ih =>
    obtain ⟨own, others⟩ := List.forall_mem_cons.1 unbroken
    obtain ⟨ownClosed, othersClosed⟩ := joined.forall_dropLast closed
    rw [own.split_append leftGap.head?_append, ownClosed, leftGap.split_append,
      split_separator spelled leftGap.getLast? rightGap.head?_append, rightGap.split_append]
    simp only [List.modifyHead_cons, List.map_cons, List.append_nil]
    rw [map_trim_modifyHead rightGap.blank, ih others othersClosed,
      trim_append_blank _ leftGap.blank, own.trimmed]

theorem ne_nil_and_solid (joined : Joined conditions text)
    (unbroken : ∀ condition ∈ conditions, Unbroken condition) : text ≠ [] ∧ Solid text := by
  induction joined with
  | last condition =>
    have own := unbroken condition List.mem_cons_self
    exact ⟨own.visible, own.solid⟩
  | @and condition conditions left word right text leftGap spelled rightGap joined ih =>
    obtain ⟨own, others⟩ := List.forall_mem_cons.1 unbroken
    obtain ⟨visible, solid⟩ := ih others
    have whole : condition.toList ++ (left ++ (word ++ (right ++ text))) =
        condition.toList ++ ((left ++ (word ++ right)) ++ text) := by
      simp only [List.append_assoc]
    rw [whole]
    exact ⟨by simp [own.visible], solid_of_ends own.visible visible own.solid.head solid.last⟩

/-- Joined conditions are found again, in their order. -/
theorem conditions? (joined : Joined conditions text)
    (unbroken : ∀ condition ∈ conditions, Unbroken condition)
    (closed : ∀ condition ∈ conditions.dropLast, openQuote none condition.toList = none) :
    conditions? (String.ofList text) = some conditions := by
  obtain ⟨visible, solid⟩ := joined.ne_nil_and_solid unbroken
  have present : [] ∉ conditions.map String.toList := by
    intro empty
    obtain ⟨condition, member, none⟩ := List.mem_map.1 empty
    exact (unbroken condition member).visible none
  rw [conditions?_eq, String.toList_ofList, solid.trim, if_neg visible]
  simp only [joined.split unbroken closed]
  rw [if_neg present, List.map_map]
  simp [Function.comp_def]

end Joined
end RecordStore.Console.Conjunction

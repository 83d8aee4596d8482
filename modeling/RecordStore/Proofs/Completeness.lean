import Mathlib.Order.Minimal
import RecordStore.Proofs.Separators

/-! Which words the scan misses. The scan cuts a text at the first word that is a separator and goes
on behind it as at the start of a text. So the conditions hold a word `AND` that stands by itself
exactly when the text has one that is no separator; otherwise they can be joined again and are found
again. -/
namespace RecordStore.Console.Conjunction

open Text

/-- Whether no word `AND` in a text is a separator. -/
def Uncut (text : List Char) : Prop := ∀ front word rear, text = front ++ (word ++ rear) →
  equalsIgnoringAsciiCase word "AND".toList = true → ¬Cuts front rear

/-- Whether a word is the first separator of a text. -/
structure FirstCut (front word rear : List Char) : Prop extends Cuts front rear where
  spelled : equalsIgnoringAsciiCase word "AND".toList = true
  least : ∀ f w r, front ++ (word ++ rear) = f ++ (w ++ r) →
    equalsIgnoringAsciiCase w "AND".toList = true → Cuts f r → front.length ≤ f.length

/-- A text and the pieces that it falls into at its separators, from the first one on. -/
inductive Falls : List Char → List (List Char) → Prop where
  | whole {text : List Char} : Uncut text → Falls text [text]
  | apart {front word rear : List Char} {pieces : List (List Char)} : FirstCut front word rear →
    Falls rear pieces → Falls (front ++ (word ++ rear)) (front :: pieces)

variable {front word rear text : List Char} {pieces : List (List Char)}

/-! The scan cuts at the first separator. -/

theorem exists_cuts_of_separates
    (apart : separates front.getLast? (openQuote none front) text = true) :
    ∃ word rear, text = word ++ rear ∧ equalsIgnoringAsciiCase word "AND".toList = true ∧
      Cuts front rear := by
  simp only [Conjunction.separates, Bool.and_eq_true, Option.isNone_iff_eq_none] at apart
  obtain ⟨⟨closed, left⟩, starts⟩ := apart
  obtain ⟨word, rear, same, spelled, right⟩ := exists_of_startsWord starts
  exact ⟨word, rear, same, spelled, left, right, closed⟩

/-- A blank starts no separator, whatever is before it. -/
theorem split_of_gap (first : text.head?.all isGap = true) (before : Option Char) :
    split before none text = split none none text := by
  cases text with
  | nil => simp only [split]
  | cons c text =>
    have inside (before : Option Char) : separates before none (c :: text) = false := by
      rw [separates, startsWord_of_gap first, Bool.and_false]
    rw [split, split, inside, inside]

theorem split_of_uncut (uncut : Uncut text) : split none none text = [text] := by
  have clear : ∀ a b, text = a ++ b → b ≠ [] →
      separates (a.getLast?.or none) (openQuote none a) (b ++ []) = false := by
    rintro a b rfl -
    rw [Option.or_none, List.append_nil, Bool.eq_false_iff]
    intro apart
    obtain ⟨word, rear, rfl, spelled, cuts⟩ := exists_cuts_of_separates apart
    exact uncut a word rear rfl spelled cuts
  have passed := split_append clear
  rw [List.append_nil, split] at passed
  simpa using passed

theorem split_of_firstCut (cut : FirstCut front word rear) :
    split none none (front ++ (word ++ rear)) = front :: split none none rear := by
  have clear : ∀ a b, front = a ++ b → b ≠ [] →
      separates (a.getLast?.or none) (openQuote none a) (b ++ (word ++ rear)) = false := by
    rintro a b rfl visible
    rw [Option.or_none, Bool.eq_false_iff]
    intro apart
    obtain ⟨w, r, same, spelled, earlier⟩ := exists_cuts_of_separates apart
    have behind := cut.least a w r (by rw [List.append_assoc, same]) spelled earlier
    have length := List.length_pos_iff.2 visible
    rw [List.length_append] at behind
    omega
  rw [split_append clear, Option.or_none, cut.closed,
    split_separator cut.spelled cut.left cut.right, split_of_gap cut.right, List.modifyHead_cons,
    List.append_nil]

/-- A text that has separators has a first one. -/
theorem exists_firstCut (some : ¬Uncut text) :
    ∃ front word rear, text = front ++ (word ++ rear) ∧ FirstCut front word rear := by
  unfold Uncut at some
  push Not at some
  obtain ⟨front, ⟨word, rear, rfl, spelled, cuts⟩, least⟩ :=
    exists_minimalFor_of_wellFoundedLT _ List.length some
  refine ⟨front, word, rear, rfl, cuts, spelled, ?_⟩
  intro f w r same spelled earlier
  rcases Nat.le_total front.length f.length with before | behind
  · exact before
  · exact least ⟨w, r, same, spelled, earlier⟩ behind

theorem falls_split (text : List Char) : Falls text (split none none text) := by
  induction length : text.length using Nat.strong_induction_on generalizing text with
  | _ n ih =>
    by_cases uncut : Uncut text
    · rw [split_of_uncut uncut]
      exact .whole uncut
    · obtain ⟨front, word, rear, rfl, cut⟩ := exists_firstCut uncut
      have shorter : rear.length < n := by
        have three := length_of_spelled cut.spelled
        simp only [List.length_append] at length
        omega
      rw [split_of_firstCut cut]
      exact .apart cut (ih _ shorter rear rfl)

/-! Missed words are in the pieces. -/

namespace FirstCut

theorem closed_append (cut : FirstCut front word rear) : openQuote none (front ++ word) = none := by
  rw [openQuote_append, cut.closed]
  exact openQuote_of_plain (plain_of_spelled cut.spelled)

/-- A word in front of the separator has a blank at least behind it. -/
theorem ne_nil_of_front {f w r : List Char} (cut : FirstCut (f ++ (w ++ r)) word rear)
    (spelled : equalsIgnoringAsciiCase w "AND".toList = true) : r ≠ [] := by
  rintro rfl
  obtain ⟨a, n, d, rfl⟩ := exists_of_spelled spelled
  have letter : isGap d = false := isGap_of_mem_spelled spelled d (by simp)
  have last := cut.left
  simp [letter] at last

/-- A word behind the separator has a blank at least in front of it. -/
theorem ne_nil_of_rear {f w r : List Char} (cut : FirstCut front word (f ++ (w ++ r)))
    (spelled : equalsIgnoringAsciiCase w "AND".toList = true) : f ≠ [] := by
  rintro rfl
  obtain ⟨a, n, d, rfl⟩ := exists_of_spelled spelled
  have letter : isGap a = false := isGap_of_mem_spelled spelled a (by simp)
  have first := cut.right
  simp [letter] at first

/-- A word in front of the separator stands there as it does in the whole text. -/
theorem stands_iff {f w r : List Char} (cut : FirstCut (f ++ (w ++ r)) word rear)
    (spelled : equalsIgnoringAsciiCase w "AND".toList = true) :
    Stands f w (r ++ (word ++ rear)) ↔ Stands f w r :=
  stands_before (openPair_before cut.closed _) (.inl (cut.ne_nil_of_front spelled))

/-- A word that is missed stands in front of the first separator, or is missed behind it. -/
theorem misses_iff (cut : FirstCut front word rear) :
    Misses (front ++ (word ++ rear)) ↔ HoldsWord front ∨ Misses rear := by
  constructor
  · rintro ⟨f, w, r, whole, stands, uncut⟩
    have spelled := stands.spelled
    rcases within_append spelled (.inl (isBlank_of_all_isGap cut.left)) whole with
      ⟨r, rfl, rfl⟩ | ⟨f, inside, rfl⟩
    · exact .inl ⟨f, w, r, rfl, (cut.stands_iff spelled).1 stands⟩
    rcases within_append spelled (.inr (isBlank_of_all_isGap cut.right)) inside with
      ⟨r, rfl, rfl⟩ | ⟨f, rfl, rfl⟩
    · -- The word is the separator itself.
      obtain ⟨rfl, rfl⟩ := eq_nil_of_spelled spelled cut.spelled
      rw [List.append_nil] at uncut
      exact absurd cut.toCuts uncut
    · have visible := cut.ne_nil_of_rear spelled
      rw [← List.append_assoc] at stands uncut
      rw [stands_behind cut.closed_append (.inr visible)] at stands
      rw [cuts_behind cut.closed_append visible] at uncut
      exact .inr ⟨f, w, r, rfl, stands, uncut⟩
  · rintro (⟨f, w, r, rfl, stands⟩ | ⟨f, w, r, rfl, stands, uncut⟩)
    · have whole : f ++ (w ++ r) ++ (word ++ rear) = f ++ (w ++ (r ++ (word ++ rear))) := by
        simp only [List.append_assoc]
      refine ⟨f, w, _, whole, (cut.stands_iff stands.spelled).2 stands, ?_⟩
      intro earlier
      have behind := cut.least f w _ whole stands.spelled earlier
      have three := length_of_spelled stands.spelled
      simp only [List.length_append] at behind
      omega
    · have visible := cut.ne_nil_of_rear stands.spelled
      refine ⟨front ++ word ++ f, w, r, by simp only [List.append_assoc], ?_, ?_⟩
      · exact (stands_behind cut.closed_append (.inr visible)).2 stands
      · exact mt (cuts_behind cut.closed_append visible).1 uncut

end FirstCut

namespace Falls

theorem misses_iff (falls : Falls text pieces) :
    Misses text ↔ ∃ piece ∈ pieces, HoldsWord piece := by
  induction falls with
  | @whole text uncut =>
    constructor
    · rintro ⟨front, word, rear, same, stands, -⟩
      exact ⟨text, List.mem_singleton_self text, front, word, rear, same, stands⟩
    · rintro ⟨piece, member, front, word, rear, same, stands⟩
      obtain rfl := List.mem_singleton.1 member
      exact ⟨front, word, rear, same, stands, uncut front word rear same stands.spelled⟩
  | apart cut falls ih => rw [cut.misses_iff, ih, List.exists_mem_cons_iff]

theorem ne_nil (falls : Falls text pieces) : pieces ≠ [] := by
  cases falls <;> exact List.cons_ne_nil _ _

/-- Only the last piece leaves a quote open. -/
theorem closed (falls : Falls text pieces) :
    ∀ piece ∈ pieces.dropLast, openQuote none piece = none := by
  induction falls with
  | whole => exact List.forall_mem_nil _
  | apart cut falls ih =>
    rw [List.dropLast_cons_of_ne_nil falls.ne_nil]
    exact List.forall_mem_cons.2 ⟨cut.closed, ih⟩

end Falls

/-! Joining the conditions again. -/

theorem openQuote_trim (closed : openQuote none text = none) :
    openQuote none (trim text) = none := by
  obtain ⟨before, after, left, right, whole⟩ := exists_surrounded text
  rw [whole, openQuote_append, openQuote_of_blank left, openQuote_append] at closed
  cases quote : openQuote none (trim text) with
  | none => rfl
  | some q =>
    rw [quote] at closed
    have opened : q = '"' ∨ q = '\'' := isQuote_of_mem_openQuote (by rintro _ ⟨⟩) q quote
    obtain ⟨double, single⟩ := plain_of_blank right q (mem_of_openQuote closed)
    exact absurd opened (by simp [double, single])

theorem unbroken_of_not_holdsWord {condition : String} (visible : condition.toList ≠ [])
    (trimmed : trim condition.toList = condition.toList) (free : ¬HoldsWord condition.toList) :
    Unbroken condition := by
  refine ⟨visible, trimmed, ?_⟩
  intro a word b whole spelled left right outside
  exact free ⟨a, word, b, whole, spelled, isBlank_of_all_isGap left, isBlank_of_all_isGap right,
    openPair_eq_none outside _⟩

theorem joined_intercalate {conditions : List String} (some : conditions ≠ []) :
    Joined conditions (" AND ".intercalate conditions).toList := by
  induction conditions with
  | nil => exact absurd rfl some
  | cons condition conditions ih =>
    by_cases last : conditions = []
    · subst last
      rw [String.intercalate_singleton]
      exact .last condition
    · have joined : Joined (condition :: conditions) (condition.toList ++ ([' '] ++
          ("AND".toList ++ ([' '] ++ (" AND ".intercalate conditions).toList)))) :=
        .and (by decide) (by decide) (by decide) (ih last)
      rw [String.intercalate_cons_of_ne_nil last]
      simpa using joined

/-! The conditions of a text. -/

section
variable {text : String} {conditions : List String} (accepted : conditions? text = some conditions)
include accepted

theorem eq_of_accepted (visible : trim text.toList ≠ []) :
    conditions = ((split none none (trim text.toList)).map trim).map String.ofList ∧
      ∀ piece ∈ split none none (trim text.toList), trim piece ≠ [] := by
  rw [conditions?_eq, if_neg visible] at accepted
  simp only [] at accepted
  split at accepted
  · cases accepted
  · next present =>
    refine ⟨(Option.some.inj accepted).symm, ?_⟩
    intro piece member empty
    exact present (List.mem_map.2 ⟨piece, member, empty⟩)

theorem eq_nil_of_accepted (blank : trim text.toList = []) : conditions = [] := by
  rw [conditions?_eq, if_pos blank] at accepted
  exact (Option.some.inj accepted).symm

theorem forall_not_holdsWord_iff :
    (∀ condition ∈ conditions, ¬HoldsWord condition.toList) ↔ ¬Misses (trim text.toList) := by
  by_cases visible : trim text.toList = []
  · obtain rfl := eq_nil_of_accepted accepted visible
    refine iff_of_true (List.forall_mem_nil _) ?_
    rintro ⟨front, word, rear, whole, stands, -⟩
    rw [visible] at whole
    exact not_blank_of_spelled stands.spelled (whole ▸ blank_nil)
  · obtain ⟨rfl, -⟩ := eq_of_accepted accepted visible
    rw [(falls_split _).misses_iff]
    simp only [List.forall_mem_map, String.toList_ofList, holdsWord_trim, not_exists, not_and]

/-- Conditions that hold no word `AND` are found again when they are joined. -/
theorem conditions?_intercalate (free : ∀ condition ∈ conditions, ¬HoldsWord condition.toList) :
    conditions? (" AND ".intercalate conditions) = some conditions := by
  by_cases visible : trim text.toList = []
  · obtain rfl := eq_nil_of_accepted accepted visible
    rfl
  · have some := ne_nil_of_conditions? visible accepted
    obtain ⟨same, present⟩ := eq_of_accepted accepted visible
    have unbroken : ∀ condition ∈ conditions, Unbroken condition := by
      intro condition member
      have own := free condition member
      rw [same, List.map_map] at member
      obtain ⟨piece, among, rfl⟩ := List.mem_map.1 member
      apply unbroken_of_not_holdsWord _ _ own
      · rw [Function.comp_apply, String.toList_ofList]
        exact present piece among
      · rw [Function.comp_apply, String.toList_ofList, trim_trim]
    have closed : ∀ condition ∈ conditions.dropLast, openQuote none condition.toList = none := by
      intro condition member
      rw [same, ← List.map_dropLast, ← List.map_dropLast, List.map_map] at member
      obtain ⟨piece, among, rfl⟩ := List.mem_map.1 member
      rw [Function.comp_apply, String.toList_ofList]
      exact openQuote_trim ((falls_split _).closed piece among)
    have found := (joined_intercalate some).conditions? unbroken closed
    rwa [String.ofList_toList] at found

end

theorem all_isGap_of_all_isBlank {c? : Option Char}
    (gaps : ∀ c ∈ c?, isBlank c = true → isGap c = true) (blank : c?.all isBlank = true) :
    c?.all isGap = true := by
  cases c? with
  | none => rfl
  | some c => exact gaps c rfl blank

/-- Where all blanks are of ASCII and all quotes are closed, no word is missed. -/
theorem not_misses_of_closed (gaps : ∀ c ∈ text, isBlank c = true → isGap c = true)
    (closed : openQuote none text = none) : ¬Misses text := by
  rintro ⟨front, word, rear, rfl, stands, uncut⟩
  apply uncut
  constructor
  case left =>
    refine all_isGap_of_all_isBlank ?_ stands.left
    intro c last
    exact gaps c (List.mem_append_left _ (List.mem_of_getLast? last))
  case right =>
    refine all_isGap_of_all_isBlank ?_ stands.right
    intro c first
    exact gaps c (List.mem_append_right _ (List.mem_append_right _ (List.mem_of_mem_head? first)))
  case closed =>
    have alone := openPair_of_closed closed []
    rw [List.append_nil, stands.outside] at alone
    exact alone.symm

/-- The conditions of a text hold no word `AND` that stands by itself exactly when the text has none
that is missed. Then the conditions, joined by `AND`, are found again. It is so for every text in
which all blanks are of ASCII and all quotes are closed. -/
theorem conditions_complete_iff {text : String} {conditions : List String}
    (accepted : conditions? text = some conditions) :
    ((∀ condition ∈ conditions, ¬HoldsWord condition.toList) ↔ ¬Misses (trim text.toList)) ∧
      (¬Misses (trim text.toList) →
        conditions? (" AND ".intercalate conditions) = some conditions) ∧
      ((∀ c ∈ text.toList, isBlank c = true → isGap c = true) →
        openQuote none text.toList = none → ¬Misses (trim text.toList)) := by
  have free := forall_not_holdsWord_iff accepted
  refine ⟨free, ?_, ?_⟩
  · intro kept
    exact conditions?_intercalate accepted (free.2 kept)
  · intro gaps closed
    refine not_misses_of_closed ?_ (openQuote_trim closed)
    intro c member
    exact gaps c ((trim_isInfix _).subset member)

theorem conditions_complete_quoted :
    let text := "a = \"x and y\" aNd b > 1"
    let conditions := ["a = \"x and y\"", "b > 1"]
    conditions? text = some conditions ∧ (∀ condition ∈ conditions, ¬HoldsWord condition.toList) ∧
      conditions? (" AND ".intercalate conditions) = some conditions := by
  intro text conditions
  have accepted : conditions? text = some conditions := by decide +kernel
  have gaps : text.toList.all (fun c => !isBlank c || isGap c) = true := by decide +kernel
  obtain ⟨free, again, kept⟩ := conditions_complete_iff accepted
  have none : ¬Misses (trim text.toList) := by
    refine kept ?_ (by decide +kernel)
    intro c member blank
    simpa [blank] using List.all_eq_true.1 gaps c member
  exact ⟨accepted, free.2 none, again none⟩

/-- A no-break space is trimmed and is no separator's blank, so that a condition ends with the word;
an apostrophe within a word opens a quote, which takes in all that follows. -/
theorem conditions_incomplete :
    (conditions? "a = 1 AND\u00a0 AND b = 2" = some ["a = 1 AND", "b = 2"] ∧
      HoldsWord "a = 1 AND".toList ∧
      conditions? (" AND ".intercalate ["a = 1 AND", "b = 2"]) = none) ∧
    conditions? "name = O'Brien AND age > 3" = some ["name = O'Brien AND age > 3"] ∧
      HoldsWord "name = O'Brien AND age > 3".toList := by
  refine ⟨⟨by decide +kernel, ?_, by decide +kernel⟩, by decide +kernel, ?_⟩
  · exact ⟨"a = 1 ".toList, "AND".toList, [], by decide +kernel, by decide, by decide, by decide,
      by decide +kernel⟩
  · exact ⟨"name = O'Brien ".toList, "AND".toList, " age > 3".toList, by decide +kernel, by decide,
      by decide, by decide, by decide +kernel⟩

end RecordStore.Console.Conjunction

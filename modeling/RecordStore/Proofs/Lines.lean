import RecordStore.Proofs.Leading
import RecordStore.Proofs.Splitting

/-! What lines are parsed as. A line is its keyword and the text after it; the forms that take
conditions hand that text, less the blanks around it, to the same reader of conditions, whether a
`WHERE` or a JSON value comes before it or not. -/
namespace RecordStore.Console

open Text

variable {word gap t text : List Char}

theorem splitWord_of_visible (visible : ∀ c ∈ word, isBlank c = false)
    (next : ∀ c ∈ text.head?, isBlank c = true) : splitWord (word ++ text) = (word, text) := by
  have passed : ∀ c ∈ word, (!isBlank c) = true := by
    intro c member
    rw [visible c member, Bool.not_false]
  rw [splitWord, List.takeWhile_append_of_pos passed, List.dropWhile_append_of_pos passed]
  cases text with
  | nil => simp
  | cons c text =>
    have blank : isBlank c = true := next c rfl
    simp [blank]

/-- A word and the blanks after it are split from the text that follows. -/
theorem splitKeyword_append (some : word ≠ []) (visible : ∀ c ∈ word, isBlank c = false)
    (separated : gap ≠ []) (blank : Blank gap) (t : List Char) :
    splitKeyword (word ++ (gap ++ t)) = (word, trim t) := by
  by_cases none : trim t = []
  · have all : Blank (gap ++ t) := blank.append (trim_eq_nil_iff.1 none)
    have alone : splitWord (word ++ []) = (word, []) :=
      splitWord_of_visible visible (by rintro _ ⟨⟩)
    rw [List.append_nil] at alone
    rw [splitKeyword, trim_append_blank _ all, (solid_of_forall visible).trim, alone, none]
    rfl
  · obtain ⟨before, after, left, right, whole⟩ := exists_surrounded t
    have solid : Solid (word ++ ((gap ++ before) ++ trim t)) :=
      solid_of_ends some none (solid_of_forall visible).head (solid_trim t).last
    have same : word ++ (gap ++ t) = (word ++ ((gap ++ before) ++ trim t)) ++ after := by
      simp only [List.append_assoc, ← whole]
    have next : ∀ c ∈ ((gap ++ before) ++ trim t).head?, isBlank c = true := by
      obtain ⟨c, gap, rfl⟩ := List.exists_cons_of_ne_nil separated
      rintro _ ⟨⟩
      exact blank c List.mem_cons_self
    rw [splitKeyword, same, trim_append_blank _ right, solid.trim,
      splitWord_of_visible visible next]
    simp only [trimStart_append (blank.append left) (solid_trim t).head]

/-- Blanks before a text are not seen by the split. -/
theorem splitKeyword_blank_append (blank : Blank gap) (text : List Char) :
    splitKeyword (gap ++ text) = splitKeyword text := by
  rw [splitKeyword, trim_blank_append blank]
  rfl

namespace Command

theorem splitKeyword_spelled {capitals : List Char} (some : capitals ≠ [])
    (letters : capitals.all isCapital = true)
    (spelled : equalsIgnoringAsciiCase word capitals = true) (t : List Char) :
    splitKeyword (word ++ ' ' :: t) = (word, trim t) := by
  have present : word ≠ [] := by
    rintro rfl
    exact some (beq_iff_eq.1 spelled).symm
  exact splitKeyword_append present (visible_of_spelled spelled letters) (List.cons_ne_nil ' ' [])
    blank_space t

/-- A line is parsed by its keyword, in whatever case it is spelled. -/
theorem parse_eq_ofKeyword {line : String} {keyword : Keyword}
    (whole : line.toList = word ++ ' ' :: t)
    (spelled : equalsIgnoringAsciiCase word keyword.word.toList = true) :
    parse line = ofKeyword keyword (trim t) := by
  have named : keyword.word.toList ≠ [] := by cases keyword <;> decide
  have present : word.isEmpty = false := by
    cases word with
    | nil => exact absurd (beq_iff_eq.1 spelled).symm named
    | cons => rfl
  have split := splitKeyword_spelled named keyword.all_isCapital_word spelled t
  simp [parse, whole, split, present, Keyword.ofWord?_of_spelled spelled]

theorem conditions_trim (t : List Char) : conditions (trim t) = conditions t := by
  rw [conditions, conditions, Conjunction.conditions?_trim]

/-- Where one condition is needed, a text that is not blank has it. -/
theorem someConditions_trim (keyword : Keyword) (solid : trim t ≠ []) :
    someConditions keyword (trim t) = conditions t := by
  rw [someConditions, conditions_trim, conditions]
  cases found : Conjunction.conditions? (String.ofList t) with
  | none => rfl
  | some conditions =>
    have some := Conjunction.ne_nil_of_conditions? (by rwa [String.toList_ofList]) found
    simp [bind, Except.bind, some, pure, Except.pure]

theorem afterWhere_trim (keyword : Keyword) (t : List Char) :
    afterWhere keyword (trim t) = afterWhere keyword t := by
  rw [afterWhere, afterWhere, splitKeyword, splitKeyword, trim_trim]

theorem afterWhere_append (keyword : Keyword) (blank : Blank gap)
    (spelled : equalsIgnoringAsciiCase word "WHERE".toList = true) (solid : trim t ≠ []) :
    afterWhere keyword (gap ++ (word ++ ' ' :: t)) = conditions t := by
  have split := splitKeyword_spelled (by decide) (by decide) spelled t
  simp only [afterWhere, splitKeyword_blank_append blank, split, spelled, if_true]
  exact someConditions_trim keyword solid

variable {line : String}

theorem parse_find (whole : line.toList = word ++ ' ' :: t)
    (spelled : equalsIgnoringAsciiCase word Keyword.find.word.toList = true)
    (solid : trim t ≠ []) : parse line = (conditions t).map .find := by
  rw [parse_eq_ofKeyword whole spelled, ofKeyword, someConditions_trim _ solid]

theorem parse_first (whole : line.toList = word ++ ' ' :: t)
    (spelled : equalsIgnoringAsciiCase word Keyword.first.word.toList = true)
    (solid : trim t ≠ []) : parse line = (conditions t).map .first := by
  rw [parse_eq_ofKeyword whole spelled, ofKeyword, someConditions_trim _ solid]

theorem parse_count (whole : line.toList = word ++ ' ' :: t)
    (spelled : equalsIgnoringAsciiCase word Keyword.count.word.toList = true) :
    parse line = (conditions t).map .count := by
  rw [parse_eq_ofKeyword whole spelled, ofKeyword, conditions_trim]

theorem parse_delete {word' : List Char}
    (whole : line.toList = word ++ ' ' :: (word' ++ ' ' :: t))
    (spelled : equalsIgnoringAsciiCase word Keyword.delete.word.toList = true)
    (spelled' : equalsIgnoringAsciiCase word' "WHERE".toList = true)
    (solid : trim t ≠ []) : parse line = (conditions t).map .delete := by
  have after := afterWhere_append .delete blank_nil spelled' solid
  rw [List.nil_append] at after
  rw [parse_eq_ofKeyword whole spelled, ofKeyword, afterWhere_trim, after]

theorem isContainer_of_isInsertable {document : Json} (insertable : isInsertable document = true) :
    document.isContainer = true := by
  cases document with
  | array | object => rfl
  | null | bool | number | string => cases insertable

theorem parseInsert_of_leads {body rest : List Char} {document : Json}
    (leads : Leads body document) (insertable : isInsertable document = true)
    (blank : ∀ c ∈ rest, Json.isSpace c = true) :
    parseInsert (body ++ rest) = .ok (.insert document) := by
  have present : (body ++ rest).isEmpty = false := by simp [leads.visible]
  have delimited : ∀ c ∈ rest.head?, Json.isDelimiter c = true := by
    intro c first
    simp [Json.isDelimiter, blank c (List.mem_of_mem_head? first)]
  have none : (trim rest).isEmpty = true := by
    rw [List.isEmpty_iff, trim_eq_nil_iff]
    exact fun c member => Json.isBlank_of_isSpace (blank c member)
  simp [parseInsert, present, leads.read rest delimited, none, insertable, bind, Except.bind, pure,
    Except.pure]

theorem parse_insert {p : String} {document : Json}
    (whole : line.toList = word ++ ' ' :: p.toList)
    (spelled : equalsIgnoringAsciiCase word Keyword.insert.word.toList = true)
    (read : Json.ofText p = .ok document) (insertable : isInsertable document = true)
    (solid : Solid p.toList) : parse line = .ok (.insert document) := by
  obtain ⟨lead, body, tail, same, blank, behind, leads⟩ :=
    exists_leads read (isContainer_of_isInsertable insertable)
  have none : lead = [] := by
    cases lead with
    | nil => rfl
    | cons c lead =>
      have visible : isBlank c = false := solid.head c (by rw [same]; rfl)
      rw [Json.isBlank_of_isSpace (blank c List.mem_cons_self)] at visible
      cases visible
  rw [none, List.nil_append] at same
  rw [parse_eq_ofKeyword whole spelled, ofKeyword, solid.trim, same]
  exact parseInsert_of_leads leads insertable behind

theorem parseUpdate_of_leads {body rest : List Char} {patch : Json} (leads : Leads body patch)
    (object : patch.isObject = true) (delimited : ∀ c ∈ rest.head?, Json.isDelimiter c = true) :
    parseUpdate (body ++ rest) = (afterWhere .update rest).map (.update patch) := by
  have present : (body ++ rest).isEmpty = false := by simp [leads.visible]
  simp only [parseUpdate, present, leads.read rest delimited, object, bind, Except.bind]
  cases afterWhere .update rest <;> rfl

theorem parse_update {word' : List Char} {p : String} {patch : Json}
    (whole : line.toList = word ++ ' ' :: (p.toList ++ ' ' :: (word' ++ ' ' :: t)))
    (spelled : equalsIgnoringAsciiCase word Keyword.update.word.toList = true)
    (spelled' : equalsIgnoringAsciiCase word' "WHERE".toList = true)
    (read : Json.ofText p = .ok patch) (object : patch.isObject = true)
    (solid : trim t ≠ []) : parse line = (conditions t).map (.update patch) := by
  obtain ⟨lead, body, tail, same, blank, behind, leads⟩ :=
    exists_leads read (Json.isContainer_of_isObject object)
  obtain ⟨before, after, left, right, surrounded⟩ := exists_surrounded t
  -- What is trimmed off lies before the JSON value and behind the conditions.
  have inner : Solid (body ++ ((tail ++ ' ' :: (word' ++ ' ' :: before)) ++ trim t)) :=
    solid_of_ends leads.visible solid leads.head (solid_trim t).last
  have trimmed : trim (p.toList ++ ' ' :: (word' ++ ' ' :: t)) =
      body ++ ((tail ++ [' ']) ++ (word' ++ ' ' :: (before ++ trim t))) := by
    have parts : p.toList ++ ' ' :: (word' ++ ' ' :: t) =
        lead ++ ((body ++ ((tail ++ ' ' :: (word' ++ ' ' :: before)) ++ trim t)) ++ after) := by
      conv_lhs => rw [surrounded, same]
      simp only [List.append_assoc, List.cons_append]
    have leading : Blank lead := fun c member => Json.isBlank_of_isSpace (blank c member)
    rw [parts, trim_surrounded leading inner right]
    simp only [List.append_assoc, List.cons_append, List.nil_append]
  have delimited : ∀ c ∈ ((tail ++ [' ']) ++ (word' ++ ' ' :: (before ++ trim t))).head?,
      Json.isDelimiter c = true := by
    cases tail with
    | nil =>
      rintro _ ⟨⟩
      decide
    | cons d tail =>
      rintro _ ⟨⟩
      simp [Json.isDelimiter, behind d List.mem_cons_self]
  have gap : Blank (tail ++ [' ']) :=
    Blank.append (fun c member => Json.isBlank_of_isSpace (behind c member)) blank_space
  have core : trim (before ++ trim t) = trim t := by rw [trim_blank_append left, trim_trim]
  rw [parse_eq_ofKeyword whole spelled, ofKeyword, trimmed, parseUpdate_of_leads leads object
    delimited, afterWhere_append .update gap spelled' (by rwa [core]), ← conditions_trim, core,
    conditions_trim]

end Command
end RecordStore.Console

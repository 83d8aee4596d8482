import RecordStore.Console.Parser
import RecordStore.Proofs.FileSystems
import RecordStore.Proofs.Trimming

/-! What a line was if it is read as a command. A line is its first word and the text after it; each
command is read from that text in one way, which says where its JSON value and its conditions
stand. -/
namespace RecordStore.Console

open Text

/-- Whether a word is the first of a text, and another text is the rest of it, with blanks around
and between them alone. The word ends at a blank or with the text. -/
structure Begins (text word rest : List Char) : Prop where
  unbroken : ∀ c ∈ word, isBlank c = false
  whole : ∃ before gap after, Blank before ∧ Blank gap ∧ Blank after ∧ (gap = [] → rest = []) ∧
    text = before ++ (word ++ (gap ++ (rest ++ after)))

theorem begins_splitKeyword (text : List Char) :
    Begins text (splitKeyword text).1 (splitKeyword text).2 := by
  obtain ⟨before, after, front, back, surrounded⟩ := exists_surrounded text
  let tail := (splitWord (trim text)).2
  have rest : (splitKeyword text).2 = tail.dropWhile isBlank := rfl
  have words : (splitKeyword text).1 ++ (tail.takeWhile isBlank ++ (splitKeyword text).2) =
      trim text := by
    rw [rest, List.takeWhile_append_dropWhile]
    exact splitWord_append (trim text)
  constructor
  case unbroken =>
    intro c member
    have kept : (!isBlank c) = true :=
      List.mem_takeWhile_imp (l := trim text) member
    simpa using kept
  case whole =>
    refine ⟨before, tail.takeWhile isBlank, after, front, ?gap, back, ?parted, ?joined⟩
    case gap =>
      intro c member
      exact List.mem_takeWhile_imp member
    case parted =>
      intro none
      -- Behind the word stands a blank or nothing, so that no gap means nothing.
      have first := List.head?_dropWhile_not (!isBlank ·) (trim text)
      rw [rest]
      cases ends : tail with
      | nil => rfl
      | cons c others =>
        rw [show (trim text).dropWhile (!isBlank ·) = c :: others from ends] at first
        have blank : isBlank c = true := by simpa using first
        rw [ends, List.takeWhile_cons_of_pos blank] at none
        cases none
    case joined =>
      calc text = before ++ (trim text ++ after) := surrounded
        _ = _ := by rw [← words]; simp only [List.append_assoc]

namespace Command

theorem readStart_of_leadingJson {text rest : List Char} {value : Json}
    (read : leadingJson text = .ok (value, rest)) : Json.readStart text = .ok (value, rest) := by
  unfold leadingJson at read
  split at read
  · cases read
  cases start : Json.readStart text with
  | error =>
    rw [start] at read
    cases read
  | ok result =>
    rw [start] at read
    cases read
    rfl

/-- How a command is read from its keyword and the text after it. -/
inductive Reads (text : List Char) : Keyword → Command → Prop where
  | insert {document : Json} {rest : List Char} : leadingJson text = .ok (document, rest) →
    isInsertable document = true → Reads text .insert (.insert document)
  | all : Reads text .all .all
  | find {texts : List String} : someConditions .find text = .ok texts →
    Reads text .find (.find texts)
  | first {texts : List String} : someConditions .first text = .ok texts →
    Reads text .first (.first texts)
  | count {texts : List String} : conditions text = .ok texts → Reads text .count (.count texts)
  | update {patch : Json} {rest : List Char} {texts : List String} :
    leadingJson text = .ok (patch, rest) → patch.isObject = true →
    afterWhere .update rest = .ok texts → Reads text .update (.update patch texts)
  | delete {texts : List String} : afterWhere .delete text = .ok texts →
    Reads text .delete (.delete texts)
  | reload : Reads text .reload .reload
  | clear : Reads text .clear .clear
  | help {topic : Option String} : Reads text .help (.help topic)
  | exit : Reads text .exit .exit
  | quit : Reads text .quit .exit

variable {text : List Char} {keyword : Keyword} {command : Command}

theorem reads_of_parseInsert (parsed : parseInsert text = .ok command) :
    Reads text .insert command := by
  simp only [parseInsert] at parsed
  split at parsed
  · cases parsed
  obtain ⟨⟨document, rest⟩, read, parsed⟩ := bind_eq_ok parsed
  simp only [bind, Except.bind, pure, Except.pure] at parsed
  split at parsed
  · cases parsed
  split at parsed
  · next insertable =>
    cases parsed
    exact .insert read insertable
  · cases parsed

theorem reads_of_parseUpdate (parsed : parseUpdate text = .ok command) :
    Reads text .update command := by
  simp only [parseUpdate] at parsed
  split at parsed
  · cases parsed
  obtain ⟨⟨patch, rest⟩, read, parsed⟩ := bind_eq_ok parsed
  simp only [bind, Except.bind, pure, Except.pure] at parsed
  split at parsed
  · cases parsed
  · next object =>
    cases accepted : afterWhere .update rest with
    | error =>
      rw [accepted] at parsed
      cases parsed
    | ok texts =>
      rw [accepted] at parsed
      cases parsed
      exact .update read (by simpa using object) accepted

theorem eq_of_alone {parsed : Command} (read : alone keyword command text = .ok parsed) :
    parsed = command := by
  unfold alone at read
  split at read <;> cases read
  rfl

theorem reads_of_ofKeyword (parsed : ofKeyword keyword text = .ok command) :
    Reads text keyword command := by
  cases keyword <;> simp only [ofKeyword] at parsed
  case insert => exact reads_of_parseInsert parsed
  case update => exact reads_of_parseUpdate parsed
  case all =>
    cases eq_of_alone parsed
    exact .all
  case reload =>
    cases eq_of_alone parsed
    exact .reload
  case clear =>
    cases eq_of_alone parsed
    exact .clear
  case find =>
    obtain ⟨texts, accepted, rfl⟩ := map_eq_ok parsed
    exact .find accepted
  case first =>
    obtain ⟨texts, accepted, rfl⟩ := map_eq_ok parsed
    exact .first accepted
  case count =>
    obtain ⟨texts, accepted, rfl⟩ := map_eq_ok parsed
    exact .count accepted
  case delete =>
    obtain ⟨texts, accepted, rfl⟩ := map_eq_ok parsed
    exact .delete accepted
  case help =>
    cases parsed
    exact .help
  case exit =>
    cases parsed
    exact .exit
  case quit =>
    cases parsed
    exact .quit

theorem reads_of_parse {line : String} (parsed : parse line = .ok command) :
    ∃ keyword, Keyword.ofWord? (splitKeyword line.toList).1 = some keyword ∧
      Reads (splitKeyword line.toList).2 keyword command := by
  simp only [parse] at parsed
  split at parsed
  · cases parsed
  split at parsed
  · next keyword named => exact ⟨keyword, named, reads_of_ofKeyword parsed⟩
  · cases parsed

end Command
end RecordStore.Console

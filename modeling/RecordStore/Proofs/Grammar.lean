import RecordStore.Proofs.Joining
import RecordStore.Proofs.Lines

/-! The lines of commands. A command that takes a document, a patch or conditions is written as its
keyword, the compact JSON, `WHERE` and the conditions joined by `AND`, each where it has them; the
line is parsed as the command it was written from. -/
namespace RecordStore

open Text

theorem Json.solid_compactText {value : Json} (container : value.isContainer = true) :
    Solid value.compactText.toList := by
  have brackets : ∃ first inside last, isBlank first = false ∧ isBlank last = false ∧
      value.write .compact 0 = first :: (inside ++ [last]) := by
    cases value with
    | array items =>
      cases items with
      | nil => exact ⟨'[', [], ']', by decide, by decide, rfl⟩
      | cons item rest => exact ⟨'[', _, ']', by decide, by decide, rfl⟩
    | object members =>
      cases members with
      | nil => exact ⟨'\x7b', [], '\x7d', by decide, by decide, rfl⟩
      | cons member rest => exact ⟨'\x7b', _, '\x7d', by decide, by decide, rfl⟩
    | null | bool | number | string => cases container
  obtain ⟨first, inside, last, visible, ends, written⟩ := brackets
  rw [compactText, String.toList_ofList, written]
  exact solid_of_ends (a := [first]) (c := [last]) (by simp) (by simp)
    (by rintro _ ⟨⟩; exact visible) (by rintro _ ⟨⟩; exact ends)

namespace Console.Command

open Conjunction

/-- Well-formed conditions, one at least, and a text that they were joined to. -/
structure Chain (conditions : List String) (text : List Char) : Prop where
  formed : ∀ condition ∈ conditions, WellFormed condition
  joined : Joined conditions text

/-- Whether a word spells another in any ASCII case. -/
def Spells (word : List Char) (capitals : String) : Prop :=
  equalsIgnoringAsciiCase word capitals.toList = true

/-- The lines that a command can be written as. -/
inductive Written : Command → List Char → Prop where
  | insert {document : Json} {word : List Char} : isInsertable document = true →
    Json.ofText document.compactText = .ok document → Spells word "INSERT" →
    Written (.insert document) (word ++ ' ' :: document.compactText.toList)
  | find {conditions : List String} {word text : List Char} : Chain conditions text →
    Spells word "FIND" → Written (.find conditions) (word ++ ' ' :: text)
  | first {conditions : List String} {word text : List Char} : Chain conditions text →
    Spells word "FIRST" → Written (.first conditions) (word ++ ' ' :: text)
  | count {conditions : List String} {word text : List Char} : Chain conditions text →
    Spells word "COUNT" → Written (.count conditions) (word ++ ' ' :: text)
  | countAll {word : List Char} : Spells word "COUNT" → Written (.count []) (word ++ [' '])
  | update {patch : Json} {conditions : List String} {word word' text : List Char} :
    patch.isObject = true → Json.ofText patch.compactText = .ok patch → Chain conditions text →
    Spells word "UPDATE" → Spells word' "WHERE" →
    Written (.update patch conditions)
      (word ++ ' ' :: (patch.compactText.toList ++ ' ' :: (word' ++ ' ' :: text)))
  | delete {conditions : List String} {word word' text : List Char} : Chain conditions text →
    Spells word "DELETE" → Spells word' "WHERE" →
    Written (.delete conditions) (word ++ ' ' :: (word' ++ ' ' :: text))

theorem Chain.unbroken {conditions : List String} {text : List Char}
    (chain : Chain conditions text) : ∀ condition ∈ conditions, Unbroken condition := by
  intro condition member
  exact (chain.formed condition member).unbroken

theorem Chain.visible {conditions : List String} {text : List Char}
    (chain : Chain conditions text) : trim text ≠ [] := by
  obtain ⟨visible, solid⟩ := chain.joined.ne_nil_and_solid chain.unbroken
  rwa [solid.trim]

theorem Chain.conditions {conditions : List String} {text : List Char}
    (chain : Chain conditions text) : Command.conditions text = .ok conditions := by
  have closed : ∀ condition ∈ conditions.dropLast, openQuote none condition.toList = none := by
    intro condition member
    exact (chain.formed condition (List.mem_of_mem_dropLast member)).closed
  rw [Command.conditions, chain.joined.conditions? chain.unbroken closed]

/-- A line is parsed as the command that it was written from. -/
theorem parse_of_written {command : Command} {line : String}
    (written : Written command line.toList) : parse line = .ok command := by
  generalize whole : line.toList = text at written
  cases written with
  | insert insertable read spelled =>
    exact parse_insert whole spelled read insertable
      (Json.solid_compactText (isContainer_of_isInsertable insertable))
  | find chain spelled =>
    rw [parse_find whole spelled chain.visible, chain.conditions]
    rfl
  | first chain spelled =>
    rw [parse_first whole spelled chain.visible, chain.conditions]
    rfl
  | count chain spelled =>
    rw [parse_count whole spelled, chain.conditions]
    rfl
  | countAll spelled =>
    rw [parse_count whole spelled]
    rfl
  | update object read chain spelled spelled' =>
    rw [parse_update whole spelled spelled' read object chain.visible, chain.conditions]
    rfl
  | delete chain spelled spelled' =>
    rw [parse_delete whole spelled spelled' chain.visible, chain.conditions]
    rfl

theorem parse_of_written_update :
    let patch : Json := .object [("note", .string "\" WHERE"), ("n", .bool true)]
    let line := "uPdate \x7b\"note\":\"\\\" WHERE\",\"n\":true\x7d where " ++
      "a = 'x AND \"y'\t aNd \nband contains \u00e9"
    let command : Command := .update patch ["a = 'x AND \"y'", "band contains \u00e9"]
    Written command line.toList ∧ parse line = .ok command := by
  intro patch line command
  have formed : ∀ condition ∈ ["a = 'x AND \"y'", "band contains \u00e9"],
      WellFormed condition := by
    decide +kernel
  have joined : Joined ["a = 'x AND \"y'", "band contains \u00e9"]
      ("a = 'x AND \"y'".toList ++ ("\t ".toList ++ ("aNd".toList ++ (" \n".toList ++
        "band contains \u00e9".toList)))) :=
    .and (by decide +kernel) (by decide +kernel) (by decide +kernel) (.last _)
  have text : patch.compactText = "\x7b\"note\":\"\\\" WHERE\",\"n\":true\x7d" := by rfl
  have read : Json.ofText patch.compactText = .ok patch := by
    rw [text]
    rfl
  have spelled : Spells "uPdate".toList "UPDATE" := by rfl
  have spelled' : Spells "where".toList "WHERE" := by rfl
  have written : Written command line.toList := by
    have form := Written.update rfl read ⟨formed, joined⟩ spelled spelled'
    rw [text] at form
    convert form using 1
    decide +kernel
  exact ⟨written, parse_of_written written⟩

end Console.Command
end RecordStore

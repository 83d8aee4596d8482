import RecordStore.Proofs.Chains
import RecordStore.Proofs.Lines

/-! The scope of a change. A line that deletes or patches has its conditions behind a `WHERE`, and
concerns the records that satisfy each of them. A text that is no condition is passed over, so it
protects no record: a chain of nothing but such texts concerns them all. -/
namespace RecordStore.Console

open Text World Query

variable {text : List Char} {texts : List String} {keyword : Keyword}

namespace Command

/-- Whether texts are the conditions behind the `WHERE` that a text begins with. -/
structure BehindWhere (text : List Char) (texts : List String) : Prop where
  present : texts ≠ []
  split : ∃ word rest, Begins text word rest ∧
    equalsIgnoringAsciiCase word "WHERE".toList = true ∧
    Conjunction.conditions? (String.ofList rest) = some texts

/-- Whether a line is written as a command that changes what satisfies its conditions: its keyword,
its patch if it has one, and next the `WHERE` that its conditions stand behind. -/
inductive Follow (line : List Char) : Command → Prop where
  | delete {word text : List Char} {texts : List String} : Begins line word text →
    uppercase? word = some "DELETE".toList → BehindWhere text texts → Follow line (delete texts)
  | update {word text written rest : List Char} {patch : Json} {texts : List String} :
    Begins line word text → uppercase? word = some "UPDATE".toList → text = written ++ rest →
    leadingJson text = .ok (patch, rest) → BehindWhere rest texts → Follow line (update patch texts)

theorem someConditions_eq_ok (accepted : someConditions keyword text = .ok texts) :
    Conjunction.conditions? (String.ofList text) = some texts ∧ texts ≠ [] := by
  unfold someConditions conditions at accepted
  cases found : Conjunction.conditions? (String.ofList text) with
  | none =>
    rw [found] at accepted
    cases accepted
  | some conditions =>
    rw [found] at accepted
    simp only [bind, Except.bind] at accepted
    split at accepted
    · cases accepted
    · next present =>
      cases accepted
      exact ⟨rfl, by simpa using present⟩

theorem behindWhere_of_afterWhere (accepted : afterWhere keyword text = .ok texts) :
    BehindWhere text texts := by
  simp only [afterWhere] at accepted
  split at accepted
  · next spelled =>
    obtain ⟨found, present⟩ := someConditions_eq_ok accepted
    exact ⟨present, _, _, begins_splitKeyword text, spelled, found⟩
  · cases accepted

theorem uppercase?_of_ofWord? {word : List Char} (named : Keyword.ofWord? word = some keyword) :
    uppercase? word = some keyword.word.toList := by
  obtain ⟨capitals, raised, found⟩ := Option.bind_eq_some_iff.1 named
  have same : keyword.word.toList = capitals := by
    simpa using List.find?_some found
  rw [raised, same]

theorem follow_of_delete {line : String} (parsed : parse line = .ok (delete texts)) :
    Follow line.toList (delete texts) := by
  obtain ⟨keyword, named, reads⟩ := reads_of_parse parsed
  cases reads with
  | delete accepted =>
    exact .delete (begins_splitKeyword _) (uppercase?_of_ofWord? named)
      (behindWhere_of_afterWhere accepted)

theorem follow_of_update {line : String} {patch : Json}
    (parsed : parse line = .ok (update patch texts)) : Follow line.toList (update patch texts) := by
  obtain ⟨keyword, named, reads⟩ := reads_of_parse parsed
  cases reads with
  | update read object accepted =>
    obtain ⟨written, whole⟩ := suffix_of_leadingJson read
    exact .update (begins_splitKeyword _) (uppercase?_of_ofWord? named) whole.symm read
      (behindWhere_of_afterWhere accepted)

/-- Whether positions are those of the records that satisfy each condition among the texts. -/
def Satisfying (texts : List String) (records : List Json) (positions : List Nat) : Prop :=
  ∀ i, i ∈ positions ↔ ∃ record, records[i]? = some record ∧
    ∀ raw ∈ texts, ∀ condition, Condition.parse? raw = some condition →
      condition.holds record = true

/-- The texts that are conditions. -/
def parseable (texts : List String) : List String :=
  texts.filter fun raw => (Condition.parse? raw).isSome

theorem selected_parseable (texts : List String) (records : List Json) :
    selected (parseable texts) records = selected texts records := by
  apply selected_congr
  intro raw isCondition
  simp [parseable, isCondition]

/-- A line that deletes or patches takes its conditions from the text behind its own `WHERE`. The
records that it removes or patches are those that satisfy each condition there that parses, whether
the change can be written or not; and it does to the store what it would do without the texts that
do not. -/
theorem changes_satisfying {F : Type} [FileSystem F] {world : World F}
    (reachable : world.Reachable) (store : Store) (line : String) :
    let after (command : Command) := (run (command.execute store) world).1.2
    (∀ texts, parse line = .ok (.delete texts) → Follow line.toList (.delete texts) ∧
      after (.delete (parseable texts)) = after (.delete texts) ∧
      ∃ removed, Satisfying texts store.records removed ∧
        after (.delete texts) = { store with records := recordsBeside removed store.records }) ∧
    ∀ patch texts, parse line = .ok (.update patch texts) →
      Follow line.toList (.update patch texts) ∧
      after (.update patch (parseable texts)) = after (.update patch texts) ∧
      ∃ changed, Satisfying texts store.records changed ∧
        after (.update patch texts) =
          { store with records := patchedAt changed patch store.records } := by
  intro after
  have faithful := reachable.faithful
  constructor
  · intro texts read
    refine ⟨follow_of_delete read, ?_, selected texts store.records, fun i => mem_selected_iff,
      store_of_delete faithful store texts⟩
    simp only [after, store_of_delete faithful, selected_parseable]
  · intro patch texts read
    refine ⟨follow_of_update read, ?_, selected texts store.records, fun i => mem_selected_iff,
      store_of_update faithful store patch texts⟩
    simp only [after, store_of_update faithful, selected_parseable]

theorem changes_satisfying_chain :
    let record (n : Int) (fits : -9223372036854775808 ≤ n ∧ n < 18446744073709551616) : Json :=
      .object [("a", .number (.integer n fits))]
    let store : Store :=
      ⟨"records.json", [record 1 (by decide), record 2 (by decide)], .default, .shared⟩
    let after (command : Command) := (run (command.execute store) (World.start Disk.empty)).1.2
    parse "delete where junk and a = 1" = .ok (.delete ["junk", "a = 1"]) ∧
      Follow "delete where junk and a = 1".toList (.delete ["junk", "a = 1"]) ∧
      after (.delete ["a = 1"]) = after (.delete ["junk", "a = 1"]) := by
  intro record store after
  have read : parse "delete where junk and a = 1" = .ok (.delete ["junk", "a = 1"]) := by rfl
  obtain ⟨follow, same, -⟩ := (changes_satisfying (.start Disk.empty) store _).1 _ read
  exact ⟨read, follow, same⟩

/-- Where no text is a condition, all records are deleted, though none satisfies a condition. -/
theorem delete_of_unparsed :
    let record (n : Int) (fits : -9223372036854775808 ≤ n ∧ n < 18446744073709551616) : Json :=
      .object [("a", .number (.integer n fits))]
    let store : Store :=
      ⟨"records.json", [record 1 (by decide), record 2 (by decide)], .default, .shared⟩
    parse "DELETE WHERE a greater 1" = .ok (.delete ["a greater 1"]) ∧
      Condition.parse? "a greater 1" = none ∧
      (run ((Command.delete ["a greater 1"]).execute store) (World.start Disk.empty)).1.2.records =
        [] := by
  intro record store
  refine ⟨by rfl, by rfl, ?_⟩
  rw [store_of_delete (Reachable.start Disk.empty).faithful]
  rfl

end Command
end RecordStore.Console

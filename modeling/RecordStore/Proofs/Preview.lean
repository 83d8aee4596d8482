import RecordStore.Proofs.Chains
import RecordStore.Proofs.Lines

/-! `FIND` as a preview. The five lines that select records by a chain of conditions read the chain
alike, and do what they do with the same records: reading them, counting them, deleting or patching
them. Records are told apart by position, so equal records make no difference. -/
namespace RecordStore.Console.Command

open World Query

/-- What the five commands do with a chain that selects the records at positions: what is found, and
what becomes of the store. The changes are reported as made unless a request for them fails. -/
structure Previews {F : Type} [FileSystem F] (world : World F) (store : Store) (patch : Json)
    (positions : List Nat) (texts : List String) : Prop where
  find : (run ((find texts).execute store) world).1 =
    (.ok (.items (recordsAt positions store.records)), store)
  first : (run ((first texts).execute store) world).1 =
    (.ok (.item (recordsAt positions store.records).head?), store)
  count : (run ((count texts).execute store) world).1 =
    (.ok (.count (recordsAt positions store.records).length), store)
  kept : (run ((delete texts).execute store) world).1.2 =
    { store with records := recordsBeside positions store.records }
  deleted : (∀ request ∈ requests ((delete texts).execute store) world, request.failed = false) →
    (run ((delete texts).execute store) world).1.1 =
      .ok (.deleted (recordsAt positions store.records).length)
  patched : (run ((update patch texts).execute store) world).1.2 =
    { store with records := patchedAt positions patch store.records }
  updated : (∀ request ∈ requests ((update patch texts).execute store) world,
      request.failed = false) →
    (run ((update patch texts).execute store) world).1.1 =
      .ok (.updated (recordsAt positions store.records).length)

theorem previews_of_faithful {F : Type} [FileSystem F] {world : World F} (faithful : world.Faithful)
    (store : Store) (patch : Json) (texts : List String) :
    Previews world store patch (selected texts store.records) texts where
  find := execute_find faithful store texts
  first := execute_first faithful store texts
  count := execute_count faithful store texts
  kept := store_of_delete faithful store texts
  deleted := outcome_of_delete faithful
  patched := store_of_update faithful store patch texts
  updated := outcome_of_update faithful

/-- The lines that select records by a chain. -/
def selecting (p t : String) : List String :=
  ["FIND " ++ t, "FIRST " ++ t, "COUNT " ++ t, "DELETE WHERE " ++ t,
    "UPDATE " ++ p ++ " WHERE " ++ t]

/-- All of the lines read the chain alike. -/
theorem parse_selecting {p t : String} {patch : Json} (visible : Text.trim t.toList ≠ [])
    (read : Json.ofText p = .ok patch) (object : patch.isObject = true) :
    (selecting p t).map parse =
      [(conditions t.toList).map .find, (conditions t.toList).map .first,
        (conditions t.toList).map .count, (conditions t.toList).map .delete,
        (conditions t.toList).map (.update patch)] := by
  have findText : ("FIND " ++ t).toList = "FIND".toList ++ ' ' :: t.toList := String.toList_append
  have firstText : ("FIRST " ++ t).toList = "FIRST".toList ++ ' ' :: t.toList :=
    String.toList_append
  have countText : ("COUNT " ++ t).toList = "COUNT".toList ++ ' ' :: t.toList :=
    String.toList_append
  have deleteText : ("DELETE WHERE " ++ t).toList =
      "DELETE".toList ++ ' ' :: ("WHERE".toList ++ ' ' :: t.toList) :=
    String.toList_append
  have updateText : ("UPDATE " ++ p ++ " WHERE " ++ t).toList =
      "UPDATE".toList ++ ' ' :: (p.toList ++ ' ' :: ("WHERE".toList ++ ' ' :: t.toList)) := by
    simp only [String.toList_append, List.append_assoc]
    rfl
  simp only [selecting, List.map_cons, List.map_nil, parse_find findText rfl visible,
    parse_first firstText rfl visible, parse_count countText rfl,
    parse_delete deleteText rfl rfl visible, parse_update updateText rfl rfl read object visible]

/-- `FIND` previews what the other lines do. With the same text for a chain, either all five lines
are refused, or they are read as the same chain; then they concern the records at the positions that
the chain selects, and go on to if conditions of the chain change places or are repeated. -/
theorem find_previews {F : Type} [FileSystem F] {world : World F} (reachable : world.Reachable)
    (store : Store) {p t : String} {patch : Json} (visible : Text.trim t.toList ≠ [])
    (read : Json.ofText p = .ok patch) (object : patch.isObject = true) :
    (∀ line ∈ selecting p t, ∃ error, parse line = .error error) ∨
      ∃ texts, (selecting p t).map parse = [.ok (.find texts), .ok (.first texts),
          .ok (.count texts), .ok (.delete texts), .ok (.update patch texts)] ∧
        (selected texts store.records).Pairwise (· < ·) ∧
        (∀ i ∈ selected texts store.records, i < store.records.length) ∧
        ∀ others, (∀ raw, raw ∈ others ↔ raw ∈ texts) →
          Previews world store patch (selected texts store.records) others := by
  have parsed := parse_selecting visible read object
  cases chain : conditions t.toList with
  | error error =>
    rw [chain] at parsed
    left
    intro line member
    have result : parse line ∈ (selecting p t).map parse := List.mem_map_of_mem member
    rw [parsed] at result
    simp only [List.mem_cons, List.not_mem_nil, or_false] at result
    rcases result with result | result | result | result | result <;> exact ⟨error, result⟩
  | ok texts =>
    rw [chain] at parsed
    right
    refine ⟨texts, parsed, pairwise_selected texts store.records, ?_, ?_⟩
    · intro i present
      obtain ⟨record, inside, -⟩ := mem_selected_iff.1 present
      exact (List.getElem?_eq_some_iff.1 inside).1
    · intro others same
      rw [selected_congr store.records fun raw _ => (same raw).symm]
      exact previews_of_faithful reachable.faithful store patch others

theorem find_previews_duplicates :
    let record (n : Int) (fits : -9223372036854775808 ≤ n ∧ n < 18446744073709551616) : Json :=
      .object [("a", .number (.integer n fits))]
    let store : Store :=
      ⟨"records.json", [record 1 (by decide), record 2 (by decide), record 1 (by decide)], .default,
        .shared⟩
    let after (command : Command) := run (command.execute store) (World.start Disk.empty)
    parse ("DELETE WHERE " ++ " a = 1 AND junk") = .ok (.delete ["a = 1", "junk"]) ∧
      (after (.count ["junk", "a = 1", "junk"])).1.1 = .ok (.count 2) ∧
      (after (.delete ["junk", "a = 1", "junk"])).1.2.records = [record 2 (by decide)] := by
  intro record store after
  have parsed : parse ("DELETE WHERE " ++ " a = 1 AND junk") = .ok (.delete ["a = 1", "junk"]) := by
    rfl
  have visible : Text.trim " a = 1 AND junk".toList ≠ [] := by decide
  have read : Json.ofText "\x7b\"b\":null\x7d" = .ok (.object [("b", .null)]) := by rfl
  have outcome := find_previews (.start Disk.empty) store visible read rfl
  rcases outcome with refused | ⟨texts, all, -, -, previews⟩
  · obtain ⟨error, failed⟩ := refused ("DELETE WHERE " ++ " a = 1 AND junk") (by simp [selecting])
    rw [parsed] at failed
    cases failed
  · obtain ⟨-, -, -, deleted, -⟩ : _ ∧ _ ∧ _ ∧
        parse ("DELETE WHERE " ++ " a = 1 AND junk") = .ok (.delete texts) ∧ _ := by
      simpa only [selecting, List.map_cons, List.cons.injEq] using all
    obtain rfl : texts = ["a = 1", "junk"] := by
      rw [parsed] at deleted
      cases deleted
      rfl
    have chain := previews ["junk", "a = 1", "junk"] (by simp [or_comm])
    refine ⟨parsed, ?_, ?_⟩
    · rw [chain.count]
      rfl
    · rw [chain.kept]
      rfl

end RecordStore.Console.Command

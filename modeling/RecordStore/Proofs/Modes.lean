import RecordStore.Proofs.Backspaces
import RecordStore.Proofs.InputLines
import RecordStore.Proofs.Runs
import RecordStore.Proofs.Trimming

/-! The three ways to run lines agree. Piped lines run as if the lines of the text that are not
blank had been given. A dialogue on the same text does the same as long as nothing fails, and prints
a banner before it and a farewell after it unless a line exits. It differs in one respect: its lines
are typed, so that backspaces in them count. -/
namespace RecordStore.Console

open World

/-- Whether there is more than blanks in a line. -/
def visible (line : String) : Bool := line.toList.any (!Text.isBlank ·)

def textLines (text : String) : List String := (Text.lines text.toList).map String.ofList

/-- The lines of a text that are not blank. -/
def visibleLines (text : String) : List String := (textLines text).filter visible

/-- Lines as they are when their backspaces have been carried out, without the blank ones. -/
def rubbed (lines : List String) : List String := (lines.map afterBackspaces).filter visible

/-- The lines that a dialogue comes to: up to the first that exits once its backspaces have been
carried out, and with it. -/
def reached : List String → List String
  | [] => []
  | line :: lines => line :: if exits (afterBackspaces line) then [] else reached lines

theorem mem_of_mem_reached {line : String} {lines : List String} (present : line ∈ reached lines) :
    line ∈ lines := by
  induction lines with
  | nil => exact present
  | cons first lines ih =>
    rcases List.mem_cons.1 present with rfl | present
    · exact List.mem_cons_self
    · split at present
      · cases present
      · exact List.mem_cons_of_mem _ (ih present)

theorem isEmpty_trimString (line : String) : (Text.trimString line).isEmpty = !visible line := by
  have empty : (Text.trimString line).isEmpty = true ↔ Text.trim line.toList = [] := by
    rw [String.isEmpty_iff, Text.trimString, ← String.toList_inj, String.toList_ofList]
    rfl
  rw [Bool.eq_iff_iff, empty, Text.trim_eq_nil_iff, Text.Blank, visible]
  simp

theorem parse_trimString (line : String) :
    Command.parse (Text.trimString line) = Command.parse line := by
  have same : splitKeyword (Text.trimString line).toList = splitKeyword line.toList := by
    rw [Text.trimString, String.toList_ofList, splitKeyword, Text.trim_trim]
    rfl
  rw [Command.parse, same]
  rfl

theorem exits_of_blank {line : String} (blank : visible line = false) : exits line = false := by
  have nothing : Text.trimString line = "" := by
    rw [← String.isEmpty_iff, isEmpty_trimString, blank]
    rfl
  rw [Bool.eq_false_iff, ne_eq, exits_iff, ← parse_trimString, nothing]
  rintro ⟨⟩

theorem runLine_trimString (format : Format) (store : Store) (line : String) :
    runLine format store (Text.trimString line) = runLine format store line := by
  rw [runLine, parse_trimString]
  rfl

theorem runPiped_some (format : Format) (lines : List String) (store : Store) :
    runPiped format (lines.map some) store = runCommands format (lines.filter visible) store := by
  induction lines generalizing store with
  | nil => rfl
  | cons line lines ih =>
    simp only [List.map_cons, runPiped, isEmpty_trimString, runLine_trimString, ih]
    cases seen : visible line with
    | false => simp [seen]
    | true => simp [seen, runCommands]

namespace Output

theorem empty_append (output : Output) : Output.empty ++ output = output := by
  obtain ⟨out, err⟩ := output
  change Output.mk ("" ++ out) ("" ++ err) = _
  rw [String.empty_append, String.empty_append]

@[simp] theorem out_append (a b : Output) : (a ++ b).out = a.out ++ b.out := rfl

@[simp] theorem err_append (a b : Output) : (a ++ b).err = a.err ++ b.err := rfl

theorem append_assoc (a b c : Output) : a ++ b ++ c = a ++ (b ++ c) := by
  change Output.mk (a.out ++ b.out ++ c.out) (a.err ++ b.err ++ c.err) = _
  rw [String.append_assoc, String.append_assoc]
  rfl

end Output

@[simp] theorem RunResult.code_after (output : Output) (result : RunResult) :
    (result.after output).code = result.code := rfl

/-- What is shown to people is no error, unknown topics of help included. -/
theorem err_pretty (outcome : Outcome) : (outcome.render .pretty).err = "" := by
  cases outcome with
  | item record => cases record <;> rfl
  | help topic =>
    cases topic with
    | none => rfl
    | some topic =>
      simp only [Outcome.render, Rendering.pretty, Rendering.prettyHelp]
      split <;> rfl
  | _ => rfl

section
variable {F : Type} [FileSystem F] {world : World F} {store : Store}

theorem err_runLine {line : String}
    (fine : (run (runLine .pretty store line) world).1.ending ≠ .failed) :
    (run (runLine .pretty store line) world).1.output.err = "" := by
  cases parsed : Command.parse line with
  | error error =>
    rw [runLine_of_error .pretty store parsed] at fine
    exact absurd rfl fine
  | ok command =>
    rw [(runLine_of_ok world .pretty store parsed).1] at fine ⊢
    cases executed : (run (command.execute store) world).1.1 with
    | error error =>
      rw [executed] at fine
      exact absurd rfl fine
    | ok outcome =>
      cases outcome with
      | exit => rfl
      | _ => exact err_pretty _

theorem err_runCommands {lines : List String}
    (fine : (run (runCommands .pretty lines store) world).1.code = 0) :
    (run (runCommands .pretty lines store) world).1.output.err = "" := by
  induction lines generalizing store world with
  | nil => rfl
  | cons line lines ih =>
    by_cases goes : (run (runLine .pretty store line) world).1.ending = .goOn
    · rw [(runCommands_of_goOn lines goes).1] at fine ⊢
      have quiet : (run (runLine .pretty store line) world).1.output.err = "" := by
        apply err_runLine
        rw [goes]
        nofun
      change _ ++ _ = ""
      rw [quiet, ih fine]
      rfl
    · rw [(runCommands_of_stop lines rfl goes).1] at fine ⊢
      apply err_runLine
      intro failed
      rw [failed] at fine
      cases fine

section
variable {line : String}

theorem answer_of_blank (countable : Countable line)
    (blank : visible (afterBackspaces line) = false) :
    Dialogue.answer store (some line) = pure ⟨.empty, .goOn, store⟩ := by
  simp only [Dialogue.answer, rubbedOut?_of_countable countable, isEmpty_trimString, blank]
  rfl

theorem answer_of_visible (countable : Countable line)
    (seen : visible (afterBackspaces line) = true) :
    Dialogue.answer store (some line) = (do
      let result ← runLine .pretty store (afterBackspaces line)
      return { result with ending := if result.ending = .exit then .exit else .goOn }) := by
  simp only [Dialogue.answer, rubbedOut?_of_countable countable, isEmpty_trimString, seen,
    runLine_trimString]
  rfl

variable (lines : List InputLine)

theorem answerAll_of_blank (countable : Countable line)
    (blank : visible (afterBackspaces line) = false) :
    run (Dialogue.answerAll (some line :: lines) store) world =
        run (Dialogue.answerAll lines store) world ∧
      requests (Dialogue.answerAll (some line :: lines) store) world =
        requests (Dialogue.answerAll lines store) world := by
  simp only [Dialogue.answerAll, answer_of_blank countable blank, run_bind, requests_bind, run_pure,
    requests_pure, RunResult.after, Output.empty_append, List.nil_append, List.append_nil, and_self]

theorem answerAll_of_goOn (countable : Countable line)
    (seen : visible (afterBackspaces line) = true)
    (goes : (run (runLine .pretty store (afterBackspaces line)) world).1.ending = .goOn) :
    let result := run (runLine .pretty store (afterBackspaces line)) world
    let later := run (Dialogue.answerAll lines result.1.store) result.2
    run (Dialogue.answerAll (some line :: lines) store) world =
        (later.1.after result.1.output, later.2) ∧
      requests (Dialogue.answerAll (some line :: lines) store) world =
        requests (runLine .pretty store (afterBackspaces line)) world ++
          requests (Dialogue.answerAll lines result.1.store) result.2 := by
  simp only [Dialogue.answerAll, answer_of_visible countable seen, run_bind, requests_bind,
    run_pure, requests_pure, goes, reduceCtorEq, if_false, List.append_nil, and_self]

theorem answerAll_of_exit (countable : Countable line)
    (seen : visible (afterBackspaces line) = true)
    (ended : (run (runLine .pretty store (afterBackspaces line)) world).1.ending = .exit) :
    let result := run (runLine .pretty store (afterBackspaces line)) world
    run (Dialogue.answerAll (some line :: lines) store) world =
        (⟨0, result.1.output, result.1.store⟩, result.2) ∧
      requests (Dialogue.answerAll (some line :: lines) store) world =
        requests (runLine .pretty store (afterBackspaces line)) world := by
  simp only [Dialogue.answerAll, answer_of_visible countable seen, run_bind, requests_bind,
    run_pure, requests_pure, ended, if_true, List.append_nil, and_self]

end

/-- What ends the output of a dialogue that runs lines of which none fails. -/
def leave (lines : List String) : Output :=
  if lines.any exits then .empty else Dialogue.farewell

/-- Where nothing fails, a dialogue is a run of its lines as given ones, and a farewell. -/
theorem answerAll_some (faithful : world.Faithful) (lines : List String)
    (countable : ∀ line ∈ reached lines, Countable line)
    (fine : (run (runCommands .pretty (rubbed lines) store) world).1.code = 0) :
    let given := run (runCommands .pretty (rubbed lines) store) world
    run (Dialogue.answerAll (lines.map some) store) world =
        (⟨0, given.1.output ++ leave (rubbed lines), given.1.store⟩, given.2) ∧
      requests (Dialogue.answerAll (lines.map some) store) world =
        requests (runCommands .pretty (rubbed lines) store) world := by
  induction lines generalizing store world with
  | nil => exact ⟨rfl, rfl⟩
  | cons line lines ih =>
    have fits : Countable line := countable line List.mem_cons_self
    have later (staying : exits (afterBackspaces line) = false) :
        ∀ line ∈ reached lines, Countable line := by
      intro other present
      apply countable
      rw [reached, staying]
      exact List.mem_cons_of_mem _ present
    cases seen : visible (afterBackspaces line) with
    | false =>
      have skipped : rubbed (line :: lines) = rubbed lines := by simp [rubbed, seen]
      rw [skipped] at fine ⊢
      rw [List.map_cons, (answerAll_of_blank _ fits seen).1, (answerAll_of_blank _ fits seen).2]
      exact ih faithful (later (exits_of_blank seen)) fine
    | true =>
      have taken : rubbed (line :: lines) = afterBackspaces line :: rubbed lines := by
        simp [rubbed, seen]
      have law := lineRun_of_faithful faithful .pretty store (afterBackspaces line)
      rw [taken] at fine ⊢
      rw [List.map_cons]
      cases ended : (run (runLine .pretty store (afterBackspaces line)) world).1.ending with
      | goOn =>
        obtain ⟨given, asked⟩ := runCommands_of_goOn (rubbed lines) ended
        obtain ⟨talked, said⟩ := answerAll_of_goOn (lines.map some) fits seen ended
        have staying : exits (afterBackspaces line) = false := by
          rw [Bool.eq_false_iff, ne_eq, exits_iff, ← law.exits, ended]
          rintro ⟨⟩
        have left : leave (afterBackspaces line :: rubbed lines) = leave (rubbed lines) := by
          simp [leave, staying]
        rw [given, RunResult.code_after] at fine
        obtain ⟨ran, requested⟩ :=
          ih (faithful.run (runLine .pretty store (afterBackspaces line))) (later staying) fine
        rw [given, asked, talked, said, left, ran, requested]
        simp only [RunResult.after, Output.append_assoc, and_self]
      | exit =>
        obtain ⟨given, asked⟩ := runCommands_of_stop (rubbed lines) ended (by rintro ⟨⟩)
        obtain ⟨talked, said⟩ := answerAll_of_exit (lines.map some) fits seen ended
        have left : leave (afterBackspaces line :: rubbed lines) = .empty := by
          simp [leave, exits_iff.2 (law.exits.1 ended)]
        rw [given, asked, talked, said, left]
        simp only [Output.append_empty, and_self]
      | failed =>
        rw [(runCommands_of_stop (rubbed lines) ended (by rintro ⟨⟩)).1] at fine
        cases fine

theorem not_mem_of_mem_textLines {text : String} (none : '\x08' ∉ text.toList) {line : String}
    (present : line ∈ textLines text) : '\x08' ∉ line.toList := by
  obtain ⟨line, among, rfl⟩ := List.mem_map.1 present
  rw [String.toList_ofList]
  exact fun inside => none (Text.mem_of_mem_lines among inside)

/-- Where no line has a backspace, none is changed. -/
theorem rubbed_textLines {text : String} (none : '\x08' ∉ text.toList) :
    rubbed (textLines text) = visibleLines text := by
  have unchanged : (textLines text).map afterBackspaces = textLines text := by
    rw [List.map_congr_left fun line present =>
      afterBackspaces_of_not_mem (not_mem_of_mem_textLines none present)]
    exact List.map_id _
  rw [rubbed, unchanged, visibleLines]

theorem banner_eq (store : Store) : Dialogue.banner store =
    ⟨"FerriJSON Console v0.1.0\nFile: " ++ store.path ++
      "\nType HELP for available commands.\n\n", ""⟩ := by
  rw [Dialogue.banner, Output.lines]
  simp only [List.map_cons, List.map_nil, String.join_cons, String.join_nil, String.append_assoc]
  rfl

/-- The three ways to run lines agree on every text. Piped, in either format, its lines run as if
those that are not blank had been given. In a dialogue, each backspace takes away the last
user-perceived character that is still left before it. Where an octet holds the size of every such
character in a line with backspaces that is reached, the lines that are left then do the same to the
store and its surroundings as given ones, as long as none fails before an exit; nothing goes to the
error output, and the output is the banner, what the given lines print, and the farewell unless a
line exits. A text without backspaces is not changed. -/
theorem modes_agree {F : Type} [FileSystem F] {world : World F} (reachable : world.Reachable)
    (store : Store) (text : String) :
    (∀ format, runPiped format (InputLine.all text.toUTF8) store =
      runCommands format (visibleLines text) store) ∧
    ((∀ line ∈ reached (textLines text), Countable line) →
      failsBeforeExit world .pretty (rubbed (textLines text)) store = false →
      let given := run (runCommands .pretty (rubbed (textLines text)) store) world
      let talked := run (Dialogue.run (InputLine.all text.toUTF8) store) world
      talked.1.code = 0 ∧ talked.1.store = given.1.store ∧ talked.2 = given.2 ∧
      requests (Dialogue.run (InputLine.all text.toUTF8) store) world =
        requests (runCommands .pretty (rubbed (textLines text)) store) world ∧
      talked.1.output.err = "" ∧
      talked.1.output.out =
        "FerriJSON Console v0.1.0\nFile: " ++ store.path ++
            "\nType HELP for available commands.\n\n" ++
          given.1.output.out ++ if (rubbed (textLines text)).any exits then "" else "Bye!\n") ∧
    ((∀ rear, remaining (['\x08'] :: rear) = remaining rear) ∧
      (∀ front cluster rear, cluster ≠ ['\x08'] →
        remaining (front ++ cluster :: ['\x08'] :: rear) = remaining (front ++ rear)) ∧
      ∀ clusters, ['\x08'] ∉ clusters → remaining clusters = clusters) ∧
    ('\x08' ∉ text.toList → (∀ line ∈ reached (textLines text), Countable line) ∧
      rubbed (textLines text) = visibleLines text) := by
  have read : InputLine.all text.toUTF8 = (textLines text).map some := by
    rw [InputLine.all_toUTF8, textLines, List.map_map]
    rfl
  rw [read]
  refine ⟨fun format => runPiped_some format (textLines text) store, ?dialogue,
    ⟨remaining_backspace, fun front _ rear kept => remaining_rubbed kept front rear,
      fun _ => remaining_of_not_mem⟩, ?plain⟩
  case dialogue =>
    intro countable fine
    have code := code_runCommands reachable.faithful .pretty (rubbed (textLines text)) store
    rw [fine] at code
    obtain ⟨ran, requested⟩ := answerAll_some reachable.faithful (textLines text) countable code
    have quiet := err_runCommands code
    simp only [Dialogue.run, run_bind, requests_bind, run_pure, requests_pure, ran, requested,
      RunResult.after, List.append_nil, Output.out_append, Output.err_append, quiet, banner_eq,
      leave, true_and]
    constructor
    · split <;> rfl
    · simp only [String.append_assoc]
      split <;> rfl
  case plain =>
    intro none
    refine ⟨?_, rubbed_textLines none⟩
    intro line present
    exact countable_of_not_mem (not_mem_of_mem_textLines none (mem_of_mem_reached present))

theorem modes_agree_until_exit :
    let store : Store := ⟨"records.json", [], .default, .shared⟩
    let text := "\r\n INSERT \x7b\"a\": 1\x7d \n\nCOUNT a = 1\r\nquit\nCLEAR"
    let typed := "\r\n INSERT \x7b\"a\": 1\x7d \n\nCOUNT a = 1e\u0301\x08\r\nquit\nCLEAR"
    rubbed (textLines text) = visibleLines text ∧ rubbed (textLines typed) = visibleLines text ∧
      ∃ talked done,
        run (Dialogue.run (InputLine.all typed.toUTF8) store) (World.start Disk.empty) =
          (talked, done) ∧
        talked.output.err = "" ∧
        talked.output.out =
          "FerriJSON Console v0.1.0\nFile: records.json\nType HELP for available commands.\n\n" ++
            "Inserted 1 record(s).\n1\n" := by
  intro store text typed
  have plain : '\x08' ∉ text.toList := by decide +kernel
  have countable : ∀ line ∈ reached (textLines typed), Countable line := by decide +kernel
  have left : rubbed (textLines typed) = visibleLines text := by decide +kernel
  have fine : failsBeforeExit (World.start Disk.empty) .pretty (visibleLines text) store =
      false := by
    decide +kernel
  have exiting : (visibleLines text).any exits = true := by decide +kernel
  have printed : (run (runCommands .pretty (visibleLines text) store)
      (World.start Disk.empty)).1.output.out = "Inserted 1 record(s).\n1\n" := by
    decide +kernel
  obtain ⟨-, -, -, same⟩ := modes_agree (.start Disk.empty) store text
  obtain ⟨-, dialogue, -⟩ := modes_agree (.start Disk.empty) store typed
  rw [left] at dialogue
  obtain ⟨-, -, -, -, quiet, whole⟩ := dialogue countable fine
  obtain ⟨⟨talked, done⟩, ran⟩ : ∃ result, run (Dialogue.run (InputLine.all typed.toUTF8) store)
      (World.start Disk.empty) = result := ⟨_, rfl⟩
  rw [ran] at quiet whole
  rw [printed, exiting, if_pos rfl, String.append_empty] at whole
  exact ⟨(same plain).2, left, talked, done, ran, quiet, whole⟩

/-- A backspace tells a dialogue from given lines: in the one it takes away the digit before it, in
the other it is part of the condition. -/
theorem backspace_differs :
    let record : Json := .object [("age", .number (.integer 20 (by decide)))]
    let store : Store := ⟨"records.json", [record], .default, .shared⟩
    let text := "COUNT age > 188\x08\n"
    let given := run (runCommands .pretty (visibleLines text) store) (World.start Disk.empty)
    let talked := run (Dialogue.run (InputLine.all text.toUTF8) store) (World.start Disk.empty)
    failsBeforeExit (World.start Disk.empty) .pretty (visibleLines text) store = false ∧
      talked.1.output.out ≠ (Dialogue.banner store).out ++ given.1.output.out ++
        if (visibleLines text).any exits then "" else "Bye!\n" := by
  decide +kernel

end

end RecordStore.Console

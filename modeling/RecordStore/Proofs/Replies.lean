import Mathlib.Data.List.ReduceOption
import RecordStore.Proofs.ConditionText
import RecordStore.Proofs.Modes
import RecordStore.Proofs.ObjectRecords

/-! What is printed for programs. Escapes keep whatever a string holds on its line, so each answer is
one line that holds one object, and a run that goes well prints one for each of its lines, in their
order. The exception is help on a topic that there is none on: the run goes on, but its answer goes
to the error output. -/
namespace RecordStore

namespace Text

/-- A line and its line feed are the first line of a text. -/
theorem lines_append {line : List Char} (none : '\n' ∉ line) (rest : List Char) :
    lines (line ++ '\n' :: rest) = line :: lines rest := by
  induction line with
  | nil => exact lines_feed rest
  | cons c line ih =>
    obtain ⟨other, none⟩ := not_or.1 (mt List.mem_cons.2 none)
    rw [List.cons_append, lines_cons (Ne.symm other), ih none]

theorem lines_flatMap {texts : List (List Char)} (none : ∀ text ∈ texts, '\n' ∉ text) :
    lines (texts.flatMap (· ++ ['\n'])) = texts := by
  induction texts with
  | nil => rfl
  | cons text texts ih =>
    obtain ⟨here, later⟩ := List.forall_mem_cons.1 none
    rw [List.flatMap_cons, List.append_assoc, List.singleton_append, lines_append here, ih later]

end Text

namespace Json

/-- Whether a text has no control characters, so that it stays on one line. -/
def Inline (text : List Char) : Prop := ∀ c ∈ text, 0x20 ≤ c.toNat

instance (text : List Char) : Decidable (Inline text) := List.decidableBAll _ text

theorem inline_nil : Inline [] := List.forall_mem_nil _

theorem Inline.append {a b : List Char} (first : Inline a) (second : Inline b) :
    Inline (a ++ b) :=
  List.forall_mem_append.2 ⟨first, second⟩

theorem Inline.cons {c : Char} {text : List Char} (first : 0x20 ≤ c.toNat) (rest : Inline text) :
    Inline (c :: text) :=
  List.forall_mem_cons.2 ⟨first, rest⟩

theorem Inline.not_mem {text : List Char} (inside : Inline text) : '\n' ∉ text :=
  fun feed => absurd (inside '\n' feed) (by decide)

theorem inline_hexDigits : ∀ n < 0x20, Inline [hexDigit (n / 16), hexDigit (n % 16)] := by
  decide

theorem inline_escaped (c : Char) : Inline (escaped c) := by
  unfold escaped
  iterate 7
    split
    · decide
  split
  · next control =>
    exact .append (a := ['\\', 'u', '0', '0']) (by decide) (inline_hexDigits c.toNat control)
  · next printable => exact .cons (Nat.le_of_not_lt printable) inline_nil

theorem inline_quoted (text : String) : Inline (quoted text) := by
  refine .append (.cons (by decide) ?_) (by decide)
  intro c member
  obtain ⟨original, -, member⟩ := List.mem_flatMap.1 member
  exact inline_escaped original c member

theorem inline_number (x : Number) : Inline x.text := by
  intro c member
  rcases Numeral.mem_of_written x.written_text c member with ⟨d, digit⟩ | sign
  · unfold digit? at digit
    split at digit
    · next range => exact Nat.le_trans (by decide) range.1
    · cases digit
  · have plain : Inline ['-', '.', 'e', '+'] := by decide
    exact plain c sign

theorem inline_writeItems {items : List Json} {level : Nat}
    (each : ∀ item ∈ items, ∀ level, Inline (item.write .compact level)) :
    Inline (writeItems .compact level items) := by
  induction items with
  | nil => exact inline_nil
  | cons item rest ih =>
    obtain ⟨here, later⟩ := List.forall_mem_cons.1 each
    exact .append (.cons (by decide) (here level)) (ih later)

theorem inline_writeMembers {members : Members} {level : Nat}
    (each : ∀ member ∈ members, ∀ level, Inline (member.2.write .compact level)) :
    Inline (writeMembers .compact level members) := by
  induction members with
  | nil => exact inline_nil
  | cons member rest ih =>
    obtain ⟨key, value⟩ := member
    obtain ⟨here, later⟩ := List.forall_mem_cons.1 each
    have named : Inline (quoted key ++ [':']) := (inline_quoted key).append (by decide)
    exact .append (.append (.cons (by decide) named) (here level)) (ih later)

/-- What is written on one line stays there, whatever is in the keys and strings. -/
theorem inline_write (value : Json) (level : Nat) : Inline (value.write .compact level) := by
  induction value using Json.induction generalizing level with
  | null =>
    change Inline ['n', 'u', 'l', 'l']
    decide
  | bool b =>
    cases b
    · change Inline ['f', 'a', 'l', 's', 'e']
      decide
    · change Inline ['t', 'r', 'u', 'e']
      decide
  | number x => exact inline_number x
  | string s => exact inline_quoted s
  | array items ih =>
    cases items with
    | nil =>
      change Inline ['[', ']']
      decide
    | cons item rest =>
      obtain ⟨here, later⟩ := List.forall_mem_cons.1 ih
      have whole : Inline (item.write .compact (level + 1) ++
          writeItems .compact (level + 1) rest) :=
        (here _).append (inline_writeItems later)
      exact .append (.append (.cons (by decide) whole) inline_nil) (by decide)
  | object members ih =>
    cases members with
    | nil =>
      change Inline ['{', '}']
      decide
    | cons member rest =>
      obtain ⟨key, value⟩ := member
      obtain ⟨here, later⟩ := List.forall_mem_cons.1 ih
      have named : Inline (quoted key ++ [':']) := (inline_quoted key).append (by decide)
      have whole : Inline (quoted key ++ [':'] ++ value.write .compact (level + 1) ++
          writeMembers .compact (level + 1) rest) :=
        (named.append (here _)).append (inline_writeMembers later)
      exact .append (.append (.cons (by decide) whole) inline_nil) (by decide)

/-- Whether a line is the text of one object, which readers take for that object. -/
structure LineOf (members : Members) (line : String) : Prop where
  text : line = (object members).compactText
  inline : Inline line.toList
  echo : (ofText line).toOption = (object members).echo? (some 127) 0
  object : ∀ value, ofText line = .ok value → value.isObject = true

theorem lineOf_compactText (members : Members) : LineOf members (object members).compactText := by
  have back := toOption_ofText_write .compact 0 (object members)
  refine ⟨rfl, ?_, back, ?_⟩
  · rw [compactText, String.toList_ofList]
    exact inline_write (object members) 0
  · intro value read
    rw [← compactText, read] at back
    exact isObject_of_echo? back.symm

end Json

namespace Console

open World

/-- Whether there is help on a topic; without one, there is the list of commands. -/
def knows : Option String → Bool
  | none => true
  | some topic => (HelpEntry.find? topic).isSome

/-- Whether a line that goes well is answered on the standard output. -/
def answers (line : String) : Bool :=
  match Command.parse line with
  | .ok (.help topic) => knows topic
  | _ => true

/-- Whether an output is the given object, on a line of its own; if none is given, the output tells
that there is no help on a topic, and where errors go. -/
def Prints (output : Output) : Option Members → Prop
  | some members => output = Rendering.objectLine members
  | none => ∃ topic, HelpEntry.find? topic = none ∧ output = .errorLine
      (Json.object [("error", .string ("Unknown help topic '" ++ topic ++ "'"))]).compactText

theorem prints_help (topic : Option String) :
    ∃ reply, reply.isSome = knows topic ∧ Prints (Rendering.jsonHelp topic) reply := by
  cases topic with
  | none => exact ⟨some _, rfl, rfl⟩
  | some topic =>
    simp only [knows, Rendering.jsonHelp]
    cases found : HelpEntry.find? topic with
    | some entry => exact ⟨some _, rfl, rfl⟩
    | none => exact ⟨none, rfl, topic, found, rfl⟩

section
variable {F : Type} [FileSystem F] {world : World F} {store : Store} {line : String}

/-- Only asking for help gives help. -/
theorem Command.outcome_eq_help {command : Command} {topic : Option String} :
    (run (command.execute store) world).1.1 = .ok (.help topic) ↔ command = .help topic := by
  cases command with
  | help => simp [execute]
  | all | exit => simp [execute]
  | find | first | count | reload => simp [execute, run_bind]
  | insert | update | delete | clear =>
    simp only [execute, run_bind, run_pure, reduceCtorEq, iff_false]
    intro helps
    obtain ⟨result, -, same⟩ := map_eq_ok helps
    cases same

theorem answers_of_executed {command : Command} {outcome : Outcome}
    (parsed : Command.parse line = .ok command)
    (executed : (run (command.execute store) world).1.1 = .ok outcome)
    (other : ∀ topic, outcome ≠ .help topic) : answers line = true := by
  simp only [answers, parsed]
  split
  · next topic same =>
    rw [Command.outcome_eq_help.2 (Except.ok.inj same)] at executed
    exact absurd (Except.ok.inj executed).symm (other topic)
  · rfl

/-- A line that goes on prints one object, unless it asks for help that there is not. -/
theorem prints_runLine (goes : (run (runLine .json store line) world).1.ending = .goOn) :
    ∃ reply, reply.isSome = answers line ∧
      Prints (run (runLine .json store line) world).1.output reply := by
  cases parsed : Command.parse line with
  | error error =>
    rw [runLine_of_error .json store parsed] at goes
    cases goes
  | ok command =>
    rw [(runLine_of_ok world .json store parsed).1] at goes ⊢
    cases executed : (run (command.execute store) world).1.1 with
    | error error =>
      rw [executed] at goes
      cases goes
    | ok outcome =>
      cases outcome with
      | exit =>
        rw [executed] at goes
        cases goes
      | help topic =>
        simp only [answers, parsed, Command.outcome_eq_help.1 executed]
        exact prints_help topic
      | item record =>
        rw [answers_of_executed parsed executed nofun]
        cases record <;> exact ⟨some _, rfl, rfl⟩
      | inserted | updated | deleted | reloaded | cleared | items | count =>
        rw [answers_of_executed parsed executed nofun]
        exact ⟨some _, rfl, rfl⟩

/-- A line that exits prints nothing. -/
theorem output_of_exit {format : Format}
    (ended : (run (runLine format store line) world).1.ending = .exit) :
    (run (runLine format store line) world).1.output = .empty := by
  cases parsed : Command.parse line with
  | error error =>
    rw [runLine_of_error format store parsed] at ended
    cases ended
  | ok command =>
    rw [(runLine_of_ok world format store parsed).1] at ended ⊢
    rw [(ending_settle_eq_exit format _).1 ended]
    rfl

theorem replies_of_runCommands (faithful : world.Faithful) {lines : List String}
    (fine : (run (runCommands .json lines store) world).1.code = 0) :
    let results := (run (runEach .json (beforeExit lines) store) world).1.1
    (run (runCommands .json lines store) world).1.output = printed results ∧
      ∃ replies, replies.map Option.isSome = (beforeExit lines).map answers ∧
        List.Forall₂ Prints (results.map (·.output)) replies := by
  induction lines generalizing store world with
  | nil => exact ⟨rfl, [], rfl, .nil⟩
  | cons line lines ih =>
    have law := lineRun_of_faithful faithful .json store line
    cases exiting : exits line with
    | true =>
      have ended := law.exits.2 (exits_iff.1 exiting)
      rw [beforeExit_of_exits exiting, (runCommands_of_stop lines ended (by rintro ⟨⟩)).1,
        output_of_exit ended]
      exact ⟨rfl, [], rfl, .nil⟩
    | false =>
      cases ended : (run (runLine .json store line) world).1.ending with
      | exit =>
        rw [exits_iff.2 (law.exits.1 ended)] at exiting
        cases exiting
      | failed =>
        rw [(runCommands_of_stop lines ended (by rintro ⟨⟩)).1] at fine
        cases fine
      | goOn =>
        rw [(runCommands_of_goOn lines ended).1] at fine ⊢
        obtain ⟨whole, replies, answered, prints⟩ := ih (faithful.run _) fine
        obtain ⟨reply, here, first⟩ := prints_runLine ended
        simp only [beforeExit_of_stays exiting, runEach, run_bind, run_pure]
        refine ⟨congrArg ((run (runLine .json store line) world).1.output ++ ·) whole,
          reply :: replies, ?_, .cons first prints⟩
        rw [List.map_cons, List.map_cons, here, answered]

/-- What goes to the standard output are the objects, each with a line feed after it. -/
theorem out_printed {results : List LineResult} {replies : List (Option Members)}
    (prints : List.Forall₂ Prints (results.map (·.output)) replies) :
    (printed results).out.toList =
      (replies.reduceOption.map fun members => (Json.object members).write .compact 0).flatMap
        (· ++ ['\n']) := by
  induction results generalizing replies with
  | nil =>
    cases prints
    rfl
  | cons result results ih =>
    obtain ⟨reply, others, first, later, rfl⟩ := List.forall₂_cons_left_iff.1 prints
    change (result.output ++ printed results).out.toList = _
    rw [Output.out_append, String.toList_append, ih later]
    cases reply with
    | none =>
      obtain ⟨topic, -, told⟩ : ∃ _, _ ∧ result.output = _ := first
      rw [told, List.reduceOption_cons_of_none]
      rfl
    | some members =>
      have shown : result.output = Rendering.objectLine members := first
      rw [shown, List.reduceOption_cons_of_some]
      simp [Rendering.objectLine, Output.line, Json.compactText]

/-- A run for programs that goes well answers its lines up to the first exit, each by one object on
one line and all in their order, except those that ask for help on a topic there is none on: for
these, what is wrong goes to the error output. So there is one answer for each line exactly if no
line asks for such help. -/
theorem replies_in_order {F : Type} [FileSystem F] {world : World F} (reachable : world.Reachable)
    {store : Store} {lines : List String}
    (fine : (run (runCommands .json lines store) world).1.code = 0) :
    let output := (run (runCommands .json lines store) world).1.output
    let results := (run (runEach .json (beforeExit lines) store) world).1.1
    output = printed results ∧
    (∃ replies, replies.map Option.isSome = (beforeExit lines).map answers ∧
      List.Forall₂ Prints (results.map (·.output)) replies ∧
      List.Forall₂ Json.LineOf replies.reduceOption (textLines output.out)) ∧
    ((textLines output.out).length = (beforeExit lines).length ↔
      ∀ line ∈ beforeExit lines, answers line = true) := by
  intro output results
  obtain ⟨whole, replies, answered, prints⟩ : output = printed results ∧ _ :=
    replies_of_runCommands reachable.faithful fine
  have shown : textLines output.out =
      replies.reduceOption.map fun members => (Json.object members).compactText := by
    rw [textLines, whole, out_printed prints, Text.lines_flatMap, List.map_map]
    · rfl
    · intro text present
      obtain ⟨members, -, rfl⟩ := List.mem_map.1 present
      exact (Json.inline_write (.object members) 0).not_mem
  refine ⟨whole, ⟨replies, answered, prints, ?_⟩, ?_⟩
  · rw [shown, List.forall₂_map_right_iff, List.forall₂_same]
    exact fun members _ => Json.lineOf_compactText members
  · have count : replies.length = (beforeExit lines).length := by
      rw [← List.length_map Option.isSome, answered, List.length_map]
    rw [shown, List.length_map, ← count, List.reduceOption_length_eq_iff]
    have all : (∀ reply ∈ replies, reply.isSome = true) ↔
        ∀ answer ∈ replies.map Option.isSome, answer = true := by
      rw [List.forall_mem_map]
    rw [all, answered, List.forall_mem_map]

theorem replies_in_order_mixed :
    let store : Store := ⟨"records.json", [], .default, .shared⟩
    let lines := ["INSERT \x7b\"a\\n\": \"\\u0001\"\x7d", "HELP nope", "ALL", "EXIT", "CLEAR"]
    let output := (run (runCommands .json lines store) (World.start Disk.empty)).1.output
    (textLines output.out).length = 2 ∧ (beforeExit lines).length = 3 ∧
      (∃ replies, List.Forall₂ Json.LineOf replies (textLines output.out)) ∧
      ¬∀ line ∈ beforeExit lines, answers line = true := by
  intro store lines output
  have fine : (run (runCommands .json lines store) (World.start Disk.empty)).1.code = 0 := by
    decide +kernel
  have fewer : (textLines output.out).length = 2 ∧ (beforeExit lines).length = 3 := by
    decide +kernel
  obtain ⟨-, ⟨replies, -, -, objects⟩, count⟩ := replies_in_order (.start Disk.empty) fine
  refine ⟨fewer.1, fewer.2, ⟨replies.reduceOption, objects⟩, ?_⟩
  rw [← count]
  change (textLines output.out).length ≠ _
  rw [fewer.1, fewer.2]
  decide

/-- Help that there is not is no failure, but nothing is printed for it. -/
theorem replies_lack_help :
    let store : Store := ⟨"records.json", [], .default, .shared⟩
    let lines := ["HELP nope"]
    let ran := (run (runCommands .json lines store) (World.start Disk.empty)).1
    ran.code = 0 ∧ (textLines ran.output.out).length ≠ (beforeExit lines).length := by
  decide +kernel

end

end Console
end RecordStore

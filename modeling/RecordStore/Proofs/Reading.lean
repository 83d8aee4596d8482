import Mathlib.Data.List.TakeWhile
import RecordStore.Json.Reader
import RecordStore.Json.Writer

/-! Reading with its faults left out: what a text yields from a state, if anything. Offsets only
place the faults, so they drop out as well, and reading is a function of the state and the text
that composes by equations. `goOn?` is the common continuation: every value, however it was read,
is handed to the innermost open container and the text after it is read from there. -/
namespace RecordStore.Json

/-- The value that a text yields from a state, with the text after it. -/
def State.read? (rules : Rules) (state : State) : List Char → Option (Json × List Char)
  | [] => (state.finish rules).toOption.map (·, [])
  | c :: rest =>
    match state.step rules c with
    | .more next => next.read? rules rest
    | .done value => some (value, rest)
    | .stop value => some (value, c :: rest)
    | .fault _ _ => none

/-- Reads on after a complete value. -/
def goOn? (rules : Rules) (value : Json) : List Frame → List Char → Option (Json × List Char)
  | [], rest => some (value, rest)
  | .list before :: stack, rest => (State.afterItem (value :: before) stack).read? rules rest
  | .object before key :: stack, rest =>
    (State.afterMember (before.insert key value) stack).read? rules rest

/-- Whether no number goes on into a text. -/
def EndsNumber (text : List Char) : Prop :=
  ∀ c ∈ text.head?, (digit? c).isNone ∧ c ∉ ['.', 'e', 'E', '+', '-']

namespace State

variable {rules : Rules} {stack : List Frame}

theorem toOption_run (state : State) (offset : Nat) (text : List Char) :
    (state.run rules offset text).toOption = state.read? rules text := by
  induction text generalizing state offset with
  | nil =>
    simp only [run, read?]
    cases state.finish rules <;> rfl
  | cons c rest ih =>
    simp only [run, read?]
    cases state.step rules c with
    | more next => exact ih next _
    | done | stop | fault => rfl

theorem read?_of_deliver {s : State} {c : Char} {v : Json} {k : List Frame}
    (step : s.step rules c = deliver v k) (rest : List Char) :
    s.read? rules (c :: rest) = goOn? rules v k rest := by
  simp only [read?, step]
  rcases k with _ | ⟨_ | _, _⟩ <;> rfl

theorem read?_of_more {s t : State} {c : Char} (step : s.step rules c = .more t)
    (rest : List Char) : s.read? rules (c :: rest) = t.read? rules rest := by
  simp only [read?, step]

/-- Whether a state passes over blanks: all do that are not inside a string, a number or a word. -/
def skips : State → Bool
  | inString _ _ | inKey _ _ _ | inNumber _ _ | inWord _ _ _ _ => false
  | _ => true

theorem step_space {state : State} (skips : state.skips = true) {c : Char}
    (space : isSpace c = true) : state.step rules c = .more state := by
  cases state with
  | inString | inKey | inNumber | inWord => cases skips
  | afterItem before stack => simp only [step, stepAfterItem, space, if_true]
  | afterMember before stack => simp only [step, stepAfterMember, space, if_true]
  | _ => simp only [step, space, if_true]

theorem read?_blanks {state : State} {blanks : List Char} (skips : state.skips = true)
    (blank : ∀ c ∈ blanks, isSpace c = true) (rest : List Char) :
    state.read? rules (blanks ++ rest) = state.read? rules rest := by
  induction blanks with
  | nil => rfl
  | cons c blanks ih =>
    have first : isSpace c = true := blank c (by simp)
    have others : ∀ d ∈ blanks, isSpace d = true := by
      intro d member
      exact blank d (by simp [member])
    rw [List.cons_append, read?_of_more (step_space skips first), ih others]

/-! What the punctuation of containers does. -/

theorem read?_closeList (before : List Json) (rest : List Char) :
    (afterItem before stack).read? rules (']' :: rest) =
      goOn? rules (.array before.reverse) stack rest :=
  read?_of_deliver (by simp [step, stepAfterItem, isSpace]) rest

theorem read?_closeObject (before : Members) (rest : List Char) :
    (afterMember before stack).read? rules ('}' :: rest) =
      goOn? rules (.object before) stack rest :=
  read?_of_deliver (by simp [step, stepAfterMember, isSpace]) rest

theorem read?_emptyList (rest : List Char) :
    (firstItem stack).read? rules (']' :: rest) = goOn? rules (.array []) stack rest :=
  read?_of_deliver (by simp [step, isSpace]) rest

theorem read?_emptyObject (rest : List Char) :
    (firstKey stack).read? rules ('}' :: rest) = goOn? rules (.object []) stack rest :=
  read?_of_deliver (by simp [step, isSpace]) rest

theorem read?_itemComma (before : List Json) (rest : List Char) :
    (afterItem before stack).read? rules (',' :: rest) =
      (nextItem before stack).read? rules rest :=
  read?_of_more (by simp [step, stepAfterItem, isSpace]) rest

theorem read?_memberComma (before : Members) (rest : List Char) :
    (afterMember before stack).read? rules (',' :: rest) =
      (nextKey before stack).read? rules rest :=
  read?_of_more (by simp [step, stepAfterMember, isSpace]) rest

theorem read?_firstKey (rest : List Char) :
    (firstKey stack).read? rules ('"' :: rest) = (inKey [] .start stack).read? rules rest :=
  read?_of_more (by simp [step, isSpace]) rest

theorem read?_nextKey (before : Members) (rest : List Char) :
    (nextKey before stack).read? rules ('"' :: rest) =
      (inKey before .start stack).read? rules rest :=
  read?_of_more (by simp [step, isSpace]) rest

theorem read?_colon (before : Members) (key : String) (rest : List Char) :
    (afterKey before key stack).read? rules (':' :: rest) =
      (beforeValue (.object before key :: stack)).read? rules rest :=
  read?_of_more (by simp [step, isSpace]) rest

theorem read?_openList (rest : List Char) :
    (beforeValue stack).read? rules ('[' :: rest) =
      if rules.depth.any (· ≤ stack.length) then none else (firstItem stack).read? rules rest := by
  have begins : (beforeValue stack).step rules '[' =
      openContainer rules stack (firstItem stack) := rfl
  by_cases deep : rules.depth.any (· ≤ stack.length) <;>
    simp [read?, begins, openContainer, deep]

theorem read?_openObject (rest : List Char) :
    (beforeValue stack).read? rules ('{' :: rest) =
      if rules.depth.any (· ≤ stack.length) then none else (firstKey stack).read? rules rest := by
  have begins : (beforeValue stack).step rules '{' =
      openContainer rules stack (firstKey stack) := rfl
  by_cases deep : rules.depth.any (· ≤ stack.length) <;>
    simp [read?, begins, openContainer, deep]

theorem read?_firstItem {c : Char} (solid : isSpace c = false) (other : c ≠ ']')
    (rest : List Char) : (firstItem stack).read? rules (c :: rest) =
      (beforeValue (.list [] :: stack)).read? rules (c :: rest) := by
  simp only [read?, step, solid, other]
  rfl

theorem read?_nextItem {c : Char} (solid : isSpace c = false) (other : c ≠ ']')
    (before : List Json) (rest : List Char) : (nextItem before stack).read? rules (c :: rest) =
      (beforeValue (.list before :: stack)).read? rules (c :: rest) := by
  simp only [read?, step, solid, other]
  rfl

end State

theorem toOption_readValue (rules : Rules) (text : List Char) :
    (readValue rules text).toOption = (State.beforeValue []).read? rules text :=
  State.toOption_run _ _ _

theorem toOption_read (text : List Char) :
    (read text).toOption = ((State.beforeValue []).read? .document text).bind fun (value, rest) =>
      if rest.all isSpace then some value else none := by
  rw [← toOption_readValue]
  simp only [read, bind, Except.bind]
  cases readValue .document text with
  | error => rfl
  | ok result =>
    obtain ⟨value, rest⟩ := result
    have blank : rest.dropWhile isSpace = [] ↔ rest.all isSpace = true := by
      simp [List.dropWhile_eq_nil_iff]
    simp only [Except.mapError, Except.toOption, Option.bind_some]
    cases after : rest.dropWhile isSpace with
    | nil => simp [blank.1 after, pure, Except.pure]
    | cons c more =>
      have solid : rest.all isSpace ≠ true := by
        intro all
        simp [blank.2 all] at after
      simp [solid, throw, throwThe, MonadExceptOf.throw]

theorem readValue_of_readStart {text rest : List Char} {value : Json}
    (read : readStart text = .ok (value, rest)) :
    readValue .document text = .ok (value, rest) := by
  simp only [readStart, bind, Except.bind] at read
  cases begins : readValue .document text with
  | error =>
    rw [begins] at read
    cases read
  | ok result =>
    obtain ⟨found, following⟩ := result
    rw [begins] at read
    cases following with
    | nil =>
      cases read
      rfl
    | cons c following =>
      simp only [Except.mapError] at read
      split at read <;> cases read
      rfl

/-! The blanks that layouts write. -/

theorem isSpace_of_mem_lineBreak {layout : Layout} {level : Nat} {c : Char}
    (member : c ∈ layout.lineBreak level) : isSpace c = true := by
  cases layout with
  | compact => cases member
  | indented =>
    simp only [Layout.lineBreak, List.mem_cons, List.mem_replicate] at member
    rcases member with rfl | ⟨-, rfl⟩ <;> decide

theorem endsNumber_nil : EndsNumber [] := by
  intro c member
  cases member

theorem endsNumber_cons {c : Char} {rest : List Char}
    (other : (digit? c).isNone ∧ c ∉ ['.', 'e', 'E', '+', '-']) : EndsNumber (c :: rest) := by
  intro d member
  cases member
  exact other

theorem EndsNumber.lineBreak {rest : List Char} (ends : EndsNumber rest) (layout : Layout)
    (level : Nat) : EndsNumber (layout.lineBreak level ++ rest) := by
  cases layout with
  | compact => exact ends
  | indented => exact endsNumber_cons (by decide)

end RecordStore.Json

import RecordStore.Proofs.Parsing
import RecordStore.Proofs.Reading

/-! A container at the start of a text. It is complete with its last bracket, whatever follows; so
a text that is a list or an object, read as a whole, is read just so where more text comes after it,
and what comes after it is left. -/
namespace RecordStore

namespace Json

def isContainer : Json → Bool
  | array _ | object _ => true
  | _ => false

variable {rules : Rules} {value : Json} {text rest : List Char}

theorem isContainer_of_isObject (object : value.isObject = true) : value.isContainer = true := by
  cases value with
  | object => rfl
  | null | bool | number | string | array => cases object

/-! What ends without a bracket is a number, if anything. -/

theorem not_isContainer_of_numberValue {numeral : Numeral}
    (ended : numberValue rules numeral = .ok value) : value.isContainer = false := by
  unfold numberValue at ended
  split at ended
  · cases ended
    rfl
  · split at ended
    · cases ended
    · cases ended
      rfl
  · cases ended

theorem deliver_ne_stop {delivered : Json} (stack : List Frame) :
    deliver delivered stack ≠ .stop value := by
  intro stopped
  unfold deliver at stopped
  split at stopped <;> cases stopped

theorem openContainer_ne_stop (stack : List Frame) (inside : State) :
    openContainer rules stack inside ≠ .stop value := by
  intro stopped
  unfold openContainer at stopped
  split at stopped <;> cases stopped

theorem beginValue_ne_stop (stack : List Frame) (c : Char) :
    beginValue rules stack c ≠ .stop value := by
  intro stopped
  unfold beginValue at stopped
  split at stopped
  · cases stopped
  split at stopped
  · exact openContainer_ne_stop _ _ stopped
  split at stopped
  · exact openContainer_ne_stop _ _ stopped
  split at stopped
  · cases stopped
  split at stopped
  · cases stopped
  split at stopped
  · cases stopped
  · split at stopped <;> cases stopped

theorem stepAfterItem_ne_stop (before : List Json) (stack : List Frame) (c : Char) :
    stepAfterItem before stack c ≠ .stop value := by
  intro stopped
  unfold stepAfterItem at stopped
  split at stopped
  · cases stopped
  split at stopped
  · cases stopped
  split at stopped
  · exact deliver_ne_stop _ stopped
  · cases stopped

theorem stepAfterMember_ne_stop (before : Members) (stack : List Frame) (c : Char) :
    stepAfterMember before stack c ≠ .stop value := by
  intro stopped
  unfold stepAfterMember at stopped
  split at stopped
  · cases stopped
  split at stopped
  · cases stopped
  split at stopped
  · exact deliver_ne_stop _ stopped
  · cases stopped

theorem State.not_isContainer_of_stop {state : State} {c : Char}
    (stopped : state.step rules c = .stop value) : value.isContainer = false := by
  cases state with
  | inNumber numeral stack =>
    simp only [step] at stopped
    split at stopped
    · cases stopped
    · cases stopped
    · split at stopped
      · next ended =>
        cases stack with
        | nil =>
          cases stopped
          exact not_isContainer_of_numberValue ended
        | cons frame stack =>
          cases frame with
          | list => exact absurd stopped (stepAfterItem_ne_stop _ _ _)
          | object => exact absurd stopped (stepAfterMember_ne_stop _ _ _)
      · cases stopped
  | afterItem => exact absurd stopped (stepAfterItem_ne_stop _ _ _)
  | afterMember => exact absurd stopped (stepAfterMember_ne_stop _ _ _)
  | beforeValue | firstItem | nextItem | firstKey | nextKey | inKey | afterKey | inString
  | inWord =>
    simp only [step] at stopped
    repeat' split at stopped
    all_goals first
      | cases stopped
      | exact absurd stopped (deliver_ne_stop _)
      | exact absurd stopped (beginValue_ne_stop _ _)

theorem State.not_isContainer_of_finish {state : State}
    (ended : state.finish rules = .ok value) : value.isContainer = false := by
  cases state with
  | inNumber numeral stack =>
    simp only [finish, bind, Except.bind] at ended
    cases numbered : numberValue rules numeral with
    | error =>
      rw [numbered] at ended
      cases ended
    | ok number =>
      rw [numbered] at ended
      simp only [] at ended
      split at ended
      · cases ended
        exact not_isContainer_of_numberValue numbered
      · cases ended
  | beforeValue | firstItem | nextItem | afterItem | firstKey | nextKey | inKey | afterKey
  | afterMember | inString | inWord => cases ended

/-- A container is read up to its last bracket, and is the same before any other text. -/
theorem State.exists_body {state : State} (read : state.read? rules text = some (value, rest))
    (container : value.isContainer = true) :
    ∃ body, text = body ++ rest ∧ body ≠ [] ∧
      ∀ more, state.read? rules (body ++ more) = some (value, more) := by
  induction text generalizing state with
  | nil =>
    cases ended : state.finish rules with
    | error =>
      rw [read?, ended] at read
      cases read
    | ok result =>
      rw [read?, ended] at read
      cases read
      rw [not_isContainer_of_finish ended] at container
      cases container
  | cons c text ih =>
    simp only [read?] at read
    cases step : state.step rules c with
    | more next =>
      rw [step] at read
      obtain ⟨body, rfl, -, again⟩ := ih read
      refine ⟨c :: body, rfl, by simp, ?_⟩
      intro more
      rw [List.cons_append, read?_of_more step, again]
    | done result =>
      rw [step] at read
      cases read
      refine ⟨[c], rfl, by simp, ?_⟩
      intro more
      simp [read?, step]
    | stop result =>
      rw [step] at read
      cases read
      rw [not_isContainer_of_stop step] at container
      cases container
    | fault =>
      rw [step] at read
      cases read

/-- Reading leaves the end of the text as it is. -/
theorem State.suffix_of_read? {state : State} (read : state.read? rules text = some (value, rest)) :
    rest <:+ text := by
  induction text generalizing state with
  | nil =>
    obtain ⟨result, -, same⟩ := Option.map_eq_some_iff.1 read
    cases same
    exact List.suffix_refl _
  | cons c text ih =>
    simp only [read?] at read
    cases step : state.step rules c with
    | more next =>
      rw [step] at read
      exact (ih read).trans (List.suffix_cons c text)
    | done result =>
      rw [step] at read
      cases read
      exact List.suffix_cons c rest
    | stop result =>
      rw [step] at read
      cases read
      exact List.suffix_refl _
    | fault =>
      rw [step] at read
      cases read

/-- What a value begins with is no blank, unless it is one that JSON knows. -/
theorem State.isBlank_of_read? {stack : List Frame} {c : Char} (solid : isSpace c = false)
    (read : (beforeValue stack).read? rules (c :: text) = some (value, rest)) :
    Text.isBlank c = false := by
  rw [Bool.eq_false_iff]
  intro blank
  have other (d : Char) (visible : Text.isBlank d = false) : c ≠ d := by
    rintro rfl
    rw [blank] at visible
    cases visible
  have notDigit : digit? c = none := by
    cases digit : digit? c with
    | none => rfl
    | some d =>
      rw [isBlank_of_digit digit] at blank
      cases blank
  have unbegun : (beforeValue stack).step rules c = .fault .expectedValue 1 := by
    simp only [step, solid, beginValue, Numeral.begin?, notDigit, other '"' (by decide),
      other '[' (by decide), other '{' (by decide), other 'n' (by decide), other 't' (by decide),
      other 'f' (by decide), other '-' (by decide)]
    rfl
  rw [read?, unbegun] at read
  cases read

end Json

namespace Console.Command

open Json

/-- Whether a text is a value for as long as a delimiter or the end follows it. -/
structure Leads (body : List Char) (value : Json) : Prop where
  visible : body ≠ []
  head : ∀ c ∈ body.head?, Text.isBlank c = false
  read : ∀ more : List Char, (∀ c ∈ more.head?, isDelimiter c = true) →
    leadingJson (body ++ more) = .ok (value, more)

theorem suffix_of_leadingJson {text rest : List Char} {value : Json}
    (read : leadingJson text = .ok (value, rest)) : rest <:+ text := by
  have found := toOption_readValue .document text
  rw [readValue_of_readStart (readStart_of_leadingJson read)] at found
  exact State.suffix_of_read? found.symm

theorem leads_of_read? {body : List Char} {value : Json} (visible : body ≠ [])
    (solid : ∀ c ∈ body.head?, isSpace c = false)
    (read : ∀ more, (State.beforeValue []).read? .document (body ++ more) = some (value, more)) :
    Leads body value := by
  obtain ⟨c, rest, rfl⟩ := List.exists_cons_of_ne_nil visible
  have first : isSpace c = false := solid c rfl
  refine ⟨visible, ?_, ?_⟩
  · rintro _ ⟨⟩
    exact State.isBlank_of_read? first (read [])
  · intro more delimited
    have valued : readValue .document (c :: rest ++ more) = .ok (value, more) := by
      have found := toOption_readValue .document (c :: rest ++ more)
      rw [read] at found
      cases result : readValue .document (c :: rest ++ more) with
      | error =>
        rw [result] at found
        cases found
      | ok pair =>
        rw [result] at found
        cases found
        rfl
    have unspaced : (c :: rest ++ more).all isSpace = false := by simp [first]
    simp only [leadingJson, unspaced, readStart, valued, Except.mapError, bind, Except.bind]
    cases more with
    | nil => rfl
    | cons d more => simp [delimited d rfl, pure, Except.pure]

/-- A text that is read as a container is one with JSON blanks around it. -/
theorem exists_leads {p : String} {value : Json} (read : ofText p = .ok value)
    (container : value.isContainer = true) :
    ∃ lead body tail, p.toList = lead ++ (body ++ tail) ∧ (∀ c ∈ lead, isSpace c = true) ∧
      (∀ c ∈ tail, isSpace c = true) ∧ Leads body value := by
  have whole := toOption_read p.toList
  rw [show Json.read p.toList = .ok value from read] at whole
  obtain ⟨⟨result, tail⟩, started, same⟩ := Option.bind_eq_some_iff.1 whole.symm
  obtain ⟨blank, rfl⟩ : tail.all isSpace = true ∧ result = value := by simpa using same
  rw [← List.takeWhile_append_dropWhile (p := isSpace) (l := p.toList),
    State.read?_blanks rfl (fun c member => List.mem_takeWhile_imp member)] at started
  obtain ⟨body, split, visible, again⟩ := State.exists_body started container
  have solid : ∀ c ∈ body.head?, isSpace c = false := by
    intro c first
    have unspaced := List.head?_dropWhile_not isSpace p.toList
    rw [split, List.head?_append_of_ne_nil _ visible, Option.mem_def.1 first] at unspaced
    exact unspaced
  refine ⟨p.toList.takeWhile isSpace, body, tail, ?_, ?_, ?_, leads_of_read? visible solid again⟩
  · rw [← split, List.takeWhile_append_dropWhile]
  · exact fun c member => List.mem_takeWhile_imp member
  · exact List.all_eq_true.1 blank

end Console.Command
end RecordStore

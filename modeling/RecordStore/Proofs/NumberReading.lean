import RecordStore.Proofs.Numerals

/-! Texts that are read as a number. They are one numeral with blanks around it: whatever else a
text begins with, a string, a container or a word, it never comes to a number. The same numeral is
read to the same number wherever a value may stand. -/
namespace RecordStore.Json

def isNumber : Json → Bool
  | number _ => true
  | _ => false

/-- Whether what is read on from a state is no number. -/
def State.Numberless : State → Prop
  | beforeValue stack | inNumber _ stack => stack ≠ []
  | inWord _ _ value _ => value.isNumber = false
  | _ => True

/-- Whether what a step comes to is no number. -/
def Step.Numberless : Step → Prop
  | .more state => state.Numberless
  | .done value | .stop value => value.isNumber = false
  | .fault _ _ => True

variable {rules : Rules} {stack : List Frame} {value : Json} {c : Char} {text rest : List Char}

theorem numberless_deliver (other : value.isNumber = false) (stack : List Frame) :
    (deliver value stack).Numberless := by
  rcases stack with _ | ⟨_ | _, _⟩
  · exact other
  · trivial
  · trivial

theorem numberless_openContainer {inside : State} (numberless : inside.Numberless) :
    (openContainer rules stack inside).Numberless := by
  unfold openContainer
  split
  · trivial
  · exact numberless

/-- A value that no numeral begins, or that stands inside a container, leads to no number. -/
theorem numberless_beginValue (inside : stack ≠ [] ∨ Numeral.begin? c = none) :
    (beginValue rules stack c).Numberless := by
  unfold beginValue
  split
  · trivial
  split
  · exact numberless_openContainer trivial
  split
  · exact numberless_openContainer trivial
  split
  · rfl
  split
  · rfl
  split
  · rfl
  · rcases inside with inside | none
    · split
      · exact inside
      · trivial
    · rw [none]
      trivial

theorem numberless_stepAfterItem (before : List Json) (stack : List Frame) (c : Char) :
    (stepAfterItem before stack c).Numberless := by
  unfold stepAfterItem
  split
  · trivial
  split
  · trivial
  split
  · exact numberless_deliver rfl stack
  · trivial

theorem numberless_stepAfterMember (before : Members) (stack : List Frame) (c : Char) :
    (stepAfterMember before stack c).Numberless := by
  unfold stepAfterMember
  split
  · trivial
  split
  · trivial
  split
  · exact numberless_deliver rfl stack
  · trivial

theorem State.numberless_step {state : State} (numberless : state.Numberless) (c : Char) :
    (state.step rules c).Numberless := by
  cases state with
  | beforeValue stack =>
    simp only [step]
    split
    · exact numberless
    · exact numberless_beginValue (.inl numberless)
  | firstItem stack =>
    simp only [step]
    split
    · trivial
    split
    · exact numberless_deliver rfl stack
    · exact numberless_beginValue (.inl (List.cons_ne_nil _ _))
  | nextItem before stack =>
    simp only [step]
    split
    · trivial
    split
    · trivial
    · exact numberless_beginValue (.inl (List.cons_ne_nil _ _))
  | afterItem before stack => exact numberless_stepAfterItem before stack c
  | afterMember before stack => exact numberless_stepAfterMember before stack c
  | firstKey stack =>
    simp only [step]
    split
    · trivial
    split
    · trivial
    split
    · exact numberless_deliver rfl stack
    · trivial
  | nextKey before stack =>
    simp only [step]
    split
    · trivial
    split
    · trivial
    split <;> trivial
  | inKey before key stack =>
    simp only [step]
    cases key.step rules.checked c <;> trivial
  | afterKey before key stack =>
    simp only [step]
    split
    · trivial
    split
    · exact List.cons_ne_nil _ _
    · trivial
  | inString quoted stack =>
    simp only [step]
    cases quoted.step rules.checked c with
    | more | fault => trivial
    | done text => exact numberless_deliver rfl stack
  | inNumber numeral stack =>
    simp only [step]
    cases numeral.step rules.checked c with
    | more => exact numberless
    | fault => trivial
    | stop =>
      cases numberValue rules numeral with
      | error => trivial
      | ok value =>
        rcases stack with _ | ⟨_ | _, stack⟩
        · exact absurd rfl numberless
        · exact numberless_stepAfterItem _ stack c
        · exact numberless_stepAfterMember _ stack c
  | inWord next rest value stack =>
    simp only [step]
    split
    · trivial
    · cases rest with
      | nil => exact numberless_deliver numberless stack
      | cons => exact numberless

theorem State.isNumber_of_read? {state : State} (numberless : state.Numberless)
    (read : state.read? rules text = some (value, rest)) : value.isNumber = false := by
  induction text generalizing state with
  | nil =>
    obtain ⟨result, ended, same⟩ := Option.map_eq_some_iff.1 read
    cases state with
    | inNumber numeral stack =>
      obtain ⟨frame, others, rfl⟩ := List.exists_cons_of_ne_nil numberless
      simp only [finish, bind, Except.bind] at ended
      cases valued : numberValue rules numeral with
      | error =>
        rw [valued] at ended
        cases ended
      | ok =>
        rw [valued] at ended
        cases ended
    | _ => cases ended
  | cons c text ih =>
    have next : (state.step rules c).Numberless := numberless_step numberless c
    simp only [read?] at read
    cases step : state.step rules c with
    | more following =>
      rw [step] at read next
      exact ih next read
    | done result | stop result =>
      rw [step] at read next
      cases read
      exact next
    | fault =>
      rw [step] at read
      cases read

namespace Numeral

theorem persists_of_scan? {checked : Bool} {n m : Numeral}
    (scanned : n.scan? checked text = some m) : n.Persists checked text := by
  induction text generalizing n with
  | nil => trivial
  | cons c text ih =>
    simp only [scan?, Persists] at scanned ⊢
    cases step : n.step checked c with
    | more next =>
      rw [step] at scanned
      exact ih scanned
    | stop | fault =>
      rw [step] at scanned
      cases scanned

end Numeral

variable {limit : Option Nat} {x : Number}

theorem finish_of_numberValue {n : Numeral} (valued : numberValue rules n = .ok (.number x)) :
    n.finish = .ok x := by
  unfold numberValue at valued
  split at valued
  · next finished =>
    cases valued
    exact finished
  · split at valued <;> cases valued
  · cases valued

namespace State

/-- A number that is handed over at once ends where no numeral goes on. -/
theorem exists_scan?_of_read? {n : Numeral}
    (read : (inNumber n []).read? ⟨limit, true⟩ text = some (.number x, rest)) :
    ∃ body m, text = body ++ rest ∧ n.scan? true body = some m ∧ m.finish = .ok x := by
  induction text generalizing n with
  | nil =>
    obtain ⟨result, ended, same⟩ := Option.map_eq_some_iff.1 read
    simp only [finish, bind, Except.bind] at ended
    cases valued : numberValue ⟨limit, true⟩ n with
    | error =>
      rw [valued] at ended
      cases ended
    | ok value =>
      rw [valued] at ended
      cases ended
      cases same
      exact ⟨[], n, rfl, rfl, finish_of_numberValue valued⟩
  | cons c text ih =>
    simp only [read?, step] at read
    cases taken : n.step true c with
    | more next =>
      simp only [taken] at read
      obtain ⟨body, m, rfl, scanned, finished⟩ := ih read
      refine ⟨c :: body, m, rfl, ?_, finished⟩
      simp only [Numeral.scan?, taken, scanned]
    | stop =>
      simp only [taken] at read
      cases valued : numberValue ⟨limit, true⟩ n with
      | error =>
        rw [valued] at read
        cases read
      | ok value =>
        rw [valued] at read
        cases read
        exact ⟨[], n, rfl, rfl, finish_of_numberValue valued⟩
    | fault =>
      simp only [taken] at read
      cases read

/-- A text that a number is read from begins with its numeral, blanks apart. -/
theorem exists_numeral_of_read?
    (read : (beforeValue []).read? ⟨limit, true⟩ text = some (.number x, rest)) :
    ∃ lead core n, text = lead ++ (core ++ rest) ∧ (∀ c ∈ lead, isSpace c = true) ∧
      Numeral.ofText? core = some n ∧ n.finish = .ok x := by
  induction text with
  | nil => cases read
  | cons c text ih =>
    by_cases space : isSpace c = true
    · rw [read?_of_more (step_space rfl space)] at read
      obtain ⟨lead, core, n, rfl, blank, numeral⟩ := ih read
      exact ⟨c :: lead, core, n, rfl, List.forall_mem_cons.2 ⟨space, blank⟩, numeral⟩
    · cases begins : Numeral.begin? c with
      | some n =>
        rw [read?_of_more (step_begin begins)] at read
        obtain ⟨body, m, rfl, scanned, finished⟩ := exists_scan?_of_read? read
        refine ⟨[], c :: body, m, rfl, List.forall_mem_nil _, ?_, finished⟩
        simp only [Numeral.ofText?, begins, Option.bind_some, scanned]
      | none =>
        -- What else begins here is no number, so neither is what is read.
        have numberless : ((beforeValue []).step ⟨limit, true⟩ c).Numberless := by
          simp only [step, space]
          exact numberless_beginValue (.inr begins)
        simp only [read?] at read
        cases step : (beforeValue []).step ⟨limit, true⟩ c with
        | more next =>
          rw [step] at read numberless
          cases isNumber_of_read? numberless read
        | done value | stop value =>
          rw [step] at read numberless
          cases read
          cases numberless
        | fault =>
          rw [step] at read
          cases read

theorem read?_numeral {core : List Char} {n : Numeral} (numeral : Numeral.ofText? core = some n)
    (finished : n.finish = .ok x) (ends : EndsNumber rest) :
    (beforeValue stack).read? ⟨limit, true⟩ (core ++ rest) =
      goOn? ⟨limit, true⟩ (.number x) stack rest := by
  cases core with
  | nil => cases numeral
  | cons c core =>
    obtain ⟨first, begins, scanned⟩ := Option.bind_eq_some_iff.1 numeral
    rw [List.cons_append, read?_of_more (step_begin begins),
      read?_inNumber (Numeral.persists_of_scan? scanned) ends, scanned, Option.bind_some, finished]
    rfl

end State

/-- A text that is read as a number is a numeral with JSON blanks around it. -/
theorem exists_numeral_of_ofText {t : String} (accepted : ofText t = .ok (.number x)) :
    ∃ lead core tail n, t.toList = lead ++ (core ++ tail) ∧ (∀ c ∈ lead, isSpace c = true) ∧
      (∀ c ∈ tail, isSpace c = true) ∧ Numeral.ofText? core = some n ∧ n.finish = .ok x := by
  have whole := toOption_read t.toList
  rw [show read t.toList = .ok (.number x) from accepted] at whole
  obtain ⟨⟨result, tail⟩, started, same⟩ := Option.bind_eq_some_iff.1 whole.symm
  obtain ⟨blank, rfl⟩ : tail.all isSpace = true ∧ result = .number x := by simpa using same
  obtain ⟨lead, core, n, split, before, numeral, finished⟩ :=
    State.exists_numeral_of_read? started
  exact ⟨lead, core, tail, n, split, before, List.all_eq_true.1 blank, numeral, finished⟩

theorem exists_number_of_ofText {t : String}
    (number : (ofText t).toOption.any isNumber = true) :
    ∃ x, ofText t = .ok (.number x) := by
  obtain ⟨value, read, isNumber⟩ := (Option.any_eq_true _ _).1 number
  cases value with
  | number x =>
    cases result : ofText t with
    | error =>
      rw [result] at read
      cases read
    | ok other =>
      rw [result] at read
      cases read
      exact ⟨x, rfl⟩
  | null | bool | string | array | object => cases isNumber

theorem endsNumber_spaces {tail : List Char} (blank : ∀ c ∈ tail, isSpace c = true)
    (ends : EndsNumber rest) : EndsNumber (tail ++ rest) := by
  cases tail with
  | nil => exact ends
  | cons c tail =>
    have space : isSpace c = true := blank c List.mem_cons_self
    apply endsNumber_cons
    simp only [isSpace, Bool.or_eq_true, beq_iff_eq] at space
    rcases space with ((rfl | rfl) | rfl) | rfl <;> decide

/-- A text that is read as a number is read as the same number where it is the value of a member. -/
theorem ofText_member {t : String} (accepted : ofText t = .ok (.number x)) :
    ofText ("\x7b\"x\": " ++ t ++ "\x7d") = .ok (.object [("x", .number x)]) := by
  obtain ⟨lead, core, tail, n, split, before, behind, numeral, finished⟩ :=
    exists_numeral_of_ofText accepted
  have chars : ("\x7b\"x\": " ++ t ++ "\x7d").toList = '\x7b' :: '"' :: 'x' :: '"' :: ':' ::
      ((' ' :: lead) ++ (core ++ (tail ++ ['\x7d']))) := by
    simp [split]
  have spaces : ∀ c ∈ ' ' :: lead, isSpace c = true := List.forall_mem_cons.2 ⟨rfl, before⟩
  have ends : EndsNumber (tail ++ ['\x7d']) :=
    endsNumber_spaces behind (endsNumber_cons (by decide))
  have opened : (State.beforeValue []).read? .document ("\x7b\"x\": " ++ t ++ "\x7d").toList =
      (State.beforeValue [.object [] "x"]).read? .document
        ((' ' :: lead) ++ (core ++ (tail ++ ['\x7d']))) := by
    rw [chars]
    rfl
  have read : (State.beforeValue []).read? .document ("\x7b\"x\": " ++ t ++ "\x7d").toList =
      some (.object [("x", .number x)], []) := by
    have valued : (State.beforeValue [.object [] "x"]).read? .document
        (core ++ (tail ++ ['\x7d'])) =
          (State.afterMember [("x", .number x)] []).read? .document (tail ++ ['\x7d']) :=
      State.read?_numeral numeral finished ends
    rw [opened, State.read?_blanks rfl spaces, valued, State.read?_blanks rfl behind,
      State.read?_closeObject]
    rfl
  have whole := toOption_read ("\x7b\"x\": " ++ t ++ "\x7d").toList
  rw [read] at whole
  rw [ofText]
  cases result : Json.read ("\x7b\"x\": " ++ t ++ "\x7d").toList with
  | error =>
    rw [result] at whole
    cases whole
  | ok value =>
    rw [result] at whole
    cases whole
    rfl

end RecordStore.Json

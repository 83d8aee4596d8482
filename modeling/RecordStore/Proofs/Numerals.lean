import RecordStore.Proofs.Reading

/-! The text of a number is read as one number. Every text that is written for a number has a sign,
digits, a fraction and an exponent in this order, so the reader never takes a part of it for the
whole. An integer comes back as itself. A double comes back as what the reader makes of its digits,
which need not be the same double. -/
namespace RecordStore.Json
namespace Numeral

/-- The number after a whole text; nothing where a character faults or ends the number. -/
def scan? (checked : Bool) (n : Numeral) : List Char → Option Numeral
  | [] => some n
  | c :: rest =>
    match n.step checked c with
    | .more next => next.scan? checked rest
    | .stop | .fault _ => none

/-- Whether no character of a text ends the number. -/
def Persists (checked : Bool) (n : Numeral) : List Char → Prop
  | [] => True
  | c :: rest =>
    match n.step checked c with
    | .more next => next.Persists checked rest
    | .stop => False
    | .fault _ => True

/-- The number that a whole text spells, not yet valued. -/
def ofText? : List Char → Option Numeral
  | [] => none
  | c :: rest => (begin? c).bind fun n => n.scan? true rest

variable {checked : Bool} {n m : Numeral} {c : Char}

theorem scan?_append (n : Numeral) (a b : List Char) :
    n.scan? checked (a ++ b) = (n.scan? checked a).bind fun m => m.scan? checked b := by
  induction a generalizing n with
  | nil => rfl
  | cons c a ih =>
    simp only [List.cons_append, scan?]
    cases n.step checked c with
    | more next => exact ih next
    | stop | fault => rfl

theorem persists_append {a b : List Char} (first : n.Persists checked a)
    (second : ∀ m, n.scan? checked a = some m → m.Persists checked b) :
    n.Persists checked (a ++ b) := by
  induction a generalizing n with
  | nil => exact second n rfl
  | cons c a ih =>
    simp only [List.cons_append, Persists, scan?] at first second ⊢
    cases taken : n.step checked c with
    | more next =>
      simp only [taken] at first second
      exact ih first second
    | stop => simp only [taken] at first
    | fault => trivial

/-- Before a character that no number contains, a number ends, or it was not complete. -/
theorem step_of_other (plain : digit? c = none) (other : c ∉ ['.', 'e', 'E', '+', '-']) :
    n.step checked c = .stop ∨
      n.step checked c = .fault .invalidNumber ∧ n.finish = .error .endInValue := by
  simp only [List.mem_cons, List.not_mem_nil, or_false, not_or] at other
  obtain ⟨point, small, capital, plus, minus⟩ := other
  obtain ⟨negative, significand, scale, stage⟩ := n
  cases stage <;> simp [step, finish, afterDigits, plain, point, small, capital, plus, minus]

inductive Part where
  | whole
  | fraction
  | mark
  | exponent

def Stage.part : Stage → Part
  | .minus | .leadingZero | .integer | .longInteger => .whole
  | .point | .fraction | .longFraction => .fraction
  | .exponentMark => .mark
  | .exponentSign _ | .exponent _ _ | .vanished => .exponent

theorem part_takeFraction (n : Numeral) (digit : Nat) :
    (n.takeFraction digit).stage.part = .fraction := by
  unfold takeFraction
  split <;> rfl

theorem takeExponent_ne_stop (n : Numeral) (negative : Bool) (value digit : Nat) :
    n.takeExponent checked negative value digit ≠ .stop := by
  unfold takeExponent
  split
  · exact nofun
  · split <;> exact nofun

theorem part_of_takeExponent {negative : Bool} {value digit : Nat}
    (taken : n.takeExponent checked negative value digit = .more m) :
    m.stage.part = .exponent := by
  unfold takeExponent at taken
  split at taken
  · cases taken
    rfl
  · split at taken <;> cases taken
    rfl

theorem step_digit_ne_stop {d : Nat} (digit : digit? c = some d) :
    n.step checked c ≠ .stop := by
  obtain ⟨negative, significand, scale, stage⟩ := n
  cases stage <;> simp only [step, digit]
  case integer => split <;> exact nofun
  case exponentMark | exponentSign | exponent => exact takeExponent_ne_stop _ _ _ _
  all_goals exact nofun

/-- Digits stay in the part they stand in; the mark of an exponent alone is no place for them. -/
theorem part_of_step_digit {d : Nat} (digit : digit? c = some d) (unmarked : n.stage.part ≠ .mark)
    (taken : n.step checked c = .more m) : m.stage.part = n.stage.part := by
  obtain ⟨negative, significand, scale, stage⟩ := n
  cases stage <;> simp only [step, digit] at taken
  case minus =>
    cases taken
    change (if d = 0 then Stage.leadingZero else .integer).part = .whole
    split <;> rfl
  case leadingZero => cases taken
  case integer => split at taken <;> cases taken <;> rfl
  case point | fraction =>
    cases taken
    exact part_takeFraction _ _
  case exponentMark => exact absurd rfl unmarked
  case exponentSign | exponent => exact part_of_takeExponent taken
  all_goals
    cases taken
    rfl

def Digits (text : List Char) : Prop := ∀ c ∈ text, ∃ d, digit? c = some d

theorem persists_digits {text : List Char} (digits : Digits text) : n.Persists checked text := by
  induction text generalizing n with
  | nil => trivial
  | cons c rest ih =>
    obtain ⟨d, digit⟩ := digits c (by simp)
    simp only [Persists]
    cases taken : n.step checked c with
    | more next =>
      apply ih
      intro e member
      exact digits e (by simp [member])
    | stop => exact step_digit_ne_stop digit taken
    | fault => trivial

theorem part_of_scan?_digits {text : List Char} (digits : Digits text)
    (unmarked : n.stage.part ≠ .mark) (scanned : n.scan? checked text = some m) :
    m.stage.part = n.stage.part := by
  induction text generalizing n with
  | nil =>
    cases scanned
    rfl
  | cons c rest ih =>
    obtain ⟨d, digit⟩ := digits c (by simp)
    simp only [scan?] at scanned
    cases taken : n.step checked c with
    | more next =>
      have same := part_of_step_digit digit unmarked taken
      have others : Digits rest := by
        intro e member
        exact digits e (by simp [member])
      simp only [taken] at scanned
      rw [ih others (same ▸ unmarked) scanned, same]
    | stop | fault => simp only [taken, reduceCtorEq] at scanned

/-- A fraction part: nothing, or a point and digits. -/
inductive Fraction : List Char → Prop where
  | absent : Fraction []
  | digits {digits : List Char} : Digits digits → Fraction ('.' :: digits)

/-- An exponent part: nothing, or the mark, a sign and digits. -/
inductive Exponent : List Char → Prop where
  | absent : Exponent []
  | digits {sign : Char} {digits : List Char} : sign = '+' ∨ sign = '-' → Digits digits →
    Exponent ('e' :: sign :: digits)

/-- The form of the texts that are written for numbers. -/
inductive Written : List Char → Prop where
  | mk {sign first whole fraction exponent} : sign = [] ∨ sign = ['-'] →
    (∃ d, digit? first = some d) → Digits whole → Fraction fraction → Exponent exponent →
    Written (sign ++ first :: (whole ++ (fraction ++ exponent)))

theorem persists_exponent {text : List Char} (exponent : Exponent text)
    (part : n.stage.part = .whole ∨ n.stage.part = .fraction) : n.Persists checked text := by
  cases exponent with
  | absent => trivial
  | @digits sign digits signed digital =>
    have marked : n.step checked 'e' = .more { n with stage := .exponentMark } ∨
        n.step checked 'e' = .fault .invalidNumber := by
      obtain ⟨negative, significand, scale, stage⟩ := n
      cases stage <;> simp_all [Stage.part, step, digit?, afterDigits]
    simp only [Persists]
    rcases marked with marked | marked <;> simp only [marked]
    have taken : Numeral.step checked { n with stage := .exponentMark } sign =
        .more { n with stage := .exponentSign (sign = '-') } := by
      rcases signed with rfl | rfl <;> simp [step, digit?]
    simp only [taken]
    exact persists_digits digital

theorem persists_fraction {fraction exponent : List Char} (fractional : Fraction fraction)
    (exponential : Exponent exponent) (part : n.stage.part = .whole) :
    n.Persists checked (fraction ++ exponent) := by
  cases fractional with
  | absent => exact persists_exponent exponential (.inl part)
  | @digits digits digital =>
    have pointed : n.step checked '.' = .more { n with stage := .point } ∨
        n.step checked '.' = .fault .invalidNumber := by
      obtain ⟨negative, significand, scale, stage⟩ := n
      cases stage <;> simp_all [Stage.part, step, digit?, afterDigits]
    simp only [List.cons_append, Persists]
    rcases pointed with pointed | pointed <;> simp only [pointed]
    apply persists_append (persists_digits digital)
    intro m scanned
    have same := part_of_scan?_digits digital (by simp [Stage.part]) scanned
    exact persists_exponent exponential (.inr same)

theorem persists_written {whole fraction exponent : List Char} (digital : Digits whole)
    (fractional : Fraction fraction) (exponential : Exponent exponent)
    (part : n.stage.part = .whole) : n.Persists checked (whole ++ (fraction ++ exponent)) := by
  apply persists_append (persists_digits digital)
  intro m scanned
  have same := part_of_scan?_digits digital (by simp [part]) scanned
  exact persists_fraction fractional exponential (same.trans part)

theorem begin?_digit {d : Nat} (digit : digit? c = some d) :
    begin? c = some ⟨false, d, 0, if d = 0 then .leadingZero else .integer⟩ := by
  have unsigned : c ≠ '-' := by
    rintro rfl
    cases digit
  simp only [begin?, unsigned, digit, if_false, Option.map_some]

theorem step_minus_digit {negative : Bool} {d : Nat} (digit : digit? c = some d) :
    (⟨negative, 0, 0, .minus⟩ : Numeral).step checked c =
      .more ⟨negative, d, 0, if d = 0 then .leadingZero else .integer⟩ := by
  simp only [step, digit]

theorem part_first (negative : Bool) (d : Nat) :
    (⟨negative, d, 0, if d = 0 then .leadingZero else .integer⟩ : Numeral).stage.part = .whole := by
  change (if d = 0 then Stage.leadingZero else .integer).part = .whole
  split <;> rfl

/-- A written number begins with a character that a number begins with, and ends nowhere inside. -/
theorem begins_of_written {text : List Char} (written : Written text) :
    ∃ c rest n, text = c :: rest ∧ begin? c = some n ∧ n.Persists true rest := by
  obtain @⟨sign, first, whole, fraction, exponent, signed, ⟨d, digit⟩, digital, fractional,
    exponential⟩ := written
  have persists (negative : Bool) : Persists true
      ⟨negative, d, 0, if d = 0 then .leadingZero else .integer⟩
      (whole ++ (fraction ++ exponent)) :=
    persists_written digital fractional exponential (part_first negative d)
  rcases signed with rfl | rfl
  · exact ⟨_, _, _, rfl, begin?_digit digit, persists false⟩
  · refine ⟨'-', first :: (whole ++ (fraction ++ exponent)), ⟨true, 0, 0, .minus⟩, rfl, rfl, ?_⟩
    simp only [Persists, step_minus_digit digit]
    exact persists true

end Numeral

namespace State

variable {limit : Option Nat} {stack : List Frame}

/-- A number that goes on to the end of a text is valued there and handed over. -/
theorem read?_inNumber {n : Numeral} {text rest : List Char} (persists : n.Persists true text)
    (ends : EndsNumber rest) :
    (inNumber n stack).read? ⟨limit, true⟩ (text ++ rest) =
      ((n.scan? true text).bind (·.finish.toOption)).bind fun x =>
        goOn? ⟨limit, true⟩ (.number x) stack rest := by
  induction text generalizing n with
  | nil =>
    -- The number ends with the text, or before a character that no number takes.
    cases rest with
    | nil =>
      simp only [List.nil_append, read?, finish, numberValue, Numeral.scan?, Option.bind_some]
      cases n.finish with
      | error problem => cases problem <;> rfl
      | ok x => rcases stack with _ | ⟨_ | _, _⟩ <;> rfl
    | cons c rest =>
      obtain ⟨plain, other⟩ := ends c rfl
      simp only [List.nil_append, read?, step, numberValue, Numeral.scan?, Option.bind_some]
      have ended : n.step true c = .stop ∨ _ :=
        n.step_of_other (Option.isNone_iff_eq_none.1 plain) other
      rcases ended with stop | ⟨fault, incomplete⟩
      · simp only [stop]
        cases n.finish with
        | error problem => cases problem <;> rfl
        | ok x => rcases stack with _ | ⟨_ | _, _⟩ <;> rfl
      · simp only [fault, incomplete]
        rfl
  | cons c text ih =>
    simp only [Numeral.Persists] at persists
    simp only [List.cons_append, Numeral.scan?]
    cases taken : n.step true c with
    | more next =>
      simp only [taken] at persists
      rw [read?_of_more (t := inNumber next stack) (by simp only [step, taken])]
      exact ih persists
    | stop => simp only [taken] at persists
    | fault => simp only [read?, step, taken, Option.bind_none]

theorem step_begin {rules : Rules} {c : Char} {n : Numeral}
    (begins : Numeral.begin? c = some n) :
    (beforeValue stack).step rules c = .more (inNumber n stack) := by
  have none : ∀ x ∈ [' ', '\t', '\n', '\r', '"', '[', '{', 'n', 't', 'f'],
      Numeral.begin? x = none := by
    simp [Numeral.begin?, digit?]
  have other : c ∉ [' ', '\t', '\n', '\r', '"', '[', '{', 'n', 't', 'f'] := by
    intro member
    rw [none c member] at begins
    cases begins
  simp only [List.mem_cons, List.not_mem_nil, or_false, not_or] at other
  simp [step, isSpace, beginValue, begins, other]

theorem read?_written {text rest : List Char} (written : Numeral.Written text)
    (ends : EndsNumber rest) :
    (beforeValue stack).read? ⟨limit, true⟩ (text ++ rest) =
      ((Numeral.ofText? text).bind (·.finish.toOption)).bind fun x =>
        goOn? ⟨limit, true⟩ (.number x) stack rest := by
  obtain ⟨c, more, n, rfl, begins, persists⟩ := Numeral.begins_of_written written
  rw [List.cons_append, read?_of_more (step_begin begins), read?_inNumber persists ends]
  simp only [Numeral.ofText?, begins, Option.bind_some]

end State
end RecordStore.Json

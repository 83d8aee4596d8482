import RecordStore.Proofs.ConditionText
import RecordStore.Proofs.RoundTrip

/-! Different values have different texts, in either layout. The first character tells what kind of
value is written, and from there on one text leaves no choice of where its parts end, whatever
follows it. None of this depends on the reader's bounds: it holds of values nested deeper than the
reader goes, of doubles that come back as others, and of objects that repeat a key. -/
namespace RecordStore.Json

variable {layout : Layout} {level outer : Nat} {r s : List Char}

/-! Scalars. -/

/-- The kind of value whose text begins with a character. -/
def kindAt (c : Char) : String :=
  if c = 'n' then "null"
  else if c = 't' ∨ c = 'f' then "boolean"
  else if c = '"' then "string"
  else if c = '[' then "array"
  else if c = '{' then "object"
  else "number"

theorem kindAt_begin {c : Char} {n : Numeral} (begins : Numeral.begin? c = some n) :
    kindAt c = "number" := by
  have none : ∀ x ∈ ['n', 't', 'f', '"', '[', '{'], Numeral.begin? x = none := by
    simp [Numeral.begin?, digit?]
  have other : c ∉ ['n', 't', 'f', '"', '[', '{'] := by
    intro member
    rw [none c member] at begins
    cases begins
  simp only [List.mem_cons, List.not_mem_nil, or_false, not_or] at other
  simp [kindAt, other]

theorem exists_kindAt (layout : Layout) (level : Nat) (value : Json) :
    ∃ c rest, value.write layout level = c :: rest ∧ kindAt c = value.kind := by
  cases value with
  | null => exact ⟨_, _, rfl, rfl⟩
  | bool b => cases b <;> exact ⟨_, _, rfl, rfl⟩
  | number x =>
    obtain ⟨c, rest, n, text, begins, -⟩ := Numeral.begins_of_written x.written_text
    exact ⟨c, rest, text, kindAt_begin begins⟩
  | string s => exact ⟨_, _, rfl, rfl⟩
  | array items => cases items <;> exact ⟨_, _, rfl, rfl⟩
  | object members => rcases members with _ | ⟨⟨_, _⟩, _⟩ <;> exact ⟨_, _, rfl, rfl⟩

theorem kind_of_write {a b : Json}
    (same : a.write layout level ++ r = b.write layout level ++ s) : a.kind = b.kind := by
  obtain ⟨c, rest, text, kind⟩ := exists_kindAt layout level a
  obtain ⟨d, more, other, like⟩ := exists_kindAt layout level b
  rw [text, other, List.cons_append, List.cons_append] at same
  rw [← kind, ← like, (List.cons.inj same).1]

/-- Whether a character may stand in a number. -/
def isNumeric (c : Char) : Bool := (digit? c).isSome || ['.', 'e', 'E', '+', '-'].contains c

theorem takeWhile_text (x : Number) {rest : List Char} (ends : EndsNumber rest) :
    (x.text ++ rest).takeWhile isNumeric = x.text := by
  have inside : ∀ c ∈ x.text, isNumeric c = true := by
    intro c member
    rcases Numeral.mem_of_written x.written_text c member with ⟨d, digit⟩ | sign
    · simp [isNumeric, digit]
    · simp only [List.mem_cons, List.not_mem_nil, or_false] at sign
      rcases sign with rfl | rfl | rfl | rfl <;> decide
  rw [List.takeWhile_append_of_pos inside]
  cases rest with
  | nil => simp
  | cons c rest =>
    obtain ⟨plain, other⟩ := ends c rfl
    have outside : isNumeric c = false := by
      simpa [isNumeric, Option.isNone_iff_eq_none.1 plain] using other
    simp [outside]

theorem number_of_text {x y : Number} (endsR : EndsNumber r) (endsS : EndsNumber s)
    (same : x.text ++ r = y.text ++ s) : x = y ∧ r = s := by
  have text : x.text = y.text := by rw [← takeWhile_text x endsR, same, takeWhile_text y endsS]
  refine ⟨?_, ?_⟩
  · have read := Literal.number?_text x
    rw [text, Literal.number?_text y] at read
    exact (Option.some.inj read).symm
  · rw [text] at same
    exact List.append_cancel_left same

theorem string_of_quoted {a b : String} (same : quoted a ++ r = quoted b ++ s) :
    a = b ∧ r = s := by
  simp only [quoted, List.cons_append, List.append_assoc, List.nil_append] at same
  have read := Quoted.read?_quoted a r
  rw [(List.cons.inj same).2, Quoted.read?_quoted b s] at read
  cases read
  exact ⟨rfl, rfl⟩

/-! Containers. -/

/-- Whether no other value has the text of a value, whatever follows the two. -/
def Distinct (layout : Layout) (a : Json) : Prop :=
  ∀ b level r s, EndsNumber r → EndsNumber s →
    a.write layout level ++ r = b.write layout level ++ s → a = b ∧ r = s

/-- Behind a line break, if there is one, the text goes on with its own first character. -/
theorem lineBreak_append_ne {c d : Char} (other : c ≠ d) (solid : isSpace d = false)
    (rest : List Char) : layout.lineBreak level ++ c :: r ≠ d :: rest := by
  cases layout with
  | compact =>
    intro same
    exact other (List.cons.inj same).1
  | indented =>
    rintro ⟨⟩
    cases solid

theorem items_of_write {items : List Json} (distinct : ∀ item ∈ items, Distinct layout item)
    {others : List Json}
    (same : writeItems layout level items ++ (layout.lineBreak outer ++ ']' :: r) =
      writeItems layout level others ++ (layout.lineBreak outer ++ ']' :: s)) :
    items = others ∧ r = s := by
  induction items generalizing others with
  | nil =>
    cases others with
    | nil => exact ⟨rfl, (List.cons.inj (List.append_cancel_left same)).2⟩
    | cons other others => exact absurd same (lineBreak_append_ne (by decide) rfl _)
  | cons item items ih =>
    cases others with
    | nil => exact absurd same.symm (lineBreak_append_ne (by decide) rfl _)
    | cons other others =>
      obtain ⟨first, more⟩ := List.forall_mem_cons.1 distinct
      simp only [writeItems, List.cons_append, List.append_assoc] at same
      obtain ⟨rfl, left⟩ := first other level _ _
        (endsNumber_writeItems items (endsNumber_listEnd r))
        (endsNumber_writeItems others (endsNumber_listEnd s))
        (List.append_cancel_left (List.cons.inj same).2)
      obtain ⟨rfl, rest⟩ := ih more left
      exact ⟨rfl, rest⟩

theorem members_of_write {members : Members}
    (distinct : ∀ member ∈ members, Distinct layout member.2) {others : Members}
    (same : writeMembers layout level members ++ (layout.lineBreak outer ++ '}' :: r) =
      writeMembers layout level others ++ (layout.lineBreak outer ++ '}' :: s)) :
    members = others ∧ r = s := by
  induction members generalizing others with
  | nil =>
    rcases others with _ | ⟨⟨key, value⟩, others⟩
    · exact ⟨rfl, (List.cons.inj (List.append_cancel_left same)).2⟩
    · exact absurd same (lineBreak_append_ne (by decide) rfl _)
  | cons member members ih =>
    obtain ⟨key, value⟩ := member
    rcases others with _ | ⟨⟨other, found⟩, others⟩
    · exact absurd same.symm (lineBreak_append_ne (by decide) rfl _)
    · obtain ⟨first, more⟩ := List.forall_mem_cons.1 distinct
      simp only [writeMembers, List.cons_append, List.append_assoc] at same
      obtain ⟨rfl, named⟩ := string_of_quoted (List.append_cancel_left (List.cons.inj same).2)
      obtain ⟨valued, left⟩ := first found level _ _
        (endsNumber_writeMembers members (endsNumber_objectEnd r))
        (endsNumber_writeMembers others (endsNumber_objectEnd s))
        (List.append_cancel_left named)
      obtain ⟨rfl, rest⟩ := ih more left
      cases valued
      exact ⟨rfl, rest⟩

theorem distinct_array {items : List Json} (distinct : ∀ item ∈ items, Distinct layout item) :
    Distinct layout (.array items) := by
  intro b level r s endsR endsS same
  have alike := kind_of_write same
  cases b with
  | null | bool | number | string | object => exact absurd alike (by simp [kind])
  | array others =>
    -- Behind the opening bracket an empty list is closed at once, and no item begins like that.
    have opened {item : Json} {rest others : List Char} :
        layout.lineBreak (level + 1) ++ (item.write layout (level + 1) ++ rest) ≠
          ']' :: others := by
      obtain ⟨c, more, text, -, other⟩ := write_eq_cons layout (level + 1) item
      rw [text, List.cons_append]
      exact lineBreak_append_ne other rfl _
    cases items with
    | nil =>
      cases others with
      | nil =>
        simp only [write, List.cons_append, List.nil_append, List.cons.injEq, true_and] at same
        exact ⟨rfl, same⟩
      | cons other others =>
        simp only [write, List.cons_append, List.append_assoc, List.nil_append,
          List.cons.injEq, true_and] at same
        exact absurd same.symm opened
    | cons item items =>
      cases others with
      | nil =>
        simp only [write, List.cons_append, List.append_assoc, List.nil_append,
          List.cons.injEq, true_and] at same
        exact absurd same opened
      | cons other others =>
        have listed : writeItems layout (level + 1) (item :: items) ++
              (layout.lineBreak level ++ ']' :: r) =
            writeItems layout (level + 1) (other :: others) ++
              (layout.lineBreak level ++ ']' :: s) := by
          simpa [write, writeItems] using same
        obtain ⟨equal, rest⟩ := items_of_write distinct listed
        exact ⟨by rw [equal], rest⟩

theorem distinct_object {members : Members}
    (distinct : ∀ member ∈ members, Distinct layout member.2) :
    Distinct layout (.object members) := by
  intro b level r s endsR endsS same
  have alike := kind_of_write same
  cases b with
  | null | bool | number | string | array => exact absurd alike (by simp [kind])
  | object others =>
    have opened {key : String} {rest others : List Char} :
        layout.lineBreak (level + 1) ++ (quoted key ++ rest) ≠ '}' :: others := by
      simp only [quoted, List.cons_append]
      exact lineBreak_append_ne (by decide) rfl _
    rcases members with _ | ⟨⟨key, value⟩, members⟩
    · rcases others with _ | ⟨⟨other, found⟩, others⟩
      · simp only [write, List.cons_append, List.nil_append, List.cons.injEq, true_and] at same
        exact ⟨rfl, same⟩
      · simp only [write, List.cons_append, List.append_assoc, List.nil_append,
          List.cons.injEq, true_and] at same
        exact absurd same.symm opened
    · rcases others with _ | ⟨⟨other, found⟩, others⟩
      · simp only [write, List.cons_append, List.append_assoc, List.nil_append,
          List.cons.injEq, true_and] at same
        exact absurd same opened
      · have listed : writeMembers layout (level + 1) ((key, value) :: members) ++
              (layout.lineBreak level ++ '}' :: r) =
            writeMembers layout (level + 1) ((other, found) :: others) ++
              (layout.lineBreak level ++ '}' :: s) := by
          simpa [write, writeMembers] using same
        obtain ⟨equal, rest⟩ := members_of_write distinct listed
        exact ⟨by rw [equal], rest⟩

/-- Every value is told by its text. -/
theorem distinct (layout : Layout) (value : Json) : Distinct layout value := by
  induction value using Json.induction with
  | null =>
    intro b level r s _ _ same
    have alike := kind_of_write same
    cases b with
    | null => exact ⟨rfl, List.append_cancel_left same⟩
    | bool | number | string | array | object => exact absurd alike (by simp [kind])
  | bool value =>
    intro b level r s _ _ same
    have alike := kind_of_write same
    cases b with
    | bool other =>
      cases value <;> cases other <;> simp [write] at same <;> exact ⟨rfl, same⟩
    | null | number | string | array | object => exact absurd alike (by simp [kind])
  | number x =>
    intro b level r s endsR endsS same
    have alike := kind_of_write same
    cases b with
    | number y =>
      obtain ⟨rfl, rest⟩ := number_of_text endsR endsS same
      exact ⟨rfl, rest⟩
    | null | bool | string | array | object => exact absurd alike (by simp [kind])
  | string text =>
    intro b level r s _ _ same
    have alike := kind_of_write same
    cases b with
    | string other =>
      obtain ⟨rfl, rest⟩ := string_of_quoted same
      exact ⟨rfl, rest⟩
    | null | bool | number | array | object => exact absurd alike (by simp [kind])
  | array items ih => exact distinct_array ih
  | object members ih => exact distinct_object ih

/-- No two values have one text. -/
theorem eq_of_write {a b : Json} (same : a.write layout level = b.write layout level) : a = b :=
  (distinct layout a b level [] [] endsNumber_nil endsNumber_nil
    (by rw [List.append_nil, List.append_nil, same])).1

end RecordStore.Json

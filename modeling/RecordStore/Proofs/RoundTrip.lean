import RecordStore.Document
import RecordStore.Proofs.Echo
import RecordStore.Proofs.Strings

/-! Reading what was written. The text of a value, in either layout and inside any containers, is
read as the echo of the value; so a document holds the echoes of its records, or nothing if one of
them has none. -/
namespace RecordStore
namespace Json
open State

variable {limit : Option Nat} {layout : Layout} {level : Nat} {stack : List Frame}

/-- Whether the text of a value is read as its echo, wherever it stands. -/
def ComesBack (limit : Option Nat) (layout : Layout) (value : Json) : Prop :=
  ∀ level stack rest, EndsNumber rest →
    (beforeValue stack).read? ⟨limit, true⟩ (value.write layout level ++ rest) =
      (value.echo? limit stack.length).bind fun echo => goOn? ⟨limit, true⟩ echo stack rest

theorem write_eq_cons (layout : Layout) (level : Nat) (value : Json) :
    ∃ c rest, value.write layout level = c :: rest ∧ isSpace c = false ∧ c ≠ ']' := by
  cases value with
  | null => exact ⟨_, _, rfl, rfl, by decide⟩
  | bool b => cases b <;> exact ⟨_, _, rfl, rfl, by decide⟩
  | number x =>
    obtain ⟨c, rest, n, text, begins, -⟩ := Numeral.begins_of_written x.written_text
    refine ⟨c, rest, text, ?_, ?_⟩
    · cases space : isSpace c with
      | false => rfl
      | true =>
        simp only [isSpace, Bool.or_eq_true, beq_iff_eq] at space
        rcases space with ((rfl | rfl) | rfl) | rfl <;> cases begins
    · rintro rfl
      cases begins
  | string s => exact ⟨_, _, rfl, rfl, by decide⟩
  | array items => cases items <;> exact ⟨_, _, rfl, rfl, by decide⟩
  | object members =>
    rcases members with _ | ⟨⟨_, _⟩, _⟩ <;> exact ⟨_, _, rfl, rfl, by decide⟩

theorem read?_firstWritten {rules : Rules} (value : Json) (rest : List Char) :
    (firstItem stack).read? rules (value.write layout level ++ rest) =
      (beforeValue (.list [] :: stack)).read? rules (value.write layout level ++ rest) := by
  obtain ⟨c, more, text, solid, other⟩ := write_eq_cons layout level value
  rw [text, List.cons_append, read?_firstItem solid other]

theorem read?_nextWritten {rules : Rules} (before : List Json) (value : Json) (rest : List Char) :
    (nextItem before stack).read? rules (value.write layout level ++ rest) =
      (beforeValue (.list before :: stack)).read? rules (value.write layout level ++ rest) := by
  obtain ⟨c, more, text, solid, other⟩ := write_eq_cons layout level value
  rw [text, List.cons_append, read?_nextItem solid other]

theorem read?_layoutColon {rules : Rules} (layout : Layout) (before : Members) (key : String)
    (rest : List Char) :
    (afterKey before key stack).read? rules (layout.colon ++ rest) =
      (beforeValue (.object before key :: stack)).read? rules rest := by
  cases layout with
  | compact => exact read?_colon before key rest
  | indented =>
    rw [Layout.colon, List.cons_append, read?_colon, List.singleton_append,
      read?_of_more (step_space rfl rfl)]

theorem read?_writtenColon (before : Members) (key : String) {value : Json}
    (comesBack : ComesBack limit layout value) {rest : List Char} (ends : EndsNumber rest) :
    (afterKey before key stack).read? ⟨limit, true⟩
        (layout.colon ++ (value.write layout level ++ rest)) =
      (value.echo? limit (stack.length + 1)).bind fun echo =>
        (afterMember (before.insert key echo) stack).read? ⟨limit, true⟩ rest := by
  rw [read?_layoutColon, comesBack level (.object before key :: stack) rest ends]
  rfl

/-! What separates and ends the items of a container ends a number. -/

theorem endsNumber_writeItems (items : List Json) {rest : List Char} (ends : EndsNumber rest) :
    EndsNumber (writeItems layout level items ++ rest) := by
  cases items with
  | nil => exact ends
  | cons => exact endsNumber_cons (by decide)

theorem endsNumber_writeMembers (members : Members) {rest : List Char} (ends : EndsNumber rest) :
    EndsNumber (writeMembers layout level members ++ rest) := by
  rcases members with _ | ⟨⟨_, _⟩, _⟩
  · exact ends
  · exact endsNumber_cons (by decide)

theorem endsNumber_listEnd (rest : List Char) :
    EndsNumber (layout.lineBreak level ++ ']' :: rest) :=
  (endsNumber_cons (by decide)).lineBreak layout level

theorem endsNumber_objectEnd (rest : List Char) :
    EndsNumber (layout.lineBreak level ++ '}' :: rest) :=
  (endsNumber_cons (by decide)).lineBreak layout level

theorem read?_writeItems {items : List Json}
    (comeBack : ∀ item ∈ items, ComesBack limit layout item) (outer : Nat) (before : List Json)
    (rest : List Char) :
    (afterItem before stack).read? ⟨limit, true⟩
        (writeItems layout level items ++ (layout.lineBreak outer ++ ']' :: rest)) =
      (echoItems? limit (stack.length + 1) items).bind fun echoes =>
        goOn? ⟨limit, true⟩ (.array (before.reverse ++ echoes)) stack rest := by
  induction items generalizing before with
  | nil =>
    simp only [writeItems, echoItems?, List.nil_append, Option.bind_some, List.append_nil]
    rw [read?_blanks rfl fun _ => isSpace_of_mem_lineBreak,
      read?_closeList]
  | cons item items ih =>
    have ends : EndsNumber
        (writeItems layout level items ++ (layout.lineBreak outer ++ ']' :: rest)) :=
      endsNumber_writeItems items (endsNumber_listEnd rest)
    simp only [writeItems, echoItems?, List.cons_append, List.append_assoc]
    rw [read?_itemComma, read?_blanks rfl fun _ => isSpace_of_mem_lineBreak,
      read?_nextWritten, comeBack item (by simp) level (.list before :: stack) _ ends]
    cases echo? limit (stack.length + 1) item with
    | none => rfl
    | some echo =>
      have further := ih (fun other present => comeBack other (by simp [present])) (echo :: before)
      simp only [Option.bind_some, goOn?, further]
      cases echoItems? limit (stack.length + 1) items <;> simp

theorem read?_writeMembers {members : Members}
    (comeBack : ∀ member ∈ members, ComesBack limit layout member.2) (outer : Nat)
    (before : Members) (rest : List Char) :
    (afterMember before stack).read? ⟨limit, true⟩
        (writeMembers layout level members ++ (layout.lineBreak outer ++ '}' :: rest)) =
      (echoMembers? limit (stack.length + 1) before members).bind fun echoes =>
        goOn? ⟨limit, true⟩ (.object echoes) stack rest := by
  induction members generalizing before with
  | nil =>
    simp only [writeMembers, echoMembers?, List.nil_append, Option.bind_some]
    rw [read?_blanks rfl fun _ => isSpace_of_mem_lineBreak,
      read?_closeObject]
  | cons member members ih =>
    obtain ⟨key, value⟩ := member
    have ends : EndsNumber
        (writeMembers layout level members ++ (layout.lineBreak outer ++ '}' :: rest)) :=
      endsNumber_writeMembers members (endsNumber_objectEnd rest)
    simp only [writeMembers, echoMembers?, List.cons_append, List.append_assoc]
    rw [read?_memberComma, read?_blanks rfl fun _ => isSpace_of_mem_lineBreak,
      read?_quotedNextKey, read?_writtenColon before key (comeBack (key, value) (by simp)) ends]
    cases echo? limit (stack.length + 1) value with
    | none => rfl
    | some echo =>
      exact ih (fun other present => comeBack other (by simp [present])) (before.insert key echo)

theorem read?_write_of_full {value : Json} (container : 0 < value.depth)
    (full : isFull limit stack.length = true) (rest : List Char) :
    (beforeValue stack).read? ⟨limit, true⟩ (value.write layout level ++ rest) = none := by
  have list (rest : List Char) : (beforeValue stack).read? ⟨limit, true⟩ ('[' :: rest) = none := by
    rw [read?_openList]
    exact if_pos full
  have object (rest : List Char) :
      (beforeValue stack).read? ⟨limit, true⟩ ('{' :: rest) = none := by
    rw [read?_openObject]
    exact if_pos full
  cases value with
  | null | bool | number | string => cases container
  | array items => cases items <;> exact list _
  | object members => rcases members with _ | ⟨⟨_, _⟩, _⟩ <;> exact object _

theorem comesBack_array {items : List Json}
    (comeBack : ∀ item ∈ items, ComesBack limit layout item) :
    ComesBack limit layout (.array items) := by
  intro level stack rest ends
  cases full : isFull limit stack.length with
  | true =>
    rw [read?_write_of_full (by exact Nat.succ_pos _) full, echo?, if_pos full]
    rfl
  | false =>
    have opens (rest : List Char) : (beforeValue stack).read? ⟨limit, true⟩ ('[' :: rest) =
        (firstItem stack).read? ⟨limit, true⟩ rest := by
      rw [read?_openList]
      exact if_neg (by simpa [isFull] using full)
    rw [echo?, full, if_neg (by decide)]
    cases items with
    | nil =>
      simp only [write, echoItems?, List.cons_append, List.nil_append]
      rw [opens, read?_emptyList]
      rfl
    | cons item items =>
      have first : EndsNumber (writeItems layout (level + 1) items ++
          (layout.lineBreak level ++ ']' :: rest)) :=
        endsNumber_writeItems items (endsNumber_listEnd rest)
      simp only [write, echoItems?, List.cons_append, List.append_assoc, List.nil_append]
      rw [opens, read?_blanks rfl fun _ => isSpace_of_mem_lineBreak,
        read?_firstWritten, comeBack item (by simp) _ (.list [] :: stack) _ first,
        List.length_cons]
      cases echo? limit (stack.length + 1) item with
      | none => rfl
      | some echo =>
        simp only [Option.bind_some, goOn?]
        rw [read?_writeItems fun other present => comeBack other (by simp [present])]
        cases echoItems? limit (stack.length + 1) items <;> rfl

theorem comesBack_object {members : Members}
    (comeBack : ∀ member ∈ members, ComesBack limit layout member.2) :
    ComesBack limit layout (.object members) := by
  intro level stack rest ends
  cases full : isFull limit stack.length with
  | true =>
    rw [read?_write_of_full (by exact Nat.succ_pos _) full, echo?, if_pos full]
    rfl
  | false =>
    have opens (rest : List Char) : (beforeValue stack).read? ⟨limit, true⟩ ('{' :: rest) =
        (firstKey stack).read? ⟨limit, true⟩ rest := by
      rw [read?_openObject]
      exact if_neg (by simpa [isFull] using full)
    rw [echo?, full, if_neg (by decide)]
    rcases members with _ | ⟨⟨key, value⟩, members⟩
    · simp only [write, echoMembers?, List.cons_append, List.nil_append]
      rw [opens, read?_emptyObject]
      rfl
    · have first : EndsNumber (writeMembers layout (level + 1) members ++
          (layout.lineBreak level ++ '}' :: rest)) :=
        endsNumber_writeMembers members (endsNumber_objectEnd rest)
      simp only [write, echoMembers?, List.cons_append, List.append_assoc, List.nil_append]
      rw [opens, read?_blanks rfl fun _ => isSpace_of_mem_lineBreak,
        read?_quotedFirstKey, read?_writtenColon [] key (comeBack (key, value) (by simp)) first]
      cases echo? limit (stack.length + 1) value with
      | none => rfl
      | some echo =>
        simp only [Option.bind_some]
        rw [read?_writeMembers fun other present => comeBack other (by simp [present])]
        cases echoMembers? limit (stack.length + 1) (Members.insert key echo []) members <;> rfl

/-- The letters of a word are read one by one, and then stand for its value. -/
theorem read?_inWord {rules : Rules} (next : Char) (letters : List Char) (value : Json)
    (rest : List Char) :
    (inWord next letters value stack).read? rules (next :: (letters ++ rest)) =
      goOn? rules value stack rest := by
  induction letters generalizing next with
  | nil => exact read?_of_deliver (by simp [step]) rest
  | cons letter letters ih =>
    rw [read?_of_more (t := inWord letter letters value stack) (by simp [step]), List.cons_append]
    exact ih letter

theorem read?_null (rules : Rules) (rest : List Char) :
    (beforeValue stack).read? rules (null.write layout level ++ rest) =
      goOn? rules .null stack rest := by
  have begins : (beforeValue stack).step rules 'n' =
      .more (inWord 'u' ['l', 'l'] .null stack) := rfl
  exact (read?_of_more begins _).trans (read?_inWord 'u' ['l', 'l'] .null rest)

theorem read?_bool (rules : Rules) (b : Bool) (rest : List Char) :
    (beforeValue stack).read? rules ((bool b).write layout level ++ rest) =
      goOn? rules (.bool b) stack rest := by
  cases b with
  | true =>
    have begins : (beforeValue stack).step rules 't' =
        .more (inWord 'r' ['u', 'e'] (.bool true) stack) := rfl
    exact (read?_of_more begins _).trans (read?_inWord 'r' ['u', 'e'] (.bool true) rest)
  | false =>
    have begins : (beforeValue stack).step rules 'f' =
        .more (inWord 'a' ['l', 's', 'e'] (.bool false) stack) := rfl
    exact (read?_of_more begins _).trans (read?_inWord 'a' ['l', 's', 'e'] (.bool false) rest)

/-- Every written value is read as its echo. -/
theorem comesBack (limit : Option Nat) (layout : Layout) (value : Json) :
    ComesBack limit layout value := by
  induction value using Json.induction with
  | null => exact fun level stack rest _ => read?_null ⟨limit, true⟩ rest
  | bool b => exact fun level stack rest _ => read?_bool ⟨limit, true⟩ b rest
  | number x =>
    intro level stack rest ends
    rw [write, read?_number x ends, echo?, Option.bind_map]
    rfl
  | string s =>
    intro level stack rest ends
    rw [write, read?_quotedString]
    rfl
  | array items ih => exact comesBack_array ih
  | object members ih => exact comesBack_object ih

theorem toOption_ofText_write (layout : Layout) (level : Nat) (value : Json) :
    (ofText (String.ofList (value.write layout level))).toOption = value.echo? (some 127) 0 := by
  have whole := comesBack (some 127) layout value level [] [] endsNumber_nil
  rw [List.append_nil] at whole
  rw [ofText, String.toList_ofList, toOption_read, Rules.document, whole]
  cases value.echo? (some 127) 0 <;> rfl

end Json

namespace Document

/-- A document holds the echoes of its records; if one has none, the document holds nothing. -/
theorem decode_encode (records : List Json) (settings : Settings) :
    decode (encode records settings) = (Json.echoItems? (some 127) 1 records).getD [] := by
  have read : (Json.ofText (encode records settings)).toOption =
      (Json.echoItems? (some 127) 1 records).map .array :=
    Json.toOption_ofText_write settings.layout 0 (.array records)
  unfold decode
  cases echoes : Json.echoItems? (some 127) 1 records with
  | none =>
    rw [echoes] at read
    cases text : Json.ofText (encode records settings) with
    | error => rfl
    | ok value =>
      rw [text] at read
      cases read
  | some found =>
    rw [echoes] at read
    cases text : Json.ofText (encode records settings) with
    | error =>
      rw [text] at read
      cases read
    | ok value =>
      rw [text] at read
      cases read
      rfl

end Document
end RecordStore

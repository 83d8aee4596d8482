import RecordStore.Proofs.Reading

/-! Strings come back from their written form. Escaping is undone one character at a time, so the
text between the quotes is read as the characters it was written from, whatever they are. Unchecked
it is read to the same end, as some string. -/
namespace RecordStore.Json

/-- The string that a text yields from inside a string, with the text after its closing quote. -/
def Quoted.read? (checked : Bool) (quoted : Quoted) : List Char → Option (String × List Char)
  | [] => none
  | c :: rest =>
    match quoted.step checked c with
    | .more next => next.read? checked rest
    | .done text => some (text, rest)
    | .fault _ _ => none

namespace State

variable {rules : Rules} {stack : List Frame}

theorem read?_inString (quoted : Quoted) (text : List Char) :
    (inString quoted stack).read? rules text =
      (quoted.read? rules.checked text).bind fun (s, rest) =>
        goOn? rules (.string s) stack rest := by
  induction text generalizing quoted with
  | nil => rfl
  | cons c rest ih =>
    cases taken : quoted.step rules.checked c with
    | more next =>
      rw [read?_of_more (t := inString next stack) (by simp only [step, taken]), ih]
      simp only [Quoted.read?, taken]
    | done s =>
      rw [read?_of_deliver (v := .string s) (k := stack) (by simp only [step, taken])]
      simp only [Quoted.read?, taken, Option.bind_some]
    | fault => simp only [read?, step, Quoted.read?, taken, Option.bind_none]

theorem read?_inKey (before : Members) (quoted : Quoted) (text : List Char) :
    (inKey before quoted stack).read? rules text =
      (quoted.read? rules.checked text).bind fun (key, rest) =>
        (afterKey before key stack).read? rules rest := by
  induction text generalizing quoted with
  | nil => rfl
  | cons c rest ih =>
    cases taken : quoted.step rules.checked c with
    | more next =>
      rw [read?_of_more (t := inKey before next stack) (by simp only [step, taken]), ih]
      simp only [Quoted.read?, taken]
    | done key =>
      rw [read?_of_more (t := afterKey before key stack) (by simp only [step, taken])]
      simp only [Quoted.read?, taken, Option.bind_some]
    | fault => simp only [read?, step, Quoted.read?, taken, Option.bind_none]

end State

namespace Quoted

theorem read?_of_more {checked : Bool} {q r : Quoted} {c : Char}
    (step : q.step checked c = .more r) (rest : List Char) :
    q.read? checked (c :: rest) = r.read? checked rest := by
  simp only [read?, step]

variable (checked : Bool)

/-- A backslash and a letter stand for the character that the letter names. -/
theorem read?_shortEscape {letter c : Char} (names : shortEscape? letter = some c)
    (other : letter ≠ 'u') (before rest : List Char) :
    (⟨before, .plain⟩ : Quoted).read? checked ('\\' :: letter :: rest) =
      (⟨c :: before, .plain⟩ : Quoted).read? checked rest := by
  rw [read?_of_more (r := ⟨before, .escape⟩) (by simp [step]),
    read?_of_more (r := ⟨c :: before, .plain⟩) (by simp [step, other, names, push])]

theorem hexNumber?_control : ∀ n < 0x20,
    hexNumber? ['0', '0', hexDigit (n / 16), hexDigit (n % 16)] = some n := by
  decide

theorem utf8Size_hexDigit : ∀ n < 16, (hexDigit n).utf8Size = 1 := by
  decide

/-- Unchecked, the code of an escape is not looked at. -/
theorem read?_codeEscape {c : Char} (control : c.toNat < 0x20) (before rest : List Char) :
    (⟨before, .plain⟩ : Quoted).read? checked
        ('\\' :: 'u' :: '0' :: '0' :: hexDigit (c.toNat / 16) :: hexDigit (c.toNat % 16) :: rest) =
      (⟨(if checked then c else '\ufffd') :: before, .plain⟩ : Quoted).read? checked rest := by
  have high := utf8Size_hexDigit (c.toNat / 16) (by omega)
  have low := utf8Size_hexDigit (c.toNat % 16) (by omega)
  have zero : '0'.utf8Size = 1 := rfl
  have code := hexNumber?_control c.toNat control
  have plain : isTrailing c.toNat = false ∧ isLeading c.toNat = false := by
    simp only [isTrailing, isLeading, Bool.and_eq_false_iff, decide_eq_false_iff_not]
    omega
  have taken : takeCode checked ⟨before, .code none ['0', '0', hexDigit (c.toNat / 16)]⟩ none
      c.toNat = .more ⟨(if checked then c else '\ufffd') :: before, .plain⟩ := by
    cases checked <;> simp [takeCode, plain, push]
  rw [read?_of_more (r := ⟨before, .escape⟩) (by simp [step]),
    read?_of_more (r := ⟨before, .code none []⟩) (by simp [step]),
    read?_of_more (r := ⟨before, .code none ['0']⟩)
      (by simp [step, takeHex, Text.octetCount, zero]),
    read?_of_more (r := ⟨before, .code none ['0', '0']⟩)
      (by simp [step, takeHex, Text.octetCount, zero]),
    read?_of_more (r := ⟨before, .code none ['0', '0', hexDigit (c.toNat / 16)]⟩)
      (by simp [step, takeHex, Text.octetCount, zero, high]),
    read?_of_more (r := ⟨(if checked then c else '\ufffd') :: before, .plain⟩)
      (by simp [step, takeHex, Text.octetCount, zero, high, low, code, taken])]

/-- Whatever its escape, a written character is read as one character, and checked as itself. -/
theorem read?_escaped (c : Char) (before rest : List Char) :
    ∃ d, (checked = true → d = c) ∧
      (⟨before, .plain⟩ : Quoted).read? checked (escaped c ++ rest) =
        (⟨d :: before, .plain⟩ : Quoted).read? checked rest := by
  have short {letter : Char} (names : shortEscape? letter = some c) (other : letter ≠ 'u') :
      ∃ d, (checked = true → d = c) ∧
        (⟨before, .plain⟩ : Quoted).read? checked ('\\' :: letter :: rest) =
          (⟨d :: before, .plain⟩ : Quoted).read? checked rest :=
    ⟨c, fun _ => rfl, read?_shortEscape checked names other before rest⟩
  unfold escaped
  split
  · subst c; exact short rfl (by decide)
  split
  · subst c; exact short rfl (by decide)
  split
  · subst c; exact short rfl (by decide)
  split
  · subst c; exact short rfl (by decide)
  split
  · subst c; exact short rfl (by decide)
  split
  · subst c; exact short rfl (by decide)
  split
  · subst c; exact short rfl (by decide)
  split
  · next control => exact ⟨_, fun given => if_pos given, read?_codeEscape checked control before rest⟩
  · next quote backslash _ _ _ _ _ control =>
    refine ⟨c, fun _ => rfl, ?_⟩
    exact read?_of_more (by simp [step, quote, backslash, control, push]) rest

theorem read?_flatMap_escaped (text before rest : List Char) :
    ∃ found, (checked = true → found = text) ∧
      (⟨before, .plain⟩ : Quoted).read? checked (text.flatMap escaped ++ '"' :: rest) =
        some (String.ofList (before.reverse ++ found), rest) := by
  induction text generalizing before with
  | nil => exact ⟨[], fun _ => rfl, by simp [read?, step, Quoted.text]⟩
  | cons c text ih =>
    obtain ⟨d, same, first⟩ := read?_escaped checked c before (text.flatMap escaped ++ '"' :: rest)
    obtain ⟨found, others, more⟩ := ih (d :: before)
    refine ⟨d :: found, fun given => by rw [same given, others given], ?_⟩
    rw [List.flatMap_cons, List.append_assoc, first, more]
    simp

theorem exists_read?_quoted (s : String) (rest : List Char) :
    ∃ found, (checked = true → found = s) ∧
      start.read? checked (s.toList.flatMap escaped ++ '"' :: rest) = some (found, rest) := by
  obtain ⟨found, same, read⟩ := read?_flatMap_escaped checked s.toList [] rest
  exact ⟨String.ofList found, fun given => by rw [same given, String.ofList_toList], read⟩

theorem read?_quoted (s : String) (rest : List Char) :
    start.read? true (s.toList.flatMap escaped ++ '"' :: rest) = some (s, rest) := by
  obtain ⟨found, same, read⟩ := exists_read?_quoted true s rest
  rw [read, same rfl]

end Quoted

namespace State

variable {limit : Option Nat} {stack : List Frame}

/-! A written string or key is read to its end, and checked as itself. -/

theorem exists_read?_quotedString (rules : Rules) (stack : List Frame) (s : String)
    (rest : List Char) :
    ∃ found, (rules.checked = true → found = s) ∧
      (beforeValue stack).read? rules (quoted s ++ rest) =
        goOn? rules (.string found) stack rest := by
  obtain ⟨found, same, read⟩ := Quoted.exists_read?_quoted rules.checked s rest
  refine ⟨found, same, ?_⟩
  simp only [quoted, List.cons_append, List.append_assoc, List.nil_append]
  rw [read?_of_more (t := inString .start stack) (by simp [step, isSpace, beginValue]),
    read?_inString, read]
  rfl

theorem exists_read?_quotedFirstKey (rules : Rules) (stack : List Frame) (key : String)
    (rest : List Char) :
    ∃ found, (rules.checked = true → found = key) ∧
      (firstKey stack).read? rules (quoted key ++ rest) =
        (afterKey [] found stack).read? rules rest := by
  obtain ⟨found, same, read⟩ := Quoted.exists_read?_quoted rules.checked key rest
  refine ⟨found, same, ?_⟩
  simp only [quoted, List.cons_append, List.append_assoc, List.nil_append]
  rw [read?_firstKey, read?_inKey, read]
  rfl

theorem exists_read?_quotedNextKey (rules : Rules) (before : Members) (stack : List Frame)
    (key : String) (rest : List Char) :
    ∃ found, (rules.checked = true → found = key) ∧
      (nextKey before stack).read? rules (quoted key ++ rest) =
        (afterKey before found stack).read? rules rest := by
  obtain ⟨found, same, read⟩ := Quoted.exists_read?_quoted rules.checked key rest
  refine ⟨found, same, ?_⟩
  simp only [quoted, List.cons_append, List.append_assoc, List.nil_append]
  rw [read?_nextKey, read?_inKey, read]
  rfl

theorem read?_quotedString (s : String) (rest : List Char) :
    (beforeValue stack).read? ⟨limit, true⟩ (quoted s ++ rest) =
      goOn? ⟨limit, true⟩ (.string s) stack rest := by
  obtain ⟨found, same, read⟩ := exists_read?_quotedString ⟨limit, true⟩ stack s rest
  rw [read, same rfl]

theorem read?_quotedFirstKey (key : String) (rest : List Char) :
    (firstKey stack).read? ⟨limit, true⟩ (quoted key ++ rest) =
      (afterKey [] key stack).read? ⟨limit, true⟩ rest := by
  obtain ⟨found, same, read⟩ := exists_read?_quotedFirstKey ⟨limit, true⟩ stack key rest
  rw [read, same rfl]

theorem read?_quotedNextKey (before : Members) (key : String) (rest : List Char) :
    (nextKey before stack).read? ⟨limit, true⟩ (quoted key ++ rest) =
      (afterKey before key stack).read? ⟨limit, true⟩ rest := by
  obtain ⟨found, same, read⟩ := exists_read?_quotedNextKey ⟨limit, true⟩ before stack key rest
  rw [read, same rfl]

end State
end RecordStore.Json

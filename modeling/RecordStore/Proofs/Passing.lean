import RecordStore.Proofs.NumberGrammar
import RecordStore.Proofs.RoundTrip

/-! Passing over what was written. Read for its shape alone, the text of any value is read to its
end and no further, however deep the value is and whatever numbers it holds: neither depth nor range
is a fault then, and everything else that is written is well formed. -/
namespace RecordStore.Json
open State

variable {layout : Layout} {stack : List Frame}

/-! Numbers. -/

theorem exists_numberValue {n : Numeral} (complete : n.stage.Complete) :
    ∃ value, numberValue .shape n = .ok value := by
  have finished : (∃ x, n.finish = .ok x) ∨ n.finish = .error .numberOutOfRange := by
    have double (scale : Int) : (∃ x, n.doubleValue scale = .ok x) ∨
        n.doubleValue scale = .error .numberOutOfRange := by
      unfold Numeral.doubleValue
      split
      · exact .inl ⟨_, rfl⟩
      · exact .inr rfl
    unfold Numeral.finish
    cases stage : n.stage with
    | minus | point | exponentMark | exponentSign =>
      rw [stage] at complete
      exact complete.elim
    | leadingZero | integer | vanished => exact .inl ⟨_, rfl⟩
    | longInteger | fraction | longFraction | exponent => exact double _
  unfold numberValue
  rcases finished with ⟨x, finished⟩ | finished
  · exact ⟨.number x, by rw [finished]⟩
  · exact ⟨.null, by rw [finished]; rfl⟩

theorem read?_scanned {rules : Rules} {n m : Numeral} {text : List Char}
    (scanned : n.scan? rules.checked text = some m) (rest : List Char) :
    (inNumber n stack).read? rules (text ++ rest) = (inNumber m stack).read? rules rest := by
  induction text generalizing n with
  | nil =>
    cases scanned
    rfl
  | cons c text ih =>
    simp only [Numeral.scan?] at scanned
    cases taken : n.step rules.checked c with
    | more next =>
      rw [taken] at scanned
      rw [List.cons_append, read?_of_more (t := inNumber next stack) (by simp only [step, taken])]
      exact ih scanned
    | stop | fault =>
      rw [taken] at scanned
      cases scanned

/-- A number that may end is handed over where it cannot go on. -/
theorem exists_read?_inNumber {n : Numeral} (complete : n.stage.Complete) (stack : List Frame)
    {rest : List Char} (ends : EndsNumber rest) :
    ∃ read, (inNumber n stack).read? .shape rest = goOn? .shape read stack rest := by
  obtain ⟨value, valued⟩ := exists_numberValue complete
  refine ⟨value, ?_⟩
  cases rest with
  | nil =>
    simp only [read?, finish, valued]
    rcases stack with _ | ⟨_ | _, _⟩ <;> rfl
  | cons c rest =>
    obtain ⟨plain, other⟩ := ends c rfl
    have stop : n.step Rules.shape.checked c = .stop := by
      rcases n.step_of_other (Option.isNone_iff_eq_none.1 plain) other with stop | ⟨-, incomplete⟩
      · exact stop
      · unfold numberValue at valued
        rw [incomplete] at valued
        cases valued
    simp only [read?, step, stop, valued]
    rcases stack with _ | ⟨_ | _, _⟩ <;> rfl

/-! Values. -/

/-- Whether the text of a value is read to its end, wherever it stands. -/
def Passes (layout : Layout) (value : Json) : Prop :=
  ∀ level stack rest, EndsNumber rest → ∃ read,
    (beforeValue stack).read? .shape (value.write layout level ++ rest) =
      goOn? .shape read stack rest

theorem passes_number (x : Number) : Passes layout (.number x) := by
  intro level stack rest ends
  obtain ⟨p, unpadded, written⟩ := x.exists_unpadded
  obtain ⟨c, more, n, m, text, begins, scanned, complete⟩ := p.exists_scan?_text unpadded
  obtain ⟨read, ended⟩ := exists_read?_inNumber complete stack ends
  refine ⟨read, ?_⟩
  rw [write, written, text, List.cons_append, read?_of_more (step_begin begins),
    read?_scanned scanned, ended]

theorem passes_items (level outer : Nat) {items : List Json}
    (pass : ∀ item ∈ items, Passes layout item) (before : List Json) (rest : List Char) : ∃ read,
      (afterItem before stack).read? .shape
          (writeItems layout level items ++ (layout.lineBreak outer ++ ']' :: rest)) =
        goOn? .shape read stack rest := by
  induction items generalizing before with
  | nil =>
    refine ⟨.array before.reverse, ?_⟩
    rw [writeItems, List.nil_append, read?_blanks rfl fun _ => isSpace_of_mem_lineBreak,
      read?_closeList]
  | cons item items ih =>
    obtain ⟨passItem, passOthers⟩ := List.forall_mem_cons.1 pass
    have ends : EndsNumber
        (writeItems layout level items ++ (layout.lineBreak outer ++ ']' :: rest)) :=
      endsNumber_writeItems items (endsNumber_listEnd rest)
    obtain ⟨first, passed⟩ := passItem level (.list before :: stack) _ ends
    obtain ⟨read, others⟩ := ih passOthers (first :: before)
    refine ⟨read, ?_⟩
    simp only [writeItems, List.cons_append, List.append_assoc]
    rw [read?_itemComma, read?_blanks rfl fun _ => isSpace_of_mem_lineBreak, read?_nextWritten,
      passed]
    exact others

theorem passes_members (level outer : Nat) {members : Members}
    (pass : ∀ member ∈ members, Passes layout member.2) (before : Members) (rest : List Char) :
    ∃ read,
      (afterMember before stack).read? .shape
          (writeMembers layout level members ++ (layout.lineBreak outer ++ '}' :: rest)) =
        goOn? .shape read stack rest := by
  induction members generalizing before with
  | nil =>
    refine ⟨.object before, ?_⟩
    rw [writeMembers, List.nil_append, read?_blanks rfl fun _ => isSpace_of_mem_lineBreak,
      read?_closeObject]
  | cons member members ih =>
    obtain ⟨key, value⟩ := member
    obtain ⟨passValue, passOthers⟩ := List.forall_mem_cons.1 pass
    have ends : EndsNumber
        (writeMembers layout level members ++ (layout.lineBreak outer ++ '}' :: rest)) :=
      endsNumber_writeMembers members (endsNumber_objectEnd rest)
    obtain ⟨found, -, named⟩ := exists_read?_quotedNextKey .shape before stack key
      (layout.colon ++ (value.write layout level ++
        (writeMembers layout level members ++ (layout.lineBreak outer ++ '}' :: rest))))
    obtain ⟨first, passed⟩ := passValue level (.object before found :: stack) _ ends
    obtain ⟨read, others⟩ := ih passOthers (before.insert found first)
    refine ⟨read, ?_⟩
    simp only [writeMembers, List.cons_append, List.append_assoc]
    rw [read?_memberComma, read?_blanks rfl fun _ => isSpace_of_mem_lineBreak, named,
      read?_layoutColon, passed]
    exact others

theorem passes_array {items : List Json} (pass : ∀ item ∈ items, Passes layout item) :
    Passes layout (.array items) := by
  intro level stack rest ends
  have opens (rest : List Char) : (beforeValue stack).read? .shape ('[' :: rest) =
      (firstItem stack).read? .shape rest := read?_openList rest
  cases items with
  | nil => exact ⟨.array [], by rw [write, List.cons_append, opens]; exact read?_emptyList rest⟩
  | cons item items =>
    obtain ⟨passItem, passOthers⟩ := List.forall_mem_cons.1 pass
    have ends : EndsNumber (writeItems layout (level + 1) items ++
        (layout.lineBreak level ++ ']' :: rest)) :=
      endsNumber_writeItems items (endsNumber_listEnd rest)
    obtain ⟨first, passed⟩ := passItem (level + 1) (.list [] :: stack) _ ends
    obtain ⟨read, others⟩ := passes_items (level + 1) level passOthers [first] rest
    refine ⟨read, ?_⟩
    simp only [write, List.cons_append, List.append_assoc, List.nil_append]
    rw [opens, read?_blanks rfl fun _ => isSpace_of_mem_lineBreak, read?_firstWritten, passed]
    exact others

theorem passes_object {members : Members} (pass : ∀ member ∈ members, Passes layout member.2) :
    Passes layout (.object members) := by
  intro level stack rest ends
  have opens (rest : List Char) : (beforeValue stack).read? .shape ('{' :: rest) =
      (firstKey stack).read? .shape rest := read?_openObject rest
  rcases members with _ | ⟨⟨key, value⟩, members⟩
  · exact ⟨.object [], by rw [write, List.cons_append, opens]; exact read?_emptyObject rest⟩
  · obtain ⟨passValue, passOthers⟩ := List.forall_mem_cons.1 pass
    have ends : EndsNumber (writeMembers layout (level + 1) members ++
        (layout.lineBreak level ++ '}' :: rest)) :=
      endsNumber_writeMembers members (endsNumber_objectEnd rest)
    obtain ⟨found, -, named⟩ := exists_read?_quotedFirstKey .shape stack key
      (layout.colon ++ (value.write layout (level + 1) ++
        (writeMembers layout (level + 1) members ++ (layout.lineBreak level ++ '}' :: rest))))
    obtain ⟨first, passed⟩ := passValue (level + 1) (.object [] found :: stack) _ ends
    obtain ⟨read, others⟩ := passes_members (level + 1) level passOthers
      (Members.insert found first []) rest
    refine ⟨read, ?_⟩
    simp only [write, List.cons_append, List.append_assoc, List.nil_append]
    rw [opens, read?_blanks rfl fun _ => isSpace_of_mem_lineBreak, named, read?_layoutColon, passed]
    exact others

/-- Every written value is passed over. -/
theorem passes (layout : Layout) (value : Json) : Passes layout value := by
  induction value using Json.induction with
  | null => exact fun level stack rest _ => ⟨.null, read?_null .shape rest⟩
  | bool b => exact fun level stack rest _ => ⟨.bool b, read?_bool .shape b rest⟩
  | number x => exact passes_number x
  | string s =>
    intro level stack rest ends
    obtain ⟨found, -, read⟩ := exists_read?_quotedString .shape stack s rest
    exact ⟨.string found, read⟩
  | array items ih => exact passes_array ih
  | object members ih => exact passes_object ih

end RecordStore.Json

import RecordStore.Document
import RecordStore.Patch
import RecordStore.Proofs.Reading
import RecordStore.Proofs.Sameness

/-! Objects keep their keys apart: whatever is read does, members being inserted one by one, and
patching a record does not change that. The reader keeps it as an invariant of the open containers
around a value. -/
namespace RecordStore
namespace Json

variable {rules : Rules} {stack : List Frame}

theorem wellKeyed_of_scalar {value : Json} (scalar : value.depth = 0) : value.WellKeyed := by
  intro members inside
  rw [part_scalar scalar] at inside
  subst inside
  cases scalar

theorem wellKeyed_insert {key : String} {value : Json} {members : Members}
    (keyed : WellKeyed (.object members)) (valued : value.WellKeyed) :
    WellKeyed (.object (members.insert key value)) := by
  obtain ⟨distinct, each⟩ := wellKeyed_object.1 keyed
  rw [wellKeyed_object]
  constructor
  · exact Members.nodup_keys_insert key value distinct
  · intro member present
    rcases Members.mem_of_mem_insert present with rfl | present
    · exact valued
    · exact each member present

/-- Whether the objects in and around an open container keep their keys apart. -/
def Frame.Keyed : Frame → Prop
  | .list before => WellKeyed (.array before)
  | .object before _ => WellKeyed (.object before)

/-- Whether all objects that were read so far keep their keys apart. -/
def State.Keyed : State → Prop
  | beforeValue stack | firstItem stack | firstKey stack | inString _ stack | inNumber _ stack =>
    ∀ frame ∈ stack, frame.Keyed
  | nextItem before stack | afterItem before stack =>
    WellKeyed (.array before) ∧ ∀ frame ∈ stack, frame.Keyed
  | nextKey before stack | inKey before _ stack | afterKey before _ stack
  | afterMember before stack => WellKeyed (.object before) ∧ ∀ frame ∈ stack, frame.Keyed
  | inWord _ _ value stack => value.WellKeyed ∧ ∀ frame ∈ stack, frame.Keyed

def Step.Keyed : Step → Prop
  | more state => state.Keyed
  | done value | stop value => value.WellKeyed
  | fault _ _ => True

/-! Each thing the reader does keeps keys apart. -/

theorem keyed_deliver {value : Json} (valued : value.WellKeyed)
    (around : ∀ frame ∈ stack, frame.Keyed) : (deliver value stack).Keyed := by
  cases stack with
  | nil => exact valued
  | cons frame stack =>
    obtain ⟨inner, outer⟩ := List.forall_mem_cons.1 around
    cases frame with
    | list before =>
      exact ⟨wellKeyed_array.2 (List.forall_mem_cons.2 ⟨valued, wellKeyed_array.1 inner⟩), outer⟩
    | object before key => exact ⟨wellKeyed_insert inner valued, outer⟩

theorem keyed_openContainer {inside : State} (keyed : inside.Keyed) :
    (openContainer rules stack inside).Keyed := by
  unfold openContainer
  split
  · trivial
  · exact keyed

theorem keyed_beginValue (around : ∀ frame ∈ stack, frame.Keyed) (c : Char) :
    (beginValue rules stack c).Keyed := by
  unfold beginValue
  split
  · exact around
  split
  · exact keyed_openContainer around
  split
  · exact keyed_openContainer around
  split
  · exact ⟨wellKeyed_of_scalar rfl, around⟩
  split
  · exact ⟨wellKeyed_of_scalar rfl, around⟩
  split
  · exact ⟨wellKeyed_of_scalar rfl, around⟩
  cases Numeral.begin? c with
  | none => trivial
  | some => exact around

theorem keyed_stepAfterItem {before : List Json} (items : WellKeyed (.array before))
    (around : ∀ frame ∈ stack, frame.Keyed) (c : Char) :
    (stepAfterItem before stack c).Keyed := by
  unfold stepAfterItem
  split
  · exact ⟨items, around⟩
  split
  · exact ⟨items, around⟩
  split
  · have reversed : WellKeyed (.array before.reverse) := by
      apply wellKeyed_array.2
      intro item present
      exact wellKeyed_array.1 items item (List.mem_reverse.1 present)
    exact keyed_deliver reversed around
  · trivial

theorem keyed_stepAfterMember {before : Members} (members : WellKeyed (.object before))
    (around : ∀ frame ∈ stack, frame.Keyed) (c : Char) :
    (stepAfterMember before stack c).Keyed := by
  unfold stepAfterMember
  split
  · exact ⟨members, around⟩
  split
  · exact ⟨members, around⟩
  split
  · exact keyed_deliver members around
  · trivial

theorem keyed_stepAfterValue {value : Json} (valued : value.WellKeyed)
    (around : ∀ frame ∈ stack, frame.Keyed) (c : Char) :
    (stepAfterValue value stack c).Keyed := by
  cases stack with
  | nil => exact valued
  | cons frame stack =>
    obtain ⟨inner, outer⟩ := List.forall_mem_cons.1 around
    cases frame with
    | list before =>
      exact keyed_stepAfterItem
        (wellKeyed_array.2 (List.forall_mem_cons.2 ⟨valued, wellKeyed_array.1 inner⟩)) outer c
    | object before key => exact keyed_stepAfterMember (wellKeyed_insert inner valued) outer c

/-- The value of a numeral is a number, or null where its range is not checked. -/
theorem wellKeyed_numberValue {numeral : Numeral} {value : Json}
    (read : numberValue rules numeral = .ok value) : value.WellKeyed := by
  unfold numberValue at read
  split at read
  · cases read
    exact wellKeyed_of_scalar rfl
  · split at read
    · cases read
    · cases read
      exact wellKeyed_of_scalar rfl
  · cases read

/-- One character keeps the invariant. -/
theorem State.keyed_step {state : State} (keyed : state.Keyed) (c : Char) :
    (state.step rules c).Keyed := by
  cases state with
  | beforeValue stack =>
    simp only [step]
    split
    · exact keyed
    · exact keyed_beginValue keyed c
  | firstItem stack =>
    simp only [step]
    split
    · exact keyed
    split
    · exact keyed_deliver (wellKeyed_array.2 (by simp)) keyed
    · have around : ∀ frame ∈ Frame.list [] :: stack, frame.Keyed :=
        List.forall_mem_cons.2 ⟨(wellKeyed_array.2 (by simp) : WellKeyed (.array [])), keyed⟩
      exact keyed_beginValue around c
  | nextItem before stack =>
    simp only [step]
    split
    · exact keyed
    split
    · trivial
    · have around : ∀ frame ∈ Frame.list before :: stack, frame.Keyed :=
        List.forall_mem_cons.2 keyed
      exact keyed_beginValue around c
  | afterItem before stack => exact keyed_stepAfterItem keyed.1 keyed.2 c
  | firstKey stack =>
    simp only [step]
    split
    · exact keyed
    split
    · exact ⟨wellKeyed_object.2 (by simp [Members.keys]), keyed⟩
    split
    · exact keyed_deliver (wellKeyed_object.2 (by simp [Members.keys])) keyed
    · trivial
  | nextKey before stack =>
    simp only [step]
    split
    · exact keyed
    split
    · exact keyed
    split <;> trivial
  | inKey before key stack =>
    simp only [step]
    cases key.step rules.checked c with
    | more | done => exact keyed
    | fault => trivial
  | afterKey before key stack =>
    simp only [step]
    split
    · exact keyed
    split
    · exact List.forall_mem_cons.2 keyed
    · trivial
  | afterMember before stack => exact keyed_stepAfterMember keyed.1 keyed.2 c
  | inString quoted stack =>
    simp only [step]
    cases quoted.step rules.checked c with
    | more => exact keyed
    | done => exact keyed_deliver (wellKeyed_of_scalar rfl) keyed
    | fault => trivial
  | inNumber numeral stack =>
    simp only [step]
    cases numeral.step rules.checked c with
    | more => exact keyed
    | fault => trivial
    | stop =>
      cases read : numberValue rules numeral with
      | ok => exact keyed_stepAfterValue (wellKeyed_numberValue read) keyed c
      | error => trivial
  | inWord next rest value stack =>
    simp only [step]
    split
    · trivial
    · cases rest with
      | nil => exact keyed_deliver keyed.1 keyed.2
      | cons => exact keyed

theorem State.wellKeyed_of_finish {state : State} {value : Json}
    (finished : state.finish rules = .ok value) : value.WellKeyed := by
  cases state with
  | inNumber numeral stack =>
    simp only [finish] at finished
    cases read : numberValue rules numeral with
    | error =>
      rw [read] at finished
      cases finished
    | ok number =>
      simp only [read, bind, Except.bind] at finished
      split at finished
      · cases finished
        exact wellKeyed_numberValue read
      · cases finished
  | _ => cases finished

/-- A whole run keeps the invariant, up to the value it reads. -/
theorem State.wellKeyed_of_read? {state : State} (keyed : state.Keyed) {text rest : List Char}
    {value : Json} (read : state.read? rules text = some (value, rest)) : value.WellKeyed := by
  induction text generalizing state with
  | nil =>
    simp only [read?, Option.map_eq_some_iff] at read
    obtain ⟨found, finished, equal⟩ := read
    cases equal
    cases ended : state.finish rules with
    | error =>
      rw [ended] at finished
      cases finished
    | ok =>
      rw [ended] at finished
      cases finished
      exact wellKeyed_of_finish ended
  | cons c text ih =>
    have stepped : (state.step rules c).Keyed := keyed_step keyed c
    simp only [read?] at read
    cases next : state.step rules c with
    | more following =>
      rw [next] at stepped read
      exact ih stepped read
    | done | stop =>
      rw [next] at stepped read
      cases read
      exact stepped
    | fault =>
      rw [next] at read
      cases read

theorem wellKeyed_of_readValue {text rest : List Char} {value : Json}
    (read : readValue rules text = .ok (value, rest)) : value.WellKeyed := by
  have found : (State.beforeValue []).read? rules text = some (value, rest) := by
    rw [← toOption_readValue, read]
    rfl
  exact State.wellKeyed_of_read? (by simp [State.Keyed]) found

theorem wellKeyed_of_ofText {text : String} {value : Json} (read : ofText text = .ok value) :
    value.WellKeyed := by
  have whole : (Json.read text.toList).toOption = some value := by
    rw [ofText] at read
    rw [read]
    rfl
  rw [toOption_read, Option.bind_eq_some_iff] at whole
  obtain ⟨⟨found, rest⟩, begins, blank⟩ := whole
  simp only [Option.ite_none_right_eq_some, Option.some.injEq] at blank
  obtain ⟨-, rfl⟩ := blank
  exact State.wellKeyed_of_read? (by simp [State.Keyed]) begins

theorem wellKeyed_of_readStart {text rest : List Char} {value : Json}
    (read : readStart text = .ok (value, rest)) : value.WellKeyed :=
  wellKeyed_of_readValue (readValue_of_readStart read)

/-! Patching. -/

theorem wellKeyed_asObject {members : Members} (keyed : WellKeyed (.object members))
    (key : String) : (asObject (members.find? key)).WellKeyed := by
  have empty : WellKeyed (.object []) := wellKeyed_object.2 (by simp [Members.keys])
  cases found : members.find? key with
  | none => exact empty
  | some value =>
    have valued : value.WellKeyed :=
      (wellKeyed_object.1 keyed).2 (key, value) (Members.mem_of_find? found)
    cases value with
    | object => exact valued
    | _ => exact empty

theorem wellKeyed_setAt {new record : Json} (newKeyed : new.WellKeyed) (keyed : record.WellKeyed)
    (path : Path) : (setAt new path record).WellKeyed := by
  induction path generalizing record with
  | nil => exact keyed
  | cons key rest ih =>
    cases record with
    | object members =>
      cases rest with
      | nil => exact wellKeyed_insert keyed newKeyed
      | cons => exact wellKeyed_insert keyed (ih (wellKeyed_asObject keyed key))
    | _ => cases rest <;> exact keyed

theorem wellKeyed_patched {patch record : Json} (patchKeyed : patch.WellKeyed)
    (keyed : record.WellKeyed) : (patch.patched record).WellKeyed := by
  cases patch with
  | object members =>
    have each := (wellKeyed_object.1 patchKeyed).2
    simp only [patched]
    -- Each member patches what the members before it made of the record.
    clear patchKeyed
    induction members generalizing record with
    | nil => exact keyed
    | cons member rest ih =>
      obtain ⟨first, others⟩ := List.forall_mem_cons.1 each
      exact ih (wellKeyed_setAt first keyed _) others
  | _ => exact keyed

end Json

/-- The records of a document keep their keys apart. -/
theorem Document.wellKeyed_of_mem_decode {text : String} {record : Json}
    (present : record ∈ decode text) : record.WellKeyed := by
  unfold decode at present
  split at present
  · next records read =>
    exact Json.wellKeyed_array.1 (Json.wellKeyed_of_ofText read) record present
  · next members read =>
    rw [List.mem_singleton.1 present]
    exact Json.wellKeyed_of_ofText read
  · cases present

end RecordStore

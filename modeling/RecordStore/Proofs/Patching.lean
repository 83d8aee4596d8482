import RecordStore.Patch

/-! Patches and the values that paths lead to. Two paths joined by a point lead to where the second
leads from where the first does. A value that is set at a path is what the path leads to, whatever
stood on the way before. Paths that part do not disturb each other: what had to make way for an
object was no object, and so nothing was to be found beyond it. -/
namespace RecordStore

namespace Path

/-- Whether two paths part: neither of them leads on from the end of the other. -/
def Apart (p q : Path) : Prop := ¬p <+: q ∧ ¬q <+: p

instance (p q : Path) : Decidable (p.Apart q) := inferInstanceAs (Decidable (_ ∧ _))

variable {p q : Path}

theorem Apart.ne_nil (apart : p.Apart q) : p ≠ [] ∧ q ≠ [] := by
  constructor
  · rintro rfl
    exact apart.1 List.nil_prefix
  · rintro rfl
    exact apart.2 List.nil_prefix

theorem apart_cons_iff (key : String) : Apart (key :: p) (key :: q) ↔ p.Apart q := by
  simp only [Apart, List.cons_prefix_cons, true_and]

theorem ofText_ne_nil (text : String) : ofText text ≠ [] := by
  simpa [ofText] using Text.splitOn_ne_nil '.' text.toList

/-- The keys of a path are those before a point and those after it, whichever point it is. -/
theorem ofText_append (first second : String) :
    ofText (first ++ "." ++ second) = ofText first ++ ofText second := by
  have whole : (first ++ "." ++ second).toList = first.toList ++ '.' :: second.toList := by simp
  rw [ofText, whole, Text.splitOn_append, List.map_append]
  rfl

example : ofText ("a." ++ "." ++ "") = ["a", "", ""] := by decide

end Path

namespace Json

variable {p q : Path} {members : Members} {key : String} {new record : Json}

/-- A joined path leads on from where its first part leads; it leads nowhere if that part does. -/
theorem at?_joined (record : Json) (first second : String) :
    record.at? (Path.ofText (first ++ "." ++ second)) =
      (record.at? (Path.ofText first)).bind (·.at? (Path.ofText second)) := by
  rw [Path.ofText_append, at?_append]

theorem setAt_key : setAt new [key] (.object members) = .object (Members.insert key new members) := rfl

theorem setAt_keys (more : p ≠ []) :
    setAt new (key :: p) (.object members) =
      .object (Members.insert key (setAt new p (asObject (Members.find? key members))) members) := by
  cases p with
  | nil => exact absurd rfl more
  | cons => rfl

theorem exists_object_of_isObject (object : record.isObject = true) :
    ∃ members, record = .object members := by
  cases record with
  | object members => exact ⟨members, rfl⟩
  | _ => cases object

theorem isObject_asObject (found : Option Json) : (asObject found).isObject = true := by
  unfold asObject
  split <;> rfl

theorem setAt_of_not_isObject (other : record.isObject = false) (p : Path) :
    setAt new p record = record := by
  cases record with
  | object => cases other
  | _ => rcases p with _ | ⟨_, _ | _⟩ <;> rfl

theorem isObject_setAt (new : Json) (p : Path) (record : Json) :
    (setAt new p record).isObject = record.isObject := by
  cases record with
  | object members => rcases p with _ | ⟨key, _ | _⟩ <;> rfl
  | _ => rw [setAt_of_not_isObject rfl]

theorem isObject_patched (patch record : Json) :
    (patch.patched record).isObject = record.isObject := by
  cases patch with
  | object members =>
    simp only [patched]
    induction members generalizing record with
    | nil => rfl
    | cons member rest ih => rw [List.foldl_cons, ih, isObject_setAt]
  | _ => rfl

theorem at?_cons_object (p : Path) :
    (Json.object members).at? (key :: p) = (Members.find? key members).bind (·.at? p) := rfl

/-- Beyond what is no object there is nothing, as beyond the empty object. -/
theorem at?_asObject (found : Option Json) (path : p ≠ []) :
    (asObject found).at? p = found.bind (·.at? p) := by
  cases p with
  | nil => exact absurd rfl path
  | cons => rcases found with _ | _ | _ | _ | _ | _ | _ <;> rfl

/-- What is set at a path is what the path leads to. -/
theorem at?_setAt (object : record.isObject = true) (path : p ≠ []) :
    (setAt new p record).at? p = some new := by
  induction p generalizing record with
  | nil => exact absurd rfl path
  | cons key rest ih =>
    obtain ⟨members, rfl⟩ := exists_object_of_isObject object
    by_cases last : rest = []
    · subst last
      rw [setAt_key, at?_cons_object, Members.find?_insert, if_pos rfl]
      rfl
    · rw [setAt_keys last, at?_cons_object, Members.find?_insert, if_pos rfl]
      exact ih (isObject_asObject _) last

/-- Setting a value leaves what other paths lead to. On a path with the same first key, what stood
there may be replaced, but then no path led through it. -/
theorem at?_setAt_of_apart (apart : p.Apart q) : (setAt new q record).at? p = record.at? p := by
  induction p generalizing q record with
  | nil => exact absurd rfl apart.ne_nil.1
  | cons key rest ih =>
    cases kind : record.isObject with
    | false => rw [setAt_of_not_isObject kind]
    | true =>
      obtain ⟨members, rfl⟩ := exists_object_of_isObject kind
      obtain ⟨other, more, rfl⟩ := List.exists_cons_of_ne_nil apart.ne_nil.2
      by_cases same : other = key
      · subst same
        have apart := (Path.apart_cons_iff other).1 apart
        rw [setAt_keys apart.ne_nil.2, at?_cons_object, at?_cons_object, Members.find?_insert,
          if_pos rfl, Option.bind_some, ih apart, at?_asObject _ apart.ne_nil.1]
      · have missed (value : Json) :
            (Json.object (Members.insert other value members)).at? (key :: rest) =
              (Json.object members).at? (key :: rest) := by
          rw [at?_cons_object, at?_cons_object, Members.find?_insert, if_neg same]
        by_cases last : more = []
        · subst last
          exact missed new
        · rw [setAt_keys last]
          exact missed _

theorem patched_append (before after : Members) (record : Json) :
    (Json.object (before ++ after)).patched record =
      (Json.object after).patched ((Json.object before).patched record) :=
  List.foldl_append

/-- Members of a patch whose keys spell other paths leave what a path leads to. -/
theorem at?_patched_of_apart (apart : ∀ member ∈ members, p.Apart (Path.ofText member.1)) :
    ((Json.object members).patched record).at? p = record.at? p := by
  induction members generalizing record with
  | nil => rfl
  | cons member rest ih =>
    obtain ⟨first, others⟩ := List.forall_mem_cons.1 apart
    calc ((Json.object (member :: rest)).patched record).at? p
      _ = (setAt member.2 (Path.ofText member.1) record).at? p := ih others
      _ = record.at? p := at?_setAt_of_apart first

/-- What a patch writes is what a condition reads: after an object is patched, each key of the patch
leads to the value that the patch has for it, unless a later key of the patch leads to something on
the way there or beyond. -/
theorem at?_patched_of_last {before after : Members} {key : String} {value record : Json}
    (object : record.isObject = true)
    (last : ∀ later ∈ after, (Path.ofText key).Apart (Path.ofText later.1)) :
    ((Json.object (before ++ (key, value) :: after)).patched record).at? (Path.ofText key) =
      some value := by
  have reached : ((Json.object before).patched record).isObject = true := by
    rw [isObject_patched, object]
  calc ((Json.object (before ++ (key, value) :: after)).patched record).at? (Path.ofText key)
    _ = ((Json.object after).patched (setAt value (Path.ofText key)
          ((Json.object before).patched record))).at? (Path.ofText key) := by
        rw [patched_append]
        rfl
    _ = (setAt value (Path.ofText key) ((Json.object before).patched record)).at?
          (Path.ofText key) := at?_patched_of_apart last
    _ = some value := at?_setAt reached (Path.ofText_ne_nil key)

theorem at?_patched_of_last_dots :
    let record : Json := .object [("a", .array []), ("b", .null)]
    let before : Members := [("a.", .bool false), ("b.c", .null)]
    let after : Members := [("a.b", .bool true), ("", .string "a"), (".", .null)]
    Path.ofText "a..b" = ["a", "", "b"] ∧
      ((Json.object (before ++ ("a..b", .string "x") :: after)).patched record).at?
        (Path.ofText "a..b") = some (.string "x") := by
  intro record before after
  have last : ∀ later ∈ after, (Path.ofText "a..b").Apart (Path.ofText later.1) := by decide
  exact ⟨rfl, at?_patched_of_last rfl last⟩

end Json
end RecordStore

import RecordStore.Condition.Encoding
import RecordStore.Proofs.Distinctness
import RecordStore.Proofs.Passing
import RecordStore.Proofs.Persistence

/-! Decoding what was encoded. An encoded condition decodes to itself, in either layout, with its
members in any order and among any members of other keys; what is decoded so far depends on the keys
that were seen alone. No two conditions have one encoding. -/
namespace RecordStore.Condition
open Json (Layout EndsNumber isSpace quoted)

namespace Decoder

variable {blanks : List Char}

theorem skipSpaces_append (blank : ∀ c ∈ blanks, isSpace c = true) (text : List Char) :
    skipSpaces (blanks ++ text) = skipSpaces text :=
  List.dropWhile_append_of_pos blank

theorem skipSpaces_cons {c : Char} (solid : isSpace c = false) (rest : List Char) :
    skipSpaces (c :: rest) = c :: rest :=
  List.dropWhile_cons_of_neg (by simp [solid])

theorem skipSpaces_lineBreak (layout : Layout) (level : Nat) (text : List Char) :
    skipSpaces (layout.lineBreak level ++ text) = skipSpaces text :=
  skipSpaces_append (fun _ => Json.isSpace_of_mem_lineBreak) text

theorem blank_gap (layout : Layout) : ∀ c ∈ layout.colon.tail, isSpace c = true := by
  cases layout with
  | compact => exact List.forall_mem_nil _
  | indented => exact List.forall_mem_singleton.2 rfl

theorem expect?_colon (layout : Layout) (rest : List Char) :
    expect? ':' (layout.colon ++ rest) = some (layout.colon.tail ++ rest) := by
  cases layout <;> rfl

/-! The parts of a condition. -/

theorem value?_append (rules : Json.Rules) (blank : ∀ c ∈ blanks, isSpace c = true)
    (text : List Char) : value? rules (blanks ++ text) = value? rules text := by
  simp only [value?, Json.toOption_readValue]
  exact Json.State.read?_blanks rfl blank text

theorem string?_quoted (blank : ∀ c ∈ blanks, isSpace c = true) (s : String)
    (rest : List Char) : string? (blanks ++ (quoted s ++ rest)) = some (s, rest) := by
  have read : value? payloadRules (quoted s ++ rest) = some (.string s, rest) := by
    rw [value?, Json.toOption_readValue]
    exact Json.State.read?_quotedString s rest
  rw [string?, value?_append _ blank, read]

/-- The value inside an encoded condition comes back as its echo, two containers further in. -/
theorem value?_write (value : Json) (layout : Layout) (level : Nat) {rest : List Char}
    (ends : EndsNumber rest) : value? payloadRules (value.write layout level ++ rest) =
      (value.echo? (some 125) 0).map fun echo => (echo, rest) := by
  have whole := Json.comesBack (some 125) layout value level [] rest ends
  rw [value?, Json.toOption_readValue, payloadRules, whole, List.length_nil]
  cases value.echo? (some 125) 0 <;> rfl

theorem exists_value?_shape (value : Json) (layout : Layout) (level : Nat) {rest : List Char}
    (ends : EndsNumber rest) :
    ∃ read, value? .shape (value.write layout level ++ rest) = some (read, rest) := by
  obtain ⟨read, passed⟩ := Json.passes layout value level [] rest ends
  exact ⟨read, by rw [value?, Json.toOption_readValue, passed]; rfl⟩

section
variable {α : Type} (bare : String → Option α)
  (payload : String → List Char → Option (α × List Char))

/-- A variant without payload is its name. -/
theorem variant?_quoted (blank : ∀ c ∈ blanks, isSpace c = true) (name : String)
    (rest : List Char) : variant? bare payload (blanks ++ (quoted name ++ rest)) =
      (bare name).map fun found => (found, rest) := by
  obtain ⟨more, text⟩ : ∃ more, quoted name ++ rest = '"' :: more := ⟨_, rfl⟩
  have first : skipSpaces (blanks ++ (quoted name ++ rest)) = '"' :: more := by
    rw [skipSpaces_append blank, text, skipSpaces_cons rfl]
  simp only [variant?, first, string?_quoted blank, Option.bind_eq_bind, Option.bind_some]
  cases bare name <;> rfl

/-- A variant with payload is an object of one member, the payload under its name. -/
theorem variant?_object (blank : ∀ c ∈ blanks, isSpace c = true) (name : String) (value : Json)
    (layout : Layout) (level : Nat) (rest : List Char) :
    variant? bare payload
        (blanks ++ ((Json.object [(name, value)]).write layout level ++ rest)) =
      (payload name (layout.colon.tail ++ (value.write layout (level + 1) ++
        (layout.lineBreak level ++ '}' :: rest)))).bind fun found =>
          (expect? '}' found.2).map fun rest => (found.1, rest) := by
  have first (inside : List Char) : skipSpaces (blanks ++ '{' :: inside) = '{' :: inside := by
    rw [skipSpaces_append blank, skipSpaces_cons rfl]
  have named (after : List Char) :
      string? (layout.lineBreak (level + 1) ++ (quoted name ++ after)) = some (name, after) :=
    string?_quoted (fun _ => Json.isSpace_of_mem_lineBreak) name after
  simp only [Json.write, Json.writeMembers, List.cons_append, List.append_assoc,
    List.nil_append, variant?, first, named, expect?_colon, Option.bind_eq_bind, Option.bind_some]
  congr 1
  funext found
  cases expect? '}' found.2 <;> rfl

end

theorem operator?_write (blank : ∀ c ∈ blanks, isSpace c = true) (op : Operator)
    (rest : List Char) : operator? (blanks ++ (quoted op.name ++ rest)) = some (op, rest) := by
  rw [operator?, variant?_quoted _ _ blank, Operator.ofName?_name, Option.map_some]

/-- What an operand comes back as from inside an encoded condition. -/
def operandEcho? : Operand → Option Operand
  | .undefined => some .undefined
  | .json value => (value.echo? (some 125) 0).map .json

theorem operand?_write (blank : ∀ c ∈ blanks, isSpace c = true) (operand : Operand)
    (layout : Layout) (level : Nat) (rest : List Char) :
    operand? (blanks ++ ((operandJson operand).write layout level ++ rest)) =
      (operandEcho? operand).map fun echo => (echo, rest) := by
  cases operand with
  | undefined => exact variant?_quoted _ _ blank "Undefined" rest
  | json value =>
    have closed : expect? '}' (layout.lineBreak level ++ '}' :: rest) = some rest := by
      rw [expect?, skipSpaces_lineBreak, skipSpaces_cons rfl]
      rfl
    have other : "Json" ≠ "Undefined" := by decide
    rw [operand?, operandJson, variant?_object _ _ blank, if_neg other, if_pos rfl,
      value?_append _ (blank_gap layout), value?_write value _ _ (Json.endsNumber_objectEnd rest)]
    cases echo : value.echo? (some 125) 0 <;> simp [operandEcho?, echo, closed]

/-! The members of a condition. -/

/-- The keys that the members of an encoded condition have. -/
def partKeys : List String := ["field", "operator", "value"]

/-- The parts of a condition that are known once some keys were seen, for what its operand comes
back as. -/
def Parts.seen (c : Condition) (echo : Operand) (keys : List String) : Parts where
  field := if "field" ∈ keys then some c.field else none
  operator := if "operator" ∈ keys then some c.operator else none
  operand := if "value" ∈ keys then some echo else none

end Decoder

/-- The members of an encoded condition, in the order in which they are written. -/
def members (c : Condition) : Members :=
  [("field", .string c.field), ("operator", .string c.operator.name),
    ("value", operandJson c.operand)]

namespace Decoder

variable {c : Condition} {echo : Operand} {seen : List String} {member : String × Json}
  {members : Members} (layout : Layout) (level : Nat)

/-- The text of a member on its line, with what follows it. -/
def memberText (member : String × Json) (rest : List Char) : List Char :=
  layout.lineBreak level ++ (quoted member.1 ++ (layout.colon ++
    (member.2.write layout level ++ rest)))

theorem string?_lineBreak (s : String) (rest : List Char) :
    string? (layout.lineBreak level ++ (quoted s ++ rest)) = some (s, rest) :=
  string?_quoted (fun _ => Json.isSpace_of_mem_lineBreak) s rest

/-- The operand is taken into the parts as its echo, and nothing is read if it has none. -/
theorem member?_operand (fresh : "value" ∉ seen) (rest : List Char) :
    member? (.seen c echo seen) (memberText layout level ("value", operandJson c.operand) rest) =
      (operandEcho? c.operand).map fun echo => (.seen c echo ("value" :: seen), rest) := by
  simp only [member?, memberText, string?_lineBreak, expect?_colon,
    operand?_write (blank_gap layout), Option.bind_eq_bind, Option.bind_some]
  cases operandEcho? c.operand <;> simp [Parts.seen, fresh]

/-- Each part of a condition has its key once, and no other member has one of these keys. -/
structure Complete (c : Condition) (seen : List String) (members : Members) : Prop where
  given : ∀ member ∈ members, member ∈ c.members ∨ member.1 ∉ partKeys
  once : ∀ key ∈ partKeys, (seen ++ members.keys).count key = 1

theorem Complete.tail (complete : Complete c seen (member :: members)) :
    Complete c (member.1 :: seen) members where
  given other present := complete.given other (List.mem_cons_of_mem _ present)
  once key part := by
    rw [← complete.once key part]
    exact (List.perm_middle).count_eq key |>.symm

theorem Complete.fresh (complete : Complete c seen (member :: members))
    (part : member.1 ∈ partKeys) : member.1 ∉ seen := by
  intro again
  have once := complete.once member.1 part
  have early := List.count_pos_iff.2 again
  simp only [Members.keys, List.map_cons, List.count_append, List.count_cons_self] at once
  omega

/-- Where no member is left, all keys were seen. -/
theorem Complete.seen_nil (complete : Complete c seen []) : ∀ key ∈ partKeys, key ∈ seen := by
  intro key part
  have once := complete.once key part
  rw [Members.keys, List.map_nil, List.append_nil] at once
  exact List.count_pos_iff.1 (by omega)

theorem Complete.eq_operand (complete : Complete c seen (member :: members))
    (key : member.1 = "value") : member = ("value", operandJson c.operand) := by
  have part : member.1 ∈ partKeys := by simp [key, partKeys]
  have own := (complete.given member List.mem_cons_self).resolve_right (fun other => other part)
  simp only [Condition.members, List.mem_cons, List.not_mem_nil, or_false] at own
  rcases own with rfl | rfl | rfl
  · simp at key
  · simp at key
  · rfl

/-- Any other member is taken into the parts, or passed over if it is none of them. -/
theorem member?_other (complete : Complete c seen (member :: members)) (other : member.1 ≠ "value")
    {rest : List Char} (ends : EndsNumber rest) :
    member? (.seen c echo seen) (memberText layout level member rest) =
      some (.seen c echo (member.1 :: seen), rest) := by
  have fresh := complete.fresh
  simp only [member?, memberText, string?_lineBreak, expect?_colon, Option.bind_eq_bind,
    Option.bind_some]
  rcases complete.given member List.mem_cons_self with own | unknown
  · simp only [Condition.members, List.mem_cons, List.not_mem_nil, or_false] at own
    rcases own with rfl | rfl | rfl
    · simp [Parts.seen, fresh (by simp [partKeys]), Json.write, string?_quoted (blank_gap layout)]
    · simp [Parts.seen, fresh (by simp [partKeys]), Json.write, operator?_write (blank_gap layout)]
    · exact absurd rfl other
  · simp only [partKeys, List.mem_cons, List.not_mem_nil, or_false, not_or] at unknown
    obtain ⟨read, passed⟩ := exists_value?_shape member.2 layout level ends
    simp [Parts.seen, unknown, Ne.symm unknown.1, Ne.symm unknown.2.1, Ne.symm unknown.2.2,
      value?_append _ (blank_gap layout), passed]

/-- With an operand that comes back, any member adds its key to those that were seen. -/
theorem member?_write (echoes : operandEcho? c.operand = some echo)
    (complete : Complete c seen (member :: members)) {rest : List Char} (ends : EndsNumber rest) :
    member? (.seen c echo seen) (memberText layout level member rest) =
      some (.seen c echo (member.1 :: seen), rest) := by
  by_cases key : member.1 = "value"
  · have fresh := complete.fresh (by simp [key, partKeys])
    rw [complete.eq_operand key] at fresh ⊢
    rw [member?_operand layout level fresh, echoes, Option.map_some]
  · exact member?_other layout level complete key ends

section
variable (outer : Nat) (rest : List Char)

/-- The text of a member and of those behind it, up to the end of the object and what follows. -/
def membersText (member : String × Json) (members : Members) : List Char :=
  memberText layout level member
    (Json.writeMembers layout level members ++ (layout.lineBreak outer ++ '}' :: rest))

/-- What is read of a member decides what is read of those behind it. -/
theorem members?_cons {parts known : Parts} {next : String × Json} (fuel : Nat)
    (read : ∀ rest, EndsNumber rest →
      member? parts (memberText layout level member rest) = some (known, rest)) :
    members? (fuel + 1) parts (membersText layout level outer rest member (next :: members)) =
      members? fuel known (membersText layout level outer rest next members) := by
  obtain ⟨key, value⟩ := next
  have comma (text : List Char) : skipSpaces (',' :: text) = ',' :: text :=
    skipSpaces_cons rfl text
  rw [members?, membersText,
    read _ (Json.endsNumber_writeMembers _ (Json.endsNumber_objectEnd rest))]
  simp only [membersText, memberText, Json.writeMembers, List.cons_append, List.append_assoc,
    comma, Option.bind_eq_bind, Option.bind_some]

theorem members?_nil {parts known : Parts} (fuel : Nat)
    (read : ∀ rest, EndsNumber rest →
      member? parts (memberText layout level member rest) = some (known, rest)) :
    members? (fuel + 1) parts (membersText layout level outer rest member []) =
      some (known, rest) := by
  have close : skipSpaces (layout.lineBreak outer ++ '}' :: rest) = '}' :: rest := by
    rw [skipSpaces_lineBreak, skipSpaces_cons rfl]
  rw [members?, membersText, Json.writeMembers, List.nil_append,
    read _ (Json.endsNumber_objectEnd rest)]
  simp only [close, Option.bind_eq_bind, Option.bind_some]
  rfl

/-- With an operand that comes back, every member is read, and in the end all parts are known. -/
theorem members?_write (echoes : operandEcho? c.operand = some echo)
    (complete : Complete c seen (member :: members)) {fuel : Nat} (enough : members.length < fuel) :
    members? fuel (.seen c echo seen) (membersText layout level outer rest member members) =
      some (⟨some c.field, some c.operator, some echo⟩, rest) := by
  induction members generalizing member seen fuel with
  | nil =>
    obtain ⟨fuel, rfl⟩ := Nat.exists_eq_add_one_of_ne_zero (Nat.ne_zero_of_lt enough)
    have all := complete.tail.seen_nil
    rw [members?_nil layout level outer rest fuel fun rest ends =>
      member?_write layout level echoes complete ends]
    simp only [Parts.seen, all "field" (by decide), all "operator" (by decide),
      all "value" (by decide), if_true]
  | cons next members ih =>
    obtain ⟨fuel, rfl⟩ := Nat.exists_eq_add_one_of_ne_zero (Nat.ne_zero_of_lt enough)
    rw [members?_cons layout level outer rest fuel fun rest ends =>
      member?_write layout level echoes complete ends]
    exact ih complete.tail (Nat.lt_of_succ_lt_succ enough)

/-- With an operand that does not come back, reading ends at the latest with the operand. -/
theorem members?_eq_none (echoes : operandEcho? c.operand = none)
    (complete : Complete c seen (member :: members)) (later : "value" ∉ seen) (fuel : Nat) :
    members? fuel (.seen c echo seen) (membersText layout level outer rest member members) =
      none := by
  have refused {members : Members} {fuel : Nat} {seen : List String} (later : "value" ∉ seen) :
      members? (fuel + 1) (.seen c echo seen) (membersText layout level outer rest
        ("value", operandJson c.operand) members) = none := by
    rw [members?, membersText, member?_operand layout level later, echoes]
    rfl
  -- The invariant is `later`: as long as the operand was not seen, its member is still to come.
  induction members generalizing member seen fuel with
  | nil =>
    have last : member.1 = "value" := by
      have all := complete.tail.seen_nil "value" (by decide)
      exact ((List.mem_cons.1 all).resolve_right later).symm
    cases fuel with
    | zero => rfl
    | succ fuel =>
      rw [complete.eq_operand last]
      exact refused later
  | cons next members ih =>
    cases fuel with
    | zero => rfl
    | succ fuel =>
      by_cases key : member.1 = "value"
      · rw [complete.eq_operand key]
        exact refused later
      · rw [members?_cons layout level outer rest fuel fun rest ends =>
          member?_other layout level complete key ends]
        exact ih complete.tail (by simp [later, Ne.symm key]) fuel

end

theorem length_le_writeMembers (members : Members) :
    members.length ≤ (Json.writeMembers layout level members).length := by
  induction members with
  | nil => exact Nat.zero_le _
  | cons member members ih =>
    obtain ⟨key, value⟩ := member
    simp only [Json.writeMembers, List.cons_append, List.append_assoc, List.length_cons,
      List.length_append]
    omega

theorem decode?_object (complete : Complete c [] (member :: members)) :
    decode? ((Json.object (member :: members)).write layout level) =
      (operandEcho? c.operand).map fun echo => { c with operand := echo } := by
  have text : (Json.object (member :: members)).write layout level =
      '{' :: membersText layout (level + 1) level [] member members := by
    obtain ⟨key, value⟩ := member
    simp only [Json.write, membersText, memberText, List.cons_append, List.append_assoc]
  have enough :
      members.length < (membersText layout (level + 1) level [] member members).length := by
    have := length_le_writeMembers layout (level + 1) members
    simp only [membersText, memberText, List.length_append, quoted, List.length_cons]
    omega
  have first (inside : List Char) : skipSpaces ('{' :: inside) = '{' :: inside :=
    skipSpaces_cons rfl inside
  have start (echo : Operand) : Parts.seen c echo [] = ⟨none, none, none⟩ := rfl
  rw [text]
  simp only [decode?, first, object?, Option.bind_eq_bind]
  cases echoes : operandEcho? c.operand with
  | none =>
    have none (fuel : Nat) : members? fuel (.seen c .undefined [])
        (membersText layout (level + 1) level [] member members) = none :=
      members?_eq_none layout (level + 1) level [] echoes complete (by simp) fuel
    rw [start] at none
    rw [none]
    rfl
  | some echo =>
    have all := members?_write layout (level + 1) level [] echoes complete enough
    rw [start] at all
    rw [all]
    rfl

theorem complete_of_perm {others : Members} (arranged : members.Perm (c.members ++ others))
    (unknown : ∀ other ∈ others, other.1 ∉ partKeys) : Complete c [] members where
  given member present :=
    (List.mem_append.1 (arranged.mem_iff.1 present)).imp_right (unknown member)
  once key part := by
    have absent : (others.map Prod.fst).count key = 0 := by
      rw [List.count_eq_zero, List.mem_map]
      rintro ⟨other, present, rfl⟩
      exact unknown other present part
    have distinct : ∀ key ∈ partKeys, partKeys.count key = 1 := by decide
    calc (Members.keys members).count key
        = (c.members ++ others).keys.count key := (arranged.map Prod.fst).count_eq key
      _ = partKeys.count key + (others.map Prod.fst).count key := by
          rw [Members.keys, List.map_append, List.count_append]
          rfl
      _ = 1 := by rw [absent, distinct key part]

end Decoder

/-- An encoded condition decodes to what its operand comes back as, with its members in any order
and among any others. -/
theorem decode?_of_perm {c : Condition} {members others : Members}
    (arranged : members.Perm (c.members ++ others))
    (unknown : ∀ other ∈ others, other.1 ∉ Decoder.partKeys) (layout : Layout) (level : Nat) :
    decode? ((Json.object members).write layout level) =
      (Decoder.operandEcho? c.operand).map fun echo => { c with operand := echo } := by
  have complete := Decoder.complete_of_perm arranged unknown
  cases members with
  | nil => cases arranged.nil_eq
  | cons member members => exact Decoder.decode?_object layout level complete

/-- An operand of integers comes back as it is, unless the condition is too deep. -/
theorem operandEcho?_of_integral {c : Condition} (keyed : c.toJson.WellKeyed)
    (integral : c.toJson.Integral) : Decoder.operandEcho? c.operand =
      if c.toJson.depth ≤ 127 then some c.operand else none := by
  obtain ⟨field, op, operand⟩ := c
  cases operand with
  | undefined => rfl
  | json value =>
    have inside {part : Json} (within : Json.Part part value) :
        Json.Part part (toJson ⟨field, op, .json value⟩) := by
      simp [toJson, operandJson, within]
    have depth : (toJson ⟨field, op, .json value⟩).depth = value.depth + 2 := by
      simp [toJson, operandJson, Json.depth, Json.membersDepth]
    rw [depth, Decoder.operandEcho?]
    split
    · have back : value.echo? (some 125) 0 = some value := by
        refine Json.echo?_self value (fun members within => keyed members (inside within)) ?_ ?_
        · rintro _ ⟨⟩
          omega
        · intro x within
          obtain ⟨n, fits, rfl⟩ := integral x (inside within)
          exact Number.echo?_integer n fits
      rw [back, Option.map_some]
    · rw [Json.echo?_of_deep value (by omega) (by decide), Option.map_none]

theorem operandJson_injective {a b : Operand} (same : operandJson a = operandJson b) : a = b := by
  cases a <;> cases b <;> simp_all [operandJson]

theorem toJson_injective {a b : Condition} (same : a.toJson = b.toJson) : a = b := by
  obtain ⟨field, op, operand⟩ := a
  obtain ⟨other, op', operand'⟩ := b
  simp only [toJson, Json.object.injEq, List.cons.injEq, Prod.mk.injEq, true_and, and_true,
    Json.string.injEq] at same
  obtain ⟨rfl, name, operands⟩ := same
  have ops := congrArg Operator.ofName? name
  rw [Operator.ofName?_name, Operator.ofName?_name] at ops
  cases ops
  rw [operandJson_injective operands]

/-- A condition whose objects keep their keys apart, as all that were read do, and whose numbers are
integers decodes to itself from its JSON text, exactly if the text is no deeper than the reader
goes. So it does with its members in any order and among any members of other keys, whatever these
hold. And no two conditions have one text. -/
theorem decode?_toJson (c : Condition) (layout : Layout) :
    (c.toJson.WellKeyed → c.toJson.Integral →
      decode? (c.toJson.write layout 0) = (if c.toJson.depth ≤ 127 then some c else none) ∧
      ∀ members others : Members, members.Perm (c.members ++ others) →
        (∀ other ∈ others, other.1 ∉ Decoder.partKeys) →
        decode? ((Json.object members).write layout 0) =
          if c.toJson.depth ≤ 127 then some c else none) ∧
    ∀ d : Condition, d.toJson.write layout 0 = c.toJson.write layout 0 → d = c := by
  constructor
  · intro keyed integral
    have back (members others : Members) (arranged : members.Perm (c.members ++ others))
        (unknown : ∀ other ∈ others, other.1 ∉ Decoder.partKeys) :
        decode? ((Json.object members).write layout 0) =
          if c.toJson.depth ≤ 127 then some c else none := by
      rw [decode?_of_perm arranged unknown, operandEcho?_of_integral keyed integral]
      split <;> rfl
    have own : c.members.Perm (c.members ++ []) := by rw [List.append_nil]
    exact ⟨back c.members [] own (by simp), back⟩
  · intro d same
    exact toJson_injective (Json.eq_of_write same)

theorem decode?_toJson_rearranged :
    let c : Condition := ⟨"a.\"b\"\n", .startsWith, .json (.object [("Json", .string "Undefined"),
      ("n", .array [.number (.integer (-9223372036854775808) (by decide)), .null])])⟩
    let others : Members := [("Field", .null), ("note", .number (.double (.powerOfTen 308)))]
    decode? ((Json.object (c.members ++ others).reverse).write .compact 0) = some c := by
  intro c others
  have keyed : c.toJson.WellKeyed := by
    simp [c, toJson, operandJson, Json.WellKeyed, Members.keys]
  have integral : c.toJson.Integral := by
    simp [c, toJson, operandJson, Json.Integral]
  have unknown : ∀ other ∈ others, other.1 ∉ Decoder.partKeys := by
    simp [others, Decoder.partKeys]
  have shallow : c.toJson.depth ≤ 127 := by decide
  have back := ((decode?_toJson c .compact).1 keyed integral).2 _ others (List.reverse_perm _)
    unknown
  rwa [if_pos shallow] at back

example : [Operand.undefined, .json .null, .json (.string "Undefined")].map
    (fun operand => (operandJson operand).compactText) =
      ["\"Undefined\"", "\x7b\"Json\":null\x7d", "\x7b\"Json\":\"Undefined\"\x7d"] := by
  decide

end RecordStore.Condition

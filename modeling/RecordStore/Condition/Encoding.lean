import RecordStore.Condition.Basic
import RecordStore.Json.Reader

/-! Conditions as JSON: an object of field, operator and value, where a variant without payload is
its name and a variant with payload is an object of one member. Decoding takes the members in any
order, passes over members it does not know by their shape alone, and refuses a repeated or missing
one; it also takes the three parts as an array. -/
namespace RecordStore.Condition

def operandJson : Operand → Json
  | .undefined => .string "Undefined"
  | .json value => .object [("Json", value)]

def toJson (c : Condition) : Json :=
  .object [("field", .string c.field), ("operator", .string c.operator.name),
    ("value", operandJson c.operand)]

namespace Decoder

/-- How deep the value inside an encoded condition may be: two containers are around it. -/
def payloadRules : Json.Rules := ⟨some 125, true⟩

def skipSpaces (text : List Char) : List Char := text.dropWhile Json.isSpace

def expect? (c : Char) (text : List Char) : Option (List Char) :=
  match skipSpaces text with
  | d :: rest => if c = d then some rest else none
  | [] => none

def value? (rules : Json.Rules) (text : List Char) : Option (Json × List Char) :=
  (Json.readValue rules text).toOption

def string? (text : List Char) : Option (String × List Char) :=
  match value? payloadRules text with
  | some (.string s, rest) => some (s, rest)
  | _ => none

def null? (text : List Char) : Option (List Char) :=
  match value? payloadRules text with
  | some (.null, rest) => some rest
  | _ => none

/-- A variant: its name alone, or an object with its name and payload. -/
def variant? {α : Type} (bare : String → Option α)
    (payload : String → List Char → Option (α × List Char)) (text : List Char) :
    Option (α × List Char) :=
  match skipSpaces text with
  | '"' :: _ => do
    let (name, rest) ← string? text
    return (← bare name, rest)
  | '{' :: inside => do
    let (name, rest) ← string? inside
    let rest ← expect? ':' rest
    let (result, rest) ← payload name rest
    return (result, ← expect? '}' rest)
  | _ => none

def operator? : List Char → Option (Operator × List Char) :=
  variant? Operator.ofName? fun name text => do
    let op ← Operator.ofName? name
    return (op, ← null? text)

def operand? : List Char → Option (Operand × List Char) :=
  variant? (fun name => if name = "Undefined" then some .undefined else none) fun name text =>
    if name = "Undefined" then (null? text).map fun rest => (.undefined, rest)
    else if name = "Json" then
      (value? payloadRules text).map fun (value, rest) => (.json value, rest)
    else none

structure Parts where
  field : Option String
  operator : Option Operator
  operand : Option Operand

def member? (parts : Parts) (text : List Char) : Option (Parts × List Char) := do
  let (key, rest) ← string? text
  let rest ← expect? ':' rest
  if key = "field" then
    if parts.field.isSome then none
    let (field, rest) ← string? rest
    return ({ parts with field := some field }, rest)
  else if key = "operator" then
    if parts.operator.isSome then none
    let (operator, rest) ← operator? rest
    return ({ parts with operator := some operator }, rest)
  else if key = "value" then
    if parts.operand.isSome then none
    let (operand, rest) ← operand? rest
    return ({ parts with operand := some operand }, rest)
  else
    let (_, rest) ← value? .shape rest
    return (parts, rest)

/-- Members up to the closing brace; `fuel` bounds their number. -/
def members? : Nat → Parts → List Char → Option (Parts × List Char)
  | 0, _, _ => none
  | fuel + 1, parts, text => do
    let (parts, rest) ← member? parts text
    match skipSpaces rest with
    | ',' :: rest => members? fuel parts rest
    | '}' :: rest => return (parts, rest)
    | _ => none

def object? (inside : List Char) : Option (Condition × List Char) := do
  let (parts, rest) ← members? inside.length ⟨none, none, none⟩ inside
  return (⟨← parts.field, ← parts.operator, ← parts.operand⟩, rest)

def array? (inside : List Char) : Option (Condition × List Char) := do
  let (field, rest) ← string? inside
  let (operator, rest) ← operator? (← expect? ',' rest)
  let (operand, rest) ← operand? (← expect? ',' rest)
  return (⟨field, operator, operand⟩, ← expect? ']' rest)

end Decoder

def decode? (text : List Char) : Option Condition := do
  let (condition, rest) ← match Decoder.skipSpaces text with
    | '{' :: inside => Decoder.object? inside
    | '[' :: inside => Decoder.array? inside
    | _ => none
  if (Decoder.skipSpaces rest).isEmpty then some condition else none

end RecordStore.Condition
